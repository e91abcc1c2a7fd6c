import Mathlib.Data.List.Basic
import Sequitur.Json.Printer
import Sequitur.Json.Reader

/-!
# Tokens of JSON texts

String literals and numbers as they are written are read back, whatever stands behind them: the end
of a literal is marked, and the end of a number is seen by the next symbol.

## What is here

* `Json.literal?_literal` — a literal, also the one that denotes no text.
* `Json.Numeral.WellFormed`, `Json.numeral?_chars` — a number that is spelled as one.
-/

set_option autoImplicit false

namespace Sequitur

namespace Json

variable {c : Char} {cs : List Char} {rest : List Symbol}

/-! ## String literals -/

theorem hexValue?_hexDigit (n : Nat) : hexValue? (.char (hexDigit n)) = some (n % 16) := by
  have hdigit : ∀ d < 16, (Text.hexDigit? (Nat.digitChar d)).map Fin.val = some d := by decide
  exact hdigit (n % 16) (Nat.mod_lt n (by decide))

theorem pieceChars?_char (c : Char) (ps : List Piece) :
    pieceChars? (.char c :: ps) = (pieceChars? ps).map (c :: ·) := by
  rw [pieceChars?]
  cases pieceChars? ps <;> rfl

/-- A code unit that is no surrogate denotes its character. -/
theorem pieceChars?_unit {n : Nat} (hn : n < 0xD800) (ps : List Piece) :
    pieceChars? (.unit n :: ps) = (pieceChars? ps).map (Char.ofNat n :: ·) := by
  have hhigh : isHighSurrogate n = false := by
    simp [isHighSurrogate]
    omega
  have hlow : isLowSurrogate n = false := by
    simp [isLowSurrogate]
    omega
  cases ps with
  | nil => simp [pieceChars?, hhigh, hlow]
  | cons p ps =>
    cases p with
    | unit m =>
      rw [pieceChars?, hhigh, hlow]
      cases pieceChars? (.unit m :: ps) <;> rfl
    | char d =>
      simp only [pieceChars?, hhigh, hlow, Bool.or_self, Bool.false_eq_true, if_false]
      cases pieceChars? ps <;> rfl
    | stray => simp [pieceChars?, hhigh, hlow]

/-- An escape by one letter is one piece. -/
theorem pieces?_letter {e : Char} (he : e ≠ 'u') (hc : escapeLetter? e = some c) :
    pieces? (.char '\\' :: .char e :: rest) =
      (pieces? rest).map fun found ↦ (.char c :: found.1, found.2) := by
  rw [pieces?, hc]
  · cases pieces? rest <;> rfl
  · intros
    exact he ‹_›

/-- An escape by the four digits of a code below `0x100` is one piece. -/
theorem pieces?_digits {n : Nat} (hn : n < 0x100) :
    pieces? (.char '\\' :: .char 'u' :: .char '0' :: .char '0' :: .char (hexDigit (n / 16)) ::
        .char (hexDigit n) :: rest) =
      (pieces? rest).map fun found ↦ (.unit n :: found.1, found.2) := by
  have hzero : hexValue? (.char '0') = some 0 := rfl
  have hvalue : ((0 * 16 + 0) * 16 + n / 16 % 16) * 16 + n % 16 = n := by omega
  rw [pieces?, hexValue?_hexDigit, hexValue?_hexDigit, hzero]
  simp only [Option.bind_eq_bind, Option.bind_some, hvalue]
  cases pieces? rest <;> rfl

/-- A character that is not escaped is one piece. -/
theorem pieces?_plain (hquote : c ≠ '"') (hbackslash : c ≠ '\\') (hcontrol : ¬ c.toNat < 0x20) :
    pieces? (.char c :: rest) =
      (pieces? rest).map fun found ↦ (.char c :: found.1, found.2) := by
  rw [pieces?, if_neg hcontrol]
  · cases pieces? rest <;> rfl
  · exact hquote
  · intros
    exact hbackslash ‹_›
  · intros
    exact hbackslash ‹_›
  · exact hbackslash

/-- What is written for a character is read as one piece, which denotes the character. -/
theorem pieces?_escape (c : Char) (rest : List Symbol) :
    ∃ p : Piece, pieces? ((escape c).map .char ++ rest) =
        (pieces? rest).map (fun found ↦ (p :: found.1, found.2)) ∧
      ∀ ps, pieceChars? (p :: ps) = (pieceChars? ps).map (c :: ·) := by
  rw [escape]
  split_ifs with hquote hbackslash hback hfeed hline hreturn htab hcontrol
  · exact ⟨.char c, pieces?_letter (by decide) (by rw [hquote]; rfl), pieceChars?_char c⟩
  · exact ⟨.char c, pieces?_letter (by decide) (by rw [hbackslash]; rfl), pieceChars?_char c⟩
  · exact ⟨.char c, pieces?_letter (by decide) (by rw [hback]; rfl), pieceChars?_char c⟩
  · exact ⟨.char c, pieces?_letter (by decide) (by rw [hfeed]; rfl), pieceChars?_char c⟩
  · exact ⟨.char c, pieces?_letter (by decide) (by rw [hline]; rfl), pieceChars?_char c⟩
  · exact ⟨.char c, pieces?_letter (by decide) (by rw [hreturn]; rfl), pieceChars?_char c⟩
  · exact ⟨.char c, pieces?_letter (by decide) (by rw [htab]; rfl), pieceChars?_char c⟩
  · refine ⟨.unit c.toNat, pieces?_digits (by omega), fun ps ↦ ?_⟩
    rw [pieceChars?_unit (by omega), Char.ofNat_toNat]
  · exact ⟨.char c, pieces?_plain hquote hbackslash hcontrol, pieceChars?_char c⟩

theorem pieces?_flatMap_escape (cs : List Char) (rest : List Symbol) :
    ∃ ps, pieces? ((cs.flatMap escape ++ ['"']).map .char ++ rest) = some (ps, rest) ∧
      pieceChars? ps = some cs := by
  induction cs with
  | nil => exact ⟨[], rfl, rfl⟩
  | cons c cs ih =>
    obtain ⟨ps, hps, hcs⟩ := ih
    obtain ⟨p, hp, hdenotes⟩ := pieces?_escape c ((cs.flatMap escape ++ ['"']).map .char ++ rest)
    refine ⟨p :: ps, ?_, by rw [hdenotes, hcs]; rfl⟩
    rw [List.flatMap_cons, List.append_assoc, List.map_append, List.append_assoc, hp, hps]
    rfl

/-- **A literal is read back** from behind its opening quotation mark. -/
theorem literal?_literal (k : Option String) :
    ∃ cs, literal k = '"' :: cs ∧
      ∀ rest, literal? (cs.map .char ++ rest) = some (k, rest) := by
  cases k with
  | none => exact ⟨"\\ud800\"".toList, by rfl, fun rest ↦ by rfl⟩
  | some s =>
    refine ⟨s.toList.flatMap escape ++ ['"'], rfl, fun rest ↦ ?_⟩
    obtain ⟨ps, hps, hchars⟩ := pieces?_flatMap_escape s.toList rest
    simp only [literal?, hps, Option.bind_eq_bind, Option.bind_some, hchars, Option.map_some,
      String.ofList_toList]

/-! ## Numbers -/

/-- A number that is spelled as one: digits before the point, without a zero in front of others,
digits behind it, and digits in the exponent if there is one. -/
structure Numeral.WellFormed (n : Numeral) : Prop where
  /-- Before the point stand digits. -/
  whole_digits : ∀ c ∈ n.whole, isDigit (.char c)
  /-- There is a digit before the point. -/
  whole_ne_nil : n.whole ≠ []
  /-- A zero does not stand in front of other digits. -/
  whole_zero : ∀ c cs, n.whole ≠ '0' :: c :: cs
  /-- Behind the point stand digits. -/
  fraction_digits : ∀ c ∈ n.fraction, isDigit (.char c)
  /-- The exponent consists of digits. -/
  exponent_digits : ∀ e ∈ n.exponent, e.2 ≠ [] ∧ ∀ c ∈ e.2, isDigit (.char c)

/-- What stands behind a number: nothing that could belong to it. -/
def EndsNumber (rest : List Symbol) : Prop :=
  ∀ s ∈ rest.head?, isDigit s = false ∧ s ≠ .char '.' ∧ s ≠ .char 'e' ∧ s ≠ .char 'E'

theorem digits_append (hcs : ∀ c ∈ cs, isDigit (.char c))
    (hrest : ∀ s ∈ rest.head?, isDigit s = false) :
    digits (cs.map .char ++ rest) = (cs, rest) := by
  have hall : ∀ s ∈ cs.map Symbol.char, isDigit s = true := by
    intro s hs
    obtain ⟨c, hc, rfl⟩ := List.mem_map.1 hs
    exact hcs c hc
  have htake : rest.takeWhile isDigit = [] := by
    cases rest with
    | nil => rfl
    | cons s rest => rw [List.takeWhile_cons, hrest s rfl]; rfl
  have hdrop : rest.dropWhile isDigit = rest := by
    cases rest with
    | nil => rfl
    | cons s rest => rw [List.dropWhile_cons, hrest s rfl]; rfl
  rw [digits, List.takeWhile_append_of_pos hall, List.dropWhile_append_of_pos hall, htake, hdrop,
    List.append_nil, List.filterMap_map]
  simp [Function.comp_def, Symbol.char?]

theorem exponentDigits?_append {negative : Bool} (hne : cs ≠ [])
    (hcs : ∀ c ∈ cs, isDigit (.char c)) (hrest : EndsNumber rest) :
    exponentDigits? negative (cs.map .char ++ rest) = some (some (negative, cs), rest) := by
  rw [exponentDigits?, digits_append hcs fun s hs ↦ (hrest s hs).1]
  cases cs with
  | nil => exact absurd rfl hne
  | cons c cs => rfl

/-- The exponent as it is written. -/
def exponentChars (e : Option (Bool × List Char)) : List Char :=
  match e with
  | none => []
  | some (negative, digits) => 'e' :: ((if negative then ['-'] else []) ++ digits)

theorem exponent?_append {e : Option (Bool × List Char)}
    (he : ∀ d ∈ e, d.2 ≠ [] ∧ ∀ c ∈ d.2, isDigit (.char c)) (hrest : EndsNumber rest) :
    exponent? ((exponentChars e).map .char ++ rest) = some (e, rest) := by
  cases e with
  | none =>
    cases rest with
    | nil => rfl
    | cons s rest =>
      obtain ⟨-, -, hlower, hupper⟩ := hrest s rfl
      cases s with
      | stray b => rfl
      | char c =>
        have hc : ¬ (c = 'e' ∨ c = 'E') := by
          rintro (rfl | rfl)
          · exact hlower rfl
          · exact hupper rfl
        simp [exponentChars, exponent?, hc]
  | some d =>
    obtain ⟨negative, ds⟩ := d
    obtain ⟨hne, hds⟩ := he (negative, ds) rfl
    have hdigits : exponentDigits? negative (ds.map .char ++ rest) =
        some (some (negative, ds), rest) := exponentDigits?_append hne hds hrest
    cases negative with
    | true => exact hdigits
    | false =>
      cases ds with
      | nil => exact absurd rfl hne
      | cons d ds =>
        have hd := hds d List.mem_cons_self
        simp only [exponentChars, Bool.false_eq_true, if_false, List.nil_append, List.map_cons,
          List.cons_append] at hdigits ⊢
        rw [exponent?, if_pos (.inl rfl)]
        · exact hdigits
        · rintro tail ⟨⟩
          exact absurd hd (by decide)
        · rintro tail ⟨⟩
          exact absurd hd (by decide)

/-- The point and the digits behind it as they are written. -/
def fractionChars (cs : List Char) : List Char :=
  if cs.isEmpty then [] else '.' :: cs

theorem fraction?_append (hcs : ∀ c ∈ cs, isDigit (.char c))
    (hrest : ∀ s ∈ rest.head?, isDigit s = false ∧ s ≠ .char '.') :
    fraction? ((fractionChars cs).map .char ++ rest) = some (cs, rest) := by
  cases cs with
  | nil =>
    cases rest with
    | nil => rfl
    | cons s rest =>
      rw [fractionChars, fraction?]
      · rfl
      · rintro tail ⟨⟩
        exact (hrest _ rfl).2 rfl
  | cons c cs =>
    have hdigits := digits_append hcs fun s hs ↦ (hrest s hs).1
    simp only [fractionChars, List.isEmpty_cons, Bool.false_eq_true, if_false, List.map_cons,
      List.cons_append] at hdigits ⊢
    rw [fraction?, hdigits]

theorem whole?_append (hcs : ∀ c ∈ cs, isDigit (.char c)) (hne : cs ≠ [])
    (hzero : ∀ c ds, cs ≠ '0' :: c :: ds) (hrest : ∀ s ∈ rest.head?, isDigit s = false) :
    whole? (cs.map .char ++ rest) = some (cs, rest) := by
  rw [whole?, digits_append hcs hrest]
  split
  · next h =>
    cases h
    exact absurd rfl hne
  · next h =>
    cases h
    exact absurd rfl (hzero _ _)
  · next h =>
    cases h
    rfl

theorem Numeral.chars_eq (n : Numeral) :
    n.chars = (if n.negative then ['-'] else []) ++
      (n.whole ++ (fractionChars n.fraction ++ exponentChars n.exponent)) := by
  simp only [Numeral.chars, fractionChars, List.append_assoc]
  rfl

/-- What stands behind the digits of a fraction, when an exponent follows or the number ends. -/
theorem head?_exponentChars {e : Option (Bool × List Char)} (hrest : EndsNumber rest) :
    ∀ s ∈ ((exponentChars e).map Symbol.char ++ rest).head?, isDigit s = false ∧ s ≠ .char '.' := by
  cases e with
  | none => exact fun s hs ↦ ⟨(hrest s hs).1, (hrest s hs).2.1⟩
  | some d =>
    rintro s ⟨⟩
    decide

theorem unsigned?_chars {n : Numeral} (h : n.WellFormed) (hrest : EndsNumber rest) :
    unsigned? n.negative
      ((n.whole ++ (fractionChars n.fraction ++ exponentChars n.exponent)).map .char ++ rest) =
        some (n, rest) := by
  have hexponent := head?_exponentChars (e := n.exponent) hrest
  have hfraction : ∀ s ∈ ((fractionChars n.fraction).map Symbol.char ++
      ((exponentChars n.exponent).map Symbol.char ++ rest)).head?, isDigit s = false := by
    rw [fractionChars]
    split
    · exact fun s hs ↦ (hexponent s hs).1
    · rintro s ⟨⟩
      decide
  rw [unsigned?, List.map_append, List.map_append, List.append_assoc, List.append_assoc,
    whole?_append h.whole_digits h.whole_ne_nil h.whole_zero hfraction]
  simp only [Option.bind_eq_bind, Option.bind_some]
  rw [fraction?_append h.fraction_digits hexponent]
  simp only [Option.bind_some]
  rw [exponent?_append h.exponent_digits hrest]
  rfl

/-- **A number is read back**, if what stands behind it is no part of it. -/
theorem numeral?_chars {n : Numeral} (h : n.WellFormed) (hrest : EndsNumber rest) :
    numeral? (n.chars.map .char ++ rest) = some (n, rest) := by
  have hunsigned := unsigned?_chars h hrest
  rw [Numeral.chars_eq]
  cases hnegative : n.negative with
  | true =>
    rw [hnegative] at hunsigned
    exact hunsigned
  | false =>
    rw [hnegative] at hunsigned
    rw [if_neg (by simp), List.nil_append, numeral?]
    · exact hunsigned
    · intro tail htail
      obtain ⟨c, cs, hwhole⟩ := List.exists_cons_of_ne_nil h.whole_ne_nil
      have hc := h.whole_digits c (hwhole ▸ List.mem_cons_self)
      rw [hwhole] at htail
      cases htail
      exact absurd hc (by decide)

end Json

end Sequitur
