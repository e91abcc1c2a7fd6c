import Mathlib.Data.List.DropRight
import Sequitur.Proofs.Json.Token

/-!
# JSON texts and the values they spell

`Json.Spells` is the grammar: which texts spell a value when its literals and numbers are written
in the one way in which the program writes them, and blanks stand wherever they may.  Whatever a
text spells is what is read (`value?_of_spells`, `read?_of_spells`), and the two layouts are such
texts (`spells_prettyChars`, `spells_compactChars`), so that a value is read back from its layout
over lines (`read?_pretty`).

The reader is given a number that bounds its depth, and gives up when it is used up.  A value takes
up at most two for each of its characters, one for the value and one for its place among the items
or members, which is what `Json.read?` starts with.
-/

set_option autoImplicit false

namespace Sequitur

namespace Json

variable {j : Json} {js : List Json} {ms : List (Option String × Json)} {c : Char}
  {w cs : List Char} {s rest : List Symbol}

/-! ## Blanks -/

/-- Characters that may stand between tokens. -/
def Blank (w : List Char) : Prop :=
  ∀ c ∈ w, isSpace (.char c)

theorem blank_nil : Blank [] :=
  List.forall_mem_nil _

theorem blank_newLine (level : Nat) : Blank (newLine level) := by
  intro c hc
  rcases List.mem_cons.1 hc with rfl | hc
  · rfl
  · rw [List.eq_of_mem_replicate hc]
    rfl

theorem skipSpace_blank (hw : Blank w) : skipSpace (w.map .char ++ s) = skipSpace s := by
  refine List.dropWhile_append_of_pos fun x hx ↦ ?_
  obtain ⟨c, hc, rfl⟩ := List.mem_map.1 hx
  exact hw c hc

theorem skipSpace_cons {x : Symbol} (hx : isSpace x = false) : skipSpace (x :: rest) = x :: rest :=
  List.dropWhile_cons_of_neg (by simp [hx])

theorem skipSpace_skipSpace (s : List Symbol) : skipSpace (skipSpace s) = skipSpace s :=
  List.dropWhile_idempotent isSpace s

theorem skipSpace_blank_cons {x : Symbol} (hw : Blank w) (hx : isSpace x = false) :
    skipSpace (w.map .char ++ x :: rest) = x :: rest := by
  rw [skipSpace_blank hw, skipSpace_cons hx]

/-- A number ends at a blank, and where it may end without one. -/
theorem endsNumber_blank (hw : Blank w) (hrest : EndsNumber rest) :
    EndsNumber (w.map .char ++ rest) := by
  cases w with
  | nil => exact hrest
  | cons c w =>
    rintro s ⟨⟩
    have hc := hw c List.mem_cons_self
    simp only [isSpace, Bool.or_eq_true, decide_eq_true_eq] at hc
    rcases hc with ((rfl | rfl) | rfl) | rfl <;> decide

/-! ## The grammar -/

mutual
/-- A text spells a value, without blanks around it. -/
inductive Spells : Json → List Char → Prop
  | null : Spells .null ['n', 'u', 'l', 'l']
  | isTrue : Spells (.bool true) ['t', 'r', 'u', 'e']
  | isFalse : Spells (.bool false) ['f', 'a', 'l', 's', 'e']
  | number {n : Numeral} (hn : n.WellFormed) : Spells (.number n) n.chars
  | string (s : Option String) : Spells (.string s) (literal s)
  | emptyArray {w : List Char} (hw : Blank w) : Spells (.array []) ('[' :: (w ++ [']']))
  | array {js : List Json} {cs : List Char} (h : SpellsItems js cs) :
    Spells (.array js) ('[' :: (cs ++ [']']))
  | emptyObject {w : List Char} (hw : Blank w) : Spells (.object []) ('\x7b' :: (w ++ ['\x7d']))
  | object {ms : List (Option String × Json)} {cs : List Char} (h : SpellsMembers ms cs) :
    Spells (.object ms) ('\x7b' :: (cs ++ ['\x7d']))

/-- A text spells the items of an array that is not empty, with blanks around them. -/
inductive SpellsItems : List Json → List Char → Prop
  | last {j : Json} {w cs v : List Char} (hw : Blank w) (h : Spells j cs) (hv : Blank v) :
    SpellsItems [j] (w ++ (cs ++ v))
  | more {j : Json} {js : List Json} {w cs v ds : List Char} (hw : Blank w) (h : Spells j cs)
      (hv : Blank v) (hs : SpellsItems js ds) :
    SpellsItems (j :: js) (w ++ (cs ++ (v ++ ',' :: ds)))

/-- A text spells the members of an object that is not empty, with blanks around them. -/
inductive SpellsMembers : List (Option String × Json) → List Char → Prop
  | last {k : Option String} {j : Json} {w u x cs v : List Char} (hw : Blank w) (hu : Blank u)
      (hx : Blank x) (h : Spells j cs) (hv : Blank v) :
    SpellsMembers [(k, j)] (w ++ (literal k ++ (u ++ ':' :: (x ++ (cs ++ v)))))
  | more {k : Option String} {j : Json} {ms : List (Option String × Json)}
      {w u x cs v ds : List Char} (hw : Blank w) (hu : Blank u) (hx : Blank x) (h : Spells j cs)
      (hv : Blank v) (hs : SpellsMembers ms ds) :
    SpellsMembers ((k, j) :: ms)
      (w ++ (literal k ++ (u ++ ':' :: (x ++ (cs ++ (v ++ ',' :: ds))))))
end

/-! ## Reading what is spelled -/

/-- How a number begins. -/
theorem Numeral.WellFormed.head {n : Numeral} (hn : n.WellFormed) :
    ∃ c cs, n.chars = c :: cs ∧ (c = '-' ∨ isDigit (.char c)) := by
  rw [Numeral.chars_eq]
  cases n.negative with
  | true => exact ⟨'-', _, rfl, .inl rfl⟩
  | false =>
    obtain ⟨c, cs, hwhole⟩ := List.exists_cons_of_ne_nil hn.whole_ne_nil
    rw [hwhole]
    exact ⟨c, _, rfl, .inr (hn.whole_digits c (hwhole ▸ List.mem_cons_self))⟩

/-- A value begins with no blank and no closing bracket. -/
theorem Spells.head (h : Spells j cs) :
    ∃ c ds, cs = c :: ds ∧ isSpace (.char c) = false ∧ c ≠ ']' := by
  cases h with
  | null => exact ⟨_, _, rfl, by decide, by decide⟩
  | isTrue => exact ⟨_, _, rfl, by decide, by decide⟩
  | isFalse => exact ⟨_, _, rfl, by decide, by decide⟩
  | number hn =>
    obtain ⟨c, ds, hchars, hc⟩ := hn.head
    refine ⟨c, ds, hchars, ?_, ?_⟩
    · rcases hc with rfl | hc
      · rfl
      · by_contra hspace
        simp only [isSpace, Bool.not_eq_false, Bool.or_eq_true, decide_eq_true_eq] at hspace
        rcases hspace with ((rfl | rfl) | rfl) | rfl <;> exact absurd hc (by decide)
    · rintro rfl
      exact absurd hc (by decide)
  | string s =>
    obtain ⟨ds, hliteral, -⟩ := literal?_literal s
    exact ⟨_, ds, hliteral, by decide, by decide⟩
  | emptyArray => exact ⟨_, _, rfl, by decide, by decide⟩
  | array => exact ⟨_, _, rfl, by decide, by decide⟩
  | emptyObject => exact ⟨_, _, rfl, by decide, by decide⟩
  | object => exact ⟨_, _, rfl, by decide, by decide⟩

theorem value?_skipSpace (b : Nat) (s : List Symbol) : value? b (skipSpace s) = value? b s := by
  cases b with
  | zero => rw [value?, value?]
  | succ b => rw [value?, value?, skipSpace_skipSpace]

theorem items?_skipSpace (b : Nat) (s : List Symbol) : items? b (skipSpace s) = items? b s := by
  cases b with
  | zero => rw [items?, items?]
  | succ b => rw [items?, items?, value?_skipSpace]

theorem members?_skipSpace (b : Nat) (s : List Symbol) :
    members? b (skipSpace s) = members? b s := by
  cases b with
  | zero => rw [members?, members?]
  | succ b => rw [members?, members?, skipSpace_skipSpace]

theorem value?_blank (b : Nat) (hw : Blank w) : value? b (w.map .char ++ s) = value? b s := by
  rw [← value?_skipSpace, skipSpace_blank hw, value?_skipSpace]

/-- A number is read as a value. -/
theorem value?_number {b : Nat} {n : Numeral} (hn : n.WellFormed) (hrest : EndsNumber rest) :
    value? (b + 1) (n.chars.map .char ++ rest) = some (.number n, rest) := by
  have hread := numeral?_chars hn hrest
  obtain ⟨d, ds, hchars, hd⟩ := hn.head
  rw [hchars, List.map_cons, List.cons_append] at hread ⊢
  have hspace : isSpace (.char d) = false := by
    obtain ⟨c, cs, hcs, hc, -⟩ := (Spells.number hn).head
    obtain ⟨rfl, -⟩ := List.cons.inj (hchars.symm.trans hcs)
    exact hc
  -- no other kind of value begins like a number
  have hne : ∀ c, ¬ (c = '-' ∨ isDigit (.char c)) → Symbol.char d ≠ .char c := by
    rintro c hc ⟨⟩
    exact hc hd
  rw [value?, skipSpace_cons hspace]
  split
  · next h => exact absurd (List.cons.inj h).1 (hne '[' (by decide))
  · next h => exact absurd (List.cons.inj h).1 (hne '\x7b' (by decide))
  · next h => exact absurd (List.cons.inj h).1 (hne '"' (by decide))
  · next h => exact absurd (List.cons.inj h).1 (hne 'n' (by decide))
  · next h => exact absurd (List.cons.inj h).1 (hne 't' (by decide))
  · next h => exact absurd (List.cons.inj h).1 (hne 'f' (by decide))
  · rw [hread]
    rfl

/-- The items of an array begin with no closing bracket. -/
theorem SpellsItems.head (h : SpellsItems js cs) (rest : List Symbol) :
    ∃ c tail, skipSpace (cs.map .char ++ rest) = .char c :: tail ∧ c ≠ ']' := by
  have hfirst : ∀ {w cs : List Char} (v : List Char) {j : Json}, Blank w → Spells j cs →
      ∃ c tail, skipSpace ((w ++ (cs ++ v)).map .char ++ rest) = .char c :: tail ∧ c ≠ ']' := by
    intro w cs v j hw hj
    obtain ⟨c, ds, rfl, hspace, hc⟩ := hj.head
    refine ⟨c, (ds ++ v).map .char ++ rest, ?_, hc⟩
    rw [List.map_append, List.append_assoc]
    exact skipSpace_blank_cons hw hspace
  cases h with
  | last hw hj hv => exact hfirst _ hw hj
  | more hw hj hv hs => exact hfirst _ hw hj

/-- The members of an object begin with a key. -/
theorem SpellsMembers.head (h : SpellsMembers ms cs) (rest : List Symbol) :
    ∃ tail, skipSpace (cs.map .char ++ rest) = .char '"' :: tail := by
  have hfirst : ∀ {w : List Char} (v : List Char) (k : Option String), Blank w →
      ∃ tail, skipSpace ((w ++ (literal k ++ v)).map .char ++ rest) = .char '"' :: tail := by
    intro w v k hw
    obtain ⟨ds, hliteral, -⟩ := literal?_literal k
    refine ⟨(ds ++ v).map .char ++ rest, ?_⟩
    rw [hliteral, List.map_append, List.append_assoc]
    exact skipSpace_blank_cons hw (by decide)
  cases h with
  | last hw hu hx hj hv => exact hfirst _ _ hw
  | more hw hu hx hj hv hs => exact hfirst _ _ hw

theorem endsNumber_cons {x : Symbol}
    (hx : x = .char ',' ∨ x = .char ']' ∨ x = .char '\x7d') : EndsNumber (x :: rest) := by
  rintro s ⟨⟩
  rcases hx with rfl | rfl | rfl <;> decide

theorem value?_string (b : Nat) (k : Option String) (rest : List Symbol) :
    value? (b + 1) ((literal k).map .char ++ rest) = some (.string k, rest) := by
  obtain ⟨ds, hliteral, hread⟩ := literal?_literal k
  rw [hliteral, List.map_cons, List.cons_append, value?, skipSpace_cons (by decide)]
  simp only [hread, Option.bind_eq_bind, Option.bind_some]

theorem value?_emptyArray (b : Nat) (hw : Blank w) (rest : List Symbol) :
    value? (b + 1) (('[' :: (w ++ [']'])).map .char ++ rest) = some (.array [], rest) := by
  have hclose : skipSpace (w.map .char ++ .char ']' :: rest) = .char ']' :: rest :=
    skipSpace_blank_cons hw (by decide)
  simp only [List.map_cons, List.map_append, List.map_nil, List.cons_append, List.append_assoc,
    List.nil_append]
  rw [value?, skipSpace_cons (by decide)]
  simp only [hclose]

theorem value?_emptyObject (b : Nat) (hw : Blank w) (rest : List Symbol) :
    value? (b + 1) (('\x7b' :: (w ++ ['\x7d'])).map .char ++ rest) = some (.object [], rest) := by
  have hclose : skipSpace (w.map .char ++ .char '\x7d' :: rest) = .char '\x7d' :: rest :=
    skipSpace_blank_cons hw (by decide)
  simp only [List.map_cons, List.map_append, List.map_nil, List.cons_append, List.append_assoc,
    List.nil_append]
  rw [value?, skipSpace_cons (by decide)]
  simp only [hclose]

/-- An array whose items are read is read. -/
theorem value?_array {b : Nat} (hs : SpellsItems js cs)
    (hitems : items? b (cs.map .char ++ .char ']' :: rest) = some (js, rest)) :
    value? (b + 1) (('[' :: (cs ++ [']'])).map .char ++ rest) = some (.array js, rest) := by
  obtain ⟨c, tail, hhead, hc⟩ := hs.head (.char ']' :: rest)
  simp only [List.map_cons, List.map_append, List.map_nil, List.cons_append, List.append_assoc,
    List.nil_append]
  rw [← items?_skipSpace, hhead] at hitems
  rw [value?, skipSpace_cons (by decide)]
  simp only [hhead]
  split
  · next h => exact absurd (Symbol.char.inj (List.cons.inj h).1) hc
  · rw [hitems]
    rfl

/-- An object whose members are read is read. -/
theorem value?_object {b : Nat} (hs : SpellsMembers ms cs)
    (hmembers : members? b (cs.map .char ++ .char '\x7d' :: rest) = some (ms, rest)) :
    value? (b + 1) (('\x7b' :: (cs ++ ['\x7d'])).map .char ++ rest) = some (.object ms, rest) := by
  obtain ⟨tail, hhead⟩ := hs.head (.char '\x7d' :: rest)
  simp only [List.map_cons, List.map_append, List.map_nil, List.cons_append, List.append_assoc,
    List.nil_append]
  rw [← members?_skipSpace, hhead] at hmembers
  rw [value?, skipSpace_cons (by decide)]
  simp only [hhead]
  split
  · next h => exact absurd (Symbol.char.inj (List.cons.inj h).1) (by decide)
  · rw [hmembers]
    rfl

mutual
/-- **What a text spells is what is read**, whatever stands behind it. -/
theorem value?_of_spells {j : Json} {cs : List Char} (h : Spells j cs) {b : Nat}
    {rest : List Symbol} (hb : 2 * cs.length ≤ b) (hrest : EndsNumber rest) :
    value? b (cs.map .char ++ rest) = some (j, rest) := by
  obtain ⟨b, rfl⟩ : ∃ b', b = b' + 1 := by
    obtain ⟨c, ds, rfl, -⟩ := h.head
    exact Nat.exists_eq_add_one_of_ne_zero (by simp at hb; omega)
  cases h with
  | null => rfl
  | isTrue => rfl
  | isFalse => rfl
  | number hn => exact value?_number hn hrest
  | string k => exact value?_string b k rest
  | emptyArray hw => exact value?_emptyArray b hw rest
  | array hs => exact value?_array hs (items?_of_spells hs (by simp at hb; omega))
  | emptyObject hw => exact value?_emptyObject b hw rest
  | object hs => exact value?_object hs (members?_of_spells hs (by simp at hb; omega))

/-- The same for the items of an array, up to its closing bracket. -/
theorem items?_of_spells {js : List Json} {cs : List Char} (h : SpellsItems js cs) {b : Nat}
    {rest : List Symbol} (hb : 2 * cs.length + 1 ≤ b) :
    items? b (cs.map .char ++ .char ']' :: rest) = some (js, rest) := by
  obtain ⟨b, rfl⟩ : ∃ b', b = b' + 1 := Nat.exists_eq_add_one_of_ne_zero (by omega)
  cases h with
  | @last j w cs v hw hj hv =>
    have hends : EndsNumber (v.map .char ++ .char ']' :: rest) :=
      endsNumber_blank hv (endsNumber_cons (by decide))
    have hvalue := value?_of_spells hj (b := b) (by simp at hb; omega) hends
    rw [items?, List.map_append, List.map_append, List.append_assoc, List.append_assoc,
      value?_blank b hw, hvalue]
    simp only [Option.bind_eq_bind, Option.bind_some]
    rw [skipSpace_blank_cons hv (by decide)]
    rfl
  | @more j js w cs v ds hw hj hv hs =>
    have hends : EndsNumber (v.map .char ++ .char ',' :: (ds.map .char ++ .char ']' :: rest)) :=
      endsNumber_blank hv (endsNumber_cons (by decide))
    have hvalue := value?_of_spells hj (b := b) (by simp at hb; omega) hends
    have hitems : items? b (ds.map .char ++ .char ']' :: rest) = some (js, rest) :=
      items?_of_spells hs (by simp at hb; omega)
    simp only [List.map_append, List.map_cons, List.append_assoc, List.cons_append]
    rw [items?, value?_blank b hw, hvalue]
    simp only [Option.bind_eq_bind, Option.bind_some]
    rw [skipSpace_blank_cons hv (by decide)]
    simp only [hitems, Option.bind_some]

/-- The same for the members of an object, up to its closing brace. -/
theorem members?_of_spells {ms : List (Option String × Json)} {cs : List Char}
    (h : SpellsMembers ms cs) {b : Nat} {rest : List Symbol} (hb : 2 * cs.length + 1 ≤ b) :
    members? b (cs.map .char ++ .char '\x7d' :: rest) = some (ms, rest) := by
  obtain ⟨b, rfl⟩ : ∃ b', b = b' + 1 := Nat.exists_eq_add_one_of_ne_zero (by omega)
  cases h with
  | @last k j w u x cs v hw hu hx hj hv =>
    obtain ⟨ks, hliteral, hkey⟩ := literal?_literal k
    have hends : EndsNumber (v.map .char ++ .char '\x7d' :: rest) :=
      endsNumber_blank hv (endsNumber_cons (by decide))
    have hvalue := value?_of_spells hj (b := b) (by simp at hb; omega) hends
    simp only [hliteral, List.map_append, List.map_cons, List.append_assoc, List.cons_append]
    rw [members?, skipSpace_blank_cons hw (by decide)]
    simp only [hkey, Option.bind_eq_bind, Option.bind_some]
    rw [skipSpace_blank_cons hu (by decide)]
    simp only [value?_blank b hx, hvalue, Option.bind_some]
    rw [skipSpace_blank_cons hv (by decide)]
    rfl
  | @more k j ms w u x cs v ds hw hu hx hj hv hs =>
    obtain ⟨ks, hliteral, hkey⟩ := literal?_literal k
    have hends : EndsNumber (v.map .char ++ .char ',' :: (ds.map .char ++ .char '\x7d' :: rest)) :=
      endsNumber_blank hv (endsNumber_cons (by decide))
    have hvalue := value?_of_spells hj (b := b) (by simp at hb; omega) hends
    have hmembers : members? b (ds.map .char ++ .char '\x7d' :: rest) = some (ms, rest) :=
      members?_of_spells hs (by simp at hb; omega)
    simp only [hliteral, List.map_append, List.map_cons, List.append_assoc, List.cons_append]
    rw [members?, skipSpace_blank_cons hw (by decide)]
    simp only [hkey, Option.bind_eq_bind, Option.bind_some]
    rw [skipSpace_blank_cons hu (by decide)]
    simp only [value?_blank b hx, hvalue, Option.bind_some]
    rw [skipSpace_blank_cons hv (by decide)]
    simp only [hmembers, Option.bind_some]
end

/-- A text with blanks around what it spells is read as that. -/
theorem read?_of_spells {v : List Char} (h : Spells j cs) (hw : Blank w) (hv : Blank v) :
    read? ((w ++ (cs ++ v)).map .char) = some j := by
  have hends : EndsNumber (v.map Symbol.char ++ []) := endsNumber_blank hv (by simp [EndsNumber])
  rw [List.append_nil] at hends
  have hlength : 2 * cs.length ≤ 2 * ((w ++ (cs ++ v)).map Symbol.char).length + 2 := by
    simp
    omega
  have hspace : skipSpace (v.map Symbol.char) = [] := by
    have hskip := skipSpace_blank (s := []) hv
    rwa [List.append_nil] at hskip
  rw [read?]
  generalize 2 * ((w ++ (cs ++ v)).map Symbol.char).length + 2 = b at hlength ⊢
  rw [List.map_append, List.map_append, value?_blank b hw, value?_of_spells h hlength hends]
  simp [hspace]

/-! ## The layout over lines -/

mutual
/-- All numbers in a value are spelled as numbers. -/
def WellFormed : Json → Prop
  | number n => n.WellFormed
  | array items => WellFormedItems items
  | object members => WellFormedMembers members
  | _ => True

/-- All numbers in the items of an array are spelled as numbers. -/
def WellFormedItems : List Json → Prop
  | [] => True
  | j :: js => WellFormed j ∧ WellFormedItems js

/-- All numbers in the members of an object are spelled as numbers. -/
def WellFormedMembers : List (Option String × Json) → Prop
  | [] => True
  | (_, j) :: ms => WellFormed j ∧ WellFormedMembers ms
end

mutual
/-- **The layout over lines is a text that spells the value.** -/
theorem spells_prettyChars (level : Nat) (j : Json) (h : j.WellFormed) :
    Spells j (prettyChars level j) := by
  match j with
  | null => exact .null
  | bool true => exact .isTrue
  | bool false => exact .isFalse
  | number n =>
    rw [WellFormed] at h
    exact .number h
  | string s => exact .string s
  | array [] => exact .emptyArray blank_nil
  | array (j :: js) =>
    rw [WellFormed] at h
    rw [prettyChars]
    exact .array (spellsItems_prettyItems (level + 1) (j :: js) (List.cons_ne_nil j js) h
      (blank_newLine level))
  | object [] => exact .emptyObject blank_nil
  | object (m :: ms) =>
    rw [WellFormed] at h
    rw [prettyChars]
    exact .object (spellsMembers_prettyMembers (level + 1) (m :: ms) (List.cons_ne_nil m ms) h
      (blank_newLine level))

theorem spellsItems_prettyItems (level : Nat) (js : List Json) (hne : js ≠ [])
    (h : WellFormedItems js) {v : List Char} (hv : Blank v) :
    SpellsItems js (prettyItems level js ++ v) := by
  match js with
  | [] => exact absurd rfl hne
  | [j] =>
    rw [WellFormedItems] at h
    rw [prettyItems, List.append_assoc]
    exact .last (blank_newLine level) (spells_prettyChars level j h.1) hv
  | j :: i :: is =>
    rw [WellFormedItems] at h
    have hs := spellsItems_prettyItems level (i :: is) (List.cons_ne_nil i is) h.2 hv
    rw [prettyItems, List.append_assoc, List.append_assoc, List.cons_append]
    · exact .more (blank_newLine level) (spells_prettyChars level j h.1) blank_nil hs
    · simp

theorem spellsMembers_prettyMembers (level : Nat) (ms : List (Option String × Json))
    (hne : ms ≠ []) (h : WellFormedMembers ms) {v : List Char} (hv : Blank v) :
    SpellsMembers ms (prettyMembers level ms ++ v) := by
  have hspace : Blank [' '] := by simp [Blank, isSpace]
  match ms with
  | [] => exact absurd rfl hne
  | [(k, j)] =>
    rw [WellFormedMembers] at h
    rw [prettyMembers, List.append_assoc, List.append_assoc]
    exact .last (blank_newLine level) blank_nil hspace (spells_prettyChars level j h.1) hv
  | (k, j) :: n :: ns =>
    rw [WellFormedMembers] at h
    have hs := spellsMembers_prettyMembers level (n :: ns) (List.cons_ne_nil n ns) h.2 hv
    rw [prettyMembers]
    · simp only [List.append_assoc, List.cons_append]
      exact .more (blank_newLine level) blank_nil hspace (spells_prettyChars level j h.1)
        blank_nil hs
    · simp
end

/-- **A value is read back from its layout over lines.** -/
theorem read?_pretty (h : j.WellFormed) : read? (Symbol.ofString j.pretty) = some j := by
  have hread := read?_of_spells (spells_prettyChars 0 j h) blank_nil blank_nil
  rw [List.append_nil, List.nil_append] at hread
  rw [Symbol.ofString, pretty, String.toList_ofList, hread]

/-! ## The layout on one line -/

mutual
/-- **The layout on one line is a text that spells the value.** -/
theorem spells_compactChars (j : Json) (h : j.WellFormed) : Spells j (compactChars j) := by
  match j with
  | null => exact .null
  | bool true => exact .isTrue
  | bool false => exact .isFalse
  | number n =>
    rw [WellFormed] at h
    exact .number h
  | string s => exact .string s
  | array [] => exact .emptyArray blank_nil
  | array (j :: js) =>
    rw [WellFormed] at h
    rw [compactChars]
    exact .array (spellsItems_compactItems (j :: js) (List.cons_ne_nil j js) h)
  | object [] => exact .emptyObject blank_nil
  | object (m :: ms) =>
    rw [WellFormed] at h
    rw [compactChars]
    exact .object (spellsMembers_compactMembers (m :: ms) (List.cons_ne_nil m ms) h)

theorem spellsItems_compactItems (js : List Json) (hne : js ≠ []) (h : WellFormedItems js) :
    SpellsItems js (compactItems js) := by
  match js with
  | [] => exact absurd rfl hne
  | [j] =>
    rw [WellFormedItems] at h
    have hlast := SpellsItems.last blank_nil (spells_compactChars j h.1) blank_nil
    rwa [List.append_nil] at hlast
  | j :: i :: is =>
    rw [WellFormedItems] at h
    have hs := spellsItems_compactItems (i :: is) (List.cons_ne_nil i is) h.2
    rw [compactItems]
    · exact .more blank_nil (spells_compactChars j h.1) blank_nil hs
    · simp

theorem spellsMembers_compactMembers (ms : List (Option String × Json)) (hne : ms ≠ [])
    (h : WellFormedMembers ms) : SpellsMembers ms (compactMembers ms) := by
  match ms with
  | [] => exact absurd rfl hne
  | [(k, j)] =>
    rw [WellFormedMembers] at h
    have hlast := SpellsMembers.last (k := k) blank_nil blank_nil blank_nil
      (spells_compactChars j h.1) blank_nil
    rwa [List.append_nil] at hlast
  | (k, j) :: n :: ns =>
    rw [WellFormedMembers] at h
    have hs := spellsMembers_compactMembers (n :: ns) (List.cons_ne_nil n ns) h.2
    rw [compactMembers]
    · exact .more blank_nil blank_nil blank_nil (spells_compactChars j h.1) blank_nil hs
    · simp
end

end Json

end Sequitur
