import Sequitur.Console.Words

/-!
# How lines are split into words

Splitting reads a line from left to right with a word that is still growing.  What it has read
matters for the rest only through that word and through where it stands: outside quotes, between
quotes, or behind a backslash (`Console.Place`).  Outside quotes a blank ends the word and nothing
of it is left, so what stands behind the blank is split as if it were a line of its own:
`wordsFrom_append`.

There is a way to write any word so that splitting gives it back, `Console.quote`: between quotes,
with a backslash in front of what would mean something there (`wordsFrom_quote`).  The laws of
splitting, `words_laws`, are about both: words of a list put in one line, and lines put one behind
the other.
-/

set_option autoImplicit false

namespace Sequitur

namespace Console

variable {quoted : Bool} {word cs gap rest : List Char} {c : Char}

/-! ## Ends of words -/

@[simp]
theorem endWord_nil : endWord [] = [] := rfl

theorem endWord_toList (w : String) : endWord w.toList = [w].filter (· ≠ "") := by
  by_cases hw : w = "" <;> simp [endWord, hw]

/-- No word comes to its end empty. -/
theorem empty_notMem_endWord (word : List Char) : "" ∉ endWord word := by
  rw [endWord]
  split
  · exact List.not_mem_nil
  · rename_i hne
    rw [List.mem_singleton, eq_comm, String.ofList_eq_empty_iff]
    exact fun h ↦ hne (List.isEmpty_iff.2 h)

/-- **There are no empty words**, wherever splitting begins. -/
theorem empty_notMem_wordsFrom (quoted : Bool) (word cs : List Char) :
    "" ∉ wordsFrom quoted word cs := by
  fun_induction wordsFrom quoted word cs with
  | case1 _ word => exact empty_notMem_endWord word
  | case2 _ _ _ ih => exact ih
  | case3 _ _ _ _ ih => exact ih
  | case4 _ word => exact empty_notMem_endWord word
  | case5 _ word _ _ _ _ _ _ ih =>
    exact fun h ↦ (List.mem_append.1 h).elim (empty_notMem_endWord word) ih
  | case6 _ _ _ _ _ _ _ _ ih => exact ih

/-! ## Blanks -/

/-- A text of blanks. -/
def Blank (s : String) : Prop :=
  ∀ c ∈ s.toList, Text.isBlank c = true

instance (s : String) : Decidable (Blank s) :=
  List.decidableBAll (Text.isBlank · = true) s.toList

/-- A character that is neither a quote nor a backslash ends the word or belongs to it. -/
theorem wordsFrom_cons_of_ne (hquote : c ≠ '"') (hbackslash : c ≠ '\\') (quoted : Bool)
    (word cs : List Char) :
    wordsFrom quoted word (c :: cs) =
      if Text.isBlank c && !quoted then endWord word ++ wordsFrom quoted [] cs
      else wordsFrom quoted (word ++ [c]) cs :=
  wordsFrom.eq_5 quoted word c cs hquote (fun _ _ h _ ↦ hbackslash h) fun h _ ↦ hbackslash h

/-- Outside quotes a blank ends a word. -/
theorem wordsFrom_blank (hc : Text.isBlank c = true) (word cs : List Char) :
    wordsFrom false word (c :: cs) = endWord word ++ wordsFrom false [] cs := by
  have hquote : c ≠ '"' := fun h ↦ absurd (h ▸ hc) (by decide)
  have hbackslash : c ≠ '\\' := fun h ↦ absurd (h ▸ hc) (by decide)
  rw [wordsFrom_cons_of_ne hquote hbackslash, hc]
  rfl

/-- Between words blanks make no difference. -/
theorem wordsFrom_blanks (hgap : ∀ c ∈ gap, Text.isBlank c = true) (cs : List Char) :
    wordsFrom false [] (gap ++ cs) = wordsFrom false [] cs := by
  induction gap with
  | nil => rfl
  | cons c gap ih =>
    obtain ⟨hc, hrest⟩ := List.forall_mem_cons.1 hgap
    rw [List.cons_append, wordsFrom_blank hc, ih hrest, endWord_nil, List.nil_append]

/-- Outside quotes any number of blanks ends a word. -/
theorem wordsFrom_gap (hgap : ∀ c ∈ gap, Text.isBlank c = true) (hne : gap ≠ [])
    (word cs : List Char) :
    wordsFrom false word (gap ++ cs) = endWord word ++ wordsFrom false [] cs := by
  obtain ⟨c, rest, rfl⟩ := List.exists_cons_of_ne_nil hne
  obtain ⟨hc, hrest⟩ := List.forall_mem_cons.1 hgap
  rw [List.cons_append, wordsFrom_blank hc, wordsFrom_blanks hrest]

/-- Blanks at the end of a line, or none, end the last word. -/
theorem wordsFrom_trailing (hgap : ∀ c ∈ gap, Text.isBlank c = true) (word : List Char) :
    wordsFrom false word gap = endWord word := by
  cases gap with
  | nil => rw [wordsFrom]
  | cons c rest =>
    have hsplit := wordsFrom_gap hgap (List.cons_ne_nil c rest) word []
    rwa [List.append_nil, wordsFrom, endWord_nil, List.append_nil] at hsplit

/-! ## Lines in a row -/

/-- Where one stands in a line: outside quotes, between quotes, or behind a backslash there. -/
inductive Place where
  | outside
  | inside
  | escaped (quoted : Bool)
  deriving DecidableEq

namespace Place

/-- Outside quotes or between them. -/
def ofQuoted : Bool → Place
  | true => inside
  | false => outside

/-- The place behind one more character. -/
def next : Place → Char → Place
  | outside, '"' => inside
  | outside, '\\' => escaped false
  | outside, _ => outside
  | inside, '"' => outside
  | inside, '\\' => escaped true
  | inside, _ => inside
  | escaped quoted, _ => ofQuoted quoted

/-- The place at the end of a line. -/
def atEnd (line : String) : Place :=
  line.toList.foldl next outside

theorem next_quote (quoted : Bool) : (ofQuoted quoted).next '"' = ofQuoted (!quoted) := by
  cases quoted <;> rfl

theorem next_backslash (quoted : Bool) : (ofQuoted quoted).next '\\' = escaped quoted := by
  cases quoted <;> rfl

theorem next_of_ne (hquote : c ≠ '"') (hbackslash : c ≠ '\\') (quoted : Bool) :
    (ofQuoted quoted).next c = ofQuoted quoted := by
  cases quoted <;> simp [ofQuoted, next]

end Place

/-- What is neither a backslash with a character behind it nor one at the end is none. -/
theorem ne_backslash (hpair : ∀ d rest, c = '\\' → cs = d :: rest → False)
    (hlast : c = '\\' → cs = [] → False) : c ≠ '\\' := by
  intro h
  cases cs with
  | nil => exact hlast h rfl
  | cons d rest => exact hpair d rest h rfl

/-- **Behind a blank outside quotes a line begins anew.** -/
theorem wordsFrom_append (hplace : cs.foldl Place.next (.ofQuoted quoted) = .outside)
    (hgap : ∀ c ∈ gap, Text.isBlank c = true) (hne : gap ≠ []) (rest : List Char) :
    wordsFrom quoted word (cs ++ (gap ++ rest)) =
      wordsFrom quoted word cs ++ wordsFrom false [] rest := by
  fun_induction wordsFrom quoted word cs with
  | case1 quoted word =>
    cases quoted with
    | true => cases hplace
    | false => exact wordsFrom_gap hgap hne word rest
  | case2 quoted word cs ih =>
    rw [List.foldl_cons, Place.next_quote] at hplace
    rw [List.cons_append, wordsFrom, ih hplace]
  | case3 quoted word c cs ih =>
    rw [List.foldl_cons, List.foldl_cons, Place.next_backslash, Place.next] at hplace
    rw [List.cons_append, List.cons_append, wordsFrom, ih hplace]
  | case4 quoted word =>
    rw [List.foldl_cons, Place.next_backslash] at hplace
    cases hplace
  | case5 quoted word c cs hquote hpair hlast hblank ih =>
    have hbackslash := ne_backslash hpair hlast
    rw [List.foldl_cons, Place.next_of_ne hquote hbackslash] at hplace
    rw [List.cons_append, wordsFrom_cons_of_ne hquote hbackslash, if_pos hblank, ih hplace,
      List.append_assoc]
  | case6 quoted word c cs hquote hpair hlast hblank ih =>
    have hbackslash := ne_backslash hpair hlast
    rw [List.foldl_cons, Place.next_of_ne hquote hbackslash] at hplace
    rw [List.cons_append, wordsFrom_cons_of_ne hquote hbackslash, if_neg hblank, ih hplace]

/-! ## Quoting -/

/-- A character as it is written between quotes. -/
def escape (c : Char) : List Char :=
  if c = '"' ∨ c = '\\' then ['\\', c] else [c]

/-- A word between quotes, with a backslash in front of each quote and each backslash in it. -/
def quote (word : String) : String :=
  String.ofList ('"' :: (word.toList.flatMap escape ++ ['"']))

/-- A line of quoted words, each behind its gap, with another gap at the end. -/
def spelled : List (String × String) → String → String
  | [], last => last
  | (gap, word) :: ws, last => gap ++ quote word ++ spelled ws last

/-- Between quotes a character is read as it was written. -/
theorem wordsFrom_escape (c : Char) (word cs : List Char) :
    wordsFrom true word (escape c ++ cs) = wordsFrom true (word ++ [c]) cs := by
  by_cases hc : c = '"' ∨ c = '\\'
  · rw [escape, if_pos hc]
    exact wordsFrom.eq_3 true word c cs
  · obtain ⟨hquote, hbackslash⟩ := not_or.1 hc
    rw [escape, if_neg hc, List.singleton_append, wordsFrom_cons_of_ne hquote hbackslash,
      if_neg (by simp)]

theorem wordsFrom_flatMap_escape (added word cs : List Char) :
    wordsFrom true word (added.flatMap escape ++ cs) = wordsFrom true (word ++ added) cs := by
  induction added generalizing word with
  | nil => rw [List.flatMap_nil, List.nil_append, List.append_nil]
  | cons c added ih =>
    rw [List.flatMap_cons, List.append_assoc, wordsFrom_escape, ih, List.append_assoc,
      List.singleton_append]

/-- **A quoted text is added to the word as it is.** -/
theorem wordsFrom_quote (text : String) (word cs : List Char) :
    wordsFrom false word ((quote text).toList ++ cs) =
      wordsFrom false (word ++ text.toList) cs := by
  rw [quote, String.toList_ofList, List.cons_append, wordsFrom, List.append_assoc, Bool.not_false,
    wordsFrom_flatMap_escape, List.singleton_append, wordsFrom, Bool.not_true]

/-- Quoted words behind gaps that end a word are read one after the other. -/
theorem wordsFrom_spelled {ws : List (String × String)} {last : String}
    (hblank : ∀ p ∈ ws, Blank p.1) (hne : ∀ p ∈ ws, p.1 ≠ "") (hlast : Blank last)
    (word : List Char) :
    wordsFrom false word (spelled ws last).toList =
      endWord word ++ (ws.map Prod.snd).filter (· ≠ "") := by
  induction ws generalizing word with
  | nil => rw [spelled, wordsFrom_trailing hlast, List.map_nil, List.filter_nil, List.append_nil]
  | cons p ws ih =>
    obtain ⟨hgap, hblank⟩ := List.forall_mem_cons.1 hblank
    obtain ⟨hgapne, hne⟩ := List.forall_mem_cons.1 hne
    rw [spelled, String.toList_append, String.toList_append, List.append_assoc,
      wordsFrom_gap hgap (mt String.toList_eq_nil_iff.1 hgapne), wordsFrom_quote, List.nil_append,
      ih hblank hne, endWord_toList, ← List.filter_append, List.map_cons, List.singleton_append]

/-! ## The laws of splitting -/

/-- **The laws of splitting.**  Words that are written between quotes, with any blanks around them
and at least one between two of them, are read back, except that empty words are left out.  No word
of any line is empty.  Where a line ends outside quotes and not behind a backslash, another line
behind blanks adds its own words. -/
theorem words_laws :
    (∀ (ws : List (String × String)) (last : String), (∀ p ∈ ws, Blank p.1) →
      (∀ p ∈ ws.tail, p.1 ≠ "") → Blank last →
      words (spelled ws last) = (ws.map Prod.snd).filter (· ≠ "")) ∧
    (∀ line, "" ∉ words line) ∧
    ∀ a gap b : String, Place.atEnd a = .outside → Blank gap → gap ≠ "" →
      words (a ++ gap ++ b) = words a ++ words b := by
  refine ⟨fun ws last hblank hne hlast ↦ ?_, fun line ↦ empty_notMem_wordsFrom false [] line.toList,
    fun a gap b hplace hblank hne ↦ ?_⟩
  · cases ws with
    | nil => exact wordsFrom_trailing hlast []
    | cons p ws =>
      obtain ⟨hgap, hblank⟩ := List.forall_mem_cons.1 hblank
      rw [words, spelled, String.toList_append, String.toList_append, List.append_assoc,
        wordsFrom_blanks hgap, wordsFrom_quote, List.nil_append, wordsFrom_spelled hblank hne hlast,
        endWord_toList, ← List.filter_append, List.map_cons, List.singleton_append]
  · have hend : a.toList.foldl Place.next (.ofQuoted false) = .outside := hplace
    rw [words, String.toList_append, String.toList_append, List.append_assoc]
    exact wordsFrom_append hend hblank (mt String.toList_eq_nil_iff.1 hne) b.toList

/-- A word with a blank, an empty one behind a tab, and one with a quote and a backslash behind a
blank that is no ASCII character; then a line with a quoted blank and an escaped quote, in front of
a line that begins with an escaped blank. -/
theorem words_laws_escaped :
    let ws := [("", "a b"), (" \t", ""), ("\u00a0", "say \"\\")]
    let a := "x\"y z\"\\\""
    let b := "\\ w \"\""
    (∀ p ∈ ws, Blank p.1) ∧ (∀ p ∈ ws.tail, p.1 ≠ "") ∧ Blank "\n" ∧
      words (spelled ws "\n") = ["a b", "say \"\\"] ∧
      "" ∉ words b ∧ Place.atEnd a = .outside ∧ words (a ++ "\u2003" ++ b) = ["xy z\"", " w"] := by
  intro ws a b
  have hblank : ∀ p ∈ ws, Blank p.1 := by decide
  have hne : ∀ p ∈ ws.tail, p.1 ≠ "" := by decide
  have hlast : Blank "\n" := by decide
  have hplace : Place.atEnd a = .outside := by decide
  have hsplit := words_laws.2.2 a "\u2003" b hplace (by decide) (by decide)
  refine ⟨hblank, hne, hlast, (words_laws.1 ws "\n" hblank hne hlast).trans (by decide),
    words_laws.2.1 b, hplace, hsplit.trans (by decide)⟩

end Console

end Sequitur
