import Mathlib.Data.List.Nodup
import Sequitur.Proofs.Distinct
import Sequitur.Rule.Schema

/-!
# Where placeholders stand in a schema

A placeholder stands at a *place* of a schema: a way in, given by the number of the part that is
entered at each step.  The conclusion is part 0 of a schema, and its premises follow; a line has the
added hypothesis as part 0 and the pattern as part 1; a quantified pattern has the variable and then
the body, and a substitution the body and then its two operands.  Places are compared by the first
step that differs, so the order of places is the order of reading.

`Schema.At` says what stands where without listing anything.  That the occurrences of a schema are
what stands at its places, in the order of reading, is shown by listing them together with their
places: `placedFrom` puts the lists of several parts into one, and is the same for patterns, lines
and schemas.  `placeholders_firstOccurrence` is what this makes of `Schema.placeholders`.
-/

set_option autoImplicit false

namespace Sequitur

/-- A way into a schema: the numbers of the parts that are entered. -/
abbrev Place := List Nat

/-- A place with the placeholder that stands there. -/
abbrev Occurrence := Place × Placeholder

/-! ## What stands where -/

/-- A placeholder stands at a place of a pattern. -/
inductive Pattern.At : Pattern → Place → Placeholder → Prop
  | atom (p : Placeholder) : At (.atom p) [] p
  | andLeft (p q : Placeholder) : At (.and p q) [0] p
  | andRight (p q : Placeholder) : At (.and p q) [1] q
  | orLeft (p q : Placeholder) : At (.or p q) [0] p
  | orRight (p q : Placeholder) : At (.or p q) [1] q
  | not (p : Placeholder) : At (.not p) [0] p
  | impLeft (p q : Placeholder) : At (.imp p q) [0] p
  | impRight (p q : Placeholder) : At (.imp p q) [1] q
  | allBound (x : Placeholder) (a : Pattern) : At (.all x a) [0] x
  | allBody (x : Placeholder) {a : Pattern} {place : Place} {p : Placeholder} (h : At a place p) :
    At (.all x a) (1 :: place) p
  | exBound (x : Placeholder) (a : Pattern) : At (.ex x a) [0] x
  | exBody (x : Placeholder) {a : Pattern} {place : Place} {p : Placeholder} (h : At a place p) :
    At (.ex x a) (1 :: place) p
  | substitutionBody (f x y : Placeholder) : At (.substitution f x y) [0] f
  | substitutionLeft (f x y : Placeholder) : At (.substitution f x y) [1] x
  | substitutionRight (f x y : Placeholder) : At (.substitution f x y) [2] y

/-- A placeholder stands at a place of a line. -/
inductive SequentPattern.At (s : SequentPattern) : Place → Placeholder → Prop
  | hypothesis {p : Placeholder} (h : s.hypothesis = some p) : At s [0] p
  | pattern {place : Place} {p : Placeholder} (h : s.pattern.At place p) : At s (1 :: place) p

/-- A placeholder stands at a place of a schema. -/
inductive Schema.At (s : Schema) : Place → Placeholder → Prop
  | conclusion {place : Place} {p : Placeholder} (h : s.conclusion.At place p) : At s (0 :: place) p
  | premise {i : Nat} {line : SequentPattern} {place : Place} {p : Placeholder}
    (hline : s.premises[i]? = some line) (h : line.At place p) : At s ((i + 1) :: place) p

/-! ## Parts in a row -/

/-- What stands in parts that follow each other, the first of them being entered by a number. -/
def placedFrom (first : Nat) : List (List Occurrence) → List Occurrence
  | [] => []
  | part :: parts => part.map (fun e ↦ (first :: e.1, e.2)) ++ placedFrom (first + 1) parts

variable {first : Nat} {part : List Occurrence} {parts : List (List Occurrence)} {place : Place}
  {p : Placeholder} {e : Occurrence}

theorem map_snd_placedFrom (first : Nat) (parts : List (List Occurrence)) :
    (placedFrom first parts).map Prod.snd = parts.flatMap (List.map Prod.snd) := by
  induction parts generalizing first with
  | nil => rfl
  | cons part parts ih =>
    rw [placedFrom, List.map_append, ih, List.map_map, List.flatMap_cons]
    rfl

theorem mem_placedFrom : e ∈ placedFrom first parts ↔
    ∃ i part place, parts[i]? = some part ∧ (place, e.2) ∈ part ∧ e.1 = (first + i) :: place := by
  induction parts generalizing first with
  | nil => simp [placedFrom]
  | cons part parts ih =>
    rw [placedFrom, List.mem_append, List.mem_map, ih]
    constructor
    · rintro (⟨⟨place, p⟩, hmem, rfl⟩ | ⟨i, part', place, hi, hmem, hplace⟩)
      · exact ⟨0, part, place, rfl, hmem, rfl⟩
      · exact ⟨i + 1, part', place, hi, hmem, by rw [hplace]; congr 1; omega⟩
    · rintro ⟨i, part', place, hi, hmem, hplace⟩
      cases i with
      | zero =>
        obtain rfl := Option.some.inj hi
        exact .inl ⟨(place, e.2), hmem, Prod.ext hplace.symm rfl⟩
      | succ i => exact .inr ⟨i, part', place, hi, hmem, by rw [hplace]; congr 1; omega⟩

/-- Occurrences are listed in the order of reading. -/
def InReadingOrder (occurrences : List Occurrence) : Prop :=
  occurrences.Pairwise fun a b ↦ a.1 < b.1

/-- **Parts that are in the order of reading are so in a row.** -/
theorem inReadingOrder_placedFrom (h : ∀ part ∈ parts, InReadingOrder part) :
    InReadingOrder (placedFrom first parts) := by
  induction parts generalizing first with
  | nil => exact .nil
  | cons part parts ih =>
    obtain ⟨hpart, hparts⟩ := List.forall_mem_cons.1 h
    refine List.pairwise_append.2 ⟨?_, ih hparts, fun a ha b hb ↦ ?_⟩
    · exact List.pairwise_map.2 (hpart.imp fun hlt ↦ List.cons_lt_cons_iff.2 (.inr ⟨rfl, hlt⟩))
    · obtain ⟨a', -, rfl⟩ := List.mem_map.1 ha
      obtain ⟨i, -, place, -, -, hb⟩ := mem_placedFrom.1 hb
      rw [hb]
      exact List.cons_lt_cons_iff.2 (.inl (by omega))

theorem inReadingOrder_singleton : InReadingOrder [e] :=
  List.pairwise_singleton _ e

/-- What stands in two parts that are single placeholders. -/
theorem mem_placedFrom_two {l r : Placeholder} :
    (place, p) ∈ placedFrom 0 [[([], l)], [([], r)]] ↔
      (place = [0] ∧ p = l) ∨ (place = [1] ∧ p = r) := by
  simp [placedFrom]

/-- What stands in a part that is a single placeholder, and in the part behind it. -/
theorem mem_placedFrom_pair {x : Placeholder} : (place, p) ∈ placedFrom 0 [[([], x)], part] ↔
    (place = [0] ∧ p = x) ∨ ∃ rest, (rest, p) ∈ part ∧ place = 1 :: rest := by
  simp [placedFrom, and_comm, eq_comm]

/-! ## Occurrences in patterns, lines and schemas -/

/-- What stands in a pattern, in the order of reading. -/
def Pattern.placed : Pattern → List Occurrence
  | atom p => [([], p)]
  | and p q => placedFrom 0 [[([], p)], [([], q)]]
  | or p q => placedFrom 0 [[([], p)], [([], q)]]
  | not p => placedFrom 0 [[([], p)]]
  | imp p q => placedFrom 0 [[([], p)], [([], q)]]
  | falsum => []
  | verum => []
  | all x a => placedFrom 0 [[([], x)], a.placed]
  | ex x a => placedFrom 0 [[([], x)], a.placed]
  | substitution f x y => placedFrom 0 [[([], f)], [([], x)], [([], y)]]

/-- What stands in a line, in the order of reading. -/
def SequentPattern.placed (s : SequentPattern) : List Occurrence :=
  placedFrom 0 [s.hypothesis.toList.map fun p ↦ ([], p), s.pattern.placed]

/-- What stands in a schema, in the order of reading. -/
def Schema.placed (s : Schema) : List Occurrence :=
  placedFrom 0 (s.conclusion.placed :: s.premises.map SequentPattern.placed)

namespace Pattern

variable {a : Pattern}

theorem map_snd_placed (a : Pattern) : a.placed.map Prod.snd = a.occurrences := by
  induction a with
  | all x a ih => simp [placed, occurrences, map_snd_placedFrom, ih]
  | ex x a ih => simp [placed, occurrences, map_snd_placedFrom, ih]
  | _ => rfl

theorem inReadingOrder_placed (a : Pattern) : InReadingOrder a.placed := by
  induction a with
  | atom p => exact inReadingOrder_singleton
  | falsum => exact .nil
  | verum => exact .nil
  | all x a ih => exact inReadingOrder_placedFrom (by simp [ih, inReadingOrder_singleton])
  | ex x a ih => exact inReadingOrder_placedFrom (by simp [ih, inReadingOrder_singleton])
  | _ => exact inReadingOrder_placedFrom (by simp [inReadingOrder_singleton])

theorem At.mem_placed (h : a.At place p) : (place, p) ∈ a.placed := by
  induction h with
  | allBody x _ ih => exact mem_placedFrom_pair.2 (.inr ⟨_, ih, rfl⟩)
  | exBody x _ ih => exact mem_placedFrom_pair.2 (.inr ⟨_, ih, rfl⟩)
  | _ => simp [placed, placedFrom]

theorem at_of_mem_placed (h : (place, p) ∈ a.placed) : a.At place p := by
  induction a generalizing place with
  | atom q =>
    obtain ⟨rfl, rfl⟩ : place = [] ∧ p = q := by simpa [placed] using h
    exact .atom p
  | and l r =>
    rcases mem_placedFrom_two.1 h with ⟨rfl, rfl⟩ | ⟨rfl, rfl⟩
    · exact .andLeft p r
    · exact .andRight l p
  | or l r =>
    rcases mem_placedFrom_two.1 h with ⟨rfl, rfl⟩ | ⟨rfl, rfl⟩
    · exact .orLeft p r
    · exact .orRight l p
  | not q =>
    obtain ⟨rfl, rfl⟩ : place = [0] ∧ p = q := by simpa [placed, placedFrom] using h
    exact .not p
  | imp l r =>
    rcases mem_placedFrom_two.1 h with ⟨rfl, rfl⟩ | ⟨rfl, rfl⟩
    · exact .impLeft p r
    · exact .impRight l p
  | falsum => cases h
  | verum => cases h
  | all x a ih =>
    rcases mem_placedFrom_pair.1 h with ⟨rfl, rfl⟩ | ⟨rest, hrest, rfl⟩
    · exact .allBound p a
    · exact .allBody x (ih hrest)
  | ex x a ih =>
    rcases mem_placedFrom_pair.1 h with ⟨rfl, rfl⟩ | ⟨rest, hrest, rfl⟩
    · exact .exBound p a
    · exact .exBody x (ih hrest)
  | substitution f x y =>
    have h : (place = [0] ∧ p = f) ∨ (place = [1] ∧ p = x) ∨ (place = [2] ∧ p = y) := by
      simpa [placed, placedFrom] using h
    rcases h with ⟨rfl, rfl⟩ | ⟨rfl, rfl⟩ | ⟨rfl, rfl⟩
    · exact .substitutionBody p x y
    · exact .substitutionLeft f p y
    · exact .substitutionRight f x p

/-- What is listed of a pattern is what stands in it. -/
theorem mem_placed : (place, p) ∈ a.placed ↔ a.At place p :=
  ⟨at_of_mem_placed, At.mem_placed⟩

end Pattern

namespace SequentPattern

variable {s : SequentPattern}

theorem map_snd_placed (s : SequentPattern) : s.placed.map Prod.snd = s.occurrences := by
  simp [placed, occurrences, map_snd_placedFrom, Pattern.map_snd_placed, Function.comp_def]

theorem inReadingOrder_placed (s : SequentPattern) : InReadingOrder s.placed := by
  have hhypothesis : InReadingOrder (s.hypothesis.toList.map fun p ↦ (([] : Place), p)) := by
    cases s.hypothesis with
    | none => exact .nil
    | some p => exact inReadingOrder_singleton
  exact inReadingOrder_placedFrom (by simp [hhypothesis, s.pattern.inReadingOrder_placed])

/-- What is listed of a line is what stands in it. -/
theorem mem_placed : (place, p) ∈ s.placed ↔ s.At place p := by
  have hparts : (place, p) ∈ s.placed ↔ (s.hypothesis = some p ∧ place = [0]) ∨
      ∃ rest, s.pattern.At rest p ∧ place = 1 :: rest := by
    simp [placed, placedFrom, Pattern.mem_placed, eq_comm]
  rw [hparts]
  constructor
  · rintro (⟨h, rfl⟩ | ⟨rest, h, rfl⟩)
    · exact .hypothesis h
    · exact .pattern h
  · rintro (h | h)
    · exact .inl ⟨h, rfl⟩
    · exact .inr ⟨_, h, rfl⟩

end SequentPattern

namespace Schema

variable {s : Schema}

theorem map_snd_placed (s : Schema) : s.placed.map Prod.snd = s.occurrences := by
  rw [placed, map_snd_placedFrom, List.flatMap_cons, SequentPattern.map_snd_placed,
    List.flatMap_map, occurrences]
  simp only [SequentPattern.map_snd_placed]

theorem inReadingOrder_placed (s : Schema) : InReadingOrder s.placed := by
  refine inReadingOrder_placedFrom (List.forall_mem_cons.2 ⟨s.conclusion.inReadingOrder_placed, ?_⟩)
  exact List.forall_mem_map.2 fun line _ ↦ line.inReadingOrder_placed

/-- What is listed of a schema is what stands in it. -/
theorem mem_placed : (place, p) ∈ s.placed ↔ s.At place p := by
  rw [placed, mem_placedFrom]
  constructor
  · rintro ⟨i, part, rest, hi, hmem, rfl⟩
    rw [Nat.zero_add]
    cases i with
    | zero =>
      obtain rfl := Option.some.inj hi
      exact .conclusion (SequentPattern.mem_placed.1 hmem)
    | succ i =>
      obtain ⟨line, hline, rfl⟩ : ∃ line, s.premises[i]? = some line ∧ line.placed = part := by
        simpa using hi
      exact .premise hline (SequentPattern.mem_placed.1 hmem)
  · rintro (h | @⟨i, line, rest, _, hline, h⟩)
    · exact ⟨0, _, _, rfl, SequentPattern.mem_placed.2 h, rfl⟩
    · have hpart : (s.premises.map SequentPattern.placed)[i]? = some line.placed := by
        rw [List.getElem?_map, hline, Option.map_some]
      exact ⟨i + 1, _, rest, hpart, SequentPattern.mem_placed.2 h, by rw [Nat.zero_add]⟩

/-- **The placeholders of a schema are listed by first occurrence.**  Each is listed once, a
placeholder is listed if and only if it stands somewhere in the schema, and one that is listed
before another has a place in front of all places of the other. -/
theorem placeholders_firstOccurrence (s : Schema) :
    s.placeholders.Nodup ∧ (∀ p, p ∈ s.placeholders ↔ ∃ place, s.At place p) ∧
      s.placeholders.Pairwise fun p q ↦
        ∃ place, s.At place p ∧ ∀ place', s.At place' q → place < place' := by
  have hlisted : s.placeholders = (s.placed.map Prod.snd).eraseDups := by
    rw [placeholders, distinct_eq_eraseDups, map_snd_placed]
  refine ⟨nodup_distinct s.occurrences, fun p ↦ ?_, ?_⟩
  · rw [hlisted, List.mem_eraseDups, List.mem_map]
    constructor
    · rintro ⟨⟨place, q⟩, hmem, rfl⟩
      exact ⟨place, mem_placed.1 hmem⟩
    · rintro ⟨place, h⟩
      exact ⟨(place, p), mem_placed.2 h, rfl⟩
  · rw [hlisted]
    refine (pairwise_eraseDups_of_pairwise_fst s.inReadingOrder_placed).imp ?_
    rintro p q ⟨place, hmem, hbefore⟩
    exact ⟨place, mem_placed.1 hmem, fun place' h ↦ hbefore place' (mem_placed.2 h)⟩

/-- The elimination of an existential quantifier: the conclusion comes first, and the formula that
is bound by the quantifier occurs again as an added hypothesis. -/
example :
    let s : Schema :=
      { rule := .existsElim
        premises := [{ pattern := .ex (.element "x") (.atom (.formula 0)) },
          { hypothesis := some (.formula 0), pattern := .atom (.formula 1) }]
        conclusion := { pattern := .atom (.formula 1) } }
    s.placeholders = [.formula 1, .element "x", .formula 0] := by
  decide

end Schema

end Sequitur
