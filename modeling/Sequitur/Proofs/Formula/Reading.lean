import Sequitur.Sequent.Basic

/-!
# What is shown can be read

A formula is shown with every compound in parentheses, so as long as the names in it are plain the
text has one reading.  A reader says so: it gives back the formula at the beginning of a text, but
for the kinds of the names, which are not shown (`Formula.formula?_shown`).  The same holds for
sequents, of which the side conditions are not shown (`Sequent.read?_shown`).  Two formulas or
sequents are therefore shown alike exactly if they are alike (`display_eq_iff`).

The reader goes down with the formula, and knows by what comes next where a part ends: a formula is
followed by a blank, a comma, a closing parenthesis, or nothing.  A name that is followed by an
opening parenthesis belongs to a predicate, any other is an atom.

## What is here

* `Identifier.Plain`, `Formula.Plain`, `Sequent.Plain`.
* `Formula.forgetKinds` — a formula in which all names are of one kind.
* `Reader.formula?`, `Sequent.read?`.
* `display_eq_iff` — what is shown alike is alike.
-/

set_option autoImplicit false

namespace Sequitur

/-! ## Names -/

namespace Identifier

/-- The characters that give a text its structure. -/
def reserved : List Char :=
  ['(', ')', ',', '.', ' ', '∧', '∨', '¬', '→', '⊤', '⊥', '∀', '∃', '⊢']

/-- A name that cannot be taken for anything else. -/
structure Plain (x : Identifier) : Prop where
  /-- There is something to be read. -/
  ne_empty : x.name ≠ ""
  /-- Nothing in it has a meaning of its own. -/
  unreserved : ∀ c ∈ x.name.toList, c ∉ reserved

instance (x : Identifier) : Decidable x.Plain :=
  decidable_of_iff (x.name ≠ "" ∧ x.name.toList.all (· ∉ reserved) = true)
    ⟨fun h ↦ ⟨h.1, by simpa using h.2⟩, fun h ↦ ⟨h.1, by simpa using h.2⟩⟩

/-- A name without its kind, as one of the proof level. -/
def forgetKind (x : Identifier) : Identifier :=
  .literal x.name

theorem Plain.exists_cons {x : Identifier} (h : x.Plain) :
    ∃ c cs, x.name.toList = c :: cs ∧ c ∉ reserved := by
  have hne : x.name.toList ≠ [] := fun hnil ↦ h.ne_empty (String.toList_eq_nil_iff.1 hnil)
  obtain ⟨c, cs, hname⟩ := List.exists_cons_of_ne_nil hne
  exact ⟨c, cs, hname, h.unreserved c (hname ▸ List.mem_cons_self)⟩

end Identifier

namespace Formula

/-- All names in a formula. -/
def identifiers : Formula → List Identifier
  | and a b => a.identifiers ++ b.identifiers
  | or a b => a.identifiers ++ b.identifiers
  | not a => a.identifiers
  | atom x => [x]
  | imp a b => a.identifiers ++ b.identifiers
  | verum => []
  | falsum => []
  | all x a => x :: a.identifiers
  | ex x a => x :: a.identifiers
  | predicate p xs => p :: xs

/-- All names in a formula are plain. -/
def Plain (f : Formula) : Prop :=
  ∀ x ∈ f.identifiers, x.Plain

instance (f : Formula) : Decidable f.Plain :=
  inferInstanceAs (Decidable (∀ x ∈ f.identifiers, x.Plain))

/-- A formula without the kinds of its names. -/
def forgetKinds : Formula → Formula
  | and a b => and a.forgetKinds b.forgetKinds
  | or a b => or a.forgetKinds b.forgetKinds
  | not a => not a.forgetKinds
  | atom x => atom x.forgetKind
  | imp a b => imp a.forgetKinds b.forgetKinds
  | verum => verum
  | falsum => falsum
  | all x a => all x.forgetKind a.forgetKinds
  | ex x a => ex x.forgetKind a.forgetKinds
  | predicate p xs => predicate p.forgetKind (xs.map Identifier.forgetKind)

end Formula

/-! ## Readers -/

/-- A reader of the beginning of a text, which gives what follows as well. -/
abbrev Reader (α : Type) := List Char → Option (α × List Char)

namespace Reader

variable {α : Type}

/-- A text without what it begins with. -/
def token? : List Char → List Char → Option (List Char)
  | [], s => some s
  | c :: cs, d :: s => if c = d then token? cs s else none
  | _ :: _, [] => none

/-- The name at the beginning of a text, of which only the spelling is known. -/
def name? : Reader Identifier := fun s ↦
  some (.literal (String.ofList (s.takeWhile (· ∉ Identifier.reserved))),
    s.dropWhile (· ∉ Identifier.reserved))

/-- At most so many items, separated by commas. -/
def separated? (item : Reader α) : Nat → Reader (List α)
  | 0, _ => none
  | bound + 1, s => do
    let (x, s) ← item s
    match s with
    | ',' :: ' ' :: s => do
      let (xs, s) ← separated? item bound s
      some (x :: xs, s)
    | s => some ([x], s)

/-- The compound that a symbol between two sides stands for. -/
def connective? : Char → Option (Formula → Formula → Formula)
  | '∧' => some .and
  | '∨' => some .or
  | '→' => some .imp
  | _ => none

/-- The compound that a symbol in front of a variable stands for. -/
def quantifier? : Char → Option (Identifier → Formula → Formula)
  | '∀' => some .all
  | '∃' => some .ex
  | _ => none

/-- Two sides with a symbol between them, up to the closing parenthesis. -/
def binary? (part : Reader Formula) : Reader Formula := fun s ↦ do
  let (a, s) ← part s
  match s with
  | ' ' :: c :: ' ' :: s => do
    let compound ← connective? c
    let (b, s) ← part s
    some (compound a b, ← token? [')'] s)
  | _ => none

/-- What stands between parentheses, up to the closing one. -/
def compound? (part : Reader Formula) : Reader Formula
  | [] => none
  | c :: s =>
    if c = '¬' then do
      let (a, s) ← part s
      some (.not a, ← token? [')'] s)
    else
      match quantifier? c with
      | some compound => do
        let (x, s) ← name? s
        let (a, s) ← part (← token? ['.', ' '] s)
        some (compound x a, ← token? [')'] s)
      | none => binary? part (c :: s)

/-- A name, with at most so many arguments if there are any. -/
def named? (bound : Nat) : Reader Formula := fun s ↦ do
  let (x, s) ← name? s
  match s with
  | '(' :: ')' :: s => some (.predicate x [], s)
  | '(' :: s => do
    let (xs, s) ← separated? name? bound s
    some (.predicate x xs, ← token? [')'] s)
  | s => some (.atom x, s)

/-- A formula that is at most so high. -/
def formula? : Nat → Reader Formula
  | 0, _ => none
  | _ + 1, '⊤' :: s => some (.verum, s)
  | _ + 1, '⊥' :: s => some (.falsum, s)
  | bound + 1, '(' :: s => compound? (formula? bound) s
  | bound + 1, s => named? bound s

/-! ### Names -/

/-- A text goes on with a character that no name has. -/
def EndsName (rest : List Char) : Prop :=
  ∀ c ∈ rest.head?, c ∈ Identifier.reserved

/-- A text goes on with what may follow a formula. -/
def Stops (rest : List Char) : Prop :=
  ∀ c ∈ rest.head?, c ∈ [' ', ')', ',']

theorem stops_nil : Stops [] := by
  simp [Stops]

theorem Stops.endsName {rest : List Char} (h : Stops rest) : EndsName rest := by
  intro c hc
  have hmem := h c hc
  simp only [List.mem_cons, List.not_mem_nil, or_false] at hmem
  rcases hmem with rfl | rfl | rfl <;> decide

theorem name?_append {x : Identifier} (hx : x.Plain) {rest : List Char} (hrest : EndsName rest) :
    name? (x.name.toList ++ rest) = some (x.forgetKind, rest) := by
  have hplain : ∀ c ∈ x.name.toList, decide (c ∉ Identifier.reserved) = true :=
    fun c hc ↦ decide_eq_true (hx.unreserved c hc)
  rw [name?, List.takeWhile_append_of_pos hplain, List.dropWhile_append_of_pos hplain]
  cases rest with
  | nil => simp [Identifier.forgetKind]
  | cons c rest =>
    have hc : c ∈ Identifier.reserved := hrest c rfl
    rw [List.takeWhile_cons_of_neg (by simpa using hc),
      List.dropWhile_cons_of_neg (by simpa using hc), List.append_nil, String.ofList_toList]
    rfl

/-! ### Lists -/

/-- Items are read if each of them is, in front of what may follow it. -/
theorem separated?_intercalate {β : Type} (item : Reader α) (shown : β → List Char) (f : β → α)
    {xs : List β} (hxs : xs ≠ [])
    (hitem : ∀ x ∈ xs, ∀ rest, Stops rest → item (shown x ++ rest) = some (f x, rest))
    {bound : Nat} (hbound : xs.length ≤ bound) {rest : List Char} (hrest : Stops rest)
    (hcomma : rest.head? ≠ some ',') :
    separated? item bound ([',', ' '].intercalate (xs.map shown) ++ rest) =
      some (xs.map f, rest) := by
  induction xs generalizing bound with
  | nil => exact absurd rfl hxs
  | cons x xs ih =>
    obtain ⟨bound, rfl⟩ := Nat.exists_eq_add_one_of_ne_zero (Nat.ne_zero_of_lt hbound)
    obtain ⟨hx, hitem⟩ := List.forall_mem_cons.1 hitem
    cases xs with
    | nil =>
      rw [List.map_singleton, List.intercalate_singleton, separated?, hx rest hrest]
      cases rest with
      | nil => rfl
      | cons c rest =>
        have hc : c ≠ ',' := fun heq ↦ hcomma (congrArg some heq)
        simp [hc]
    | cons y ys =>
      have hstops :
          Stops (',' :: ' ' :: ([',', ' '].intercalate ((y :: ys).map shown) ++ rest)) := by
        rintro c ⟨⟩
        simp
      have htext : [',', ' '].intercalate ((x :: y :: ys).map shown) ++ rest =
          shown x ++ ',' :: ' ' :: ([',', ' '].intercalate ((y :: ys).map shown) ++ rest) := by
        simp [List.intercalate_cons_cons]
      rw [htext, separated?, hx _ hstops]
      simp only [Option.bind_eq_bind, Option.bind_some]
      rw [ih (by simp) hitem (Nat.le_of_succ_le_succ hbound)]
      rfl

end Reader

/-! ## Formulas -/

namespace Formula

open Reader

/-- How many compounds are nested in one another, or how many arguments there are. -/
def height : Formula → Nat
  | and a b => max a.height b.height + 1
  | or a b => max a.height b.height + 1
  | not a => a.height + 1
  | atom _ => 1
  | imp a b => max a.height b.height + 1
  | verum => 1
  | falsum => 1
  | all _ a => a.height + 1
  | ex _ a => a.height + 1
  | predicate _ xs => xs.length + 1

/-- The characters that a formula is shown as. -/
def shown : Formula → List Char
  | and a b => '(' :: (a.shown ++ ' ' :: '∧' :: ' ' :: (b.shown ++ [')']))
  | or a b => '(' :: (a.shown ++ ' ' :: '∨' :: ' ' :: (b.shown ++ [')']))
  | not a => '(' :: '¬' :: (a.shown ++ [')'])
  | atom x => x.name.toList
  | imp a b => '(' :: (a.shown ++ ' ' :: '→' :: ' ' :: (b.shown ++ [')']))
  | verum => ['⊤']
  | falsum => ['⊥']
  | all x a => '(' :: '∀' :: (x.name.toList ++ '.' :: ' ' :: (a.shown ++ [')']))
  | ex x a => '(' :: '∃' :: (x.name.toList ++ '.' :: ' ' :: (a.shown ++ [')']))
  | predicate p xs =>
    p.name.toList ++ '(' :: ([',', ' '].intercalate (xs.map (·.name.toList)) ++ [')'])

theorem toList_display (f : Formula) : f.display.toList = f.shown := by
  induction f with
  | predicate p xs =>
    have hcomma : ", ".toList = [',', ' '] := rfl
    simp [display, shown, Identifier.commaSeparated, String.toList_intercalate, hcomma,
      Function.comp_def]
  | _ => simp_all [display, shown]

/-- What a formula is shown with at first: a parenthesis, a constant or a name. -/
theorem Plain.exists_cons {f : Formula} (h : f.Plain) :
    ∃ c cs, f.shown = c :: cs ∧ (c ∈ ['(', '⊤', '⊥'] ∨ c ∉ Identifier.reserved) := by
  cases f with
  | and a b => exact ⟨'(', _, rfl, .inl (by simp)⟩
  | or a b => exact ⟨'(', _, rfl, .inl (by simp)⟩
  | not a => exact ⟨'(', _, rfl, .inl (by simp)⟩
  | imp a b => exact ⟨'(', _, rfl, .inl (by simp)⟩
  | verum => exact ⟨'⊤', _, rfl, .inl (by simp)⟩
  | falsum => exact ⟨'⊥', _, rfl, .inl (by simp)⟩
  | all x a => exact ⟨'(', _, rfl, .inl (by simp)⟩
  | ex x a => exact ⟨'(', _, rfl, .inl (by simp)⟩
  | atom x =>
    obtain ⟨c, cs, hname, hc⟩ := (h x (by simp [identifiers])).exists_cons
    exact ⟨c, cs, hname, .inr hc⟩
  | predicate p xs =>
    obtain ⟨c, cs, hname, hc⟩ := (h p (by simp [identifiers])).exists_cons
    exact ⟨c, _, by rw [shown, hname, List.cons_append], .inr hc⟩

/-- Where no sign of a negation or a quantifier stands, there are two sides. -/
theorem compound?_shown {f : Formula} (hf : f.Plain) (part : Reader Formula) (rest : List Char) :
    compound? part (f.shown ++ rest) = binary? part (f.shown ++ rest) := by
  obtain ⟨c, cs, hshown, hc⟩ := hf.exists_cons
  have hnot : c ≠ '¬' := by
    rintro rfl
    revert hc
    decide
  have hquantifier : quantifier? c = none := by
    rw [quantifier?]
    all_goals
      rintro rfl
      revert hc
      decide
  rw [hshown, List.cons_append, compound?, if_neg hnot, hquantifier]

/-- Two sides are read if each of them is, in front of what follows it. -/
theorem formula?_connective {c : Char} {compound : Formula → Formula → Formula}
    (hc : connective? c = some compound) {a b a' b' : Formula} (ha : a.Plain) {bound : Nat}
    (hreadA : ∀ rest, Stops rest → formula? bound (a.shown ++ rest) = some (a', rest))
    (hreadB : ∀ rest, Stops rest → formula? bound (b.shown ++ rest) = some (b', rest))
    (rest : List Char) :
    formula? (bound + 1) ('(' :: (a.shown ++ ' ' :: c :: ' ' :: (b.shown ++ ')' :: rest))) =
      some (compound a' b', rest) := by
  rw [formula?, compound?_shown ha, binary?, hreadA _ (by simp [Stops])]
  simp only [hc, Option.bind_eq_bind, Option.bind_some]
  rw [hreadB _ (by simp [Stops])]
  rfl

/-- A quantified formula is read if its variable is plain and what it is about is read. -/
theorem formula?_quantifier {c : Char} {compound : Identifier → Formula → Formula}
    (hc : quantifier? c = some compound) {x : Identifier} (hx : x.Plain) {a a' : Formula}
    {bound : Nat}
    (hread : ∀ rest, Stops rest → formula? bound (a.shown ++ rest) = some (a', rest))
    (rest : List Char) :
    formula? (bound + 1)
        ('(' :: c :: (x.name.toList ++ '.' :: ' ' :: (a.shown ++ ')' :: rest))) =
      some (compound x.forgetKind a', rest) := by
  have hnot : c ≠ '¬' := by
    rintro rfl
    cases hc
  rw [formula?, compound?, if_neg hnot]
  simp only [hc]
  rw [name?_append hx (by simp [EndsName, Identifier.reserved])]
  simp only [token?, if_true, Option.bind_eq_bind, Option.bind_some]
  rw [hread _ (by simp [Stops])]
  rfl

/-- Where no sign of a constant or a compound stands, there is a name. -/
theorem formula?_name {x : Identifier} (hx : x.Plain) (bound : Nat) (rest : List Char) :
    formula? (bound + 1) (x.name.toList ++ rest) = named? bound (x.name.toList ++ rest) := by
  obtain ⟨c, cs, hname, hc⟩ := hx.exists_cons
  rw [hname, List.cons_append, formula?]
  all_goals
    rintro s ⟨⟩
    revert hc
    decide

theorem named?_atom {x : Identifier} (hx : x.Plain) (bound : Nat) {rest : List Char}
    (hrest : Stops rest) :
    named? bound (x.name.toList ++ rest) = some (.atom x.forgetKind, rest) := by
  rw [named?, name?_append hx hrest.endsName]
  cases rest with
  | nil => rfl
  | cons c rest =>
    have hc : c ∈ [' ', ')', ','] := hrest c rfl
    simp only [List.mem_cons, List.not_mem_nil, or_false] at hc
    rcases hc with rfl | rfl | rfl <;> rfl

/-- The arguments of a predicate are read up to the closing parenthesis. -/
theorem named?_predicate {p : Identifier} {xs : List Identifier} (hp : p.Plain)
    (hxs : ∀ x ∈ xs, x.Plain) {bound : Nat} (hbound : xs.length ≤ bound) (rest : List Char) :
    named? bound ((predicate p xs).shown ++ rest) = some ((predicate p xs).forgetKinds, rest) := by
  have htext : (predicate p xs).shown ++ rest = p.name.toList ++
      '(' :: ([',', ' '].intercalate (xs.map (·.name.toList)) ++ ')' :: rest) := by
    simp [shown]
  have hopen : ∀ s, EndsName ('(' :: s) := by
    rintro s c ⟨⟩
    decide
  rw [htext, named?, name?_append hp (hopen _)]
  cases xs with
  | nil => rfl
  | cons x xs =>
    have hstops : Stops (')' :: rest) := by simp [Stops]
    have hread := separated?_intercalate name? (·.name.toList) Identifier.forgetKind
      (List.cons_ne_nil x xs) (fun y hy rest hrest ↦ name?_append (hxs y hy) hrest.endsName) hbound
      hstops (by simp)
    obtain ⟨c, cs, hname, hc⟩ := (hxs x List.mem_cons_self).exists_cons
    rw [List.map_cons, hname, List.intercalate_cons_cons_left, List.cons_append] at hread ⊢
    have hne : c ≠ ')' := by
      rintro rfl
      revert hc
      decide
    simp [hne, hread, token?, forgetKinds]

/-- **A plain formula is read from what it is shown as**, but for the kinds of its names, whatever
follows that may follow a formula. -/
theorem formula?_shown {f : Formula} (hf : f.Plain) {bound : Nat} (hbound : f.height ≤ bound)
    {rest : List Char} (hrest : Stops rest) :
    formula? bound (f.shown ++ rest) = some (f.forgetKinds, rest) := by
  induction f generalizing bound rest <;>
    obtain ⟨bound, rfl⟩ := Nat.exists_eq_add_one_of_ne_zero (Nat.ne_zero_of_lt hbound)
  case and a b iha ihb | or a b iha ihb | imp a b iha ihb =>
    obtain ⟨ha, hb⟩ := List.forall_mem_append.1 hf
    obtain ⟨hle, hle'⟩ := Nat.max_le.1 (Nat.le_of_succ_le_succ hbound)
    simpa [shown, forgetKinds] using
      formula?_connective rfl ha (fun _ ↦ iha ha hle) (fun _ ↦ ihb hb hle') rest
  case not a ih =>
    have htext : (not a).shown ++ rest = '(' :: '¬' :: (a.shown ++ ')' :: rest) := by
      simp [shown]
    rw [htext, formula?, compound?, if_pos rfl,
      ih hf (Nat.le_of_succ_le_succ hbound) (by simp [Stops])]
    rfl
  case atom x =>
    have hx : x.Plain := hf x List.mem_cons_self
    rw [shown, formula?_name hx, named?_atom hx bound hrest]
    rfl
  case verum => rfl
  case falsum => rfl
  case all x a ih | ex x a ih =>
    obtain ⟨hx, ha⟩ := List.forall_mem_cons.1 hf
    simpa [shown, forgetKinds] using
      formula?_quantifier rfl hx (fun _ ↦ ih ha (Nat.le_of_succ_le_succ hbound)) rest
  case predicate p xs =>
    obtain ⟨hp, hxs⟩ := List.forall_mem_cons.1 hf
    rw [shown, List.append_assoc, formula?_name hp, ← List.append_assoc]
    exact named?_predicate hp hxs (Nat.le_of_succ_le_succ hbound) rest

/-- A formula is the whole of what it is shown as. -/
theorem formula?_whole {f : Formula} (hf : f.Plain) {bound : Nat} (hbound : f.height ≤ bound) :
    formula? bound f.shown = some (f.forgetKinds, []) := by
  have hread := formula?_shown hf hbound stops_nil
  rwa [List.append_nil] at hread

theorem shown_forgetKinds (f : Formula) : f.forgetKinds.shown = f.shown := by
  induction f with
  | predicate p xs =>
    simp [forgetKinds, shown, Identifier.forgetKind, Identifier.name, Function.comp_def]
  | _ => simp_all [forgetKinds, shown, Identifier.forgetKind, Identifier.name]

/-- Plain formulas that are shown alike are alike but for the kinds of their names. -/
theorem forgetKinds_eq_of_shown_eq {f g : Formula} (hf : f.Plain) (hg : g.Plain)
    (h : f.shown = g.shown) : f.forgetKinds = g.forgetKinds := by
  have hread := formula?_whole hf (Nat.le_max_left f.height g.height)
  rw [h, formula?_whole hg (Nat.le_max_right f.height g.height)] at hread
  exact (Prod.mk.inj (Option.some.inj hread)).1.symm

end Formula

/-! ## Sequents -/

namespace Sequent

open Reader

variable {s t : Sequent}

/-- All names in the hypotheses and the goal are plain. -/
def Plain (s : Sequent) : Prop :=
  (∀ f ∈ s.hypotheses, f.Plain) ∧ s.goal.Plain

instance (s : Sequent) : Decidable s.Plain :=
  inferInstanceAs (Decidable ((∀ f ∈ s.hypotheses, f.Plain) ∧ s.goal.Plain))

/-- The characters that a sequent is shown as. -/
def shown (s : Sequent) : List Char :=
  match s.hypotheses with
  | [] => '⊢' :: ' ' :: s.goal.shown
  | hs => [',', ' '].intercalate (hs.map Formula.shown) ++ ' ' :: '⊢' :: ' ' :: s.goal.shown

theorem toList_display (s : Sequent) : s.display.toList = s.shown := by
  obtain ⟨hypotheses, goal, conditions⟩ := s
  have hcomma : ", ".toList = [',', ' '] := rfl
  cases hypotheses <;>
    simp [display, shown, String.toList_intercalate, hcomma, Formula.toList_display,
      Function.comp_def]

/-- The hypotheses and the goal of a text, of which the formulas are at most so high and the
hypotheses at most so many. -/
def read? (bound : Nat) : List Char → Option (List Formula × Formula)
  | '⊢' :: ' ' :: s => do
    let (goal, _) ← formula? bound s
    some ([], goal)
  | s => do
    let (hypotheses, s) ← separated? (formula? bound) bound s
    let (goal, _) ← formula? bound (← token? [' ', '⊢', ' '] s)
    some (hypotheses, goal)

/-- The height of the highest formula, or how many hypotheses there are. -/
def height (s : Sequent) : Nat :=
  max s.goal.height (max s.hypotheses.length ((s.hypotheses.map Formula.height).max?.getD 0))

/-- **A plain sequent is read from what it is shown as**, but for the kinds of its names and the
conditions. -/
theorem read?_shown (h : s.Plain) {bound : Nat} (hbound : s.height ≤ bound) :
    read? bound s.shown = some (s.hypotheses.map Formula.forgetKinds, s.goal.forgetKinds) := by
  obtain ⟨hypotheses, goal, conditions⟩ := s
  obtain ⟨hplain, hgoal⟩ := h
  obtain ⟨hheight, hrest⟩ := Nat.max_le.1 hbound
  obtain ⟨hlength, hheights⟩ := Nat.max_le.1 hrest
  have hread := Formula.formula?_whole hgoal hheight
  have hitems : ∀ f ∈ hypotheses, ∀ rest, Stops rest →
      formula? bound (f.shown ++ rest) = some (f.forgetKinds, rest) := by
    intro f hf rest hstops
    have hle := List.le_max?_getD_of_mem (k := 0) (List.mem_map_of_mem (f := Formula.height) hf)
    exact Formula.formula?_shown (hplain f hf) (Nat.le_trans hle hheights) hstops
  cases hypotheses with
  | nil =>
    rw [shown, read?, hread]
    rfl
  | cons f fs =>
    have htext : shown ⟨f :: fs, goal, conditions⟩ =
        [',', ' '].intercalate ((f :: fs).map Formula.shown) ++
          ' ' :: '⊢' :: ' ' :: goal.shown := rfl
    have hstops : Stops (' ' :: '⊢' :: ' ' :: goal.shown) := by simp [Stops]
    have hall := separated?_intercalate (formula? bound) Formula.shown Formula.forgetKinds
      (List.cons_ne_nil f fs) hitems hlength hstops (by simp)
    -- a turnstile is not what a formula begins with
    obtain ⟨c, cs, hshown, hc⟩ := (hplain f List.mem_cons_self).exists_cons
    have hne : c ≠ '⊢' := by
      rintro rfl
      revert hc
      decide
    rw [htext]
    rw [List.map_cons, hshown, List.intercalate_cons_cons_left, List.cons_append] at hall ⊢
    rw [read?]
    · simp [hall, token?, hread]
    · exact fun _ heq ↦ hne (List.cons.inj heq).1

/-- What is not shown of a sequent are the kinds of its names and the conditions. -/
theorem shown_eq_of_forgetKinds_eq
    (hhypotheses : s.hypotheses.map Formula.forgetKinds = t.hypotheses.map Formula.forgetKinds)
    (hgoal : s.goal.forgetKinds = t.goal.forgetKinds) : s.shown = t.shown := by
  have hforget : ∀ u : Sequent,
      shown ⟨u.hypotheses.map Formula.forgetKinds, u.goal.forgetKinds, none⟩ = u.shown := by
    rintro ⟨_ | ⟨f, fs⟩, goal, conditions⟩ <;>
      simp [shown, Formula.shown_forgetKinds, Function.comp_def]
  rw [← hforget s, ← hforget t, hhypotheses, hgoal]

/-- Plain sequents that are shown alike are alike but for the kinds of their names and the
conditions. -/
theorem forgetKinds_eq_of_shown_eq (hs : s.Plain) (ht : t.Plain) (h : s.shown = t.shown) :
    s.hypotheses.map Formula.forgetKinds = t.hypotheses.map Formula.forgetKinds ∧
      s.goal.forgetKinds = t.goal.forgetKinds := by
  have hread := read?_shown hs (Nat.le_max_left s.height t.height)
  rw [h, read?_shown ht (Nat.le_max_right s.height t.height)] at hread
  obtain ⟨hhypotheses, hgoal⟩ := Prod.mk.inj (Option.some.inj hread)
  exact ⟨hhypotheses.symm, hgoal.symm⟩

end Sequent

/-! ## Shown alike -/

/-- **Formulas and sequents with plain names are shown alike exactly if they are alike**, but for
the kinds of the names and the conditions of a sequent, which are not shown. -/
theorem display_eq_iff :
    (∀ f g : Formula, f.Plain → g.Plain →
      (f.display = g.display ↔ f.forgetKinds = g.forgetKinds)) ∧
    ∀ s t : Sequent, s.Plain → t.Plain →
      (s.display = t.display ↔
        s.hypotheses.map Formula.forgetKinds = t.hypotheses.map Formula.forgetKinds ∧
          s.goal.forgetKinds = t.goal.forgetKinds) := by
  refine ⟨fun f g hf hg ↦ ?_, fun s t hs ht ↦ ?_⟩
  · rw [← String.toList_inj, f.toList_display, g.toList_display]
    refine ⟨Formula.forgetKinds_eq_of_shown_eq hf hg, fun h ↦ ?_⟩
    rw [← f.shown_forgetKinds, h, g.shown_forgetKinds]
  · rw [← String.toList_inj, s.toList_display, t.toList_display]
    exact ⟨Sequent.forgetKinds_eq_of_shown_eq hs ht,
      fun h ↦ Sequent.shown_eq_of_forgetKinds_eq h.1 h.2⟩

/-- What kind of name an argument is cannot be told, but two arguments of one hypothesis are told
from two hypotheses. -/
theorem display_eq_iff_arguments :
    let p := fun xs : List Identifier ↦ Formula.predicate (.literal "P") xs
    let x := Identifier.element "x"
    let y := Identifier.element "y"
    (p [x, y]).display = (p [.literal "x", y]).display ∧
      (⟨[p [x, y]], .falsum, none⟩ : Sequent).display ≠
        (⟨[p [x], p [y]], .falsum, none⟩ : Sequent).display := by
  refine ⟨(display_eq_iff.1 _ _ ?_ ?_).2 rfl, fun heq ↦ ?_⟩
  · decide
  · decide
  · have halike := (display_eq_iff.2 _ _ (by decide) (by decide)).1 heq
    exact absurd (congrArg List.length halike.1) (by decide)

end Sequitur
