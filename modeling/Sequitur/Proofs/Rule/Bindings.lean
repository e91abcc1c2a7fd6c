import Sequitur.Proofs.Distinct
import Sequitur.Rule.Bindings

/-!
# How bindings fill the placeholders of a schema

Bindings are collected one at a time, and the collection finds the placeholder for the next one by
counting.  That the count agrees with the order in which placeholders wait rests on an invariant
(`Bindings.Ordered`): there are no more bindings than placeholders, and no variable is bound before
all formulas are.  So the next placeholder is the first of those that remain (`Ordered.next?_eq`),
and a list of formulas followed by one of names goes to the placeholders of either kind one by one
(`pickAll_formulas`, `pickAll_names`).

## What is here

* `Schema.formulaPlaceholders`, `Schema.elementPlaceholders` — the placeholders of either kind.
* `Bindings.formulasLeft`, `Bindings.elementsLeft` — those without a binding.
-/

set_option autoImplicit false

namespace Sequitur

/-! ## The placeholders of either kind -/

namespace Placeholder

/-- The number of a formula placeholder. -/
def formula? : Placeholder → Option UInt32
  | formula n => some n
  | element _ => none

/-- The name of a variable placeholder. -/
def element? : Placeholder → Option String
  | formula _ => none
  | element x => some x

theorem formula?_injective (p q : Placeholder) (n : UInt32) (hp : p.formula? = some n)
    (hq : q.formula? = some n) : p = q := by
  cases p <;> cases q <;> simp_all [formula?]

theorem element?_injective (p q : Placeholder) (x : String) (hp : p.element? = some x)
    (hq : q.element? = some x) : p = q := by
  cases p <;> cases q <;> simp_all [element?]

/-- Every placeholder is of one kind. -/
theorem length_formula?_add_length_element? (ps : List Placeholder) :
    (ps.filterMap formula?).length + (ps.filterMap element?).length = ps.length := by
  induction ps with
  | nil => rfl
  | cons p ps ih =>
    rw [List.length_cons, ← ih]
    cases p with
    | formula n => exact Nat.add_right_comm _ 1 _
    | element x => rfl

end Placeholder

namespace Schema

/-- The formula placeholders that occur in a schema, each once, by first occurrence. -/
def formulaPlaceholders (s : Schema) : List UInt32 :=
  (s.occurrences.filterMap Placeholder.formula?).eraseDups

/-- The variable placeholders that occur in a schema, each once, by first occurrence. -/
def elementPlaceholders (s : Schema) : List String :=
  (s.occurrences.filterMap Placeholder.element?).eraseDups

end Schema

namespace Bindings

variable {b b' : Bindings} {f : Formula}

theorem formulaSlots_ofSchema (s : Schema) : (ofSchema s).formulaSlots = s.formulaPlaceholders := by
  have hslots : (ofSchema s).formulaSlots = s.placeholders.filterMap Placeholder.formula? :=
    List.filterMap_congr fun p _ ↦ by cases p <;> rfl
  rw [hslots, Schema.placeholders, filterMap_distinct Placeholder.formula?_injective,
    distinct_eq_eraseDups, Schema.formulaPlaceholders]

theorem elementSlots_ofSchema (s : Schema) : (ofSchema s).elementSlots = s.elementPlaceholders := by
  have hslots : (ofSchema s).elementSlots = s.placeholders.filterMap Placeholder.element? :=
    List.filterMap_congr fun p _ ↦ by cases p <;> rfl
  rw [hslots, Schema.placeholders, filterMap_distinct Placeholder.element?_injective,
    distinct_eq_eraseDups, Schema.elementPlaceholders]

/-- There is a placeholder to be bound for each that occurs. -/
theorem total_ofSchema (s : Schema) : (ofSchema s).total = s.occurrences.eraseDups.length := by
  have hparts := Placeholder.length_formula?_add_length_element? s.placeholders
  rw [Schema.placeholders, filterMap_distinct Placeholder.formula?_injective,
    filterMap_distinct Placeholder.element?_injective, distinct_eq_eraseDups,
    distinct_eq_eraseDups, distinct_eq_eraseDups] at hparts
  rw [total, formulaSlots_ofSchema, elementSlots_ofSchema, Schema.formulaPlaceholders,
    Schema.elementPlaceholders, hparts]

/-! ## The order of binding -/

/-- The formula placeholders without a binding. -/
def formulasLeft (b : Bindings) : List UInt32 :=
  b.formulaSlots.drop b.formulas.length

/-- The variable placeholders without a binding. -/
def elementsLeft (b : Bindings) : List String :=
  b.elementSlots.drop b.elements.length

/-- There are no more bindings than placeholders, and no variable is bound before all formulas
are. -/
structure Ordered (b : Bindings) : Prop where
  /-- There are no more formulas than placeholders for them. -/
  formulas_le : b.formulas.length ≤ b.formulaSlots.length
  /-- There are no more names than placeholders for them. -/
  elements_le : b.elements.length ≤ b.elementSlots.length
  /-- Formulas come first. -/
  formulas_first : b.formulasLeft ≠ [] → b.elements = []

theorem ordered_ofSchema (s : Schema) : (ofSchema s).Ordered where
  formulas_le := Nat.zero_le _
  elements_le := Nat.zero_le _
  formulas_first _ := rfl

/-- Once all formulas are bound, there are as many as placeholders for them. -/
theorem Ordered.length_formulas (h : b.Ordered) (hleft : b.formulasLeft = []) :
    b.formulas.length = b.formulaSlots.length :=
  Nat.le_antisymm h.formulas_le (List.drop_eq_nil_iff.1 hleft)

/-- Once all formulas are bound, what else is bound are names. -/
theorem Ordered.bound_of_nil (h : b.Ordered) (hleft : b.formulasLeft = []) :
    b.bound = b.formulaSlots.length + b.elements.length := by
  rw [bound, h.length_formulas hleft]

/-- As long as a formula placeholder waits, only formulas are bound. -/
theorem Ordered.bound_of_cons (h : b.Ordered) {n : UInt32} {rest : List UInt32}
    (hleft : b.formulasLeft = n :: rest) : b.bound = b.formulas.length := by
  rw [bound, h.formulas_first (by simp [hleft]), List.length_nil, Nat.add_zero]

/-- **The next placeholder is the first of those that remain.** -/
theorem Ordered.next?_eq (h : b.Ordered) : b.next? = b.remaining.head? := by
  cases hleft : b.formulasLeft with
  | nil =>
    have hbound := h.bound_of_nil hleft
    have hnone : b.formulaSlots[b.bound]? = none := by
      rw [List.getElem?_eq_none_iff, hbound]
      exact Nat.le_add_right _ _
    have hindex : b.bound - b.formulaSlots.length = b.elements.length := by
      rw [hbound, Nat.add_sub_cancel_left]
    rw [next?, hnone, hindex, ← List.head?_drop, remaining, ← formulasLeft, hleft, List.map_nil,
      List.nil_append, List.head?_map]
  | cons n rest =>
    have hsome : b.formulaSlots[b.bound]? = some n := by
      rw [h.bound_of_cons hleft, ← List.head?_drop, ← formulasLeft, hleft, List.head?_cons]
    rw [next?, hsome, remaining, ← formulasLeft, hleft, List.map_cons, List.cons_append,
      List.head?_cons]

/-! ## One more binding -/

/-- A formula bound to a placeholder. -/
def bindFormula (b : Bindings) (n : UInt32) (f : Formula) : Bindings :=
  { b with formulas := b.formulas ++ [⟨n, f⟩] }

/-- A name bound to a placeholder. -/
def bindName (b : Bindings) (x y : String) : Bindings :=
  { b with elements := b.elements ++ [⟨x, y⟩] }

section Formula

variable {n : UInt32} {rest : List UInt32} (hleft : b.formulasLeft = n :: rest)

include hleft

theorem formulasLeft_bindFormula : (b.bindFormula n f).formulasLeft = rest := by
  rw [formulasLeft, bindFormula, List.length_append, List.length_singleton,
    List.drop_add_one_eq_tail_drop, ← formulasLeft, hleft, List.tail_cons]

theorem Ordered.next?_formula (h : b.Ordered) : b.next? = some (.formula n) := by
  rw [h.next?_eq, remaining, ← formulasLeft, hleft]
  rfl

/-- A formula placeholder takes any formula. -/
theorem Ordered.pick_formula (h : b.Ordered) : b.pick f = .ok (b.bindFormula n f) := by
  rw [pick, h.next?_formula hleft]
  rfl

theorem Ordered.bindFormula (h : b.Ordered) : (b.bindFormula n f).Ordered where
  formulas_le := by
    have hlt : b.formulas.length < b.formulaSlots.length := by
      by_contra hle
      rw [formulasLeft, List.drop_eq_nil_iff.2 (Nat.le_of_not_lt hle)] at hleft
      cases hleft
    rw [Bindings.bindFormula, List.length_append, List.length_singleton]
    exact hlt
  elements_le := h.elements_le
  formulas_first _ := h.formulas_first (by simp [hleft])

end Formula

section Element

variable {x y : String} {rest : List String} (hnone : b.formulasLeft = [])
  (hleft : b.elementsLeft = x :: rest)

include hleft

theorem elementsLeft_bindName : (b.bindName x y).elementsLeft = rest := by
  rw [elementsLeft, bindName, List.length_append, List.length_singleton,
    List.drop_add_one_eq_tail_drop, ← elementsLeft, hleft, List.tail_cons]

include hnone

theorem Ordered.next?_element (h : b.Ordered) : b.next? = some (.element x) := by
  rw [h.next?_eq, remaining, ← formulasLeft, hnone, ← elementsLeft, hleft]
  rfl

/-- A variable placeholder takes an element. -/
theorem Ordered.pick_name (h : b.Ordered) :
    b.pick (.atom (.element y)) = .ok (b.bindName x y) := by
  rw [pick, h.next?_element hnone hleft]
  rfl

theorem Ordered.bindName (h : b.Ordered) : (b.bindName x y).Ordered where
  formulas_le := h.formulas_le
  elements_le := by
    have hlt : b.elements.length < b.elementSlots.length := by
      by_contra hle
      rw [elementsLeft, List.drop_eq_nil_iff.2 (Nat.le_of_not_lt hle)] at hleft
      cases hleft
    rw [Bindings.bindName, List.length_append, List.length_singleton]
    exact hlt
  formulas_first hne := absurd hnone hne

end Element

theorem Ordered.next?_full (h : b.Ordered) (hnone : b.formulasLeft = [])
    (hleft : b.elementsLeft = []) : b.next? = none := by
  rw [h.next?_eq, remaining, ← formulasLeft, hnone, ← elementsLeft, hleft]
  rfl

/-- A full collection takes nothing. -/
theorem Ordered.pick_full (h : b.Ordered) (hnone : b.formulasLeft = [])
    (hleft : b.elementsLeft = []) : b.pick f = .error (.full b.rule) := by
  rw [pick, h.next?_full hnone hleft]

/-! ## Many bindings -/

theorem pickAll_cons (f : Formula) (fs : List Formula) :
    b.pickAll (f :: fs) = b.pick f >>= fun b' ↦ b'.pickAll fs :=
  List.foldlM_cons

/-- **Formulas go to the formula placeholders one by one**, as long as there are any. -/
theorem Ordered.pickAll_formulas {fs : List Formula} (h : b.Ordered)
    (hle : fs.length ≤ b.formulasLeft.length) :
    ∃ b', b.pickAll fs = .ok b' ∧ b'.Ordered ∧ b'.formulasLeft = b.formulasLeft.drop fs.length ∧
      b' = { b with formulas := b.formulas ++ b.formulasLeft.zipWith .mk fs } := by
  induction fs generalizing b with
  | nil => exact ⟨b, rfl, h, rfl, by simp⟩
  | cons f fs ih =>
    obtain ⟨n, rest, hleft⟩ := List.exists_cons_of_length_pos (Nat.lt_of_lt_of_le (by simp) hle)
    have hrest := formulasLeft_bindFormula (f := f) hleft
    obtain ⟨b', hpick, hordered, hfinal, heq⟩ := ih (h.bindFormula hleft (f := f))
      (by simpa [hrest, hleft] using hle)
    refine ⟨b', ?_, hordered, ?_, ?_⟩
    · rw [pickAll_cons, h.pick_formula hleft]
      exact hpick
    · rw [hfinal, hrest, hleft, List.length_cons, List.drop_succ_cons]
    · rw [heq, hrest, hleft, List.zipWith_cons_cons]
      simp [Bindings.bindFormula]

/-- **Names go to the variable placeholders one by one** once all formulas are bound, and one name
too many is refused. -/
theorem Ordered.pickAll_names {names : List String} (h : b.Ordered) (hnone : b.formulasLeft = []) :
    b.pickAll (names.map fun y ↦ .atom (.element y)) =
      if names.length ≤ b.elementsLeft.length then
        .ok { b with elements := b.elements ++ b.elementsLeft.zipWith .mk names }
      else
        .error (.full b.rule) := by
  induction names generalizing b with
  | nil => simp [pickAll, pure, Except.pure]
  | cons y names ih =>
    rw [List.map_cons, pickAll_cons]
    cases hleft : b.elementsLeft with
    | nil =>
      rw [h.pick_full hnone hleft]
      rfl
    | cons x rest =>
      have hrest := elementsLeft_bindName (y := y) hleft
      have hgo := ih (h.bindName hnone hleft (y := y)) hnone
      rw [h.pick_name hnone hleft]
      refine hgo.trans ?_
      rw [hrest, List.length_cons, List.length_cons, List.zipWith_cons_cons]
      simp [Bindings.bindName]

/-! ## All bindings of a schema -/

/-- Formulas and names bound to the placeholders of a schema one by one. -/
def filled (s : Schema) (fs : List Formula) (names : List String) : Bindings :=
  { ofSchema s with
    formulas := s.formulaPlaceholders.zipWith .mk fs
    elements := s.elementPlaceholders.zipWith .mk names }

section Filled

variable {s : Schema} {fs : List Formula} {names : List String}

theorem length_formulas_filled (hfs : fs.length ≤ s.formulaPlaceholders.length) :
    (filled s fs names).formulas.length = fs.length :=
  List.length_zipWith.trans (Nat.min_eq_right hfs)

theorem length_elements_filled (hnames : names.length ≤ s.elementPlaceholders.length) :
    (filled s fs names).elements.length = names.length :=
  List.length_zipWith.trans (Nat.min_eq_right hnames)

/-- There are as many placeholders in a schema as of both kinds together. -/
theorem length_placeholders (s : Schema) : s.occurrences.eraseDups.length =
    s.formulaPlaceholders.length + s.elementPlaceholders.length := by
  rw [← total_ofSchema, total, formulaSlots_ofSchema, elementSlots_ofSchema]

/-- **Formulas followed by names fill the placeholders of a schema**, unless there are too many of
them. -/
theorem pickAll_ofSchema (hfs : fs.length ≤ s.formulaPlaceholders.length)
    (hnames : names ≠ [] → fs.length = s.formulaPlaceholders.length) :
    (ofSchema s).pickAll (fs ++ names.map fun y ↦ .atom (.element y)) =
      if fs.length + names.length ≤ s.occurrences.eraseDups.length then .ok (filled s fs names)
      else .error (.full s.rule) := by
  have hleft : (ofSchema s).formulasLeft = s.formulaPlaceholders := formulaSlots_ofSchema s
  have hleft' : (ofSchema s).elementsLeft = s.elementPlaceholders := elementSlots_ofSchema s
  have hfits : fs.length ≤ (ofSchema s).formulasLeft.length := hleft ▸ hfs
  obtain ⟨b, hpick, hordered, hrest, hb⟩ := (ordered_ofSchema s).pickAll_formulas hfits
  rw [hleft] at hrest hb
  have hrun : (ofSchema s).pickAll (fs ++ names.map fun y ↦ .atom (.element y)) =
      b.pickAll (names.map fun y ↦ .atom (.element y)) := by
    rw [pickAll, List.foldlM_append, ← pickAll, hpick]
    rfl
  rw [hrun]
  by_cases hnil : names = []
  · have hfits : fs.length + 0 ≤ s.occurrences.eraseDups.length := by
      rw [length_placeholders]
      omega
    subst hnil
    rw [List.length_nil, if_pos hfits, hb]
    simp [pickAll, filled, ofSchema, pure, Except.pure]
  · have hall := hnames hnil
    have helements : b.elementsLeft = s.elementPlaceholders := by rw [hb]; exact hleft'
    rw [hordered.pickAll_names (by rw [hrest, hall, List.drop_length]), helements,
      length_placeholders, hall]
    simp only [Nat.add_le_add_iff_left, hb]
    rfl

/-- As many formulas as placeholders for them are bound one by one. -/
theorem formulas_filled (names : List String)
    (hfs : fs.length = s.formulaPlaceholders.length) :
    (filled s fs names).formulas.map FormulaBinding.placeholder = s.formulaPlaceholders ∧
      (filled s fs names).formulas.map FormulaBinding.formula = fs := by
  have hpairs : (filled s fs names).formulas =
      (s.formulaPlaceholders.zip fs).map (Function.uncurry FormulaBinding.mk) :=
    List.map_uncurry_zip_eq_zipWith.symm
  rw [hpairs, List.map_map, List.map_map]
  exact ⟨List.map_fst_zip (Nat.le_of_eq hfs.symm), List.map_snd_zip (Nat.le_of_eq hfs)⟩

/-- As many names as placeholders for them are bound one by one. -/
theorem elements_filled (fs : List Formula)
    (hnames : names.length = s.elementPlaceholders.length) :
    (filled s fs names).elements.map ElementBinding.placeholder = s.elementPlaceholders ∧
      (filled s fs names).elements.map ElementBinding.name = names := by
  have hpairs : (filled s fs names).elements =
      (s.elementPlaceholders.zip names).map (Function.uncurry ElementBinding.mk) :=
    List.map_uncurry_zip_eq_zipWith.symm
  rw [hpairs, List.map_map, List.map_map]
  exact ⟨List.map_fst_zip (Nat.le_of_eq hnames.symm), List.map_snd_zip (Nat.le_of_eq hnames)⟩

/-- Nothing is missing when there are as many as placeholders. -/
theorem isComplete_filled (hfs : fs.length ≤ s.formulaPlaceholders.length)
    (hnames : names.length ≤ s.elementPlaceholders.length) :
    (filled s fs names).isComplete = true ↔
      s.occurrences.eraseDups.length ≤ fs.length + names.length := by
  have htotal : (filled s fs names).total = s.occurrences.eraseDups.length := total_ofSchema s
  rw [isComplete, decide_eq_true_iff, htotal, bound, length_formulas_filled hfs,
    length_elements_filled hnames]

end Filled

end Bindings

end Sequitur
