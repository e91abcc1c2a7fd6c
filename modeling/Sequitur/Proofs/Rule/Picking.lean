import Sequitur.Proofs.Rule.Bindings

/-!
# Bindings after any picks

Bindings are collected by picking formulas, in any number, some of them refused, and all of them may
be taken back at any time.  The collection keeps one list of bindings for each kind of placeholder
and finds its place in both by counting.

`Bindings.PickedFor` is what every call keeps (`PickedFor.call`): the bindings so far are the
accepted picks since the last time everything was taken back, in their order, for the first
placeholders of the schema.  All answers of the collection follow from it:
`placeholders_filled_inOrder`.
-/

set_option autoImplicit false

namespace Sequitur

/-! ## Placeholders in the order of binding -/

namespace Schema

/-- The placeholders in the order in which they are bound: those for formulas, then those for
variables. -/
def slots (s : Schema) : List Placeholder :=
  s.formulaPlaceholders.map .formula ++ s.elementPlaceholders.map .element

variable {s : Schema} {p : Placeholder}

/-- What is bound is what occurs. -/
theorem mem_slots : p ∈ s.slots ↔ p ∈ s.occurrences := by
  rw [slots, List.mem_append, List.mem_map, List.mem_map]
  simp only [formulaPlaceholders, elementPlaceholders, List.mem_eraseDups, List.mem_filterMap]
  constructor
  · rintro (⟨n, ⟨q, hq, hn⟩, rfl⟩ | ⟨x, ⟨q, hq, hx⟩, rfl⟩)
    · exact Placeholder.formula?_injective q (.formula n) n hn rfl ▸ hq
    · exact Placeholder.element?_injective q (.element x) x hx rfl ▸ hq
  · intro hp
    cases p with
    | formula n => exact .inl ⟨n, ⟨_, hp, rfl⟩, rfl⟩
    | element x => exact .inr ⟨x, ⟨_, hp, rfl⟩, rfl⟩

/-- No placeholder is bound twice. -/
theorem nodup_slots (s : Schema) : s.slots.Nodup := by
  refine List.nodup_append'.2 ⟨?_, ?_, ?_⟩
  · exact (nodup_eraseDups _).map fun _ _ ↦ Placeholder.formula.inj
  · exact (nodup_eraseDups _).map fun _ _ ↦ Placeholder.element.inj
  · intro p hformula helement
    obtain ⟨n, -, rfl⟩ := List.mem_map.1 hformula
    obtain ⟨x, -, hx⟩ := List.mem_map.1 helement
    cases hx

theorem length_slots :
    s.slots.length = s.formulaPlaceholders.length + s.elementPlaceholders.length := by
  rw [slots, List.length_append, List.length_map, List.length_map]

end Schema

/-- What is bound to what, formulas before names. -/
def bindingPairs (formulas : List FormulaBinding) (elements : List ElementBinding) :
    List (Placeholder × Formula) :=
  formulas.map (fun m ↦ (.formula m.placeholder, m.formula)) ++
    elements.map fun m ↦ (.element m.placeholder, .atom (.element m.name))

/-- What an application binds to what. -/
def Application.pairs (a : Application) : List (Placeholder × Formula) :=
  bindingPairs a.formulas a.elements

/-! ## Calls -/

namespace Bindings

/-- What is asked of a collection. -/
inductive Call where
  | pick (f : Formula)
  | clear
  deriving DecidableEq

/-- The collection after a call.  A pick that is refused leaves it as it was. -/
def call (b : Bindings) : Call → Bindings
  | .pick f =>
    match b.pick f with
    | .ok b' => b'
    | .error _ => b
  | .clear => b.clear

/-- The collection after calls in a row. -/
def calls (b : Bindings) (cs : List Call) : Bindings :=
  cs.foldl call b

/-- The accepted picks since everything was taken back, after one more call. -/
def accept (b : Bindings) (picks : List Formula) : Call → List Formula
  | .pick f =>
    match b.pick f with
    | .ok _ => picks ++ [f]
    | .error _ => picks
  | .clear => []

/-- The accepted picks since everything was taken back, after more calls in a row. -/
def accepted : Bindings → List Formula → List Call → List Formula
  | _, picks, [] => picks
  | b, picks, c :: cs => (b.call c).accepted (b.accept picks c) cs

variable {s : Schema} {b b' : Bindings} {f : Formula} {picks : List Formula}

theorem call_of_pick_ok (picks : List Formula) (h : b.pick f = .ok b') :
    b.call (.pick f) = b' ∧ b.accept picks (.pick f) = picks ++ [f] := by
  rw [call, accept, h]
  exact ⟨rfl, rfl⟩

/-- A refused pick changes nothing. -/
theorem call_of_pick_error {e : BindingError} (picks : List Formula) (h : b.pick f = .error e) :
    b.call (.pick f) = b ∧ b.accept picks (.pick f) = picks := by
  rw [call, accept, h]
  exact ⟨rfl, rfl⟩

/-! ## One pick -/

/-- **What a pick does.**  While formula placeholders remain it takes any formula for the first of
them; then it takes an element for the first variable placeholder and refuses anything else; when
nothing remains it refuses everything. -/
theorem Ordered.pick_cases (h : b.Ordered) (f : Formula) :
    (∃ n rest, b.formulasLeft = n :: rest ∧ b.pick f = .ok (b.bindFormula n f)) ∨
    (b.formulasLeft = [] ∧ ∃ x rest, b.elementsLeft = x :: rest ∧
      ((∃ y, f = .atom (.element y) ∧ b.pick f = .ok (b.bindName x y)) ∨
        (∀ y, f ≠ .atom (.element y)) ∧ b.pick f = .error (.expectedElement x f))) ∨
    (b.formulasLeft = [] ∧ b.elementsLeft = [] ∧ b.pick f = .error (.full b.rule)) := by
  cases hformulas : b.formulasLeft with
  | cons n rest => exact .inl ⟨n, rest, rfl, h.pick_formula hformulas⟩
  | nil =>
    cases helements : b.elementsLeft with
    | nil => exact .inr (.inr ⟨rfl, rfl, h.pick_full hformulas helements⟩)
    | cons x rest =>
      refine .inr (.inl ⟨rfl, x, rest, rfl, ?_⟩)
      by_cases hf : ∃ y, f = .atom (.element y)
      · obtain ⟨y, rfl⟩ := hf
        exact .inl ⟨y, rfl, h.pick_name hformulas helements⟩
      · refine .inr ⟨fun y hy ↦ hf ⟨y, hy⟩, ?_⟩
        rw [pick, h.next?_element hformulas helements]
        dsimp only
        split
        · exact absurd ⟨_, rfl⟩ hf
        · rfl

/-- A pick is refused when nothing remains, and when something other than an element is picked for a
variable placeholder. -/
theorem Ordered.pick_eq_error_iff (h : b.Ordered) {e : BindingError} :
    b.pick f = .error e ↔
      (b.remaining = [] ∧ e = .full b.rule) ∨
        ∃ x, b.remaining.head? = some (.element x) ∧ (∀ y, f ≠ .atom (.element y)) ∧
          e = .expectedElement x f := by
  rw [← List.head?_eq_none_iff, ← h.next?_eq]
  rcases h.pick_cases f with ⟨n, rest, hleft, hpick⟩ |
    ⟨hnone, x, rest, hleft, ⟨y, rfl, hpick⟩ | ⟨hf, hpick⟩⟩ | ⟨hnone, hleft, hpick⟩
  · simp [hpick, h.next?_formula hleft]
  · simp [hpick, h.next?_element hnone hleft]
  · simp [hpick, h.next?_element hnone hleft, hf, eq_comm]
  · simp [hpick, h.next?_full hnone hleft, eq_comm]

/-! ## What every call keeps -/

/-- What is bound to what so far. -/
def pairs (b : Bindings) : List (Placeholder × Formula) :=
  bindingPairs b.formulas b.elements

/-- The bindings so far are picks, in their order, for the first placeholders of a schema. -/
structure PickedFor (s : Schema) (picks : List Formula) (b : Bindings) : Prop
    extends Ordered b where
  /-- The rule is that of the schema. -/
  rule_eq : b.rule = s.rule
  /-- So are the placeholders for formulas. -/
  formulaSlots_eq : b.formulaSlots = s.formulaPlaceholders
  /-- So are the placeholders for variables. -/
  elementSlots_eq : b.elementSlots = s.elementPlaceholders
  /-- What has been bound are the first placeholders. -/
  fst_pairs : b.pairs.map Prod.fst = s.slots.take picks.length
  /-- They are bound to the picks. -/
  snd_pairs : b.pairs.map Prod.snd = picks

theorem pickedFor_ofSchema (s : Schema) : PickedFor s [] (ofSchema s) where
  toOrdered := ordered_ofSchema s
  rule_eq := rfl
  formulaSlots_eq := formulaSlots_ofSchema s
  elementSlots_eq := elementSlots_ofSchema s
  fst_pairs := rfl
  snd_pairs := rfl

namespace PickedFor

variable (h : PickedFor s picks b)

include h

/-- There are as many bindings as picks. -/
theorem bound_eq : b.bound = picks.length := by
  rw [← h.snd_pairs, List.length_map, pairs, bindingPairs, List.length_append, List.length_map,
    List.length_map, bound]

/-- The placeholders that remain are all but the first ones, as many as are bound. -/
theorem remaining_eq : b.remaining = s.slots.drop b.bound := by
  rw [remaining, Schema.slots, ← h.formulaSlots_eq, ← h.elementSlots_eq, List.drop_append,
    List.length_map, ← List.map_drop, ← List.map_drop]
  cases hleft : b.formulasLeft with
  | nil =>
    rw [← formulasLeft, hleft, h.bound_of_nil hleft, Nat.add_sub_cancel_left,
      List.drop_eq_nil_iff.2 (Nat.le_add_right _ _)]
  | cons n rest =>
    rw [h.bound_of_cons hleft, Nat.sub_eq_zero_of_le h.formulas_le,
      h.formulas_first (by simp [hleft]), List.length_nil]

/-- A new binding for the next placeholder. -/
theorem concat {p : Placeholder} (hnext : b.next? = some p)
    (hpairs : b'.pairs = b.pairs ++ [(p, f)]) :
    b'.pairs.map Prod.fst = s.slots.take (picks ++ [f]).length ∧
      b'.pairs.map Prod.snd = picks ++ [f] := by
  have hslot : s.slots[picks.length]? = some p := by
    rw [← h.bound_eq, ← List.head?_drop, ← h.remaining_eq, ← h.next?_eq, hnext]
  rw [hpairs, List.map_append, List.map_append, h.fst_pairs, h.snd_pairs, List.length_append,
    List.length_singleton, List.take_add_one, hslot]
  exact ⟨rfl, rfl⟩

/-- An accepted pick is bound to the next placeholder. -/
theorem pick (hpick : b.pick f = .ok b') : PickedFor s (picks ++ [f]) b' := by
  rcases h.pick_cases f with ⟨n, rest, hleft, hok⟩ |
    ⟨hnone, x, rest, hleft, ⟨y, rfl, hok⟩ | ⟨-, herror⟩⟩ | ⟨-, -, herror⟩
  · cases hok.symm.trans hpick
    have hpairs : (b.bindFormula n f).pairs = b.pairs ++ [(.formula n, f)] := by
      simp [pairs, bindingPairs, bindFormula, h.formulas_first (by simp [hleft])]
    obtain ⟨hfst, hsnd⟩ := h.concat (h.next?_formula hleft) hpairs
    exact ⟨h.bindFormula hleft, h.rule_eq, h.formulaSlots_eq, h.elementSlots_eq, hfst, hsnd⟩
  · cases hok.symm.trans hpick
    have hpairs : (b.bindName x y).pairs = b.pairs ++ [(.element x, .atom (.element y))] := by
      simp [pairs, bindingPairs, bindName]
    obtain ⟨hfst, hsnd⟩ := h.concat (h.next?_element hnone hleft) hpairs
    exact ⟨h.bindName hnone hleft, h.rule_eq, h.formulaSlots_eq, h.elementSlots_eq, hfst, hsnd⟩
  · cases herror.symm.trans hpick
  · cases herror.symm.trans hpick

/-- Everything may be taken back. -/
theorem clear : PickedFor s [] b.clear where
  formulas_le := Nat.zero_le _
  elements_le := Nat.zero_le _
  formulas_first _ := rfl
  rule_eq := h.rule_eq
  formulaSlots_eq := h.formulaSlots_eq
  elementSlots_eq := h.elementSlots_eq
  fst_pairs := rfl
  snd_pairs := rfl

/-- **Every call keeps the invariant.** -/
theorem call (c : Call) : PickedFor s (b.accept picks c) (b.call c) := by
  cases c with
  | clear => exact h.clear
  | pick f =>
    cases hpick : b.pick f with
    | ok b' =>
      obtain ⟨hcall, haccept⟩ := call_of_pick_ok picks hpick
      rw [hcall, haccept]
      exact h.pick hpick
    | error e =>
      obtain ⟨hcall, haccept⟩ := call_of_pick_error picks hpick
      rwa [hcall, haccept]

/-- So do calls in a row. -/
theorem calls (cs : List Call) : PickedFor s (b.accepted picks cs) (b.calls cs) := by
  induction cs generalizing b picks with
  | nil => exact h
  | cons c cs ih => exact ih (h.call c)

/-- Nothing remains when as much is bound as there are placeholders. -/
theorem remaining_eq_nil_iff : b.remaining = [] ↔ s.slots.length ≤ b.bound := by
  rw [h.remaining_eq, List.drop_eq_nil_iff]

theorem total_eq : b.total = s.slots.length := by
  rw [total, h.formulaSlots_eq, h.elementSlots_eq, Schema.length_slots]

theorem isComplete_iff : b.isComplete ↔ b.remaining = [] := by
  rw [isComplete, decide_eq_true_iff, h.total_eq, h.remaining_eq_nil_iff]

/-- There are no more bindings than placeholders. -/
theorem bound_le : b.bound ≤ s.slots.length := by
  have hformulas := h.formulas_le
  have helements := h.elements_le
  rw [← h.total_eq, bound, total]
  omega

/-- Once nothing remains, the application binds every placeholder to a pick. -/
theorem application_ok (hnone : b.remaining = []) (sequent : Sequent) :
    ∃ a, b.application sequent = .ok a ∧ a.rule = s.rule ∧ a.sequent = sequent ∧
      a.pairs.map Prod.fst = s.slots ∧ a.pairs.map Prod.snd = picks := by
  refine ⟨_, if_pos (h.isComplete_iff.2 hnone), h.rule_eq, rfl, ?_, h.snd_pairs⟩
  have hall := h.remaining_eq_nil_iff.1 hnone
  rw [h.bound_eq] at hall
  exact h.fst_pairs.trans (List.take_of_length_le hall)

/-- Until then it is refused, with the number of placeholders that remain. -/
theorem application_error (hsome : b.remaining ≠ []) (sequent : Sequent) :
    b.application sequent = .error (.incomplete s.rule b.remaining.length) := by
  rw [application, if_neg (mt h.isComplete_iff.1 hsome), h.rule_eq, h.total_eq, h.remaining_eq,
    List.length_drop]

end PickedFor

/-! ## The answers of a collection -/

/-- How a collection answers when these picks for a schema have been accepted. -/
structure Answers (s : Schema) (picks : List Formula) (b : Bindings) : Prop where
  /-- As much is bound as has been picked. -/
  bound_eq : b.bound = picks.length
  /-- That is no more than there are placeholders. -/
  bound_le : b.bound ≤ s.slots.length
  /-- No variable is bound before all formulas are. -/
  formulas_first : b.elements ≠ [] → b.formulas.length = s.formulaPlaceholders.length
  /-- What remains are all placeholders but the first ones. -/
  remaining_eq : b.remaining = s.slots.drop b.bound
  /-- The next placeholder is the first that remains. -/
  next?_eq : b.next? = b.remaining.head?
  /-- The collection is complete when nothing remains. -/
  isComplete_iff : b.isComplete ↔ b.remaining = []
  /-- A pick is refused for two reasons. -/
  pick_eq_error_iff : ∀ f e, b.pick f = .error e ↔
    (b.remaining = [] ∧ e = .full s.rule) ∨
      ∃ x, b.remaining.head? = some (.element x) ∧ (∀ y, f ≠ .atom (.element y)) ∧
        e = .expectedElement x f
  /-- A refused pick changes nothing. -/
  call_of_pick_error : ∀ f e, b.pick f = .error e →
    b.call (.pick f) = b ∧ b.accept picks (.pick f) = picks
  /-- Once nothing remains, every placeholder has been given its pick. -/
  application_ok : b.remaining = [] → ∀ sequent, ∃ a, b.application sequent = .ok a ∧
    a.rule = s.rule ∧ a.sequent = sequent ∧
    a.pairs.map Prod.fst = s.slots ∧ a.pairs.map Prod.snd = picks
  /-- Until then there is no application, and the error tells how much remains. -/
  application_error : b.remaining ≠ [] → ∀ sequent,
    b.application sequent = .error (.incomplete s.rule b.remaining.length)

theorem PickedFor.answers (h : PickedFor s picks b) : Answers s picks b where
  bound_eq := h.bound_eq
  bound_le := h.bound_le
  formulas_first hsome := by
    have hnone : b.formulasLeft = [] := by
      by_contra hleft
      exact hsome (h.formulas_first hleft)
    rw [h.length_formulas hnone, h.formulaSlots_eq]
  remaining_eq := h.remaining_eq
  next?_eq := h.next?_eq
  isComplete_iff := h.isComplete_iff
  pick_eq_error_iff _ _ := h.rule_eq ▸ h.pick_eq_error_iff
  call_of_pick_error _ _ := Bindings.call_of_pick_error picks
  application_ok := h.application_ok
  application_error := h.application_error

/-- **Placeholders are filled in order, whatever is picked and taken back.**  The placeholders of a
schema are those that occur in it, each once.  After any calls the collection has bound the first of
them, one for each pick that has been accepted since the last time everything was taken back, and
answers accordingly. -/
theorem placeholders_filled_inOrder (s : Schema) (cs : List Call) :
    s.slots.Nodup ∧ (∀ p, p ∈ s.slots ↔ p ∈ s.occurrences) ∧
      Answers s ((ofSchema s).accepted [] cs) ((ofSchema s).calls cs) :=
  ⟨s.nodup_slots, fun _ ↦ Schema.mem_slots, ((pickedFor_ofSchema s).calls cs).answers⟩

/-- The introduction of a universal quantifier. -/
def forallIntroSchema : Schema where
  rule := .forallIntro
  premises := [{ pattern := .atom (.formula 0) }]
  conclusion := { pattern := .all (.element "x") (.atom (.formula 0)) }

/-- The variable comes after the formula although it occurs first, and takes only an element. -/
example : forallIntroSchema.slots = [.formula 0, .element "x"] ∧
    (ofSchema forallIntroSchema).accepted [] [.pick .falsum, .clear, .pick .verum, .pick .falsum,
      .pick (.atom (.element "y")), .pick .falsum] = [.verum, .atom (.element "y")] := by
  decide

end Bindings

end Sequitur
