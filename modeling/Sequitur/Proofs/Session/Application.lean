import Sequitur.Proofs.Rule.Bindings
import Sequitur.Proofs.Session.Operation
import Sequitur.Proofs.Tree.Pending

/-!
# What the backend hears of an application

A rule is applied with texts for its placeholders.  Those for formula placeholders are read by the
backend, one after the other as far as the first failure (`Session.Reads`); those for variable
placeholders are taken as they are.  Only then the target is looked at, and the backend is asked for
the premises.

`runs_apply_cases` takes a run of `Session.apply` apart into these stages, with every way to fail.
`apply_sends` is what follows for the backend: when the one request is sent, and what it says.
`runs_apply_error` is what follows for the session: an application that fails leaves it as it was,
unless the store fails to record that the proof is complete (`Session.Unrecorded`).
-/

set_option autoImplicit false

namespace Sequitur

namespace Session

variable {s s' : Session} {log rest : Log} {node : NodeId} {rule : Rule} {texts : List String}
  {b : Bindings} {calls : List (String × Except BackendError Formula)}
  {read : Except BackendError (List Formula)}

/-! ## The backend in a log -/

/-- The texts that the backend is asked to read, with its answers. -/
def parses (log : Log) : List (String × Except BackendError Formula) :=
  log.filterMap fun e ↦
    match e with
    | ⟨.parse text, answer⟩ => some (text, answer)
    | _ => none

/-- The applications that are sent to the backend. -/
def applications (log : Log) : List Application :=
  log.filterMap fun e ↦
    match e.1 with
    | .apply application => some application
    | _ => none

/-- The questions that read texts, with their answers. -/
def readingLog (calls : List (String × Except BackendError Formula)) : Log :=
  calls.map fun call ↦ ⟨.parse call.1, call.2⟩

theorem parses_append (before after : Log) :
    parses (before ++ after) = parses before ++ parses after :=
  List.filterMap_append

theorem applications_append (before after : Log) :
    applications (before ++ after) = applications before ++ applications after :=
  List.filterMap_append

theorem parses_readingLog (calls : List (String × Except BackendError Formula)) :
    parses (readingLog calls) = calls := by
  rw [parses, readingLog, List.filterMap_map]
  exact List.filterMap_some

theorem applications_readingLog (calls : List (String × Except BackendError Formula)) :
    applications (readingLog calls) = [] := by
  rw [applications, readingLog, List.filterMap_map, List.filterMap_eq_nil_iff]
  exact fun _ _ ↦ rfl

theorem parses_eq_nil_of_isRecord (h : ∀ e ∈ log, IsRecord e.1) : parses log = [] := by
  rw [parses, List.filterMap_eq_nil_iff]
  rintro ⟨q, answer⟩ he
  rcases h _ he with ⟨op, rfl⟩ | ⟨report, rfl⟩ <;> rfl

theorem applications_eq_nil_of_isRecord (h : ∀ e ∈ log, IsRecord e.1) : applications log = [] := by
  rw [applications, List.filterMap_eq_nil_iff]
  rintro ⟨q, answer⟩ he
  rcases h _ he with ⟨op, rfl⟩ | ⟨report, rfl⟩ <;> rfl

/-! ## Reading texts -/

/-- Texts are read one after the other: all of them, or as far as the first that cannot be read. -/
inductive Reads : List String → List (String × Except BackendError Formula) →
    Except BackendError (List Formula) → Prop
  | done : Reads [] [] (.ok [])
  | fail (text : String) (texts : List String) (e : BackendError) :
    Reads (text :: texts) [(text, .error e)] (.error e)
  | next (text : String) (f : Formula) {texts : List String}
    {calls : List (String × Except BackendError Formula)}
    {read : Except BackendError (List Formula)} (h : Reads texts calls read) :
    Reads (text :: texts) ((text, .ok f) :: calls) (read.map (f :: ·))

theorem Reads.length_eq {fs : List Formula} (h : Reads texts calls (.ok fs)) :
    fs.length = texts.length := by
  generalize hread : (Except.ok fs : Except BackendError (List Formula)) = read at h
  induction h generalizing fs with
  | done =>
    cases hread
    rfl
  | fail => cases hread
  | @next text f texts calls read h ih =>
    cases read with
    | error e => cases hread
    | ok gs =>
      cases hread
      rw [List.length_cons, List.length_cons, ih rfl]

/-- What the texts for variable placeholders are bound as. -/
def nameOf (text : String) : Formula :=
  .atom (.element (Text.trim text))

section Steps

variable {text : String} {result : Except SessionError Bindings}

/-- The text for a formula placeholder is read by the backend. -/
theorem runs_bindTexts_formula (hb : b.Ordered) {n : UInt32} {left : List UInt32}
    (hleft : b.formulasLeft = n :: left) (h : Runs (bindTexts b (text :: texts)) s log result s') :
    (∃ e, log = [⟨.parse text, .error e⟩] ∧ result = .error (.backend e) ∧ s' = s) ∨
      ∃ f rest, log = ⟨.parse text, .ok f⟩ :: rest ∧
        Runs (bindTexts (b.bindFormula n f) texts) s rest result s' := by
  rw [bindTexts, hb.next?_formula hleft, readBinding, bind_assoc, runs_ask_bind_iff] at h
  obtain ⟨answer, rest, rfl, hanswer⟩ := h
  rcases runs_require_bind_iff.1 hanswer with ⟨e, rfl, rfl, rfl, rfl⟩ | ⟨f, rfl, hbind⟩
  · exact .inl ⟨e, rfl, rfl, rfl⟩
  · rw [hb.pick_formula hleft] at hbind
    exact .inr ⟨f, rest, rfl, hbind⟩

variable (hnone : b.formulasLeft = [])

include hnone

/-- The text for a variable placeholder is taken as a name. -/
theorem runs_bindTexts_name (hb : b.Ordered) {x : String} {left : List String}
    (hleft : b.elementsLeft = x :: left) (h : Runs (bindTexts b (text :: texts)) s log result s') :
    Runs (bindTexts (b.bindName x (Text.trim text)) texts) s log result s' := by
  rw [bindTexts, hb.next?_element hnone hleft, readBinding, pure_bind,
    hb.pick_name hnone hleft] at h
  exact h

/-- A text too many is refused. -/
theorem runs_bindTexts_full (hb : b.Ordered) (hleft : b.elementsLeft = [])
    (h : Runs (bindTexts b (text :: texts)) s log result s') :
    log = [] ∧ result = .error (.binding (.full b.rule)) ∧ s' = s := by
  rw [bindTexts, hb.next?_full hnone hleft] at h
  exact runs_throw_iff.1 h

/-- Once all formulas are bound, nothing is asked any more. -/
theorem runs_bindTexts_names (hb : b.Ordered) (h : Runs (bindTexts b texts) s log result s') :
    log = [] ∧ s' = s ∧ result = (b.pickAll (texts.map nameOf)).mapError .binding := by
  induction texts generalizing b with
  | nil =>
    obtain ⟨rfl, rfl, rfl⟩ := runs_pure_iff.1 h
    exact ⟨rfl, rfl, rfl⟩
  | cons text texts ih =>
    rw [List.map_cons, Bindings.pickAll_cons]
    cases hleft : b.elementsLeft with
    | nil =>
      obtain ⟨rfl, rfl, rfl⟩ := runs_bindTexts_full hnone hb hleft h
      rw [hb.pick_full hnone hleft]
      exact ⟨rfl, rfl, rfl⟩
    | cons x left =>
      rw [nameOf, hb.pick_name hnone hleft]
      exact ih hnone (hb.bindName hnone hleft) (runs_bindTexts_name hnone hb hleft h)

end Steps

/-- **Texts are bound by reading the first ones and taking the others as names.** -/
theorem runs_bindTexts {result : Except SessionError Bindings} (hb : b.Ordered)
    (h : Runs (bindTexts b texts) s log result s') :
    s' = s ∧ ∃ calls read, log = readingLog calls ∧
      Reads (texts.take b.formulasLeft.length) calls read ∧
      ((∃ e, read = .error e ∧ result = .error (.backend e)) ∨
        ∃ fs, read = .ok fs ∧
          result = (b.pickAll (fs ++ (texts.drop b.formulasLeft.length).map nameOf)).mapError
            .binding) := by
  generalize hleft : b.formulasLeft = left
  induction left generalizing b texts log with
  | nil =>
    obtain ⟨rfl, rfl, rfl⟩ := runs_bindTexts_names hleft hb h
    exact ⟨rfl, [], .ok [], rfl, .done, .inr ⟨[], rfl, rfl⟩⟩
  | cons n left ih =>
    cases texts with
    | nil =>
      obtain ⟨rfl, rfl, rfl⟩ := runs_pure_iff.1 h
      exact ⟨rfl, [], .ok [], rfl, .done, .inr ⟨[], rfl, rfl⟩⟩
    | cons text texts =>
      rcases runs_bindTexts_formula hb hleft h with ⟨e, rfl, rfl, rfl⟩ | ⟨f, rest, rfl, hgo⟩
      · exact ⟨rfl, [(text, .error e)], .error e, rfl, .fail _ _ e, .inl ⟨e, rfl, rfl⟩⟩
      obtain ⟨rfl, calls, read, rfl, hreads, hend⟩ :=
        ih (hb.bindFormula hleft) hgo (Bindings.formulasLeft_bindFormula hleft)
      refine ⟨rfl, _, _, rfl, .next text f hreads, ?_⟩
      rcases hend with ⟨e, rfl, rfl⟩ | ⟨fs, rfl, rfl⟩
      · exact .inl ⟨e, rfl, rfl⟩
      · refine .inr ⟨f :: fs, rfl, ?_⟩
        rw [List.cons_append, Bindings.pickAll_cons, hb.pick_formula hleft]
        rfl

/-! ## Looking at the target -/

/-- What follows once the texts have been bound. -/
def proceed (node : NodeId) (b : Bindings) : SessionM (Option Completion) := do
  if b.isComplete then do
    let pending ← require .apply ((← get).tree.prepare node b)
    put pending
  else do
    throw (.missingBindings (.of b (← sequentAt node)))

/-- Bindings are missing, or the target is not an open goal, or the application is sent. -/
theorem runs_proceed {result : Except SessionError (Option Completion)}
    (h : Runs (proceed node b) s log result s') :
    (b.isComplete = false ∧ log = [] ∧ s' = s ∧
      ((s.tree.find? node = none ∧ result = .error (.tree (.nodeNotFound node))) ∨
        ∃ n, s.tree.find? node = some n ∧
          result = .error (.missingBindings (.of b n.sequent)))) ∨
    (s.tree.isOpenAt node = false ∧ log = [] ∧ s' = s ∧ ∃ e, result = .error (.apply e)) ∨
    ∃ n pending, b.isComplete = true ∧ s.tree.find? node = some n ∧ n.isOpen ∧
      pending = ⟨node, s.tree.revision, b.rule, n.sequent, b.formulas, b.elements⟩ ∧
      Runs (put pending) s log result s' := by
  rw [proceed] at h
  split at h
  · next hcomplete =>
    rw [runs_get_bind_iff] at h
    rcases runs_require_bind_iff.1 h with ⟨e, he, rfl, rfl, rfl⟩ | ⟨pending, hprepare, hput⟩
    · refine .inr (.inl ⟨Bool.eq_false_iff.2 fun hopen ↦ ?_, rfl, rfl, e, rfl⟩)
      obtain ⟨n, hn, hnode⟩ := (Option.any_eq_true _ _).1 hopen
      rw [ProofTree.prepare_eq_ok_iff.2 ⟨hcomplete, n, hn, hnode, rfl⟩] at he
      cases he
    · obtain ⟨-, n, hn, hopen, rfl⟩ := ProofTree.prepare_eq_ok_iff.1 hprepare
      exact .inr (.inr ⟨n, _, hcomplete, hn, hopen, rfl, hput⟩)
  · next hmissing =>
    refine .inl ⟨by simpa using hmissing, ?_⟩
    rw [sequentAt, bind_assoc, runs_get_bind_iff] at h
    cases hn : s.tree.find? node with
    | none =>
      rw [hn] at h
      obtain ⟨rfl, rfl, rfl⟩ := runs_throw_iff.1 h
      exact ⟨rfl, rfl, .inl ⟨rfl, rfl⟩⟩
    | some n =>
      rw [hn] at h
      obtain ⟨rfl, rfl, rfl⟩ := runs_throw_iff.1 h
      exact ⟨rfl, rfl, .inr ⟨n, rfl, rfl⟩⟩

/-! ## The stages of an application -/

/-- The first schema on offer for a rule. -/
def schema? (s : Session) (rule : Rule) : Option Schema :=
  s.rules.find? fun schema ↦ schema.rule = rule

/-- The names among the texts for a schema. -/
def namesOf (schema : Schema) (texts : List String) : List String :=
  (texts.drop schema.formulaPlaceholders.length).map Text.trim

section Texts

variable {schema : Schema} {fs : List Formula}

/-- No more texts are read than there are formula placeholders. -/
theorem Reads.length_le (h : Reads (texts.take schema.formulaPlaceholders.length) calls (.ok fs)) :
    fs.length ≤ schema.formulaPlaceholders.length :=
  h.length_eq ▸ List.length_take_le _ _

/-- Every text is read or taken as a name. -/
theorem Reads.length_add_length_namesOf
    (h : Reads (texts.take schema.formulaPlaceholders.length) calls (.ok fs)) :
    fs.length + (namesOf schema texts).length = texts.length := by
  rw [h.length_eq, namesOf, List.length_map, ← List.length_append, List.take_append_drop]

/-- When there are names, all formula placeholders have got their formula. -/
theorem Reads.length_eq_of_namesOf
    (h : Reads (texts.take schema.formulaPlaceholders.length) calls (.ok fs))
    (hnames : namesOf schema texts ≠ []) : fs.length = schema.formulaPlaceholders.length := by
  have hmore : schema.formulaPlaceholders.length ≤ texts.length := by
    by_contra hless
    exact hnames (by rw [namesOf, List.drop_eq_nil_of_le (by omega), List.map_nil])
  rw [h.length_eq, List.length_take, Nat.min_eq_left hmore]

/-- The texts that could be read, and the others as names, fill the placeholders. -/
theorem Reads.pickAll_eq
    (h : Reads (texts.take schema.formulaPlaceholders.length) calls (.ok fs)) :
    (Bindings.ofSchema schema).pickAll
        (fs ++ (texts.drop schema.formulaPlaceholders.length).map nameOf) =
      if texts.length ≤ schema.occurrences.eraseDups.length then
        .ok (.filled schema fs (namesOf schema texts))
      else .error (.full schema.rule) := by
  have hnames : (texts.drop schema.formulaPlaceholders.length).map nameOf =
      (namesOf schema texts).map fun y ↦ .atom (.element y) := by
    rw [namesOf, List.map_map]
    rfl
  rw [hnames, Bindings.pickAll_ofSchema h.length_le h.length_eq_of_namesOf,
    h.length_add_length_namesOf]

/-- Nothing is missing when there are as many texts as placeholders. -/
theorem Reads.isComplete_iff
    (h : Reads (texts.take schema.formulaPlaceholders.length) calls (.ok fs))
    (hfits : texts.length ≤ schema.occurrences.eraseDups.length) :
    (Bindings.filled schema fs (namesOf schema texts)).isComplete = true ↔
      texts.length = schema.occurrences.eraseDups.length := by
  have hlength := h.length_add_length_namesOf
  have hnames : (namesOf schema texts).length ≤ schema.elementPlaceholders.length := by
    by_cases hnil : namesOf schema texts = []
    · simp [hnil]
    · have hfull := h.length_eq_of_namesOf hnil
      rw [Bindings.length_placeholders] at hfits
      omega
  rw [Bindings.isComplete_filled h.length_le hnames, hlength]
  omega

/-- As many texts as placeholders are as many formulas and as many names as placeholders of either
kind. -/
theorem Reads.lengths_eq
    (h : Reads (texts.take schema.formulaPlaceholders.length) calls (.ok fs))
    (hall : texts.length = schema.occurrences.eraseDups.length) :
    fs.length = schema.formulaPlaceholders.length ∧
      (namesOf schema texts).length = schema.elementPlaceholders.length := by
  have hlength := h.length_add_length_namesOf
  have hread := h.length_eq
  rw [List.length_take] at hread
  rw [Bindings.length_placeholders] at hall
  omega

/-- **The texts for a schema are bound all together, or not at all.** -/
theorem runs_bindTexts_ofSchema {result : Except SessionError Bindings}
    (h : Runs (bindTexts (.ofSchema schema) texts) s log result s') :
    s' = s ∧ ∃ calls read, log = readingLog calls ∧
      Reads (texts.take schema.formulaPlaceholders.length) calls read ∧
      ((∃ e, read = .error e ∧ result = .error (.backend e)) ∨
        ∃ fs, read = .ok fs ∧
          ((schema.occurrences.eraseDups.length < texts.length ∧
              result = .error (.binding (.full schema.rule))) ∨
            texts.length ≤ schema.occurrences.eraseDups.length ∧
              result = .ok (.filled schema fs (namesOf schema texts)))) := by
  have hleft : (Bindings.ofSchema schema).formulasLeft = schema.formulaPlaceholders :=
    Bindings.formulaSlots_ofSchema schema
  obtain ⟨rfl, calls, read, rfl, hreads, hend⟩ :=
    runs_bindTexts (Bindings.ordered_ofSchema schema) h
  rw [hleft] at hreads hend
  refine ⟨rfl, calls, read, rfl, hreads, hend.imp_right ?_⟩
  rintro ⟨fs, rfl, rfl⟩
  refine ⟨fs, rfl, ?_⟩
  rw [hreads.pickAll_eq]
  split
  · next hfits => exact .inr ⟨hfits, rfl⟩
  · next hmany => exact .inl ⟨Nat.lt_of_not_le hmany, rfl⟩

end Texts

/-- **The stages of an application.**  The rule is looked up, the texts for formula placeholders are
read, all texts are bound, and then the target is looked at. -/
theorem runs_apply_cases {result : Except SessionError (Option Completion)}
    (h : Runs (apply node rule texts) s log result s') :
    (s.schema? rule = none ∧ log = [] ∧ result = .error (.unknownRule rule) ∧ s' = s) ∨
    ∃ schema calls read rest, s.schema? rule = some schema ∧ log = readingLog calls ++ rest ∧
      Reads (texts.take schema.formulaPlaceholders.length) calls read ∧
      ((∃ e, read = .error e ∧ rest = [] ∧ result = .error (.backend e) ∧ s' = s) ∨
        ∃ fs, read = .ok fs ∧
          ((schema.occurrences.eraseDups.length < texts.length ∧ rest = [] ∧
              result = .error (.binding (.full schema.rule)) ∧ s' = s) ∨
            texts.length ≤ schema.occurrences.eraseDups.length ∧
              Runs (proceed node (.filled schema fs (namesOf schema texts))) s rest result
                s')) := by
  have hrun : Runs (do
      let schema ← schemaOf rule
      let b ← bindTexts (.ofSchema schema) texts
      proceed node b) s log result s' := h
  rw [schemaOf, bind_assoc, runs_get_bind_iff] at hrun
  cases hschema : s.schema? rule with
  | none =>
    rw [schema?] at hschema
    rw [hschema] at hrun
    obtain ⟨rfl, rfl, rfl⟩ := runs_throw_iff.1 hrun
    exact .inl ⟨rfl, rfl, rfl, rfl⟩
  | some schema =>
    rw [schema?] at hschema
    rw [hschema, pure_bind] at hrun
    refine .inr ⟨schema, ?_⟩
    rcases runs_bind_iff.1 hrun with ⟨e, rfl, hfail⟩ | ⟨before, rest, b, middle, rfl, hbound, hgo⟩
    · obtain ⟨rfl, calls, read, rfl, hreads, hend⟩ := runs_bindTexts_ofSchema hfail
      refine ⟨calls, read, [], rfl, (List.append_nil _).symm, hreads, ?_⟩
      rcases hend with ⟨e, rfl, he⟩ | ⟨fs, rfl, ⟨hmany, he⟩ | ⟨-, he⟩⟩ <;> cases he
      · exact .inl ⟨e, rfl, rfl, rfl, rfl⟩
      · exact .inr ⟨fs, rfl, .inl ⟨hmany, rfl, rfl, rfl⟩⟩
    · obtain ⟨rfl, calls, read, rfl, hreads, hend⟩ := runs_bindTexts_ofSchema hbound
      refine ⟨calls, read, rest, rfl, rfl, hreads, ?_⟩
      rcases hend with ⟨e, -, he⟩ | ⟨fs, rfl, ⟨-, he⟩ | ⟨hfits, he⟩⟩ <;> cases he
      exact .inr ⟨fs, rfl, .inr ⟨hfits, hgo⟩⟩

/-! ## What is sent -/

/-- Once an application is sent, texts are no longer read, and no other one is sent. -/
theorem runs_put_log {pending : Pending} {result : Except SessionError (Option Completion)}
    (h : Runs (put pending) s log result s') :
    parses log = [] ∧ applications log = [pending.application] := by
  rcases runs_put_cases h with ⟨e, rfl, -⟩ | ⟨subgoals, ids, rest, rfl, hrest⟩
  · exact ⟨rfl, rfl⟩
  have hquiet : ∀ e ∈ rest, IsRecord e.1 := by
    rcases hrest with ⟨e, -, rfl, -⟩ | ⟨grown, -, hfinish⟩
    · exact List.forall_mem_nil _
    rcases runs_finishIfComplete_cases hfinish with ⟨-, rfl, -⟩ | ⟨-, -, -, hrecord, -⟩
    · exact List.forall_mem_nil _
    · exact hrecord
  have hparses : parses rest = [] := parses_eq_nil_of_isRecord hquiet
  have happlications : applications rest = [] := applications_eq_nil_of_isRecord hquiet
  exact ⟨hparses, congrArg (pending.application :: ·) happlications⟩

/-- Bound texts are sent with the sequent of the target when none is missing and it is open. -/
theorem runs_proceed_log {result : Except SessionError (Option Completion)}
    (h : Runs (proceed node b) s log result s') :
    parses log = [] ∧
      ((applications log = [] ∧ (b.isComplete = false ∨ s.tree.isOpenAt node = false)) ∨
        ∃ n, s.tree.find? node = some n ∧ b.isComplete = true ∧ s.tree.isOpenAt node = true ∧
          applications log = [⟨b.rule, n.sequent, b.formulas, b.elements⟩]) := by
  rcases runs_proceed h with ⟨hmissing, rfl, -⟩ | ⟨hclosed, rfl, -⟩ |
    ⟨n, pending, hcomplete, hn, hopen, rfl, hput⟩
  · exact ⟨rfl, .inl ⟨rfl, .inl hmissing⟩⟩
  · exact ⟨rfl, .inl ⟨rfl, .inr hclosed⟩⟩
  · obtain ⟨hparses, happlications⟩ := runs_put_log hput
    have hopenAt : s.tree.isOpenAt node = true := (Option.any_eq_true _ _).2 ⟨n, hn, hopen⟩
    exact ⟨hparses, .inr ⟨n, hn, hcomplete, hopenAt, happlications⟩⟩

/-- For a rule on offer the texts are read, and one application is sent or none. -/
theorem runs_apply_log {result : Except SessionError (Option Completion)} {schema : Schema}
    (hschema : s.schema? rule = some schema) (h : Runs (apply node rule texts) s log result s') :
    ∃ read, Reads (texts.take schema.formulaPlaceholders.length) (parses log) read ∧
      ((applications log = [] ∧ ¬ (texts.length = schema.occurrences.eraseDups.length ∧
          (∃ fs, read = .ok fs) ∧ s.tree.isOpenAt node = true)) ∨
        ∃ n fs, s.tree.find? node = some n ∧ read = .ok fs ∧
          texts.length = schema.occurrences.eraseDups.length ∧ s.tree.isOpenAt node = true ∧
          applications log = [⟨rule, n.sequent,
            (Bindings.filled schema fs (namesOf schema texts)).formulas,
            (Bindings.filled schema fs (namesOf schema texts)).elements⟩]) := by
  have hrule : schema.rule = rule := by simpa using List.find?_some hschema
  rcases runs_apply_cases h with ⟨hnone, -⟩ | ⟨schema', calls, read, rest, hsome, rfl, hreads, hend⟩
  · rw [hschema] at hnone
    cases hnone
  obtain rfl : schema = schema' := Option.some.inj (hschema.symm.trans hsome)
  rw [parses_append, parses_readingLog, applications_append, applications_readingLog,
    List.nil_append]
  refine ⟨read, ?_⟩
  rcases hend with ⟨e, rfl, rfl, -⟩ | ⟨fs, rfl, ⟨hmany, rfl, -⟩ | ⟨hfits, hproceed⟩⟩
  · exact ⟨by rwa [parses, List.filterMap_nil, List.append_nil], .inl ⟨rfl, by simp⟩⟩
  · exact ⟨by rwa [parses, List.filterMap_nil, List.append_nil], .inl ⟨rfl, by omega⟩⟩
  obtain ⟨hparses, hsent⟩ := runs_proceed_log hproceed
  refine ⟨by rwa [hparses, List.append_nil], ?_⟩
  rcases hsent with ⟨hnothing, hnot⟩ | ⟨n, hn, hcomplete, hopen, hsent⟩
  · refine .inl ⟨hnothing, ?_⟩
    rintro ⟨hall, -, hopen⟩
    rcases hnot with hmissing | hclosed
    · rw [(hreads.isComplete_iff hfits).2 hall] at hmissing
      cases hmissing
    · rw [hopen] at hclosed
      cases hclosed
  · exact .inr ⟨n, fs, hn, rfl, (hreads.isComplete_iff hfits).1 hcomplete, hopen, hrule ▸ hsent⟩

/-- **What the backend hears of an application.**  Whatever the session, the target, the rule, the
texts and the answers are, at most one application is sent, and nothing is asked for a rule that is
not on offer.  For the first schema on offer, the backend is asked to read the texts for the formula
placeholders and no others, in order as far as the first failure.  An application is sent if and
only if there are as many texts as different placeholders occur in the schema, all texts for formula
placeholders have been read, and the target is an open goal.  It then has the sequent of the target,
a formula for each formula placeholder and a trimmed text for each variable placeholder, both by
first occurrence. -/
theorem apply_sends {result : Except SessionError (Option Completion)}
    (h : Runs (apply node rule texts) s log result s') :
    (applications log).length ≤ 1 ∧
    (s.schema? rule = none → parses log = [] ∧ applications log = []) ∧
    ∀ schema, s.schema? rule = some schema → ∃ read,
      Reads (texts.take schema.formulaPlaceholders.length) (parses log) read ∧
      (applications log ≠ [] ↔ texts.length = schema.occurrences.eraseDups.length ∧
        (∃ fs, read = .ok fs) ∧ s.tree.isOpenAt node = true) ∧
      ∀ a ∈ applications log, ∃ n fs, s.tree.find? node = some n ∧ read = .ok fs ∧
        a.rule = rule ∧ a.sequent = n.sequent ∧
        a.formulas.map FormulaBinding.placeholder = schema.formulaPlaceholders ∧
        a.formulas.map FormulaBinding.formula = fs ∧
        a.elements.map ElementBinding.placeholder = schema.elementPlaceholders ∧
        a.elements.map ElementBinding.name = namesOf schema texts := by
  cases hschema : s.schema? rule with
  | none =>
    rcases runs_apply_cases h with ⟨-, rfl, -⟩ | ⟨schema, calls, read, rest, hsome, -⟩
    · exact ⟨Nat.zero_le _, fun _ ↦ ⟨rfl, rfl⟩, fun _ hsome ↦ by cases hsome⟩
    · rw [hschema] at hsome
      cases hsome
  | some schema =>
    obtain ⟨read, hreads, ⟨hnothing, hnot⟩ | ⟨n, fs, hn, rfl, hall, hopen, hsent⟩⟩ :=
      runs_apply_log hschema h
    · refine ⟨by simp [hnothing], by simp, fun schema' hsome ↦ ⟨read, ?_⟩⟩
      obtain rfl := Option.some.inj hsome
      exact ⟨hreads, by simpa [hnothing] using hnot, by simp [hnothing]⟩
    · obtain ⟨hformulas, hnames⟩ := hreads.lengths_eq hall
      obtain ⟨hplaceholders, hbound⟩ :=
        Bindings.formulas_filled (namesOf schema texts) hformulas
      obtain ⟨hplaceholders', hbound'⟩ := Bindings.elements_filled fs hnames
      refine ⟨by simp [hsent], by simp, fun schema' hsome ↦ ⟨.ok fs, ?_⟩⟩
      obtain rfl := Option.some.inj hsome
      refine ⟨hreads, by simp [hsent, hall, hopen], fun a ha ↦ ?_⟩
      rw [hsent, List.mem_singleton] at ha
      subst ha
      exact ⟨n, fs, hn, rfl, rfl, rfl, hplaceholders, hbound, hplaceholders', hbound'⟩

/-- A rule that proves an existential from an instance. -/
def naming : Schema where
  rule := .existsIntro
  premises := [{ pattern := .substitution (.formula 0) (.element "x") (.element "y") }]
  conclusion := { pattern := .ex (.element "x") (.atom (.formula 0)) }

/-- The session to prove that there is beauty. -/
def beautySession : Session :=
  .new (.ofNat 1) { hypotheses := [], goal := .ex (.element "x") (.atom (.literal "Beauty")) }
    [naming]

/-- What is sent when the rule is applied: the formula comes first although a variable occurs before
it, and the variable that occurs twice is bound once. -/
def beautyApplication : Application where
  rule := .existsIntro
  sequent := { hypotheses := [], goal := .ex (.element "x") (.atom (.literal "Beauty")) }
  formulas := [⟨0, .atom (.literal "Beauty")⟩]
  elements := [⟨"x", "x"⟩, ⟨"y", "Helen"⟩]

theorem apply_sends_beauty :
    let texts := ["Beauty", "x", " Helen "]
    let log : Log := [⟨.parse "Beauty", .ok (.atom (.literal "Beauty"))⟩,
      ⟨.apply beautyApplication, .error (.rejected "no")⟩]
    Runs (apply defaultRoot .existsIntro texts) beautySession log
        (.error (.apply (.rejected "no"))) beautySession ∧
      beautySession.schema? .existsIntro = some naming ∧
      naming.formulaPlaceholders = [0] ∧ naming.elementPlaceholders = ["x", "y"] ∧
      applications log = [beautyApplication] ∧
      texts.length = naming.occurrences.eraseDups.length ∧
      beautySession.tree.isOpenAt defaultRoot = true ∧
      beautyApplication.elements.map ElementBinding.name = namesOf naming texts := by
  intro texts log
  have hrun : Runs (apply defaultRoot .existsIntro texts) beautySession log
      (.error (.apply (.rejected "no"))) beautySession := .ask (.ask (.done _))
  have hschema : beautySession.schema? .existsIntro = some naming := rfl
  have hsent : applications log = [beautyApplication] := rfl
  obtain ⟨-, -, hoffered⟩ := apply_sends hrun
  obtain ⟨read, -, hiff, hsays⟩ := hoffered naming hschema
  obtain ⟨hall, -, hopen⟩ := hiff.1 (by simp [hsent])
  obtain ⟨n, fs, -, -, -, -, -, -, -, hnames⟩ := hsays beautyApplication (by simp [hsent])
  exact ⟨hrun, hschema, rfl, rfl, hsent, hall, hopen, hnames⟩

/-! ## Applications that fail -/

/-- An application has gone through, but the store has failed to record that it completes the
proof. -/
structure Unrecorded (s : Session) (node : NodeId) (rule : Rule) (log : Log) (fault : StoreError)
    (s' : Session) : Prop where
  /-- The target was an open goal. -/
  isOpenAt : s.tree.isOpenAt node = true
  /-- The application is in the tree, with the premises that the backend answered. -/
  grafted : ∃ application, ∃ leaves : List (NodeId × Sequent),
    ⟨.apply application, .ok (leaves.map Prod.snd)⟩ ∈ log ∧
      s'.tree = s.tree.grafted node rule leaves
  /-- The root is complete. -/
  isRootComplete : s'.tree.isRootComplete = true
  /-- The store has failed. -/
  failed : ∃ op, ⟨.store op, .error fault⟩ ∈ log

theorem Unrecorded.append {fault : StoreError} (h : Unrecorded s node rule log fault s')
    (before after : Log) : Unrecorded s node rule (before ++ log ++ after) fault s' where
  isOpenAt := h.isOpenAt
  grafted := by
    obtain ⟨application, leaves, hasked, htree⟩ := h.grafted
    exact ⟨application, leaves,
      List.mem_append_left after (List.mem_append_right before hasked), htree⟩
  isRootComplete := h.isRootComplete
  failed := by
    obtain ⟨op, hfailed⟩ := h.failed
    exact ⟨op, List.mem_append_left after (List.mem_append_right before hfailed)⟩

/-- An application that cannot be put into the tree leaves no trace; what can fail later is the
store. -/
theorem runs_put_error {pending : Pending} {e : SessionError}
    (hopen : s.tree.isOpenAt pending.target = true) (h : Runs (put pending) s log (.error e) s') :
    (s' = s ∧ ∀ fault, e ≠ .store fault) ∨
      ∃ fault, e = .store fault ∧
        Unrecorded s pending.target pending.application.rule log fault s' := by
  rcases runs_put_cases h with ⟨e, -, he, rfl⟩ | ⟨subgoals, ids, rest, rfl, ⟨e, -, -, he, rfl⟩ |
    ⟨grown, hcommit, hfinish⟩⟩
  · cases he
    exact .inl ⟨rfl, by simp⟩
  · cases he
    exact .inl ⟨rfl, by simp⟩
  rcases runs_finishIfComplete_cases hfinish with ⟨-, -, he, -⟩ |
    ⟨-, hcomplete, rfl, -, ⟨op, fault, hfault, he⟩ | ⟨told, rated, -, -, he⟩⟩ <;> cases he
  obtain ⟨-, rfl⟩ := ProofTree.graft_eq_ok_iff.1 (ProofTree.graft_of_commit hcommit)
  have hsubgoals : (ids.toList.zip subgoals).map Prod.snd = subgoals := List.map_snd_zip (by simp)
  refine .inr ⟨fault, rfl, hopen, ⟨pending.application, ids.toList.zip subgoals, ?_, rfl⟩,
    hcomplete, op, .tail _ (.tail _ hfault)⟩
  rw [hsubgoals]
  exact .head _

/-- Nothing is changed before the target has been looked at. -/
theorem runs_proceed_error {e : SessionError} (h : Runs (proceed node b) s log (.error e) s') :
    (s' = s ∧ ∀ fault, e ≠ .store fault) ∨
      ∃ fault, e = .store fault ∧ Unrecorded s node b.rule log fault s' := by
  rcases runs_proceed h with ⟨-, -, rfl, ⟨-, he⟩ | ⟨n, -, he⟩⟩ | ⟨-, -, rfl, e, he⟩ |
    ⟨n, pending, -, hn, hopen, rfl, hput⟩
  · cases he
    exact .inl ⟨rfl, by simp⟩
  · cases he
    exact .inl ⟨rfl, by simp⟩
  · cases he
    exact .inl ⟨rfl, by simp⟩
  · exact runs_put_error ((Option.any_eq_true _ _).2 ⟨n, hn, hopen⟩) hput

/-- **An application that fails leaves no trace, unless the store fails at the end.** -/
theorem runs_apply_error {e : SessionError} (h : Runs (apply node rule texts) s log (.error e) s') :
    (s' = s ∧ ∀ fault, e ≠ .store fault) ∨
      ∃ fault, e = .store fault ∧ Unrecorded s node rule log fault s' := by
  rcases runs_apply_cases h with ⟨-, -, he, rfl⟩ |
    ⟨schema, calls, read, rest, hschema, rfl, -, ⟨e, -, -, he, rfl⟩ |
      ⟨fs, -, ⟨-, -, he, rfl⟩ | ⟨-, hproceed⟩⟩⟩
  · cases he
    exact .inl ⟨rfl, by simp⟩
  · cases he
    exact .inl ⟨rfl, by simp⟩
  · cases he
    exact .inl ⟨rfl, by simp⟩
  · have hrule : schema.rule = rule := by simpa using List.find?_some hschema
    refine (runs_proceed_error hproceed).imp_right ?_
    rintro ⟨fault, rfl, hrecord⟩
    refine ⟨fault, rfl, ?_⟩
    rw [← hrule, ← List.append_nil (readingLog calls ++ rest)]
    exact hrecord.append (readingLog calls) []

end Session

end Sequitur
