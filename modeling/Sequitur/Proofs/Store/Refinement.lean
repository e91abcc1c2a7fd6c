import Sequitur.Proofs.Store.Operation

/-!
# Progress on disk is progress in memory

Whoever uses the store may think of a value of `Progress` that is changed in place.  What the value
is can be read off the directory at any time (`Directory.remembered`): it is what `data.json`
decodes as, whatever else may be in the file, or empty progress.  Each operation then is one on
lists (`ProgressOperation.onProgress`), and a whole run of them on the directory gives the answers
and the progress of the same run in memory (`Directory.performAll_refines`).

On disk there is more to say than in memory.  A file is written only when the value is another one
afterwards, no other file is ever touched, and a folder in the place of the file makes every
operation fail and changes nothing.

## What is here

* `ProgressOperation`, with `ProgressOperation.question` and `ProgressOperation.onProgress`.
* `Directory.perform_question` — one operation; `Directory.performAll_refines` — a run.
-/

set_option autoImplicit false

namespace Sequitur

/-! ## Operations in memory -/

/-- The operations on progress. -/
inductive ProgressOperation where
  | progress
  | addFavorite (id : ExerciseId)
  | removeFavorite (id : ExerciseId)
  | toggleFavorite (id : ExerciseId)
  | isFavorite (id : ExerciseId)
  | favorites
  | addFeedback (id : ExerciseId)
  | hasFeedback (id : ExerciseId)
  | addCompleted (id : ExerciseId)
  | isCompleted (id : ExerciseId)
  | completed
  | welcomeCollapsed
  | setWelcomeCollapsed (collapsed : Bool)

namespace ProgressOperation

/-- The operation as a question to the store. -/
def question : ProgressOperation → StoreOperation
  | progress => .progress
  | addFavorite id => .addFavorite id
  | removeFavorite id => .removeFavorite id
  | toggleFavorite id => .toggleFavorite id
  | isFavorite id => .isFavorite id
  | favorites => .favorites
  | addFeedback id => .addFeedback id
  | hasFeedback id => .hasFeedback id
  | addCompleted id => .addCompleted id
  | isCompleted id => .isCompleted id
  | completed => .completed
  | welcomeCollapsed => .welcomeCollapsed
  | setWelcomeCollapsed collapsed => .setWelcomeCollapsed collapsed

/-- A list with an id at its end, unless the id is in it. -/
def added (ids : List ExerciseId) (id : ExerciseId) : List ExerciseId :=
  if id ∈ ids then ids else ids ++ [id]

/-- A list without any occurrence of an id. -/
def dropped (ids : List ExerciseId) (id : ExerciseId) : List ExerciseId :=
  ids.filter (· ≠ id)

/-- What an operation answers, and what it makes of progress in memory. -/
def onProgress : (op : ProgressOperation) → Progress → op.question.Result × Progress
  | progress, p => (p, p)
  | addFavorite id, p => ((), { p with favorites := added p.favorites id })
  | removeFavorite id, p => ((), { p with favorites := dropped p.favorites id })
  | toggleFavorite id, p =>
    let ids := if id ∈ p.favorites then dropped p.favorites id else added p.favorites id
    (decide (id ∈ ids), { p with favorites := ids })
  | isFavorite id, p => (decide (id ∈ p.favorites), p)
  | favorites, p => (p.favorites, p)
  | addFeedback id, p => ((), { p with feedback := added p.feedback id })
  | hasFeedback id, p => (decide (id ∈ p.feedback), p)
  | addCompleted id, p => ((), { p with completed := added p.completed id })
  | isCompleted id, p => (decide (id ∈ p.completed), p)
  | completed, p => (p.completed, p)
  | welcomeCollapsed, p => (p.welcomeCollapsed, p)
  | setWelcomeCollapsed collapsed, p => ((), { p with welcomeCollapsed := collapsed })

/-- The answers to some operations one after the other, and what they make of progress. -/
def onProgressAll : List ProgressOperation → Progress →
    List ((op : ProgressOperation) × op.question.Result) × Progress
  | [], p => ([], p)
  | op :: ops, p =>
    let (answer, q) := op.onProgress p
    let (answers, r) := onProgressAll ops q
    (⟨op, answer⟩ :: answers, r)

/-! ## Lists of ids -/

variable {ids : List ExerciseId} {id : ExerciseId}

theorem added_eq_self_iff : added ids id = ids ↔ id ∈ ids := by
  rw [added]
  split <;> simp_all

theorem dropped_eq_self_iff : dropped ids id = ids ↔ id ∉ ids := by
  rw [dropped, List.filter_eq_self]
  constructor
  · intro h hid
    simpa using h id hid
  · intro h i hi
    simpa using fun heq : i = id ↦ h (heq ▸ hi)

/-- A list is changed by adding an id unless the id is in it. -/
theorem insertUnique?_eq (ids : List ExerciseId) (id : ExerciseId) :
    Progress.insertUnique? ids id = if added ids id = ids then none else some (added ids id) := by
  rw [Progress.insertUnique?]
  by_cases h : id ∈ ids
  · rw [if_pos h, if_pos (added_eq_self_iff.2 h)]
  · rw [if_neg h, if_neg (mt added_eq_self_iff.1 h), added, if_neg h]

/-- A list is changed by dropping an id if the id is in it. -/
theorem erase?_eq (ids : List ExerciseId) (id : ExerciseId) :
    Progress.erase? ids id = if dropped ids id = ids then none else some (dropped ids id) := by
  rw [Progress.erase?]
  by_cases h : id ∈ ids
  · rw [if_pos h, if_neg fun hsame ↦ dropped_eq_self_iff.1 hsame h, dropped]
  · rw [if_neg h, if_pos (dropped_eq_self_iff.2 h)]

end ProgressOperation

namespace Progress

open ProgressOperation (added dropped dropped_eq_self_iff added_eq_self_iff)

variable (p : Progress) {ids : List ExerciseId} {id : ExerciseId}

/-! ## Changes of progress -/

theorem with_favorites_eq_iff : { p with favorites := ids } = p ↔ ids = p.favorites := by
  cases p
  simp

theorem with_feedback_eq_iff : { p with feedback := ids } = p ↔ ids = p.feedback := by
  cases p
  simp

theorem with_completed_eq_iff : { p with completed := ids } = p ↔ ids = p.completed := by
  cases p
  simp

theorem with_welcomeCollapsed_eq_iff {collapsed : Bool} :
    { p with welcomeCollapsed := collapsed } = p ↔ p.welcomeCollapsed = collapsed := by
  cases p
  simp [eq_comm]

/-- A field is changed when its value is. -/
theorem map_changed {p : Progress} {put : List ExerciseId → Progress} {new old : List ExerciseId}
    (h : put new = p ↔ new = old) :
    (if new = old then none else some new).map put =
      if put new = p then none else some (put new) := by
  by_cases hsame : new = old
  · rw [if_pos hsame, if_pos (h.2 hsame), Option.map_none]
  · rw [if_neg hsame, if_neg (mt h.1 hsame), Option.map_some]

/-- The mark of a favourite always changes. -/
theorem toggleFavorite_eq (id : ExerciseId) :
    (some (p.toggleFavorite id).1, (p.toggleFavorite id).2) =
      (if ((ProgressOperation.toggleFavorite id).onProgress p).2 = p then none
        else some ((ProgressOperation.toggleFavorite id).onProgress p).2,
        ((ProgressOperation.toggleFavorite id).onProgress p).1) := by
  rw [toggleFavorite, ProgressOperation.onProgress]
  by_cases hid : id ∈ p.favorites
  · have hne : { p with favorites := dropped p.favorites id } ≠ p := fun hsame ↦
      dropped_eq_self_iff.1 (p.with_favorites_eq_iff.1 hsame) hid
    have hgone : id ∉ dropped p.favorites id := by simp [dropped]
    simp only [if_pos hid, if_neg hne, decide_eq_false hgone]
    rfl
  · have hne : { p with favorites := added p.favorites id } ≠ p := fun hsame ↦
      hid (added_eq_self_iff.1 (p.with_favorites_eq_iff.1 hsame))
    have hthere : id ∈ added p.favorites id := by simp [added, hid]
    simp only [if_neg hid, if_neg hne, decide_eq_true hthere]
    rw [added, if_neg hid]
    rfl

end Progress

/-! ## Operations on disk -/

namespace Directory

open ProgressOperation (onProgressAll)

variable {α : Type} {d : Directory}

/-- The progress that a directory stands for: what the file decodes as, or empty progress. -/
def remembered (d : Directory) : Progress :=
  match d.entry? dataFile with
  | some (.file contents) => ((Json.read? contents).bind (Json.decode? Progress.decode?)).getD {}
  | _ => {}

/-- No folder is in the place of the file. -/
def Writable (d : Directory) : Prop :=
  d.entry? dataFile ≠ some .folder

/-- The directory with another progress; it stays as it is when the progress is the same. -/
def remember (d : Directory) (p : Progress) : Directory :=
  if p = d.remembered then d else d.set dataFile (jsonFile p.toJson)

theorem progress_of_writable (h : d.Writable) : d.progress = .ok d.remembered := by
  rw [progress, readJson, read, remembered]
  cases hentry : d.entry? dataFile with
  | none => rfl
  | some e =>
    cases e with
    | file contents => rfl
    | folder => exact absurd hentry h

theorem progress_of_folder (h : d.entry? dataFile = some .folder) :
    d.progress = .error (.file (d.pathOf dataFile) .isFolder) := by
  rw [progress, readJson, read, h]

/-! ### Another progress -/

theorem writable_remember (h : d.Writable) (p : Progress) : (d.remember p).Writable := by
  rw [remember]
  split
  · exact h
  · rw [Writable, entry?_set_self]
    nofun

/-- What has been remembered is what the directory stands for. -/
theorem remembered_remember (d : Directory) (p : Progress) : (d.remember p).remembered = p := by
  rw [remember]
  split
  · next hsame => exact hsame.symm
  · have hset : (d.set dataFile (jsonFile p.toJson)).Writable := by
      rw [Writable, entry?_set_self]
      nofun
    exact Except.ok.inj ((progress_of_writable hset).symm.trans (progress_set_dataFile p))

theorem entry?_remember {name : String} (p : Progress) (h : name ≠ dataFile) :
    Directory.entry? (d.remember p) name = d.entry? name := by
  rw [remember]
  split
  · rfl
  · exact entry?_set_of_ne _ h

/-! ### One operation -/

theorem ask_of_writable (h : d.Writable) (f : Progress → α) :
    d.ask f = (.ok (f d.remembered), d.remember d.remembered) := by
  rw [ask, progress_of_writable h, remember, if_pos rfl]

theorem update_of_writable (h : d.Writable) {f : Progress → Option Progress × α} {q : Progress}
    {answer : α} (hf : f d.remembered = (if q = d.remembered then none else some q, answer)) :
    d.update f = (.ok answer, d.remember q) := by
  rw [update, progress_of_writable h, remember]
  simp only [hf]
  by_cases hsame : q = d.remembered
  · simp only [if_pos hsame]
  · simp only [if_neg hsame, writeJson_of_not_folder _ h]

/-- **An operation on disk is the one in memory.**  It answers the same and leaves the same, and it
writes only what has changed. -/
theorem perform_question (h : d.Writable) (op : ProgressOperation) :
    op.question.perform d =
      (.ok (op.onProgress d.remembered).1, d.remember (op.onProgress d.remembered).2) := by
  cases op with
  | progress => exact ask_of_writable h _
  | addFavorite id =>
    refine update_of_writable h ?_
    rw [Progress.addFavorite?, ProgressOperation.insertUnique?_eq,
      Progress.map_changed d.remembered.with_favorites_eq_iff]
    rfl
  | removeFavorite id =>
    refine update_of_writable h ?_
    rw [Progress.removeFavorite?, ProgressOperation.erase?_eq,
      Progress.map_changed d.remembered.with_favorites_eq_iff]
    rfl
  | toggleFavorite id =>
    exact update_of_writable h
      (f := fun p ↦ (some (p.toggleFavorite id).1, (p.toggleFavorite id).2))
      (d.remembered.toggleFavorite_eq id)
  | isFavorite id => exact ask_of_writable h _
  | favorites => exact ask_of_writable h _
  | addFeedback id =>
    refine update_of_writable h ?_
    rw [Progress.addFeedback?, ProgressOperation.insertUnique?_eq,
      Progress.map_changed d.remembered.with_feedback_eq_iff]
    rfl
  | hasFeedback id => exact ask_of_writable h _
  | addCompleted id =>
    refine update_of_writable h ?_
    rw [Progress.addCompleted?, ProgressOperation.insertUnique?_eq,
      Progress.map_changed d.remembered.with_completed_eq_iff]
    rfl
  | isCompleted id => exact ask_of_writable h _
  | completed => exact ask_of_writable h _
  | welcomeCollapsed => exact ask_of_writable h _
  | setWelcomeCollapsed collapsed =>
    refine update_of_writable h ?_
    rw [Progress.setWelcomeCollapsed?]
    exact congrArg (·, ()) (if_congr d.remembered.with_welcomeCollapsed_eq_iff.symm rfl rfl)

/-- A folder in the place of the file lets every operation fail. -/
theorem perform_question_of_folder (h : d.entry? dataFile = some .folder)
    (op : ProgressOperation) :
    op.question.perform d = (.error (.file (d.pathOf dataFile) .isFolder), d) := by
  have hask : ∀ {α : Type} (f : Progress → α),
      d.ask f = (.error (.file (d.pathOf dataFile) .isFolder), d) := by
    intro α f
    rw [ask, progress_of_folder h]
  have hupdate : ∀ {α : Type} (f : Progress → Option Progress × α),
      d.update f = (.error (.file (d.pathOf dataFile) .isFolder), d) := by
    intro α f
    rw [update, progress_of_folder h]
  cases op with
  | progress => exact hask _
  | addFavorite id => exact hupdate _
  | removeFavorite id => exact hupdate _
  | toggleFavorite id =>
    exact hupdate fun p ↦ (some (p.toggleFavorite id).1, (p.toggleFavorite id).2)
  | isFavorite id => exact hask _
  | favorites => exact hask _
  | addFeedback id => exact hupdate _
  | hasFeedback id => exact hask _
  | addCompleted id => exact hupdate _
  | isCompleted id => exact hask _
  | completed => exact hask _
  | welcomeCollapsed => exact hask _
  | setWelcomeCollapsed collapsed => exact hupdate _

/-- What the system refuses makes no difference to an operation, or else the operation leaves
everything. -/
theorem perform_question_eq_or (d : Directory) (op : ProgressOperation) (refused : Refusals) :
    op.question.perform d refused = op.question.perform d ∨
      (op.question.perform d refused).2 = d := by
  cases op with
  | progress | isFavorite _ | favorites | hasFeedback _ | isCompleted _ | completed
  | welcomeCollapsed => exact .inl rfl
  | addFavorite _ | removeFavorite _ | addFeedback _ | addCompleted _ | setWelcomeCollapsed _ =>
    exact d.update_eq_or _ refused
  | toggleFavorite id =>
    exact d.update_eq_or (fun p ↦ (some (p.toggleFavorite id).1, (p.toggleFavorite id).2)) refused

/-! ### Runs -/

/-- The answers of a directory to some operations one after the other, and the directory
afterwards. -/
def performAll : List ProgressOperation → Directory →
    List ((op : ProgressOperation) × Except StoreError op.question.Result) × Directory
  | [], d => ([], d)
  | op :: ops, d =>
    let (answer, changed) := op.question.perform d
    let (answers, last) := performAll ops changed
    (⟨op, answer⟩ :: answers, last)

theorem performAll_cons (h : d.Writable) (op : ProgressOperation) (ops : List ProgressOperation) :
    performAll (op :: ops) d =
      (⟨op, .ok (op.onProgress d.remembered).1⟩ ::
        (performAll ops (d.remember (op.onProgress d.remembered).2)).1,
        (performAll ops (d.remember (op.onProgress d.remembered).2)).2) := by
  rw [performAll, perform_question h]

theorem writable_performAll (h : d.Writable) (ops : List ProgressOperation) :
    (performAll ops d).2.Writable := by
  induction ops generalizing d with
  | nil => exact h
  | cons op ops ih =>
    rw [performAll_cons h]
    exact ih (writable_remember h _)

theorem remembered_performAll (h : d.Writable) (ops : List ProgressOperation) :
    (performAll ops d).2.remembered = (onProgressAll ops d.remembered).2 := by
  induction ops generalizing d with
  | nil => rfl
  | cons op ops ih =>
    rw [performAll_cons h, ih (writable_remember h _), remembered_remember]
    rfl

theorem answers_performAll (h : d.Writable) (ops : List ProgressOperation) :
    (performAll ops d).1 =
      (onProgressAll ops d.remembered).1.map fun a ↦ ⟨a.1, .ok a.2⟩ := by
  induction ops generalizing d with
  | nil => rfl
  | cons op ops ih =>
    rw [performAll_cons h, ih (writable_remember h _), remembered_remember]
    rfl

theorem entry?_performAll (h : d.Writable) (ops : List ProgressOperation) {name : String}
    (hname : name ≠ dataFile) :
    Directory.entry? (performAll ops d).2 name = d.entry? name := by
  induction ops generalizing d with
  | nil => rfl
  | cons op ops ih =>
    rw [performAll_cons h, ih (writable_remember h _), entry?_remember _ hname]

theorem performAll_append (before after : List ProgressOperation) :
    (performAll (before ++ after) d).2 = (performAll after (performAll before d).2).2 := by
  induction before generalizing d with
  | nil => rfl
  | cons op before ih => exact ih

theorem performAll_of_folder (h : d.entry? dataFile = some .folder) (ops : List ProgressOperation) :
    performAll ops d =
      (ops.map fun op ↦ ⟨op, .error (.file (d.pathOf dataFile) .isFolder)⟩, d) := by
  induction ops with
  | nil => rfl
  | cons op ops ih =>
    rw [performAll, perform_question_of_folder h]
    simp only [ih, List.map_cons]

/-- **Progress on disk is progress in memory.**  Unless a folder is in the place of the file, a run
of operations gives the answers of the same run in memory on the progress that the directory stands
for, whatever is in the file, and the directory then stands for the progress that the run in memory
ends with.  Each operation of the run writes the file if and only if its progress is another one
than before, and no other name is ever touched.  If a folder is in the place of the file, every
operation fails for that reason and nothing changes. -/
theorem performAll_refines (d : Directory) (ops : List ProgressOperation) :
    (d.entry? dataFile ≠ some .folder →
      (performAll ops d).1 = (onProgressAll ops d.remembered).1.map (fun a ↦ ⟨a.1, .ok a.2⟩) ∧
      (performAll ops d).2.remembered = (onProgressAll ops d.remembered).2 ∧
      (∀ before op after, ops = before ++ op :: after →
        let p := (onProgressAll before d.remembered).2
        let q := (op.onProgress p).2
        (performAll (before ++ [op]) d).2 =
          if q = p then (performAll before d).2
          else (performAll before d).2.set dataFile (jsonFile q.toJson)) ∧
      ∀ name, name ≠ dataFile →
        Directory.entry? (performAll ops d).2 name = d.entry? name) ∧
    (d.entry? dataFile = some .folder →
      performAll ops d =
        (ops.map fun op ↦ ⟨op, .error (.file (d.pathOf dataFile) .isFolder)⟩, d)) := by
  refine ⟨fun h ↦ ⟨answers_performAll h ops, remembered_performAll h ops, ?_,
    fun name hname ↦ entry?_performAll h ops hname⟩, fun h ↦ performAll_of_folder h ops⟩
  intro before op after _ p q
  have hmiddle := writable_performAll h before
  have hlast : (performAll [op] (performAll before d).2).2 =
      (performAll before d).2.remember (op.onProgress (performAll before d).2.remembered).2 := by
    rw [performAll_cons hmiddle]
    rfl
  rw [performAll_append, hlast, remember, remembered_performAll h before]

/-- A directory whose file has been cut short. -/
def cutShort : Directory where
  path := "store"
  entries := [(dataFile, .file (Symbol.ofString "[[]")), (nodesFile, .folder)]

/-- A directory with a folder in the place of the file. -/
def blocked : Directory where
  path := "store"
  entries := [(dataFile, .folder)]

theorem performAll_refines_cutShort :
    cutShort.entry? dataFile ≠ some .folder ∧ blocked.entry? dataFile = some .folder ∧
      (performAll [.addFavorite (.ofNat 1), .toggleFavorite (.ofNat 1), .toggleFavorite (.ofNat 2),
          .favorites] cutShort).1 =
        [⟨.addFavorite (.ofNat 1), .ok ()⟩, ⟨.toggleFavorite (.ofNat 1), .ok false⟩,
          ⟨.toggleFavorite (.ofNat 2), .ok true⟩, ⟨.favorites, .ok [.ofNat 2]⟩] ∧
      performAll [.favorites] blocked =
        ([⟨.favorites, .error (.file (blocked.pathOf dataFile) .isFolder)⟩], blocked) := by
  have hfile : cutShort.entry? dataFile ≠ some .folder := by decide +kernel
  have hfolder : blocked.entry? dataFile = some .folder := by decide +kernel
  have hempty : cutShort.remembered = {} := by decide +kernel
  obtain ⟨hanswers, -⟩ := (performAll_refines cutShort [.addFavorite (.ofNat 1),
    .toggleFavorite (.ofNat 1), .toggleFavorite (.ofNat 2), .favorites]).1 hfile
  have hfails := (performAll_refines blocked [.favorites]).2 hfolder
  rw [hempty] at hanswers
  exact ⟨hfile, hfolder, hanswers, hfails⟩

end Directory

end Sequitur
