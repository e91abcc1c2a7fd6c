import Sequitur.Proofs.Store.Directory

/-!
# What the operations of the store do

Three kinds of operations, each with what it leaves alone, whatever the system refuses meanwhile.  A
question about progress changes nothing.  A change of progress that succeeds leaves the progress
that was meant, one that fails leaves everything, and neither touches another file.  Saving a tree
that succeeds replaces the two files of the last proof, and progress stays.
-/

set_option autoImplicit false

namespace Sequitur

namespace Directory

variable {α : Type} {d d' : Directory} {other : String} {answer : α} {e : StoreError}
  {refused : Refusals}

/-! ## Questions about progress -/

theorem ask_snd (d : Directory) (f : Progress → α) : (d.ask f).2 = d := by
  rw [ask]
  split <;> rfl

theorem ask_eq_ok {f : Progress → α} (h : d.ask f = (.ok answer, d')) :
    ∃ p, d.progress = .ok p ∧ answer = f p := by
  rw [ask] at h
  split at h
  · cases h
  · rename_i p hp
    cases h
    exact ⟨p, hp, rfl⟩

/-! ## Changes of progress -/

/-- A change of progress writes one file or none. -/
theorem update_snd (d : Directory) (f : Progress → Option Progress × α) (refused : Refusals) :
    (d.update f refused).2 = d ∨
      ∃ p : Progress, (d.update f refused).2 = d.set dataFile (jsonFile p.toJson) := by
  rw [update]
  split
  · exact .inl rfl
  · split
    · exact .inl rfl
    · rename_i p _ _ changed _ _
      split
      · exact .inl rfl
      · rename_i hwritten
        exact .inr ⟨changed, writeJson_eq_ok hwritten⟩

theorem entry?_update (f : Progress → Option Progress × α) (h : other ≠ dataFile) :
    Directory.entry? (d.update f refused).2 other = d.entry? other := by
  rcases update_snd d f refused with hsame | ⟨p, hset⟩
  · rw [hsame]
  · rw [hset, entry?_set_of_ne _ h]

/-- A change of progress that the system refuses leaves everything, and otherwise it does not matter
what the system refuses. -/
theorem update_eq_or (d : Directory) (f : Progress → Option Progress × α) (refused : Refusals) :
    d.update f refused = d.update f ∨ (d.update f refused).2 = d := by
  cases hobstacle : d.obstacle? dataFile refused with
  | none =>
    have hfile : d.entry? dataFile ≠ some .folder := (obstacle?_eq_none_iff.1 hobstacle).2
    left
    rw [update, update]
    simp only [writeJson_of_no_obstacle _ hobstacle, writeJson_of_not_folder _ hfile]
  | some obstacle =>
    right
    rw [update]
    simp only [writeJson_of_obstacle _ hobstacle]
    split
    · rfl
    · split <;> rfl

/-- **A change of progress that succeeds leaves the progress that was meant.** -/
theorem update_eq_ok {f : Progress → Option Progress × α}
    (h : d.update f refused = (.ok answer, d')) :
    ∃ p, d.progress = .ok p ∧ answer = (f p).2 ∧ d'.progress = .ok ((f p).1.getD p) := by
  rw [update] at h
  split at h
  · cases h
  · rename_i p hp
    refine ⟨p, hp, ?_⟩
    split at h
    · rename_i hf
      cases h
      rw [hf]
      exact ⟨rfl, hp⟩
    · rename_i changed result hf
      split at h
      · cases h
      · rename_i hwritten
        cases h
        rw [hf, writeJson_eq_ok hwritten, progress_set_dataFile]
        exact ⟨rfl, rfl⟩

theorem update_eq_error {f : Progress → Option Progress × α}
    (h : d.update f refused = (.error e, d')) : d' = d := by
  rw [update] at h
  split at h
  · cases h
    rfl
  · split at h
    · cases h
    · split at h
      · cases h
        rfl
      · cases h

/-! ## The last proof -/

/-- The two files of the last completed proof: its nodes and its root. -/
def lastTree (d : Directory) : Option Entry × Option Entry :=
  (d.entry? nodesFile, d.entry? rootFile)

/-- The files of the last completed proof when they hold a root and nodes. -/
def treeFiles (root : NodeId) (nodes : List Node) : Option Entry × Option Entry :=
  (some (jsonFile (.list Node.toJson nodes)), some (jsonFile root.toJson))

theorem lastTree_update (f : Progress → Option Progress × α) :
    (d.update f refused).2.lastTree = d.lastTree := by
  rw [lastTree, lastTree, entry?_update f (by decide), entry?_update f (by decide)]

/-- The directory with a root and nodes in the two files. -/
def withTree (d : Directory) (root : NodeId) (nodes : List Node) : Directory :=
  (d.set nodesFile (jsonFile (.list Node.toJson nodes))).set rootFile (jsonFile root.toJson)

theorem saveTree_eq_withTree {root : NodeId} {nodes : List Node} {result : Unit}
    (h : d.saveTree root nodes refused = (.ok result, d')) : d' = d.withTree root nodes := by
  rw [saveTree] at h
  split at h
  · cases h
  · rename_i middle hnodes
    split at h
    · cases h
    · rename_i last hroot
      cases h
      rw [writeJson_eq_ok hroot, writeJson_eq_ok hnodes, withTree]

/-- **A tree that has been saved is what the two files hold**, and progress is as it was. -/
theorem saveTree_eq_ok {root : NodeId} {nodes : List Node} {result : Unit}
    (h : d.saveTree root nodes refused = (.ok result, d')) :
    d'.lastTree = treeFiles root nodes ∧ d'.progress = d.progress := by
  rw [saveTree_eq_withTree h, withTree]
  constructor
  · rw [lastTree, entry?_set_self, entry?_set_of_ne _ (by decide), entry?_set_self]
    rfl
  · refine progress_congr rfl ?_
    rw [entry?_set_of_ne _ (by decide), entry?_set_of_ne _ (by decide)]

/-- Writing the nodes puts nothing in the way of the root, and takes nothing out of it. -/
theorem obstacle?_root_behind (d : Directory) (nodes : List Node) (refused : Refusals) :
    Directory.obstacle? (d.set nodesFile (jsonFile (.list Node.toJson nodes))) rootFile refused =
      d.obstacle? rootFile refused :=
  obstacle?_set_of_ne _ (by decide)

/-- A tree is saved unless something is in the way. -/
theorem saveTree_of_no_obstacle (root : NodeId) (nodes : List Node)
    (hnodes : d.obstacle? nodesFile refused = none) (hroot : d.obstacle? rootFile refused = none) :
    d.saveTree root nodes refused = (.ok (), d.withTree root nodes) := by
  have hstill := (obstacle?_root_behind d nodes refused).trans hroot
  rw [saveTree, writeJson_of_no_obstacle _ hnodes]
  simp only [writeJson_of_no_obstacle _ hstill, withTree]

/-- Saving touches no file but these two, even if it fails. -/
theorem entry?_saveTree (root : NodeId) (nodes : List Node) (hnodes : other ≠ nodesFile)
    (hroot : other ≠ rootFile) :
    Directory.entry? (d.saveTree root nodes refused).2 other = d.entry? other := by
  rw [saveTree]
  split
  · rfl
  · rename_i middle hmiddle
    have hsame : middle.entry? other = d.entry? other := by
      rw [writeJson_eq_ok hmiddle, entry?_set_of_ne _ hnodes]
    split
    · exact hsame
    · rename_i last hlast
      rw [writeJson_eq_ok hlast, entry?_set_of_ne _ hroot, hsame]

end Directory

namespace StoreOperation

variable {d d' : Directory} {id : ExerciseId} {result : Unit} {refused : Refusals}

/-! ## The operations of a session -/

/-- An exercise that has been recorded as completed is among the completed ones. -/
theorem perform_addCompleted (h : (addCompleted id).perform d refused = (.ok result, d')) :
    ∃ p, d'.progress = .ok p ∧ id ∈ p.completed := by
  obtain ⟨p, -, -, hp⟩ := Directory.update_eq_ok h
  refine ⟨_, hp, ?_⟩
  rw [Progress.addCompleted?, Progress.insertUnique?]
  split
  · assumption
  · simp

/-- Recording a rating leaves the completed exercises alone, whether it succeeds or not. -/
theorem completed_addFeedback (id : ExerciseId) (d : Directory) (refused : Refusals) :
    ((addFeedback id).perform d refused).2.progress.map Progress.completed =
      d.progress.map Progress.completed := by
  cases h : (addFeedback id).perform d refused with
  | mk answer d' =>
    cases answer with
    | error e => rw [Directory.update_eq_error h]
    | ok result =>
      obtain ⟨p, hp, -, hp'⟩ := Directory.update_eq_ok h
      rw [hp, hp', Progress.addFeedback?]
      cases Progress.insertUnique? p.feedback id <;> rfl

theorem perform_hasFeedback {rated : Bool}
    (h : (hasFeedback id).perform d refused = (.ok rated, d')) :
    d' = d ∧ ∃ p, d.progress = .ok p ∧ (rated = true ↔ id ∈ p.feedback) := by
  obtain ⟨p, hp, rfl⟩ := Directory.ask_eq_ok h
  refine ⟨?_, p, hp, by simp⟩
  exact (congrArg Prod.snd h).symm.trans (Directory.ask_snd d _)

end StoreOperation

end Sequitur
