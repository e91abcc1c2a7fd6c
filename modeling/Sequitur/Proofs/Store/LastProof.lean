import Sequitur.Proofs.Store.Refinement
import Sequitur.Proofs.Tree.Depth
import Sequitur.Proofs.Tree.Snapshot

/-!
# The last proof on disk

A list of nodes and a root are written to two files, one after the other, and read back from them.
Nothing is checked before writing, so what is read back may be no tree; reading then says so.

What comes back is decided by the two files alone (`Directory.loadTree_of_treeFiles`): the nodes are
decoded as long as none of their sequents nests too deep, and are then judged as any list of nodes
is.  Neither writing nor reading has to do with progress, which is in a file of its own:
`loadTree_saveTree`.
-/

set_option autoImplicit false

namespace Sequitur

namespace Directory

variable {d d' : Directory} {root : NodeId} {ns : List Node} {refused : Refusals}

/-! ## What the two files give -/

/-- The tree of a root and nodes as the store answers with it. -/
def restored (root : NodeId) (ns : List Node) : Except StoreError (Option ProofTree) :=
  match ProofTree.ofSnapshot root ns with
  | .error e => .error (.tree e)
  | .ok t => .ok (some t)

/-- **The two files give the tree that they hold, or the reason why it is none**, unless one of the
sequents nests too deep to be read. -/
theorem loadTree_of_treeFiles (h : d.lastTree = treeFiles root ns) :
    d.loadTree = if ∀ n ∈ ns, n.sequent.toJson.depth ≤ Node.sequentLimit then restored root ns
      else .ok none := by
  obtain ⟨hnodes, hroot⟩ := Prod.mk.inj h
  have hid : d.readJson rootFile Json.uuid? = .ok (some root) := by
    rw [readJson_of_entry (Uuid.faithful.sound root).wellFormed hroot]
    exact congrArg Except.ok (root.parse?_toString)
  have hlist : d.readJson nodesFile (Json.list? Node.decode?) = .ok
      (if ∀ n ∈ ns, n.sequent.toJson.depth ≤ Node.sequentLimit then some ns else none) := by
    rw [readJson_of_entry (Node.faithful.list.sound ns).wellFormed hnodes, Node.decode?_list]
  rw [loadTree, hid]
  simp only [hlist]
  by_cases hfits : ∀ n ∈ ns, n.sequent.toJson.depth ≤ Node.sequentLimit
  · rw [if_pos hfits, if_pos hfits]
    rfl
  · rw [if_neg hfits, if_neg hfits]

/-! ## Progress beside the last proof -/

/-- Directories at the same place with the same progress file give the same answers to a run of
operations on progress. -/
theorem performAll_congr (hpath : d'.path = d.path)
    (hentry : d'.entry? dataFile = d.entry? dataFile) (ops : List ProgressOperation) :
    (performAll ops d').1 = (performAll ops d).1 := by
  by_cases hfolder : d.entry? dataFile = some .folder
  · rw [performAll_of_folder hfolder, performAll_of_folder (hentry.trans hfolder), pathOf, pathOf,
      hpath]
  · have hwritable : d'.Writable := by rwa [Writable, hentry]
    have hremembered : d'.remembered = d.remembered := by rw [remembered, remembered, hentry]
    rw [answers_performAll hfolder, answers_performAll hwritable, hremembered]

/-- **What has been saved is what is loaded.**  After a root and a list of nodes have been saved,
whatever the files held before, loading gives what restoring the list gives: the tree with this root
and these nodes in their order, or the error of the tree as an error of the store.  The nodes may be
anything that nests within the limit of decoding.  Saving leaves the file of progress as it was and
loading leaves everything, so every run of operations on progress gets the same answers as without
them. -/
theorem loadTree_saveTree (hdepth : (Json.list Node.toJson ns).depth ≤ Json.depthLimit)
    (hsave : StoreOperation.perform (.saveTree root ns) d refused = (.ok (), d')) :
    (∀ t, ProofTree.ofSnapshot root ns = .ok t →
      (StoreOperation.perform .loadTree d').1 = .ok (some t) ∧ t.root = root ∧ t.snapshot = ns) ∧
    (∀ e, ProofTree.ofSnapshot root ns = .error e →
      (StoreOperation.perform .loadTree d').1 = .error (.tree e)) ∧
    d'.entry? dataFile = d.entry? dataFile ∧ (StoreOperation.perform .loadTree d').2 = d' ∧
    ∀ ops, (performAll ops d').1 = (performAll ops d).1 := by
  have hsaved : d.saveTree root ns refused = (.ok (), d') := hsave
  have hload : (StoreOperation.perform .loadTree d').1 = restored root ns :=
    (loadTree_of_treeFiles (saveTree_eq_ok hsaved).1).trans
      (if_pos (Node.depth_list_le_iff.1 hdepth))
  have hdata : d'.entry? dataFile = d.entry? dataFile := by
    have hsame : Directory.entry? (d.saveTree root ns refused).2 dataFile = d.entry? dataFile :=
      entry?_saveTree root ns (by decide) (by decide)
    rwa [hsaved] at hsame
  have hpath : d'.path = d.path := by
    rw [saveTree_eq_withTree hsaved, withTree]
    rfl
  refine ⟨fun t ht ↦ ⟨?_, ?_⟩, fun e he ↦ ?_, hdata, rfl, performAll_congr hpath hdata⟩
  · rw [hload, restored, ht]
    rfl
  · obtain ⟨htree, rfl⟩ := ProofTree.ofSnapshot_eq_ok_iff.1 ht
    exact ⟨ProofTree.root_ofNodes root ns, ProofTree.nodes_ofNodes htree.ids_nodup⟩
  · rw [hload, restored, he]
    rfl

/-- A directory whose files hold something else. -/
def littered : Directory where
  path := "store"
  entries := [(dataFile, .file (Symbol.ofString "\x7b\"completed\": []\x7d")),
    (nodesFile, .file (Symbol.ofString "[[]")), (rootFile, .file (Symbol.ofString "null"))]

/-- A refuted falsehood, with an open goal above it. -/
def twoNodes : List Node :=
  [{ id := .ofNat 1, sequent := { hypotheses := [], goal := .not .falsum }, rule := some .notIntro,
      premises := [.ofNat 2] },
    .leaf (.ofNat 2) { hypotheses := [.falsum], goal := .falsum }]

/-- The first of two nodes is the root of a tree, the second one is not. -/
theorem loadTree_saveTree_littered :
    (∃ d t, StoreOperation.perform (.saveTree (.ofNat 1) twoNodes) littered = (.ok (), d) ∧
      (StoreOperation.perform .loadTree d).1 = .ok (some t) ∧ t.root = .ofNat 1 ∧
      t.snapshot = twoNodes ∧
      (performAll [.completed] d).1 = (performAll [.completed] littered).1) ∧
    ∃ d, StoreOperation.perform (.saveTree (.ofNat 2) twoNodes) littered = (.ok (), d) ∧
      (StoreOperation.perform .loadTree d).1 = .error (.tree (.disconnected (.ofNat 2))) ∧
      d.entry? dataFile = littered.entry? dataFile := by
  have hdepth : (Json.list Node.toJson twoNodes).depth ≤ Json.depthLimit := by decide
  have hnodes : littered.obstacle? nodesFile = none := by decide
  have hroot : littered.obstacle? rootFile = none := by decide
  have hsave : ∀ root, StoreOperation.perform (.saveTree root twoNodes) littered =
      (.ok (), littered.withTree root twoNodes) := fun root ↦
    saveTree_of_no_obstacle root twoNodes hnodes hroot
  have htree : ∃ t, ProofTree.ofSnapshot (.ofNat 1) twoNodes = .ok t := ⟨_, rfl⟩
  obtain ⟨t, ht⟩ := htree
  obtain ⟨htree, -, -, -, hprogress⟩ := loadTree_saveTree hdepth (hsave (.ofNat 1))
  obtain ⟨-, herror, hdata, -, -⟩ := loadTree_saveTree hdepth (hsave (.ofNat 2))
  obtain ⟨hload, hroot, hnodes⟩ := htree t ht
  exact ⟨⟨_, t, hsave _, hload, hroot, hnodes, hprogress _⟩, _, hsave _, herror _ rfl, hdata⟩

end Directory

end Sequitur
