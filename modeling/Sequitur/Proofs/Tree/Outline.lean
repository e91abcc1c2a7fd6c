import Mathlib.Data.List.Forall2
import Sequitur.Proofs.Tree.History
import Sequitur.Text.Split
import Sequitur.Tree.Outline

/-!
# The lines of an outline

An outline is written on the way down: what stands in front of the lines of a subtree is handed to
it from above.  Read from the finished lines it is a matter of the way down to a node: each step of
the way has a group of four characters (`ProofTree.branches`), which shows whether the premise that
the step leads to is the last one of its parent.

`ProofTree.Heads` is what is said of a line while the part of the way above the subtree is still
missing, and `Heads.premise` is the step: a line below a premise, with what is handed to the
premise, is a line below the node.  `Rooted.heads_outlineWithin` is the induction on the bound of
the walk, in which the lines are compared with the plain walk `ProofTree.preorder`.
-/

set_option autoImplicit false

namespace Sequitur

/-! ## Lines of a text -/

namespace Text

variable {c : Char} {part rest : List Char} {lines : List String}

/-- A text is cut at the first separator in it. -/
theorem split_append_cons (h : c ∉ part) : split c (part ++ c :: rest) = part :: split c rest := by
  induction part with
  | nil => rw [List.nil_append, split, splitWhere, if_pos (decide_eq_true rfl), split]
  | cons d part ih =>
    obtain ⟨hd, hpart⟩ := List.ne_and_not_mem_of_not_mem_cons h
    have hrest := ih hpart
    rw [split] at hrest ⊢
    rw [List.cons_append, splitWhere, if_neg (by simpa using Ne.symm hd), hrest, split]

/-- Lines that are ended one after the other are found again, and nothing comes after the last. -/
theorem split_join_lines (h : ∀ line ∈ lines, '\n' ∉ line.toList) :
    split '\n' (String.join (lines.map (· ++ "\n"))).toList = lines.map String.toList ++ [[]] := by
  induction lines with
  | nil => rfl
  | cons line lines ih =>
    obtain ⟨hline, hlines⟩ := List.forall_mem_cons.1 h
    rw [List.map_cons, List.map_cons, List.cons_append, ← ih hlines, String.join_cons,
      String.append_assoc, String.toList_append, String.toList_append]
    exact split_append_cons hline

end Text

namespace ProofTree

variable {t : ProofTree} {root a b id p q : NodeId} {goal : Sequent} {n : Node}
  {path path' : List NodeId} {position : Position} {indent line : String}

/-! ## Ways down -/

/-- In a rooted collection no way comes back to where it started. -/
theorem Rooted.not_way_cons (h : t.Rooted) : ¬ t.Way a (p :: path) a := fun hway ↦
  h.acyclic a (over_iff_lists.2 ⟨p, hway.1, hway.2.reaches⟩)

/-- In a rooted collection there is only one way. -/
theorem Rooted.way_unique (h : t.Rooted) (hpath : t.Way a path b) (hpath' : t.Way a path' b) :
    path = path' := by
  induction path generalizing a path' with
  | nil =>
    obtain rfl : a = b := hpath
    cases path' with
    | nil => rfl
    | cons q path' => exact absurd hpath' h.not_way_cons
  | cons p path ih =>
    cases path' with
    | nil =>
      obtain rfl : a = b := hpath'
      exact absurd hpath h.not_way_cons
    | cons q path' =>
      obtain rfl := h.eq_of_reaches hpath.1 hpath'.1 hpath.2.reaches hpath'.2.reaches
      rw [ih hpath.2 hpath'.2]

/-! ## Branches -/

/-- An id is the last premise of a node. -/
def Ends (t : ProofTree) (a p : NodeId) : Prop :=
  (t.premisesOf a).getLast? = some p

instance (t : ProofTree) (a p : NodeId) : Decidable (t.Ends a p) :=
  inferInstanceAs (Decidable (_ = _))

/-- The four characters for a step from a node to a premise, from where the way goes on: a branch
sign when it ends there, and otherwise a bar unless the premise is the last one. -/
def group (t : ProofTree) (a p : NodeId) : List NodeId → String
  | [] => if t.Ends a p then "└── " else "├── "
  | _ :: _ => if t.Ends a p then "    " else "│   "

/-- The groups for the steps of a way down. -/
def branches (t : ProofTree) : NodeId → List NodeId → List String
  | _, [] => []
  | a, p :: path => t.group a p path :: t.branches p path

theorem length_branches (t : ProofTree) (a : NodeId) (path : List NodeId) :
    (t.branches a path).length = path.length := by
  induction path generalizing a with
  | nil => rfl
  | cons p path ih => rw [branches, List.length_cons, List.length_cons, ih]

/-- The groups are four characters in one line. -/
theorem group_of_mem_branches {group : String} (h : group ∈ t.branches a path) :
    group.length = 4 ∧ '\n' ∉ group.toList := by
  have hgroup : ∀ group ∈ ["└── ", "├── ", "    ", "│   "],
      group.length = 4 ∧ '\n' ∉ group.toList := by decide
  induction path generalizing a with
  | nil => cases h
  | cons p path ih =>
    rcases List.mem_cons.1 h with rfl | hrest
    · refine hgroup _ ?_
      cases path <;> rw [ProofTree.group] <;> split <;> simp
    · exact ih hrest

/-- The last premise is the one that no premise follows. -/
theorem Rooted.ends_iff (h : t.Rooted) (hp : t.Lists a p) :
    t.Ends a p ↔ ¬ ∃ before after, after ≠ [] ∧ t.premisesOf a = before ++ p :: after := by
  constructor
  · rintro hends ⟨before, after, hafter, hsplit⟩
    have hnodup := h.premises_nodup a
    rw [hsplit, List.nodup_append', List.nodup_cons] at hnodup
    rw [Ends, hsplit, List.getLast?_append_cons, List.getLast?_cons_of_ne_nil hafter] at hends
    exact hnodup.2.1.1 (List.mem_of_getLast? hends)
  · intro hnone
    obtain ⟨before, after, hsplit⟩ := List.append_of_mem hp
    have hafter : after = [] := not_not.1 fun hne ↦ hnone ⟨before, after, hne, hsplit⟩
    rw [Ends, hsplit, hafter, List.getLast?_concat]

/-- Where a premise stands among the premises of a node. -/
def standing (t : ProofTree) (a p : NodeId) : Position :=
  if t.Ends a p then .last else .inner

/-- What a position puts in front of a line of the subtree: the sign in front of its first line, and
what continues it in front of the others. -/
def Position.lead (position : Position) : List NodeId → String
  | [] => position.branch
  | _ :: _ => position.continuation

@[simp]
theorem Position.lead_top (path : List NodeId) : top.lead path = "" := by
  cases path <;> rfl

theorem lead_standing (t : ProofTree) (a p : NodeId) (path : List NodeId) :
    (t.standing a p).lead path = t.group a p path := by
  cases path <;> rw [Position.lead, group, standing] <;> split <;> rfl

/-- The premises of a node stand where siblings do. -/
theorem Rooted.map_standing (h : t.Rooted) (a : NodeId) :
    (t.premisesOf a).map (t.standing a) = Position.ofSiblings (t.premisesOf a).length := by
  rcases List.eq_nil_or_concat' (t.premisesOf a) with hnil | ⟨init, p, hconcat⟩
  · rw [hnil]
    rfl
  · have hnodup := h.premises_nodup a
    rw [hconcat] at hnodup
    have hlast : t.standing a p = .last := if_pos (by rw [Ends, hconcat, List.getLast?_concat])
    have hinner : ∀ q ∈ init, t.standing a q = .inner := fun q hq ↦ by
      have hne : p ≠ q := fun hpq ↦ List.disjoint_of_nodup_append hnodup hq (by simp [hpq])
      refine if_neg ?_
      rwa [Ends, hconcat, List.getLast?_concat, Option.some_inj]
    rw [hconcat, List.length_append, List.length_singleton, Position.ofSiblings, List.map_append,
      List.map_singleton, hlast, List.map_congr_left hinner, List.map_const']

/-! ## Lines below a node -/

/-- A line shows a node below another one, after an indentation and what the position of the upper
node adds to it. -/
def Heads (t : ProofTree) (indent : String) (position : Position) (a id : NodeId) (line : String) :
    Prop :=
  ∃ n path, t.find? id = some n ∧ t.Way a path id ∧
    line = indent ++ position.lead path ++ String.join (t.branches a path) ++ t.outlineLine n

theorem Heads.premise (hp : t.Lists a p)
    (h : t.Heads (indent ++ position.continuation) (t.standing a p) p id line) :
    t.Heads indent position a id line := by
  obtain ⟨n, path, hn, hway, rfl⟩ := h
  refine ⟨n, p :: path, hn, ⟨hp, hway⟩, ?_⟩
  rw [lead_standing, branches, String.join_cons, Position.lead]
  simp only [String.append_assoc]

/-- **The lines of a subtree show its nodes in the order of the walk.** -/
theorem Rooted.heads_outlineWithin (h : t.Rooted) {bound : Nat} (hbound : t.Shallow bound a)
    (ha : t.contains a) (indent : String) (position : Position) :
    List.Forall₂ (t.Heads indent position a) (t.preorder bound a)
      (t.outlineWithin bound indent position a) := by
  induction bound generalizing a indent position with
  | zero => exact absurd hbound.pos (Nat.lt_irrefl 0)
  | succ bound ih =>
    obtain ⟨n, hn⟩ := contains_iff.1 ha
    have hbelow : ∀ p, t.Lists a p → List.Forall₂ (t.Heads indent position a) (t.preorder bound p)
        (t.outlineWithin bound (indent ++ position.continuation) (t.standing a p) p) := fun p hp ↦
      (ih (hbound.premise hp) (h.contains_premise a p hp) _ _).imp fun _ _ hline ↦ hline.premise hp
    have hfirst : t.Heads indent position a a (indent ++ position.branch ++ t.outlineLine n) :=
      ⟨n, [], hn, rfl, by rw [branches]; simp [Position.lead]⟩
    simp only [preorder, outlineWithin, hn]
    rw [← premisesOf_eq hn, ← h.map_standing, ← List.map_prod_left_eq_zip, List.flatMap_map]
    refine .cons hfirst (List.rel_flatMap (R := fun p q ↦ p = q ∧ t.Lists a p) ?_ ?_)
    · exact List.forall₂_same.2 fun p hp ↦ ⟨rfl, hp⟩
    · rintro p _ ⟨rfl, hp⟩
      exact hbelow p hp

/-- In a rooted collection the plain walk from a node finds it and its descendants. -/
theorem Rooted.preorder_size (h : t.Rooted) (ha : t.contains a) :
    t.preorder t.size a = a :: t.descendants a := by
  have hwalk := depthFirst_flatMap_preorder (List.forall_mem_singleton.2 (h.shallow ha))
  rw [List.flatMap_singleton] at hwalk
  exact hwalk.unique (h.depthFirst_subtree a)

/-- In a rooted collection an outline has a line for each node of the subtree. -/
theorem Rooted.heads_outlineLines (h : t.Rooted) (ha : t.contains a) :
    List.Forall₂ (t.Heads "" .top a) (a :: t.descendants a) (t.outlineLines a) := by
  rw [← h.preorder_size ha]
  exact h.heads_outlineWithin (h.shallow ha) ha "" .top

/-! ## What a line says -/

/-- The mark of the node in focus. -/
def focusMark : String :=
  "  <- focus"

/-- A line ends in the mark of the node in focus. -/
def isMarkedLine (line : String) : Bool :=
  focusMark.toList.isSuffixOf line.toList

theorem isMarkedLine_append (line : String) : isMarkedLine (line ++ focusMark) := by
  rw [isMarkedLine, List.isSuffixOf_iff_suffix, String.toList_append]
  exact List.suffix_append _ _

/-- A tag ends in a bracket. -/
theorem exists_outlineTag_eq (n : Node) :
    ∃ body c, c ≠ 's' ∧ (outlineTag n).toList = body ++ [c] := by
  unfold outlineTag
  cases n.rule with
  | none => exact ⟨"(open".toList, ')', by decide, by decide⟩
  | some r => exact ⟨("[" ++ r.symbol).toList, ']', by decide, String.toList_append⟩

/-- What ends in a tag does not end in the mark. -/
theorem isMarkedLine_tag (line : String) (n : Node) :
    isMarkedLine (line ++ outlineTag n) = false := by
  obtain ⟨body, c, hc, htag⟩ := exists_outlineTag_eq n
  rw [isMarkedLine, Bool.eq_false_iff, ne_eq, List.isSuffixOf_iff_suffix]
  rintro ⟨front, hfront⟩
  have hmark : focusMark.toList = "  <- focu".toList ++ ['s'] := by decide
  have hlast := congrArg List.getLast? hfront
  rw [String.toList_append, htag, hmark, ← List.append_assoc, ← List.append_assoc,
    List.getLast?_concat, List.getLast?_concat] at hlast
  exact hc (Option.some_inj.1 hlast).symm

/-- A line ends in the mark when its node is in focus without being the root. -/
theorem isMarkedLine_append_outlineLine (t : ProofTree) (front : String) (n : Node) :
    isMarkedLine (front ++ t.outlineLine n) ↔ n.id = t.focus ∧ n.id ≠ t.root := by
  rw [outlineLine, ← String.append_assoc, ← String.append_assoc, outlineMark]
  by_cases hfocus : n.id = t.focus ∧ n.id ≠ t.root
  · rw [if_pos hfocus]
    exact iff_of_true (isMarkedLine_append _) hfocus
  · rw [if_neg hfocus, String.append_empty, isMarkedLine_tag]
    exact iff_of_false Bool.false_ne_true hfocus

theorem outlineTag_eq_open_iff : outlineTag n = "(open)" ↔ n.rule = none := by
  unfold outlineTag
  cases n.rule with
  | none => exact iff_of_true rfl rfl
  | some r =>
    refine iff_of_false (fun h ↦ ?_) (Option.some_ne_none r)
    have hhead := congrArg (List.head? ∘ String.toList) h
    simp at hhead

theorem newline_notMem_outlineTag (n : Node) : '\n' ∉ (outlineTag n).toList := by
  unfold outlineTag
  cases n.rule with
  | none => decide
  | some r => cases r <;> decide

theorem newline_notMem_short (id : NodeId) : '\n' ∉ id.short.toList := by
  rw [Uuid.short, String.toList_ofList]
  intro h
  obtain ⟨d, -, hd⟩ := List.mem_map.1 (List.mem_of_mem_take h)
  revert d
  decide

/-- What is written for a node fits in a line when its sequent does. -/
theorem newline_notMem_outlineLine (h : '\n' ∉ n.sequent.display.toList) :
    '\n' ∉ (t.outlineLine n).toList := by
  have hmark : '\n' ∉ (t.outlineMark n).toList := by
    rw [outlineMark]
    split <;> decide
  simp only [outlineLine, String.toList_append, List.mem_append, not_or]
  exact ⟨⟨⟨⟨⟨newline_notMem_short n.id, by decide⟩, h⟩, by decide⟩,
    newline_notMem_outlineTag n⟩, hmark⟩

theorem Heads.newline_notMem (h : t.Heads "" .top a id line)
    (hplain : ∀ n, t.find? id = some n → '\n' ∉ n.sequent.display.toList) :
    '\n' ∉ line.toList := by
  obtain ⟨n, path, hn, -, rfl⟩ := h
  rw [Position.lead_top, String.append_empty, String.empty_append, String.toList_append,
    List.mem_append, not_or, String.toList_join, List.mem_flatMap]
  refine ⟨?_, newline_notMem_outlineLine (hplain n hn)⟩
  rintro ⟨group, hgroup, hmem⟩
  exact (group_of_mem_branches hgroup).2 hmem

/-- How a line shows a node by its way down from another one. -/
structure OutlinedBy (t : ProofTree) (a id : NodeId) (n : Node) (path : List NodeId)
    (line : String) : Prop where
  /-- The node is the one of the id. -/
  find?_eq : t.find? id = some n
  /-- The way leads down to the id, and no other one does. -/
  way_iff : ∀ path', t.Way a path' id ↔ path' = path
  /-- Each step of the way has its group. -/
  length_branches : (t.branches a path).length = path.length
  /-- Groups are of four characters. -/
  length_group : ∀ group ∈ t.branches a path, group.length = 4
  /-- The groups come first, then the short id, the sequent, the tag and the mark. -/
  line_eq : line = String.join (t.branches a path) ++ id.short ++ "  " ++ n.sequent.display ++
    "   " ++ outlineTag n ++ if id = t.focus ∧ id ≠ t.root then "  <- focus" else ""
  /-- The tag says that the node is open when it has no rule. -/
  tag_iff : outlineTag n = "(open)" ↔ n.rule = none
  /-- The mark stands at the end of the line of the node in focus, unless it is the root. -/
  isMarkedLine_iff : isMarkedLine line ↔ id = t.focus ∧ id ≠ t.root

theorem Rooted.outlinedBy (h : t.Rooted) (hline : t.Heads "" .top a id line) :
    ∃ n path, t.OutlinedBy a id n path line := by
  obtain ⟨n, path, hn, hway, heq⟩ := hline
  rw [Position.lead_top, String.append_empty, String.empty_append] at heq
  have hmark := t.isMarkedLine_append_outlineLine (String.join (t.branches a path)) n
  rw [← heq] at hmark
  rw [outlineLine, outlineMark] at heq
  rw [h.id_eq id n hn] at heq hmark
  exact ⟨n, path, {
    find?_eq := hn
    way_iff := fun path' ↦ ⟨fun hpath ↦ h.way_unique hpath hway, fun hpath ↦ hpath ▸ hway⟩
    length_branches := t.length_branches a path
    length_group := fun _ hgroup ↦ (group_of_mem_branches hgroup).1
    line_eq := by rw [heq]; simp only [String.append_assoc]
    tag_iff := outlineTag_eq_open_iff
    isMarkedLine_iff := hmark }⟩

/-- There is one mark if the focus lies in the subtree and is not the root, and otherwise none. -/
theorem Rooted.countP_isMarkedLine (h : t.Rooted) (ha : t.contains a) :
    (t.outlineLines a).countP isMarkedLine =
      if t.focus ∈ a :: t.descendants a ∧ t.focus ≠ t.root then 1 else 0 := by
  have hmark : ∀ id line, t.Heads "" .top a id line →
      ((id = t.focus ∧ id ≠ t.root) ↔ isMarkedLine line) := fun id line hline ↦ by
    obtain ⟨n, path, houtlined⟩ := h.outlinedBy hline
    exact houtlined.isMarkedLine_iff.symm
  have hcount : (t.outlineLines a).countP isMarkedLine =
      (a :: t.descendants a).countP fun id ↦ id = t.focus ∧ id ≠ t.root := by
    rw [List.countP_eq_length_filter, List.countP_eq_length_filter]
    refine (List.rel_filter (R := t.Heads "" .top a) (fun id line hline ↦ ?_)
      (h.heads_outlineLines ha)).length_eq.symm
    exact decide_eq_true_iff.trans (hmark id line hline)
  rw [hcount]
  by_cases hroot : t.focus = t.root
  · rw [if_neg fun hfocus ↦ hfocus.2 hroot, List.countP_eq_zero]
    simp [hroot]
  · have hsame : (fun id ↦ decide (id = t.focus ∧ id ≠ t.root)) = (· == t.focus) := by
      funext id
      by_cases hid : id = t.focus <;> simp [hid, hroot]
    rw [hsame, ← List.count, (h.nodup_subtree a).count]
    simp only [ne_eq, hroot, not_false_eq_true, and_true]

/-- **An outline is one line per node.**  In a tree with a history whose sequents are written
without line breaks, the outline of a subtree is cut at its line breaks into one line for each of
its nodes, in the order of the walk, and an empty rest.

The line of a node begins with a group of four characters for each step of the only way down to it,
which show where the step leads to the last premise; then come the short id, the sequent, the tag,
which says that the node is open when it has no rule, and the mark.  There is one mark if the focus
lies in the subtree and is not the root, and otherwise none.  The last premise of a node is the one
that no other premise follows. -/
theorem outline_lines (h : Reachable root goal t) (ha : t.contains a)
    (hplain : ∀ id ∈ a :: t.descendants a, ∀ n, t.find? id = some n →
      '\n' ∉ n.sequent.display.toList) :
    ∃ lines : List String,
      Text.split '\n' (t.outline a).toList = lines.map String.toList ++ [[]] ∧
      List.Forall₂ (fun id line ↦ ∃ n path, t.OutlinedBy a id n path line) (a :: t.descendants a)
        lines ∧
      lines.countP isMarkedLine =
        (if t.focus ∈ a :: t.descendants a ∧ t.focus ≠ t.root then 1 else 0) ∧
      ∀ b p, t.Lists b p → (t.Ends b p ↔
        ¬ ∃ before after, after ≠ [] ∧ t.premisesOf b = before ++ p :: after) := by
  have hrooted := h.grown.toRooted
  have hlines := hrooted.heads_outlineLines ha
  have hbreaks : List.Forall₂ (fun _ line ↦ '\n' ∉ line.toList) (a :: t.descendants a)
      (t.outlineLines a) :=
    ((List.forall₂_and_left _ _).2 ⟨hplain, hlines⟩).imp
      fun _ _ hline ↦ hline.2.newline_notMem hline.1
  refine ⟨t.outlineLines a, Text.split_join_lines fun line hline ↦ ?_,
    hlines.imp fun _ _ ↦ hrooted.outlinedBy, hrooted.countP_isMarkedLine ha,
    fun b p ↦ hrooted.ends_iff⟩
  obtain ⟨i, rfl⟩ := List.get_of_mem hline
  have hlength := hbreaks.length_eq
  exact hbreaks.get (hlength.symm ▸ i.isLt) i.isLt

/-- A conjunction is split, its first part is split again, and the view moves to the last of the
parts below it. -/
def splitting : List Change :=
  [.graft (.ofNat 1) .andIntro [(.ofNat 2, conjunction), (.ofNat 3, conjunction)],
    .graft (.ofNat 2) .andIntro [(.ofNat 4, conjunction), (.ofNat 5, conjunction)],
    .focus (.ofNat 5)]

theorem outline_lines_splitting :
    let t := (ProofTree.new (.ofNat 1) conjunction).changes splitting
    Reachable (.ofNat 1) conjunction t ∧
      ∃ first second third fourth fifth n,
        Text.split '\n' (t.outline (.ofNat 1)).toList =
          [first, second, third, fourth, fifth].map String.toList ++ [[]] ∧
        t.OutlinedBy (.ofNat 1) (.ofNat 5) n [.ofNat 2, .ofNat 5] fourth ∧
        t.branches (.ofNat 1) [.ofNat 2, .ofNat 5] = ["│   ", "└── "] ∧
        isMarkedLine fourth ∧
        [first, second, third, fourth, fifth].countP isMarkedLine = 1 := by
  intro t
  have h : Reachable (.ofNat 1) conjunction t := Reachable.new.changes (by decide)
  have hsubtree : .ofNat 1 :: t.descendants (.ofNat 1) =
      ([.ofNat 1, .ofNat 2, .ofNat 4, .ofNat 5, .ofNat 3] : List NodeId) := by decide
  have hplain : ∀ id ∈ .ofNat 1 :: t.descendants (.ofNat 1), ∀ n, t.find? id = some n →
      '\n' ∉ n.sequent.display.toList := by
    have hall : ∀ id ∈ .ofNat 1 :: t.descendants (.ofNat 1),
        (t.find? id).all fun n ↦ '\n' ∉ n.sequent.display.toList := by decide
    exact fun id hid n hn ↦ of_decide_eq_true ((Option.all_eq_true _ _).1 (hall id hid) n hn)
  have hway : t.Way (.ofNat 1) [.ofNat 2, .ofNat 5] (.ofNat 5) :=
    ⟨show .ofNat 2 ∈ t.premisesOf (.ofNat 1) by decide,
      show .ofNat 5 ∈ t.premisesOf (.ofNat 2) by decide, rfl⟩
  obtain ⟨lines, hsplit, hlines, hmarks, -⟩ := outline_lines h (by decide) hplain
  rw [hsubtree] at hlines hmarks
  rw [if_pos (by decide)] at hmarks
  obtain _ | ⟨-, _ | ⟨-, _ | ⟨-, _ | ⟨⟨n, path, hfourth⟩, _ | ⟨-, _ | _⟩⟩⟩⟩⟩ := hlines
  obtain rfl := (hfourth.way_iff _).1 hway
  exact ⟨h, _, _, _, _, _, n, hsplit, hfourth, by decide,
    hfourth.isMarkedLine_iff.2 (by decide), hmarks⟩

end ProofTree

end Sequitur
