import Sequitur.Exercise.Catalog
import Sequitur.Proofs.Double.Order

/-!
# Sorting, grouping and splitting the exercise list

The popularity of an exercise is a place in a linear order (`Exercise.standing`): the like ratio
counts the other way round, and what has no votes comes last.  Comparing exercises is comparing
these places, since every ratio is a number.

So the list is sorted by a key, and a stable sort by a key is determined by what it does to the
entries of each key: it leaves them as they are (`filter_mergeSort_key`).  Hence it does not matter
whether a list is sorted before or after some entries are picked out (`filter_mergeSort`), which is
why the groups by difficulty are parts of the sorted list.
-/

set_option autoImplicit false

namespace Sequitur

/-! ## Sorting by a key -/

section Sorting

variable {α κ : Type} [LinearOrder κ] {key : α → κ} {l l' : List α}

theorem trans_of_key (a b c : α) (hab : decide (key a ≤ key b)) (hbc : decide (key b ≤ key c)) :
    decide (key a ≤ key c) :=
  decide_eq_true ((of_decide_eq_true hab).trans (of_decide_eq_true hbc))

theorem total_of_key (a b : α) : decide (key a ≤ key b) || decide (key b ≤ key a) := by
  simpa using le_total (key a) (key b)

theorem pairwise_mergeSort_key (key : α → κ) (l : List α) :
    (l.mergeSort fun a b ↦ decide (key a ≤ key b)).Pairwise fun a b ↦ key a ≤ key b :=
  (List.pairwise_mergeSort trans_of_key total_of_key l).imp of_decide_eq_true

/-- **Sorting by a key leaves the entries of each key in their order.** -/
theorem filter_mergeSort_key (l : List α) (k : κ) :
    (l.mergeSort fun a b ↦ decide (key a ≤ key b)).filter (fun a ↦ key a = k) =
      l.filter fun a ↦ key a = k := by
  have htied : (l.filter fun a ↦ key a = k).Pairwise fun a b ↦ decide (key a ≤ key b) :=
    List.pairwise_of_forall_mem_list fun a ha b hb ↦ by simp_all
  have hkept := (List.sublist_mergeSort trans_of_key total_of_key htied
    List.filter_sublist).filter fun a ↦ key a = k
  rw [List.filter_filter] at hkept
  simp only [Bool.and_self] at hkept
  exact (hkept.eq_of_length ((List.mergeSort_perm l _).symm.filter _).length_eq).symm

/-- **Two sorted lists are the same if they have the same entries of each key in the same
order.** -/
theorem eq_of_filter_key_eq (h : l.Pairwise fun a b ↦ key a ≤ key b)
    (h' : l'.Pairwise fun a b ↦ key a ≤ key b)
    (hfilter : ∀ k, (l.filter fun a ↦ key a = k) = l'.filter fun a ↦ key a = k) : l = l' := by
  induction l generalizing l' with
  | nil =>
    cases l' with
    | nil => rfl
    | cons b l' => simpa using hfilter (key b)
  | cons a l ih =>
    cases l' with
    | nil => simpa using hfilter (key a)
    | cons b l' =>
      obtain ⟨hfirst, hrest⟩ := List.pairwise_cons.1 h
      obtain ⟨hfirst', hrest'⟩ := List.pairwise_cons.1 h'
      have hmem : ∀ c, c ∈ a :: l ↔ c ∈ b :: l' := fun c ↦ by
        have hc := congrArg (c ∈ ·) (hfilter (key c))
        simpa only [List.mem_filter, decide_true, and_true, eq_iff_iff] using hc
      -- both heads have the smallest key
      have hle : key b ≤ key a := (List.mem_cons.1 ((hmem a).1 List.mem_cons_self)).elim
        (fun hab ↦ (congrArg key hab).ge) (hfirst' a)
      have hge : key a ≤ key b := (List.mem_cons.1 ((hmem b).2 List.mem_cons_self)).elim
        (fun hba ↦ (congrArg key hba).ge) (hfirst b)
      have hkey : key b = key a := le_antisymm hle hge
      have hheads := hfilter (key a)
      simp only [List.filter_cons, hkey, decide_true, if_true, List.cons.injEq] at hheads
      obtain ⟨rfl, -⟩ := hheads
      refine congrArg (a :: ·) (ih hrest hrest' fun k ↦ ?_)
      have htails := hfilter k
      rw [List.filter_cons, List.filter_cons] at htails
      split at htails
      · exact List.tail_eq_of_cons_eq htails
      · exact htails

/-- **Entries may be picked out before or after sorting.** -/
theorem filter_mergeSort (l : List α) (test : α → Bool) :
    (l.mergeSort fun a b ↦ decide (key a ≤ key b)).filter test =
      (l.filter test).mergeSort fun a b ↦ decide (key a ≤ key b) := by
  have hsorted := (pairwise_mergeSort_key key l).filter test
  refine eq_of_filter_key_eq hsorted (pairwise_mergeSort_key key _) fun k ↦ ?_
  have hswap : ∀ l : List α, (l.filter test).filter (fun a ↦ key a = k) =
      (l.filter fun a ↦ key a = k).filter test := fun l ↦ by
    simp only [List.filter_filter, Bool.and_comm]
  rw [hswap, filter_mergeSort_key, filter_mergeSort_key, hswap]

/-- A list is put together again from its entries of each kind. -/
theorem flatMap_filter_perm {δ : Type} [DecidableEq δ] {kind : α → δ} {kinds : List δ}
    (hnodup : kinds.Nodup) (hmem : ∀ a ∈ l, kind a ∈ kinds) :
    (kinds.flatMap fun d ↦ l.filter fun a ↦ kind a = d).Perm l := by
  induction kinds generalizing l with
  | nil =>
    rw [List.eq_nil_iff_forall_not_mem.2 fun a ha ↦ List.not_mem_nil (hmem a ha)]
    rfl
  | cons d kinds ih =>
    obtain ⟨hnew, hnodup⟩ := List.nodup_cons.1 hnodup
    have hothers : ∀ d' ∈ kinds, (l.filter fun a ↦ kind a = d') =
        (l.filter fun a ↦ !decide (kind a = d)).filter fun a ↦ kind a = d' := fun d' hd' ↦ by
      have hne : d' ≠ d := fun h ↦ hnew (h ▸ hd')
      rw [List.filter_filter]
      refine List.filter_congr fun a _ ↦ ?_
      by_cases ha : kind a = d' <;> simp [ha, hne]
    have hrest := ih hnodup (l := l.filter fun a ↦ !decide (kind a = d)) fun a ha ↦ by
      obtain ⟨ha, hother⟩ := List.mem_filter.1 ha
      exact (List.mem_cons.1 (hmem a ha)).resolve_left (by simpa using hother)
    rw [List.flatMap_cons, List.flatMap_congr hothers]
    exact (hrest.append_left _).trans (List.filter_append_perm _ l)

end Sorting

/-! ## Ratios -/

namespace Exercise

variable {e : Exercise} {x : Float}

/-- All votes on an exercise. -/
def votes (e : Exercise) : Int :=
  e.likes.toInt + e.dislikes.toInt

/-- All votes can be counted in 32 bits. -/
def Fits (e : Exercise) : Prop :=
  -2 ^ 31 ≤ e.votes ∧ e.votes < 2 ^ 31

instance (e : Exercise) : Decidable e.Fits :=
  inferInstanceAs (Decidable (_ ∧ _))

/-- **A ratio is likes over all votes**, when there are any. -/
theorem likeRatio?_eq (h : e.Fits) :
    e.likeRatio? =
      if 0 < e.votes then some (.ofInt e.likes.toInt / .ofInt e.votes) else none := by
  have hvotes : (e.likes + e.dislikes).toInt = e.votes := by
    rw [Int32.toInt_add]
    exact Int.bmod_eq_of_le h.1 h.2
  have hpositive : e.likes + e.dislikes ≤ 0 ↔ e.votes ≤ 0 := by
    rw [Int32.le_iff_toInt_le, hvotes, Int32.toInt_zero]
  simp only [likeRatio?, hpositive, hvotes]
  by_cases hnone : e.votes ≤ 0
  · rw [if_pos hnone, if_neg (not_lt.2 hnone)]
  · rw [if_neg hnone, if_pos (not_le.1 hnone)]

/-- There is a ratio if and only if there are votes. -/
theorem likeRatio?_isSome_iff (h : e.Fits) : e.likeRatio?.isSome ↔ 0 < e.votes := by
  rw [likeRatio?_eq h]
  split <;> simp [*]

/-- **Ratios are numbers.** -/
theorem isNaN_of_likeRatio? (h : e.likeRatio? = some x) : x.isNaN = false := by
  rw [likeRatio?] at h
  split at h
  · cases h
  · next hvotes =>
    obtain rfl := Option.some.inj h
    have hlow := e.likes.le_toInt
    have hhigh := e.likes.toInt_lt
    have hpos : 0 < (e.likes + e.dislikes).toInt := by
      rwa [Int32.not_le, Int32.lt_iff_toInt_lt, Int32.toInt_zero] at hvotes
    have hsmall := (e.likes + e.dislikes).toInt_lt
    exact Double.isNaN_ofInt_div_ofInt (by omega) hpos (by omega)

/-! ## Places in the order of popularity -/

/-- Where an exercise stands among others: higher ratios come first, and what has none comes
last. -/
def standing (e : Exercise) : WithTop (Int ×ₗ Int ×ₗ Int)ᵒᵈ :=
  match e.likeRatio? with
  | some x => (OrderDual.toDual (Double.rank x.toModel.unpack) : (Int ×ₗ Int ×ₗ Int)ᵒᵈ)
  | none => ⊤

theorem standing_of_some (h : e.likeRatio? = some x) :
    e.standing = (OrderDual.toDual (Double.rank x.toModel.unpack) : (Int ×ₗ Int ×ₗ Int)ᵒᵈ) := by
  rw [standing, h]

theorem standing_of_none (h : e.likeRatio? = none) : e.standing = ⊤ := by
  rw [standing, h]

end Exercise

namespace Catalog

open Exercise

variable {es : List Exercise}

/-- **Comparing exercises is comparing where they stand.** -/
theorem compareLikes_eq (a b : Exercise) : compareLikes a b = compare a.standing b.standing := by
  symm
  rw [compareLikes]
  cases ha : a.likeRatio? with
  | none =>
    rw [standing_of_none ha]
    cases hb : b.likeRatio? with
    | none => exact compare_eq_iff_eq.2 (standing_of_none hb).symm
    | some y => exact compare_gt_iff_gt.2 (standing_of_some hb ▸ WithTop.coe_lt_top _)
  | some x =>
    rw [standing_of_some ha]
    cases hb : b.likeRatio? with
    | none => exact compare_lt_iff_lt.2 (standing_of_none hb ▸ WithTop.coe_lt_top _)
    | some y =>
      rw [standing_of_some hb]
      have hlt := Double.lt_iff_rank_lt (isNaN_of_likeRatio? ha) (isNaN_of_likeRatio? hb)
      have hgt := Double.lt_iff_rank_lt (isNaN_of_likeRatio? hb) (isNaN_of_likeRatio? ha)
      simp only [hlt, hgt]
      split
      · next hfirst => exact compare_lt_iff_lt.2 (WithTop.coe_lt_coe.2 hfirst)
      · next hfirst =>
        split
        · next hlast => exact compare_gt_iff_gt.2 (WithTop.coe_lt_coe.2 hlast)
        · next hlast =>
          have hsame := le_antisymm (not_lt.1 hfirst) (not_lt.1 hlast)
          exact compare_eq_iff_eq.2 (by rw [hsame])

theorem compareLikes_eq_iff {a b : Exercise} :
    compareLikes a b = .eq ↔ b.standing = a.standing := by
  rw [compareLikes_eq, compare_eq_iff_eq, eq_comm]

/-- Sorting by popularity is sorting by where exercises stand. -/
theorem byLikes_eq (es : List Exercise) :
    byLikes es = es.mergeSort fun a b ↦ decide (a.standing ≤ b.standing) := by
  have hcompare : (fun a b ↦ compareLikes a b != .gt) =
      fun a b ↦ decide (a.standing ≤ b.standing) := by
    funext a b
    rw [compareLikes_eq, Bool.eq_iff_iff, bne_iff_ne, compare_le_iff_le, decide_eq_true_iff]
  rw [byLikes, hcompare]

theorem pairwise_byLikes (es : List Exercise) :
    (byLikes es).Pairwise fun a b ↦ a.standing ≤ b.standing :=
  byLikes_eq es ▸ pairwise_mergeSort_key standing es

theorem perm_byLikes (es : List Exercise) : (byLikes es).Perm es :=
  List.mergeSort_perm _ _

/-! ## The sorted list -/

/-- The list of exercises sorted by popularity. -/
structure Ranked (es sorted : List Exercise) : Prop where
  /-- A ratio is likes over all votes. -/
  ratio_eq : ∀ e ∈ es, e.likeRatio? =
    if 0 < e.votes then some (.ofInt e.likes.toInt / .ofInt e.votes) else none
  /-- There is a ratio if and only if there are votes. -/
  ratio_isSome : ∀ e ∈ es, e.likeRatio?.isSome ↔ 0 < e.votes
  /-- Ratios are numbers. -/
  ratio_isNaN : ∀ e ∈ es, ∀ x, e.likeRatio? = some x → x.isNaN = false
  /-- No exercise is lost, added or doubled. -/
  perm : sorted.Perm es
  /-- No exercise stands before one with a higher ratio. -/
  ratios : sorted.Pairwise fun a b ↦
    ∀ x y, a.likeRatio? = some x → b.likeRatio? = some y → ¬ x < y
  /-- No exercise without votes stands before one with votes. -/
  votes : sorted.Pairwise fun a b ↦ 0 < b.votes → 0 < a.votes
  /-- Exercises that compare equal stay in their order. -/
  stable : ∀ e, (sorted.filter fun a ↦ compareLikes e a = .eq) =
    es.filter fun a ↦ compareLikes e a = .eq

/-- What stands first has no lower ratio. -/
theorem not_lt_of_standing_le {a b : Exercise} {x y : Float} (h : a.standing ≤ b.standing)
    (ha : a.likeRatio? = some x) (hb : b.likeRatio? = some y) : ¬ x < y := by
  rw [standing_of_some ha, standing_of_some hb] at h
  rw [Double.lt_iff_rank_lt (isNaN_of_likeRatio? ha) (isNaN_of_likeRatio? hb)]
  exact not_lt.2 (OrderDual.toDual_le_toDual.1 (WithTop.coe_le_coe.1 h))

/-- What stands before something with a ratio has one. -/
theorem isSome_of_standing_le {a b : Exercise} (h : a.standing ≤ b.standing)
    (hb : b.likeRatio?.isSome) : a.likeRatio?.isSome := by
  obtain ⟨y, hb⟩ := Option.isSome_iff_exists.1 hb
  cases ha : a.likeRatio? with
  | some x => rfl
  | none =>
    rw [standing_of_none ha, standing_of_some hb] at h
    exact absurd (top_le_iff.1 h) (WithTop.coe_ne_top)

/-- **The list is sorted by popularity.** -/
theorem ranked_byLikes (hfit : ∀ e ∈ es, e.Fits) : Ranked es (byLikes es) where
  ratio_eq e he := likeRatio?_eq (hfit e he)
  ratio_isSome e he := likeRatio?_isSome_iff (hfit e he)
  ratio_isNaN e _ x := isNaN_of_likeRatio?
  perm := perm_byLikes es
  ratios := (pairwise_byLikes es).imp fun h x y ↦ not_lt_of_standing_le h
  votes := by
    have hvotes : ∀ e ∈ byLikes es, e.likeRatio?.isSome ↔ 0 < e.votes := fun e he ↦
      likeRatio?_isSome_iff (hfit e ((perm_byLikes es).mem_iff.1 he))
    exact (pairwise_byLikes es).imp_of_mem fun ha hb h hpos ↦
      (hvotes _ ha).1 (isSome_of_standing_le h ((hvotes _ hb).2 hpos))
  stable e := by
    simp only [byLikes_eq, compareLikes_eq_iff]
    exact filter_mergeSort_key es e.standing

/-! ## Groups -/

/-- The groups of a list of exercises by difficulty. -/
structure Grouped (es : List Exercise) (groups : List (Difficulty × List Exercise)) : Prop where
  /-- There is a group for each grade, from the easiest on. -/
  grades : groups.map Prod.fst = [.easy, .intermediate, .hard, .insane]
  /-- It has the exercises of its grade as they stand in the list sorted by popularity. -/
  group_eq : ∀ d group, (d, group) ∈ groups →
    group = (byLikes es).filter fun e ↦ e.grade = d
  /-- Every exercise is in exactly one group. -/
  unique : ∀ e ∈ es, ∃! g, g ∈ groups ∧ e ∈ g.2
  /-- The groups have the exercises of the list together, each as often as it is there. -/
  perm : (groups.flatMap Prod.snd).Perm es

/-- The group of a grade is cut out of the sorted list. -/
theorem byLikes_filter (test : Exercise → Bool) :
    byLikes (es.filter test) = (byLikes es).filter test := by
  rw [byLikes_eq, byLikes_eq, filter_mergeSort]

theorem byDifficulty_eq (es : List Exercise) : byDifficulty es =
    Difficulty.all.map fun d ↦ (d, (byLikes es).filter fun e ↦ e.grade = d) :=
  List.map_congr_left fun d _ ↦ congrArg (d, ·) (byLikes_filter _)

theorem mem_all (d : Difficulty) : d ∈ Difficulty.all := by
  cases d <;> decide

theorem mem_byDifficulty {d : Difficulty} {group : List Exercise} :
    (d, group) ∈ byDifficulty es ↔ group = (byLikes es).filter fun e ↦ e.grade = d := by
  rw [byDifficulty_eq, List.mem_map]
  constructor
  · rintro ⟨d', -, h⟩
    obtain ⟨rfl, rfl⟩ := Prod.mk.inj h
    rfl
  · rintro rfl
    exact ⟨d, mem_all d, rfl⟩

/-- **The exercises are grouped by difficulty.** -/
theorem grouped_byDifficulty (es : List Exercise) : Grouped es (byDifficulty es) where
  grades := rfl
  group_eq d group h := mem_byDifficulty.1 h
  unique e he := by
    have hsorted : e ∈ byLikes es := (perm_byLikes es).mem_iff.2 he
    refine ⟨(e.grade, _), ⟨mem_byDifficulty.2 rfl, by simpa using hsorted⟩, ?_⟩
    rintro ⟨d, group⟩ ⟨hgroup, hmem⟩
    obtain rfl := mem_byDifficulty.1 hgroup
    obtain rfl : e.grade = d := by simpa using (List.mem_filter.1 hmem).2
    rfl
  perm := by
    rw [byDifficulty_eq, List.flatMap_map]
    exact (flatMap_filter_perm (by decide) fun e _ ↦ mem_all e.grade).trans (perm_byLikes es)

/-! ## Splitting -/

/-- A list of exercises split by whether their ids are in a list. -/
structure Split (es : List Exercise) (ids : List ExerciseId) (inside outside : List Exercise) :
    Prop where
  /-- Those inside stay in their order. -/
  inside_sublist : inside.Sublist es
  /-- Those outside stay in their order. -/
  outside_sublist : outside.Sublist es
  /-- Together they are the list, without loss or doubling. -/
  perm : (inside ++ outside).Perm es
  /-- The ids of those inside are in the list. -/
  inside_mem : ∀ e ∈ inside, e.id ∈ ids
  /-- The ids of those outside are not. -/
  outside_notMem : ∀ e ∈ outside, e.id ∉ ids

/-- **Favourites and the rest split the list**, when both are told the same ids. -/
theorem split_favorites (es : List Exercise) (ids : List ExerciseId) :
    Split es ids (favorites es ids) (incomplete es ids) where
  inside_sublist := List.filter_sublist
  outside_sublist := List.filter_sublist
  perm := by
    have hrest : incomplete es ids = es.filter fun e ↦ !decide (e.id ∈ ids) := by
      simp only [incomplete, decide_not]
    rw [hrest]
    exact List.filter_append_perm _ es
  inside_mem e he := of_decide_eq_true (List.mem_filter.1 he).2
  outside_notMem e he := of_decide_eq_true (List.mem_filter.1 he).2

/-- **What the views of the exercise list show.**  As long as votes can be counted, sorting puts
higher ratios first and exercises without votes last, and leaves those in their order that compare
equal.  Each group by difficulty is cut out of the sorted list, and every exercise is in exactly one
of them.  Favourites and what is not done split the list for the same ids. -/
theorem views_of_fits (hfit : ∀ e ∈ es, e.Fits) :
    Ranked es (byLikes es) ∧ Grouped es (byDifficulty es) ∧
      ∀ ids, Split es ids (favorites es ids) (incomplete es ids) :=
  ⟨ranked_byLikes hfit, grouped_byDifficulty es, split_favorites es⟩

/-- An exercise that most of its users like. -/
def liked : Exercise where
  id := .ofNat 1
  sequent := { hypotheses := [], goal := .verum }
  likes := 3
  dislikes := 1
  difficulty := 4

/-- An exercise that nobody has voted on. -/
def unvoted : Exercise :=
  { liked with id := .ofNat 2, likes := 0, dislikes := 0 }

theorem views_of_fits_pair :
    let es := [unvoted, liked]
    (∀ e ∈ es, e.Fits) ∧ byLikes es = [liked, unvoted] ∧
      Grouped es (byDifficulty es) ∧ (.easy, [liked, unvoted]) ∈ byDifficulty es ∧
      Split es [.ofNat 2] (favorites es [.ofNat 2]) (incomplete es [.ofNat 2]) := by
  intro es
  have hfit : ∀ e ∈ es, e.Fits := by decide
  obtain ⟨hranked, hgrouped, hsplit⟩ := views_of_fits hfit
  have hsorted : byLikes es = [liked, unvoted] := by
    refine (List.perm_pair.1 hranked.perm).resolve_left fun hunsorted ↦ ?_
    have hvotes := List.pairwise_pair.1 (hunsorted ▸ hranked.votes)
    exact absurd (hvotes (by decide)) (by decide)
  have heasy : [liked, unvoted] = (byLikes es).filter fun e ↦ e.grade = .easy := by
    rw [hsorted]
    rfl
  exact ⟨hfit, hsorted, hgrouped, mem_byDifficulty.2 heasy, hsplit _⟩

end Catalog

end Sequitur
