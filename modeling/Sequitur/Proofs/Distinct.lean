import Mathlib.Data.List.Induction
import Mathlib.Data.List.Nodup
import Sequitur.Distinct

/-!
# First occurrences

`distinct` is the library's `List.eraseDups` (`distinct_eq_eraseDups`).  Picking out the members of
one kind, and of each of these a part that identifies it, may come before or after
(`filterMap_distinct`).
-/

set_option autoImplicit false

namespace Sequitur

variable {α β : Type} [DecidableEq α] [DecidableEq β]

/-- What is kept in the end begins with what has been kept, and goes on with what is not yet among
it. -/
theorem foldl_keep_eq (xs kept : List α) :
    xs.foldl (fun kept x ↦ if x ∈ kept then kept else kept ++ [x]) kept =
      kept ++ (xs.filter fun x ↦ x ∉ kept).eraseDups := by
  induction xs generalizing kept with
  | nil => simp
  | cons x xs ih =>
    rw [List.foldl_cons, ih]
    by_cases hx : x ∈ kept
    · rw [if_pos hx, List.filter_cons_of_neg (by simpa using hx)]
    · have hrest : (xs.filter fun y ↦ y ∉ kept ++ [x]) =
          (xs.filter fun y ↦ y ∉ kept).filter fun y ↦ !y == x := by
        rw [List.filter_filter]
        exact List.filter_congr fun y _ ↦ by simp [and_comm, beq_eq_decide]
      rw [if_neg hx, List.filter_cons_of_pos (by simpa using hx), List.eraseDups_cons, hrest,
        List.append_assoc, List.singleton_append]

theorem distinct_eq_eraseDups (xs : List α) : distinct xs = xs.eraseDups := by
  rw [distinct, foldl_keep_eq, List.nil_append, List.filter_eq_self.2 (by simp)]

/-- Nothing is listed twice. -/
theorem nodup_distinct (xs : List α) : (distinct xs).Nodup := by
  suffices h : ∀ kept : List α, kept.Nodup →
      (xs.foldl (fun kept x ↦ if x ∈ kept then kept else kept ++ [x]) kept).Nodup from
    h [] List.nodup_nil
  induction xs with
  | nil => exact fun kept hkept ↦ hkept
  | cons x xs ih =>
    intro kept hkept
    rw [List.foldl_cons]
    split
    · exact ih kept hkept
    · have hnew : kept.Disjoint [x] := List.disjoint_singleton.2 ‹x ∉ kept›
      exact ih _ (List.nodup_append'.2 ⟨hkept, List.nodup_singleton x, hnew⟩)

/-- Nothing is left twice. -/
theorem nodup_eraseDups (xs : List α) : xs.eraseDups.Nodup :=
  distinct_eq_eraseDups xs ▸ nodup_distinct xs

/-- **What is left stands in the order of first occurrence.**  When the members of a list have
increasing places, one of those that are left comes before another if it has a place in front of all
places of the other. -/
theorem pairwise_eraseDups_of_pairwise_fst {κ : Type} [LT κ] {entries : List (κ × α)}
    (h : entries.Pairwise fun a b ↦ a.1 < b.1) :
    (entries.map Prod.snd).eraseDups.Pairwise fun x y ↦
      ∃ k, (k, x) ∈ entries ∧ ∀ k', (k', y) ∈ entries → k < k' := by
  induction entries using List.reverseRecOn with
  | nil => exact .nil
  | append_singleton entries e ih =>
    obtain ⟨hentries, -, hcross⟩ := List.pairwise_append.1 h
    have hlast : ∀ k x, (k, x) ∈ entries → ∀ k' y, (k', y) ∈ [e] → k < k' :=
      fun k x hx k' y hy ↦ hcross (k, x) hx (k', y) hy
    have hkept : (entries.map Prod.snd).eraseDups.Pairwise fun x y ↦
        ∃ k, (k, x) ∈ entries ++ [e] ∧ ∀ k', (k', y) ∈ entries ++ [e] → k < k' := by
      refine (ih hentries).imp ?_
      rintro x y ⟨k, hx, hy⟩
      refine ⟨k, List.mem_append_left _ hx, fun k' hk' ↦ ?_⟩
      rcases List.mem_append.1 hk' with hk' | hk'
      · exact hy k' hk'
      · exact hlast k x hx k' y hk'
    rw [List.map_append, List.map_singleton, List.eraseDups_append]
    by_cases hold : e.2 ∈ entries.map Prod.snd
    · simpa [List.removeAll, hold] using hkept
    have hnew : [e.2].removeAll (entries.map Prod.snd) = [e.2] := by
      simpa [List.removeAll] using hold
    rw [hnew]
    refine List.pairwise_append.2 ⟨hkept, List.pairwise_singleton _ _, fun x hx y hy ↦ ?_⟩
    obtain rfl := List.mem_singleton.1 hy
    obtain ⟨⟨k, x⟩, hmem, rfl⟩ := List.mem_map.1 (List.mem_eraseDups.1 hx)
    refine ⟨k, List.mem_append_left _ hmem, fun k' hk' ↦ ?_⟩
    rcases List.mem_append.1 hk' with hk' | hk'
    · exact absurd (List.mem_map_of_mem hk') hold
    · exact hlast k x hmem k' e.2 hk'

/-- **Parts that identify the members they come from may be taken before or after the repetitions
are dropped.** -/
theorem filterMap_distinct {part : α → Option β}
    (hpart : ∀ a a' b, part a = some b → part a' = some b → a = a') (xs : List α) :
    (distinct xs).filterMap part = distinct (xs.filterMap part) := by
  suffices h : ∀ kept : List α,
      (xs.foldl (fun kept x ↦ if x ∈ kept then kept else kept ++ [x]) kept).filterMap part =
        (xs.filterMap part).foldl (fun kept y ↦ if y ∈ kept then kept else kept ++ [y])
          (kept.filterMap part) from h []
  induction xs with
  | nil => exact fun kept ↦ rfl
  | cons x xs ih =>
    intro kept
    rw [List.foldl_cons, ih]
    cases hx : part x with
    | none =>
      rw [List.filterMap_cons_none hx]
      split
      · rfl
      · rw [List.filterMap_append, List.filterMap_cons_none hx, List.filterMap_nil,
          List.append_nil]
    | some y =>
      have hkept : y ∈ kept.filterMap part ↔ x ∈ kept := by
        rw [List.mem_filterMap]
        constructor
        · rintro ⟨a, ha, hy⟩
          exact hpart a x y hy hx ▸ ha
        · exact fun hmem ↦ ⟨x, hmem, hx⟩
      rw [List.filterMap_cons_some hx, List.foldl_cons]
      by_cases hmem : x ∈ kept
      · rw [if_pos hmem, if_pos (hkept.2 hmem)]
      · rw [if_neg hmem, if_neg (mt hkept.1 hmem), List.filterMap_append,
          List.filterMap_cons_some hx, List.filterMap_nil]

end Sequitur
