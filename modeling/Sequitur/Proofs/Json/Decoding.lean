import Sequitur.Json.Decoder
import Sequitur.Proofs.Json.Spelling

/-!
# The fields of what has been encoded

The values that the program writes are well-formed when their parts are.  An encoded object has
all its keys, each of them once, so its fields are found under them.
-/

set_option autoImplicit false

namespace Sequitur

namespace Json

variable {α : Type} {keys : List String} {members : List (String × Json)}

/-! ## Well-formed values -/

@[simp]
theorem wellFormed_bool (b : Bool) : (bool b).WellFormed := by
  simp [WellFormed]

@[simp]
theorem wellFormed_text (s : String) : (text s).WellFormed := by
  simp [text, WellFormed]

theorem wellFormedItems_iff {js : List Json} :
    WellFormedItems js ↔ ∀ j ∈ js, j.WellFormed := by
  induction js with
  | nil => simp [WellFormedItems]
  | cons j js ih => simp [WellFormedItems, ih]

theorem wellFormedMembers_iff {ms : List (Option String × Json)} :
    WellFormedMembers ms ↔ ∀ m ∈ ms, m.2.WellFormed := by
  induction ms with
  | nil => simp [WellFormedMembers]
  | cons m ms ih =>
    obtain ⟨k, j⟩ := m
    simp [WellFormedMembers, ih]

theorem wellFormed_list {encode : α → Json} {xs : List α} (h : ∀ x ∈ xs, (encode x).WellFormed) :
    (list encode xs).WellFormed := by
  rw [list, WellFormed, wellFormedItems_iff]
  intro j hj
  obtain ⟨x, hx, rfl⟩ := List.mem_map.1 hj
  exact h x hx

theorem wellFormed_record (h : ∀ m ∈ members, m.2.WellFormed) : (record members).WellFormed := by
  rw [record, WellFormed, wellFormedMembers_iff]
  intro m hm
  obtain ⟨n, hn, rfl⟩ := List.mem_map.1 hm
  exact h n hn

/-! ## Fields -/

/-- The fields of an encoded object are its members. -/
theorem knownMembers?_map (hkeys : ∀ m ∈ members, m.1 ∈ keys)
    (hnodup : (members.map Prod.fst).Nodup) :
    knownMembers? keys (members.map fun m ↦ (some m.1, m.2)) = some members := by
  induction members with
  | nil => rfl
  | cons m members ih =>
    obtain ⟨hm, hmembers⟩ := List.forall_mem_cons.1 hkeys
    obtain ⟨hnew, hnodup⟩ := List.nodup_cons.1 hnodup
    have hlookup : members.lookup m.1 = none := by
      refine List.lookup_eq_none_iff.2 fun n hn ↦ ?_
      have hne : m.1 ≠ n.1 := fun heq ↦ hnew (heq ▸ List.mem_map_of_mem hn)
      simpa using hne
    rw [List.map_cons, knownMembers?, ih hmembers hnodup]
    simp [hm, hlookup]

theorem objectFields?_record (hkeys : ∀ m ∈ members, m.1 ∈ keys)
    (hnodup : (members.map Prod.fst).Nodup) : objectFields? keys (record members) = some members :=
  knownMembers?_map hkeys hnodup

theorem fields?_record (hkeys : ∀ m ∈ members, m.1 ∈ keys)
    (hnodup : (members.map Prod.fst).Nodup) : fields? keys (record members) = some members :=
  knownMembers?_map hkeys hnodup

/-- What stands under another key does not matter. -/
theorem lookup_cons_of_ne {β : Type} {key : String} {p : String × β}
    {entries : List (String × β)} (h : key ≠ p.1) :
    (p :: entries).lookup key = entries.lookup key := by
  have hne : (key == p.1) = false := by simpa using h
  rw [List.lookup_cons, hne]

end Json

end Sequitur
