import Sequitur.Proofs.Rule.Json
import Sequitur.Proofs.Uuid
import Sequitur.Tree.Json

/-!
# Nodes and reports are decoded from their forms

The decoders of ids, nodes and reports are faithful and bounded.
-/

set_option autoImplicit false

namespace Sequitur

open Json (Faithful Bounded)

/-! ## Ids -/

namespace Uuid

theorem faithful : Faithful toJson Json.uuid? where
  sound u := Json.sound_text (toString u)
  decode_eq := by
    intro room u j _ h
    obtain rfl := Json.reordered_text_iff.1 h
    exact u.parse?_toString

theorem bounded : Bounded toJson Json.uuid? :=
  fun _ _ u _ ↦ by simp [toJson]

end Uuid

/-! ## Nodes -/

namespace Node

theorem faithful : Faithful toJson decode? := by
  have hid := Uuid.faithful
  have hsequent := Sequent.faithful
  have hrule := Rule.faithful.nullable fun r ↦ Json.text_ne_null r.name
  refine Json.faithful_record _ (by simp) (by simp)
    (by simp [hid.sound, hid.list.sound, hsequent.sound, hrule.sound]) ?_
  intro room n fields hfits hfinds
  simp only [Option.bind_eq_bind]
  rw [hid.required?_eq hfinds hfits rfl, hsequent.required?_eq hfinds hfits rfl,
    hrule.optional?_eq hfinds hfits rfl, hid.list.optional?_eq hfinds hfits rfl]
  rfl

theorem bounded : Bounded toJson decode? := by
  refine Json.bounded_record _ fun {room n fields} h ↦ ?_
  simp only [Option.bind_eq_bind, Option.bind_eq_some_iff, Option.some.injEq] at h
  obtain ⟨id, hid, sequent, hsequent, rule, hrule, premises, hpremises, rfl⟩ := h
  have hname := Uuid.bounded.required? hid
  have hstatement := Sequent.bounded.required? hsequent
  have hruled : (Json.orNull (rule.map Rule.toJson)).depth ≤ room := by
    rcases Rule.bounded.nullable.optional? hrule with rfl | hruled
    · simp
    · exact hruled
  -- Premises that are missing fit because the statement does, which is an object.
  have hids : (Json.list Uuid.toJson premises).depth ≤ room := by
    rcases Uuid.bounded.list.optional? hpremises with rfl | hids
    · obtain ⟨below, rfl, -⟩ := Json.depth_record_le_iff.1 hstatement
      exact Json.depth_list_le_iff.2 ⟨below, rfl, List.forall_mem_nil _⟩
    · exact hids
  simp [hname, hstatement, hruled, hids]

end Node

namespace ClosedNode

theorem faithful : Faithful toJson decode? := by
  have hid := Uuid.faithful
  have hsequent := Sequent.faithful
  have hrule := Rule.faithful
  refine Json.faithful_record _ (by simp) (by simp)
    (by simp [hid.sound, hid.list.sound, hsequent.sound, hrule.sound]) ?_
  intro room n fields hfits hfinds
  simp only [Option.bind_eq_bind]
  rw [hid.required?_eq hfinds hfits rfl, hsequent.required?_eq hfinds hfits rfl,
    hrule.required?_eq hfinds hfits rfl, hid.list.required?_eq hfinds hfits rfl]
  rfl

theorem bounded : Bounded toJson decode? := by
  refine Json.bounded_record _ fun {room n fields} h ↦ ?_
  simp only [Option.bind_eq_bind, Option.bind_eq_some_iff, Option.some.injEq] at h
  obtain ⟨id, hid, sequent, hsequent, rule, hrule, premises, hpremises, rfl⟩ := h
  have hname := Uuid.bounded.required? hid
  have hstatement := Sequent.bounded.required? hsequent
  have hruled := Rule.bounded.required? hrule
  have hids := Uuid.bounded.list.required? hpremises
  simp [hname, hstatement, hruled, hids]

end ClosedNode

namespace TreeReport

theorem faithful : Faithful toJson decode? := by
  have hid := Uuid.faithful
  have hnodes := ClosedNode.faithful.list
  refine Json.faithful_record _ (by simp) (by simp) (by simp [hid.sound, hnodes.sound]) ?_
  intro room r fields hfits hfinds
  simp only [Option.bind_eq_bind]
  rw [hid.required?_eq hfinds hfits rfl, hnodes.required?_eq hfinds hfits rfl]
  rfl

theorem bounded : Bounded toJson decode? := by
  refine Json.bounded_record _ fun {room r fields} h ↦ ?_
  simp only [Option.bind_eq_bind, Option.bind_eq_some_iff, Option.some.injEq] at h
  obtain ⟨root, hroot, nodes, hnodes, rfl⟩ := h
  have hid := Uuid.bounded.required? hroot
  have hlist := ClosedNode.bounded.list.required? hnodes
  simp [hid, hlist]

end TreeReport

end Sequitur
