import Sequitur.Exercise.Json
import Sequitur.Proofs.Tree.Json

/-!
# Votes, hints and submissions are decoded from their forms

The decoders of votes, hints and submitted exercises are faithful and bounded.
-/

set_option autoImplicit false

namespace Sequitur

open Json (Faithful Bounded)

/-! ## Votes and hints -/

namespace Feedback

/-- The fields of a vote under their keys. -/
def fieldsJson (f : Feedback) : List (String × Json) :=
  [("like", .bool f.like)] ++
    match f.difficulty with
    | none => []
    | some d => [("difficulty", .nat d.toNat)]

theorem faithful : Faithful toJson decode? := by
  have hlike := Json.faithful_bool
  have hdifficulty := Json.faithful_uint32
  refine Json.faithful_record fieldsJson ?_ ?_ ?_ ?_
  · rintro ⟨like, difficulty⟩
    cases difficulty <;> simp [fieldsJson]
  · rintro ⟨like, difficulty⟩
    cases difficulty <;> simp [fieldsJson]
  · rintro ⟨like, difficulty⟩
    cases difficulty <;> simp [fieldsJson, hlike.sound, hdifficulty.sound]
  · rintro room ⟨like, difficulty⟩ fields hfits hfinds
    simp only [Option.bind_eq_bind]
    rw [hlike.required?_eq hfinds hfits rfl]
    cases difficulty with
    | none =>
      rw [hfinds.optional?_eq_missing rfl]
      rfl
    | some d =>
      rw [(hdifficulty.nullable fun n ↦ Json.nat_ne_null n.toNat).optional?_eq (v := some d) hfinds
        hfits rfl]
      rfl

theorem bounded : Bounded toJson decode? := by
  refine Json.bounded_record fieldsJson fun {room f fields} _ ↦ ?_
  obtain ⟨like, difficulty⟩ := f
  cases difficulty <;> simp [fieldsJson]

end Feedback

namespace Hint

theorem faithful : Faithful toJson decode? := by
  have hrule := Rule.faithful
  have hpremises := Sequent.faithful.list
  refine Json.faithful_record _ (by simp) (by simp) (by simp [hrule.sound, hpremises.sound]) ?_
  intro room h fields hfits hfinds
  simp only [Option.bind_eq_bind]
  rw [hrule.required?_eq hfinds hfits rfl, hpremises.required?_eq hfinds hfits rfl]
  rfl

theorem bounded : Bounded toJson decode? := by
  refine Json.bounded_record _ fun {room h fields} hfields ↦ ?_
  simp only [Option.bind_eq_bind, Option.bind_eq_some_iff, Option.some.injEq] at hfields
  obtain ⟨rule, hrule, premises, hpremises, rfl⟩ := hfields
  have hname := Rule.bounded.required? hrule
  have hlist := Sequent.bounded.list.required? hpremises
  simp [hname, hlist]

end Hint

/-! ## Submissions -/

namespace NewExercise

theorem faithful : Faithful toJson decode? := by
  have hformula := Formula.faithful false
  refine Json.faithful_record _ (by simp) (by simp)
    (by simp [hformula.sound, hformula.list.sound]) ?_
  intro room e fields hfits hfinds
  simp only [Option.bind_eq_bind]
  rw [Formula.decode?, hformula.list.required?_eq hfinds hfits rfl,
    hformula.required?_eq hfinds hfits rfl]
  rfl

theorem bounded : Bounded toJson decode? := by
  refine Json.bounded_record _ fun {room e fields} h ↦ ?_
  simp only [Option.bind_eq_bind, Option.bind_eq_some_iff, Option.some.injEq] at h
  obtain ⟨hypotheses, hhypotheses, goal, hgoal, rfl⟩ := h
  have hlhs := (Formula.bounded false).list.required? hhypotheses
  have hrhs := (Formula.bounded false).required? hgoal
  simp [hlhs, hrhs]

end NewExercise

end Sequitur
