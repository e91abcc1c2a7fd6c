import Sequitur.Proofs.Store.Refinement

/-!
# The list of ratings

The store remembers which exercises have been rated.  Recording a rating adds the exercise to the
list, and asking looks it up.  No other operation touches the list
(`StoreOperation.feedback_perform`).
-/

set_option autoImplicit false

namespace Sequitur

open ProgressOperation (added)

variable {d d' : Directory} {id : ExerciseId} {refused : Refusals}

namespace Directory

/-- A directory once a rating has been recorded. -/
def rated (d : Directory) (id : ExerciseId) : Directory :=
  d.remember { d.remembered with feedback := added d.remembered.feedback id }

/-- What a directory tells is what it remembers. -/
theorem remembered_eq {p : Progress} (h : d.progress = .ok p) : d.remembered = p := by
  have hfile : d.Writable := by
    intro hfolder
    rw [progress_of_folder hfolder] at h
    cases h
  rw [progress_of_writable hfile] at h
  exact Except.ok.inj h

end Directory

namespace StoreOperation

open Directory (remembered_eq)

/-- What the store says about a rating is right. -/
theorem feedback_of_hasFeedback {rated : Bool}
    (h : (hasFeedback id).perform d refused = (.ok rated, d')) :
    d' = d ∧ (rated = true ↔ id ∈ d.remembered.feedback) := by
  obtain ⟨hsame, p, hp, hrated⟩ := perform_hasFeedback h
  rw [remembered_eq hp]
  exact ⟨hsame, hrated⟩

/-- A rating is added to the list. -/
theorem feedback_of_addFeedback {result : Unit}
    (h : (addFeedback id).perform d refused = (.ok result, d')) :
    d'.remembered.feedback = added d.remembered.feedback id := by
  obtain ⟨p, hp, -, hp'⟩ := Directory.update_eq_ok h
  rw [remembered_eq hp, remembered_eq hp', Progress.addFeedback?, Progress.insertUnique?, added]
  by_cases hid : id ∈ p.feedback
  · rw [if_pos hid, if_pos hid]
    rfl
  · rw [if_neg hid, if_neg hid]
    rfl

/-- **No other operation touches the list of ratings**, whether it fails or not. -/
theorem feedback_perform {op : StoreOperation} (hop : ∀ id, op ≠ addFeedback id) :
    (op.perform d refused).2.remembered.feedback = d.remembered.feedback := by
  have hprogress : ∀ op : ProgressOperation, (∀ id, op ≠ .addFeedback id) →
      (op.question.perform d refused).2.remembered.feedback = d.remembered.feedback := by
    intro op hop
    rcases d.perform_question_eq_or op refused with hsame | hkept
    swap
    · rw [hkept]
    rw [hsame]
    by_cases hfile : d.Writable
    · rw [Directory.perform_question hfile, Directory.remembered_remember]
      cases op with
      | addFeedback id => exact absurd rfl (hop id)
      | progress | addFavorite _ | removeFavorite _ | toggleFavorite _ | isFavorite _ | favorites
      | hasFeedback _ | addCompleted _ | isCompleted _ | completed | welcomeCollapsed
      | setWelcomeCollapsed _ => rfl
    · rw [Directory.perform_question_of_folder (not_not.1 hfile)]
  cases op with
  | addFeedback id => exact absurd rfl (hop id)
  | progress => exact hprogress .progress (by simp)
  | addFavorite id => exact hprogress (.addFavorite id) (by simp)
  | removeFavorite id => exact hprogress (.removeFavorite id) (by simp)
  | toggleFavorite id => exact hprogress (.toggleFavorite id) (by simp)
  | isFavorite id => exact hprogress (.isFavorite id) (by simp)
  | favorites => exact hprogress .favorites (by simp)
  | hasFeedback id => exact hprogress (.hasFeedback id) (by simp)
  | addCompleted id => exact hprogress (.addCompleted id) (by simp)
  | isCompleted id => exact hprogress (.isCompleted id) (by simp)
  | completed => exact hprogress .completed (by simp)
  | welcomeCollapsed => exact hprogress .welcomeCollapsed (by simp)
  | setWelcomeCollapsed collapsed => exact hprogress (.setWelcomeCollapsed collapsed) (by simp)
  | loadTree => rfl
  | saveTree root nodes =>
    -- progress is in neither of the files that are written
    rw [Directory.remembered, perform,
      Directory.entry?_saveTree root nodes (by decide) (by decide), Directory.remembered]

end StoreOperation

end Sequitur
