import Sequitur.Proofs.Console.Failure
import Sequitur.Proofs.Program.Response
import Sequitur.Proofs.Program.Run
import Sequitur.Proofs.Session.Completion
import Sequitur.Proofs.Store.Rating

/-!
# How often an exercise is rated

There are two occasions to rate an exercise, the task of the command line and a line of a session,
and both record the rating in the store.  Only the task looks at the record before it sends.  So
after the first rating of an exercise the task sends nothing more, and every line sends another
request.

A single occasion is a `Turn`, with `Turn.step` for what it does, and a `History` is any number of
them that share a directory.  `length_received_of_mem` and `length_received_of_notMem` count the
requests of a history, and `received_le_one_iff` says when there is at most one.
-/

set_option autoImplicit false

namespace Sequitur

/-- What is printed after a rating. -/
def thanks : String :=
  "thanks for the feedback\n"

/-- **A rating on the console** is sent and then recorded; what fails first ends it. -/
theorem Console.runs_rate_cases {s s' : Session} {log : Session.Log} {feedback : Feedback}
    {result : Except CommandError Sequel} (h : Runs (perform (.rate feedback)) s log result s') :
    (∃ e, log = [⟨.rate s.exercise feedback, .error e⟩]) ∨
      (∃ e, log = [⟨.rate s.exercise feedback, .ok ()⟩,
        ⟨.store (.addFeedback s.exercise), .error e⟩]) ∨
      log = [⟨.rate s.exercise feedback, .ok ()⟩, ⟨.store (.addFeedback s.exercise), .ok ()⟩,
        ⟨.print thanks, ()⟩] ∧ result = .ok .stay := by
  rcases Action.runs_bind_iff.1 h with ⟨e, rfl, hfail⟩ | ⟨_, _, _, _, rfl, hrated, hend⟩
  · obtain ⟨r, hr, hresult⟩ := Action.runs_adapt_iff.1 hfail
    obtain ⟨-, ⟨fault, rfl, -⟩ | ⟨answer, rfl, rfl⟩⟩ := Session.runs_rate_cases hr
    · exact .inl ⟨fault, rfl⟩
    · cases answer with
      | error fault => exact .inr (.inl ⟨fault, rfl⟩)
      | ok done => cases hresult
  · obtain ⟨r, hr, hresult⟩ := Action.runs_adapt_iff.1 hrated
    obtain ⟨rfl, ⟨fault, -, rfl⟩ | ⟨answer, rfl, rfl⟩⟩ := Session.runs_rate_cases hr
    · cases hresult
    cases answer with
    | error fault => cases hresult
    | ok done =>
      rcases Action.runs_bind_iff.1 hend with ⟨e, -, hfail⟩ | ⟨_, _, _, _, rfl, hprint, hdone⟩
      · exact absurd hfail ((prints_print _).sure _ _ _ _)
      · obtain ⟨r, hr, -⟩ := Action.runs_adapt_iff.1 hprint
        obtain ⟨⟨⟩, rfl, -, -⟩ := Action.runs_say_iff.1 hr
        obtain ⟨rfl, rfl, -⟩ := Action.runs_pure_iff.1 hdone
        exact .inr (.inr ⟨rfl, rfl⟩)

namespace Program

open ProgressOperation (added)
open Directory (rated)

variable {d d' : Directory} {log : Effect.Log} {id : ExerciseId}

/-! ## Backend and store in a log -/

/-- The requests that are sent. -/
def sends (log : Effect.Log) : List Request :=
  log.filterMap fun e ↦
    match e.1 with
    | .send r => some r
    | _ => none

/-- The backend takes every request, and nothing fails in the store. -/
structure Smooth (log : Effect.Log) : Prop where
  /-- Every request is delivered and succeeds. -/
  taken : ∀ r response, (⟨.send r, response⟩ : (e : Effect) × e.Answer) ∈ log →
    ∃ answer, response = some answer ∧ answer.isSuccess = true
  /-- The store can be opened. -/
  opened : ∀ path e, (⟨.openStore path, .error e⟩ : (e : Effect) × e.Answer) ∉ log
  /-- No operation on the store fails. -/
  kept : ∀ op e, (⟨.store op, .error e⟩ : (e : Effect) × e.Answer) ∉ log

theorem Smooth.of_subset {part : Effect.Log} (h : Smooth log) (hpart : part ⊆ log) :
    Smooth part where
  taken r response hr := h.taken r response (hpart hr)
  opened path e he := h.opened path e (hpart he)
  kept op e he := h.kept op e (hpart he)

/-- What is asked of the store, as a session asks it. -/
def storeLog (log : Effect.Log) : Session.Log :=
  log.filterMap fun
    | ⟨.store op, answer⟩ => some ⟨.store op, answer⟩
    | _ => none

/-- A directory answers all operations on the store that are in a log, one after the other. -/
def Stored (d : Directory) (log : Effect.Log) (d' : Directory) : Prop :=
  Session.Served d (storeLog log) d'

theorem stored_nil_iff : Stored d [] d' ↔ d' = d :=
  Session.served_nil_iff

theorem stored_store_iff {op : StoreOperation} {answer : Except StoreError op.Result} :
    Stored d (⟨.store op, answer⟩ :: log) d' ↔
      ∃ refused d₁, op.perform d refused = (answer, d₁) ∧ Stored d₁ log d' :=
  Session.served_store_iff

theorem stored_other_iff {e : Effect} {answer : e.Answer} (he : ∀ op, e ≠ .store op) :
    Stored d (⟨e, answer⟩ :: log) d' ↔ Stored d log d' := by
  cases e with
  | store op => exact absurd rfl (he op)
  | openStore _ | send _ | fresh _ | write _ _ | print _ | complain _ => exact Iff.rfl

/-! ## Occasions -/

/-- A rating of an exercise that has an address at a backend. -/
structure Rating where
  connection : Connection
  exercise : ExerciseId
  feedback : Feedback
  exists_request : ∃ request, (Call.rate exercise feedback).request connection = .ok request

/-- A line of a session that rates its exercise. -/
structure RatingLine extends Rating where
  session : Session
  text : String
  session_exercise : session.exercise = exercise
  ofWords?_text : Command.ofWords? (Console.words (Text.trim text)) = .ok (some (.rate feedback))

/-- A run of the program that is told to rate an exercise. -/
structure RatingTask extends Rating where
  environment : Environment
  words : List String
  arguments : Arguments
  path : String
  parse_words : Arguments.parse words = .ok arguments
  arguments_task : arguments.task = .rate exercise feedback
  storePath_eq : storePath environment arguments.storeDir = .ok path
  connectionOf_eq : connectionOf environment arguments.apiUrl = .ok connection

/-- An occasion to rate an exercise. -/
inductive Turn where
  | line (line : RatingLine)
  | task (task : RatingTask)

namespace Turn

/-- What is rated, and how. -/
def rating : Turn → Rating
  | line l => l.toRating
  | task t => t.toRating

/-- The exercise that is rated. -/
def exercise (t : Turn) : ExerciseId :=
  t.rating.exercise

/-- Whether the occasion is a line of a session. -/
def isLine : Turn → Bool
  | line _ => true
  | task _ => false

/-- What is asked of the system on the occasion. -/
def Asks : Turn → Effect.Log → Prop
  | line l, log =>
    ∃ sequel s', Dialogue.Runs (hear l.connection l.text l.session) log (sequel, s')
  | task t, log => ∃ outcome, Dialogue.Runs (run t.environment t.words) log outcome

end Turn

/-! ## A single occasion -/

namespace Rating

variable {rating : Rating} {part rest : Effect.Log}

/-- The rating is sent, recorded, and acknowledged. -/
def Recorded (rating : Rating) (log : Effect.Log) : Prop :=
  ∃ request response,
    log = [⟨.send request, response⟩, ⟨.store (.addFeedback rating.exercise), .ok ()⟩,
      ⟨.print thanks, ()⟩]

theorem Recorded.sends (h : rating.Recorded log) : (sends log).length = 1 := by
  obtain ⟨request, response, rfl⟩ := h
  rfl

theorem Recorded.feedback (h : rating.Recorded log) (hstored : Stored d log d') :
    d'.remembered.feedback = added d.remembered.feedback rating.exercise := by
  obtain ⟨request, response, rfl⟩ := h
  obtain ⟨_, d₁, hadd, hrest⟩ := stored_store_iff.1 ((stored_other_iff (by simp)).1 hstored)
  obtain rfl := stored_nil_iff.1 ((stored_other_iff (by simp)).1 hrest)
  exact StoreOperation.feedback_of_addFeedback hadd

/-- A backend that takes every request takes the rating, whatever the body of its response. -/
theorem runs_call (rating : Rating) {answer : Except BackendError Unit}
    (h : Dialogue.Runs (Effect.call rating.connection (.rate rating.exercise rating.feedback)) part
      answer) (hsmooth : Smooth (part ++ rest)) :
    answer = .ok () ∧ ∃ request response, part = [⟨.send request, response⟩] := by
  obtain ⟨request, hrequest⟩ := rating.exists_request
  rcases Effect.runs_call_iff.1 h with ⟨e, he, -⟩ | ⟨r, response, hr, rfl, rfl⟩
  · rw [hrequest] at he
    cases he
  · obtain ⟨taken, rfl, hsuccess⟩ := hsmooth.taken r response List.mem_cons_self
    exact ⟨Call.read_decoded hsuccess rfl, r, some taken, rfl⟩

end Rating

/-- A blank line has no words. -/
theorem RatingLine.isEmpty_text (l : RatingLine) : (Text.trim l.text).isEmpty = false := by
  rw [Bool.eq_false_iff]
  intro hblank
  have hempty := l.ofWords?_text
  rw [String.isEmpty_iff.1 hblank] at hempty
  cases hempty

/-- A line sends its rating whatever has been recorded before. -/
theorem RatingLine.recorded (l : RatingLine) (hasks : (Turn.line l).Asks log)
    (hsmooth : Smooth log) : l.Recorded log := by
  obtain ⟨sequel, s', hrun⟩ := hasks
  rcases runs_hear_iff.1 hrun with ⟨hblank, -⟩ | ⟨-, asked, part, outcome, hobey, hanswered, hend⟩
  · rw [l.isEmpty_text] at hblank
    cases hblank
  have hpart : part ⊆ log := by
    rcases hend with ⟨-, rfl⟩ | ⟨e, -, -, rfl⟩
    · exact List.Subset.refl _
    · exact List.subset_append_left _ _
  rw [Console.obey, l.ofWords?_text] at hobey
  have hcases := Console.runs_rate_cases hobey
  rw [l.session_exercise] at hcases
  rcases hcases with ⟨e, rfl⟩ | ⟨e, rfl⟩ | ⟨rfl, rfl⟩
  · obtain ⟨sent, rest, rfl, hsent, -⟩ := Dialogue.answered_cons_iff.1 hanswered
    cases (l.toRating.runs_call hsent (hsmooth.of_subset hpart)).1
  · obtain ⟨sent, rest, rfl, -, hrest⟩ := Dialogue.answered_cons_iff.1 hanswered
    obtain ⟨_, rfl, -⟩ := Effect.answered_store_cons_iff.1 hrest
    exact absurd (hpart (by simp)) (hsmooth.kept (.addFeedback l.exercise) e)
  · obtain ⟨sent, rest, rfl, hsent, hrest⟩ := Dialogue.answered_cons_iff.1 hanswered
    obtain ⟨-, request, response, rfl⟩ := l.toRating.runs_call hsent (hsmooth.of_subset hpart)
    obtain ⟨_, rfl, htail⟩ := Effect.answered_store_cons_iff.1 hrest
    obtain ⟨_, rfl, hlast⟩ := Effect.answered_print_cons_iff.1 htail
    obtain rfl := Dialogue.answered_nil_iff.1 hlast
    rcases hend with ⟨-, rfl⟩ | ⟨e, he, -⟩
    · exact ⟨request, response, rfl⟩
    · cases he

/-- What a rating does as a task: it ends where the store knows of one, and otherwise goes the same
way as a line. -/
theorem Rating.recorded_of_rate (rating : Rating) {result : Except ProgramError Unit}
    (h : Runs (rate rating.connection rating.exercise rating.feedback) log result)
    (hsmooth : Smooth log) :
    (log = [⟨.store (.hasFeedback rating.exercise), .ok true⟩] ∧ ∃ e, result = .error e) ∨
      ∃ rest, log = ⟨.store (.hasFeedback rating.exercise), .ok false⟩ :: rest ∧
        rating.Recorded rest ∧ result = .ok () := by
  obtain ⟨answer, rest, rfl, hlooked⟩ := runs_askStore_bind_iff.1 h
  rcases hlooked with ⟨e, rfl, -, -⟩ | ⟨rated, rfl, hgo⟩
  · exact absurd List.mem_cons_self (hsmooth.kept _ e)
  cases rated with
  | true =>
    obtain ⟨rfl, rfl⟩ := runs_throw_iff.1 hgo
    exact .inl ⟨rfl, _, rfl⟩
  | false =>
    obtain ⟨sent, answer, rest, rfl, hsent, hrest⟩ := runs_call_bind_iff.1 hgo
    obtain ⟨rfl, request, response, rfl⟩ := rating.runs_call hsent
      (hsmooth.of_subset (List.subset_cons_self _ _))
    rcases hrest with ⟨e, he, -⟩ | ⟨_, -, hadd⟩
    · cases he
    obtain ⟨answer, rest, rfl, hadded⟩ := runs_askStore_bind_iff.1 hadd
    rcases hadded with ⟨e, rfl, -, -⟩ | ⟨⟨⟩, rfl, hprint⟩
    · exact absurd (by simp) (hsmooth.kept (.addFeedback rating.exercise) e)
    · obtain ⟨⟨⟩, rfl, rfl⟩ := runs_ask_iff.1 hprint
      exact .inr ⟨_, rfl, ⟨request, response, rfl⟩, rfl⟩

/-- The task opens the store, and then the rating is up to `rate`. -/
theorem RatingTask.runs_perform_iff (t : RatingTask)
    {result : Except ProgramError (Option (Connection × Session))} :
    Runs (perform t.environment t.arguments) log result ↔
      ∃ opened rest, log = ⟨.openStore t.path, opened⟩ :: rest ∧
        ((∃ e, opened = .error e ∧ rest = [] ∧ result = .error (.opening e)) ∨
          ∃ done, opened = .ok done ∧
            Runs (rate t.connection t.exercise t.feedback >>= fun _ ↦ pure none) rest result) := by
  have hperform : perform t.environment t.arguments =
      openStore t.environment t.arguments.storeDir >>= fun _ ↦
        rate t.connection t.exercise t.feedback >>= fun _ ↦ pure none := by
    rw [perform, t.arguments_task]
    simp only [connect_eq, t.connectionOf_eq]
    rfl
  rw [hperform]
  exact runs_openStore_bind_iff t.storePath_eq

/-- The task sends its rating unless one has been recorded. -/
theorem RatingTask.recorded (t : RatingTask) (hasks : (Turn.task t).Asks log)
    (hsmooth : Smooth log) :
    ∃ rest, log = ⟨.openStore t.path, .ok ()⟩ :: rest ∧
      ((∃ e : ProgramError, rest = [⟨.store (.hasFeedback t.exercise), .ok true⟩,
        ⟨.complain e.report, ()⟩]) ∨
      ∃ last, rest = ⟨.store (.hasFeedback t.exercise), .ok false⟩ :: last ∧
        t.Recorded last) := by
  obtain ⟨outcome, hrun⟩ := hasks
  obtain ⟨part, result, hperform, rfl, -⟩ := (runs_run_iff t.parse_words).1 hrun
  replace hsmooth := hsmooth.of_subset (List.subset_append_left part _)
  obtain ⟨opened, rest, rfl, ⟨e, rfl, -, -⟩ | ⟨⟨⟩, rfl, hrest⟩⟩ := t.runs_perform_iff.1 hperform
  · exact absurd List.mem_cons_self (hsmooth.opened _ e)
  refine ⟨rest ++ complaint result, rfl, ?_⟩
  replace hsmooth := hsmooth.of_subset (List.subset_cons_self _ _)
  rcases runs_bind_iff.1 hrest with ⟨e, rfl, hfail⟩ | ⟨before, after, _, rfl, hdone, hend⟩
  · rcases t.recorded_of_rate hfail hsmooth with ⟨rfl, -⟩ | ⟨last, rfl, -, hresult⟩
    · exact .inl ⟨e, rfl⟩
    · cases hresult
  · obtain ⟨rfl, rfl⟩ := runs_pure_iff.1 hend
    rw [List.append_nil] at hsmooth ⊢
    rcases t.recorded_of_rate hdone hsmooth with ⟨-, e, hresult⟩ | ⟨last, rfl, hlast, -⟩
    · cases hresult
    · exact .inr ⟨last, List.append_nil _, hlast⟩

/-- **What one occasion does.**  A line sends one request; the task sends one unless the exercise
has been recorded as rated.  Afterwards it has been recorded. -/
theorem Turn.step {t : Turn} (hasks : t.Asks log) (hsmooth : Smooth log)
    (hstored : Stored d log d') :
    (sends log).length =
        (if t.isLine = true ∨ t.exercise ∉ d.remembered.feedback then 1 else 0) ∧
      d'.remembered.feedback = added d.remembered.feedback t.exercise := by
  cases t with
  | line l =>
    have hlog := l.recorded hasks hsmooth
    exact ⟨hlog.sends.trans (if_pos (.inl rfl)).symm, hlog.feedback hstored⟩
  | task t =>
    obtain ⟨rest, rfl, hrest⟩ := t.recorded hasks hsmooth
    replace hstored := (stored_other_iff (by simp)).1 hstored
    rcases hrest with ⟨e, rfl⟩ | ⟨last, rfl, hlast⟩
    · obtain ⟨_, d₁, hlooked, hend⟩ := stored_store_iff.1 hstored
      obtain ⟨rfl, hrated⟩ := StoreOperation.feedback_of_hasFeedback hlooked
      obtain rfl := stored_nil_iff.1 ((stored_other_iff (by simp)).1 hend)
      have hmem : t.exercise ∈ d'.remembered.feedback := hrated.1 rfl
      refine ⟨(if_neg ?_).symm, (ProgressOperation.added_eq_self_iff.2 hmem).symm⟩
      rintro (hline | hnew)
      · cases hline
      · exact hnew hmem
    · obtain ⟨_, d₁, hlooked, hend⟩ := stored_store_iff.1 hstored
      obtain ⟨rfl, hrated⟩ := StoreOperation.feedback_of_hasFeedback hlooked
      have hnew : t.exercise ∉ d₁.remembered.feedback := fun hmem ↦ by
        cases hrated.2 hmem
      exact ⟨hlast.sends.trans (if_pos (.inr hnew)).symm, hlast.feedback hend⟩

/-! ## Histories -/

/-- Occasions one after the other, in any sessions and any runs of the program, that share a
directory.  In between the store may be used for anything but ratings, whether it goes along or
not. -/
inductive History : Directory → List (Turn × Effect.Log) → Prop
  | nil (d : Directory) : History d []
  | turn {d d' : Directory} {t : Turn} {log : Effect.Log} {turns : List (Turn × Effect.Log)}
      (hasks : t.Asks log) (hsmooth : Smooth log) (hstored : Stored d log d')
      (hrest : History d' turns) : History d ((t, log) :: turns)
  | other {d : Directory} {op : StoreOperation} {turns : List (Turn × Effect.Log)}
      (refused : Refusals) (hop : ∀ id, op ≠ .addFeedback id)
      (hrest : History (op.perform d refused).2 turns) : History d turns

variable {turns : List (Turn × Effect.Log)} {t : Turn}

/-- The occasions to rate an exercise. -/
def occasions (id : ExerciseId) (turns : List (Turn × Effect.Log)) : List Turn :=
  (turns.map Prod.fst).filter (·.exercise = id)

/-- The requests that the backend receives for an exercise. -/
def received (id : ExerciseId) (turns : List (Turn × Effect.Log)) : List Request :=
  (turns.filter (·.1.exercise = id)).flatMap fun turn ↦ sends turn.2

theorem occasions_cons_self (h : t.exercise = id) :
    occasions id ((t, log) :: turns) = t :: occasions id turns :=
  List.filter_cons_of_pos (by simpa using h)

theorem occasions_cons_of_ne (h : t.exercise ≠ id) :
    occasions id ((t, log) :: turns) = occasions id turns :=
  List.filter_cons_of_neg (by simpa using h)

theorem received_cons_self (h : t.exercise = id) :
    received id ((t, log) :: turns) = sends log ++ received id turns := by
  rw [received, List.filter_cons_of_pos (by simpa using h), List.flatMap_cons, received]

theorem received_cons_of_ne (h : t.exercise ≠ id) :
    received id ((t, log) :: turns) = received id turns := by
  rw [received, List.filter_cons_of_neg (by simpa using h), received]

/-- Of an exercise that has been recorded the lines are sent, all of them. -/
theorem length_received_of_mem (h : History d turns) (hid : id ∈ d.remembered.feedback) :
    (received id turns).length = (occasions id turns).countP Turn.isLine := by
  induction h with
  | nil d => rfl
  | @turn d d' t log turns hasks hsmooth hstored _ ih =>
    obtain ⟨hsends, hfeedback⟩ := Turn.step hasks hsmooth hstored
    have hid' : id ∈ d'.remembered.feedback := by
      rw [hfeedback, added]
      split
      · exact hid
      · exact List.mem_append_left _ hid
    by_cases hown : t.exercise = id
    · have hmem : t.exercise ∈ d.remembered.feedback := hown ▸ hid
      simp only [hmem, not_true, or_false] at hsends
      rw [received_cons_self hown, occasions_cons_self hown, List.length_append, hsends, ih hid',
        List.countP_cons, Nat.add_comm]
    · rw [received_cons_of_ne hown, occasions_cons_of_ne hown, ih hid']
  | other _ hop _ ih => exact ih (by rwa [StoreOperation.feedback_perform hop])

/-- Of an exercise that has not been recorded the first occasion is sent, and the lines after it. -/
theorem length_received_of_notMem (h : History d turns) (hid : id ∉ d.remembered.feedback) :
    (received id turns).length =
      ((occasions id turns).take 1).length + (occasions id turns).tail.countP Turn.isLine := by
  induction h with
  | nil d => rfl
  | @turn d d' t log turns hasks hsmooth hstored hrest ih =>
    obtain ⟨hsends, hfeedback⟩ := Turn.step hasks hsmooth hstored
    by_cases hown : t.exercise = id
    · have hnew : t.exercise ∉ d.remembered.feedback := hown ▸ hid
      have hmem : id ∈ d'.remembered.feedback := by
        rw [hfeedback, added, if_neg hnew, hown]
        exact List.mem_append_right _ (List.mem_singleton.2 rfl)
      rw [if_pos (.inr hnew)] at hsends
      rw [received_cons_self hown, occasions_cons_self hown, List.length_append, hsends,
        length_received_of_mem hrest hmem]
      rfl
    · have hid' : id ∉ d'.remembered.feedback := by
        rw [hfeedback, added]
        split
        · exact hid
        · simpa [Ne.symm hown] using hid
      rw [received_cons_of_ne hown, occasions_cons_of_ne hown, ih hid']
  | other _ hop _ ih => exact ih (by rwa [StoreOperation.feedback_perform hop])

/-- **When the backend receives at most one rating of an exercise.**  Over any history of occasions
that share a directory, with nothing failing, it does if and only if no line of a session rates the
exercise once a rating has been given: there is none after the first occasion, or, if the directory
knows of a rating from the beginning, there is at most one. -/
theorem received_le_one_iff (h : History d turns) (id : ExerciseId) :
    (received id turns).length ≤ 1 ↔
      if id ∈ d.remembered.feedback then (occasions id turns).countP Turn.isLine ≤ 1
      else ∀ t ∈ (occasions id turns).tail, t.isLine = false := by
  split
  · next hid => rw [length_received_of_mem h hid]
  next hid =>
  rw [length_received_of_notMem h hid]
  cases hoccasions : occasions id turns with
  | nil => simp
  | cons t later =>
    have hlines : later.countP Turn.isLine = 0 ↔ ∀ t ∈ later, t.isLine = false := by
      simp [List.countP_eq_zero]
    show 1 + later.countP Turn.isLine ≤ 1 ↔ ∀ t ∈ later, t.isLine = false
    rw [← hlines]
    omega

/-- A success that says nothing. -/
def taken : Response where
  status := 200
  body := []

/-- What is asked for a rating that is taken and recorded. -/
def ratedLog (id : ExerciseId) (request : Request) : Effect.Log :=
  [⟨.send request, some taken⟩, ⟨.store (.addFeedback id), .ok ()⟩,
    ⟨.print thanks, ()⟩]

/-- What is asked by the task for an exercise that has been recorded. -/
def refusedLog (path : String) (id : ExerciseId) : Effect.Log :=
  [⟨.openStore path, .ok ()⟩, ⟨.store (.hasFeedback id), .ok true⟩,
    ⟨.complain (ProgramError.alreadyRated id).report, ()⟩]

theorem smooth_ratedLog (id : ExerciseId) (request : Request) : Smooth (ratedLog id request) := by
  refine ⟨?_, ?_, ?_⟩
  · rintro r response (_ | ⟨_, _ | ⟨_, _ | ⟨_, ⟨⟩⟩⟩⟩)
    exact ⟨_, rfl, rfl⟩
  · rintro path e (_ | ⟨_, _ | ⟨_, _ | ⟨_, ⟨⟩⟩⟩⟩)
  · rintro op e (_ | ⟨_, _ | ⟨_, _ | ⟨_, ⟨⟩⟩⟩⟩)

theorem stored_ratedLog (hd : d.Writable) (request : Request) :
    Stored d (ratedLog id request) (rated d id) :=
  (stored_other_iff (by simp)).2 (stored_store_iff.2
    ⟨.none, _, Directory.perform_question hd (.addFeedback id),
      (stored_other_iff (by simp)).2 (stored_nil_iff.2 rfl)⟩)

theorem smooth_refusedLog (path : String) (id : ExerciseId) : Smooth (refusedLog path id) := by
  refine ⟨?_, ?_, ?_⟩
  · rintro r response (_ | ⟨_, _ | ⟨_, _ | ⟨_, ⟨⟩⟩⟩⟩)
  · rintro path e (_ | ⟨_, _ | ⟨_, _ | ⟨_, ⟨⟩⟩⟩⟩)
  · rintro op e (_ | ⟨_, _ | ⟨_, _ | ⟨_, ⟨⟩⟩⟩⟩)

theorem stored_refusedLog (hd : d.Writable) (hid : id ∈ d.remembered.feedback) (path : String) :
    Stored d (refusedLog path id) d := by
  have hlooked : (StoreOperation.hasFeedback id).perform d = (.ok true, d) := by
    refine (Directory.perform_question hd (.hasFeedback id)).trans ?_
    show (Except.ok (decide (id ∈ d.remembered.feedback)), d.remember d.remembered) = (.ok true, d)
    rw [Directory.remember, if_pos rfl, decide_eq_true hid]
  exact (stored_other_iff (by simp)).2
    (stored_store_iff.2 ⟨.none, d, hlooked, (stored_other_iff (by simp)).2 (stored_nil_iff.2 rfl)⟩)

/-- A line may always find a backend that takes its rating. -/
theorem RatingLine.asks (l : RatingLine) {request : Request}
    (hrequest : (Call.rate l.exercise l.feedback).request l.connection = .ok request) :
    (Turn.line l).Asks (ratedLog l.exercise request) := by
  have hobey : Console.Runs (Console.obey (Console.words (Text.trim l.text))) l.session
      [⟨.rate l.exercise l.feedback, .ok ()⟩, ⟨.store (.addFeedback l.exercise), .ok ()⟩,
        ⟨.print thanks, ()⟩] (.ok .stay) l.session := by
    rw [Console.obey, l.ofWords?_text, ← l.session_exercise]
    exact Dialogue.Runs.ask (.ask (.ask (.done _)))
  have hread : (Call.rate l.exercise l.feedback).read request.url (some taken) = .ok () :=
    Call.read_decoded rfl rfl
  have hcall : Dialogue.Runs (Effect.call l.connection (.rate l.exercise l.feedback))
      [⟨.send request, some taken⟩] (.ok ()) :=
    Effect.runs_call_iff.2 (.inr ⟨request, some taken, hrequest, rfl, hread.symm⟩)
  refine ⟨.stay, l.session, runs_hear_iff.2 (.inr
    ⟨l.isEmpty_text, _, _, _, hobey, ?_, .inl ⟨rfl, rfl⟩⟩)⟩
  refine Dialogue.answered_cons_iff.2 ⟨[⟨.send request, some taken⟩], _, rfl, hcall, ?_⟩
  exact Effect.answered_store_cons_iff.2
    ⟨_, rfl, Effect.answered_print_cons_iff.2 ⟨_, rfl, .nil⟩⟩

/-- A task may always find that the exercise has been rated. -/
theorem RatingTask.asks (t : RatingTask) : (Turn.task t).Asks (refusedLog t.path t.exercise) := by
  refine ⟨.exit 1, (runs_run_iff t.parse_words).2
    ⟨[⟨.openStore t.path, .ok ()⟩, ⟨.store (.hasFeedback t.exercise), .ok true⟩],
      .error (.alreadyRated t.exercise), ?_, rfl, rfl⟩⟩
  refine t.runs_perform_iff.2 ⟨.ok (), _, rfl, .inr ⟨(), rfl, ?_⟩⟩
  refine runs_bind_iff.2 (.inl ⟨_, rfl, runs_askStore_bind_iff.2 ⟨.ok true, [], rfl, ?_⟩⟩)
  exact .inr ⟨true, rfl, runs_throw_iff.2 ⟨rfl, rfl⟩⟩

/-- The exercise to prove `⊤` liked. -/
def likeRating : Rating where
  connection := localConnection
  exercise := .ofNat 1
  feedback := { like := true, difficulty := none }
  exists_request := Call.exists_request rfl

/-- It is liked in a session. -/
def likeLine : RatingLine where
  toRating := likeRating
  session := Session.verumSession
  text := "feedback like"
  session_exercise := rfl
  ofWords?_text := by decide

/-- It is liked on the command line. -/
def likeTask : RatingTask where
  toRating := likeRating
  environment := { storeDir := some "store", apiUrl := some "http://localhost" }
  words := ["feedback", "00000000-0000-0000-0000-000000000001", "--like"]
  arguments :=
    { apiUrl := none, storeDir := none, task := .rate likeRating.exercise likeRating.feedback }
  path := "store"
  parse_words := by decide +kernel
  arguments_task := rfl
  storePath_eq := rfl
  connectionOf_eq := by decide +kernel

theorem writable_freshStore : Session.freshStore.Writable := by
  rw [Directory.Writable, Directory.entry?]
  decide

theorem received_le_one_iff_likedOnce :
    ∃ turns, History Session.freshStore turns ∧
      occasions (.ofNat 1) turns = [.line likeLine, .task likeTask] ∧
      (received (.ofNat 1) turns).length ≤ 1 := by
  obtain ⟨request, hrequest⟩ := likeRating.exists_request
  let turns : List (Turn × Effect.Log) :=
    [(.line likeLine, ratedLog (.ofNat 1) request),
      (.task likeTask, refusedLog "store" (.ofNat 1))]
  have hwritable := writable_freshStore
  have hnew : .ofNat 1 ∉ Session.freshStore.remembered.feedback := by decide
  have hrated : .ofNat 1 ∈ (rated Session.freshStore (.ofNat 1)).remembered.feedback := by
    rw [rated, Directory.remembered_remember, added, if_neg hnew]
    exact List.mem_append_right _ (List.mem_singleton.2 rfl)
  have hhistory : History Session.freshStore turns :=
    .turn (likeLine.asks hrequest) (smooth_ratedLog _ _) (stored_ratedLog hwritable request)
      (.turn likeTask.asks (smooth_refusedLog _ _)
        (stored_refusedLog (Directory.writable_remember hwritable _) hrated "store") (.nil _))
  refine ⟨turns, hhistory, rfl, (received_le_one_iff hhistory (.ofNat 1)).2 ?_⟩
  rw [if_neg hnew]
  intro t ht
  obtain rfl := List.mem_singleton.1 ht
  rfl

/-- A line that is typed twice sends its rating twice. -/
theorem rates_twice :
    ∃ request, (Call.rate likeLine.exercise likeLine.feedback).request likeLine.connection =
        .ok request ∧
      let turns := [(.line likeLine, ratedLog (.ofNat 1) request),
        (.line likeLine, ratedLog (.ofNat 1) request)]
      History Session.freshStore turns ∧ ¬ (received (.ofNat 1) turns).length ≤ 1 := by
  obtain ⟨request, hrequest⟩ := likeRating.exists_request
  have hasks := likeLine.asks hrequest
  have hwritable := writable_freshStore
  refine ⟨request, hrequest, ?_, ?_⟩
  · exact .turn hasks (smooth_ratedLog _ _) (stored_ratedLog hwritable request)
      (.turn hasks (smooth_ratedLog _ _)
        (stored_ratedLog (Directory.writable_remember hwritable _) request) (.nil _))
  · have hown : (Turn.line likeLine).exercise = .ofNat 1 := rfl
    rw [received_cons_self hown, received_cons_self hown]
    exact Nat.not_succ_le_self 1

end Program

end Sequitur
