import Sequitur.Proofs.Dialogue
import Sequitur.Program.Effect

/-!
# What is asked of the system for a question

A question of a session to the backend becomes one request, and its answer is what the response to
it means.  `Call.read` classifies a response by its status and its body; there is one lemma for each
class.  `eq_apply_of_send` tells the request of an application from all others.
-/

set_option autoImplicit false

namespace Sequitur

/-- A text is read back from its symbols. -/
theorem Symbol.lossyText_ofString (text : String) : lossyText (ofString text) = text := by
  have h : ∀ cs : List Char, lossyChars 0 (cs.map .char) = cs := by
    intro cs
    induction cs with
    | nil => rfl
    | cons c cs ih => rw [List.map_cons, lossyChars, ih]
  rw [lossyText, ofString, h, String.ofList_toList]

/-! ## Requests and responses -/

namespace Call

variable {c : Connection} {k : Call} {url : Url} {response : Response}

/-- A call whose path has an address makes a request. -/
theorem exists_request (h : c.endpoint k.path = .ok url) :
    ∃ r, k.request c = .ok r := by
  rw [request, h]
  exact ⟨_, rfl⟩

/-- A request carries the body of its call. -/
theorem body_of_request {r : Request} (h : k.request c = .ok r) : r.body = k.body? := by
  rw [request] at h
  cases hurl : c.endpoint k.path with
  | error e =>
    rw [hurl] at h
    cases h
  | ok url =>
    rw [hurl] at h
    cases h
    rfl

/-- What is sent for an application is sent for nothing else. -/
theorem eq_apply_of_body? {a : Application} (h : k.body? = (apply a).body?) :
    ∃ a', k = .apply a' := by
  cases k with
  | apply a' => exact ⟨a', rfl⟩
  | parse _ | check _ | rules | exercises | exercise _ | create _ | rate _ _ | report _ | hint _ =>
    simp [body?, Application.toJson, ParseRequest.toJson, Sequent.toJson, NewExercise.toJson,
      Feedback.toJson, TreeReport.toJson, Json.record] at h

theorem read_rateLimited (h : response.status = 429) :
    k.read url (some response) = .error .rateLimited :=
  if_pos h

theorem read_refused (hlimit : response.status ≠ 429) (hfailed : response.isSuccess = false) :
    k.read url (some response) = .error (.refused response.status response.text) := by
  rw [read, if_neg hlimit, if_neg (by simp [hfailed])]

/-- Too many requests are no success. -/
theorem status_ne_of_isSuccess (h : response.isSuccess = true) : response.status ≠ 429 := by
  intro hlimit
  simp [Response.isSuccess, hlimit] at h

theorem read_undecodable (hsuccess : response.isSuccess = true)
    (hbody : decodeAnswer? (Json.read? response.body) k = none) :
    ∃ reason, k.read url (some response) = .error (.invalidResponse reason) := by
  rw [read, if_neg (status_ne_of_isSuccess hsuccess), if_pos hsuccess, hbody]
  exact ⟨_, rfl⟩

theorem read_decoded {answer : k.Result} (hsuccess : response.isSuccess = true)
    (hbody : decodeAnswer? (Json.read? response.body) k = some answer) :
    k.read url (some response) = .ok answer := by
  rw [read, if_neg (status_ne_of_isSuccess hsuccess), if_pos hsuccess, hbody]

end Call

namespace Effect

/-- What the system is asked, with its answers. -/
abbrev Log := List ((e : Effect) × e.Answer)

variable {c : Connection} {k : Call} {log : Log}

/-- A call makes no request, or one whose response is read. -/
theorem runs_call_iff {result : Except BackendError k.Result} :
    Dialogue.Runs (call c k) log result ↔
      (∃ e, k.request c = .error e ∧ log = [] ∧ result = .error e) ∨
        ∃ r response, k.request c = .ok r ∧ log = [⟨.send r, response⟩] ∧
          result = k.read r.url response := by
  delta call
  cases hrequest : k.request c with
  | error e => simp [Dialogue.runs_done_iff]
  | ok r =>
    simp only [Dialogue.runs_ask_iff, Dialogue.runs_done_iff, reduceCtorEq, false_and, exists_false,
      false_or, Except.ok.injEq]
    constructor
    · rintro ⟨response, rest, rfl, rfl, rfl⟩
      exact ⟨r, response, rfl, rfl, rfl⟩
    · rintro ⟨_, response, rfl, rfl, rfl⟩
      exact ⟨response, [], rfl, rfl, rfl⟩

/-- The answer to an application is what the response to its request means. -/
theorem runs_ofQuestion_apply_iff {a : Application} {answer : Except ApplyError (List Sequent)} :
    Dialogue.Runs (ofQuestion c (.apply a)) log answer ↔
      ∃ result : Except BackendError (List Sequent),
        Dialogue.Runs (call c (.apply a)) log result ∧
          answer = result.mapError BackendError.toApplyError := by
  constructor
  · intro h
    obtain ⟨part, rest, result, rfl, hcall, hend⟩ := Dialogue.runs_bind_iff.1 h
    obtain ⟨rfl, rfl⟩ := Dialogue.runs_done_iff.1 hend
    rw [List.append_nil]
    exact ⟨result, hcall, rfl⟩
  · rintro ⟨result, hcall, rfl⟩
    exact Dialogue.runs_bind_iff.2 ⟨log, [], result, (List.append_nil log).symm, hcall, .done _⟩

/-- An application may be answered by any response to its request. -/
theorem runs_ofQuestion_apply {a : Application} {r : Request} {response : Option Response}
    {answer : Except ApplyError (List Sequent)} (hrequest : (Call.apply a).request c = .ok r)
    (hanswer : ((Call.apply a).read r.url response).mapError BackendError.toApplyError = answer) :
    Dialogue.Runs (ofQuestion c (.apply a)) [⟨.send r, response⟩] answer :=
  runs_ofQuestion_apply_iff.2
    ⟨_, runs_call_iff.2 (.inr ⟨r, response, hrequest, rfl, rfl⟩), hanswer.symm⟩

/-- **Only an application sends the request of an application**, and its answer is what the response
means. -/
theorem eq_apply_of_send {q : Question} {answer : q.Answer} {a : Application} {r : Request}
    {response : Option Response} (hrun : Dialogue.Runs (ofQuestion c q) log answer)
    (hsend : ⟨.send r, response⟩ ∈ log) (hrequest : (Call.apply a).request c = .ok r) :
    ∃ a', (⟨q, answer⟩ : (q : Question) × q.Answer) =
      ⟨.apply a', ((Call.apply a').read r.url response).mapError BackendError.toApplyError⟩ := by
  have hcall : ∀ {k : Call} {result : Except BackendError k.Result},
      Dialogue.Runs (call c k) log result →
        (∃ a', k = .apply a') ∧ result = k.read r.url response := by
    intro k result h
    rcases runs_call_iff.1 h with ⟨e, -, rfl, -⟩ | ⟨r', response', hr', rfl, rfl⟩
    · cases hsend
    · cases List.mem_singleton.1 hsend
      exact ⟨Call.eq_apply_of_body?
        ((Call.body_of_request hr').symm.trans (Call.body_of_request hrequest)), rfl⟩
  have hother : ∀ {e : Effect} {reply : e.Answer}, log = [⟨e, reply⟩] → ∃ r, e = .send r := by
    rintro e reply rfl
    cases List.mem_singleton.1 hsend
    exact ⟨r, rfl⟩
  cases q with
  | apply a' =>
    obtain ⟨result, hresult, rfl⟩ := runs_ofQuestion_apply_iff.1 hrun
    obtain ⟨-, rfl⟩ := hcall (k := .apply a') hresult
    exact ⟨a', rfl⟩
  | parse text => exact absurd (hcall (k := .parse text) hrun).1 (by simp)
  | check s => exact absurd (hcall (k := .check s) hrun).1 (by simp)
  | hint s => exact absurd (hcall (k := .hint s) hrun).1 (by simp)
  | report t => exact absurd (hcall (k := .report t) hrun).1 (by simp)
  | rate id f => exact absurd (hcall (k := .rate id f) hrun).1 (by simp)
  | store _ | fresh _ | write _ _ | print _ =>
    obtain ⟨r, hr⟩ := hother (Dialogue.runs_say_iff.1 hrun)
    cases hr

section Passed

variable {asked : List ((q : Question) × q.Answer)}

theorem answered_store_cons_iff {op : StoreOperation} {answer : Except StoreError op.Result} :
    Dialogue.Answered (ofQuestion c) (⟨.store op, answer⟩ :: asked) log ↔
      ∃ rest, log = ⟨.store op, answer⟩ :: rest ∧ Dialogue.Answered (ofQuestion c) asked rest :=
  Dialogue.answered_cons_iff_of_passed (f := ofQuestion c) (q := .store op) (p := .store op)
    (fun a ↦ a) Dialogue.runs_say_iff

theorem answered_fresh_cons_iff {n : Nat} {ids : Vector NodeId n} :
    Dialogue.Answered (ofQuestion c) (⟨.fresh n, ids⟩ :: asked) log ↔
      ∃ rest, log = ⟨.fresh n, ids⟩ :: rest ∧ Dialogue.Answered (ofQuestion c) asked rest :=
  Dialogue.answered_cons_iff_of_passed (f := ofQuestion c) (q := .fresh n) (p := .fresh n)
    (fun a ↦ a) Dialogue.runs_say_iff

theorem answered_print_cons_iff {text : String} :
    Dialogue.Answered (ofQuestion c) (⟨.print text, ()⟩ :: asked) log ↔
      ∃ rest, log = ⟨.print text, ()⟩ :: rest ∧ Dialogue.Answered (ofQuestion c) asked rest :=
  Dialogue.answered_cons_iff_of_passed (f := ofQuestion c) (q := .print text) (p := .print text)
    (fun a ↦ a) Dialogue.runs_say_iff

end Passed

/-- New ids of a session are new ids of the system. -/
theorem mem_fresh_of_answered {asked : List ((q : Question) × q.Answer)} {n : Nat}
    {ids : Vector NodeId n} (h : Dialogue.Answered (ofQuestion c) asked log)
    (hids : ⟨.fresh n, ids⟩ ∈ asked) : ⟨.fresh n, ids⟩ ∈ log := by
  obtain ⟨part, hpart, hsubset⟩ := h.exists_part hids
  obtain rfl := Dialogue.runs_say_iff.1 hpart
  exact hsubset List.mem_cons_self

end Effect

end Sequitur
