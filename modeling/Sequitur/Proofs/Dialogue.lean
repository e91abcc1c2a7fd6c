import Sequitur.Dialogue

/-!
# Runs of dialogues

A dialogue comes to different results for different answers.  `Dialogue.Runs` are its possible runs,
each with the questions it asked and the answers it got, in order; the answers are not restrained in
any way.  A run of one dialogue after another is a run of each (`runs_bind_iff`).

The questions of a dialogue may themselves be answered by dialogues, with questions of another kind.
A run of the whole is a run of the dialogue together with one for each of its questions
(`runs_interpret_iff`).
-/

set_option autoImplicit false

namespace Sequitur

namespace Dialogue

variable {Q : Type} {Answer : Q → Type} {α β : Type} {log : List ((q : Q) × Answer q)} {a b : α}

/-- A dialogue comes to a result after some questions with their answers. -/
inductive Runs : Dialogue Q Answer α → List ((q : Q) × Answer q) → α → Prop
  | done (a : α) : Runs (done a) [] a
  | ask {q : Q} {next : Answer q → Dialogue Q Answer α} {answer : Answer q}
      {log : List ((q : Q) × Answer q)} {a : α} (h : Runs (next answer) log a) :
    Runs (ask q next) (⟨q, answer⟩ :: log) a

theorem runs_done_iff : Runs (.done a) log b ↔ log = [] ∧ b = a := by
  constructor
  · rintro ⟨⟩
    exact ⟨rfl, rfl⟩
  · rintro ⟨rfl, rfl⟩
    exact .done b

theorem runs_ask_iff {q : Q} {next : Answer q → Dialogue Q Answer α} :
    Runs (.ask q next) log b ↔
      ∃ answer rest, log = ⟨q, answer⟩ :: rest ∧ Runs (next answer) rest b := by
  constructor
  · rintro ⟨⟩
    exact ⟨_, _, rfl, ‹_›⟩
  · rintro ⟨answer, rest, rfl, h⟩
    exact .ask h

/-- A single question has one answer, which is the result. -/
theorem runs_say_iff {q : Q} {answer : Answer q} :
    Runs (say q) log answer ↔ log = [⟨q, answer⟩] := by
  rw [say, runs_ask_iff]
  constructor
  · rintro ⟨reply, rest, rfl, h⟩
    obtain ⟨rfl, rfl⟩ := runs_done_iff.1 h
    rfl
  · rintro rfl
    exact ⟨answer, [], rfl, .done answer⟩

/-- **A run of two dialogues in a row** is a run of the first followed by one of the second. -/
theorem runs_bind_iff {d : Dialogue Q Answer α} {f : α → Dialogue Q Answer β} {b : β} :
    Runs (d >>= f) log b ↔
      ∃ before after a, log = before ++ after ∧ Runs d before a ∧ Runs (f a) after b := by
  induction d generalizing log with
  | done a =>
    constructor
    · intro h
      exact ⟨[], log, a, rfl, .done a, h⟩
    · rintro ⟨before, after, c, rfl, hbefore, hafter⟩
      obtain ⟨rfl, rfl⟩ := runs_done_iff.1 hbefore
      exact hafter
  | ask q next ih =>
    constructor
    · intro h
      obtain ⟨answer, rest, rfl, hnext⟩ := runs_ask_iff.1 h
      obtain ⟨before, after, a, rfl, hbefore, hafter⟩ := (ih answer).1 hnext
      exact ⟨⟨q, answer⟩ :: before, after, a, rfl, .ask hbefore, hafter⟩
    · rintro ⟨before, after, a, rfl, hbefore, hafter⟩
      obtain ⟨answer, rest, rfl, hnext⟩ := runs_ask_iff.1 hbefore
      exact .ask ((ih answer).2 ⟨rest, after, a, rfl, hnext, hafter⟩)

/-! ## Dialogues that answer questions -/

section Interpret

variable {P : Type} {Reply : P → Type} {f : (q : Q) → Dialogue P Reply (Answer q)}
  {asked : List ((q : Q) × Answer q)} {log : List ((p : P) × Reply p)}

/-- The questions of a log are answered by dialogues, one after the other; the second log holds all
that those dialogues ask. -/
inductive Answered (f : (q : Q) → Dialogue P Reply (Answer q)) :
    List ((q : Q) × Answer q) → List ((p : P) × Reply p) → Prop
  | nil : Answered f [] []
  | cons {q : Q} {answer : Answer q} {part : List ((p : P) × Reply p)}
      {asked : List ((q : Q) × Answer q)} {log : List ((p : P) × Reply p)}
      (h : Runs (f q) part answer) (hrest : Answered f asked log) :
    Answered f (⟨q, answer⟩ :: asked) (part ++ log)

theorem answered_nil_iff : Answered f [] log ↔ log = [] := by
  constructor
  · rintro ⟨⟩
    rfl
  · rintro rfl
    exact .nil

theorem answered_cons_iff {q : Q} {answer : Answer q} :
    Answered f (⟨q, answer⟩ :: asked) log ↔
      ∃ part rest, log = part ++ rest ∧ Runs (f q) part answer ∧ Answered f asked rest := by
  constructor
  · rintro ⟨⟩
    exact ⟨_, _, rfl, ‹_›, ‹_›⟩
  · rintro ⟨part, rest, rfl, h, hrest⟩
    exact .cons h hrest

/-- A question that is passed on as it is takes one step. -/
theorem answered_cons_iff_of_passed {q : Q} {p : P} (pass : Answer q → Reply p) {answer : Answer q}
    (hpassed : ∀ {part}, Runs (f q) part answer ↔ part = [⟨p, pass answer⟩]) :
    Answered f (⟨q, answer⟩ :: asked) log ↔
      ∃ rest, log = ⟨p, pass answer⟩ :: rest ∧ Answered f asked rest := by
  rw [answered_cons_iff]
  constructor
  · rintro ⟨part, rest, rfl, hpart, hrest⟩
    obtain rfl := hpassed.1 hpart
    exact ⟨rest, rfl, hrest⟩
  · rintro ⟨rest, rfl, hrest⟩
    exact ⟨_, rest, rfl, hpassed.2 rfl, hrest⟩

/-- **A run of a dialogue whose questions are answered by dialogues** is a run of it and a run for
each question. -/
theorem runs_interpret_iff {d : Dialogue Q Answer α} :
    Runs (d.interpret f) log a ↔ ∃ asked, Runs d asked a ∧ Answered f asked log := by
  induction d generalizing log with
  | done b =>
    rw [interpret_done, pure_eq, runs_done_iff]
    constructor
    · rintro ⟨rfl, rfl⟩
      exact ⟨[], .done a, .nil⟩
    · rintro ⟨asked, h, hanswered⟩
      obtain ⟨rfl, rfl⟩ := runs_done_iff.1 h
      exact ⟨answered_nil_iff.1 hanswered, rfl⟩
  | ask q next ih =>
    rw [interpret_ask, runs_bind_iff]
    constructor
    · rintro ⟨part, rest, answer, rfl, hpart, hrest⟩
      obtain ⟨asked, h, hanswered⟩ := (ih answer).1 hrest
      exact ⟨⟨q, answer⟩ :: asked, .ask h, .cons hpart hanswered⟩
    · rintro ⟨asked, h, hanswered⟩
      obtain ⟨answer, later, rfl, hnext⟩ := runs_ask_iff.1 h
      obtain ⟨part, rest, rfl, hpart, hrest⟩ := answered_cons_iff.1 hanswered
      exact ⟨part, rest, answer, rfl, hpart, (ih answer).2 ⟨later, hnext, hrest⟩⟩

/-- What is asked in the end was asked on behalf of some question. -/
theorem Answered.exists_of_mem (h : Answered f asked log) {e : (p : P) × Reply p} (he : e ∈ log) :
    ∃ q answer part, ⟨q, answer⟩ ∈ asked ∧ Runs (f q) part answer ∧ e ∈ part := by
  induction h with
  | nil => cases he
  | @cons q answer part asked log hpart _ ih =>
    rcases List.mem_append.1 he with he | he
    · exact ⟨q, answer, part, List.mem_cons_self, hpart, he⟩
    · obtain ⟨q', answer', part', hmem, hrun, he⟩ := ih he
      exact ⟨q', answer', part', List.mem_cons_of_mem _ hmem, hrun, he⟩

/-- Each question has its part in what is asked in the end. -/
theorem Answered.exists_part (h : Answered f asked log) {q : Q} {answer : Answer q}
    (hq : ⟨q, answer⟩ ∈ asked) : ∃ part, Runs (f q) part answer ∧ part ⊆ log := by
  induction h with
  | nil => cases hq
  | @cons q' answer' part asked log hpart _ ih =>
    rcases List.mem_cons.1 hq with heq | hq
    · cases heq
      exact ⟨part, hpart, List.subset_append_left part log⟩
    · obtain ⟨part', hrun, hsubset⟩ := ih hq
      exact ⟨part', hrun, fun e he ↦ List.mem_append_right part (hsubset he)⟩

end Interpret

end Dialogue

end Sequitur
