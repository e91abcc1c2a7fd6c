import Sequitur.Backend.Json
import Sequitur.Proofs.Exercise.Json
import Sequitur.Proofs.Store.Directory

/-!
# What is sent and stored is read back

Every type that is sent to the backend, received from it or kept in a file has a JSON form and a
decoder (`WireType`).  A value whose form fits is read from every text of its form, whatever the
order of the members and wherever there are blanks, and a value that has been read from any text can
be written and read once more (`WireType.read?_textOf`).  There is nothing else between a value and
its text than the limit of nesting: every decoder is faithful, and no value comes in that could not
go out.

## What is here

* `WireType`, with `WireType.encode`, `WireType.decoder` and `WireType.read?`.
* `WireType.faithful`, `WireType.depth_le_of_decode?`.
* `WireType.read?_textOf` — reading what has been written, and writing what has been read.
-/

set_option autoImplicit false

namespace Sequitur

open Json (Faithful Bounded TextOf)

/-! ## Requests to parse -/

namespace ParseRequest

theorem faithful : Faithful toJson decode? := by
  have htext := Json.faithful_text
  refine Json.faithful_record _ (by simp) (by simp) (by simp [htext.sound]) ?_
  intro room r fields hfits hfinds
  simp only [Option.bind_eq_bind]
  rw [htext.required?_eq hfinds hfits rfl]
  rfl

theorem bounded : Bounded toJson decode? :=
  Json.bounded_record _ fun _ ↦ by simp

end ParseRequest

/-! ## Types -/

/-- The types of what is sent and stored. -/
inductive WireType where
  | identifier
  | formula
  | freshness
  | sequent
  | rule
  | placeholder
  | pattern
  | sequentPattern
  | schema
  | node
  | closedNode
  | treeReport
  | application
  | newExercise
  | parseRequest
  | feedback
  | hint
  | progress
  deriving DecidableEq, Inhabited

namespace WireType

/-- The values of a type. -/
def Value : WireType → Type
  | identifier => Identifier
  | formula => Formula
  | freshness => Freshness
  | sequent => Sequent
  | rule => Rule
  | placeholder => Placeholder
  | pattern => Pattern
  | sequentPattern => SequentPattern
  | schema => Schema
  | node => Node
  | closedNode => ClosedNode
  | treeReport => TreeReport
  | application => Application
  | newExercise => NewExercise
  | parseRequest => ParseRequest
  | feedback => Feedback
  | hint => Hint
  | progress => Progress

/-- The JSON form of a value. -/
def encode : (t : WireType) → t.Value → Json
  | identifier => Identifier.toJson
  | formula => Formula.toJson
  | freshness => Freshness.toJson
  | sequent => Sequent.toJson
  | rule => Rule.toJson
  | placeholder => Placeholder.toJson
  | pattern => Pattern.toJson
  | sequentPattern => SequentPattern.toJson
  | schema => Schema.toJson
  | node => Node.toJson
  | closedNode => ClosedNode.toJson
  | treeReport => TreeReport.toJson
  | application => Application.toJson
  | newExercise => NewExercise.toJson
  | parseRequest => ParseRequest.toJson
  | feedback => Feedback.toJson
  | hint => Hint.toJson
  | progress => Progress.toJson

/-- The decoder of a type. -/
def decoder : (t : WireType) → Decoder t.Value
  | identifier => Identifier.decode?
  | formula => Formula.decode?
  | freshness => Freshness.decode?
  | sequent => Sequent.decode?
  | rule => Rule.decode?
  | placeholder => Placeholder.decode?
  | pattern => Pattern.decode?
  | sequentPattern => SequentPattern.decode?
  | schema => Schema.decode?
  | node => Node.decode?
  | closedNode => ClosedNode.decode?
  | treeReport => TreeReport.decode?
  | application => Application.decode?
  | newExercise => NewExercise.decode?
  | parseRequest => ParseRequest.decode?
  | feedback => Feedback.decode?
  | hint => Hint.decode?
  | progress => Progress.decode?

/-- The value of a type that a text is read as. -/
def read? (t : WireType) (text : List Symbol) : Option t.Value :=
  (Json.read? text).bind (Json.decode? t.decoder)

theorem faithful (t : WireType) : Faithful t.encode t.decoder := by
  cases t with
  | identifier => exact Identifier.faithful false
  | formula => exact Formula.faithful false
  | freshness => exact Freshness.faithful
  | sequent => exact Sequent.faithful
  | rule => exact Rule.faithful
  | placeholder => exact Placeholder.faithful false
  | pattern => exact Pattern.faithful false
  | sequentPattern => exact SequentPattern.faithful
  | schema => exact Schema.faithful
  | node => exact Node.faithful
  | closedNode => exact ClosedNode.faithful
  | treeReport => exact TreeReport.faithful
  | application => exact Application.faithful
  | newExercise => exact NewExercise.faithful
  | parseRequest => exact ParseRequest.faithful
  | feedback => exact Feedback.faithful
  | hint => exact Hint.faithful
  | progress => exact Progress.faithful

/-- No value is decoded whose form does not fit.  Progress is decoded from an empty object, whose
lists are missing, so that its form fits for the reason that it is never deep. -/
theorem depth_le_of_decode? {t : WireType} {j : Json} {v : t.Value}
    (h : Json.decode? t.decoder j = some v) : (t.encode v).depth ≤ Json.depthLimit := by
  cases t with
  | identifier => exact Identifier.bounded false h
  | formula => exact Formula.bounded false h
  | freshness => exact Freshness.bounded h
  | sequent => exact Sequent.bounded h
  | rule => exact Rule.bounded h
  | placeholder => exact Placeholder.bounded false h
  | pattern => exact Pattern.bounded false h
  | sequentPattern => exact SequentPattern.bounded h
  | schema => exact Schema.bounded h
  | node => exact Node.bounded h
  | closedNode => exact ClosedNode.bounded h
  | treeReport => exact TreeReport.bounded h
  | application => exact Application.bounded h
  | newExercise => exact NewExercise.bounded h
  | parseRequest => exact ParseRequest.bounded h
  | feedback => exact Feedback.bounded h
  | hint => exact Hint.bounded h
  | progress => exact Nat.le_trans (Progress.depth_toJson_le v) (by decide)

/-! ## Texts -/

theorem textOf_layouts (t : WireType) (v : t.Value) :
    TextOf (t.encode v) (t.encode v).compact.toList ∧
      TextOf (t.encode v) (t.encode v).pretty.toList :=
  have hform := (t.faithful.sound v).wellFormed
  ⟨Json.textOf_compact hform, Json.textOf_pretty hform⟩

theorem read?_eq_some {t : WireType} {v : t.Value} {text : List Char}
    (hfits : (t.encode v).depth ≤ Json.depthLimit) (h : TextOf (t.encode v) text) :
    t.read? (text.map .char) = some v := by
  obtain ⟨i, hread, hreordered⟩ := h.read?
  rw [read?, hread]
  exact t.faithful.decode_eq hfits hreordered

/-- **What is written is read back, and what has been read can be written.**  A value whose form
nests within the limit is read from every text of its form, with the members of any object in any
order and blanks between any tokens; both layouts are among these texts.  And the form of a value
that has been read, from whatever text, nests within the limit, so that both its layouts are read as
that value again. -/
theorem read?_textOf (t : WireType) :
    (∀ (v : t.Value) (text : List Char), (t.encode v).depth ≤ Json.depthLimit →
      TextOf (t.encode v) text → t.read? (text.map .char) = some v) ∧
    (∀ v : t.Value, TextOf (t.encode v) (t.encode v).compact.toList ∧
      TextOf (t.encode v) (t.encode v).pretty.toList) ∧
    ∀ (v : t.Value) (text : List Symbol), t.read? text = some v →
      (t.encode v).depth ≤ Json.depthLimit ∧
        t.read? (Symbol.ofString (t.encode v).compact) = some v ∧
        t.read? (Symbol.ofString (t.encode v).pretty) = some v := by
  refine ⟨fun v text hfits h ↦ read?_eq_some hfits h, t.textOf_layouts, fun v text h ↦ ?_⟩
  obtain ⟨j, -, hj⟩ := Option.bind_eq_some_iff.1 h
  have hfits := depth_le_of_decode? hj
  obtain ⟨hcompact, hpretty⟩ := t.textOf_layouts v
  exact ⟨hfits, read?_eq_some hfits hcompact, read?_eq_some hfits hpretty⟩

/-- A negation whose body stands in front of its type, with a blank after the colon. -/
def bodyFirst : String :=
  "\x7b\"body\": \x7b\"type\":\"True\"\x7d,\"type\":\"Not\"\x7d"

theorem textOf_bodyFirst : TextOf (Formula.not .verum).toJson bodyFirst.toList := by
  have hbody : Json.Spells Formula.verum.toJson Formula.verum.toJson.compact.toList := by
    rw [Json.compact, String.toList_ofList]
    exact Json.spells_compactChars _ (Formula.sound_toJson .verum).wellFormed
  have hblank : Json.Blank [' '] := by simp [Json.Blank, Json.isSpace]
  have htype := Json.SpellsMembers.last (k := some "type") Json.blank_nil Json.blank_nil
    Json.blank_nil (.string (some "Not")) Json.blank_nil
  have hmembers := Json.SpellsMembers.more (k := some "body") Json.blank_nil Json.blank_nil hblank
    hbody Json.blank_nil htype
  refine ⟨_, [], _, [], .object (Json.ReorderedMembers.refl _) (.swap _ _ _), Json.blank_nil,
    .object hmembers, Json.blank_nil, ?_⟩
  decide +kernel

theorem read?_bodyFirst :
    (encode formula (Formula.not .verum)).depth ≤ Json.depthLimit ∧
      TextOf (encode formula (Formula.not .verum)) bodyFirst.toList ∧
      read? formula (bodyFirst.toList.map .char) = some (Formula.not .verum) ∧
      read? formula (Symbol.ofString (encode formula (Formula.not .verum)).compact) =
        some (Formula.not .verum) := by
  have hfits : (encode formula (Formula.not .verum)).depth ≤ Json.depthLimit := by decide +kernel
  have hread := (read?_textOf formula).1 _ _ hfits textOf_bodyFirst
  exact ⟨hfits, textOf_bodyFirst, hread, ((read?_textOf formula).2.2 _ _ hread).2.1⟩

end WireType

end Sequitur
