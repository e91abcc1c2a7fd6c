import Sequitur.Proofs.Formula.Json
import Sequitur.Rule.Json

/-!
# Rules, schemas and applications are decoded from their forms

The decoders of rules, schemas and applications are faithful and bounded.  A rule is known by its
name alone; a pattern has the shapes of a formula, with placeholders for the sides of its compounds.
-/

set_option autoImplicit false

namespace Sequitur

open Json (Faithful Decoded Bounded Reordered)

variable {held : Bool} {room : Nat} {j : Json}

/-! ## Rules -/

namespace Rule

/-- No two rules have one name. -/
theorem ofExactName?_name (r : Rule) : ofExactName? r.name = some r := by
  cases r <;> decide +kernel

theorem faithful : Faithful toJson decode? where
  sound r := Json.sound_text r.name
  decode_eq := by
    intro room r j _ h
    obtain rfl := Json.reordered_text_iff.1 h
    rw [decode?, Json.name?, Json.nameIn?_text]
    exact r.ofExactName?_name

theorem bounded : Bounded toJson decode? :=
  fun _ _ r _ ↦ by simp [toJson]

end Rule

/-! ## Placeholders -/

namespace Placeholder

/-- The name of the kind of a placeholder. -/
def kindName : Placeholder → String
  | formula _ => "Formula"
  | element _ => "Element"

/-- What a placeholder is known by. -/
def valueJson : Placeholder → Json
  | formula n => .nat n.toNat
  | element x => .text x

theorem toJson_eq (p : Placeholder) :
    p.toJson = .record [("type", .text p.kindName), ("value", p.valueJson)] := by
  cases p <;> rfl

theorem sound_valueJson (p : Placeholder) : p.valueJson.Sound := by
  cases p with
  | formula n => exact Json.faithful_uint32.sound n
  | element x => exact Json.sound_text x

theorem sound_toJson (p : Placeholder) : p.toJson.Sound := by
  rw [toJson_eq]
  exact Json.sound_record (by simp [Json.sound_text, p.sound_valueJson])

theorem decoded (p : Placeholder) : Decoded decodeIn? toJson p := by
  intro held room j hroom h
  rw [toJson_eq] at hroom h
  obtain ⟨below, rfl, hfits⟩ := Json.depth_record_le_iff.1 hroom
  obtain ⟨content, held', hfound, hcontent⟩ :=
    Json.tagged?_pair held kindNames (by decide) h p.sound_valueJson
      (hfits ("value", p.valueJson) (by simp))
  rw [decodeIn?, Json.enter, hfound]
  cases p with
  | formula n =>
    have hn : Json.uint32? below content = some n :=
      Json.faithful_uint32.decode_eq (by simp) hcontent
    simp [kindName, hn]
  | element x =>
    obtain rfl := Json.reordered_text_iff.1 hcontent
    rfl

theorem bounded (held : Bool) : Bounded toJson (decodeIn? held) := by
  intro room j p h
  obtain ⟨below, rfl, -⟩ := Json.enter_eq_some_iff.1 h
  rw [toJson_eq]
  exact Json.depth_record_le_iff.2 ⟨below, rfl, by cases p <;> simp [valueJson]⟩

theorem faithful (held : Bool) : Faithful toJson (decodeIn? held) where
  sound := sound_toJson
  decode_eq := decoded _ held _ _

end Placeholder

/-! ## Patterns -/

namespace Pattern

/-- The three placeholders of a substitution, as the body of its form. -/
def substitutionJson (f x y : Placeholder) : Json :=
  .record [("identifier", f.toJson), ("lhs", x.toJson), ("rhs", y.toJson)]

theorem sound_substitutionJson (f x y : Placeholder) : (substitutionJson f x y).Sound :=
  Json.sound_record (by simp [Placeholder.sound_toJson])

theorem decodeSubstitution?_eq {f x y : Placeholder}
    (hroom : (substitutionJson f x y).depth ≤ room) (h : Reordered (substitutionJson f x y) j) :
    decodeSubstitution? (Json.enter (Placeholder.decodeIn? held) room) j =
      some (substitution f x y) := by
  obtain ⟨below, rfl, hfits⟩ := Json.depth_record_le_iff.1 hroom
  obtain ⟨fields, hfields, -, hfinds⟩ :=
    h.exists_fields ["identifier", "lhs", "rhs"] (by simp) (by simp)
  have hpart := Placeholder.faithful held
  rw [decodeSubstitution?, hfields, Json.enter_succ]
  simp only [Option.bind_eq_bind, Option.bind_some]
  rw [hpart.required?_eq hfinds hfits rfl, hpart.required?_eq hfinds hfits rfl,
    hpart.required?_eq hfinds hfits rfl]
  rfl

theorem sound_toJson (p : Pattern) : p.toJson.Sound := by
  have hpart := Placeholder.sound_toJson
  induction p with
  | atom p | not p => exact Formula.sound_taggedJson p.sound_toJson
  | and p q | or p q | imp p q =>
    exact Formula.sound_taggedJson (Json.sound_record (by simp [hpart]))
  | falsum | verum => exact Json.sound_record (by simp [Json.sound_text])
  | all x a ih | ex x a ih =>
    exact Formula.sound_taggedJson (Json.sound_record (by simp [hpart, ih]))
  | substitution f x y => exact Formula.sound_taggedJson (sound_substitutionJson f x y)

/-- **A pattern is decoded from its form**, with the members in any order. -/
theorem decoded (p : Pattern) : Decoded decodeIn? toJson p := by
  induction p with
  | atom p | not p =>
    intro held room j hroom h
    obtain ⟨below, content, held', rfl, hbody, hfound, hcontent⟩ :=
      Formula.exists_found held shapeNames hroom h p.sound_toJson
    rw [decodeIn?, hfound]
    simp [p.decoded held' below content hbody hcontent]
  | and p q | or p q | imp p q =>
    intro held room j hroom h
    obtain ⟨inside, content, held', rfl, hfound, hsides⟩ :=
      Formula.exists_sides held shapeNames p.decoded q.decoded Placeholder.sound_toJson hroom h
    rw [decodeIn?, hfound]
    simp [Json.enter_succ, hsides]
  | falsum | verum =>
    intro held room j hroom h
    obtain ⟨below, rfl, -⟩ := Json.depth_record_le_iff.1 hroom
    rw [decodeIn?, Json.tagged?_single held shapeNames (by decide) h]
    rfl
  | all x a ih | ex x a ih =>
    intro held room j hroom h
    obtain ⟨inside, content, held', rfl, hfound, hparts⟩ :=
      Formula.exists_quantified held shapeNames x.decoded ih Placeholder.sound_toJson sound_toJson
        hroom h
    rw [decodeIn?, hfound]
    simp [Json.enter_succ, hparts]
  | substitution f x y =>
    intro held room j hroom h
    obtain ⟨below, content, held', rfl, hbody, hfound, hcontent⟩ :=
      Formula.exists_found held shapeNames hroom h (sound_substitutionJson f x y)
    rw [decodeIn?, hfound]
    simp [decodeSubstitution?_eq hbody hcontent]

theorem faithful (held : Bool) : Faithful toJson (decodeIn? held) where
  sound := sound_toJson
  decode_eq := decoded _ held _ _

theorem depth_substitutionJson {p : Pattern} {side : Json → Option Placeholder}
    (hside : ∀ i q, side i = some q → q.toJson.depth < room)
    (h : decodeSubstitution? side j = some p) : p.toJson.depth ≤ room + 1 := by
  simp only [decodeSubstitution?, Json.required?, Option.bind_eq_bind, Option.bind_eq_some_iff,
    Option.some.injEq] at h
  obtain ⟨fields, -, f, ⟨i, -, hi⟩, x, ⟨k, -, hk⟩, y, ⟨l, -, hl⟩, rfl⟩ := h
  exact Formula.depth_taggedJson_lt (by simp) (by simp [hside i f hi, hside k x hk, hside l y hl])

/-- **No pattern is decoded whose form does not fit.** -/
theorem bounded (held : Bool) : Bounded toJson (decodeIn? held) := by
  intro room
  induction room using Nat.strongRecOn generalizing held with
  | ind room ih =>
    intro j p h
    cases room with
    | zero => simp [decodeIn?] at h
    | succ room =>
      rw [decodeIn?] at h
      obtain ⟨found, -, hshape⟩ := Option.bind_eq_some_iff.1 h
      clear h
      have hname : ∀ i q, Placeholder.decodeIn? found.held room i = some q →
          q.toJson.depth ≤ room := fun _ _ hq ↦ Placeholder.bounded found.held hq
      have hside : ∀ i q, Json.enter (Placeholder.decodeIn? found.held) room i = some q →
          q.toJson.depth < room := fun _ _ ↦ (Placeholder.bounded found.held).depth_lt
      have hpart : ∀ {i a} below, below < room → decodeIn? found.held below i = some a →
          a.toJson.depth ≤ below := fun below hbelow ↦
        @ih below (Nat.lt_succ_of_lt hbelow) found.held _ _
      dsimp only at hshape
      split at hshape
      · exact Formula.depth_part_le atom (fun _ ↦ rfl) hname hshape
      · exact Formula.depth_sides_le and (fun _ _ ↦ rfl) hside hshape
      · exact Formula.depth_sides_le or (fun _ _ ↦ rfl) hside hshape
      · exact Formula.depth_part_le not (fun _ ↦ rfl) hname hshape
      · exact Formula.depth_sides_le imp (fun _ _ ↦ rfl) hside hshape
      · exact Formula.depth_constant_le falsum rfl hshape
      · exact Formula.depth_constant_le verum rfl hshape
      · exact Formula.depth_quantified_le all (fun _ _ ↦ rfl) hside
          (fun _ _ ↦ Formula.lt_of_part _ hpart) hshape
      · exact Formula.depth_quantified_le ex (fun _ _ ↦ rfl) hside
          (fun _ _ ↦ Formula.lt_of_part _ hpart) hshape
      · obtain ⟨i, -, hi⟩ := Option.bind_eq_some_iff.1 hshape
        exact depth_substitutionJson hside hi
      · cases hshape

end Pattern

/-! ## Schemas -/

namespace SequentPattern

theorem faithful : Faithful toJson decode? := by
  have hhypothesis :=
    (Placeholder.faithful false).nullable fun p ↦ p.toJson_eq ▸ Json.record_ne_null _
  have hpattern := Pattern.faithful false
  refine Json.faithful_record _ (by simp) (by simp)
    (by simp [hhypothesis.sound, hpattern.sound]) ?_
  intro room s fields hfits hfinds
  simp only [Option.bind_eq_bind]
  rw [Placeholder.decode?, Pattern.decode?, hhypothesis.optional?_eq hfinds hfits rfl,
    hpattern.required?_eq hfinds hfits rfl]
  rfl

theorem bounded : Bounded toJson decode? := by
  refine Json.bounded_record _ fun {room s fields} h ↦ ?_
  simp only [Option.bind_eq_bind, Option.bind_eq_some_iff, Option.some.injEq] at h
  obtain ⟨hypothesis, hhypothesis, pattern, hpattern, rfl⟩ := h
  have hright := (Pattern.bounded false).required? hpattern
  have hleft : (Json.orNull (hypothesis.map Placeholder.toJson)).depth ≤ room := by
    rcases (Placeholder.bounded false).nullable.optional? hhypothesis with rfl | hleft
    · simp
    · exact hleft
  simp [hleft, hright]

end SequentPattern

namespace Schema

theorem faithful : Faithful toJson decode? := by
  have hname := Rule.faithful
  have hlines := SequentPattern.faithful.list
  have hline := SequentPattern.faithful
  refine Json.faithful_record _ (by simp) (by simp)
    (by simp [hname.sound, hlines.sound, hline.sound]) ?_
  intro room s fields hfits hfinds
  simp only [Option.bind_eq_bind]
  rw [hname.required?_eq hfinds hfits rfl, hlines.required?_eq hfinds hfits rfl,
    hline.required?_eq hfinds hfits rfl]
  rfl

theorem bounded : Bounded toJson decode? := by
  refine Json.bounded_record _ fun {room s fields} h ↦ ?_
  simp only [Option.bind_eq_bind, Option.bind_eq_some_iff, Option.some.injEq] at h
  obtain ⟨rule, hrule, premises, hpremises, conclusion, hconclusion, rfl⟩ := h
  have hname := Rule.bounded.required? hrule
  have hlines := SequentPattern.bounded.list.required? hpremises
  have hline := SequentPattern.bounded.required? hconclusion
  simp [hname, hlines, hline]

end Schema

/-! ## Applications -/

namespace FormulaBinding

theorem faithful : Faithful toJson decode? := by
  have hnumber := Json.faithful_uint32
  have hformula := Formula.faithful false
  refine Json.faithful_record _ (by simp) (by simp) (by simp [hnumber.sound, hformula.sound]) ?_
  intro room b fields hfits hfinds
  simp only [Option.bind_eq_bind]
  rw [Formula.decode?, hnumber.required?_eq hfinds hfits rfl,
    hformula.required?_eq hfinds hfits rfl]
  rfl

theorem bounded : Bounded toJson decode? := by
  refine Json.bounded_record _ fun {room b fields} h ↦ ?_
  simp only [Option.bind_eq_bind, Option.bind_eq_some_iff, Option.some.injEq] at h
  obtain ⟨placeholder, -, formula, hformula, rfl⟩ := h
  simp [(Formula.bounded false).required? hformula]

end FormulaBinding

namespace ElementBinding

theorem faithful : Faithful toJson decode? := by
  have htext := Json.faithful_text
  refine Json.faithful_record _ (by simp) (by simp) (by simp [htext.sound]) ?_
  intro room b fields hfits hfinds
  simp only [Option.bind_eq_bind]
  rw [htext.required?_eq hfinds hfits rfl, htext.required?_eq hfinds hfits rfl]
  rfl

theorem bounded : Bounded toJson decode? :=
  Json.bounded_record _ fun _ ↦ by simp

end ElementBinding

namespace Application

theorem faithful : Faithful toJson decode? := by
  have hname := Rule.faithful
  have hsequent := Sequent.faithful
  have hformulas := FormulaBinding.faithful.list
  have helements := ElementBinding.faithful.list
  refine Json.faithful_record _ (by simp) (by simp)
    (by simp [hname.sound, hsequent.sound, hformulas.sound, helements.sound]) ?_
  intro room a fields hfits hfinds
  simp only [Option.bind_eq_bind]
  rw [hname.required?_eq hfinds hfits rfl, hsequent.required?_eq hfinds hfits rfl,
    hformulas.required?_eq hfinds hfits rfl, helements.required?_eq hfinds hfits rfl]
  rfl

theorem bounded : Bounded toJson decode? := by
  refine Json.bounded_record _ fun {room a fields} h ↦ ?_
  simp only [Option.bind_eq_bind, Option.bind_eq_some_iff, Option.some.injEq] at h
  obtain ⟨rule, hrule, sequent, hsequent, formulas, hformulas, elements, helements, rfl⟩ := h
  have hname := Rule.bounded.required? hrule
  have hstatement := Sequent.bounded.required? hsequent
  have hmapping := FormulaBinding.bounded.list.required? hformulas
  have hsubstitution := ElementBinding.bounded.list.required? helements
  simp [hname, hstatement, hmapping, hsubstitution]

end Application

end Sequitur
