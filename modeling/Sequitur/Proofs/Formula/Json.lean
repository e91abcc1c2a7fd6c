import Sequitur.Proofs.Json.Coding
import Sequitur.Sequent.Json

/-!
# Formulas and sequents are decoded from their forms

The decoders of names, formulas, conditions and sequents are faithful and bounded.  For formulas
both are inductions: over the formula for the one, where the room and whether the form is held vary,
and over the room for the other, since it is the room that the decoder goes down with.
-/

set_option autoImplicit false

namespace Sequitur

open Json (Faithful Decoded Bounded Reordered)

variable {held : Bool} {room : Nat} {j : Json}

/-! ## Names -/

namespace Identifier

/-- The name of the kind of a name. -/
def kindName : Identifier → String
  | literal _ => "Literal"
  | element _ => "Element"

theorem toJson_eq (x : Identifier) :
    x.toJson = .record [("type", .text x.kindName), ("value", .text x.name)] := by
  cases x <;> rfl

theorem sound_toJson (x : Identifier) : x.toJson.Sound := by
  rw [toJson_eq]
  exact Json.sound_record (by simp [Json.sound_text])

theorem decoded (x : Identifier) : Decoded decodeIn? toJson x := by
  intro held room j hroom h
  rw [toJson_eq] at hroom h
  obtain ⟨below, rfl, hfits⟩ := Json.depth_record_le_iff.1 hroom
  obtain ⟨content, held', hfound, hcontent⟩ :=
    Json.tagged?_pair held kindNames (by decide) h (Json.sound_text x.name)
      (hfits ("value", .text x.name) (by simp))
  obtain rfl := Json.reordered_text_iff.1 hcontent
  rw [decodeIn?, Json.enter, hfound]
  cases x <;> rfl

theorem faithful (held : Bool) : Faithful toJson (decodeIn? held) where
  sound := sound_toJson
  decode_eq := decoded _ held _ _

theorem bounded (held : Bool) : Bounded toJson (decodeIn? held) := by
  intro room j x h
  obtain ⟨below, rfl, -⟩ := Json.enter_eq_some_iff.1 h
  rw [toJson_eq]
  exact Json.depth_record_le_iff.2 ⟨below, rfl, by simp⟩

end Identifier

namespace Formula

/-! ## Bodies -/

section Bodies

variable {α β : Type} {encode : α → Json} {encode' : β → Json} {x y : α} {z : β}

/-- The body of a form is found, whether it stands in front of the shape or behind it. -/
theorem exists_found (held : Bool) (names : List String) {shape : String} {body : Json}
    (hroom : (taggedJson shape body).depth ≤ room) (h : Reordered (taggedJson shape body) j)
    (hbody : body.Sound) :
    ∃ below content held', room = below + 1 ∧ body.depth ≤ below ∧
      Json.tagged? held "type" "body" names below j = some ⟨shape, some content, held'⟩ ∧
      Reordered body content := by
  obtain ⟨below, rfl, hfits⟩ := Json.depth_record_le_iff.1 hroom
  have hdepth : body.depth ≤ below := hfits ("body", body) (by simp)
  obtain ⟨content, held', hfound, hcontent⟩ :=
    Json.tagged?_pair held names (by decide) h hbody hdepth
  exact ⟨below, content, held', rfl, hdepth, hfound, hcontent⟩

/-- A binary compound is found with its two sides. -/
theorem exists_sides (held : Bool) (names : List String) {shape : String}
    {decode : Bool → Decoder α} (hx : Decoded decode encode x) (hy : Decoded decode encode y)
    (hsound : ∀ z, (encode z).Sound)
    (hroom : (taggedJson shape (.record [("lhs", encode x), ("rhs", encode y)])).depth ≤ room)
    (h : Reordered (taggedJson shape (.record [("lhs", encode x), ("rhs", encode y)])) j) :
    ∃ inside content held', room = inside + 2 ∧
      Json.tagged? held "type" "body" names (inside + 1) j = some ⟨shape, some content, held'⟩ ∧
      decodeSides? (decode held' inside) content = some (x, y) := by
  obtain ⟨below, content, held', rfl, hbody, hfound, hcontent⟩ :=
    exists_found held names hroom h (Json.sound_record (by simp [hsound]))
  obtain ⟨inside, rfl, hparts⟩ := Json.depth_record_le_iff.1 hbody
  obtain ⟨fields, hfields, -, hfinds⟩ :=
    hcontent.exists_fields ["lhs", "rhs"] (by simp) (by simp)
  refine ⟨inside, content, held', rfl, hfound, ?_⟩
  rw [decodeSides?, hfields]
  simp only [Option.bind_eq_bind, Option.bind_some]
  rw [hfinds.required?_eq rfl fun i ↦ hx held' inside i (hparts ("lhs", encode x) (by simp)),
    hfinds.required?_eq rfl fun i ↦ hy held' inside i (hparts ("rhs", encode y) (by simp))]
  rfl

/-- A quantified compound is found with its variable and its body. -/
theorem exists_quantified (held : Bool) (names : List String) {shape : String}
    {decode : Bool → Decoder α} {decode' : Bool → Decoder β}
    (hx : Decoded decode encode x) (hz : Decoded decode' encode' z)
    (hsound : ∀ y, (encode y).Sound) (hsound' : ∀ z, (encode' z).Sound)
    (hroom : (taggedJson shape
      (.record [("identifier", encode x), ("formula", encode' z)])).depth ≤ room)
    (h : Reordered
      (taggedJson shape (.record [("identifier", encode x), ("formula", encode' z)])) j) :
    ∃ inside content held', room = inside + 2 ∧
      Json.tagged? held "type" "body" names (inside + 1) j = some ⟨shape, some content, held'⟩ ∧
      decodeQuantified? (decode held' inside) (decode' held' inside) content = some (x, z) := by
  obtain ⟨below, content, held', rfl, hbody, hfound, hcontent⟩ :=
    exists_found held names hroom h (Json.sound_record (by simp [hsound, hsound']))
  obtain ⟨inside, rfl, hparts⟩ := Json.depth_record_le_iff.1 hbody
  obtain ⟨fields, hfields, -, hfinds⟩ :=
    hcontent.exists_fields ["identifier", "formula"] (by simp) (by simp)
  refine ⟨inside, content, held', rfl, hfound, ?_⟩
  rw [decodeQuantified?, hfields]
  simp only [Option.bind_eq_bind, Option.bind_some]
  rw [hfinds.required?_eq rfl fun i ↦ hx held' inside i (hparts ("identifier", encode x) (by simp)),
    hfinds.required?_eq rfl fun i ↦ hz held' inside i (hparts ("formula", encode' z) (by simp))]
  rfl

/-- A part of a body stands two levels down, and is decoded with what room there is. -/
theorem lt_of_part (decode : Nat → Json → Option α) {n : Nat}
    (hdecode : ∀ below, below < room → decode below j = some x → n ≤ below)
    (h : (match (motive := Nat → Json → Option α) room with
      | 0 => fun _ ↦ none
      | below + 1 => decode below) j = some x) : n < room := by
  cases room with
  | zero => cases h
  | succ below => exact Nat.lt_succ_of_le (hdecode below (Nat.lt_succ_self below) h)

theorem depth_taggedJson_le {shape : String} {body : Json} (h : body.depth ≤ room) :
    (taggedJson shape body).depth ≤ room + 1 :=
  Json.depth_record_le_iff.2 ⟨room, rfl, by simp [h]⟩

theorem depth_taggedJson_lt {shape : String} {members : List (String × Json)} (hne : members ≠ [])
    (h : ∀ m ∈ members, m.2.depth < room) :
    (taggedJson shape (.record members)).depth ≤ room + 1 := by
  obtain ⟨m, hm⟩ := List.exists_mem_of_ne_nil members hne
  obtain ⟨below, rfl⟩ := Nat.exists_eq_add_one_of_ne_zero (Nat.ne_zero_of_lt (h m hm))
  exact depth_taggedJson_le (Json.depth_record_le_iff.2
    ⟨below, rfl, fun m hm ↦ Nat.le_of_lt_succ (h m hm)⟩)

section Compounds

variable {γ : Type} {form : γ → Json} {shape : String} {content : Option Json} {v : γ}

/-- A compound with one part fits when its part does. -/
theorem depth_part_le (make : α → γ) {part : Json → Option α}
    (hform : ∀ x, form (make x) = taggedJson shape (encode x))
    (hpart : ∀ i x, part i = some x → (encode x).depth ≤ room)
    (h : ((content.bind part).bind fun x ↦ some (make x)) = some v) :
    (form v).depth ≤ room + 1 := by
  simp only [Option.bind_eq_some_iff, Option.some.injEq] at h
  obtain ⟨x, ⟨i, -, hi⟩, rfl⟩ := h
  rw [hform]
  exact depth_taggedJson_le (hpart i x hi)

/-- A binary compound fits when its sides do. -/
theorem depth_sides_le (make : α → α → γ) {side : Json → Option α}
    (hform : ∀ x y,
      form (make x y) = taggedJson shape (.record [("lhs", encode x), ("rhs", encode y)]))
    (hside : ∀ i z, side i = some z → (encode z).depth < room)
    (h : ((content.bind (decodeSides? side)).bind fun (x, y) ↦ some (make x y)) = some v) :
    (form v).depth ≤ room + 1 := by
  simp only [decodeSides?, Json.required?, Option.bind_eq_bind, Option.bind_eq_some_iff,
    Option.some.injEq] at h
  obtain ⟨_, ⟨_, -, fields, -, x, ⟨i, -, hi⟩, y, ⟨k, -, hk⟩, rfl⟩, rfl⟩ := h
  rw [hform]
  exact depth_taggedJson_lt (by simp) (by simp [hside i x hi, hside k y hk])

/-- A quantified compound fits when its variable and its body do. -/
theorem depth_quantified_le (make : α → β → γ) {bound : Json → Option α} {body : Json → Option β}
    (hform : ∀ x z, form (make x z) =
      taggedJson shape (.record [("identifier", encode x), ("formula", encode' z)]))
    (hbound : ∀ i x, bound i = some x → (encode x).depth < room)
    (hbody : ∀ i z, body i = some z → (encode' z).depth < room)
    (h : ((content.bind (decodeQuantified? bound body)).bind
      fun (x, z) ↦ some (make x z)) = some v) :
    (form v).depth ≤ room + 1 := by
  simp only [decodeQuantified?, Json.required?, Option.bind_eq_bind, Option.bind_eq_some_iff,
    Option.some.injEq] at h
  obtain ⟨_, ⟨_, -, fields, -, x, ⟨i, -, hi⟩, z, ⟨k, -, hk⟩, rfl⟩, rfl⟩ := h
  rw [hform]
  exact depth_taggedJson_lt (by simp) (by simp [hbound i x hi, hbody k z hk])

/-- A formula without parts fits into an object. -/
theorem depth_constant_le (constant : γ) (hform : form constant = .record [("type", .text shape)])
    (h : ((Json.noContent? content).bind fun _ ↦ some constant) = some v) :
    (form v).depth ≤ room + 1 := by
  obtain ⟨_, -, hv⟩ := Option.bind_eq_some_iff.1 h
  obtain rfl := Option.some.inj hv
  rw [hform]
  exact Json.depth_record_le_iff.2 ⟨room, rfl, by simp⟩

end Compounds

end Bodies

/-- The name and the arguments of a predicate, as the body of its form. -/
def predicateJson (p : Identifier) (xs : List Identifier) : Json :=
  .record [("identifier", p.toJson), ("identifiers", .list Identifier.toJson xs)]

theorem sound_predicateJson (p : Identifier) (xs : List Identifier) :
    (predicateJson p xs).Sound := by
  have hxs := (Identifier.faithful false).list.sound xs
  exact Json.sound_record (by simp [p.sound_toJson, hxs])

theorem decodePredicate?_eq {p : Identifier} {xs : List Identifier}
    (hroom : (predicateJson p xs).depth ≤ room) (h : Reordered (predicateJson p xs) j) :
    decodePredicate? held room j = some (p, xs) := by
  obtain ⟨below, rfl, hfits⟩ := Json.depth_record_le_iff.1 hroom
  obtain ⟨fields, hfields, -, hfinds⟩ :=
    h.exists_fields ["identifier", "identifiers"] (by simp) (by simp)
  rw [decodePredicate?, Json.enter, hfields]
  simp only [Option.bind_eq_bind, Option.bind_some]
  rw [(Identifier.faithful held).required?_eq hfinds hfits rfl,
    (Identifier.faithful held).list.required?_eq hfinds hfits rfl]
  rfl

theorem depth_predicateJson {p : Identifier} {xs : List Identifier}
    (h : decodePredicate? held room j = some (p, xs)) : (predicateJson p xs).depth ≤ room := by
  obtain ⟨below, rfl, hinside⟩ := Json.enter_eq_some_iff.1 h
  simp only [Option.bind_eq_bind, Option.bind_eq_some_iff, Option.some.injEq,
    Prod.mk.injEq] at hinside
  obtain ⟨fields, -, _, hp, _, hxs, rfl, rfl⟩ := hinside
  rw [predicateJson, Json.depth_record_le_iff]
  have hname := (Identifier.bounded held).required? hp
  have harguments := (Identifier.bounded held).list.required? hxs
  exact ⟨below, rfl, by simp [hname, harguments]⟩

/-! ## Formulas -/

theorem sound_taggedJson {shape : String} {body : Json} (h : body.Sound) :
    (taggedJson shape body).Sound :=
  Json.sound_record (by simp [Json.sound_text, h])

theorem sound_toJson (f : Formula) : f.toJson.Sound := by
  induction f with
  | and a b iha ihb | or a b iha ihb | imp a b iha ihb =>
    exact sound_taggedJson (Json.sound_record (by simp [iha, ihb]))
  | not a ih => exact sound_taggedJson ih
  | atom x => exact sound_taggedJson x.sound_toJson
  | verum | falsum => exact Json.sound_record (by simp [Json.sound_text])
  | all x a ih | ex x a ih =>
    exact sound_taggedJson (Json.sound_record (by simp [x.sound_toJson, ih]))
  | predicate p xs => exact sound_taggedJson (sound_predicateJson p xs)

/-- **A formula is decoded from its form**, with the members in any order. -/
theorem decoded (f : Formula) : Decoded decodeIn? toJson f := by
  induction f with
  | and a b iha ihb | or a b iha ihb | imp a b iha ihb =>
    intro held room j hroom h
    obtain ⟨inside, content, held', rfl, hfound, hsides⟩ :=
      exists_sides held shapeNames iha ihb sound_toJson hroom h
    rw [decodeIn?, hfound]
    simp [hsides]
  | not a ih =>
    intro held room j hroom h
    obtain ⟨below, content, held', rfl, hbody, hfound, hcontent⟩ :=
      exists_found held shapeNames hroom h a.sound_toJson
    rw [decodeIn?, hfound]
    simp [ih held' below content hbody hcontent]
  | atom x =>
    intro held room j hroom h
    obtain ⟨below, content, held', rfl, hbody, hfound, hcontent⟩ :=
      exists_found held shapeNames hroom h x.sound_toJson
    rw [decodeIn?, hfound]
    simp [(Identifier.faithful held').decode_eq hbody hcontent]
  | verum | falsum =>
    intro held room j hroom h
    obtain ⟨below, rfl, -⟩ := Json.depth_record_le_iff.1 hroom
    rw [decodeIn?, Json.tagged?_single held shapeNames (by decide) h]
    rfl
  | all x a ih | ex x a ih =>
    intro held room j hroom h
    obtain ⟨inside, content, held', rfl, hfound, hparts⟩ :=
      exists_quantified held shapeNames x.decoded ih Identifier.sound_toJson sound_toJson hroom h
    rw [decodeIn?, hfound]
    simp [Json.enter_succ, hparts]
  | predicate p xs =>
    intro held room j hroom h
    obtain ⟨below, content, held', rfl, hbody, hfound, hcontent⟩ :=
      exists_found held shapeNames hroom h (sound_predicateJson p xs)
    rw [decodeIn?, hfound]
    simp [decodePredicate?_eq hbody hcontent]

theorem faithful (held : Bool) : Faithful toJson (decodeIn? held) where
  sound := sound_toJson
  decode_eq := decoded _ held _ _

/-- **No formula is decoded whose form does not fit.** -/
theorem bounded (held : Bool) : Bounded toJson (decodeIn? held) := by
  intro room
  induction room using Nat.strongRecOn generalizing held with
  | ind room ih =>
    intro j f h
    cases room with
    | zero => simp [decodeIn?] at h
    | succ room =>
      rw [decodeIn?] at h
      obtain ⟨found, -, hshape⟩ := Option.bind_eq_some_iff.1 h
      clear h
      have hbound : ∀ i x, Json.enter (Identifier.decodeIn? found.held) room i = some x →
          x.toJson.depth < room := fun i x ↦ (Identifier.bounded found.held).depth_lt
      have hpart : ∀ {i a} below, below < room → decodeIn? found.held below i = some a →
          a.toJson.depth ≤ below := fun below hbelow ↦
        @ih below (Nat.lt_succ_of_lt hbelow) found.held _ _
      have hbody : ∀ i a, decodeIn? found.held room i = some a → a.toJson.depth ≤ room :=
        fun _ _ ↦ @ih room (Nat.lt_succ_self room) found.held _ _
      have hname : ∀ i x, Identifier.decodeIn? found.held room i = some x → x.toJson.depth ≤ room :=
        fun _ _ hx ↦ Identifier.bounded found.held hx
      dsimp only at hshape
      split at hshape
      · exact depth_sides_le and (fun _ _ ↦ rfl) (fun _ _ ↦ lt_of_part _ hpart) hshape
      · exact depth_sides_le or (fun _ _ ↦ rfl) (fun _ _ ↦ lt_of_part _ hpart) hshape
      · exact depth_part_le not (fun _ ↦ rfl) hbody hshape
      · exact depth_part_le atom (fun _ ↦ rfl) hname hshape
      · exact depth_sides_le imp (fun _ _ ↦ rfl) (fun _ _ ↦ lt_of_part _ hpart) hshape
      · exact depth_constant_le verum rfl hshape
      · exact depth_constant_le falsum rfl hshape
      · exact depth_quantified_le all (fun _ _ ↦ rfl) hbound
          (fun _ _ ↦ lt_of_part _ hpart) hshape
      · exact depth_quantified_le ex (fun _ _ ↦ rfl) hbound
          (fun _ _ ↦ lt_of_part _ hpart) hshape
      · obtain ⟨_, hparts, hf⟩ := Option.bind_eq_some_iff.1 hshape
        cases hf
        obtain ⟨i, -, hi⟩ := Option.bind_eq_some_iff.1 hparts
        exact depth_taggedJson_le (depth_predicateJson hi)
      · cases hshape

end Formula

/-! ## Conditions -/

namespace Freshness

/-- The names of a condition under their keys. -/
def namesJson (c : Freshness) : Json :=
  .record [("element", c.element.toJson), ("placeholder", c.placeholder.toJson)]

theorem faithful_names : Faithful namesJson decodeNames? := by
  refine Json.faithful_record _ (by simp) (by simp) (by simp [Identifier.sound_toJson]) ?_
  intro room c fields hfits hfinds
  have hname := Identifier.faithful false
  simp only [Option.bind_eq_bind]
  rw [Identifier.decode?, hname.required?_eq hfinds hfits rfl, hname.required?_eq hfinds hfits rfl]
  rfl

theorem bounded_names : Bounded namesJson decodeNames? := by
  refine Json.bounded_record _ fun {room c fields} h ↦ ?_
  simp only [Option.bind_eq_bind, Option.bind_eq_some_iff, Option.some.injEq] at h
  obtain ⟨_, hx, _, hy, rfl⟩ := h
  have hname := Identifier.bounded false
  simp [hname.required? hx, hname.required? hy]

theorem faithful : Faithful toJson decode? where
  sound c := Json.sound_record (List.forall_mem_singleton.2 (faithful_names.sound c))
  decode_eq := by
    intro room c j hroom h
    obtain ⟨below, rfl, hfits⟩ := Json.depth_record_le_iff.1 hroom
    obtain ⟨names, hnames, rfl⟩ := h.exists_single
    exact faithful_names.decode_eq (hfits ("NotFree", c.namesJson) List.mem_cons_self) hnames

theorem bounded : Bounded toJson decode? := by
  intro room j c h
  obtain ⟨below, rfl, hinside⟩ := Json.enter_eq_some_iff.1 h
  split at hinside
  · exact Json.depth_record_le_iff.2
      ⟨below, rfl, List.forall_mem_singleton.2 (bounded_names hinside)⟩
  · cases hinside

end Freshness

/-! ## Sequents -/

namespace Sequent

/-- The fields of a sequent under their keys. -/
def fieldsJson (s : Sequent) : List (String × Json) :=
  [("lhs", .list Formula.toJson s.hypotheses), ("formula", s.goal.toJson)] ++
    match s.conditions with
    | none => []
    | some cs => [("sidecondition", .list Freshness.toJson cs)]

theorem faithful : Faithful toJson decode? := by
  have hformula := Formula.faithful false
  have hconditions := Freshness.faithful.list
  refine Json.faithful_record fieldsJson ?_ ?_ ?_ ?_
  · rintro ⟨hypotheses, goal, conditions⟩
    cases conditions <;> simp [fieldsJson]
  · rintro ⟨hypotheses, goal, conditions⟩
    cases conditions <;> simp [fieldsJson]
  · rintro ⟨hypotheses, goal, conditions⟩
    cases conditions <;>
      simp [fieldsJson, Formula.sound_toJson, hformula.list.sound, hconditions.sound]
  · rintro room ⟨hypotheses, goal, conditions⟩ fields hfits hfinds
    simp only [Option.bind_eq_bind]
    rw [Formula.decode?, hformula.list.required?_eq hfinds hfits rfl,
      hformula.required?_eq hfinds hfits rfl]
    cases conditions with
    | none =>
      rw [hfinds.optional?_eq_missing rfl]
      rfl
    | some cs =>
      rw [(hconditions.nullable (Json.list_ne_null _)).optional?_eq (v := some cs) hfinds hfits rfl]
      rfl

theorem bounded : Bounded toJson decode? := by
  refine Json.bounded_record fieldsJson fun {room s fields} h ↦ ?_
  simp only [Option.bind_eq_bind, Option.bind_eq_some_iff, Option.some.injEq] at h
  obtain ⟨hypotheses, hhyps, goal, hgoal, conditions, hconds, rfl⟩ := h
  have hlhs := (Formula.bounded false).list.required? hhyps
  have hformula := (Formula.bounded false).required? hgoal
  cases conditions with
  | none => simp [fieldsJson, hlhs, hformula]
  | some cs =>
    have hsides : (Json.list Freshness.toJson cs).depth ≤ room :=
      (Freshness.bounded.list.nullable.optional? hconds).resolve_left (by simp)
    simp [fieldsJson, hlhs, hformula, hsides]

end Sequent

end Sequitur
