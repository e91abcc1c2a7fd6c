import Sequitur.Proofs.Tree.Json

/-!
# How deep a stored proof nests

A node is read from a file only if its form fits there, and a form that does not fit is not read as
anything else.  The sequent of a node stands two levels further down in the file than in an answer
of the backend, once for the list and once for the node, so the list is read exactly when all of its
sequents nest two levels less than they might (`Node.decode?_list`).
-/

set_option autoImplicit false

namespace Sequitur

open Json (Confined)

variable {held : Bool} {room : Nat}

/-! ## Formulas -/

theorem Identifier.confined (held : Bool) : Confined toJson (decodeIn? held) := by
  intro room x w h
  obtain ⟨below, rfl, -⟩ := Json.enter_eq_some_iff.1 h
  rw [toJson_eq]
  exact Json.depth_record_le_iff.2 ⟨below, rfl, by simp⟩

namespace Formula

section Bodies

variable {α β : Type} {i k : Json} {members : List (String × Json)}

/-- The shape and the body of a form as they are written. -/
theorem tagged?_taggedJson (held : Bool) (names : List String) (room : Nat) (shape : String)
    (body : Json) : Json.tagged? held "type" "body" names room (taggedJson shape body) =
      some ⟨shape, some body, held⟩ := by
  rw [taggedJson, Json.tagged?_record held names (by simp) (by simp) List.lookup_cons_self]
  simp [Json.standsBefore, Json.member, List.lookup_cons]

/-- A binary compound whose sides have been decoded fits, if these do. -/
theorem depth_sides_le_of_decoded {shape : String} {side : Json → Option α} {p : α × α}
    (hi : ∀ x, side i = some x → i.depth < room) (hk : ∀ x, side k = some x → k.depth < room)
    (h : decodeSides? side (.record [("lhs", i), ("rhs", k)]) = some p) :
    (taggedJson shape (.record [("lhs", i), ("rhs", k)])).depth ≤ room + 1 := by
  rw [decodeSides?, Json.objectFields?_record (by simp) (by simp), Option.bind_eq_bind,
    Option.bind_some] at h
  obtain ⟨x, hx, hrest⟩ := Option.bind_eq_some_iff.1 h
  obtain ⟨y, hy, -⟩ := Option.bind_eq_some_iff.1 hrest
  exact depth_taggedJson_lt (by simp) (by simp [hi x hx, hk y hy])

/-- A quantified compound whose variable and body have been decoded fits, if these do. -/
theorem depth_quantified_le_of_decoded {shape : String} {bound : Json → Option α}
    {body : Json → Option β} {p : α × β} (hi : ∀ x, bound i = some x → i.depth < room)
    (hk : ∀ z, body k = some z → k.depth < room)
    (h : decodeQuantified? bound body (.record [("identifier", i), ("formula", k)]) = some p) :
    (taggedJson shape (.record [("identifier", i), ("formula", k)])).depth ≤ room + 1 := by
  rw [decodeQuantified?, Json.objectFields?_record (by simp) (by simp), Option.bind_eq_bind,
    Option.bind_some] at h
  obtain ⟨x, hx, hrest⟩ := Option.bind_eq_some_iff.1 h
  obtain ⟨z, hz, -⟩ := Option.bind_eq_some_iff.1 hrest
  exact depth_taggedJson_lt (by simp) (by simp [hi x hx, hk z hz])

end Bodies

theorem confined_predicate {p : Identifier} {xs : List Identifier}
    {w : Identifier × List Identifier}
    (h : decodePredicate? held room (predicateJson p xs) = some w) :
    (predicateJson p xs).depth ≤ room := by
  obtain ⟨below, rfl, hinside⟩ := Json.enter_eq_some_iff.1 h
  rw [predicateJson, Json.objectFields?_record (by simp) (by simp), Option.bind_eq_bind,
    Option.bind_some] at hinside
  obtain ⟨q, hq, hrest⟩ := Option.bind_eq_some_iff.1 hinside
  obtain ⟨ys, hys, -⟩ := Option.bind_eq_some_iff.1 hrest
  have hname := Identifier.confined held hq
  have harguments := (Identifier.confined held).list hys
  exact Json.depth_record_le_iff.2 ⟨below, rfl, by simp [hname, harguments]⟩

theorem exists_of_decodeIn? {j : Json} {f : Formula} (h : decodeIn? held room j = some f) :
    ∃ below, room = below + 1 := by
  cases room with
  | zero => simp [decodeIn?] at h
  | succ below => exact ⟨below, rfl⟩

/-- No formula is decoded from a form that does not fit. -/
theorem confined (held : Bool) : Confined toJson (decodeIn? held) := by
  intro room f
  induction f generalizing held room with
  | and a b iha ihb | or a b iha ihb | imp a b iha ihb =>
    intro w h
    obtain ⟨room, rfl⟩ := exists_of_decodeIn? h
    rw [toJson, decodeIn?, tagged?_taggedJson, Option.bind_eq_bind, Option.bind_some] at h
    obtain ⟨p, hp, -⟩ := Option.bind_eq_some_iff.1 h
    exact depth_sides_le_of_decoded (fun _ ↦ lt_of_part _ fun _ _ ha ↦ iha held ha)
      (fun _ ↦ lt_of_part _ fun _ _ hb ↦ ihb held hb) hp
  | not a ih =>
    intro w h
    obtain ⟨room, rfl⟩ := exists_of_decodeIn? h
    rw [toJson, decodeIn?, tagged?_taggedJson, Option.bind_eq_bind, Option.bind_some] at h
    obtain ⟨b, hb, -⟩ := Option.bind_eq_some_iff.1 h
    exact depth_taggedJson_le (ih held hb)
  | atom x =>
    intro w h
    obtain ⟨room, rfl⟩ := exists_of_decodeIn? h
    rw [toJson, decodeIn?, tagged?_taggedJson, Option.bind_eq_bind, Option.bind_some] at h
    obtain ⟨y, hy, -⟩ := Option.bind_eq_some_iff.1 h
    exact depth_taggedJson_le (Identifier.confined held hy)
  | verum | falsum =>
    intro w h
    obtain ⟨room, rfl⟩ := exists_of_decodeIn? h
    exact Json.depth_record_le_iff.2 ⟨room, rfl, by simp⟩
  | all x a ih | ex x a ih =>
    intro w h
    obtain ⟨room, rfl⟩ := exists_of_decodeIn? h
    rw [toJson, decodeIn?, tagged?_taggedJson, Option.bind_eq_bind, Option.bind_some] at h
    obtain ⟨p, hp, -⟩ := Option.bind_eq_some_iff.1 h
    exact depth_quantified_le_of_decoded (fun _ ↦ (Identifier.confined held).depth_lt)
      (fun _ ↦ lt_of_part _ fun _ _ ha ↦ ih held ha) hp
  | predicate p xs =>
    intro w h
    obtain ⟨room, rfl⟩ := exists_of_decodeIn? h
    rw [toJson, decodeIn?, tagged?_taggedJson, Option.bind_eq_bind, Option.bind_some] at h
    obtain ⟨q, hq, -⟩ := Option.bind_eq_some_iff.1 h
    exact depth_taggedJson_le (confined_predicate hq)

end Formula

/-! ## Sequents -/

theorem Freshness.confined_names : Confined namesJson decodeNames? := by
  refine Confined.enter _ fun {room c w} h ↦ ?_
  rw [Json.fields?_record (by simp) (by simp), Option.bind_eq_bind, Option.bind_some] at h
  simp only [Option.bind_eq_bind, Option.bind_eq_some_iff] at h
  obtain ⟨x, hx, y, hy, -⟩ := h
  have hname := Identifier.confined false
  simp [hname.required? rfl hx, hname.required? rfl hy]

theorem Freshness.confined : Confined toJson decode? := by
  refine Confined.enter _ fun {room c w} h ↦ ?_
  exact List.forall_mem_singleton.2 (confined_names h)

theorem Sequent.confined : Confined toJson decode? := by
  refine Confined.enter fieldsJson fun {room s w} h ↦ ?_
  obtain ⟨hypotheses, goal, conditions⟩ := s
  have hformula := Formula.confined false
  cases conditions with
  | none =>
    rw [fieldsJson, List.append_nil, Json.fields?_record (by simp) (by simp), Option.bind_eq_bind,
      Option.bind_some] at h
    simp only [Option.bind_eq_bind, Option.bind_eq_some_iff] at h
    obtain ⟨xs, hxs, f, hf, -⟩ := h
    simp [fieldsJson, hformula.list.required? rfl hxs, hformula.required? rfl hf]
  | some cs =>
    rw [fieldsJson, Json.fields?_record (by simp) (by simp), Option.bind_eq_bind,
      Option.bind_some] at h
    simp only [Option.bind_eq_bind, Option.bind_eq_some_iff] at h
    obtain ⟨xs, hxs, f, hf, ys, hys, -⟩ := h
    have hconditions : (Json.list Freshness.toJson cs).depth ≤ room :=
      Freshness.confined.list.nullable.optional? (v := some cs) rfl hys
    simp [fieldsJson, hformula.list.required? rfl hxs, hformula.required? rfl hf, hconditions]

/-! ## Nodes -/

theorem Node.confined : Confined toJson decode? := by
  refine Confined.enter _ fun {room n w} h ↦ ?_
  rw [Json.fields?_record (by simp) (by simp), Option.bind_eq_bind, Option.bind_some] at h
  simp only [Option.bind_eq_bind, Option.bind_eq_some_iff] at h
  obtain ⟨id, hid, s, hs, r, hr, ids, hids, -⟩ := h
  have huuid : Confined Uuid.toJson Json.uuid? := fun _ u _ _ ↦ by simp [Uuid.toJson]
  have hrule : Confined Rule.toJson Rule.decode? := fun _ r _ _ ↦ by simp [Rule.toJson]
  simp [huuid.required? rfl hid, Sequent.confined.required? rfl hs,
    hrule.nullable.optional? rfl hr, huuid.list.optional? rfl hids]

/-- Nothing in a node nests as deep as its sequent. -/
theorem Node.depth_toJson_le_iff {n : Node} :
    n.toJson.depth ≤ room + 1 ↔ n.sequent.toJson.depth ≤ room := by
  rw [toJson, Json.depth_record_le_iff]
  constructor
  · rintro ⟨below, hroom, hfits⟩
    obtain rfl := Nat.succ.inj hroom
    exact hfits ("statement", n.sequent.toJson) (by simp)
  · intro hsequent
    obtain ⟨below, rfl, -⟩ := Json.depth_record_le_iff.1 hsequent
    have hrule : (Json.orNull (n.rule.map Rule.toJson)).depth = 0 := by
      cases n.rule <;> simp [Rule.toJson]
    have hids : (Json.list Uuid.toJson n.premises).depth ≤ below + 1 :=
      Json.depth_list_le_iff.2 ⟨below, rfl, fun u _ ↦ by simp [Uuid.toJson]⟩
    exact ⟨below + 1, rfl, by simp [Uuid.toJson, hsequent, hrule, hids]⟩

/-- How deep the sequents of stored nodes may nest. -/
def Node.sequentLimit : Nat := Json.depthLimit - 2

/-- The form of a list of nodes fits when those of all its sequents do two levels further up. -/
theorem Node.depth_list_le_iff {ns : List Node} :
    (Json.list toJson ns).depth ≤ Json.depthLimit ↔
      ∀ n ∈ ns, n.sequent.toJson.depth ≤ sequentLimit := by
  rw [Json.depth_list_le_iff]
  constructor
  · rintro ⟨below, hbelow, hns⟩ n hn
    obtain rfl : sequentLimit + 1 = below := Nat.succ.inj hbelow
    exact depth_toJson_le_iff.1 (hns n hn)
  · intro hns
    exact ⟨sequentLimit + 1, rfl, fun n hn ↦ depth_toJson_le_iff.2 (hns n hn)⟩

/-- **Stored nodes are read back unless one of their sequents nests too deep**, and then none of
them is. -/
theorem Node.decode?_list (ns : List Node) :
    Json.decode? (Json.list? decode?) (.list toJson ns) =
      if ∀ n ∈ ns, n.sequent.toJson.depth ≤ sequentLimit then some ns else none := by
  rw [Json.decode?, faithful.list.decode_eq_ite confined.list]
  exact if_congr depth_list_le_iff rfl rfl

end Sequitur
