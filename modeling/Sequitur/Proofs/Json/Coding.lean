import Sequitur.Proofs.Json.Reordering

/-!
# Forms that are decoded as what they are the form of

The JSON form of a type and the decoder of the type belong together in two ways.  They are
*faithful* (`Json.Faithful`) when a value is decoded from its form with the members in any order,
provided that the form fits in the room, and *bounded* (`Json.Bounded`) when nothing is decoded
whose form does not fit.  The two say that the limit of nesting is the only thing that stands
between a value and its text.

Both are shown here for plain values, lists, optional values and objects with named fields; the
types of the program are put together from these.

## What is here

* `Json.Sound` — nothing in a value is unreadable.
* `Json.Faithful`, `Json.Bounded`, `Json.Confined`, with one lemma for each way of making decoders.
* `Json.tagged?_pair` — an alternative with its content, in front of the tag or behind it.
-/

set_option autoImplicit false

namespace Sequitur

namespace Json

variable {α : Type} {i j : Json} {encode : α → Json} {decoder : Decoder α} {v : α} {room n : Nat}
  {members fields : List (String × Json)} {key : String} {keys : List String}

/-! ## Numbers -/

theorem toList_toString_nat (n : Nat) : (toString n).toList = Nat.toDigits 10 n := by
  rw [Nat.toString_eq_ofList_toDigits, String.toList_ofList]

theorem digitsValueFrom?_eq {cs : List Char} (acc : Nat) (hcs : ∀ c ∈ cs, c.isDigit) :
    Text.digitsValueFrom? acc cs = some (Nat.ofDigitChars 10 cs acc) := by
  induction cs generalizing acc with
  | nil => rfl
  | cons c cs ih =>
    obtain ⟨hc, hcs⟩ := List.forall_mem_cons.1 hcs
    have hrange : '0' ≤ c ∧ c ≤ '9' := by simpa [Char.isDigit, Char.le_def] using hc
    have hdigit : Text.digit? c = some (c.toNat - '0'.toNat) := if_pos hrange
    rw [Text.digitsValueFrom?, hdigit]
    exact ih _ hcs

/-- No zero stands in front of other digits of a number. -/
theorem toDigits_ne_zero_cons (n : Nat) (c : Char) (cs : List Char) :
    Nat.toDigits 10 n ≠ '0' :: c :: cs := by
  induction n using Nat.strongRecOn generalizing c cs with
  | ind n ih =>
    intro h
    rcases Nat.lt_or_ge n 10 with hn | hn
    · rw [Nat.toDigits_of_lt_base hn] at h
      cases (List.cons.inj h).2
    · rw [Nat.toDigits_of_base_le (by decide) hn] at h
      match hd : Nat.toDigits 10 (n / 10) with
      | [] => exact Nat.toDigits_ne_nil hd
      | [d] =>
        rw [hd] at h
        obtain ⟨rfl, -⟩ := List.cons.inj h
        have hzero : Nat.ofDigitChars 10 ['0'] 0 = n / 10 :=
          hd ▸ Nat.ofDigitChars_ten_toDigits
        have hvalue : Nat.ofDigitChars 10 ['0'] 0 = 0 := rfl
        omega
      | d :: e :: ds =>
        rw [hd] at h
        obtain ⟨rfl, -⟩ := List.cons.inj h
        exact ih (n / 10) (by omega) e ds hd

/-- A natural number is spelled as a number. -/
theorem wellFormed_nat (n : Nat) : (nat n).WellFormed := by
  rw [nat, WellFormed, toList_toString_nat]
  refine ⟨fun c hc ↦ ?_, Nat.toDigits_ne_nil, toDigits_ne_zero_cons n, by simp, by simp⟩
  simpa [isDigit, Char.isDigit, Char.le_def] using
    Nat.isDigit_of_mem_toDigits (by decide) (by decide) hc

/-- The digits of a natural number are read as the number. -/
theorem integer?_nat (n : Nat) :
    Numeral.integer? { whole := (toString n).toList } = some (n : Int) := by
  have hdigits : ∀ c ∈ Nat.toDigits 10 n, c.isDigit := fun c hc ↦
    Nat.isDigit_of_mem_toDigits (by decide) (by decide) hc
  have hvalue : Text.digitsValue? (Nat.toDigits 10 n) = some n := by
    cases hcs : Nat.toDigits 10 n with
    | nil => exact absurd hcs Nat.toDigits_ne_nil
    | cons c cs =>
      rw [Text.digitsValue?, ← hcs, digitsValueFrom?_eq 0 hdigits, Nat.ofDigitChars_ten_toDigits]
  simp [Numeral.integer?, hvalue]

/-! ## Readable values -/

/-- Nothing in a value is unreadable: its numbers are spelled as numbers, and it could be read as a
whole wherever it fits. -/
structure Sound (j : Json) : Prop where
  /-- Numbers are spelled as numbers. -/
  wellFormed : j.WellFormed
  /-- The value could be read as a whole. -/
  plain : ∀ room, j.depth ≤ room → isPlain room j = true

theorem sound_null : null.Sound :=
  ⟨by simp [WellFormed], by simp [isPlain]⟩

theorem sound_bool (b : Bool) : (bool b).Sound :=
  ⟨wellFormed_bool b, by simp [isPlain]⟩

theorem sound_text (s : String) : (text s).Sound :=
  ⟨wellFormed_text s, by simp [text, isPlain]⟩

theorem sound_nat (hn : n < UInt64.size) : (nat n).Sound := by
  refine ⟨wellFormed_nat n, fun room _ ↦ ?_⟩
  have hlow : Int64.minValue.toInt ≤ n := Int.le_trans (by decide) (Int.natCast_nonneg n)
  have hhigh : (n : Int) < UInt64.size := Int.ofNat_lt.2 hn
  rw [nat, isPlain, Numeral.isReadable, integer?_nat, Option.any_some, Bool.or_eq_true]
  exact .inl (Bool.and_eq_true_iff.2 ⟨decide_eq_true hlow, decide_eq_true hhigh⟩)

theorem sound_list {xs : List α} (h : ∀ x ∈ xs, (encode x).Sound) : (list encode xs).Sound where
  wellFormed := wellFormed_list fun x hx ↦ (h x hx).wellFormed
  plain := by
    intro room hroom
    obtain ⟨below, rfl, hxs⟩ := depth_list_le_iff.1 hroom
    rw [list, isPlain, arePlainItems_iff]
    exact List.forall_mem_map.2 fun x hx ↦ (h x hx).plain below (hxs x hx)

theorem sound_record (h : ∀ m ∈ members, m.2.Sound) : (record members).Sound where
  wellFormed := wellFormed_record fun m hm ↦ (h m hm).wellFormed
  plain := by
    intro room hroom
    obtain ⟨below, rfl, hms⟩ := depth_record_le_iff.1 hroom
    rw [record_eq, isPlain, arePlainMembers_iff]
    exact List.forall_mem_map.2 fun m hm ↦ ⟨rfl, (h m hm).plain below (hms m hm)⟩

/-! ## Faithful and bounded decoders -/

/-- Every value is decoded from its form, with the members in any order, wherever the form fits. -/
structure Faithful (encode : α → Json) (decoder : Decoder α) : Prop where
  /-- The form can be read. -/
  sound : ∀ v, (encode v).Sound
  /-- The form is decoded as the value. -/
  decode_eq : ∀ {room v j}, (encode v).depth ≤ room → Reordered (encode v) j →
    decoder room j = some v

/-- A value is decoded from its form, be it part of a held value or not, wherever the form fits. -/
def Decoded (decode : Bool → Decoder α) (encode : α → Json) (v : α) : Prop :=
  ∀ held room j, (encode v).depth ≤ room → Reordered (encode v) j → decode held room j = some v

/-- Nothing is decoded whose form does not fit. -/
def Bounded (encode : α → Json) (decoder : Decoder α) : Prop :=
  ∀ ⦃room j v⦄, decoder room j = some v → (encode v).depth ≤ room

/-- No form is decoded where it does not fit. -/
def Confined (encode : α → Json) (decoder : Decoder α) : Prop :=
  ∀ ⦃room v w⦄, decoder room (encode v) = some w → (encode v).depth ≤ room

/-- Where a form does not fit, it is not decoded as anything else either. -/
theorem Faithful.decode_eq_ite (F : Faithful encode decoder) (C : Confined encode decoder) (v : α)
    (room : Nat) :
    decoder room (encode v) = if (encode v).depth ≤ room then some v else none := by
  split
  · next hfits => exact F.decode_eq hfits (.refl _)
  · next hdeep => exact Option.eq_none_iff_forall_ne_some.2 fun w hw ↦ hdeep (C hw)

theorem faithful_text : Faithful text text? where
  sound := sound_text
  decode_eq := by
    intro room s j _ h
    obtain rfl := reordered_text_iff.1 h
    rfl

theorem faithful_bool : Faithful bool bool? where
  sound := sound_bool
  decode_eq := by
    intro room b j _ h
    obtain rfl := reordered_bool_iff.1 h
    rfl

theorem faithful_uint32 : Faithful (fun n : UInt32 ↦ nat n.toNat) uint32? where
  sound n := sound_nat (Nat.lt_trans n.toNat_lt (by decide))
  decode_eq := by
    intro room n j _ h
    obtain rfl := reordered_nat_iff.1 h
    have hn := n.toNat_lt
    have hhigh : (n.toNat : Int) ≤ UInt32.size - 1 := by
      show (n.toNat : Int) ≤ 4294967295
      omega
    rw [uint32?, nat, integer?, integer?_nat]
    simp only [Option.bind_eq_bind, Option.bind_some]
    rw [if_pos ⟨Int.natCast_nonneg _, hhigh⟩]
    simp

/-! ## Lists and optional values -/

theorem enter_succ (inside : Decoder α) (room : Nat) : enter inside (room + 1) = inside room :=
  rfl

theorem enter_eq_some_iff {inside : Decoder α} :
    enter inside room j = some v ↔ ∃ below, room = below + 1 ∧ inside below j = some v := by
  cases room with
  | zero => simp [enter]
  | succ below => simp [enter]

theorem Bounded.depth_lt (B : Bounded encode decoder) (h : enter decoder room j = some v) :
    (encode v).depth < room := by
  obtain ⟨below, rfl, hinside⟩ := enter_eq_some_iff.1 h
  exact Nat.lt_succ_of_le (B hinside)

theorem Confined.enter (form : α → List (String × Json)) {inside : Decoder α}
    (h : ∀ ⦃room v w⦄, inside room (record (form v)) = some w → ∀ m ∈ form v, m.2.depth ≤ room) :
    Confined (fun v ↦ record (form v)) (enter inside) := by
  intro room v w hw
  obtain ⟨below, rfl, hinside⟩ := enter_eq_some_iff.1 hw
  exact depth_record_le_iff.2 ⟨below, rfl, h hinside⟩

theorem Confined.depth_lt (C : Confined encode decoder) {w : α}
    (h : Json.enter decoder room (encode v) = some w) : (encode v).depth < room := by
  obtain ⟨below, rfl, hinside⟩ := enter_eq_some_iff.1 h
  exact Nat.lt_succ_of_le (C hinside)

/-- What a list of values is decoded as consists of what its items are decoded as. -/
theorem exists_of_mapM_eq_some {β : Type} {f : β → Option α} {ys : List β} {xs : List α}
    (h : ys.mapM f = some xs) : ∀ x ∈ xs, ∃ y ∈ ys, f y = some x := by
  induction ys generalizing xs with
  | nil =>
    cases h
    exact List.forall_mem_nil _
  | cons y ys ih =>
    simp only [List.mapM_cons, Option.bind_eq_bind, Option.bind_eq_some_iff, Option.pure_def,
      Option.some.injEq] at h
    obtain ⟨x, hx, xs, hxs, rfl⟩ := h
    refine List.forall_mem_cons.2 ⟨⟨y, List.mem_cons_self, hx⟩, fun z hz ↦ ?_⟩
    obtain ⟨i, hi, hz⟩ := ih hxs z hz
    exact ⟨i, List.mem_cons_of_mem y hi, hz⟩

/-- In a list that is decoded every item is. -/
theorem exists_of_mem_of_mapM_eq_some {β : Type} {f : β → Option α} {ys : List β} {xs : List α}
    (h : ys.mapM f = some xs) {y : β} (hy : y ∈ ys) : ∃ x, f y = some x := by
  induction ys generalizing xs with
  | nil => cases hy
  | cons z ys ih =>
    simp only [List.mapM_cons, Option.bind_eq_bind, Option.bind_eq_some_iff] at h
    obtain ⟨x, hx, rest, hrest, -⟩ := h
    rcases List.mem_cons.1 hy with rfl | hy
    · exact ⟨x, hx⟩
    · exact ih hrest hy

theorem Faithful.list (F : Faithful encode decoder) : Faithful (list encode) (list? decoder) where
  sound xs := sound_list fun x _ ↦ F.sound x
  decode_eq := by
    intro room xs j hroom h
    obtain ⟨below, rfl, hxs⟩ := depth_list_le_iff.1 hroom
    obtain ⟨is, rfl, his⟩ := h.exists_items
    have hall : is.mapM (decoder below) = some xs := by
      clear hroom h
      induction his with
      | nil => rfl
      | cons hi _ ih =>
        obtain ⟨hx, hxs⟩ := List.forall_mem_cons.1 hxs
        rw [List.mapM_cons, F.decode_eq hx hi, ih hxs]
        rfl
    exact hall

theorem Bounded.list (B : Bounded encode decoder) : Bounded (list encode) (list? decoder) := by
  intro room j xs h
  obtain ⟨below, rfl, hitems⟩ := enter_eq_some_iff.1 h
  split at hitems
  · refine depth_list_le_iff.2 ⟨below, rfl, fun x hx ↦ ?_⟩
    obtain ⟨i, -, hi⟩ := exists_of_mapM_eq_some hitems x hx
    exact B hi
  · cases hitems

theorem Confined.list (C : Confined encode decoder) : Confined (list encode) (list? decoder) := by
  intro room xs ys h
  obtain ⟨below, rfl, hitems⟩ := enter_eq_some_iff.1 h
  refine depth_list_le_iff.2 ⟨below, rfl, fun x hx ↦ ?_⟩
  have hall : (xs.map encode).mapM (decoder below) = some ys := hitems
  obtain ⟨y, hy⟩ := exists_of_mem_of_mapM_eq_some hall (List.mem_map_of_mem hx)
  exact C hy

@[simp]
theorem orNull_none : orNull none = null :=
  rfl

@[simp]
theorem orNull_some (j : Json) : orNull (some j) = j :=
  rfl

theorem text_ne_null (s : String) : text s ≠ null :=
  nofun

theorem nat_ne_null (n : Nat) : nat n ≠ null :=
  nofun

theorem list_ne_null (encode : α → Json) (xs : List α) : list encode xs ≠ null :=
  nofun

theorem record_ne_null (members : List (String × Json)) : record members ≠ null :=
  nofun

/-- An optional value is written `null` when it is absent, which no present one is. -/
theorem Faithful.nullable (F : Faithful encode decoder) (hnull : ∀ v, encode v ≠ .null) :
    Faithful (fun o ↦ orNull (o.map encode)) (nullable? decoder) where
  sound
    | none => sound_null
    | some v => F.sound v
  decode_eq := by
    intro room o j hroom h
    cases o with
    | none =>
      obtain rfl := reordered_null_iff.1 h
      rfl
    | some v =>
      have hj : j ≠ .null := by
        rintro rfl
        exact hnull v h.eq_null
      rw [nullable?, F.decode_eq hroom h]
      · rfl
      · exact hj

theorem Bounded.nullable (B : Bounded encode decoder) :
    Bounded (fun o ↦ orNull (o.map encode)) (nullable? decoder) := by
  intro room j o h
  rw [nullable?.eq_def] at h
  split at h
  · cases h
    simp [orNull]
  · obtain ⟨v, hv, rfl⟩ := Option.map_eq_some_iff.1 h
    exact B hv

theorem Confined.nullable (C : Confined encode decoder) :
    Confined (fun o ↦ orNull (o.map encode)) (nullable? decoder) := by
  intro room o w h
  cases o with
  | none => simp
  | some v =>
    have hv : nullable? decoder room (encode v) = some w := h
    rw [nullable?.eq_def] at hv
    split at hv
    · next hnull => simp [hnull]
    · obtain ⟨x, hx, -⟩ := Option.map_eq_some_iff.1 hv
      exact C hx

/-! ## Objects with named fields -/

/-- A field is decoded as what it is the form of. -/
theorem Finds.required?_eq {decode : Json → Option α} (h : Finds members fields)
    (hkey : members.lookup key = some j) (hj : ∀ i, Reordered j i → decode i = some v) :
    required? fields key decode = some v := by
  have hrel := h key
  rw [hkey] at hrel
  rw [required?]
  generalize fields.lookup key = found at hrel
  cases hrel with
  | some hi => exact hj _ hi

theorem Finds.optional?_eq {decode : Json → Option α} {missing : α} (h : Finds members fields)
    (hkey : members.lookup key = some j) (hj : ∀ i, Reordered j i → decode i = some v) :
    optional? fields key decode missing = some v := by
  have hrel := h key
  rw [hkey] at hrel
  rw [optional?]
  generalize fields.lookup key = found at hrel
  cases hrel with
  | some hi => exact hj _ hi

theorem Finds.optional?_eq_missing {decode : Json → Option α} {missing : α}
    (h : Finds members fields) (hkey : members.lookup key = none) :
    optional? fields key decode missing = some missing := by
  have hrel := h key
  rw [hkey] at hrel
  rw [optional?]
  generalize fields.lookup key = found at hrel
  cases hrel
  rfl

theorem Confined.required? (C : Confined encode decoder) {w : α}
    (hkey : members.lookup key = some (encode v))
    (h : Json.required? members key (decoder room) = some w) : (encode v).depth ≤ room := by
  rw [Json.required?, hkey] at h
  exact C h

theorem Confined.optional? (C : Confined encode decoder) {w missing : α}
    (hkey : members.lookup key = some (encode v))
    (h : Json.optional? members key (decoder room) missing = some w) : (encode v).depth ≤ room := by
  rw [Json.optional?, hkey] at h
  exact C h

theorem depth_le_of_lookup (hfits : ∀ m ∈ members, m.2.depth ≤ room)
    (hkey : members.lookup key = some j) : j.depth ≤ room := by
  obtain ⟨before, after, rfl, -⟩ := List.lookup_eq_some_iff.1 hkey
  exact hfits (key, j) (by simp)

theorem Faithful.required?_eq (F : Faithful encode decoder) (h : Finds members fields)
    (hfits : ∀ m ∈ members, m.2.depth ≤ room) (hkey : members.lookup key = some (encode v)) :
    required? fields key (decoder room) = some v :=
  h.required?_eq hkey fun _ ↦ F.decode_eq (depth_le_of_lookup hfits hkey)

theorem Faithful.optional?_eq {missing : α} (F : Faithful encode decoder) (h : Finds members fields)
    (hfits : ∀ m ∈ members, m.2.depth ≤ room) (hkey : members.lookup key = some (encode v)) :
    optional? fields key (decoder room) missing = some v :=
  h.optional?_eq hkey fun _ ↦ F.decode_eq (depth_le_of_lookup hfits hkey)

theorem Bounded.required? (B : Bounded encode decoder)
    (h : required? fields key (decoder room) = some v) : (encode v).depth ≤ room := by
  obtain ⟨i, -, hi⟩ := Option.bind_eq_some_iff.1 h
  exact B hi

theorem Bounded.optional? {missing : α} (B : Bounded encode decoder)
    (h : optional? fields key (decoder room) missing = some v) :
    v = missing ∨ (encode v).depth ≤ room := by
  rw [Json.optional?] at h
  split at h
  · exact .inl (Option.some.inj h).symm
  · exact .inr (B h)

section Record

variable (form : α → List (String × Json)) {build : Nat → List (String × Json) → Option α}

/-- An object with named fields is decoded from its fields. -/
theorem faithful_record (hkeys : ∀ v, ∀ m ∈ form v, m.1 ∈ keys)
    (hnodup : ∀ v, ((form v).map Prod.fst).Nodup) (hsound : ∀ v, ∀ m ∈ form v, m.2.Sound)
    (hbuild : ∀ room v fields, (∀ m ∈ form v, m.2.depth ≤ room) → Finds (form v) fields →
      build room fields = some v) :
    Faithful (fun v ↦ record (form v))
      (enter fun room j ↦ do build room (← fields? keys j)) where
  sound v := sound_record (hsound v)
  decode_eq := by
    intro room v j hroom h
    obtain ⟨below, rfl, hfits⟩ := depth_record_le_iff.1 hroom
    obtain ⟨fields, -, hfields, hfinds⟩ := h.exists_fields keys (hkeys v) (hnodup v)
    rw [enter, hfields]
    exact hbuild below v fields hfits hfinds

theorem bounded_record
    (hbuild : ∀ {room v fields}, build room fields = some v → ∀ m ∈ form v, m.2.depth ≤ room) :
    Bounded (fun v ↦ record (form v)) (enter fun room j ↦ do build room (← fields? keys j)) := by
  intro room j v h
  obtain ⟨below, rfl, hinside⟩ := enter_eq_some_iff.1 h
  obtain ⟨fields, -, hfields⟩ := Option.bind_eq_some_iff.1 hinside
  exact depth_record_le_iff.2 ⟨below, rfl, hbuild hfields⟩

end Record

/-! ## Alternatives -/

/-- Two values in another order are swapped. -/
theorem eq_pair_or_swap_of_perm {β : Type} {a b : β} {l : List β} (h : [a, b].Perm l) :
    l = [a, b] ∨ l = [b, a] := by
  obtain ⟨before, after, rfl⟩ := List.append_of_mem (h.mem_iff.1 List.mem_cons_self)
  have hrest : [b].Perm (before ++ after) := (h.trans List.perm_middle).cons_inv
  rcases List.append_eq_singleton_iff.1 hrest.symm.eq_singleton with ⟨rfl, rfl⟩ | ⟨rfl, rfl⟩
  · exact .inl rfl
  · exact .inr rfl

/-- An object of one member has no other order. -/
theorem Reordered.exists_single (h : Reordered (record [(key, j)]) i) :
    ∃ k, Reordered j k ∧ i = record [(key, k)] := by
  obtain ⟨alike, others, halike, hperm, rfl⟩ := h.exists_record
  cases halike with
  | @cons _ m _ _ hm hs =>
    cases hs
    obtain ⟨_, k⟩ := m
    obtain ⟨rfl, hk⟩ := hm
    exact ⟨k, hk, by rw [hperm.symm.eq_singleton]⟩

/-- An object of two members has one other order. -/
theorem Reordered.exists_pair {first second : String} {a b : Json}
    (h : Reordered (record [(first, a), (second, b)]) j) :
    ∃ c d, Reordered a c ∧ Reordered b d ∧
      (j = record [(first, c), (second, d)] ∨ j = record [(second, d), (first, c)]) := by
  obtain ⟨alike, others, halike, hperm, rfl⟩ := h.exists_record
  cases halike with
  | @cons _ m _ _ hm hs =>
    cases hs with
    | @cons _ n _ _ hn hs =>
      cases hs
      obtain ⟨_, c⟩ := m
      obtain ⟨_, d⟩ := n
      obtain ⟨rfl, hc⟩ := hm
      obtain ⟨rfl, hd⟩ := hn
      refine ⟨c, d, hc, hd, ?_⟩
      exact (eq_pair_or_swap_of_perm hperm).imp (congrArg record) (congrArg record)

section Tagged

variable {tagKey contentKey name : String} {body : Json} (held : Bool) (names : List String)

theorem nameIn?_text (room : Nat) : nameIn? held room (text name) = some name := by
  cases room <;> rfl

/-- An alternative is found from its members. -/
theorem tagged?_record (hkeys : ∀ m ∈ members, m.1 ∈ [tagKey, contentKey])
    (hnodup : (members.map Prod.fst).Nodup) (htag : members.lookup tagKey = some (text name)) :
    tagged? held tagKey contentKey names room (record members) =
      if standsBefore contentKey tagKey (members.map member) then
        if (members.lookup contentKey).all (isPlain room) then
          some ⟨name, members.lookup contentKey, true⟩
        else none
      else some ⟨name, members.lookup contentKey, held⟩ := by
  have hknown : knownMembers? [tagKey, contentKey] (members.map member) = some members :=
    knownMembers?_map hkeys hnodup
  rw [record_eq, tagged?, hknown]
  simp only [Option.bind_eq_bind, Option.bind_some, required?, htag, nameIn?_text]

/-- An alternative without a content is found. -/
theorem tagged?_single (hne : tagKey ≠ contentKey)
    (h : Reordered (record [(tagKey, text name)]) j) :
    tagged? held tagKey contentKey names room j = some ⟨name, none, held⟩ := by
  obtain ⟨k, hk, rfl⟩ := h.exists_single
  obtain rfl := reordered_text_iff.1 hk
  have hlookup : [(tagKey, text name)].lookup contentKey = none := lookup_cons_of_ne hne.symm
  rw [tagged?_record held names (by simp) (by simp) List.lookup_cons_self, hlookup]
  simp [standsBefore, member, hne]

/-- **An alternative with its content is found**, in whichever order the two stand; a content that
stands in front has to be readable, and is held from then on. -/
theorem tagged?_pair (hne : tagKey ≠ contentKey)
    (h : Reordered (record [(tagKey, text name), (contentKey, body)]) j) (hbody : body.Sound)
    (hfits : body.depth ≤ room) :
    ∃ content held', tagged? held tagKey contentKey names room j =
      some ⟨name, some content, held'⟩ ∧ Reordered body content := by
  obtain ⟨k, content, hk, hcontent, hj⟩ := h.exists_pair
  obtain rfl := reordered_text_iff.1 hk
  have hplain : isPlain room content = true := hcontent.isPlain (hbody.plain room hfits)
  rcases hj with rfl | rfl
  · refine ⟨content, held, ?_, hcontent⟩
    have hlookup : [(tagKey, text name), (contentKey, content)].lookup contentKey =
        some content := (lookup_cons_of_ne hne.symm).trans List.lookup_cons_self
    rw [tagged?_record held names (by simp) (by simpa using hne) List.lookup_cons_self, hlookup]
    simp [standsBefore, member, hne]
  · refine ⟨content, true, ?_, hcontent⟩
    have hlookup : [(contentKey, content), (tagKey, text name)].lookup tagKey =
        some (text name) := (lookup_cons_of_ne hne).trans List.lookup_cons_self
    rw [tagged?_record held names (by simp) (by simpa using hne.symm) hlookup,
      List.lookup_cons_self]
    simp [standsBefore, member, hplain]

end Tagged

end Json

end Sequitur
