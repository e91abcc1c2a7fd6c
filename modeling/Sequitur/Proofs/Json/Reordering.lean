import Mathlib.Data.List.Forall2
import Mathlib.Data.List.Perm.Basic
import Sequitur.Proofs.Json.Decoding

/-!
# Members in any order

A decoder knows the members of an object by their keys, so their order means nothing to it.
`Json.Reordered` relates a value to those that differ from it in the order of members, at any depth,
and `Json.TextOf` are the texts of all of these, with blanks between the tokens wherever there may
be any.  Both layouts of a value are such texts (`textOf_compact`, `textOf_pretty`), and each of
them is read as one of the reordered values (`TextOf.read?`).

What a decoder makes of a reordered object is taken from `Reordered.exists_fields`: under every key
stands what stood there before, reordered in its turn.

## What is here

* `Json.depth` — how deep arrays and objects are nested.
* `Json.Reordered`, `Json.TextOf`.
* `Json.Finds` — fields with the same keys and reordered values.
-/

set_option autoImplicit false

namespace Sequitur

namespace Json

variable {α : Type} {i j : Json} {js : List Json} {ms ns os : List (Option String × Json)}
  {members fields : List (String × Json)} {key : String} {room : Nat}

/-! ## Nesting -/

mutual
/-- How many arrays and objects are nested in one another. -/
def depth : Json → Nat
  | array items => depthItems items + 1
  | object members => depthMembers members + 1
  | _ => 0

/-- The depth of the deepest item. -/
def depthItems : List Json → Nat
  | [] => 0
  | j :: js => max (depth j) (depthItems js)

/-- The depth of the deepest value of a member. -/
def depthMembers : List (Option String × Json) → Nat
  | [] => 0
  | (_, j) :: ms => max (depth j) (depthMembers ms)
end

theorem depthItems_le_iff : depthItems js ≤ room ↔ ∀ j ∈ js, j.depth ≤ room := by
  induction js with
  | nil => simp [depthItems]
  | cons j js ih => rw [depthItems, Nat.max_le, ih, List.forall_mem_cons]

theorem depthMembers_le_iff : depthMembers ms ≤ room ↔ ∀ m ∈ ms, m.2.depth ≤ room := by
  induction ms with
  | nil => simp [depthMembers]
  | cons m ms ih =>
    obtain ⟨k, j⟩ := m
    rw [depthMembers, Nat.max_le, ih, List.forall_mem_cons]

@[simp]
theorem depth_text (s : String) : (text s).depth = 0 := by
  simp [text, depth]

@[simp]
theorem depth_nat (n : Nat) : (nat n).depth = 0 := by
  simp [nat, depth]

@[simp]
theorem depth_bool (b : Bool) : (bool b).depth = 0 := by
  simp [depth]

@[simp]
theorem depth_null : null.depth = 0 := by
  simp [depth]

theorem depth_list_le_iff {encode : α → Json} {xs : List α} :
    (list encode xs).depth ≤ room ↔
      ∃ below, room = below + 1 ∧ ∀ x ∈ xs, (encode x).depth ≤ below := by
  cases room with
  | zero => simp [list, depth]
  | succ below => simp [list, depth, depthItems_le_iff]

/-- A member as it stands in an object. -/
def member (m : String × Json) : Option String × Json :=
  (some m.1, m.2)

theorem record_eq (members : List (String × Json)) :
    record members = .object (members.map member) :=
  rfl

theorem depth_record_le_iff :
    (record members).depth ≤ room ↔
      ∃ below, room = below + 1 ∧ ∀ m ∈ members, m.2.depth ≤ below := by
  rw [record_eq, depth]
  cases room with
  | zero => simp
  | succ below => simp only [Nat.add_le_add_iff_right, depthMembers_le_iff, List.forall_mem_map,
      member, Nat.add_right_cancel_iff, exists_eq_left']

/-! ## Reordering -/

mutual
/-- A value is the same as another one but for the order of the members of objects. -/
inductive Reordered : Json → Json → Prop
  | null : Reordered .null .null
  | bool (b : Bool) : Reordered (.bool b) (.bool b)
  | number (n : Numeral) : Reordered (.number n) (.number n)
  | string (s : Option String) : Reordered (.string s) (.string s)
  | array {js is : List Json} (h : ReorderedItems js is) : Reordered (.array js) (.array is)
  | object {ms ns os : List (Option String × Json)} (h : ReorderedMembers ms ns)
      (hperm : ns.Perm os) : Reordered (.object ms) (.object os)

/-- Items are the same but for the order of members inside them. -/
inductive ReorderedItems : List Json → List Json → Prop
  | nil : ReorderedItems [] []
  | cons {j i : Json} {js is : List Json} (h : Reordered j i) (hs : ReorderedItems js is) :
    ReorderedItems (j :: js) (i :: is)

/-- Members are the same but for the order of members inside their values. -/
inductive ReorderedMembers : List (Option String × Json) → List (Option String × Json) → Prop
  | nil : ReorderedMembers [] []
  | cons (k : Option String) {j i : Json} {ms ns : List (Option String × Json)}
      (h : Reordered j i) (hs : ReorderedMembers ms ns) :
    ReorderedMembers ((k, j) :: ms) ((k, i) :: ns)
end

mutual
theorem Reordered.refl : (j : Json) → Reordered j j
  | .null => .null
  | .bool b => .bool b
  | .number n => .number n
  | .string s => .string s
  | .array js => .array (ReorderedItems.refl js)
  | .object ms => .object (ReorderedMembers.refl ms) (.refl ms)

theorem ReorderedItems.refl : (js : List Json) → ReorderedItems js js
  | [] => .nil
  | j :: js => .cons (.refl j) (ReorderedItems.refl js)

theorem ReorderedMembers.refl : (ms : List (Option String × Json)) → ReorderedMembers ms ms
  | [] => .nil
  | (k, j) :: ms => .cons k (.refl j) (ReorderedMembers.refl ms)
end

theorem reordered_null_iff : Reordered .null j ↔ j = .null := by
  constructor
  · rintro ⟨⟩
    rfl
  · rintro rfl
    exact .null

theorem reordered_bool_iff {b : Bool} : Reordered (.bool b) j ↔ j = .bool b := by
  constructor
  · rintro ⟨⟩
    rfl
  · rintro rfl
    exact .bool b

theorem reordered_text_iff {s : String} : Reordered (text s) j ↔ j = text s := by
  constructor
  · rintro ⟨⟩
    rfl
  · rintro rfl
    exact .string s

theorem reordered_nat_iff {n : Nat} : Reordered (nat n) j ↔ j = nat n := by
  constructor
  · rintro ⟨⟩
    rfl
  · rintro rfl
    exact .number _

/-- No value but `null` itself is reordered to `null`. -/
theorem Reordered.eq_null (h : Reordered j .null) : j = .null := by
  cases h
  rfl

theorem reorderedItems_map_iff {encode : α → Json} {xs : List α} :
    ReorderedItems (xs.map encode) js ↔ List.Forall₂ (fun x ↦ Reordered (encode x)) xs js := by
  induction xs generalizing js with
  | nil =>
    constructor
    · rintro ⟨⟩
      exact .nil
    · rintro ⟨⟩
      exact .nil
  | cons x xs ih =>
    constructor
    · rintro (_ | ⟨h, hs⟩)
      exact .cons h (ih.1 hs)
    · rintro (_ | ⟨h, hs⟩)
      exact .cons h (ih.2 hs)

/-- A reordered list is an array of reordered items. -/
theorem Reordered.exists_items {encode : α → Json} {xs : List α}
    (h : Reordered (list encode xs) j) :
    ∃ is, j = .array is ∧ List.Forall₂ (fun x ↦ Reordered (encode x)) xs is := by
  cases h with
  | array h => exact ⟨_, rfl, reorderedItems_map_iff.1 h⟩

/-- Members with the same keys in the same order, and reordered values. -/
abbrev Alike : List (String × Json) → List (String × Json) → Prop :=
  List.Forall₂ fun m n ↦ m.1 = n.1 ∧ Reordered m.2 n.2

theorem ReorderedMembers.exists_alike (h : ReorderedMembers (members.map member) ns) :
    ∃ alike, ns = alike.map member ∧ Alike members alike := by
  induction members generalizing ns with
  | nil =>
    cases h
    exact ⟨[], rfl, .nil⟩
  | cons m members ih =>
    cases h with
    | @cons _ _ i _ _ hm hs =>
      obtain ⟨alike, rfl, halike⟩ := ih hs
      exact ⟨(m.1, i) :: alike, rfl, .cons ⟨rfl, hm⟩ halike⟩

/-- **A reordered object** has alike members in some order. -/
theorem Reordered.exists_record (h : Reordered (record members) j) :
    ∃ alike others, Alike members alike ∧ alike.Perm others ∧ j = record others := by
  rw [record_eq] at h
  cases h with
  | @object _ _ os h hperm =>
    obtain ⟨alike, rfl, halike⟩ := h.exists_alike
    obtain ⟨others, hos, hothers⟩ :=
      (congrFun₂ (List.eq_map_comp_perm member) os alike).mpr hperm.symm
    obtain rfl : os = others.map member := hos
    exact ⟨alike, others, halike, hothers.symm, rfl⟩

/-! ## Fields -/

theorem Alike.map_fst {alike : List (String × Json)} (h : Alike members alike) :
    alike.map Prod.fst = members.map Prod.fst := by
  induction h with
  | nil => rfl
  | cons hm _ ih => rw [List.map_cons, List.map_cons, hm.1, ih]

/-- Fields are found under the same keys, their values being reordered. -/
def Finds (members fields : List (String × Json)) : Prop :=
  ∀ key, Option.Rel Reordered (members.lookup key) (fields.lookup key)

theorem Alike.finds {alike : List (String × Json)} (h : Alike members alike) :
    Finds members alike := by
  intro key
  induction h with
  | nil => exact .none
  | @cons m n _ _ hm _ ih =>
    rw [List.lookup_cons, List.lookup_cons, hm.1]
    split
    · exact .some hm.2
    · exact ih

/-- Under keys that occur once the order does not matter. -/
theorem lookup_perm {others : List (String × Json)} (h : members.Perm others)
    (hnodup : (members.map Prod.fst).Nodup) (key : String) :
    members.lookup key = others.lookup key := by
  induction h with
  | nil => rfl
  | cons m _ ih =>
    rw [List.lookup_cons, List.lookup_cons, ih (List.nodup_cons.1 hnodup).2]
  | swap m n _ =>
    have hne : n.1 ≠ m.1 := by
      intro heq
      simp [heq] at hnodup
    rw [List.lookup_cons, List.lookup_cons, List.lookup_cons, List.lookup_cons]
    by_cases hm : key = m.1
    · have hn : (key == n.1) = false := by simpa [hm] using hne.symm
      rw [hn]
    · have hm' : (key == m.1) = false := by simpa using hm
      rw [hm']
  | trans h _ ih ih' =>
    rw [ih hnodup, ih' ((h.map Prod.fst).nodup_iff.1 hnodup)]

/-- **The fields of a reordered object** are found under their keys. -/
theorem Reordered.exists_fields (h : Reordered (record members) j) (keys : List String)
    (hkeys : ∀ m ∈ members, m.1 ∈ keys) (hnodup : (members.map Prod.fst).Nodup) :
    ∃ fields, objectFields? keys j = some fields ∧ fields? keys j = some fields ∧
      Finds members fields := by
  obtain ⟨alike, others, halike, hperm, rfl⟩ := h.exists_record
  have hfst : (alike.map Prod.fst).Perm (others.map Prod.fst) := hperm.map Prod.fst
  rw [halike.map_fst] at hfst
  have hothers : ∀ m ∈ others, m.1 ∈ keys := by
    intro m hm
    obtain ⟨n, hn, heq⟩ := List.mem_map.1 (hfst.symm.mem_iff.1 (List.mem_map_of_mem hm))
    exact heq ▸ hkeys n hn
  have hknown := knownMembers?_map hothers (hfst.nodup_iff.1 hnodup)
  refine ⟨others, hknown, hknown, fun key ↦ ?_⟩
  rw [← lookup_perm hperm (halike.map_fst ▸ hnodup)]
  exact halike.finds key

/-! ## Values judged as a whole -/

theorem arePlainItems_iff : arePlainItems room js = true ↔ ∀ j ∈ js, isPlain room j = true := by
  induction js with
  | nil => simp [arePlainItems]
  | cons j js ih => simp [arePlainItems, ih]

theorem arePlainMembers_iff :
    arePlainMembers room ms = true ↔ ∀ m ∈ ms, m.1.isSome = true ∧ isPlain room m.2 = true := by
  induction ms with
  | nil => simp [arePlainMembers]
  | cons m ms ih =>
    obtain ⟨k, j⟩ := m
    simp [arePlainMembers, ih]

mutual
/-- The order of members does not matter to whether a value can be read as a whole. -/
theorem Reordered.isPlain {j i : Json} (h : Reordered j i) {room : Nat}
    (hj : isPlain room j = true) : Json.isPlain room i = true := by
  cases h with
  | null => exact hj
  | bool => exact hj
  | number => exact hj
  | string => exact hj
  | array h =>
    cases room with
    | zero => simp [Json.isPlain] at hj
    | succ room =>
      rw [Json.isPlain] at hj ⊢
      exact h.arePlainItems hj
  | object h hperm =>
    cases room with
    | zero => simp [Json.isPlain] at hj
    | succ room =>
      rw [Json.isPlain] at hj ⊢
      have hns := arePlainMembers_iff.1 (h.arePlainMembers hj)
      exact arePlainMembers_iff.2 fun m hm ↦ hns m (hperm.mem_iff.2 hm)

theorem ReorderedItems.arePlainItems {js is : List Json} (h : ReorderedItems js is) {room : Nat}
    (hjs : arePlainItems room js = true) : Json.arePlainItems room is = true := by
  cases h with
  | nil => exact hjs
  | cons h hs =>
    rw [Json.arePlainItems, Bool.and_eq_true] at hjs ⊢
    exact ⟨h.isPlain hjs.1, hs.arePlainItems hjs.2⟩

theorem ReorderedMembers.arePlainMembers {ms ns : List (Option String × Json)}
    (h : ReorderedMembers ms ns) {room : Nat} (hms : arePlainMembers room ms = true) :
    Json.arePlainMembers room ns = true := by
  cases h with
  | nil => exact hms
  | cons k h hs =>
    rw [Json.arePlainMembers, Bool.and_eq_true, Bool.and_eq_true] at hms ⊢
    exact ⟨⟨hms.1.1, h.isPlain hms.1.2⟩, hs.arePlainMembers hms.2⟩
end

/-! ## Texts -/

/-- A text of a value: its members in any order at any depth, and blanks between the tokens. -/
def TextOf (j : Json) (text : List Char) : Prop :=
  ∃ i w cs v, Reordered j i ∧ Blank w ∧ Spells i cs ∧ Blank v ∧ text = w ++ (cs ++ v)

theorem TextOf.read? {text : List Char} (h : TextOf j text) :
    ∃ i, Json.read? (text.map .char) = some i ∧ Reordered j i := by
  obtain ⟨i, w, cs, v, hreordered, hw, hspells, hv, rfl⟩ := h
  exact ⟨i, read?_of_spells hspells hw hv, hreordered⟩

theorem textOf_of_spells {cs : List Char} (h : Spells j cs) : TextOf j cs :=
  ⟨j, [], cs, [], .refl j, blank_nil, h, blank_nil, (List.append_nil cs).symm⟩

theorem textOf_compact (h : j.WellFormed) : TextOf j j.compact.toList := by
  rw [compact, String.toList_ofList]
  exact textOf_of_spells (spells_compactChars j h)

theorem textOf_pretty (h : j.WellFormed) : TextOf j j.pretty.toList := by
  rw [pretty, String.toList_ofList]
  exact textOf_of_spells (spells_prettyChars 0 j h)

end Json

end Sequitur
