import Mathlib.Data.List.Basic
import Sequitur.Uuid

/-!
# Reading UUIDs back

A UUID is written in one of the spellings in which it is read.  So two of them are written alike
only if they are the same (`toString_injective`), while the short form, which is how the written
form begins, may be that of several.
-/

set_option autoImplicit false

namespace Sequitur

namespace Uuid

variable {cs : List Char}

/-- The groups of thirty-two characters. -/
theorem exists_groups (h : cs.length = 32) :
    ∃ a b c d e, cs = a ++ (b ++ (c ++ (d ++ e))) ∧
      a.length = 8 ∧ b.length = 4 ∧ c.length = 4 ∧ d.length = 4 ∧ e.length = 12 := by
  refine ⟨cs.take 8, (cs.drop 8).take 4, (cs.drop 12).take 4, (cs.drop 16).take 4, cs.drop 20,
    ?_, ?_⟩
  · have hdrop : ∀ n, (cs.drop n).take 4 ++ cs.drop (n + 4) = cs.drop n := by
      intro n
      rw [← List.drop_drop, List.take_append_drop]
    rw [hdrop 16, hdrop 12, hdrop 8, List.take_append_drop]
  · simp [h]

/-- The groups stand between the hyphens. -/
theorem hyphenate_append {a b c d e : List Char} (ha : a.length = 8) (hb : b.length = 4)
    (hc : c.length = 4) (hd : d.length = 4) :
    hyphenate (a ++ (b ++ (c ++ (d ++ e)))) =
      a ++ '-' :: (b ++ '-' :: (c ++ '-' :: (d ++ '-' :: e))) := by
  simp [hyphenate, List.drop_append, List.drop_of_length_le, ha, hb, hc, hd]

theorem length_hyphenate (h : cs.length = 32) : (hyphenate cs).length = 36 := by
  obtain ⟨a, b, c, d, e, rfl, ha, hb, hc, hd, he⟩ := exists_groups h
  rw [hyphenate_append ha hb hc hd]
  simp [ha, hb, hc, hd, he]

/-- Thirty-two characters are read by groups as they are read without. -/
theorem parseGrouped?_hyphenate (h : cs.length = 32) :
    parseGrouped? (hyphenate cs) = parseUngrouped? cs := by
  obtain ⟨a, b, c, d, e, rfl, ha, hb, hc, hd, he⟩ := exists_groups h
  have hplain : (hyphenate (a ++ (b ++ (c ++ (d ++ e))))).take 8 ++
      ((hyphenate (a ++ (b ++ (c ++ (d ++ e))))).drop 9).take 4 ++
      ((hyphenate (a ++ (b ++ (c ++ (d ++ e))))).drop 14).take 4 ++
      ((hyphenate (a ++ (b ++ (c ++ (d ++ e))))).drop 19).take 4 ++
      (hyphenate (a ++ (b ++ (c ++ (d ++ e))))).drop 24 = a ++ (b ++ (c ++ (d ++ e))) := by
    rw [hyphenate_append ha hb hc hd]
    simp [List.drop_append, List.drop_of_length_le, ha, hb, hc, hd]
  rw [parseGrouped?]
  simp only [hplain, if_true]

/-- The digits are read back. -/
theorem parseUngrouped?_hexChars (u : Uuid) : parseUngrouped? u.hexChars = some u := by
  have hdigits : ∀ ds : List (Fin 16), (ds.map Text.hexChar).mapM Text.hexDigit? = some ds := by
    intro ds
    induction ds with
    | nil => rfl
    | cons d ds ih => simp [Text.hexDigit?_hexChar, ih]
  rw [parseUngrouped?, hexChars, hdigits, Option.bind_some, ofDigits?, dif_pos u.length_digits]

theorem length_hexChars (u : Uuid) : u.hexChars.length = 32 := by
  rw [hexChars, List.length_map, u.length_digits]

theorem toList_toString (u : Uuid) : (toString u).toList = hyphenate u.hexChars :=
  String.toList_ofList

theorem length_toString (u : Uuid) : (toString u).toList.length = 36 := by
  rw [toList_toString, length_hyphenate u.length_hexChars]

/-- **A UUID is read back from its written form.** -/
theorem parse?_toString (u : Uuid) : parse? (toString u) = some u := by
  rw [parse?, toList_toString, parseChars?, length_hyphenate u.length_hexChars]
  exact (parseGrouped?_hyphenate u.length_hexChars).trans (parseUngrouped?_hexChars u)

/-- No two UUIDs are written alike. -/
theorem toString_injective : Function.Injective (toString : Uuid → String) := fun u v h ↦
  Option.some.inj ((parse?_toString u).symm.trans (h ▸ parse?_toString v))

/-! ## How the written form begins -/

theorem length_short (u : Uuid) : u.short.toList.length = 8 := by
  rw [short, String.toList_ofList, List.length_take, length_hexChars]
  rfl

/-- The short form is cut off the written form, before any hyphen. -/
theorem toList_short (u : Uuid) : u.short.toList = (toString u).toList.take 8 := by
  have hlength : (u.hexChars.take 8).length = 8 := by rw [List.length_take, length_hexChars]; rfl
  rw [short, String.toList_ofList, toList_toString, hyphenate, List.take_left' hlength]

/-- Only lower-case digits and hyphens are written. -/
theorem mem_toString {c : Char} {u : Uuid} (h : c ∈ (toString u).toList) :
    c = '-' ∨ ∃ d, c = Text.hexChar d := by
  have hdigit : ∀ {c}, c ∈ u.hexChars → ∃ d, c = Text.hexChar d := fun hc ↦ by
    obtain ⟨d, -, rfl⟩ := List.mem_map.1 hc
    exact ⟨d, rfl⟩
  rw [toList_toString, hyphenate] at h
  simp only [List.mem_append, List.mem_cons] at h
  rcases h with h | rfl | h | rfl | h | rfl | h | rfl | h
  · exact .inr (hdigit (List.mem_of_mem_take h))
  · exact .inl rfl
  · exact .inr (hdigit (List.mem_of_mem_drop (List.mem_of_mem_take h)))
  · exact .inl rfl
  · exact .inr (hdigit (List.mem_of_mem_drop (List.mem_of_mem_take h)))
  · exact .inl rfl
  · exact .inr (hdigit (List.mem_of_mem_drop (List.mem_of_mem_take h)))
  · exact .inl rfl
  · exact .inr (hdigit (List.mem_of_mem_drop h))

end Uuid

end Sequitur
