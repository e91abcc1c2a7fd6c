import Mathlib.Data.List.Infix
import Sequitur.Text.Replace

/-!
# What replacing a phrase does

Replacement passes over a text with the number of characters it still has to skip.  Seen from
outside, it reads the text from left to right, either an occurrence of the phrase or a single
character, and `Text.replaceChars_induction` is the induction along this reading.

Two consequences are for texts of several parts.  A character that is not in the phrase cuts a text
into parts that are replaced on their own (`replaceChars_append_cons`), and such characters are
never lost (`count_le_count_replaceChars`).

`Text.replaceEach` replaces several phrases in one pass.  Nothing that it inserts is read again,
which is what sets it apart from one replacement after the other.
-/

set_option autoImplicit false

namespace Sequitur

namespace Text

variable {phrase insert cs rest : List Char} {c : Char}

/-! ## Reading -/

/-- What is skipped has no part in the result. -/
theorem replaceChars_eq_drop (phrase insert : List Char) (skip : Nat) (cs : List Char) :
    replaceChars phrase insert skip cs = replaceChars phrase insert 0 (cs.drop skip) := by
  induction skip generalizing cs with
  | zero => rw [List.drop_zero]
  | succ skip ih =>
    cases cs with
    | nil => rfl
    | cons c cs => rw [replaceChars, ih, List.drop_succ_cons]

@[simp]
theorem replaceChars_nil (phrase insert : List Char) : replaceChars phrase insert 0 [] = [] := rfl

/-- An occurrence of the phrase is replaced. -/
theorem replaceChars_append_self (hphrase : phrase ≠ []) (insert cs : List Char) :
    replaceChars phrase insert 0 (phrase ++ cs) =
      insert ++ replaceChars phrase insert 0 cs := by
  obtain ⟨p, ps, rfl⟩ := List.exists_cons_of_ne_nil hphrase
  have hprefix : (p :: ps).isPrefixOf (p :: (ps ++ cs)) = true :=
    List.isPrefixOf_iff_prefix.2 (List.prefix_append (p :: ps) cs)
  rw [List.cons_append, replaceChars, if_pos hprefix, replaceChars_eq_drop, List.length_cons,
    Nat.add_sub_cancel, List.drop_left]

/-- The phrase itself becomes what is put in its place. -/
theorem replaceChars_self (hphrase : phrase ≠ []) (insert : List Char) :
    replaceChars phrase insert 0 phrase = insert := by
  have h := replaceChars_append_self hphrase insert []
  rwa [replaceChars_nil, List.append_nil, List.append_nil] at h

/-- A character at which the phrase does not occur is kept. -/
theorem replaceChars_cons (h : ¬ phrase <+: c :: cs) (insert : List Char) :
    replaceChars phrase insert 0 (c :: cs) = c :: replaceChars phrase insert 0 cs := by
  rw [replaceChars, if_neg (mt List.isPrefixOf_iff_prefix.1 h)]

/-- **A text is read from left to right**, as an occurrence of the phrase and a rest, or as a single
character and a rest. -/
theorem replaceChars_induction {motive : List Char → Prop} (hphrase : phrase ≠ [])
    (nil : motive []) (occurrence : ∀ cs, motive cs → motive (phrase ++ cs))
    (single : ∀ c cs, ¬ phrase <+: c :: cs → motive cs → motive (c :: cs)) (cs : List Char) :
    motive cs := by
  induction hlength : cs.length using Nat.strong_induction_on generalizing cs with
  | h length ih =>
    cases cs with
    | nil => exact nil
    | cons c cs =>
      by_cases hprefix : phrase <+: c :: cs
      · obtain ⟨rest, hrest⟩ := hprefix
        have hshorter : rest.length < length := by
          have hpos : 0 < phrase.length := List.length_pos_iff.2 hphrase
          rw [← hlength, ← hrest, List.length_append]
          omega
        exact hrest ▸ occurrence rest (ih rest.length hshorter rest rfl)
      · have hshorter : cs.length < length := by
          rw [← hlength]
          exact Nat.lt_succ_self _
        exact single c cs hprefix (ih cs.length hshorter cs rfl)

@[simp]
theorem toList_replace (phrase insert s : String) :
    (replace phrase insert s).toList = replaceChars phrase.toList insert.toList 0 s.toList :=
  String.toList_ofList

/-! ## Parts of a text -/

/-- A phrase that begins in front of a character outside of it ends there. -/
theorem prefix_of_prefix_append_cons (hc : c ∉ phrase) (h : phrase <+: cs ++ c :: rest) :
    phrase <+: cs := by
  rcases List.prefix_or_prefix_of_prefix h (List.prefix_append cs (c :: rest)) with hleft | hright
  · exact hleft
  · obtain ⟨tail, rfl⟩ := hright
    cases tail with
    | nil => rw [List.append_nil]
    | cons d tail =>
      have hcons := (List.prefix_append_right_inj cs).1 h
      obtain rfl := (List.cons_prefix_cons.1 hcons).1
      exact absurd (List.mem_append_right cs List.mem_cons_self) hc

/-- **A character that is not in the phrase cuts a text in two.** -/
theorem replaceChars_append_cons (hphrase : phrase ≠ []) (hc : c ∉ phrase)
    (insert cs rest : List Char) :
    replaceChars phrase insert 0 (cs ++ c :: rest) =
      replaceChars phrase insert 0 cs ++ c :: replaceChars phrase insert 0 rest := by
  induction cs using replaceChars_induction hphrase with
  | nil =>
    have hstart : ¬ phrase <+: c :: rest := fun h ↦ by
      have hnil : phrase <+: [] := prefix_of_prefix_append_cons hc h
      exact hphrase (List.prefix_nil.1 hnil)
    rw [List.nil_append, replaceChars_cons hstart, replaceChars_nil, List.nil_append]
  | occurrence cs ih =>
    rw [List.append_assoc, replaceChars_append_self hphrase, ih, replaceChars_append_self hphrase,
      List.append_assoc]
  | single d cs hnot ih =>
    have hstill : ¬ phrase <+: d :: (cs ++ c :: rest) := fun h ↦
      hnot (prefix_of_prefix_append_cons hc h)
    rw [List.cons_append, replaceChars_cons hstill, ih, replaceChars_cons hnot, List.cons_append]

/-- Where the phrase does not occur nothing changes. -/
theorem replaceChars_eq_self (hphrase : phrase ≠ []) (h : ¬ phrase <:+: cs) (insert : List Char) :
    replaceChars phrase insert 0 cs = cs := by
  induction cs using replaceChars_induction hphrase with
  | nil => rw [replaceChars_nil]
  | occurrence cs _ => exact absurd (List.prefix_append phrase cs).isInfix h
  | single d cs hnot ih =>
    rw [replaceChars_cons hnot, ih fun hrest ↦ h (hrest.trans (List.suffix_cons d cs).isInfix)]

/-- A character that is not in the phrase is not lost. -/
theorem count_le_count_replaceChars (hphrase : phrase ≠ []) (hc : c ∉ phrase)
    (insert cs : List Char) :
    cs.count c ≤ (replaceChars phrase insert 0 cs).count c := by
  induction cs using replaceChars_induction hphrase with
  | nil => exact Nat.le_refl _
  | occurrence cs ih =>
    rw [replaceChars_append_self hphrase, List.count_append, List.count_append,
      List.count_eq_zero_of_not_mem hc]
    omega
  | single d cs hnot ih =>
    rw [replaceChars_cons hnot, List.count_cons, List.count_cons]
    omega

/-- What comes before a character is settled by how often the character occurs in it. -/
theorem append_cons_inj_of_count {left left' right right' : List Char}
    (h : left ++ c :: right = left' ++ c :: right') (hcount : left.count c = left'.count c) :
    left = left' ∧ right = right' := by
  induction left generalizing left' with
  | nil =>
    cases left' with
    | nil => exact ⟨rfl, (List.cons.inj h).2⟩
    | cons d left' =>
      obtain ⟨rfl, -⟩ := List.cons.inj h
      rw [List.count_nil, List.count_cons_self] at hcount
      exact absurd hcount.symm (Nat.succ_ne_zero _)
  | cons d left ih =>
    cases left' with
    | nil =>
      obtain ⟨rfl, -⟩ := List.cons.inj h
      rw [List.count_nil, List.count_cons_self] at hcount
      exact absurd hcount (Nat.succ_ne_zero _)
    | cons e left' =>
      obtain ⟨rfl, htail⟩ := List.cons.inj h
      rw [List.count_cons, List.count_cons, Nat.add_right_cancel_iff] at hcount
      obtain ⟨rfl, hright⟩ := ih htail hcount
      exact ⟨rfl, hright⟩

/-! ## Several phrases -/

/-- Replacement of several phrases in one pass; the first `skip` characters belong to an occurrence
already replaced. -/
def replaceEach (entries : List (List Char × List Char)) : Nat → List Char → List Char
  | _, [] => []
  | skip + 1, _ :: cs => replaceEach entries skip cs
  | 0, c :: cs =>
    match entries.find? fun entry ↦ entry.1.isPrefixOf (c :: cs) with
    | some entry => entry.2 ++ replaceEach entries (entry.1.length - 1) cs
    | none => c :: replaceEach entries 0 cs

end Text

end Sequitur
