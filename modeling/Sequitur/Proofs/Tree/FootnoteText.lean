import Sequitur.Proofs.Text.Replace
import Sequitur.Proofs.Tree.Footnotes

/-!
# The text of a footnote

The template of a footnote has places for a variable, the hypotheses and the goal, and they are
filled one after the other.  The text that has been put in one place is therefore read when the
later ones are filled, and a name that looks like a place gives way like one.

What comes of it is the template with all its places filled at once, but with other texts for the
variable and the hypotheses: those in which the later places have been filled
(`Filling.inTurn_eq_atOnce_refilled`).  A place contains no blank, so these texts have at least the
blanks of the right ones, and the blanks of the template show where each text ends.  Hence the
footnote is the one that is meant just when these texts are the right ones
(`Filling.inTurn_eq_atOnce_iff`).

The variable itself is described by `ProofTree.Eliminates` and `Formula.Binds`, and by which of them
comes first.
-/

set_option autoImplicit false

namespace Sequitur

/-! ## Filling a template -/

/-- The texts for the places of a footnote template. -/
@[ext]
structure Filling where
  identifier : String
  hypotheses : String
  goal : String
  deriving DecidableEq

namespace Filling

/-- The places with their texts. -/
def entries (f : Filling) : List (List Char × List Char) :=
  [("%%identifier%%".toList, f.identifier.toList), ("%%lhs%%".toList, f.hypotheses.toList),
    ("%%rhs%%".toList, f.goal.toList)]

/-- The template with all its places filled at once. -/
def atOnce (f : Filling) (template : String) : String :=
  String.ofList (Text.replaceEach f.entries 0 template.toList)

/-- The template with its places filled one after the other. -/
def inTurn (f : Filling) (template : String) : String :=
  ProofTree.fillFootnote template f.identifier f.hypotheses f.goal

/-- The texts after later places have been filled in them. -/
def refilled (f : Filling) : Filling where
  identifier := Text.replace "%%rhs%%" f.goal (Text.replace "%%lhs%%" f.hypotheses f.identifier)
  hypotheses := Text.replace "%%rhs%%" f.goal f.hypotheses
  goal := f.goal

@[simp]
theorem refilled_goal (f : Filling) : f.refilled.goal = f.goal := by
  rw [refilled]

/-- No text contains a place that is filled after it has been put in. -/
structure Plain (f : Filling) : Prop where
  lhs_identifier : ¬ "%%lhs%%".toList <:+: f.identifier.toList
  rhs_identifier : ¬ "%%rhs%%".toList <:+: f.identifier.toList
  rhs_hypotheses : ¬ "%%rhs%%".toList <:+: f.hypotheses.toList

variable {f : Filling}

theorem Plain.refilled_eq (h : f.Plain) : f.refilled = f := by
  have hid : Text.replace "%%lhs%%" f.hypotheses f.identifier = f.identifier := by
    rw [Text.replace, Text.replaceChars_eq_self (by decide) h.lhs_identifier, String.ofList_toList]
  rw [refilled, hid, Text.replace, Text.replaceChars_eq_self (by decide) h.rhs_identifier,
    Text.replace, Text.replaceChars_eq_self (by decide) h.rhs_hypotheses, String.ofList_toList,
    String.ofList_toList]

/-! ## The templates with places -/

/-- The words between the first two places. -/
def freshWords : List Char :=
  "\"does not occur freely in any formula in\"".toList

/-- The words between the last two places. -/
def orWords : List Char :=
  "\"or\"".toList

/-- The template for the introduction of a universal. -/
def introTemplate : String :=
  "%%identifier%% \"does not occur freely in any formula in\" %%lhs%%"

/-- The template for the elimination of an existential. -/
def elimTemplate : String :=
  "%%identifier%% \"does not occur freely in any formula in\" %%lhs%% \"or\" %%rhs%%"

theorem toList_introTemplate :
    introTemplate.toList =
      "%%identifier%%".toList ++ ' ' :: (freshWords ++ ' ' :: "%%lhs%%".toList) := by
  decide

theorem toList_elimTemplate :
    elimTemplate.toList =
      "%%identifier%%".toList ++ ' ' :: (freshWords ++ ' ' :: ("%%lhs%%".toList ++
        ' ' :: (orWords ++ ' ' :: "%%rhs%%".toList))) := by
  decide

theorem toList_atOnce_intro (f : Filling) :
    (f.atOnce introTemplate).toList =
      f.identifier.toList ++ ' ' :: (freshWords ++ ' ' :: f.hypotheses.toList) := by
  rw [atOnce, String.toList_ofList, ← List.append_nil f.hypotheses.toList]
  rfl

theorem toList_atOnce_elim (f : Filling) :
    (f.atOnce elimTemplate).toList =
      f.identifier.toList ++ ' ' :: (freshWords ++ ' ' :: (f.hypotheses.toList ++
        ' ' :: (orWords ++ ' ' :: f.goal.toList))) := by
  rw [atOnce, String.toList_ofList, ← List.append_nil f.goal.toList]
  rfl

/-- A place gives way in the texts around words without it, and leaves these as they are. -/
theorem replaceChars_around {place words : List Char} (hplace : place ≠ []) (hblank : ' ' ∉ place)
    (hwords : ¬ place <:+: words) (insert first rest : List Char) :
    Text.replaceChars place insert 0 (first ++ ' ' :: (words ++ ' ' :: rest)) =
      Text.replaceChars place insert 0 first ++
        ' ' :: (words ++ ' ' :: Text.replaceChars place insert 0 rest) := by
  rw [Text.replaceChars_append_cons hplace hblank, Text.replaceChars_append_cons hplace hblank,
    Text.replaceChars_eq_self hplace hwords]

theorem toList_inTurn_intro (f : Filling) :
    (f.inTurn introTemplate).toList =
      f.refilled.identifier.toList ++
        ' ' :: (freshWords ++ ' ' :: f.refilled.hypotheses.toList) := by
  have hlhs : ¬ "%%identifier%%".toList <:+: "%%lhs%%".toList := by decide
  simp only [inTurn, ProofTree.fillFootnote, refilled, Text.toList_replace, toList_introTemplate]
  rw [replaceChars_around (by decide) (by decide) (by decide), Text.replaceChars_self (by decide),
    Text.replaceChars_eq_self (by decide) hlhs,
    replaceChars_around (by decide) (by decide) (by decide), Text.replaceChars_self (by decide),
    replaceChars_around (by decide) (by decide) (by decide)]

theorem toList_inTurn_elim (f : Filling) :
    (f.inTurn elimTemplate).toList =
      f.refilled.identifier.toList ++ ' ' :: (freshWords ++ ' ' :: (f.refilled.hypotheses.toList ++
        ' ' :: (orWords ++ ' ' :: f.goal.toList))) := by
  have hlhs : ¬ "%%identifier%%".toList <:+: "%%lhs%%".toList := by decide
  have hrhs : ¬ "%%identifier%%".toList <:+: "%%rhs%%".toList := by decide
  have hlast : ¬ "%%lhs%%".toList <:+: "%%rhs%%".toList := by decide
  -- what replacing any of the three places does with a text of this form
  have hparts : ∀ {place : List Char}, place ≠ [] → ' ' ∉ place → ¬ place <:+: freshWords →
      ¬ place <:+: orWords → ∀ insert first second third : List Char,
      Text.replaceChars place insert 0
          (first ++ ' ' :: (freshWords ++ ' ' :: (second ++ ' ' :: (orWords ++ ' ' :: third)))) =
        Text.replaceChars place insert 0 first ++ ' ' :: (freshWords ++
          ' ' :: (Text.replaceChars place insert 0 second ++ ' ' :: (orWords ++
            ' ' :: Text.replaceChars place insert 0 third))) := by
    intro place hplace hblank hfresh hor insert first second third
    rw [replaceChars_around hplace hblank hfresh, replaceChars_around hplace hblank hor]
  simp only [inTurn, ProofTree.fillFootnote, refilled, Text.toList_replace, toList_elimTemplate]
  rw [hparts (by decide) (by decide) (by decide) (by decide), Text.replaceChars_self (by decide),
    Text.replaceChars_eq_self (by decide) hlhs, Text.replaceChars_eq_self (by decide) hrhs,
    hparts (by decide) (by decide) (by decide) (by decide), Text.replaceChars_self (by decide),
    Text.replaceChars_eq_self (by decide) hlast,
    hparts (by decide) (by decide) (by decide) (by decide), Text.replaceChars_self (by decide)]

/-- The template for the change of a bound variable. -/
def alphaTemplate : String :=
  "\"the binding structure is preserved\""

theorem inTurn_alpha (f : Filling) : f.inTurn alphaTemplate = alphaTemplate := by
  have hkept : ∀ phrase insert : String, phrase.toList ≠ [] →
      ¬ phrase.toList <:+: alphaTemplate.toList →
      Text.replace phrase insert alphaTemplate = alphaTemplate := by
    intro phrase insert hphrase hnot
    rw [Text.replace, Text.replaceChars_eq_self hphrase hnot, String.ofList_toList]
  rw [inTurn, ProofTree.fillFootnote, hkept _ _ (by decide) (by decide),
    hkept _ _ (by decide) (by decide), hkept _ _ (by decide) (by decide)]

theorem atOnce_alpha (f : Filling) : f.atOnce alphaTemplate = alphaTemplate := rfl

/-- The templates of the rules. -/
theorem eq_template {rule : Rule} {template : String}
    (h : rule.footnoteTemplate? = some template) :
    rule = .existsElim ∧ template = elimTemplate ∨ rule = .forallIntro ∧ template = introTemplate ∨
      (rule = .alphaExists ∨ rule = .alphaForall) ∧ template = alphaTemplate := by
  cases rule <;> simp only [Rule.footnoteTemplate?, reduceCtorEq, Option.some.injEq] at h <;>
    subst h <;> decide

/-! ## One after the other and all at once -/

theorem count_blank_le_identifier (f : Filling) :
    f.identifier.toList.count ' ' ≤ f.refilled.identifier.toList.count ' ' := by
  rw [refilled, Text.toList_replace, Text.toList_replace]
  exact (Text.count_le_count_replaceChars (by decide) (by decide) _ _).trans
    (Text.count_le_count_replaceChars (by decide) (by decide) _ _)

theorem count_blank_le_hypotheses (f : Filling) :
    f.hypotheses.toList.count ' ' ≤ f.refilled.hypotheses.toList.count ' ' := by
  rw [refilled, Text.toList_replace]
  exact Text.count_le_count_replaceChars (by decide) (by decide) _ _

/-- Around the words between them, the texts for the variable and the hypotheses are the right ones
when they only make up the right text together: as no blank is lost, each has those it should
have. -/
theorem refilled_eq_of_append
    (h : f.refilled.identifier.toList ++
        ' ' :: (freshWords ++ ' ' :: f.refilled.hypotheses.toList) =
      f.identifier.toList ++ ' ' :: (freshWords ++ ' ' :: f.hypotheses.toList)) :
    f.refilled = f := by
  have hcount := congrArg (List.count ' ') h
  simp only [List.count_append, List.count_cons_self] at hcount
  have hidentifier := f.count_blank_le_identifier
  have hhypotheses := f.count_blank_le_hypotheses
  obtain ⟨hname, hrest⟩ := Text.append_cons_inj_of_count h (by omega)
  have hlist := (List.cons.inj (List.append_cancel_left hrest)).2
  exact Filling.ext (String.toList_inj.1 hname) (String.toList_inj.1 hlist) f.refilled_goal

/-- Filling the places one after the other is filling them at once with other texts. -/
theorem inTurn_eq_atOnce_refilled {rule : Rule} {template : String}
    (h : rule.footnoteTemplate? = some template) (f : Filling) :
    f.inTurn template = f.refilled.atOnce template := by
  rw [← String.toList_inj]
  obtain ⟨-, rfl⟩ | ⟨-, rfl⟩ | ⟨-, rfl⟩ := eq_template h
  · rw [toList_inTurn_elim, toList_atOnce_elim, refilled_goal]
  · rw [toList_inTurn_intro, toList_atOnce_intro]
  · rw [inTurn_alpha, atOnce_alpha]

/-- The two agree when a rule has no places to fill, and otherwise only when no later place is
filled in a text. -/
theorem inTurn_eq_atOnce_iff {rule : Rule} {template : String}
    (h : rule.footnoteTemplate? = some template) (f : Filling) :
    f.inTurn template = f.atOnce template ↔
      (rule = .existsElim ∨ rule = .forallIntro → f.refilled = f) := by
  refine ⟨fun heq hrule ↦ ?_, fun hsame ↦ ?_⟩
  · rw [← String.toList_inj] at heq
    obtain ⟨-, rfl⟩ | ⟨-, rfl⟩ | ⟨halpha, -⟩ := eq_template h
    · rw [toList_inTurn_elim, toList_atOnce_elim] at heq
      refine refilled_eq_of_append
        ((List.append_left_inj (' ' :: (orWords ++ ' ' :: f.goal.toList))).1 ?_)
      simpa only [List.append_assoc, List.cons_append] using heq
    · rw [toList_inTurn_intro, toList_atOnce_intro] at heq
      exact refilled_eq_of_append heq
    · rcases hrule with rfl | rfl <;> simp at halpha
  · obtain ⟨hrule, -⟩ | ⟨hrule, -⟩ | ⟨-, rfl⟩ := eq_template h
    · rw [inTurn_eq_atOnce_refilled h, hsame (.inl hrule)]
    · rw [inTurn_eq_atOnce_refilled h, hsame (.inr hrule)]
    · rw [inTurn_alpha, atOnce_alpha]

end Filling

/-! ## The variable -/

/-- A quantified formula binds its variable. -/
def Formula.Binds (f : Formula) (x : Identifier) : Prop :=
  ∃ body, f = .all x body ∨ f = .ex x body

/-- The first of two kinds of variables that there is, and `x` when there is neither. -/
inductive Chosen (first second : Identifier → Prop) : String → Prop
  | first {x : Identifier} (h : first x) : Chosen first second x.name
  | second {x : Identifier} (hnone : ∀ y, ¬ first y) (h : second x) : Chosen first second x.name
  | neither (hfirst : ∀ y, ¬ first y) (hsecond : ∀ y, ¬ second y) : Chosen first second "x"

theorem Formula.boundIdentifier?_eq_some_iff {f : Formula} {x : Identifier} :
    f.boundIdentifier? = some x ↔ f.Binds x := by
  cases f <;> simp [boundIdentifier?, Binds]

theorem Formula.existentialVariable?_eq_some_iff {f : Formula} {x : Identifier} :
    f.existentialVariable? = some x ↔ ∃ body, f = .ex x body := by
  cases f <;> simp [existentialVariable?]

theorem chosen_orElse {first second : Identifier → Prop} {one other : Option Identifier}
    (hone : ∀ x, one = some x ↔ first x) (hother : ∀ x, other = some x ↔ second x) :
    Chosen first second (((one <|> other).map Identifier.name).getD "x") := by
  cases one with
  | some x => exact .first ((hone x).1 rfl)
  | none =>
    have hnone : ∀ y, ¬ first y := fun y hy ↦ Option.some_ne_none y ((hone y).2 hy).symm
    cases other with
    | some x => exact .second hnone ((hother x).1 rfl)
    | none => exact .neither hnone fun y hy ↦ Option.some_ne_none y ((hother y).2 hy).symm

namespace ProofTree

variable {t : ProofTree} {n : Node} {x : Identifier}

/-- The variable of the first premise in the tree whose goal is an existential. -/
def Eliminates (t : ProofTree) (n : Node) (x : Identifier) : Prop :=
  ∃ before id after p body, n.premises = before ++ id :: after ∧
    t.find? id = some p ∧ p.sequent.goal = .ex x body ∧
    ∀ other ∈ before, ∀ q, t.find? other = some q → ∀ y body, q.sequent.goal ≠ .ex y body

theorem eliminatedVariable?_eq_some_iff :
    t.eliminatedVariable? n = some x ↔ t.Eliminates n x := by
  have hvariable : ∀ id, ((t.find? id).bind fun p ↦ p.sequent.goal.existentialVariable?) = some x ↔
      ∃ p body, t.find? id = some p ∧ p.sequent.goal = .ex x body := fun id ↦ by
    simp only [Option.bind_eq_some_iff, Formula.existentialVariable?_eq_some_iff, exists_and_left]
  have hnone : ∀ id, ((t.find? id).bind fun p ↦ p.sequent.goal.existentialVariable?) = none ↔
      ∀ q, t.find? id = some q → ∀ y body, q.sequent.goal ≠ .ex y body := fun id ↦ by
    rw [Option.bind_eq_none_iff]
    refine forall₂_congr fun q _ ↦ ?_
    rw [Option.eq_none_iff_forall_ne_some]
    simp only [ne_eq, Formula.existentialVariable?_eq_some_iff, not_exists]
  rw [eliminatedVariable?, List.findSome?_eq_some_iff]
  simp only [hvariable, hnone]
  constructor
  · rintro ⟨before, id, after, hsplit, ⟨p, body, hp, hgoal⟩, hbefore⟩
    exact ⟨before, id, after, p, body, hsplit, hp, hgoal, hbefore⟩
  · rintro ⟨before, id, after, p, body, hsplit, hp, hgoal, hbefore⟩
    exact ⟨before, id, after, hsplit, ⟨p, body, hp, hgoal⟩, hbefore⟩

theorem footnoteVariable_chosen (t : ProofTree) (n : Node) :
    (n.rule = some .existsElim →
      Chosen (t.Eliminates n) n.sequent.goal.Binds (t.footnoteVariable n)) ∧
    (n.rule ≠ some .existsElim →
      Chosen n.sequent.goal.Binds (t.Eliminates n) (t.footnoteVariable n)) := by
  constructor <;> intro hrule
  · simp only [footnoteVariable, if_pos hrule]
    exact chosen_orElse (fun _ ↦ eliminatedVariable?_eq_some_iff)
      fun _ ↦ Formula.boundIdentifier?_eq_some_iff
  · simp only [footnoteVariable, if_neg hrule]
    exact chosen_orElse (fun _ ↦ Formula.boundIdentifier?_eq_some_iff)
      fun _ ↦ eliminatedVariable?_eq_some_iff

/-- The texts for the footnote of a node. -/
def filling (t : ProofTree) (n : Node) : Filling where
  identifier := t.footnoteVariable n
  hypotheses := n.sequent.typstHypotheses
  goal := n.sequent.goal.typst

/-- **What a footnote says.**  The footnote of a node is the template of its rule with the places
filled at once, but with the texts for the variable and the hypotheses in which the later places
have been filled.  It is the template with the texts themselves just when these are the same or the
rule has no places; they are when no text contains a later place.

The variable is, for the elimination of an existential, that of the first premise in the tree whose
goal is one, or else the one that the goal binds; for the other rules it is the other way round; and
it is `x` when there is neither. -/
theorem footnote_text (t : ProofTree) {n : Node} {template : String}
    (h : n.footnoteTemplate? = some template) :
    t.footnote? n = some ((t.filling n).refilled.atOnce template) ∧
    (t.footnote? n = some ((t.filling n).atOnce template) ↔
      (n.rule = some .existsElim ∨ n.rule = some .forallIntro →
        (t.filling n).refilled = t.filling n)) ∧
    ((t.filling n).Plain → t.footnote? n = some ((t.filling n).atOnce template)) ∧
    (n.rule = some .existsElim →
      Chosen (t.Eliminates n) n.sequent.goal.Binds (t.footnoteVariable n)) ∧
    (n.rule ≠ some .existsElim →
      Chosen n.sequent.goal.Binds (t.Eliminates n) (t.footnoteVariable n)) := by
  have hnote : t.footnote? n = some ((t.filling n).inTurn template) := by
    rw [Node.footnoteTemplate?] at h
    rw [footnote?, h]
    rfl
  rw [Node.footnoteTemplate?, Option.bind_eq_some_iff] at h
  obtain ⟨rule, hrule, htemplate⟩ := h
  have hrefilled := Filling.inTurn_eq_atOnce_refilled htemplate (t.filling n)
  refine ⟨?_, ?_, fun hplain ↦ ?_, footnoteVariable_chosen t n⟩
  · rw [hnote, hrefilled]
  · rw [hnote, Option.some_inj, Filling.inTurn_eq_atOnce_iff htemplate, hrule, Option.some_inj,
      Option.some_inj]
  · rw [hnote, hrefilled, hplain.refilled_eq]

/-- A universal over a variable that is spelled like the place for the hypotheses. -/
def misnamed : Sequent where
  hypotheses := [.atom (.literal "B")]
  goal := .all (.element "%%lhs%%") (.atom (.literal "A"))

/-- The variable gives way to the hypotheses. -/
theorem footnote_misnamed :
    let t := (ProofTree.new (.ofNat 1) misnamed).changes [.graft (.ofNat 1) .forallIntro []]
    ∃ n, t.find? (.ofNat 1) = some n ∧ n.footnoteTemplate? = some Filling.introTemplate ∧
      t.filling n = ⟨"%%lhs%%", "B", "forall %%lhs%%. A"⟩ ∧
      t.footnote? n = some "B \"does not occur freely in any formula in\" B" ∧
      (t.filling n).atOnce Filling.introTemplate =
        "%%lhs%% \"does not occur freely in any formula in\" B" ∧
      t.footnote? n ≠ some ((t.filling n).atOnce Filling.introTemplate) := by
  intro t
  refine ⟨(Node.leaf (.ofNat 1) misnamed).close .forallIntro [], rfl, rfl, rfl, ?_, ?_, ?_⟩
  · decide
  · decide
  · decide

/-- A universal that is to be proved from an existential. -/
def eliminating : List Change :=
  [.graft (.ofNat 1) .existsElim
    [(.ofNat 2, { misnamed with goal := .atom (.literal "A") }),
      (.ofNat 3, { misnamed with goal := .ex (.element "y") (.atom (.literal "A")) }),
      (.ofNat 4, { misnamed with goal := .ex (.element "z") (.atom (.literal "A")) })]]

theorem footnote_text_eliminating :
    let t := (ProofTree.new (.ofNat 1) misnamed).changes eliminating
    ∃ n, t.find? (.ofNat 1) = some n ∧ n.footnoteTemplate? = some Filling.elimTemplate ∧
      (t.filling n).Plain ∧ t.footnote? n = some ((t.filling n).atOnce Filling.elimTemplate) ∧
      (t.filling n).refilled = t.filling n ∧
      Chosen (t.Eliminates n) n.sequent.goal.Binds "y" ∧
      (t.filling n).atOnce Filling.elimTemplate =
        "y \"does not occur freely in any formula in\" B \"or\" forall %%lhs%%. A" := by
  intro t
  have hn : ∃ n, t.find? (.ofNat 1) = some n ∧ n.rule = some .existsElim ∧
      t.filling n = ⟨"y", "B", "forall %%lhs%%. A"⟩ := ⟨_, rfl, rfl, rfl⟩
  obtain ⟨n, hn, hrule, hfilling⟩ := hn
  have htemplate : n.footnoteTemplate? = some Filling.elimTemplate := by
    rw [Node.footnoteTemplate?, hrule]
    rfl
  have hplain : (t.filling n).Plain := by
    rw [hfilling]
    exact ⟨by decide, by decide, by decide⟩
  have hvariable : t.footnoteVariable n = "y" := congrArg Filling.identifier hfilling
  obtain ⟨-, hiff, hnote, hchosen, -⟩ := footnote_text t htemplate
  refine ⟨n, hn, htemplate, hplain, hnote hplain, hiff.1 (hnote hplain) (.inl hrule),
    hvariable ▸ hchosen hrule, ?_⟩
  rw [hfilling]
  decide

end ProofTree

end Sequitur
