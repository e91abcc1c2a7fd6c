import Sequitur.Proofs.Tree.Json
import Sequitur.Store.Operation

/-!
# The files of a directory

What is read from a file after something has been written, to it or to another one.  A value is read
back from the file it was written to (`readJson_set`), and progress in particular
(`progress_set_dataFile`), whatever the file held before.
-/

set_option autoImplicit false

namespace Sequitur

namespace Progress

/-! ## Progress as JSON -/

theorem faithful : Json.Faithful toJson decode? := by
  have hids := Uuid.faithful.list
  have hbool := Json.faithful_bool
  refine Json.faithful_record _ (by simp) (by simp) (by simp [hids.sound, hbool.sound]) ?_
  intro room p fields hfits hfinds
  simp only [Option.bind_eq_bind]
  rw [hids.optional?_eq hfinds hfits rfl, hids.optional?_eq hfinds hfits rfl,
    hids.optional?_eq hfinds hfits rfl, hbool.optional?_eq hfinds hfits rfl]
  rfl

/-- Progress is written as an object of lists of texts. -/
theorem depth_toJson_le (p : Progress) : p.toJson.depth ≤ 2 := by
  have hids : ∀ ids : List ExerciseId, (Json.list Uuid.toJson ids).depth ≤ 1 :=
    fun ids ↦ Json.depth_list_le_iff.2 ⟨0, rfl, by simp [Uuid.toJson]⟩
  exact Json.depth_record_le_iff.2 ⟨1, rfl, by simp [hids]⟩

theorem wellFormed_toJson (p : Progress) : p.toJson.WellFormed :=
  (faithful.sound p).wellFormed

/-- Progress is decoded from its JSON form. -/
theorem decode?_toJson (p : Progress) : Json.decode? decode? p.toJson = some p :=
  faithful.decode_eq (Nat.le_trans p.depth_toJson_le (by decide)) (.refl _)

end Progress

namespace Directory

variable {d d' : Directory} {name other : String} {e : Entry} {refused : Refusals}

/-! ## Entries -/

theorem lookup_filter_ne (name other : String) (entries : List (String × Entry)) :
    (entries.filter fun p ↦ p.1 ≠ name).lookup other =
      if other = name then none else entries.lookup other := by
  induction entries with
  | nil => simp
  | cons p entries ih =>
    by_cases hp : p.1 = name
    · rw [List.filter_cons_of_neg (by simpa using hp), ih]
      split
      · rfl
      · next hne => rw [Json.lookup_cons_of_ne (hp ▸ hne)]
    · rw [List.filter_cons_of_pos (by simpa using hp)]
      by_cases ho : other = p.1
      · rw [if_neg (ho ▸ hp), ho, List.lookup_cons_self, List.lookup_cons_self]
      · rw [Json.lookup_cons_of_ne ho, Json.lookup_cons_of_ne ho, ih]

theorem entry?_set (d : Directory) (name other : String) (e : Entry) :
    Directory.entry? (d.set name e) other = if other = name then some e else d.entry? other := by
  rw [ entry?, set, List.lookup_append, lookup_filter_ne, entry?]
  split
  · next heq => rw [heq, List.lookup_cons_self, Option.none_or]
  · next hne => rw [Json.lookup_cons_of_ne hne, List.lookup_nil, Option.or_none]

theorem entry?_set_self (d : Directory) (name : String) (e : Entry) :
    Directory.entry? (d.set name e) name = some e := by
  rw [entry?_set, if_pos rfl]

theorem entry?_set_of_ne (e : Entry) (h : other ≠ name) :
    Directory.entry? (d.set name e) other = d.entry? other := by
  rw [entry?_set, if_neg h]

/-! ## Values in files -/

/-- A file with a value in it. -/
def jsonFile (j : Json) : Entry :=
  .file (Symbol.ofString j.pretty)

/-- Nothing is in the way of a write that the system does not refuse, unless there is a folder. -/
theorem obstacle?_eq_none_iff :
    d.obstacle? name refused = none ↔ refused name = none ∧ d.entry? name ≠ some .folder := by
  rw [obstacle?]
  split <;> simp_all

/-- What is in the way of one file does not depend on another one. -/
theorem obstacle?_set_of_ne (e : Entry) (h : other ≠ name) :
    Directory.obstacle? (d.set name e) other refused = d.obstacle? other refused := by
  rw [obstacle?, obstacle?, entry?_set_of_ne _ h]
  rfl

theorem writeJson_of_obstacle {obstacle : Obstacle} (j : Json)
    (h : d.obstacle? name refused = some obstacle) :
    d.writeJson name j refused = .error (.file obstacle.path obstacle.fault) := by
  rw [writeJson, replace, h]

theorem writeJson_of_no_obstacle (j : Json) (h : d.obstacle? name refused = none) :
    d.writeJson name j refused = .ok (d.set name (jsonFile j)) := by
  rw [writeJson, replace, h]
  rfl

/-- A write that succeeds leaves the value in the file. -/
theorem writeJson_eq_ok {j : Json} (h : d.writeJson name j refused = .ok d') :
    d' = d.set name (jsonFile j) := by
  cases hobstacle : d.obstacle? name refused with
  | some obstacle =>
    rw [writeJson_of_obstacle j hobstacle] at h
    cases h
  | none =>
    rw [writeJson_of_no_obstacle j hobstacle] at h
    exact (Except.ok.inj h).symm

theorem writeJson_of_not_folder (j : Json) (h : d.entry? name ≠ some .folder) :
    d.writeJson name j = .ok (d.set name (jsonFile j)) :=
  writeJson_of_no_obstacle j (obstacle?_eq_none_iff.2 ⟨rfl, h⟩)

/-- What is read depends on the one file. -/
theorem readJson_congr {α : Type} (decoder : Decoder α) (hpath : d'.path = d.path)
    (hentry : d'.entry? name = d.entry? name) :
    d'.readJson name decoder = d.readJson name decoder := by
  rw [readJson, readJson, read, read, hentry, pathOf, pathOf, hpath]

theorem readJson_of_entry {α : Type} {decoder : Decoder α} {j : Json} (hj : j.WellFormed)
    (h : d.entry? name = some (jsonFile j)) :
    d.readJson name decoder = .ok (Json.decode? decoder j) := by
  rw [readJson, read, h]
  simp only [jsonFile, Option.bind_some, Json.read?_pretty hj]

/-- **A value is read back from the file it was written to.** -/
theorem readJson_set {α : Type} {decoder : Decoder α} {j : Json} (hj : j.WellFormed) :
    (d.set name (jsonFile j)).readJson name decoder = .ok (Json.decode? decoder j) :=
  readJson_of_entry hj (entry?_set_self d name (jsonFile j))

/-! ## Progress -/

/-- Progress is kept in one file. -/
theorem progress_congr (hpath : d'.path = d.path)
    (hentry : d'.entry? dataFile = d.entry? dataFile) : d'.progress = d.progress := by
  rw [progress, progress, readJson_congr _ hpath hentry]

/-- Progress is read back, whatever was in its file before. -/
theorem progress_set_dataFile (p : Progress) :
    (d.set dataFile (jsonFile p.toJson)).progress = .ok p := by
  rw [progress, readJson_set p.wellFormed_toJson, p.decode?_toJson]
  rfl

end Directory

end Sequitur
