/-!
# Lists without repetitions

`distinct xs` keeps of equal members the first one, and so lists the members of `xs` by first
occurrence.
-/

set_option autoImplicit false

namespace Sequitur

/-- A list without its repetitions: of equal members the first stays. -/
def distinct {α : Type} [DecidableEq α] (xs : List α) : List α :=
  xs.foldl (fun kept x ↦ if x ∈ kept then kept else kept ++ [x]) []

end Sequitur
