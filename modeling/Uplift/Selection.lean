import Uplift.Codemod
import Uplift.Fault
import Uplift.Text.Numeral

set_option autoImplicit false

/-! # Selecting collections

Matched collections may be narrowed before they are run. In a list to pick from, a collection is
shown by its version and the number of its codemods; what was picked is found again by these
labels. -/

namespace Uplift

/-- A choice among the matched collections; it may fail. -/
abbrev Selector := List Collection → Except Fault (List Collection)

namespace Collection

/-- The label of a collection. -/
def label (c : Collection) : String :=
  let n := c.codemods.length
  c.version.text ++ " (" ++ Text.decimal n ++ " codemod" ++ (if n = 1 then "" else "s") ++ ")"

/-- The collections whose labels were picked, in their own order. -/
def keepPicked (collections : List Collection) (picked : List String) : List Collection :=
  collections.filter fun c => picked.contains c.label

end Collection

end Uplift
