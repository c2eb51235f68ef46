import Uplift.Patch.Entry
import Uplift.Yaml.Value

set_option autoImplicit false

/-! # Patch files

A patch is written in JSON or in YAML; the extension of the file says which. In YAML the file may be
empty, which is the empty patch. -/

namespace Uplift.Patch

open Yaml

/-! ## YAML -/

/-- How deep a value in an operation may nest. -/
def yamlDepth : Nat := 125

/-- The key of a member. A key that is neither a string nor a natural number is refused. -/
def yamlKey? (k : Node) : Option Key :=
  match k.scalar? with
  | some (.str s) => some (.name s)
  | some (.int i) => if 0 ≤ i then some (.place i.toNat) else none
  | _ => none

/-- An entry in a YAML document. -/
def yamlEntry? (v : Node) : Option Entry :=
  if !v.isSound || v.depth > yamlDepth + 1 then none
  else match v with
    | .mapping _ entries => do
      let ms ← entries.mapM fun (k, v) => do return (← yamlKey? k, v.toJson?)
      return .members ms
    | .sequence _ items => some (.items (items.map Node.toJson?))
    | .scalar _ _ _ => none

/-- Read a patch in YAML. -/
def ofYamlText? (s : String) : Option Patch := do
  match ← Node.read? s with
  | none => some []
  | some (.sequence _ items) => ofEntries? (← items.mapM yamlEntry?)
  | some (.scalar _ plain text) => if plain && text.isEmpty then some [] else none
  | some (.mapping _ _) => none

/-! ## Files -/

/-- Why a file is no patch. -/
inductive LoadFault where
  /-- The file cannot be read. -/
  | unreadable
  /-- The file is not a patch in the format of its extension. -/
  | malformed
  /-- The extension is not that of a patch format. -/
  | noFormat (extension : String)
  deriving DecidableEq, Repr

/-- The wording of a load fault. -/
def LoadFault.message : LoadFault → String
  | .unreadable => "the file could not be read"
  | .malformed => "the file is not a valid patch"
  | .noFormat extension =>
    "no transform registered and '." ++ extension ++ "' is not a patch format"

/-- The patch in a file with this extension and text. -/
def ofText (extension? : Option String) (text : String) : Except LoadFault Patch :=
  let orMalformed : Option Patch → Except LoadFault Patch
    | some p => .ok p
    | none => .error .malformed
  match extension? with
  | some "json" => orMalformed (ofJsonText? text)
  | some "yaml" | some "yml" => orMalformed (ofYamlText? text)
  | other => .error (.noFormat (other.getD ""))

end Uplift.Patch
