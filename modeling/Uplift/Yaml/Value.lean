import Uplift.Double.Reader
import Uplift.Json.Basic
import Uplift.Yaml.Node

set_option autoImplicit false

/-! # YAML values as JSON

A plain scalar is read by its look: null, a truth value, an integer in one of four bases, a decimal,
else a string. Digits with a leading zero are a string, and so is a number out of the range of
doubles; an integer that needs more than 64 but at most 128 bits is refused. There is no infinity in
JSON: it becomes null, and so does the value that is no number. -/

namespace Uplift.Yaml

open Text

/-! ## Scalars -/

/-- What a plain scalar stands for. -/
inductive Look where
  | json (v : Json)
  | refused
  | text

/-- The value of digits in a base. -/
def inBase? (base : Nat) (cs : List Char) : Option Nat :=
  if cs.isEmpty then none
  else cs.foldlM (fun n c => do
    let d ← Json.hexValue? c
    if d < base then some (n * base + d) else none) 0

/-- Digits after a mark for their base, if there is one. -/
def basePart? : List Char → Option (Nat × List Char)
  | '0' :: 'x' :: cs => some (16, cs)
  | '0' :: 'o' :: cs => some (8, cs)
  | '0' :: 'b' :: cs => some (2, cs)
  | _ => none

/-- Whether a text is digits with a superfluous zero in front. -/
def hasLeadingZero (cs : List Char) : Bool :=
  let body := match cs with
    | '-' :: rest => rest
    | '+' :: rest => rest
    | cs => cs
  match body with
  | '0' :: c :: rest => (c :: rest).all Char.isDigit
  | _ => false

/-- The magnitude of an integer without sign. -/
def magnitude? (cs : List Char) : Option Nat :=
  match basePart? cs with
  | some (base, digits) => inBase? base digits
  | none => inBase? 10 cs

/-- An integer: a sign, a mark for the base, digits. -/
def integer? (cs : List Char) : Option Int :=
  if hasLeadingZero cs then none
  else match cs with
    | '-' :: rest => (magnitude? rest).map fun n => -(n : Int)
    | '+' :: rest => (magnitude? rest).map Int.ofNat
    | cs => (magnitude? cs).map Int.ofNat

/-- The value of an integer by its size. -/
def ofInteger (i : Int) : Look :=
  if -(Nat.pow 2 63 : Int) ≤ i ∧ i < (Nat.pow 2 64 : Int) then .json (.int i)
  else if -(Nat.pow 2 127 : Int) ≤ i ∧ i < (Nat.pow 2 128 : Int) then .refused
  else .text

/-- A decimal. -/
def decimal? (cs : List Char) : Option Json :=
  let unsigned := match cs with
    | '+' :: rest => rest
    | cs => cs
  let s := String.ofList cs
  if [".inf", ".Inf", ".INF"].contains (String.ofList unsigned) then some .null
  else if ["-.inf", "-.Inf", "-.INF", ".nan", ".NaN", ".NAN"].contains s then some .null
  else match cs, unsigned with
    | '+' :: _, '+' :: _ => none
    | '+' :: _, '-' :: _ => none
    | _, _ => (Double.read? unsigned).map .float

/-- Whether a text spells null. -/
def isNull (s : String) : Bool := ["null", "Null", "NULL", "~"].contains s

/-- The truth value that a text spells. -/
def bool? (s : String) : Option Bool :=
  if ["true", "True", "TRUE"].contains s then some true
  else if ["false", "False", "FALSE"].contains s then some false
  else none

/-- An integer or decimal. -/
def number (cs : List Char) : Look :=
  match (integer? cs).map ofInteger with
  | some (.json v) => .json v
  | some .refused => .refused
  | _ =>
    if hasLeadingZero cs then .text
    else match decimal? cs with
      | some v => .json v
      | none => .text

/-- The value of a plain scalar without tag; nothing if it is refused. -/
def plainValue? (s : String) : Option Json :=
  if s.isEmpty || isNull s then some .null
  else match bool? s with
    | some b => some (.bool b)
    | none =>
      match number s.toList with
      | .json v => some v
      | .refused => none
      | .text => some (.str s)

/-- The value of a scalar. A tag of the core schema says how its text is read, any other tag that is
    not local makes it a string, and local tags are refused. -/
def scalarValue? (tag : Option String) (plain : Bool) (s : String) : Option Json :=
  match tag with
  | none => if plain then plainValue? s else some (.str s)
  | some t =>
    if t.toList.head? = some '!' then none
    else match t with
      | "tag:yaml.org,2002:bool" => (bool? s).map .bool
      | "tag:yaml.org,2002:int" =>
        match (integer? s.toList).map ofInteger with
        | some (.json v) => some v
        | _ => none
      | "tag:yaml.org,2002:float" => decimal? s.toList
      | "tag:yaml.org,2002:null" => if isNull s then some .null else none
      | _ => some (.str s)

namespace Node

/-- Whether a tag is local. -/
def isLocal (tag : Option String) : Bool := tag.any (·.toList.head? = some '!')

mutual

/-- Whether every scalar in a node has a value and no tag is local. -/
def isSound : Node → Bool
  | .scalar tag plain s => (scalarValue? tag plain s).isSome
  | .sequence tag items => !isLocal tag && soundItems items
  | .mapping tag entries => !isLocal tag && soundEntries entries

/-- Item by item. -/
def soundItems : List Node → Bool
  | [] => true
  | v :: vs => isSound v && soundItems vs

/-- Entry by entry, keys as well as values. -/
def soundEntries : List (Node × Node) → Bool
  | [] => true
  | (k, v) :: es => isSound k && isSound v && soundEntries es

end

mutual

/-- How many sequences and mappings are nested in each other at most, in keys as well. -/
def depth : Node → Nat
  | .scalar _ _ _ => 0
  | .sequence _ items => depthItems items + 1
  | .mapping _ entries => depthEntries entries + 1

/-- The deepest item. -/
def depthItems : List Node → Nat
  | [] => 0
  | v :: vs => max (depth v) (depthItems vs)

/-- The deepest key or value. -/
def depthEntries : List (Node × Node) → Nat
  | [] => 0
  | (k, v) :: es => max (max (depth k) (depth v)) (depthEntries es)

end

/-- The value of a scalar node. -/
def scalar? : Node → Option Json
  | .scalar tag plain s => scalarValue? tag plain s
  | _ => none

mutual

/-- The JSON value of a node; keys have to be strings. A repeated key keeps its first place and takes
    its last value. -/
def toJson? : Node → Option Json
  | .scalar tag plain s => scalarValue? tag plain s
  | .sequence _ items => (toJsonItems? items).map .arr
  | .mapping _ entries => (toJsonEntries? entries).map fun fs => .obj (Fields.ofList fs)

/-- Item by item. -/
def toJsonItems? : List Node → Option (List Json)
  | [] => some []
  | v :: vs => do return (← toJson? v) :: (← toJsonItems? vs)

/-- Entry by entry. -/
def toJsonEntries? : List (Node × Node) → Option (List (String × Json))
  | [] => some []
  | (k, v) :: es => do
    let key ← (← scalar? k).str?
    return (key, ← toJson? v) :: (← toJsonEntries? es)

end

end Node

end Uplift.Yaml
