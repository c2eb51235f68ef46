import Uplift.Double.Basic
import Uplift.Fields

set_option autoImplicit false

/-! # JSON values

Objects keep the order of their members. Numbers are integers or doubles, and the two are never
equal: `1` and `1.0` are different documents. Two objects are the same document when they have the
same members, in any order. -/

namespace Uplift

/-- A JSON value. -/
inductive Json where
  | null
  | bool (b : Bool)
  | int (i : Int)
  | float (d : Double)
  | str (s : String)
  | arr (items : List Json)
  | obj (fields : List (String × Json))
  deriving Inhabited, Repr

namespace Json

/-- The string inside, if the value is one. -/
def str? : Json → Option String
  | .str s => some s
  | _ => none

/-- The members, if the value is an object. -/
def fields? : Json → Option (Fields Json)
  | .obj fields => some fields
  | _ => none

/-- The member of an object; other values have none. -/
def member? (v : Json) (key : String) : Option Json := v.fields?.bind (·.get? key)

/-- Whether the value is an object. -/
def isObject : Json → Bool
  | .obj _ => true
  | _ => false

/-! ## Sameness -/

mutual

/-- Whether two values are the same document: member order and the sign of zero do not count. -/
def same : Json → Json → Bool
  | .null, .null => true
  | .bool a, .bool b => a == b
  | .int a, .int b => a == b
  | .float a, .float b => a.same b
  | .str a, .str b => a == b
  | .arr xs, .arr ys => sameItems xs ys
  | .obj fs, .obj gs => fs.length == gs.length && sameFields fs gs
  | _, _ => false

/-- Item by item. -/
def sameItems : List Json → List Json → Bool
  | [], [] => true
  | x :: xs, y :: ys => same x y && sameItems xs ys
  | _, _ => false

/-- Whether every member on the left has the same value on the right. -/
def sameFields : List (String × Json) → List (String × Json) → Bool
  | [], _ => true
  | (k, v) :: fs, gs =>
    (match Fields.get? gs k with
      | some w => same v w
      | none => false) && sameFields fs gs

end

/-! ## Nesting -/

mutual

/-- How many arrays and objects are nested in each other at most. -/
def depth : Json → Nat
  | .arr items => depthItems items + 1
  | .obj fields => depthFields fields + 1
  | _ => 0

/-- The deepest item. -/
def depthItems : List Json → Nat
  | [] => 0
  | x :: xs => max (depth x) (depthItems xs)

/-- The deepest member. -/
def depthFields : List (String × Json) → Nat
  | [] => 0
  | (_, v) :: fs => max (depth v) (depthFields fs)

end

end Json

end Uplift
