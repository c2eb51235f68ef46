import Uplift.Double.Basic
import Uplift.Fields

set_option autoImplicit false

/-! # TOML documents

A document is a table that its lines build up. How a table came about decides what may be added to it
later: a table of a header can be written once, a table that only lies on the way to a header can
still get a header of its own, a table of dotted keys takes more dotted keys, and an inline table
takes nothing. -/

namespace Uplift

/-- How a table came about. -/
inductive Toml.Origin where
  /-- By a header, or as the document itself. -/
  | header
  /-- On the way to the table of a header. -/
  | passage
  /-- On the way to the value of a dotted key. -/
  | dotted
  /-- As a value in braces. -/
  | inline
  deriving DecidableEq, Repr

/-- A value of a document. -/
inductive Toml where
  | str (s : String)
  | bool (b : Bool)
  | int (i : Int)
  /-- A float; none if it is out of the range of doubles. Infinities and not-a-numbers count as zero,
      as no setting is a float. -/
  | float (d : Option Double)
  /-- A date, a time, or both. -/
  | moment (text : String)
  /-- An array; `tables` says whether headers built it. -/
  | arr (tables : Bool) (items : List Toml)
  | table (origin : Toml.Origin) (fields : List (String × Toml))
  deriving Repr

namespace Toml

/-! ## Building tables -/

/-- A change of a table. -/
abbrev Edit := Origin → Fields Toml → Option (Origin × Fields Toml)

/-- Change the last table of an array of tables. -/
def editLast (edit : Edit) : List Toml → Option (List Toml)
  | [] => none
  | [.table origin fields] => do
    let (origin, fields) ← edit origin fields
    return [.table origin fields]
  | [_] => none
  | item :: items => do return item :: (← editLast edit items)

/-- Change the table at a path, making the tables on the way. Dotted keys do not lead into tables that
    have a header, and nothing leads into inline tables. -/
def within (dotted : Bool) (edit : Edit) : List String → Edit
  | [], origin, fields => edit origin fields
  | key :: path, origin, fields => do
    let next ← match fields.get? key with
      | none => do
        let (o, fs) ← within dotted edit path (if dotted then .dotted else .passage) []
        pure (Toml.table o fs)
      | some (.table o fs) =>
        if o = .inline ∨ (dotted ∧ o = .header) then none
        else do
          let (o, fs) ← within dotted edit path o fs
          pure (Toml.table o fs)
      | some (.arr true items) => do
        let items ← editLast (within dotted edit path) items
        pure (Toml.arr true items)
      | some _ => none
    return (origin, fields.put key next)

/-- Give a table its header. -/
def openTable (key : String) : Edit := fun origin fields =>
  match fields.get? key with
  | none => some (origin, fields.put key (.table .header []))
  | some (.table .passage inner) => some (origin, fields.put key (.table .header inner))
  | some _ => none

/-- Add a table to an array of tables. -/
def openItem (key : String) : Edit := fun origin fields =>
  match fields.get? key with
  | none => some (origin, fields.put key (.arr true [.table .header []]))
  | some (.arr true items) =>
    some (origin, fields.put key (.arr true (items ++ [.table .header []])))
  | some _ => none

/-- Set the value of a new key. A dotted key leads to a table of dotted keys, a plain one does not. -/
def assign (path : List String) (key : String) (value : Toml) : Edit :=
  within (!path.isEmpty) (fun origin fields =>
    if (origin = .dotted) ↔ path.isEmpty then none
    else if fields.has key then none
    else some (origin, fields.put key value)) path

/-! ## Range of numbers -/

mutual

/-- Whether all numbers of a value are in range: integers of up to 128 bits, and doubles. -/
def inRange : Toml → Bool
  | .int i => -(2 ^ 127 : Int) ≤ i && i < 2 ^ 128
  | .float d => d.isSome
  | .arr _ items => itemsInRange items
  | .table _ fields => fieldsInRange fields
  | _ => true

/-- Whether all numbers of some values are in range. -/
def itemsInRange : List Toml → Bool
  | [] => true
  | item :: items => inRange item && itemsInRange items

/-- Whether all numbers of the values of some fields are in range. -/
def fieldsInRange : List (String × Toml) → Bool
  | [] => true
  | (_, value) :: fields => inRange value && fieldsInRange fields

end

end Toml

end Uplift
