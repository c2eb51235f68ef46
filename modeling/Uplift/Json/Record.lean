import Uplift.Json.Parser

set_option autoImplicit false

/-! # Reading records

A record is read straight from the text of a JSON object, member by member, without building the
object first. Members that the record does not know are stepped over; only their grammar is looked
at, so numbers out of range and any depth of nesting are fine there. A known member may come once;
whether it may be missing is for the record to say. An array of the values in the order of the
declaration stands for the record as well.

Reading may also be *cut short*: a duration that is out of range ends the program, at the point of
the text where it stands. -/

namespace Uplift.Json

/-- Why nothing was read. -/
inductive Refusal where
  /-- The text is not the JSON of such a value. -/
  | malformed
  /-- The text holds a duration that is out of range. -/
  | overflow
  deriving DecidableEq, Repr

/-- A reader of one value at the front of a text. -/
abbrev Decoder (α : Type) := List Char → Except Refusal (α × List Char)

variable {α β σ : Type}

/-- A missing result is malformed. -/
def need : Option α → Except Refusal α
  | some a => .ok a
  | none => .error .malformed

/-! ## Stepping over values -/

/-- The text after a string body, whatever its escapes stand for. -/
def skipString : List Char → Option (List Char)
  | '"' :: rest => some rest
  | '\\' :: 'u' :: a :: b :: c :: d :: rest =>
    if (unit? a b c d).isSome then skipString rest else none
  | '\\' :: c :: rest => if (escaped? c).isSome then skipString rest else none
  | c :: rest => if c.toNat < 0x20 then none else skipString rest
  | [] => none

/-- The text after a value that is no array and no object. -/
def skipScalar (cs : List Char) : Option (List Char) :=
  match cs with
  | 'n' :: _ => "null".toList.isPrefixOf? cs
  | 't' :: _ => "true".toList.isPrefixOf? cs
  | 'f' :: _ => "false".toList.isPrefixOf? cs
  | '"' :: rest => skipString rest
  | _ => (lexNumber cs).map (·.2)

/-- The text after items and their closing bracket. -/
def skipItems (item : List Char → Option (List Char)) : Nat → List Char → Option (List Char)
  | 0, _ => none
  | fuel + 1, cs =>
    match (item cs).map skipGap with
    | some (',' :: cs) => skipItems item fuel cs
    | some (']' :: cs) => some cs
    | _ => none

/-- The text after members and their closing brace. -/
def skipMembers (item : List Char → Option (List Char)) : Nat → List Char → Option (List Char)
  | 0, _ => none
  | fuel + 1, cs =>
    match skipGap cs with
    | '"' :: cs =>
      match (skipString cs).map skipGap with
      | some (':' :: cs) =>
        match (item cs).map skipGap with
        | some (',' :: cs) => skipMembers item fuel cs
        | some ('}' :: cs) => some cs
        | _ => none
      | _ => none
    | _ => none

/-- The text after a value of at most this nesting. -/
def skipNested : Nat → List Char → Option (List Char)
  | 0, cs => skipScalar (skipGap cs)
  | depth + 1, cs =>
    match skipGap cs with
    | '[' :: rest =>
      match skipGap rest with
      | ']' :: rest => some rest
      | rest => skipItems (skipNested depth) rest.length rest
    | '{' :: rest =>
      match skipGap rest with
      | '}' :: rest => some rest
      | rest => skipMembers (skipNested depth) rest.length rest
    | cs => skipScalar cs

/-- The text after a value. Its nesting cannot exceed the length of the text. -/
def skipValue (cs : List Char) : Option (List Char) := skipNested cs.length cs

/-! ## Values of members -/

/-- A string. -/
def text : Decoder String := fun cs =>
  match skipGap cs with
  | '"' :: rest => do
    let (s, rest) ← need (stringBody rest)
    return (String.ofList s, rest)
  | _ => .error .malformed

/-- What a partial function makes of a value. -/
def through (f : α → Option β) (d : Decoder α) : Decoder β := fun cs => do
  let (a, rest) ← d cs
  let b ← need (f a)
  return (b, rest)

/-- A number of any form. -/
def number : Decoder Json := fun cs => do
  let (n, rest) ← need (lexNumber (skipGap cs))
  let v ← need n.value
  return (v, rest)

/-- An integer from zero to `2 ^ 64 - 1`. -/
def count : Decoder Nat :=
  through (fun
    | .int i => if 0 ≤ i then some i.toNat else none
    | _ => none) number

/-- A number as a double. -/
def real : Decoder Double :=
  through (fun
    | .int i => (Double.ofNat? i.natAbs).map fun d => if i < 0 then d.neg else d
    | .float d => some d
    | _ => none) number

/-- The items of a list up to its closing bracket. -/
def listItems (item : Decoder α) : Nat → Decoder (List α)
  | 0, _ => .error .malformed
  | fuel + 1, cs => do
    let (a, cs) ← item cs
    match skipGap cs with
    | ',' :: cs =>
      let (as, cs) ← listItems item fuel cs
      return (a :: as, cs)
    | ']' :: cs => return ([a], cs)
    | _ => .error .malformed

/-- An array of values. -/
def list (item : Decoder α) : Decoder (List α) := fun cs =>
  match skipGap cs with
  | '[' :: rest =>
    match skipGap rest with
    | ']' :: rest => .ok ([], rest)
    | rest => listItems item rest.length rest
  | _ => .error .malformed

/-! ## Records -/

/-- A known member: its name, whether the record so far has it, and how it is read into the record. -/
structure Slot (σ : Type) where
  name : String
  filled : σ → Bool
  read : σ → Decoder σ

/-- The slot of an optional field. -/
def slot (name : String) (get : σ → Option α) (set : σ → α → σ) (d : Decoder α) : Slot σ where
  name
  filled s := (get s).isSome
  read s cs := do
    let (a, cs) ← d cs
    return (set s a, cs)

/-- Read the value of a member into the record, or step over it. -/
def readMember (slots : List (Slot σ)) (s : σ) (key : String) : Decoder σ := fun cs =>
  match slots.find? (·.name = key) with
  | some slot => if slot.filled s then .error .malformed else slot.read s cs
  | none => do
    let rest ← need (skipValue cs)
    return (s, rest)

/-- The members of an object up to its closing brace. -/
def recordMembers (slots : List (Slot σ)) : Nat → σ → Decoder σ
  | 0, _, _ => .error .malformed
  | fuel + 1, s, cs => do
    let (key, cs) ← text cs
    match skipGap cs with
    | ':' :: cs =>
      let (s, cs) ← readMember slots s key cs
      match skipGap cs with
      | ',' :: cs => recordMembers slots fuel s cs
      | '}' :: cs => return (s, cs)
      | _ => .error .malformed
    | _ => .error .malformed

/-- The values of an array, at most one for each slot, up to its closing bracket. -/
def recordItems : List (Slot σ) → σ → Decoder σ
  | [], _, _ => .error .malformed
  | slot :: slots, s, cs => do
    let (s, cs) ← slot.read s cs
    match skipGap cs with
    | ']' :: cs => return (s, cs)
    | ',' :: cs => recordItems slots s cs
    | _ => .error .malformed

/-- What an object of known and unknown members, or an array of known ones, makes of a record. -/
def recordFields (slots : List (Slot σ)) (empty : σ) : Decoder σ := fun cs =>
  match skipGap cs with
  | '{' :: rest =>
    match skipGap rest with
    | '}' :: rest => .ok (empty, rest)
    | rest => recordMembers slots rest.length empty rest
  | '[' :: rest =>
    match skipGap rest with
    | ']' :: rest => .ok (empty, rest)
    | rest => recordItems slots empty rest
  | _ => .error .malformed

/-- A record that is finished once its fields are read. -/
def record (slots : List (Slot σ)) (empty : σ) (finish : σ → Option α) : Decoder α :=
  through finish (recordFields slots empty)

/-- Read a whole text: one value with blanks around it. -/
def decode (d : Decoder α) (s : String) : Except Refusal α := do
  let (a, rest) ← d s.toList
  if (skipGap rest).isEmpty then return a else .error .malformed

end Uplift.Json
