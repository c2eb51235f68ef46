set_option autoImplicit false

/-! # Ordered fields

A list of named values in a fixed order, with at most one value a name: the members of a JSON
object, the entries of a directory, the loaded transforms of a run. Setting a name keeps its place,
a new name goes to the end. -/

namespace Uplift

/-- Named values in order. -/
abbrev Fields (α : Type) := List (String × α)

namespace Fields

variable {α : Type}

/-- The value of a name. -/
def get? : Fields α → String → Option α
  | [], _ => none
  | (k, v) :: rest, key => if k = key then some v else get? rest key

/-- Whether a name has a value. -/
def has (fs : Fields α) (key : String) : Bool := (fs.get? key).isSome

/-- Set a name: its place is kept, a new name goes to the end. -/
def put : Fields α → String → α → Fields α
  | [], key, value => [(key, value)]
  | (k, v) :: rest, key, value =>
    if k = key then (k, value) :: rest else (k, v) :: put rest key value

/-- Drop a name; the others keep their order. -/
def erase : Fields α → String → Fields α
  | [], _ => []
  | (k, v) :: rest, key => if k = key then rest else (k, v) :: erase rest key

/-- Drop a name; the last entry takes its place. -/
def swapErase (fs : Fields α) (key : String) : Fields α :=
  match fs.findIdx? (·.1 = key), fs.getLast? with
  | some i, some last =>
    if i + 1 = fs.length then fs.dropLast else (fs.dropLast).set i last
  | _, _ => fs

/-- The names in order. -/
def keys (fs : Fields α) : List String := fs.map (·.1)

/-- The fields that a list of settings leads to: a repeated name keeps its first place and takes its
    last value. -/
def ofList (entries : List (String × α)) : Fields α :=
  entries.foldl (fun fs e => fs.put e.1 e.2) []

/-! ## Laws -/

@[simp] theorem get?_put_self (fs : Fields α) (key : String) (value : α) :
    (fs.put key value).get? key = some value := by
  induction fs with
  | nil => simp [put, get?]
  | cons e rest ih =>
    obtain ⟨k, v⟩ := e
    rw [put]
    split
    · rename_i h
      simp [get?, h]
    · rename_i h
      simp [get?, h, ih]

theorem get?_put_of_ne (fs : Fields α) {key other : String} (value : α) (h : other ≠ key) :
    (fs.put key value).get? other = fs.get? other := by
  induction fs with
  | nil => simp [put, get?, Ne.symm h]
  | cons e rest ih =>
    obtain ⟨k, v⟩ := e
    rw [put]
    split
    · rename_i hk
      subst hk
      simp [get?, Ne.symm h]
    · simp [get?, ih]

end Fields

end Uplift
