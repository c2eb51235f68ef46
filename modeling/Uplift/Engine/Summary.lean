import Uplift.Double.Reader
import Uplift.Report
import Uplift.Text.Numeral
import Uplift.Text.Split
import Uplift.Text.Word

set_option autoImplicit false

/-! # The summary of an engine

An engine ends its output with a summary: the word `Results:`, counts such as `3 ok` or `1 errors`,
and the time it took. The summary is what follows the last `Results:`. Of counts of one kind the last
one holds, of times the first. Counts are written with the digits of any script; a count that is no
number below `2 ^ 64` in plain digits is zero. -/

namespace Uplift.Summary

open Text

/-! ## Counts -/

/-- What files are counted as. -/
inductive Tally where
  | ok | unmodified | skipped | errors
  deriving DecidableEq, Repr

/-- The word of a count. -/
def Tally.word : Tally → String
  | .ok => "ok"
  | .unmodified => "unmodified"
  | .skipped => "skipped"
  | .errors => "errors"

/-- All words. -/
def Tally.all : List Tally := [.ok, .unmodified, .skipped, .errors]

/-- Whether a word ends before this text. -/
def atWordEnd : List Char → Bool
  | [] => true
  | c :: _ => !isWordChar c

/-- What is counted, if a text starts with the whole word for it. -/
def tallyAt? (cs : List Char) : Option Tally :=
  Tally.all.find? fun k =>
    match dropPrefix? k.word.toList cs with
    | some rest => atWordEnd rest
    | none => false

/-- The value of the digits of a count. -/
def countOf (digits : List Char) : Nat := ((word64Of? digits).map UInt64.toNat).getD 0

/-- The count at the start of a text: digits, blanks, and a word. -/
def countAt? (cs : List Char) : Option (Tally × Nat) :=
  let digits := cs.takeWhile isScriptDigit
  let rest := cs.dropWhile isScriptDigit
  match rest with
  | c :: _ =>
    if isBlank c then (tallyAt? (rest.dropWhile isBlank)).map fun k => (k, countOf digits)
    else none
  | [] => none

/-- The counts of a text in order. A count starts where a run of digits does; `within` says whether
    the character before the text is a digit. -/
def countsFrom (within : Bool) : List Char → List (Tally × Nat)
  | [] => []
  | c :: cs =>
    let rest := countsFrom (isScriptDigit c) cs
    if isScriptDigit c && !within then
      match countAt? (c :: cs) with
      | some count => count :: rest
      | none => rest
    else rest

/-- The counts of a text in order. -/
def counts (cs : List Char) : List (Tally × Nat) := countsFrom false cs

/-- Set a count in a report. -/
def setCount (r : Report) : Tally × Nat → Report
  | (.ok, n) => { r with ok := n }
  | (.unmodified, n) => { r with nochange := n }
  | (.skipped, n) => { r with skip := n }
  | (.errors, n) => { r with error := n }

/-! ## Time -/

/-- The decimal numeral at the start of a text, if there is one. -/
def numeralAt? (cs : List Char) : Option (List Char) :=
  let whole := cs.takeWhile Char.isDigit
  if whole.isEmpty then none
  else match cs.dropWhile Char.isDigit with
    | '.' :: rest =>
      let fraction := rest.takeWhile Char.isDigit
      some (if fraction.isEmpty then whole else whole ++ '.' :: fraction)
    | _ => some whole

/-- The numeral of the time, if the text starts with a time. -/
def timeAt? (cs : List Char) : Option (List Char) :=
  (dropPrefix? "Time elapsed:".toList cs).bind fun rest => numeralAt? (trimLeft rest)

/-- The numeral of the first time of a text. -/
def time? : List Char → Option (List Char)
  | [] => none
  | c :: cs => (timeAt? (c :: cs)).or (time? cs)

/-- The duration that a numeral of seconds stands for. Seconds beyond the range of doubles are left
    out; nothing means that the duration itself is out of range. -/
def durationOf (numeral : List Char) : Option Duration :=
  match Double.read? numeral with
  | some seconds => Duration.ofSeconds? seconds
  | none => some .zero

/-! ## The whole summary -/

/-- The text after the last place of a mark. -/
def afterLast? (mark : List Char) : List Char → Option (List Char)
  | [] => dropPrefix? mark []
  | c :: cs => (afterLast? mark cs).or (dropPrefix? mark (c :: cs))

/-- What the output of an engine says. -/
inductive Reading where
  /-- There is no summary. -/
  | missing
  /-- The time is out of the range of durations. -/
  | overflow
  /-- The counts and the time. -/
  | report (r : Report)
  deriving DecidableEq, Repr

/-- Read the summary in the output of an engine. -/
def read (output : String) : Reading :=
  match afterLast? "Results:".toList output.toList with
  | none => .missing
  | some cs =>
    match ((time? cs).map durationOf).getD (some .zero) with
    | none => .overflow
    | some elapsed => .report { (counts cs).foldl setCount {} with elapsed }

end Uplift.Summary
