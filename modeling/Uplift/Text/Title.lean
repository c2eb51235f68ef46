import Uplift.Text.Case
import Uplift.Text.Letter
import Uplift.Text.Split

set_option autoImplicit false

/-! # Title case

The name of a codemod is shown as a title: `rename-entryPoint` becomes `Rename Entry Point`. Words
end at every character that is no letter and no number, between a lower-case and an upper-case
letter, and before the last upper-case letter of a run that goes on in lower case. Numbers belong to
the word before them. -/

namespace Uplift.Text

/-- The case of the word so far. -/
inductive WordCase where
  | none
  | lower
  | upper
  deriving DecidableEq, Repr

/-- The case of a word after one more character; numbers do not change it. -/
def WordCase.next (mode : WordCase) (c : Char) : WordCase :=
  if isLowercase c then .lower else if isUppercase c then .upper else mode

/-- Cut a run of letters and numbers into words. `word` is the word so far. -/
def cutRun : WordCase → List Char → List Char → List (List Char)
  | _, _, [] => []
  | _, word, [c] => [word ++ [c]]
  | mode, word, c :: d :: rest =>
    if mode.next c = .lower && isUppercase d then
      (word ++ [c]) :: cutRun .none [] (d :: rest)
    else if mode = .upper && isUppercase c && isLowercase d then
      word :: cutRun .none [c] (d :: rest)
    else cutRun (mode.next c) (word ++ [c]) (d :: rest)

/-- The words of a name. -/
def titleWords (cs : List Char) : List (List Char) :=
  (splitWhere (fun c => !isAlphanumeric c) cs).flatMap (cutRun .none [])

/-- The tail of a word in lower case; a sigma at the end has its final form. -/
def lowerTail : List Char → List Char
  | [] => []
  | [c] => if c = 'Σ' then ['ς'] else lowerCase c
  | c :: cs => lowerCase c ++ lowerTail cs

/-- A word with its first character in upper case and the others in lower case. -/
def capitalize : List Char → List Char
  | [] => []
  | c :: cs => upperCase c ++ lowerTail cs

/-- A name in title case. -/
def titleCase (name : String) : String :=
  String.ofList (List.intercalate [' '] ((titleWords name.toList).map capitalize))

end Uplift.Text
