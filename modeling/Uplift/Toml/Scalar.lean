import Uplift.Double.Reader
import Uplift.Json.Parser
import Uplift.Text.Split
import Uplift.Toml

set_option autoImplicit false

/-! # TOML scalars

Strings come with or without escapes, on one line or on several. Everything else that is no array and
no table is a run of characters without blanks, except that a blank may stand between a date and a
time. Digits may have an underscore between any two of them. -/

namespace Uplift.Toml

open Text

/-! ## Characters -/

/-- Blanks within a line. -/
def isSpace (c : Char) : Bool := c == ' ' || c == '\t'

/-- Characters that may stand in comments and strings. -/
def isTextChar (c : Char) : Bool := c == '\t' || (0x20 ≤ c.toNat && c.toNat ≠ 0x7F)

/-- The text after the blanks of a line. -/
def skipSpace (cs : List Char) : List Char := cs.dropWhile isSpace

/-- The text after a line end, if it starts with one. -/
def lineEnd? : List Char → Option (List Char)
  | '\n' :: rest => some rest
  | '\r' :: '\n' :: rest => some rest
  | _ => none

/-! ## Strings -/

/-- The number of hexadecimal digits. -/
def hexOf? (cs : List Char) : Option Nat :=
  cs.foldlM (fun n c => (Json.hexValue? c).map (16 * n + ·)) 0

/-- The character with a number, which is no surrogate. -/
def scalarOf? (n : Nat) : Option Char :=
  if n < 0xD800 ∨ (0xDFFF < n ∧ n ≤ 0x10FFFF) then some (Char.ofNat n) else none

/-- The character of an escape after the backslash, and the text after it. -/
def escape? : List Char → Option (Char × List Char)
  | 'b' :: rest => some ('\x08', rest)
  | 't' :: rest => some ('\t', rest)
  | 'n' :: rest => some ('\n', rest)
  | 'f' :: rest => some ('\x0c', rest)
  | 'r' :: rest => some ('\r', rest)
  | 'e' :: rest => some ('\x1b', rest)
  | '"' :: rest => some ('"', rest)
  | '\\' :: rest => some ('\\', rest)
  | 'x' :: rest => coded 2 rest
  | 'u' :: rest => coded 4 rest
  | 'U' :: rest => coded 8 rest
  | _ => none
where
  /-- A character by a number of this many hexadecimal digits. -/
  coded (width : Nat) (cs : List Char) : Option (Char × List Char) := do
    if cs.length < width then none
    else
      let c ← (hexOf? (cs.take width)).bind scalarOf?
      return (c, cs.drop width)

/-- Put a character in front of what the rest reads as. -/
def consTo (c : Char) : Option (List Char × List Char) → Option (List Char × List Char) :=
  Option.map fun (cs, rest) => (c :: cs, rest)

/-- A string with escapes on one line, up to its closing quote. -/
def basic : Nat → List Char → Option (List Char × List Char)
  | 0, _ => none
  | fuel + 1, cs =>
    match cs with
    | '"' :: rest => some ([], rest)
    | '\\' :: rest => (escape? rest).bind fun (c, rest) => consTo c (basic fuel rest)
    | c :: rest => if isTextChar c then consTo c (basic fuel rest) else none
    | [] => none

/-- A string without escapes on one line, up to its closing quote. -/
def literal : List Char → Option (List Char × List Char)
  | '\'' :: rest => some ([], rest)
  | c :: rest => if isTextChar c then consTo c (literal rest) else none
  | [] => none

/-- The closing quotes of a string on several lines: up to two more of them belong to the string. -/
def closing? (quote : Char) (cs : List Char) : Option (List Char × List Char) :=
  let quotes := (cs.take 5).takeWhile (· == quote)
  if quotes.length < 3 then none else some (quotes.drop 3, cs.drop quotes.length)

/-- The text after the blanks and line ends that a backslash at the end of a line swallows. -/
def skipFold (cs : List Char) : List Char :=
  cs.dropWhile fun c => isSpace c || c == '\n' || c == '\r'

/-- The text after a backslash at the end of a line. -/
def fold? (cs : List Char) : Option (List Char) :=
  (lineEnd? (skipSpace cs)).map skipFold

/-- A string on several lines, up to its closing quotes. -/
def multiline (quote : Char) : Nat → List Char → Option (List Char × List Char)
  | 0, _ => none
  | fuel + 1, cs =>
    match closing? quote cs with
    | some done => some done
    | none =>
      match cs with
      | '\\' :: rest =>
        if quote == '"' then
          match fold? rest with
          | some rest => multiline quote fuel rest
          | none => (escape? rest).bind fun (c, rest) => consTo c (multiline quote fuel rest)
        else consTo '\\' (multiline quote fuel rest)
      | '\n' :: rest => consTo '\n' (multiline quote fuel rest)
      | '\r' :: '\n' :: rest => consTo '\r' (consTo '\n' (multiline quote fuel rest))
      | c :: rest => if isTextChar c then consTo c (multiline quote fuel rest) else none
      | [] => none

/-- A string on one line, if the text starts with one. -/
def shortString? : List Char → Option (List Char × List Char)
  | '"' :: rest => basic rest.length rest
  | '\'' :: rest => literal rest
  | _ => none

/-- A string, if the text starts with one. A line end right after three quotes is left out. -/
def string? : List Char → Option (List Char × List Char)
  | '"' :: '"' :: '"' :: rest =>
    let rest := (lineEnd? rest).getD rest
    multiline '"' rest.length rest
  | '\'' :: '\'' :: '\'' :: rest =>
    let rest := (lineEnd? rest).getD rest
    multiline '\'' rest.length rest
  | cs => shortString? cs

/-! ## Numbers -/

/-- The digits of a numeral without its underscores, each of which has to stand between digits. -/
def digits? (isDigit : Char → Bool) (cs : List Char) : Option (List Char) :=
  let groups := splitAt '_' cs
  if groups.all fun g => !g.isEmpty && g.all isDigit then some groups.flatten else none

/-- The digits of a decimal numeral, which has no leading zeros. -/
def decimal? (cs : List Char) : Option (List Char) := (digits? Char.isDigit cs).filter isCanonical

/-- A sign and the text after it. -/
def signed : List Char → Bool × List Char
  | '-' :: rest => (true, rest)
  | '+' :: rest => (false, rest)
  | cs => (false, cs)

/-- An integer: decimal with a sign, or in base sixteen, eight or two without one. -/
def int? : List Char → Option Int
  | '0' :: 'x' :: rest => based 16 rest
  | '0' :: 'o' :: rest => based 8 rest
  | '0' :: 'b' :: rest => based 2 rest
  | cs =>
    let (negative, cs) := signed cs
    (decimal? cs).map fun ds => if negative then -(ofDigits ds : Int) else ofDigits ds
where
  /-- An integer in a base. -/
  based (base : Nat) (cs : List Char) : Option Int := do
    let isDigit (c : Char) : Bool := match Json.hexValue? c with
      | some n => n < base
      | none => false
    let ds ← digits? isDigit cs
    return ds.foldl (fun n c => base * n + (Json.hexValue? c).getD 0) 0

/-- The two parts of a text around its first exponent mark. -/
def splitExponent (cs : List Char) : List Char × Option (List Char) :=
  match cs.dropWhile fun c => c != 'e' && c != 'E' with
  | _ :: exponent => (cs.takeWhile fun c => c != 'e' && c != 'E', some exponent)
  | [] => (cs, none)

/-- A float: a decimal with a fraction, an exponent or both, or one of the special values. -/
def float? (cs : List Char) : Option (Option Double) := do
  let (negative, rest) := signed cs
  if rest = "inf".toList ∨ rest = "nan".toList then return some Double.zero
  let (mantissa, exponent) := splitExponent rest
  let (whole, fraction) := match splitFirst '.' mantissa with
    | some (whole, fraction) => (whole, some fraction)
    | none => (mantissa, none)
  if fraction.isNone && exponent.isNone then none
  let whole ← decimal? whole
  let fraction ← fraction.mapM (digits? Char.isDigit)
  let exponent ← exponent.mapM fun e => do
    let (negative, e) := signed e
    let ds ← digits? Char.isDigit e
    return if negative then '-' :: ds else ds
  return Double.read? ((if negative then ['-'] else []) ++ whole
    ++ (fraction.map ('.' :: ·)).getD [] ++ (exponent.map ('e' :: ·)).getD [])

/-! ## Dates and times -/

/-- The number of exactly so many digits at the front of a text. -/
def fixed? (width : Nat) (cs : List Char) : Option (Nat × List Char) :=
  let ds := cs.take width
  if ds.length = width && ds.all Char.isDigit then some (ofDigits ds, cs.drop width) else none

/-- The days of a month. -/
def daysIn (year month : Nat) : Nat :=
  if month = 2 then
    if year % 4 = 0 && (year % 100 ≠ 0 || year % 400 = 0) then 29 else 28
  else if [4, 6, 9, 11].contains month then 30
  else 31

/-- The text after a date. -/
def date? (cs : List Char) : Option (List Char) := do
  let (year, cs) ← fixed? 4 cs
  let cs ← dropPrefix? ['-'] cs
  let (month, cs) ← fixed? 2 cs
  let cs ← dropPrefix? ['-'] cs
  let (day, cs) ← fixed? 2 cs
  if 1 ≤ month ∧ month ≤ 12 ∧ 1 ≤ day ∧ day ≤ daysIn year month then some cs else none

/-- The text after the seconds of a time, which may be missing. -/
def seconds? : List Char → Option (List Char)
  | ':' :: cs => do
    let (second, cs) ← fixed? 2 cs
    if 60 < second then none
    match cs with
    | '.' :: cs =>
      let rest := cs.dropWhile Char.isDigit
      if rest.length = cs.length then none else some rest
    | cs => some cs
  | cs => some cs

/-- The text after a time. -/
def time? (cs : List Char) : Option (List Char) := do
  let (hour, cs) ← fixed? 2 cs
  let cs ← dropPrefix? [':'] cs
  let (minute, cs) ← fixed? 2 cs
  if 23 < hour ∨ 59 < minute then none
  seconds? cs

/-- The text after the offset of a time, which may be missing. -/
def offset? : List Char → Option (List Char)
  | 'Z' :: cs => some cs
  | 'z' :: cs => some cs
  | c :: cs =>
    if c = '+' ∨ c = '-' then do
      let (hour, cs) ← fixed? 2 cs
      let cs ← dropPrefix? [':'] cs
      let (minute, cs) ← fixed? 2 cs
      if 59 < minute ∨ 24 * 60 < 60 * hour + minute then none
      return cs
    else some (c :: cs)
  | [] => some []

/-- Whether a text is a time. -/
def isTime (cs : List Char) : Bool := time? cs == some []

/-- Whether a text is a time with or without an offset. -/
def isOffsetTime (cs : List Char) : Bool := ((time? cs).bind offset?) == some []

/-- Whether a text is a date. -/
def isDate (cs : List Char) : Bool := date? cs == some []

/-- Whether a text is a date and a time with a letter between them. -/
def isDateTime (cs : List Char) : Bool :=
  match date? cs with
  | some (c :: cs) => (c == 'T' || c == 't') && isOffsetTime cs
  | _ => false

/-! ## Words -/

/-- Whether a character can be part of a word: a value that is no string, array or table. -/
def isWordPart (c : Char) : Bool :=
  !(isSpace c || [',', '[', ']', '\x7b', '\x7d', '#', '=', '"', '\'', '\n', '\r'].contains c)

/-- The value of a word. -/
def ofWord? (cs : List Char) : Option Toml :=
  if cs = "true".toList then some (.bool true)
  else if cs = "false".toList then some (.bool false)
  else if isDate cs || isTime cs || isDateTime cs then some (.moment (String.ofList cs))
  else match int? cs with
    | some i => some (.int i)
    | none => (float? cs).map .float

/-- A scalar and the text after it. -/
def scalar? (cs : List Char) : Option (Toml × List Char) :=
  if cs.head? = some '"' ∨ cs.head? = some '\'' then
    (string? cs).map fun (s, rest) => (.str (String.ofList s), rest)
  else
    let word := cs.takeWhile isWordPart
    let rest := cs.dropWhile isWordPart
    let time := (rest.drop 1).takeWhile isWordPart
    if isDate word && rest.head? == some ' ' && isOffsetTime time then
      some (.moment (String.ofList (word ++ ' ' :: time)), (rest.drop 1).dropWhile isWordPart)
    else (ofWord? word).map (·, rest)

end Uplift.Toml
