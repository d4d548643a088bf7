import ConfigReference.Json.Value
import ConfigReference.Text.Digit
import ConfigReference.Text.Split

/-!
# Reading JSON

The reader takes exactly one value with white space around it.  Control
characters inside strings, lone halves of surrogate pairs and numbers with
leading zeros are refused, and so are numbers of very many digits and a nesting
of more than two hundred containers.  The words for infinities and for no number
are read as numbers.
-/

namespace ConfigReference.Json

open Text

def isSpace (c : Char) : Bool :=
  c = ' ' || c = '\t' || c = '\n' || c = '\r'

def skipSpace (text : List Char) : List Char :=
  text.dropWhile isSpace

/-- The character that a one-letter escape stands for. -/
def shortEscape? (mark : Char) : Option Char :=
  if mark = '\"' then some '\"'
  else if mark = '\\' then some '\\'
  else if mark = '/' then some '/'
  else if mark = 'b' then some '\x08'
  else if mark = 'f' then some '\x0c'
  else if mark = 'n' then some '\n'
  else if mark = 'r' then some '\r'
  else if mark = 't' then some '\t'
  else none

/-- The number of four hexadecimal digits. -/
def codeUnit? (a b c d : Char) : Option Nat := do
  return ofDigits 16 [← asciiHex? a, ← asciiHex? b, ← asciiHex? c, ← asciiHex? d]

def isHighSurrogate (unit : Nat) : Bool :=
  0xD800 ≤ unit && unit ≤ 0xDBFF

def isLowSurrogate (unit : Nat) : Bool :=
  0xDC00 ≤ unit && unit ≤ 0xDFFF

/-- The code point of a surrogate pair. -/
def pairedCode (high low : Nat) : Nat :=
  0x10000 + (high - 0xD800) * 0x400 + (low - 0xDC00)

def prepend (c : Char) : Option (List Char × List Char) → Option (List Char × List Char) :=
  Option.map fun result => (c :: result.1, result.2)

/-- The characters of a string up to its closing quote, and what follows it. -/
def stringBody : List Char → Option (List Char × List Char)
  | [] => none
  | '\"' :: rest => some ([], rest)
  | '\\' :: mark :: rest =>
    if mark = 'u' then
      match rest with
      | a :: b :: c :: d :: rest =>
        match codeUnit? a b c d with
        | none => none
        | some unit =>
          if isHighSurrogate unit then
            match rest with
            | '\\' :: 'u' :: a :: b :: c :: d :: rest =>
              match codeUnit? a b c d with
              | none => none
              | some low =>
                if isLowSurrogate low then
                  prepend (Char.ofNat (pairedCode unit low)) (stringBody rest)
                else none
            | _ => none
          else if isLowSurrogate unit then none
          else prepend (Char.ofNat unit) (stringBody rest)
      | _ => none
    else
      match shortEscape? mark with
      | none => none
      | some c => prepend c (stringBody rest)
  | c :: rest => if c.toNat < 0x20 then none else prepend c (stringBody rest)

def natural (digits : List Char) : Nat :=
  ofDigits 10 (digits.map fun digit => digit.toNat - '0'.toNat)

/-- A digit row and what follows it; an empty row is none. -/
def digitRow? (text : List Char) : Option (List Char × List Char) :=
  match text.takeWhile isDigit with
  | [] => none
  | digits => some (digits, text.dropWhile isDigit)

/-- The digits before a fraction, which have no leading zero. -/
def wholePart? (text : List Char) : Option (List Char × List Char) :=
  match digitRow? text with
  | some ('0' :: _ :: _, _) => none
  | result => result

/-- The digits of a fraction, if there is one. -/
def fraction? : List Char → Option (Option (List Char) × List Char)
  | '.' :: rest => (digitRow? rest).map fun (digits, rest) => (some digits, rest)
  | text => some (none, text)

def exponentDigits? (negative : Bool) (text : List Char) : Option (Option Int × List Char) :=
  (digitRow? text).map fun (digits, rest) =>
    (some (if negative then -(natural digits : Int) else natural digits), rest)

/-- The exponent, if there is one. -/
def exponent? : List Char → Option (Option Int × List Char)
  | c :: rest =>
    if c = 'e' || c = 'E' then
      match rest with
      | '+' :: rest => exponentDigits? false rest
      | '-' :: rest => exponentDigits? true rest
      | rest => exponentDigits? false rest
    else some (none, c :: rest)
  | [] => some (none, [])

/-- The greatest number of digits that may stand before a fraction. -/
def digitLimit : Nat := 4300

/-- A number after its sign. -/
def unsigned? (negative : Bool) (text : List Char) : Option (Json × List Char) := do
  let (whole, text) ← wholePart? text
  guard (whole.length ≤ digitLimit)
  let (fraction, text) ← fraction? text
  let (exponent, text) ← exponent? text
  let sign : Int := if negative then -1 else 1
  match fraction, exponent with
  | none, none => return (.integer (sign * natural whole), text)
  | _, _ =>
    let places := fraction.getD []
    return (.decimal (sign * natural (whole ++ places)) (exponent.getD 0 - places.length), text)

def number? : List Char → Option (Json × List Char)
  | '-' :: rest =>
    match after? "Infinity".toList rest with
    | some rest => some (.nonFinite, rest)
    | none => unsigned? true rest
  | text => unsigned? false text

/-- The values that are written as words. -/
def words : List (List Char × Json) :=
  [("null".toList, .null), ("true".toList, .bool true), ("false".toList, .bool false),
   ("NaN".toList, .nonFinite), ("Infinity".toList, .nonFinite)]

def word? (text : List Char) : Option (Json × List Char) :=
  words.findSome? fun (word, value) => (after? word text).map fun rest => (value, rest)

mutual

/-- One value, within a budget of steps and of nested containers. -/
def value? (steps depth : Nat) (text : List Char) : Option (Json × List Char) :=
  match steps with
  | 0 => none
  | steps + 1 =>
    match skipSpace text with
    | '\"' :: rest => (stringBody rest).map fun (chars, rest) => (.string (String.ofList chars), rest)
    | '[' :: rest =>
      match skipSpace rest with
      | ']' :: rest => some (.list [], rest)
      | _ =>
        match depth with
        | 0 => none
        | depth + 1 => (items? steps depth rest).map fun (items, rest) => (.list items, rest)
    | '\x7b' :: rest =>
      match skipSpace rest with
      | '\x7d' :: rest => some (.object [], rest)
      | _ =>
        match depth with
        | 0 => none
        | depth + 1 => (members? steps depth rest).map fun (members, rest) => (.object members, rest)
    | text => (word? text).orElse fun _ => number? text

/-- The items of a list up to its closing bracket. -/
def items? (steps depth : Nat) (text : List Char) : Option (List Json × List Char) :=
  match steps with
  | 0 => none
  | steps + 1 =>
    match value? steps depth text with
    | none => none
    | some (item, rest) =>
      match skipSpace rest with
      | ',' :: rest => (items? steps depth rest).map fun (items, rest) => (item :: items, rest)
      | ']' :: rest => some ([item], rest)
      | _ => none

/-- The members of an object up to its closing brace. -/
def members? (steps depth : Nat) (text : List Char) :
    Option (List (String × Json) × List Char) :=
  match steps with
  | 0 => none
  | steps + 1 =>
    match skipSpace text with
    | '\"' :: rest =>
      match stringBody rest with
      | none => none
      | some (name, rest) =>
        match skipSpace rest with
        | ':' :: rest =>
          match value? steps depth rest with
          | none => none
          | some (value, rest) =>
            match skipSpace rest with
            | ',' :: rest =>
              (members? steps depth rest).map fun (members, rest) =>
                ((String.ofList name, value) :: members, rest)
            | '\x7d' :: rest => some ([(String.ofList name, value)], rest)
            | _ => none
        | _ => none
    | _ => none

end

/-- The greatest number of containers that may be nested. -/
def nestingLimit : Nat := 200

/-- The value of a whole text.  Each step of the reader takes a character or
prepares to take one, so twice the length bounds their number. -/
def parse? (text : List Char) : Option Json :=
  match value? (2 * text.length + 2) nestingLimit text with
  | some (value, rest) => if (skipSpace rest).isEmpty then some value else none
  | none => none

end ConfigReference.Json
