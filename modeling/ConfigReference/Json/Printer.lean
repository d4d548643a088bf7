import ConfigReference.Json.Value
import ConfigReference.Text.Digit
import ConfigReference.Text.Split

/-!
# Writing JSON

Two forms are written: an indented one, which leaves every character but the
controls as it is, and a form on one line in ASCII.
-/

namespace ConfigReference.Json

open Text

/-- The escapes that are the same in both forms. -/
def sharedEscape? (c : Char) : Option (List Char) :=
  if c = '\"' then some ['\\', '\"']
  else if c = '\\' then some ['\\', '\\']
  else if c = '\x08' then some ['\\', 'b']
  else if c = '\x0c' then some ['\\', 'f']
  else if c = '\n' then some ['\\', 'n']
  else if c = '\r' then some ['\\', 'r']
  else if c = '\t' then some ['\\', 't']
  else none

def unitEscape (unit : Nat) : List Char :=
  '\\' :: 'u' :: (hexText 4 unit).toList

/-- The written form of a character that only escapes controls. -/
def plainChar (c : Char) : List Char :=
  match sharedEscape? c with
  | some escape => escape
  | none => if c.toNat < 0x20 then unitEscape c.toNat else [c]

/-- The written form of a character in visible ASCII; a character beyond the
basic plane is written as a surrogate pair. -/
def asciiChar (c : Char) : List Char :=
  match sharedEscape? c with
  | some escape => escape
  | none =>
    let code := c.toNat
    if 0x20 ≤ code ∧ code < 0x7F then [c]
    else if code < 0x10000 then unitEscape code
    else
      unitEscape (0xD800 + (code - 0x10000) / 0x400) ++
        unitEscape (0xDC00 + (code - 0x10000) % 0x400)

def stringWith (char : Char → List Char) (text : String) : List Char :=
  '\"' :: text.toList.flatMap char ++ ['\"']

/-- The written form of a value that contains no other. -/
def leaf (char : Char → List Char) : Json → List Char
  | .null => "null".toList
  | .bool true => "true".toList
  | .bool false => "false".toList
  | .integer value => (toString value).toList
  | .decimal mantissa exponent => (toString mantissa).toList ++ 'e' :: (toString exponent).toList
  | .nonFinite => "NaN".toList
  | .string value => stringWith char value
  | .list _ => "[]".toList
  | .object _ => ['\x7b', '\x7d']

/-- A new line at an indentation of two blanks for each level. -/
def newLine (level : Nat) : List Char :=
  '\n' :: List.replicate (2 * level) ' '

mutual

/-- The indented form of a value whose first line stands at the given level. -/
def indented (level : Nat) : Json → List Char
  | .list (item :: items) =>
    '[' :: newLine (level + 1) ++ indented (level + 1) item ++
      indentedItems (level + 1) items ++ newLine level ++ [']']
  | .object ((name, value) :: members) =>
    '\x7b' :: newLine (level + 1) ++ stringWith plainChar name ++ ": ".toList ++
      indented (level + 1) value ++ indentedMembers (level + 1) members ++
      newLine level ++ ['\x7d']
  | value => leaf plainChar value

/-- The items after the first, each on a line of its own. -/
def indentedItems (level : Nat) : List Json → List Char
  | [] => []
  | item :: items => ',' :: newLine level ++ indented level item ++ indentedItems level items

/-- The members after the first, each on a line of its own. -/
def indentedMembers (level : Nat) : List (String × Json) → List Char
  | [] => []
  | (name, value) :: members =>
    ',' :: newLine level ++ stringWith plainChar name ++ ": ".toList ++ indented level value ++
      indentedMembers level members

end

mutual

/-- The form on one line, in ASCII. -/
def inlined : Json → List Char
  | .list (item :: items) => '[' :: inlined item ++ inlinedItems items ++ [']']
  | .object ((name, value) :: members) =>
    '\x7b' :: stringWith asciiChar name ++ ": ".toList ++ inlined value ++
      inlinedMembers members ++ ['\x7d']
  | value => leaf asciiChar value

def inlinedItems : List Json → List Char
  | [] => []
  | item :: items => ", ".toList ++ inlined item ++ inlinedItems items

def inlinedMembers : List (String × Json) → List Char
  | [] => []
  | (name, value) :: members =>
    ", ".toList ++ stringWith asciiChar name ++ ": ".toList ++ inlined value ++
      inlinedMembers members

end

/-- The text of a value over several lines. -/
def toIndented (value : Json) : String :=
  String.ofList (indented 0 value)

/-- The text of a value on one line. -/
def toLine (value : Json) : String :=
  String.ofList (inlined value)

end ConfigReference.Json
