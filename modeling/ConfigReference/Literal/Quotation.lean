import ConfigReference.Literal.Fault
import ConfigReference.Text.CharacterName
import ConfigReference.Text.Name

/-!
# Texts in literals

A text stands between quotes, or between threefold quotes if it has several
lines.  Letters before the quotes say what it is made of: octets instead of
characters, backslashes that escape nothing, or fields that are filled in.
-/

namespace ConfigReference.Literal

open Text

structure Quotation where
  /-- The letters before the quotes, in lower case. -/
  letters : String
  body : List Char
  deriving DecidableEq, Repr

namespace Quotation

def isOctets (quotation : Quotation) : Bool :=
  'b' ∈ quotation.letters.toList

def isRaw (quotation : Quotation) : Bool :=
  'r' ∈ quotation.letters.toList

/-- Whether the text has fields. -/
def isFormatted (quotation : Quotation) : Bool :=
  'f' ∈ quotation.letters.toList

/-- The letters that can stand before quotes. -/
def letterings : List String :=
  ["", "b", "u", "r", "f", "br", "rb", "fr", "rf"]

/-- The escapes that give a character by its code, with their numbers of digits. -/
def codeEscapes : List (Char × Nat × EscapeFault) :=
  [('x', 2, .shortOctet), ('u', 4, .shortUnit), ('U', 8, .shortCode)]

/-- The number of positions that a character takes up where faults of escapes are
located: a character beyond ASCII counts as its longest escape. -/
def breadth (c : Char) : Nat :=
  if isAscii c then 1 else 10

/-- The number of positions that a text takes up.  A backslash before a character
beyond ASCII counts as an escape itself. -/
def extent : List Char → Nat
  | [] => 0
  | [c] => breadth c
  | c :: d :: rest => (if c = '\\' && !isAscii d then 6 else breadth c) + extent (d :: rest)

/-- The escape at a position whose backslash is followed by the given text. -/
def escapeFault? (position : Nat) (text : List Char) : Option Fault :=
  match text with
  | [] => none
  | 'N' :: '\x7b' :: name =>
    let inside := name.takeWhile (· ≠ '\x7d')
    let reached := position + 3 + extent inside
    if inside.length = name.length then
      some (.textEscape position (reached - 1) .malformedName)
    else if inside.isEmpty then some (.textEscape position (reached - 1) .malformedName)
    else if isCharacterName inside then none
    else some (.textEscape position reached .unknownName)
  | 'N' :: _ => some (.textEscape position (position + 1) .malformedName)
  | letter :: rest =>
    match codeEscapes.find? fun escape => escape.1 = letter with
    | none => none
    | some (_, count, fault) =>
      let digits := (rest.take count).takeWhile fun c => (asciiHex? c).isSome
      if digits.length < count then
        some (.textEscape position (position + 1 + digits.length) fault)
      else if 0x110000 ≤ ofDigits 16 (digits.filterMap asciiHex?) then
        some (.textEscape position (position + 1 + count) .noCharacter)
      else none

/-- The first fault of the escapes in a text that begins at a position. -/
def escapesFault? (position : Nat) : List Char → Option Fault
  | [] => none
  | '\\' :: c :: rest =>
    match escapeFault? position (c :: rest) with
    | some fault => some fault
    | none =>
      let width := if isAscii c then 2 else 16
      escapesFault? (position + width) rest
  | c :: rest => escapesFault? (position + breadth c) rest

/-- The first fault of the escapes in octets that begin at a position. -/
def octetsFault? (position : Nat) : List Char → Option Fault
  | [] => none
  | '\\' :: 'x' :: rest =>
    if (rest.take 2).length = 2 && (rest.take 2).all fun c => (asciiHex? c).isSome then
      octetsFault? (position + 2) rest
    else some (.octetEscape position)
  | '\\' :: _ :: rest => octetsFault? (position + 2) rest
  | _ :: rest => octetsFault? (position + 1) rest

/-- The fault of a text without fields by itself. -/
def fault? (quotation : Quotation) : Option Fault :=
  if quotation.isOctets then
    if quotation.body.any fun c => !isAscii c then some .foreignOctet
    else if quotation.isRaw then none
    else octetsFault? 0 quotation.body
  else if quotation.isRaw then none
  else escapesFault? 0 quotation.body

end Quotation

/-- What stands between single quotes, what follows, and the number of line ends
in it.  A backslash takes the next character along. -/
def singleBody? (mark : Char) (line : Nat) :
    List Char → Except Fault (List Char × List Char × Nat)
  | [] => .error (.openText line)
  | ['\\'] => .error (.openText line)
  | '\\' :: c :: rest =>
    (singleBody? mark (if c = '\n' then line + 1 else line) rest).map fun (body, rest, line) =>
      ('\\' :: c :: body, rest, line)
  | c :: rest =>
    if c = '\n' then .error (.openText line)
    else if c = mark then .ok ([], rest, line)
    else (singleBody? mark line rest).map fun (body, rest, line) => (c :: body, rest, line)

/-- What stands between threefold quotes, what follows, and the line on which it
ends. -/
def longBody? (mark : Char) (line : Nat) :
    List Char → Except Fault (List Char × List Char × Nat)
  | [] => .error (.openLongText line)
  | ['\\'] => .error (.openLongText line)
  | '\\' :: c :: rest =>
    (longBody? mark (if c = '\n' then line + 1 else line) rest).map fun (body, rest, line) =>
      ('\\' :: c :: body, rest, line)
  | c :: rest =>
    if c = mark && rest.take 2 = [mark, mark] then .ok ([], rest.drop 2, line)
    else
      (longBody? mark (if c = '\n' then line + 1 else line) rest).map fun (body, rest, line) =>
        (c :: body, rest, line)

/-- What stands between the quotes that begin a text, what follows, and the line
on which it ends. -/
def quotedBody? (mark : Char) (line : Nat) (text : List Char) :
    Except Fault (List Char × List Char × Nat) :=
  match text with
  | first :: second :: third :: rest =>
    if second = mark && third = mark then longBody? first line rest
    else singleBody? first line (second :: third :: rest)
  | _ :: rest => singleBody? mark line rest
  | [] => .error (.openText line)

end ConfigReference.Literal
