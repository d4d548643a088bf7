import ConfigReference.Literal.Fault
import ConfigReference.Text.Name
import ConfigReference.Text.Split

/-!
# Numbers in literals

A number is written in decimal, with a fraction and an exponent if it has them,
or in one of three other notations of integers, which begin with a zero and a
letter.  A single underscore may stand between digits.  No name may follow a
number directly, except for the words that join expressions.
-/

namespace ConfigReference.Literal

open Text

/-- The numbers, as far as literals tell them apart. -/
inductive Number
  | integer (value : Nat)
  /-- An integer with more digits than are read. -/
  | oversized (digits : Nat)
  | decimal
  | imaginary
  deriving DecidableEq, Repr

/-- Whether a character may belong to a name as far as its first octet shows. -/
def mayBeInName (c : Char) : Bool :=
  !isAscii c || isNameChar c

/-- The words that may follow a number without a blank. -/
def joiningWords : List String :=
  ["and", "else", "for", "or", "not"]

/-- Whether a joining word stands at the beginning of a text. -/
def joins (text : List Char) : Bool :=
  match text with
  | 'i' :: c :: _ => c = 'f' || c = 'n' || c = 's'
  | _ => joiningWords.any fun word =>
    match after? word.toList text with
    | some rest => !rest.head?.any mayBeInName
    | none => false

/-- What follows a number, if that may follow it. -/
def endNumber (numeral : Numeral) (text : List Char) : Except Fault (List Char) :=
  if joins text || !text.head?.any fun c => isAscii c && isNameChar c then .ok text
  else .error (.malformedNumber numeral)

/-- More digits of a number, and what follows them.  An underscore needs a digit
after it. -/
def moreDigits (isOne : Char → Bool) (fault : Option Char → Fault) :
    List Char → Except Fault (List Char × List Char)
  | [] => .ok ([], [])
  | ['_'] => .error (fault none)
  | '_' :: c :: rest =>
    if isOne c then (moreDigits isOne fault rest).map fun (digits, rest) => (c :: digits, rest)
    else .error (fault (some c))
  | c :: rest =>
    if isOne c then (moreDigits isOne fault rest).map fun (digits, rest) => (c :: digits, rest)
    else .ok ([], c :: rest)

def decimalDigits (text : List Char) : Except Fault (List Char × List Char) :=
  moreDigits isDigit (fun _ => .malformedNumber .decimal) text

/-- The fault of a character that is no digit of a notation. -/
def digitFault (numeral : Numeral) (c : Option Char) : Fault :=
  match c with
  | some c =>
    if isDigit c && numeral ≠ .hexadecimal then .digitOutOfRange c numeral
    else .malformedNumber numeral
  | none => .malformedNumber numeral

/-- An integer after the letter of its notation. -/
def radixInteger (numeral : Numeral) (base : Nat) (text : List Char) :
    Except Fault (Number × List Char) := do
  let isOne (c : Char) : Bool := (asciiHex? c).any (· < base)
  let start := match text with
    | '_' :: rest => rest
    | _ => text
  if !start.head?.any isOne then throw (digitFault numeral start.head?)
  let (digits, rest) ← moreDigits isOne (digitFault numeral) start
  if rest.head?.any isDigit then throw (digitFault numeral rest.head?)
  return (.integer (ofDigits base (digits.filterMap asciiHex?)), ← endNumber numeral rest)

/-- The end of a number that has a fraction or an exponent, or none of them. -/
def imaginaryEnd (number : Number) (text : List Char) : Except Fault (Number × List Char) := do
  match text with
  | c :: rest =>
    if c = 'j' || c = 'J' then return (.imaginary, ← endNumber .imaginary rest)
    else return (number, ← endNumber .decimal text)
  | [] => return (number, [])

/-- The exponent of a number, if it has one.  A letter without a digit after it
is no exponent. -/
def exponentEnd (number : Number) (text : List Char) : Except Fault (Number × List Char) := do
  match text with
  | c :: rest =>
    if c = 'e' || c = 'E' then
      match rest with
      | sign :: digits =>
        if sign = '+' || sign = '-' then
          if digits.head?.any isDigit then
            imaginaryEnd .decimal (← decimalDigits digits).2
          else throw (.malformedNumber .decimal)
        else if isDigit sign then imaginaryEnd .decimal (← decimalDigits rest).2
        else return (number, ← endNumber .decimal text)
      | [] => return (number, ← endNumber .decimal text)
    else imaginaryEnd number text
  | [] => return (number, [])

/-- The fraction of a number, after its point. -/
def fractionEnd (text : List Char) : Except Fault (Number × List Char) := do
  if text.head?.any isDigit then exponentEnd .decimal (← decimalDigits text).2
  else exponentEnd .decimal text

def ofDecimalDigits (digits : List Char) : Number :=
  if digitLimit < digits.length then .oversized digits.length
  else .integer (ofDigits 10 (digits.filterMap asciiHex?))

/-- A number in decimal. -/
def decimalNumber (text : List Char) : Except Fault (Number × List Char) := do
  let (digits, rest) ← decimalDigits text
  match rest with
  | '.' :: rest => fractionEnd rest
  | _ =>
    let hasZeros := digits.head? = some '0' && digits.any (· ≠ '0')
    if hasZeros && !rest.head?.any (· ∈ ['e', 'E', 'j', 'J']) then throw .leadingZeros
    exponentEnd (ofDecimalDigits digits) rest

/-- The number at the beginning of a text that begins with a digit, and what
follows it. -/
def readNumber (text : List Char) : Except Fault (Number × List Char) :=
  match text with
  | '0' :: c :: rest =>
    if c = 'x' || c = 'X' then radixInteger .hexadecimal 16 rest
    else if c = 'o' || c = 'O' then radixInteger .octal 8 rest
    else if c = 'b' || c = 'B' then radixInteger .binary 2 rest
    else decimalNumber text
  | _ => decimalNumber text

end ConfigReference.Literal
