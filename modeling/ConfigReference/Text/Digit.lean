/-!
# Digits and numerals

A numeral is a row of digits in which a single underscore may stand before any
digit.  Its digits may come from any script that has decimal digits, and a
hexadecimal numeral also has the letters a to f.
-/

namespace ConfigReference.Text

/-- The digits zero of the scripts that have decimal digits; the digits one to
nine follow each of them. -/
def decimalZeros : List Nat :=
  [48, 1632, 1776, 1984, 2406, 2534, 2662, 2790, 2918, 3046, 3174, 3302, 3430, 3558, 3664, 3792,
   3872, 4160, 4240, 6112, 6160, 6470, 6608, 6784, 6800, 6992, 7088, 7232, 7248, 42528, 43216,
   43264, 43472, 43504, 43600, 44016, 65296, 66720, 68912, 69734, 69872, 69942, 70096, 70384,
   70736, 70864, 71248, 71360, 71472, 71904, 72016, 72784, 73040, 73120, 92768, 92864, 93008,
   120782, 120792, 120802, 120812, 120822, 123200, 123632, 125264, 130032]

/-- The value of a decimal digit of any script. -/
def decimalDigit? (c : Char) : Option Nat :=
  (decimalZeros.find? fun start => start ≤ c.toNat && c.toNat < start + 10).map (c.toNat - ·)

/-- The value of an ASCII letter that is a hexadecimal digit. -/
def hexLetter? (c : Char) : Option Nat :=
  if 'a' ≤ c ∧ c ≤ 'f' then some (c.toNat - 'a'.toNat + 10)
  else if 'A' ≤ c ∧ c ≤ 'F' then some (c.toNat - 'A'.toNat + 10)
  else none

def hexDigit? (c : Char) : Option Nat :=
  match decimalDigit? c with
  | some value => some value
  | none => hexLetter? c

def isDigit (c : Char) : Bool :=
  '0' ≤ c && c ≤ '9'

/-- The value of an ASCII hexadecimal digit. -/
def asciiHex? (c : Char) : Option Nat :=
  if isDigit c then some (c.toNat - '0'.toNat) else hexLetter? c

/-- The digits of a numeral, each with at most one underscore before it. -/
def digits? (digit? : Char → Option Nat) : List Char → Option (List Nat)
  | [] => some []
  | '_' :: c :: rest => do
    let value ← digit? c
    let values ← digits? digit? rest
    return value :: values
  | c :: rest => do
    let value ← digit? c
    let values ← digits? digit? rest
    return value :: values

/-- The number that a row of digits denotes. -/
def ofDigits (base : Nat) (digits : List Nat) : Nat :=
  digits.foldl (fun number digit => number * base + digit) 0

/-- The number of a hexadecimal literal, which is written with a leading `0x`
or `0X`. -/
def hexLiteral? : List Char → Option Nat
  | '0' :: mark :: rest =>
    if mark = 'x' ∨ mark = 'X' then
      match digits? hexDigit? rest with
      | some (digit :: digits) => some (ofDigits 16 (digit :: digits))
      | _ => none
    else none
  | _ => none

/-- The hexadecimal digits of a number, at least `width` of them. -/
def hexText (width : Nat) (number : Nat) : String :=
  let digits := Nat.toDigits 16 number
  String.ofList (List.replicate (width - digits.length) '0' ++ digits)

end ConfigReference.Text
