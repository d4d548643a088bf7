import ConfigReference.Json.Parser
import ConfigReference.Json.Problem
import ConfigReference.Number.Binary64
import ConfigReference.Table
import ConfigReference.Text.Blank

/-!
# Reading records from JSON

A reading either gives a value or lists problems.  Readings of the parts of a
record are combined so that the problems of all parts are listed, in the order
in which the parts are declared.  Scalars are read leniently: a flag may be a
number or a word, an integer may be a text or a number without a fraction.
-/

namespace ConfigReference.Json

open Text

def Reading (α : Type) : Type :=
  Except (List Problem) α

namespace Reading

def fail {α : Type} (cause : Cause) : Reading α :=
  .error [⟨cause, []⟩]

/-- Applies a read function to a read argument; the problems of both are
listed. -/
def apply {α β : Type} : Reading (α → β) → Reading α → Reading β
  | .ok change, .ok value => .ok (change value)
  | .ok _, .error problems => .error problems
  | .error problems, .ok _ => .error problems
  | .error problems, .error more => .error (problems ++ more)

instance : Applicative Reading where
  pure value := .ok value
  seq change value := apply change (value ())

/-- A reading of a value inside a document, seen from the document. -/
def within {α : Type} (step : Step) : Reading α → Reading α
  | .ok value => .ok value
  | .error problems => .error (problems.map (Problem.within step))

/-- A further condition on a value that has been read. -/
def andThen {α β : Type} (reading : Reading α) (next : α → Reading β) : Reading β :=
  match reading with
  | .ok value => next value
  | .error problems => .error problems

end Reading

open Reading

def readString : Json → Reading String
  | .string value => .ok value
  | _ => fail .notString

def asciiLower (c : Char) : Char :=
  if 'A' ≤ c ∧ c ≤ 'Z' then Char.ofNat (c.toNat + 32) else c

def falseWords : List String := ["0", "off", "f", "false", "n", "no"]

def trueWords : List String := ["1", "on", "t", "true", "y", "yes"]

/-- A flag given as a word, in any case. -/
def flagWord? (word : String) : Option Bool :=
  let lowered := String.ofList (word.toList.map asciiLower)
  if lowered ∈ falseWords then some false
  else if lowered ∈ trueWords then some true
  else none

/-- Integers from the negative of this bound up to below it have 64 binary
digits. -/
def wordBound : Int := 9223372036854775808

/-- Whether a number with a fraction of zeros is read as an integer.  The least
integer of 64 binary digits is not. -/
def isDecimalWord (value : Int) : Bool :=
  -wordBound < value && value < wordBound

/-- A flag given as a number.  A word that is neither zero nor one is unclear; a
number that is no word is no flag at all. -/
def flagNumber (isWord : Bool) (value : Int) : Reading Bool :=
  if value = 0 then .ok false
  else if value = 1 then .ok true
  else fail (if isWord then .unclearFlag else .notFlag)

def readFlag : Json → Reading Bool
  | .bool value => .ok value
  | .integer value => flagNumber (-wordBound ≤ value && value < wordBound) value
  | .decimal mantissa exponent =>
    match Number.read mantissa exponent with
    | .whole value => flagNumber (isDecimalWord value) value
    | _ => fail .notFlag
  | .string word =>
    match flagWord? word with
    | some value => .ok value
    | none => fail .unclearFlag
  | _ => fail .notFlag

/-- A natural number over a whole text. -/
def plainNatural (text : List Char) : Except Cause Nat :=
  match wholePart? text with
  | none => .error .unclearInteger
  | some (digits, rest) =>
    if digitLimit < digits.length then .error .oversizedInteger
    else if rest.isEmpty then .ok (natural digits)
    else .error .unclearInteger

/-- An integer in the notation of numbers, over a whole text. -/
def plainInteger : List Char → Except Cause Int
  | '-' :: rest => (plainNatural rest).map fun value => -(value : Int)
  | text => (plainNatural text).map fun value => (value : Int)

/-- The rest of a digit row after leading zeros and the underscores among them,
of which the last character before a point or before the end is kept.  A minus
sign may follow the zeros. -/
def afterZeros? (last : Char) : List Char → Option (List Char)
  | [] => some [last]
  | c :: rest =>
    if c = '0' || c = '_' then afterZeros? c rest
    else if isDigit c || c = '-' then some (c :: rest)
    else if c = '.' then some (last :: c :: rest)
    else none

/-- A digit row without superfluous leading zeros. -/
def dropLeadingZeros? : List Char → Option (List Char)
  | [] => none
  | c :: rest =>
    if c = '0' then afterZeros? c rest
    else if isDigit c then some (c :: rest)
    else none

/-- A numeral without a fraction that is made of zeros. -/
def dropZeroFraction (text : List Char) : List Char :=
  match text.dropWhile (· ≠ '.') with
  | _ :: '0' :: places => if places.all (· = '0') then text.takeWhile (· ≠ '.') else text
  | _ => text

/-- A numeral without single underscores inside it. -/
def dropUnderscores (text : List Char) : List Char :=
  if text.head? = some '_' || text.getLast? = some '_' || occursIn ['_', '_'] text then text
  else text.filter (· ≠ '_')

/-- The significant characters of a numeral after its sign. -/
def significant? (text : List Char) : Option (List Char) :=
  (dropLeadingZeros? text).map fun digits => dropUnderscores (dropZeroFraction digits)

/-- The plain notation of a numeral, which may have a plus sign, leading zeros,
single underscores and a fraction of zeros. -/
def plainForm? : List Char → Option (List Char)
  | '-' :: rest => (significant? rest).map ('-' :: ·)
  | '+' :: rest => significant? rest
  | text => significant? text

/-- An integer given as a text, with blanks around it.  Only a text in plain
notation can be said to be too long. -/
def integerText (text : String) : Except Cause Int :=
  let numeral := trimBy isWhiteSpace text.toList
  match plainInteger numeral, plainForm? numeral with
  | .error .unclearInteger, some form =>
    (plainInteger form).mapError fun _ => .unclearInteger
  | result, _ => result

def readInteger : Json → Reading Int
  | .integer value => .ok value
  | .bool value => .ok (if value then 1 else 0)
  | .decimal mantissa exponent =>
    match Number.read mantissa exponent with
    | .whole value => if isDecimalWord value then .ok value else fail .oversizedInteger
    | .fractional => fail .fractional
    | .tooLarge => fail .notFinite
  | .nonFinite => fail .notFinite
  | .string numeral =>
    match integerText numeral with
    | .ok value => .ok value
    | .error cause => fail cause
  | _ => fail .notInteger

/-- A value that may be null. -/
def readOptional {α : Type} (read : Json → Reading α) : Json → Reading (Option α)
  | .null => .ok none
  | value => some <$> read value

/-- Items of a list, the first of which has the given index. -/
def readItems {α : Type} (read : Json → Reading α) (index : Nat) : List Json → Reading (List α)
  | [] => .ok []
  | value :: rest =>
    List.cons <$> (read value).within (.item index) <*> readItems read (index + 1) rest

def readList {α : Type} (read : Json → Reading α) : Json → Reading (List α)
  | .list items => readItems read 0 items
  | _ => fail .notList

def readPairs {α : Type} (read : Json → Reading α) :
    List (String × Json) → Reading (List (String × α))
  | [] => .ok []
  | (name, value) :: rest =>
    (fun value rest => (name, value) :: rest) <$> (read value).within (.member name) <*>
      readPairs read rest

/-- A table from texts; its order is that of the members. -/
def readTable {α : Type} (read : Json → Reading α) : Json → Reading (Table String α)
  | .object members => Table.ofList <$> readPairs read members
  | _ => fail .notMap

/-- A record, by a reading of its members. -/
def readRecord {α : Type} (read : List (String × Json) → Reading α) : Json → Reading α
  | .object members => read members
  | _ => fail .notRecord

/-- A member that has to be there. -/
def required {α : Type} (members : List (String × Json)) (name : String)
    (read : Json → Reading α) : Reading α :=
  Reading.within (.member name) <|
    match member? members name with
    | some value => read value
    | none => fail .missing

/-- A member that may be left out. -/
def optional {α : Type} (members : List (String × Json)) (name : String) (default : α)
    (read : Json → Reading α) : Reading α :=
  Reading.within (.member name) <|
    match member? members name with
    | some value => read value
    | none => .ok default

/-- Reads a record from a text. -/
def readText {α : Type} (read : Json → Reading α) (text : String) : Reading α :=
  match parse? text.toList with
  | some value => read value
  | none => fail .notJson

end ConfigReference.Json
