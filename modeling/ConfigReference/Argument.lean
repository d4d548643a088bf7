import ConfigReference.Table
import ConfigReference.Text.Blank
import ConfigReference.Text.Digit
import ConfigReference.Text.LowerCase
import ConfigReference.Text.Split

/-!
# Arguments of a read

The arguments after the key end with the default value; bounds or separators
may stand before it.  Reading them never fails: what is not understood is shown
as it is written, without quotes around it.
-/

namespace ConfigReference.Argument

open Text

/-- The arguments between the commas, without blanks around them. -/
def split (arguments : List Char) : List (List Char) :=
  (splitAt ',' arguments).map trim

/-- How an absent value is shown. -/
def emptyMark : String := "Empty"

/-- Arguments that denote an empty value.  A call inside the arguments is cut
at its closing parenthesis, so the open forms occur as well. -/
def emptyForms : List String :=
  ["emptyString", "string(", "string()", "filesystem::path(", "filesystem::path()"]

/-- Member fields, whose value is not known from the source text. -/
def isField (argument : List Char) : Bool :=
  "m_".toList.isPrefixOf argument

/-- Numerals with more decimal digits than this are shown as they are written. -/
def digitLimit : Nat := 4300

/-- The decimal numeral of a hexadecimal literal. -/
def hexValue? (argument : List Char) : Option String :=
  match hexLiteral? argument with
  | some number => if number < Nat.pow 10 digitLimit then some (toString number) else none
  | none => none

/-- A text without a quote at its beginning and without one at its end. -/
def dropQuotes (argument : List Char) : List Char :=
  let opened := match argument with
    | '\"' :: rest => rest
    | rest => rest
  if opened.getLast? = some '\"' then opened.dropLast else opened

/-- The value that a single argument denotes. -/
def value (constants : Table String String) (argument : List Char) : String :=
  if String.ofList argument ∈ emptyForms then emptyMark
  else if isField argument then emptyMark
  else
    match hexValue? argument with
    | some numeral => numeral
    | none =>
      match constants.find? (String.ofList argument) with
      | some meaning => meaning
      | none => String.ofList (dropQuotes argument)

/-- The items of a brace list that ends the arguments, shown with blanks
between them.  The list begins at the first opening brace. -/
def braceList? (arguments : List Char) : Option String :=
  if arguments.getLast? = some '\x7d' then
    match arguments.dropWhile (· ≠ '\x7b') with
    | [] => none
    | _ :: inside =>
      let items := (split inside.dropLast).filter (! ·.isEmpty)
      some (if items.isEmpty then emptyMark else String.ofList (joinWith [' '] items))
  else none

/-- The default value: a brace list as a whole if lists are read, else the last
argument. -/
def lastValue (constants : Table String String) (lists : Bool) (arguments : List Char) : String :=
  match if lists then braceList? arguments else none with
  | some items => items
  | none => value constants ((split arguments).getLast?.getD [])

/-- The default value of a key; a description written for the key itself goes
before what the arguments say. -/
def defaultValue (overrides constants : Table String String) (lists : Bool)
    (key arguments : String) : String :=
  match overrides.find? key with
  | some description => description
  | none => lastValue constants lists (trim arguments.toList)

/-- The bounds that a read with at least three arguments puts on the length of a
text. -/
def lengthBounds (accessor arguments : String) : List String :=
  if accessor = "GetString" && arguments ≠ "" then
    match split arguments.toList with
    | least :: greatest :: _ :: _ =>
      [s!"Min length: {String.ofList least}", s!"Max length: {String.ofList greatest}"]
    | _ => []
  else []

end ConfigReference.Argument
