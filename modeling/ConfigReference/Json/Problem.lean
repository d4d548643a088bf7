import ConfigReference.Text.Split

/-!
# Problems in a document

A document that does not have the expected form is refused with all of its
problems.  Each problem has a place in the document and a cause; a cause has a
code for programs and a message for readers.
-/

namespace ConfigReference.Json

/-- One step on the way from a document to a value inside it. -/
inductive Step
  | member (name : String)
  | item (index : Nat)
  deriving DecidableEq, Repr

/-- Why a value is refused. -/
inductive Cause
  | notJson
  | notRecord
  | missing
  | notString
  | notList
  | notMap
  | notFlag
  | unclearFlag
  | notInteger
  | unclearInteger
  | oversizedInteger
  | fractional
  | notFinite
  /-- Not one of the values of an enumeration. -/
  | notEnumerated (choices : List String)
  /-- Not one of a few fixed texts. -/
  | notLiteral (choices : List String)
  | notPath
  /-- Refused by a rule of the field, for the given reason. -/
  | refused (reason : String)
  deriving DecidableEq, Repr

def Cause.code : Cause → String
  | notJson => "json_invalid"
  | notRecord => "model_type"
  | missing => "missing"
  | notString => "string_type"
  | notList => "list_type"
  | notMap => "dict_type"
  | notFlag => "bool_type"
  | unclearFlag => "bool_parsing"
  | notInteger => "int_type"
  | unclearInteger => "int_parsing"
  | oversizedInteger => "int_parsing_size"
  | fractional => "int_from_float"
  | notFinite => "finite_number"
  | notEnumerated _ => "enum"
  | notLiteral _ => "literal_error"
  | notPath => "path_type"
  | refused _ => "value_error"

/-- A list of alternatives in prose: each in quotes, the last after "or". -/
def alternatives : List String → String
  | [] => ""
  | [only] => s!"'{only}'"
  | [first, last] => s!"'{first}' or '{last}'"
  | first :: rest => s!"'{first}', {alternatives rest}"

def Cause.message : Cause → String
  | notJson => "Invalid JSON"
  | notRecord => "Input should be an object"
  | missing => "Field required"
  | notString => "Input should be a valid string"
  | notList => "Input should be a valid array"
  | notMap => "Input should be an object"
  | notFlag => "Input should be a valid boolean"
  | unclearFlag => "Input should be a valid boolean, unable to interpret input"
  | notInteger => "Input should be a valid integer"
  | unclearInteger => "Input should be a valid integer, unable to parse string as an integer"
  | oversizedInteger =>
    "Unable to parse input string as an integer, exceeded maximum size"
  | fractional => "Input should be a valid integer, got a number with a fractional part"
  | notFinite => "Input should be a finite number"
  | notEnumerated choices => s!"Input should be {alternatives choices}"
  | notLiteral choices => s!"Input should be {alternatives choices}"
  | notPath => "Input is not a valid path for <class 'pathlib.Path'>"
  | refused reason => s!"Value error, {reason}"

structure Problem where
  cause : Cause
  place : List Step := []
  deriving DecidableEq, Repr

/-- A problem of a value inside a document, seen from the document. -/
def Problem.within (step : Step) (problem : Problem) : Problem :=
  { problem with place := step :: problem.place }

def Step.text : Step → String
  | .member name => name
  | .item index => toString index

/-- The problem as one phrase: its place, then its message. -/
def Problem.phrase (problem : Problem) : String :=
  let place := Text.joined "." (problem.place.map Step.text)
  s!"{place}: {problem.cause.message}"

end ConfigReference.Json
