import ConfigReference.Text.Digit

/-!
# Faults of literals

Why a text is not written as a literal, and the words that say so.
-/

namespace ConfigReference.Literal

/-- The notations of numbers. -/
inductive Numeral
  | decimal
  | hexadecimal
  | octal
  | binary
  | imaginary
  deriving DecidableEq, Repr

def Numeral.name : Numeral → String
  | decimal => "decimal"
  | hexadecimal => "hexadecimal"
  | octal => "octal"
  | binary => "binary"
  | imaginary => "imaginary"

/-- Why an escape in a text stands for no character. -/
inductive EscapeFault
  | shortOctet
  | shortUnit
  | shortCode
  | noCharacter
  | malformedName
  | unknownName
  deriving DecidableEq, Repr

def EscapeFault.message : EscapeFault → String
  | shortOctet => "truncated \\xXX escape"
  | shortUnit => "truncated \\uXXXX escape"
  | shortCode => "truncated \\UXXXXXXXX escape"
  | noCharacter => "illegal Unicode character"
  | malformedName => "malformed \\N character escape"
  | unknownName => "unknown Unicode character name"

/-- The most digits that an integer can have. -/
def digitLimit : Nat := 4300

inductive Fault
  /-- What stands here is not foreseen in any notation. -/
  | unforeseen
  | nullCharacter
  | foreignCharacter (c : Char)
  | hiddenCharacter (c : Char)
  | malformedNumber (numeral : Numeral)
  | digitOutOfRange (digit : Char) (numeral : Numeral)
  | leadingZeros
  | oversizedNumber (digits : Nat)
  | openText (line : Nat)
  | openLongText (line : Nat)
  | deepNesting
  | unmatched (bracket : Char)
  /-- Brackets that do not match, with the line of the first one if that is
  another line. -/
  | mismatched (opening closing : Char) (line : Option Nat)
  | neverClosed (bracket : Char)
  | brokenLine
  | unexpectedEnd
  | unexpectedIndent
  | mixedTexts
  | foreignOctet
  | octetEscape (position : Nat)
  | textEscape (first last : Nat) (fault : EscapeFault)
  | missingComma
  | missingElse
  | missingParentheses (word : String)
  | assignmentSign
  | assignmentTo (kind : String)
  | assignmentHere (kind : String)
  | namingOf (kind : String)
  | keywordExpression
  | bareStarred
  | starredExpression
  | doubleStarredExpression
  | starredComprehension
  | unpackedComprehension
  | bareTarget
  | starredValue
  | missingValue
  | missingColon
  | bareGenerator
  | starAfterUnpacking
  | positionalAfterKeyword
  | positionalAfterUnpacking
  | missingDefault
  | plainAfterDefault
  | bracketedParameters
  | nothingBeforeSlash
  | repeatedSlash
  | slashAfterStar
  | slashBeforeStar
  | bareStar
  | starDefault
  | repeatedStar
  | unpackingDefault
  | afterUnpacking
  | singleBrace
  | missingBrace
  | deepField
  | emptyField
  | fieldBackslash
  | fieldComment
  | fieldText
  | fieldNesting
  | fieldBracket (bracket : Char)
  | fieldBrackets (opening closing : Char)
  | conversion
  /-- A fault of an expression in a field of a text. -/
  | inField (fault : Fault)
  /-- An integer in a field that has too many digits. -/
  | oversizedInField
  /-- Nesting that goes beyond what can be read. -/
  | exhausted
  deriving DecidableEq, Repr

namespace Fault

/-- The code point of a character, as messages show it. -/
def codePoint (c : Char) : String :=
  "U+" ++ (Text.hexText 4 c.toNat).toUpper

def message : Fault → String
  | unforeseen => "invalid syntax"
  | nullCharacter => "source code string cannot contain null bytes"
  | foreignCharacter c => s!"invalid character '{c}' ({codePoint c})"
  | hiddenCharacter c => s!"invalid non-printable character {codePoint c}"
  | malformedNumber numeral => s!"invalid {numeral.name} literal"
  | digitOutOfRange digit numeral => s!"invalid digit '{digit}' in {numeral.name} literal"
  | leadingZeros =>
    "leading zeros in decimal integer literals are not permitted; " ++
      "use an 0o prefix for octal integers"
  | oversizedNumber digits =>
    s!"Exceeds the limit ({digitLimit} digits) for integer string conversion: value has " ++
      s!"{digits} digits; use sys.set_int_max_str_digits() to increase the limit - " ++
      "Consider hexadecimal for huge integer literals to avoid decimal conversion limits."
  | openText line => s!"unterminated string literal (detected at line {line})"
  | openLongText line => s!"unterminated triple-quoted string literal (detected at line {line})"
  | deepNesting => "too many nested parentheses"
  | unmatched bracket => s!"unmatched '{bracket}'"
  | mismatched opening closing line =>
    let place := match line with
      | some line => s!" on line {line}"
      | none => ""
    s!"closing parenthesis '{closing}' does not match opening parenthesis '{opening}'{place}"
  | neverClosed bracket => s!"'{bracket}' was never closed"
  | brokenLine => "unexpected character after line continuation character"
  | unexpectedEnd => "unexpected EOF while parsing"
  | unexpectedIndent => "unexpected indent"
  | mixedTexts => "cannot mix bytes and nonbytes literals"
  | foreignOctet => "bytes can only contain ASCII literal characters"
  | octetEscape position => s!"(value error) invalid \\x escape at position {position}"
  | textEscape first last fault =>
    s!"(unicode error) 'unicodeescape' codec can't decode bytes in position {first}-{last}: " ++
      fault.message
  | missingComma => "invalid syntax. Perhaps you forgot a comma?"
  | missingElse => "expected 'else' after 'if' expression"
  | missingParentheses word =>
    s!"Missing parentheses in call to '{word}'. Did you mean {word}(...)?"
  | assignmentSign => "invalid syntax. Maybe you meant '==' or ':=' instead of '='?"
  | assignmentTo kind => s!"cannot assign to {kind}"
  | assignmentHere kind => s!"cannot assign to {kind} here. Maybe you meant '==' instead of '='?"
  | namingOf kind => s!"cannot use assignment expressions with {kind}"
  | keywordExpression => "expression cannot contain assignment, perhaps you meant \"==\"?"
  | bareStarred => "Invalid star expression"
  | starredExpression => "cannot use starred expression here"
  | doubleStarredExpression => "cannot use double starred expression here"
  | starredComprehension => "iterable unpacking cannot be used in comprehension"
  | unpackedComprehension => "dict unpacking cannot be used in dict comprehension"
  | bareTarget => "did you forget parentheses around the comprehension target?"
  | starredValue => "cannot use a starred expression in a dictionary value"
  | missingValue => "expression expected after dictionary key and ':'"
  | missingColon => "':' expected after dictionary key"
  | bareGenerator => "Generator expression must be parenthesized"
  | starAfterUnpacking => "iterable argument unpacking follows keyword argument unpacking"
  | positionalAfterKeyword => "positional argument follows keyword argument"
  | positionalAfterUnpacking => "positional argument follows keyword argument unpacking"
  | missingDefault => "expected default value expression"
  | plainAfterDefault => "non-default argument follows default argument"
  | bracketedParameters => "Lambda expression parameters cannot be parenthesized"
  | nothingBeforeSlash => "at least one argument must precede /"
  | repeatedSlash => "/ may appear only once"
  | slashAfterStar => "/ must be ahead of *"
  | slashBeforeStar => "expected comma between / and *"
  | bareStar => "named arguments must follow bare *"
  | starDefault => "var-positional argument cannot have default value"
  | repeatedStar => "* argument may appear only once"
  | unpackingDefault => "var-keyword argument cannot have default value"
  | afterUnpacking => "arguments cannot follow var-keyword argument"
  | singleBrace => "f-string: single '\x7d' is not allowed"
  | missingBrace => "f-string: expecting '\x7d'"
  | deepField => "f-string: expressions nested too deeply"
  | emptyField => "f-string: empty expression not allowed"
  | fieldBackslash => "f-string expression part cannot include a backslash"
  | fieldComment => "f-string expression part cannot include '#'"
  | fieldText => "f-string: unterminated string"
  | fieldNesting => "f-string: too many nested parenthesis"
  | fieldBracket bracket => s!"f-string: unmatched '{bracket}'"
  | fieldBrackets opening closing =>
    s!"f-string: closing parenthesis '{closing}' does not match opening parenthesis '{opening}'"
  | conversion => "f-string: invalid conversion character: expected 's', 'r', or 'a'"
  | inField fault => "f-string: " ++ message fault
  | oversizedInField => "Negative size passed to PyUnicode_New"
  | exhausted => ""

/-- Whether a fault ends the reading for good, whatever else is wrong in the
text. -/
def isFinal : Fault → Bool
  | oversizedInField => true
  | exhausted => true
  | _ => false

end Fault

end ConfigReference.Literal
