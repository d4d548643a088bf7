import ConfigReference.Literal.Token

/-!
# Fields of texts

A text can have fields, which are expressions between braces.  A field may go on
with a conversion and with a format, which is a text with fields again.  Doubled
braces stand for braces.
-/

namespace ConfigReference.Literal

open Text

/-- The fault of an expression in a field that begins on a line. -/
abbrev FieldCheck := (line : Nat) → List Char → Option Fault

namespace Field

/-- A piece of text before a field. -/
structure Piece where
  text : List Char := []
  rest : List Char := []
  /-- Whether the piece ended with a doubled brace. -/
  isDoubled : Bool := false

def Piece.extend (text : List Char) (piece : Piece) : Piece :=
  { piece with text := text ++ piece.text }

/-- What a brace means at the given level of formats; only the outermost text can
have doubled braces. -/
def brace (level : Nat) (c : Char) (rest : List Char) : Except Fault Piece :=
  if level = 0 && rest.head? = some c then .ok ⟨[c], rest.drop 1, true⟩
  else if level = 0 && c = '\x7d' then .error .singleBrace
  else .ok ⟨[], c :: rest, false⟩

/-- The text up to the next field.  Braces around the name of a character in an
escape begin no field. -/
def piece (isRaw : Bool) (level : Nat) : (inName : Bool) → List Char → Except Fault Piece
  | _, [] => .ok {}
  | true, c :: rest => (piece isRaw level (c ≠ '\x7d') rest).map (Piece.extend [c])
  | false, '\\' :: rest =>
    if isRaw then (piece isRaw level false rest).map (Piece.extend ['\\'])
    else
      match rest with
      | [] => .ok ⟨['\\'], [], false⟩
      | ['N'] => .ok ⟨['\\', 'N'], [], false⟩
      | 'N' :: c :: more =>
        (piece isRaw level (c = '\x7b') more).map (Piece.extend ['\\', 'N', c])
      | c :: more =>
        if c = '\x7b' || c = '\x7d' then (brace level c more).map (Piece.extend ['\\'])
        else (piece isRaw level false more).map (Piece.extend ['\\', c])
  | false, c :: rest =>
    if c = '\x7b' || c = '\x7d' then brace level c rest
    else (piece isRaw level false rest).map (Piece.extend [c])

/-- Where the reading of an expression stands: inside quotes, which may be
threefold, and inside brackets, the innermost first. -/
structure Nesting where
  quote : Option (Char × Bool) := none
  brackets : List Char := []

/-- The expression at the beginning of a field, of which the first `skipped`
characters are not looked at, and what follows it. -/
def expression (nesting : Nesting) :
    (skipped : Nat) → List Char → Except Fault (List Char × List Char)
  | _, [] =>
    match nesting.quote, nesting.brackets with
    | some _, _ => .error .fieldText
    | none, bracket :: _ => .error (.fieldBracket bracket)
    | none, [] => .error .missingBrace
  | skipped + 1, c :: rest =>
    (expression nesting skipped rest).map fun (text, rest) => (c :: text, rest)
  | 0, c :: rest =>
    let go (nesting : Nesting) (skipped : Nat) : Except Fault (List Char × List Char) :=
      (expression nesting skipped rest).map fun (text, rest) => (c :: text, rest)
    let isTriple := rest.take 2 = [c, c]
    if c = '\\' then .error .fieldBackslash
    else
      match nesting.quote with
      | some (mark, isLong) =>
        if c = mark && !isLong then go { nesting with quote := none } 0
        else if c = mark && isTriple then go { nesting with quote := none } 2
        else go nesting 0
      | none =>
        if c = '\'' || c = '\"' then
          go { nesting with quote := some (c, isTriple) } (if isTriple then 2 else 0)
        else if (bracketPairs.map Prod.fst).contains c then
          if nestingLimit ≤ nesting.brackets.length then .error .fieldNesting
          else go { nesting with brackets := c :: nesting.brackets } 0
        else if c = '#' then .error .fieldComment
        else
          match nesting.brackets with
          | [] =>
            if ['!', '=', '<', '>'].contains c && rest.head? = some '=' then go nesting 1
            else if c = '!' || c = ':' || c = '\x7d' || c = '=' then .ok ([], c :: rest)
            else if (bracketPairs.map Prod.snd).contains c then .error (.fieldBracket c)
            else go nesting 0
          | opening :: outer =>
            if (bracketPairs.map Prod.snd).contains c then
              if bracketPairs.contains (opening, c) then go { nesting with brackets := outer } 0
              else .error (.fieldBrackets opening c)
            else go nesting 0

/-- Blanks that may stand after the sign that shows an expression itself. -/
def isFieldBlank (c : Char) : Bool :=
  c = ' ' || (0x09 ≤ c.toNat && c.toNat ≤ 0x0D)

/-- Skips the sign that shows an expression itself. -/
def skipShown (text : List Char) : List Char :=
  match text with
  | '=' :: rest => rest.dropWhile isFieldBlank
  | _ => text

/-- Skips a conversion. -/
def skipConversion (text : List Char) : Except Fault (List Char) :=
  match text with
  | ['!'] => .error .missingBrace
  | '!' :: c :: rest => if ['s', 'r', 'a'].contains c then .ok rest else .error .conversion
  | _ => .ok text

def lineEnds (text : List Char) : Nat :=
  text.count '\n'

/-- Whether the expression of a field has nothing in it. -/
def isEmpty (text : List Char) : Bool :=
  text.all fun c => c = ' ' || c = '\t' || c = '\n' || c = '\x0c'

/-- Reads a text with fields, at a level of formats and in at most the given
number of steps, and gives what follows it.  An expression is checked together
with what follows it in the text. -/
def readText (check : (text rest : List Char) → Option Fault) (isRaw : Bool) :
    (count level : Nat) → List Char → Except Fault (List Char)
  | 0, _, text => .ok text
  | count + 1, level, text => do
    let piece ← piece isRaw level false text
    match if isRaw then none else Quotation.escapesFault? 0 piece.text with
    | some fault => throw fault
    | none =>
      match piece.isDoubled, piece.rest with
      | true, rest => readText check isRaw count level rest
      | false, '\x7b' :: rest =>
        if 2 ≤ level then throw .deepField
        let (text, rest) ← expression {} 0 rest
        if isEmpty text then throw .emptyField
        match check text rest with
        | some fault => throw fault
        | none =>
          let after ← match ← skipConversion (skipShown rest) with
            | [':'] => throw .missingBrace
            | ':' :: format => readText check isRaw count (level + 1) format
            | after => pure after
          match after with
          | '\x7d' :: rest => readText check isRaw count level rest
          | _ => throw .missingBrace
      | false, rest =>
        if level ≠ 0 && rest.head? ≠ some '\x7d' then throw .missingBrace else return rest

end Field

namespace Quotation

/-- The fault of a text that begins on a line. -/
def faultOn? (check : FieldCheck) (line : Nat) (quotation : Quotation) : Option Fault :=
  if quotation.isFormatted then
    let body := quotation.body
    let checkAt (text rest : List Char) : Option Fault :=
      check (line + Field.lineEnds body - Field.lineEnds (text ++ rest)) text
    match Field.readText checkAt quotation.isRaw (body.length + 1) 0 body with
    | .error fault => some fault
    | .ok _ => none
  else quotation.fault?

/-- The fault of texts that stand side by side, on their lines.  Only texts of
characters are joined, or only texts of octets. -/
def faultOf? (check : FieldCheck) (isOctets : Option Bool) :
    List (Nat × Quotation) → Option Fault
  | [] => none
  | (line, quotation) :: rest =>
    let mixed := isOctets.any (· ≠ quotation.isOctets)
    if mixed && quotation.isFormatted then some .mixedTexts
    else
      match quotation.faultOn? check line with
      | some fault => some fault
      | none =>
        if mixed then some .mixedTexts else faultOf? check (some quotation.isOctets) rest

end Quotation

end ConfigReference.Literal
