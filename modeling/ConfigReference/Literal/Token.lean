import ConfigReference.Literal.Numeral
import ConfigReference.Literal.Quotation
import ConfigReference.Text.Quoted

/-!
# Tokens of literals

A literal is read as a row of tokens: names, numbers, texts and signs.  Blanks
and comments stand between them.  A line ends a row of tokens unless a bracket
is open; a backslash at its end joins the next line to it.  Reading goes on to
the end or to the first thing that is no token.
-/

namespace ConfigReference.Literal

open Text

inductive TokenKind
  | name (text : String)
  | number (number : Number)
  | text (quotation : Quotation)
  /-- A sign or a word with a meaning of its own. -/
  | sign (text : String)
  | lineEnd
  | indent
  | finish
  deriving DecidableEq, Repr

structure Token where
  kind : TokenKind
  /-- The number of brackets that are open after the token. -/
  level : Nat
  line : Nat
  /-- Whether the end of the text was seen when the token was read. -/
  seesEnd : Bool
  deriving DecidableEq, Repr

/-- What ends the reading before the end. -/
structure Stop where
  fault : Fault
  /-- Whether the fault holds even where no token is asked for. -/
  isFirm : Bool
  /-- The innermost bracket that is open, with its line. -/
  pending : Option (Char × Nat)
  deriving DecidableEq, Repr

/-- The tokens of a text, and why there are no more. -/
structure TokenRow where
  tokens : Array Token
  stop : Option Stop
  deriving DecidableEq, Repr

/-- A place between two tokens. -/
structure Place where
  line : Nat := 1
  /-- The brackets that are open, with their lines, the innermost first. -/
  brackets : List (Char × Nat) := []
  /-- Whether the line has no token so far. -/
  isFresh : Bool := true
  /-- Whether a line was indented. -/
  isIndented : Bool := false

/-- What is done at a place. -/
inductive Step
  | token (kind : TokenKind) (place : Place) (rest : List Char)
  | skip (place : Place) (rest : List Char)
  | halt (stop : Stop)
  | finish

def keywords : List String :=
  ["False", "None", "True", "and", "as", "assert", "async", "await", "break", "class",
   "continue", "def", "del", "elif", "else", "except", "finally", "for", "from", "global", "if",
   "import", "in", "is", "lambda", "nonlocal", "not", "or", "pass", "raise", "return", "try",
   "while", "with", "yield"]

/-- The signs of several characters, the longer ones first. -/
def longSigns : List String :=
  ["**=", "...", "//=", "<<=", ">>=", "!=", "%=", "&=", "**", "*=", "+=", "-=", "->", "//", "/=",
   ":=", "<<", "<=", "<>", "==", ">=", ">>", "@=", "^=", "|="]

/-- The most brackets that can be open. -/
def nestingLimit : Nat := 200

/-- The opening brackets with the closing ones. -/
def bracketPairs : List (Char × Char) :=
  [('(', ')'), ('[', ']'), ('\x7b', '\x7d')]

namespace Place

/-- Stops with a fault that holds in any case. -/
def fail (fault : Fault) : Step :=
  .halt ⟨fault, true, none⟩

/-- Stops with a fault that is met only if the next token is asked for. -/
def pause (place : Place) (fault : Fault) : Step :=
  .halt ⟨fault, false, place.brackets.head?⟩

/-- Stops where the text ends too early. -/
def pauseAtEnd (place : Place) : Step :=
  match place.brackets.head? with
  | some (bracket, _) => place.pause (.neverClosed bracket)
  | none => place.pause .unexpectedEnd

def emit (place : Place) (kind : TokenKind) (rest : List Char) : Step :=
  .token kind { place with isFresh := false } rest

/-- The fault of the first character that cannot stand where it does in a name. -/
def nameFault? (name : List Char) : Option Fault :=
  let bad : Option Char := match name with
    | [] => none
    | c :: rest => if isNameStart c then rest.find? fun c => !isNameChar c else some c
  bad.map fun c => if isHidden c then .hiddenCharacter c else .foreignCharacter c

def readText (place : Place) (letters : List Char) (text : List Char) : Step :=
  match text with
  | [] => .finish
  | mark :: _ =>
    match quotedBody? mark place.line text with
    | .error fault => fail fault
    | .ok (body, rest, line) =>
      let letters := String.ofList (letters.map Char.toLower)
      .token (.text ⟨letters, body⟩) { place with line := line, isFresh := false } rest

/-- A name, a word with a meaning, or a text with letters before its quotes. -/
def readName (place : Place) (text : List Char) : Step :=
  let name := text.takeWhile mayBeInName
  let rest := text.drop name.length
  let isText := rest.head?.any (fun c => c = '\'' || c = '\"') &&
    String.ofList (name.map Char.toLower) ∈ Quotation.letterings
  if isText then place.readText name rest
  else
    match nameFault? name with
    | some fault => fail fault
    | none =>
      let word := String.ofList name
      place.emit (if word ∈ keywords then .sign word else .name word) rest

/-- A sign of one character. -/
def readSign (place : Place) (c : Char) (rest : List Char) : Step :=
  let sign := TokenKind.sign (String.singleton c)
  if (bracketPairs.map Prod.fst).contains c then
    if nestingLimit ≤ place.brackets.length then fail .deepNesting
    else { place with brackets := (c, place.line) :: place.brackets }.emit sign rest
  else if (bracketPairs.map Prod.snd).contains c then
    match place.brackets with
    | [] => fail (.unmatched c)
    | (opening, line) :: outer =>
      if bracketPairs.contains (opening, c) then { place with brackets := outer }.emit sign rest
      else fail (.mismatched opening c (if line = place.line then none else some line))
  else if isHidden c then fail (.hiddenCharacter c)
  else place.emit sign rest

/-- A number, a name, a text or a sign. -/
def readToken (place : Place) (text : List Char) : Step :=
  match text with
  | [] => .finish
  | c :: rest =>
    if isDigit c || (c = '.' && rest.head?.any isDigit) then
      match if c = '.' then fractionEnd rest else readNumber text with
      | .ok (number, rest) => place.emit (.number number) rest
      | .error fault => fail fault
    else if c = '\'' || c = '\"' then place.readText [] text
    else if mayBeInName c then place.readName text
    else
      match longSigns.find? fun sign => sign.toList.isPrefixOf text with
      | some sign => place.emit (.sign sign) (text.drop sign.length)
      | none => place.readSign c rest

/-- Goes on after a backslash, which has to be the last character of a line that
is not the last one. -/
def joinLines (place : Place) (rest : List Char) : Step :=
  match rest with
  | ['\n'] => place.pauseAtEnd
  | '\n' :: rest => .skip { place with line := place.line + 1 } rest
  | _ => place.pause .brokenLine

/-- Begins a line with blanks up to the given column.  If lines are joined within
the blanks, the `fixed` column where that first happened counts.  A line without
tokens is left out. -/
def beginLine (place : Place) (column fixed : Nat) (text : List Char) : Step :=
  match text with
  | ' ' :: rest => place.beginLine (column + 1) fixed rest
  | '\t' :: rest => place.beginLine ((column / 8 + 1) * 8) fixed rest
  | '\x0c' :: rest => place.beginLine 0 fixed rest
  | ['\\', '\n'] => place.pauseAtEnd
  | '\\' :: '\n' :: rest =>
    { place with line := place.line + 1 }.beginLine column (if fixed = 0 then column else fixed)
      rest
  | '\\' :: _ => place.pause .brokenLine
  | '#' :: rest => .skip place (rest.dropWhile (· ≠ '\n'))
  | '\n' :: rest => .skip { place with line := place.line + 1 } rest
  | _ =>
    let next : Place := { place with isFresh := false }
    if place.brackets.isEmpty && !place.isIndented && (if fixed = 0 then column else fixed) ≠ 0 then
      .token .indent { next with isIndented := true } text
    else .skip next text

def step (place : Place) (text : List Char) : Step :=
  match text with
  | [] => if place.brackets.isEmpty then .finish else place.pauseAtEnd
  | c :: rest =>
    if place.isFresh then place.beginLine 0 0 text
    else if c = ' ' || c = '\t' || c = '\x0c' then .skip place rest
    else if c = '#' then .skip place (text.dropWhile (· ≠ '\n'))
    else if c = '\n' then
      let next : Place := { place with line := place.line + 1, isFresh := true }
      if place.brackets.isEmpty then .token .lineEnd next rest else .skip next rest
    else if c = '\\' then place.joinLines rest
    else place.readToken text

end Place

/-- Whether the character after a token is looked at before the token is known to
have ended. -/
def TokenKind.looksOn : TokenKind → Bool
  | .text _ => false
  | .sign word => word.length < 3 || word.toList.all isNameChar
  | _ => true

/-- Reads tokens in at most the given number of steps. -/
def readTokens : (count : Nat) → Place → List Char → List Token × Option Stop
  | 0, _, _ => ([], none)
  | count + 1, place, text =>
    match place.step text with
    | .halt stop => ([], some stop)
    | .finish => ([⟨.finish, 0, place.line, true⟩], none)
    | .skip place rest => readTokens count place rest
    | .token kind next rest =>
      let (tokens, stop) := readTokens count next rest
      let token : Token :=
        ⟨kind, next.brackets.length, place.line, rest.isEmpty && kind.looksOn⟩
      (token :: tokens, stop)

/-- The tokens of a text that begins on a line.  A step takes up a character or
begins a line. -/
def TokenRow.ofText (line : Nat) (text : List Char) : TokenRow :=
  let text := unifyLineEnds text
  let (tokens, stop) := readTokens (2 * text.length + 2) { line := line } text
  ⟨tokens.toArray, stop⟩

end ConfigReference.Literal
