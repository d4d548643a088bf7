import ConfigReference.Accessor
import ConfigReference.Text.Blank
import ConfigReference.Variant

/-!
# Statements

A line of a source file is at most one statement: the read of a key, a mark on
the read before it, or a switch that holds for the lines after it.  Each kind
of statement has a rule of its own, and the first rule that applies decides.

A read may stand anywhere in its line; of several the leftmost counts.  All
other statements fill their line.
-/

namespace ConfigReference

open Text

inductive Statement
  | optionalRead (accessor key : String)
  | requiredRead (accessor key arguments : String)
  | failFast
  | sectionStart
  | sectionEnd
  | strictOn
  | strictOff
  deriving DecidableEq, Repr

inductive Rule
  | optional
  | required
  | failFast
  | sectionStart
  | sectionEnd
  | strictOn
  | strictOff
  deriving DecidableEq, Repr

def Statement.rule : Statement → Rule
  | optionalRead _ _ => .optional
  | requiredRead _ _ _ => .required
  | failFast => .failFast
  | sectionStart => .sectionStart
  | sectionEnd => .sectionEnd
  | strictOn => .strictOn
  | strictOff => .strictOff

namespace Call

/-- A call of an accessor with a key as its first argument. -/
structure Head where
  accessor : List Char
  key : List Char
  deriving DecidableEq

def isWordChar (c : Char) : Bool :=
  ('a' ≤ c && c ≤ 'z') || ('A' ≤ c && c ≤ 'Z') || ('0' ≤ c && c ≤ '9')

/-- A call whose accessor begins with `lead` and goes on with at least one
letter or digit, up to the closing quote of the key. -/
def head? (lead text : List Char) : Option (Head × List Char) := do
  let rest ← after? lead text
  let word := rest.takeWhile isWordChar
  if word.isEmpty then none
  let rest ← after? ['(', '\"'] (rest.dropWhile isWordChar)
  let key := rest.takeWhile (· ≠ '\"')
  if key.isEmpty then none
  let rest ← after? ['\"'] (rest.dropWhile (· ≠ '\"'))
  return (⟨lead ++ word, key⟩, rest)

/-- The further arguments of a call, up to the first closing parenthesis. -/
def arguments? (text : List Char) : Option (List Char) := do
  let rest ← after? [',', ' '] text
  let arguments := rest.takeWhile (· ≠ ')')
  if arguments.isEmpty || (rest.dropWhile (· ≠ ')')).isEmpty then none
  return arguments

def optionalRead? (text : List Char) : Option Statement := do
  let (head, _) ← head? Accessor.optionalLead text
  return .optionalRead (String.ofList head.accessor) (String.ofList head.key)

def requiredRead? (text : List Char) : Option Statement := do
  let (head, rest) ← head? Accessor.requiredLead text
  let arguments ← arguments? rest
  return .requiredRead (String.ofList head.accessor) (String.ofList head.key)
    (String.ofList arguments)

/-- The separators that may stand before an accessor.  Without any, the
accessor follows the receiver directly. -/
def separators (variant : Variant) : List String :=
  if variant.separators.isEmpty then [""] else variant.separators

/-- A read at the beginning of a text: the receiver, the first separator that
fits, and a call. -/
def atStart? (variant : Variant) (call? : List Char → Option Statement) (text : List Char) :
    Option Statement :=
  match after? variant.receiver.toList text with
  | none => none
  | some rest =>
    (separators variant).findSome? fun separator =>
      (after? separator.toList rest).bind call?

/-- The leftmost read in a text. -/
def search? (variant : Variant) (call? : List Char → Option Statement) :
    List Char → Option Statement
  | [] => atStart? variant call? []
  | c :: rest =>
    match atStart? variant call? (c :: rest) with
    | some statement => some statement
    | none => search? variant call? rest

end Call

namespace Rule

/-- The rules in the order in which they are tried. -/
def order : List Rule :=
  [optional, required, failFast, sectionStart, sectionEnd, strictOn, strictOff]

def sectionStartMarker : String := "// == SECTION START: Cannot be reloaded =="

def sectionEndMarker : String := "// == SECTION END =="

/-- A line without one semicolon at its end and the blanks before it. -/
def withoutSemicolon (line : List Char) : List Char :=
  if line.getLast? = some ';' then trimEnd line.dropLast else line

/-- Whether a line is a call of one of the given forms on the receiver. -/
def isCall (variant : Variant) (calls : List String) (line : List Char) : Bool :=
  let text := String.ofList (withoutSemicolon line)
  variant.spellings.any fun spelling => calls.any fun call => text = spelling ++ call

/-- The statement that a rule finds in a line without blanks around it. -/
def statement? (variant : Variant) (line : List Char) : Rule → Option Statement
  | optional => Call.search? variant Call.optionalRead? line
  | required => Call.search? variant Call.requiredRead? line
  | failFast => if isCall variant ["FailIfErrorLast()"] line then some .failFast else none
  | sectionStart => if line = sectionStartMarker.toList then some .sectionStart else none
  | sectionEnd => if line = sectionEndMarker.toList then some .sectionEnd else none
  | strictOn => if isCall variant ["SetStrictMode(true)"] line then some .strictOn else none
  | strictOff =>
    if isCall variant ["SetStrictMode(wasStrict)", "SetStrictMode(false)"] line then
      some .strictOff
    else none

end Rule

namespace Statement

/-- The statement in a line, by the first of the given rules that applies. -/
def byRules? (rules : List Rule) (variant : Variant) (line : List Char) : Option Statement :=
  rules.findSome? (Rule.statement? variant (trim line))

def ofLine? (variant : Variant) (line : List Char) : Option Statement :=
  byRules? Rule.order variant line

end Statement

end ConfigReference
