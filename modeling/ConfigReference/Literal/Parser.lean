import ConfigReference.Literal.Expression
import ConfigReference.Literal.Field
import Std.Data.HashMap

/-!
# Parsers

A parser reads an expression from a row of tokens or fails and leaves the
tokens to another one.  A text that no parser reads is read a second time by
parsers that also know common mistakes; one of these ends the reading with the
fault it stands for.  What was read at a position is kept, so that no rule is
tried twice there, even if mistakes counted only the second time.
-/

namespace ConfigReference.Literal

/-- The rules whose results are kept. -/
inductive Rule
  | expression
  | disjunction
  | factor
  | target
  | targetAtom
  | targetPrimary
  | mistakenNaming
  deriving DecidableEq, Hashable, Repr

structure ReadingState where
  position : Nat := 0
  /-- The number of tokens that were looked at. -/
  reached : Nat := 0
  /-- Whether mistakes count. -/
  isStrict : Bool := false
  /-- The results of rules, with the positions after them. -/
  results : Std.HashMap (Rule × Nat) (Option (Expression × Nat)) := ∅

/-- What is read, and how the fields of texts in it are checked. -/
structure Source where
  row : TokenRow
  check : FieldCheck
  /-- Whether the tokens are those of a field. -/
  isField : Bool := false
  /-- What was paid for the nesting of the current place. -/
  paid : Nat := 0

/-- The steps further inside an expression. -/
inductive Descent
  | sign
  | alternative
  | power
  | function
  | parameter
  | call
  | bracket
  | brace
  deriving DecidableEq, Repr

/-- What a step costs.  Looking for mistakes makes some steps dearer. -/
def Descent.price (isStrict : Bool) : Descent → Nat
  | sign => 1
  | alternative => 1
  | power => 2
  | function => 2
  | parameter => 7
  | call => if isStrict then 25 else 24
  | bracket => if isStrict then 30 else 28
  | brace => if isStrict then 30 else 29

/-- The most that can be paid. -/
def nestingBudget : Nat := 5975

/-- What is paid before a text is read that is searched for mistakes. -/
def strictPrice : Nat := 3

abbrev Parser := ReaderT Source (OptionT (EStateM Fault ReadingState))

namespace Parser

variable {α β : Type}

/-- Ends the reading. -/
def raise (fault : Fault) : Parser α :=
  fun _ => OptionT.mk (throw fault)

def position : Parser Nat :=
  fun _ => OptionT.lift do return (← get).position

def isStrict : Parser Bool :=
  fun _ => OptionT.lift do return (← get).isStrict

def modifyState (change : ReadingState → ReadingState) : Parser Unit :=
  fun _ => OptionT.lift (modify change)

def moveTo (position : Nat) : Parser Unit :=
  modifyState fun state => { state with position := position }

/-- Says whether mistakes count from here on. -/
def setStrict (isStrict : Bool) : Parser Unit :=
  modifyState fun state => { state with isStrict := isStrict }

/-- The token at the current position. -/
def current : Parser Token := do
  let position ← position
  modifyState fun state => { state with reached := max state.reached (position + 1) }
  let row := (← read).row
  match row.tokens[position]?, row.stop with
  | some token, _ => return token
  | none, some stop => raise stop.fault
  | none, none => failure

def advance : Parser Unit :=
  modifyState fun state => { state with position := state.position + 1 }

/-- Tries a parser, and goes back to the current position if it fails. -/
def attempt (parser : Parser α) : Parser (Option α) := do
  let start ← position
  match ← (fun source => OptionT.lift (parser source).run : Parser (Option α)) with
  | some value => return some value
  | none => do
    moveTo start
    return none

/-- The first of several parsers that does not fail. -/
def firstOf : List (Parser α) → Parser α
  | [] => failure
  | parser :: rest => do
    match ← attempt parser with
    | some value => return value
    | none => firstOf rest

/-- Reads something without moving on. -/
def ahead (parser : Parser α) : Parser Unit := do
  let start ← position
  let _ ← parser
  moveTo start

def notAhead (parser : Parser α) : Parser Unit := do
  match ← attempt (ahead parser) with
  | some _ => failure
  | none => return

/-- Repeats a parser as often as it succeeds, but at most as often as given. -/
def repeated (parser : Parser α) : (count : Nat) → Parser (List α)
  | 0 => return []
  | count + 1 => do
    match ← attempt parser with
    | some value => return value :: (← repeated parser count)
    | none => return []

/-- As many repetitions as there are; each takes up a token at least. -/
def many (parser : Parser α) : Parser (List α) := do
  repeated parser ((← read).row.tokens.size + 1)

def oneOrMore (parser : Parser α) : Parser (List α) := do
  return (← parser) :: (← many parser)

def sign (text : String) : Parser Unit := do
  if (← current).kind = .sign text then advance else failure

def signOf (texts : List String) : Parser String := do
  match (← current).kind with
  | .sign text => if text ∈ texts then do advance; return text else failure
  | _ => failure

def name : Parser String := do
  match (← current).kind with
  | .name text => do advance; return text
  | _ => failure

/-- A text and the line on which it begins. -/
def text : Parser (Nat × Quotation) := do
  let token ← current
  match token.kind with
  | .text quotation => do advance; return (token.line, quotation)
  | _ => failure

/-- One or more of something, with commas between them. -/
def separated (parser : Parser α) : Parser (List α) := do
  let first ← parser
  return first :: (← many do sign ","; parser)

/-- Tries a parser for a mistake, if mistakes count. -/
def mistake (parser : Parser α) : Parser Unit := do
  if ← isStrict then
    let _ ← attempt parser
  else return

/-- Reads what stands as many steps further inside as given. -/
def inside (descent : Descent) (parser : Parser α) (steps : Nat := 1) : Parser α := do
  let paid := (← read).paid + steps * descent.price (← isStrict)
  if nestingBudget < paid then raise .exhausted
  else fun source => parser { source with paid := paid }

/-- Reads something as if mistakes did not count. -/
def leniently (parser : Parser α) : Parser α := do
  let wasStrict ← isStrict
  setStrict false
  let result ← attempt parser
  setStrict wasStrict
  match result with
  | some value => return value
  | none => failure

/-- What a rule read at a position before, and the position after it. -/
def kept (rule : Rule) (position : Nat) : Parser (Option (Option (Expression × Nat))) :=
  fun _ => OptionT.lift do return (← get).results[(rule, position)]?

/-- Reads by a rule, unless that was done at this position before. -/
def keeping (rule : Rule) (parser : Parser Expression) : Parser Expression := do
  let start ← position
  match ← kept rule start with
  | some (some (value, stop)) => do
    moveTo stop
    return value
  | some none => failure
  | none => do
    let result ← attempt parser
    let stop ← position
    let kept := result.map fun value => (value, stop)
    modifyState fun state =>
      { state with results := state.results.insert (rule, start) kept }
    match result with
    | some value => return value
    | none => failure

end Parser

end ConfigReference.Literal
