import ConfigReference.Literal.Numeral

/-!
# Expressions

What tokens can be put together to.  Only some expressions are literals; the
others are told apart as far as messages name them.
-/

namespace ConfigReference.Literal

/-- Expressions that are no literals whatever they are made of. -/
inductive Compound
  | member
  | lambda
  | call
  | operation
  | generator
  | yielding
  | awaiting
  | setComprehension
  | dictComprehension
  | formatted
  | conditional
  | naming
  deriving DecidableEq, Repr

inductive Expression
  | truth (value : Bool)
  | nothing
  | ellipsis
  | number (number : Number)
  | text
  | name (name : String)
  | starred (value : Expression)
  | tuple (items : List Expression)
  | set (items : List Expression)
  /-- Entries with their keys; an entry without a key is a dictionary itself. -/
  | dict (entries : List (Option Expression × Expression))
  | signed (value : Expression)
  /-- Two expressions that are added or subtracted. -/
  | sum (left right : Expression)
  | comparison (left : Expression) (isMembership : Bool) (others : List Expression)
  /-- A new set without items. -/
  | emptySet
  | other (compound : Compound) (parts : List Expression)

namespace Compound

def kind : Compound → String
  | member => "attribute"
  | lambda => "lambda"
  | call => "function call"
  | operation => "expression"
  | generator => "generator expression"
  | yielding => "yield expression"
  | awaiting => "await expression"
  | setComprehension => "set comprehension"
  | dictComprehension => "dict comprehension"
  | formatted => "f-string expression"
  | conditional => "conditional expression"
  | naming => "named expression"

end Compound

namespace Expression

/-- What messages call an expression. -/
def kind : Expression → String
  | truth value => if value then "True" else "False"
  | nothing => "None"
  | ellipsis => "ellipsis"
  | number _ => "literal"
  | text => "literal"
  | name _ => "name"
  | starred _ => "starred"
  | tuple _ => "tuple"
  | set _ => "set display"
  | dict _ => "dict literal"
  | signed _ => "expression"
  | sum _ _ => "expression"
  | comparison _ _ _ => "comparison"
  | emptySet => "function call"
  | other compound _ => compound.kind

/-- The expressions that an expression is made of. -/
def parts : Expression → List Expression
  | starred value => [value]
  | tuple items => items
  | set items => items
  | dict entries => entries.flatMap fun (key, value) => key.toList ++ [value]
  | signed value => [value]
  | sum left right => [left, right]
  | comparison left _ others => left :: others
  | other _ parts => parts
  | _ => []

/-- Whether expressions stand inside each other at most as deep as given. -/
def isWithin : (depth : Nat) → Expression → Bool
  | 0, _ => false
  | depth + 1, expression => expression.parts.all (isWithin depth)

mutual

/-- The part of an expression to which nothing can be assigned in a loop. -/
def badTarget? : Expression → Option Expression
  | name _ => none
  | other .member _ => none
  | starred value => badTarget? value
  | tuple items => badTargetIn? items
  | comparison left isMembership _ => if isMembership then badTarget? left else none
  | expression => some expression

def badTargetIn? : List Expression → Option Expression
  | [] => none
  | item :: rest =>
    match badTarget? item with
    | some bad => some bad
    | none => badTargetIn? rest

end

end Expression

/-- Why an expression has no value as a literal. -/
inductive ValueFault
  | notLiteral
  /-- An entry without a key. -/
  | missingKey
  | unhashable (type : String)
  /-- An integer that is too large to be added to an imaginary number. -/
  | oversizedSummand
  /-- Too many expressions inside each other. -/
  | tooDeep
  deriving DecidableEq, Repr

def ValueFault.message : ValueFault → String
  | notLiteral => "malformed node or string"
  | missingKey => "malformed node or string: None"
  | unhashable type => s!"unhashable type: '{type}'"
  | oversizedSummand => "int too large to convert to float"
  | tooDeep => "maximum recursion depth exceeded during ast construction"

/-- What matters of the value of a literal: the type that keeps it from being a
key or a member of a set. -/
structure Value where
  unhashable : Option String := none
  deriving DecidableEq, Repr

namespace Value

/-- Integers from here on are larger than every floating-point number. -/
def summandLimit : Nat := Nat.pow 2 1024 - Nat.pow 2 970

/-- A value that is used as a key. -/
def asKey (value : Value) : Except ValueFault Unit :=
  match value.unhashable with
  | some type => .error (.unhashable type)
  | none => .ok ()

/-- A number, possibly with a sign. -/
def signedNumber? : Expression → Option Number
  | .signed (.number number) => some number
  | .number number => some number
  | _ => none

/-- A sum, which has to be that of a number and an imaginary one. -/
def ofSum (left right : Expression) : Except ValueFault Value :=
  match signedNumber? left, right with
  | some (.integer value), .number .imaginary =>
    if summandLimit ≤ value then .error .oversizedSummand else .ok {}
  | some .decimal, .number .imaginary => .ok {}
  | _, _ => .error .notLiteral

mutual

/-- The value of a literal.  Of several faults the first one counts, and members
and keys are looked at before what follows them. -/
def ofExpression : Expression → Except ValueFault Value
  | .truth _ => .ok {}
  | .nothing => .ok {}
  | .ellipsis => .ok {}
  | .number _ => .ok {}
  | .text => .ok {}
  | .tuple items => ofItems items
  | .set items => do
    addMembers items
    return ⟨some "set"⟩
  | .emptySet => .ok ⟨some "set"⟩
  | .dict entries => do
    addEntries entries
    return ⟨some "dict"⟩
  | .signed (.number _) => .ok {}
  | .sum left right => ofSum left right
  | _ => .error .notLiteral

/-- The value of a tuple, which is a key if all its items are. -/
def ofItems : List Expression → Except ValueFault Value
  | [] => .ok {}
  | item :: rest => do
    let first ← ofExpression item
    let others ← ofItems rest
    return ⟨first.unhashable.or others.unhashable⟩

def addMembers : List Expression → Except ValueFault Unit
  | [] => .ok ()
  | item :: rest => do
    (← ofExpression item).asKey
    addMembers rest

def addEntries : List (Option Expression × Expression) → Except ValueFault Unit
  | [] => .ok ()
  | (none, _) :: _ => .error .missingKey
  | (some key, value) :: rest => do
    let key ← ofExpression key
    let _ ← ofExpression value
    key.asKey
    addEntries rest

end

/-- The most expressions that can stand inside each other in a literal. -/
def depthLimit : Nat := 2900

/-- The value of a whole text. -/
def ofWhole (expression : Expression) : Except ValueFault Value :=
  if expression.isWithin depthLimit then ofExpression expression else .error .tooDeep

end Value

end ConfigReference.Literal
