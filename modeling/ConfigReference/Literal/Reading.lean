import ConfigReference.Literal.Grammar

/-!
# Reading of literals

A text is read by the grammar of expressions.  If that fails, it is read again
with the mistakes that the grammar knows.  A fault of the tokens wins over one of
the grammar, wherever it stands; so does a bracket that is never closed, if the
fault lies on a later line.
-/

namespace ConfigReference.Literal

/-- The most rules that can be read inside each other for each token. -/
def rulesPerToken : Nat := 16

namespace Source

/-- Reads by a parser; the result comes with the number of tokens that were looked
at. -/
def read (source : Source) (parser : (depth : Nat) → Parser Expression) (isStrict : Bool) :
    Except Fault (Option Expression) × Nat :=
  let depth := rulesPerToken * (source.row.tokens.size + 2)
  let source := { source with paid := if isStrict then strictPrice else 0 }
  match ((parser depth) source).run { isStrict := isStrict } with
  | .ok value state => (.ok value, state.reached)
  | .error fault state => (.error fault, state.reached)

/-- The fault that is reported instead of one that the grammar found after it
looked at the given number of tokens. -/
def overriding (source : Source) (reached : Nat) (fault : Fault) : Fault :=
  match source.row.stop with
  | none => fault
  | some stop =>
    if stop.isFirm then stop.fault
    else
      match stop.pending, source.row.tokens[reached - 1]? with
      | some (bracket, line), some token =>
        if line < token.line then .neverClosed bracket else fault
      | _, _ => fault

/-- The fault that is reported when the grammar raised one.  It stands if the end
of the text was seen by then. -/
def raised (source : Source) (reached : Nat) (fault : Fault) : Fault :=
  match fault.isFinal, source.row.tokens[reached - 1]? with
  | false, some token => if token.seesEnd then fault else source.overriding reached fault
  | _, _ => fault

/-- The fault of tokens that cannot be read, of which the given number was looked
at. -/
def fault (source : Source) (parser : (depth : Nat) → Parser Expression) (reached : Nat) :
    Fault :=
  match source.read parser true with
  | (.error fault, again) => source.raised (max reached again) fault
  | (.ok _, again) =>
    match source.row.tokens[reached - 1]? with
    | some ⟨.indent, _, _, _⟩ => .unexpectedIndent
    | _ => source.overriding (max reached again) .unforeseen

/-- The expression that the tokens denote. -/
def expression (source : Source) (parser : (depth : Nat) → Parser Expression) :
    Except Fault Expression :=
  match source.read parser false with
  | (.ok (some value), _) => .ok value
  | (.error fault, reached) => .error (source.raised reached fault)
  | (.ok none, reached) => .error (source.fault parser reached)

/-- A fault of a field as the text with the field reports it.  Final faults, those
of tokens and those of fields further inside stay as they are. -/
def reported (source : Source) (fault : Fault) : Fault :=
  let isOfToken := source.row.stop.any fun stop => stop.isFirm && stop.fault = fault
  match fault.isFinal || isOfToken, fault with
  | true, _ => fault
  | false, .inField _ => fault
  | false, _ => .inField fault

end Source

/-- Checks the expression of a field, in which fields can stand inside each other
as deep as given. -/
def fieldFault? : (depth : Nat) → FieldCheck
  | 0, _, _ => none
  | depth + 1, line, text =>
    let source : Source :=
      { row := TokenRow.ofText line ('(' :: text ++ [')', '\n'])
        check := fieldFault? depth
        isField := true }
    match source.expression Grammar.field with
    | .ok _ => none
    | .error fault => some (source.reported fault)

/-- The expression that a text denotes. -/
def readExpression (text : String) : Except Fault Expression :=
  if text.toList.contains '\x00' then .error .nullCharacter
  else
    let source : Source :=
      { row := TokenRow.ofText 1 text.toList
        check := fieldFault? text.length }
    source.expression Grammar.whole

end ConfigReference.Literal
