import ConfigReference.Literal.Parser

/-!
# Grammar of expressions

The rules by which tokens make up expressions.  A rule that refers to others
gets them as an argument.  With each rule stand the mistakes that it knows; they
are looked for in the order in which the rules come to them, since the first one
that is found ends the reading.
-/

namespace ConfigReference.Literal.Grammar

open ConfigReference.Literal.Parser

/-- What a rule reads, given the rules that are kept. -/
abbrev Definition (α : Type) := (Rule → Parser Expression) → Parser α

/-- Operators between operands, in any order of precedence. -/
def operators : List String :=
  ["|", "^", "&", "<<", ">>", "+", "-", "*", "/", "//", "%", "@"]

def operation (left : Expression) (operator : String) (right : Expression) : Expression :=
  if operator = "+" || operator = "-" then .sum left right else .other .operation [left, right]

/-- Operands with operators between them. -/
def operands : Definition Expression := fun rule => do
  let first ← rule .factor
  let rest ← many do return (← signOf operators, ← rule .factor)
  return rest.foldl (fun left (operator, right) => operation left operator right) first

/-- The operator of a comparison; the result tells whether it is that of
membership. -/
def comparator : Parser Bool :=
  firstOf
    [do return (← signOf ["==", "!=", "<=", "<", ">=", ">", "in"]) = "in",
      do sign "not"; sign "in"; return false,
      do sign "is"; sign "not"; return false,
      do sign "is"; return false]

def comparison : Definition Expression := fun rule => do
  let first ← operands rule
  let others ← many do return (← comparator, ← operands rule)
  match others with
  | [] => return first
  | (isMembership, _) :: _ => return .comparison first isMembership (others.map Prod.snd)

def inversion : Definition Expression := fun rule => do
  let signs ← many (sign "not")
  let value ← inside .sign (comparison rule) signs.length
  return signs.foldl (fun value _ => .other .operation [value]) value

/-- Values joined by a word. -/
def joinedBy (word : String) (value : Parser Expression) : Parser Expression := do
  let first ← value
  let rest ← many do sign word; value
  return if rest.isEmpty then first else .other .operation (first :: rest)

def disjunction : Definition Expression := fun rule =>
  joinedBy "or" (joinedBy "and" (inversion rule))

/-! ## Parameters of functions -/

def defaultValue : Definition Unit := fun rule =>
  firstOf
    [do sign "="; let _ ← inside .parameter (rule .expression),
      do
        mistake do
          sign "="
          ahead (signOf [")", ","])
          (raise .missingDefault : Parser Unit)
        failure]

/-- The end of a parameter, which a comma or the colon after all parameters
marks. -/
def parameterEnd : Parser Unit :=
  firstOf [sign ",", ahead (sign ":")]

def parameter : Parser Unit := do
  let _ ← name
  parameterEnd

def parameterWithDefault : Definition Unit := fun rule => do
  let _ ← name
  defaultValue rule
  parameterEnd

def parameterMaybeDefault : Definition Unit := fun rule => do
  let _ ← name
  let _ ← attempt (defaultValue rule)
  parameterEnd

def slashEnd : Parser Unit := do
  sign "/"
  parameterEnd

def slashPlain : Parser Unit := do
  let _ ← oneOrMore parameter
  slashEnd

def slashWithDefault : Definition Unit := fun rule => do
  let _ ← many parameter
  let _ ← oneOrMore (parameterWithDefault rule)
  slashEnd

def mistakenUnpacking : Parser Unit :=
  firstOf
    [do sign "**"; let _ ← name; sign "="; raise .unpackingDefault,
      do sign "**"; let _ ← name; sign ","; let _ ← name; raise .afterUnpacking,
      do sign "**"; let _ ← name; sign ","; let _ ← signOf ["*", "**", "/"]; raise .afterUnpacking]

def unpackingParameter : Parser Unit := do
  mistake mistakenUnpacking
  sign "**"
  parameter

def mistakenStar : Definition Unit := fun rule =>
  firstOf
    [do
        sign "*"
        firstOf [sign ":", do sign ","; let _ ← signOf [":", "**"]]
        raise .bareStar,
      do sign "*"; let _ ← name; sign "="; raise .starDefault,
      do
        sign "*"
        firstOf [parameter, sign ","]
        let _ ← many (parameterMaybeDefault rule)
        sign "*"
        firstOf [parameter, sign ","]
        raise .repeatedStar]

/-- The parameters from a star on. -/
def starParameters : Definition Unit := fun rule => do
  mistake (mistakenStar rule)
  firstOf
    [do
        sign "*"
        parameter
        let _ ← many (parameterMaybeDefault rule)
        let _ ← attempt unpackingParameter,
      do
        sign "*"
        sign ","
        let _ ← oneOrMore (parameterMaybeDefault rule)
        let _ ← attempt unpackingParameter,
      unpackingParameter]

def mistakenParameters : Definition Unit := fun rule =>
  firstOf
    [do
        let _ ← many parameter
        firstOf
          [slashWithDefault rule,
            do let _ ← oneOrMore (parameterWithDefault rule)]
        parameter
        raise .plainAfterDefault,
      do
        let _ ← many parameter
        sign "("
        let _ ← separated name
        let _ ← attempt (sign ",")
        sign ")"
        raise .bracketedParameters,
      do sign "/"; sign ","; raise .nothingBeforeSlash,
      do
        firstOf [slashPlain, slashWithDefault rule]
        let _ ← many (parameterMaybeDefault rule)
        sign "/"
        raise .repeatedSlash,
      do
        let _ ← attempt (firstOf [slashPlain, slashWithDefault rule])
        let _ ← many (parameterMaybeDefault rule)
        sign "*"
        firstOf [sign ",", parameter]
        let _ ← many (parameterMaybeDefault rule)
        sign "/"
        raise .slashAfterStar,
      do
        let _ ← oneOrMore (parameterMaybeDefault rule)
        sign "/"
        sign "*"
        raise .slashBeforeStar]

def parameters : Definition Unit := fun rule => do
  mistake (mistakenParameters rule)
  let stars : Parser Unit := do let _ ← attempt (starParameters rule)
  firstOf
    [do
        slashPlain
        let _ ← many parameter
        let _ ← many (parameterWithDefault rule)
        stars,
      do
        slashWithDefault rule
        let _ ← many (parameterWithDefault rule)
        stars,
      do
        let _ ← oneOrMore parameter
        let _ ← many (parameterWithDefault rule)
        stars,
      do
        let _ ← oneOrMore (parameterWithDefault rule)
        stars,
      starParameters rule]

def lambda : Definition Expression := fun rule => do
  sign "lambda"
  let _ ← attempt (parameters rule)
  sign ":"
  return .other .lambda [← inside .function (rule .expression)]

/-! ## Expressions -/

/-- An expression by itself. -/
def plainExpression : Definition Expression := fun rule =>
  firstOf
    [do
        let value ← rule .disjunction
        sign "if"
        let condition ← rule .disjunction
        sign "else"
        let other ← inside .alternative (rule .expression)
        return .other .conditional [condition, value, other],
      rule .disjunction,
      lambda rule]

def starExpression : Definition Expression := fun rule =>
  firstOf [do sign "*"; return .starred (← operands rule), rule .expression]

/-- Several expressions make up a tuple. -/
def tupleOf (item : Parser Expression) : Parser Expression := do
  let first ← item
  let rest ← many do sign ","; item
  let comma ← attempt (sign ",")
  return if rest.isEmpty && comma.isNone then first else .tuple (first :: rest)

def starExpressions : Definition Expression := fun rule =>
  tupleOf (starExpression rule)

/-- The words that once were statements. -/
def isStatementWord (word : String) : Bool :=
  word = "print" || word = "exec"

def isStatementName : Expression → Bool
  | .name word => isStatementWord word
  | _ => false

/-- The words that are names in expressions but may begin a statement. -/
def softWords : List String := ["_", "case", "match"]

/-- A name that is the beginning of such a word. -/
def softWord : Parser Unit := do
  let word ← name
  if softWords.any fun softWord => word.toList.isPrefixOf softWord.toList then return else failure

/-- Two expressions side by side. -/
def expressionPair : Definition Expression := fun rule => do
  notAhead (firstOf [do let _ ← name; let _ ← text, softWord])
  let first ← rule .disjunction
  let _ ← leniently (plainExpression rule)
  return first

/-- Whether a bracket is open at the last token. -/
def isBracketed : Parser Bool := do
  return match (← read).row.tokens[(← position) - 1]? with
    | some token => token.level ≠ 0
    | none => false

def mistakenExpression : Definition Unit := fun rule => do
  match ← attempt (expressionPair rule) with
  | some first =>
    if !isStatementName first && (← isBracketed) then raise .missingComma else failure
  | none =>
    let _ ← rule .disjunction
    sign "if"
    let _ ← rule .disjunction
    notAhead (signOf ["else", ":"])
    raise .missingElse

/-- A word that once was a statement, with an expression after it. -/
def mistakenStatement : Definition Unit := fun rule => do
  let word ← name
  notAhead (sign "(")
  let _ ← starExpressions rule
  if isStatementWord word then raise (.missingParentheses word) else failure

def expression : Definition Expression := fun rule => do
  mistake (mistakenExpression rule)
  mistake (mistakenStatement rule)
  plainExpression rule

/-- A value that is given a name. -/
def naming : Definition Expression := fun rule => do
  let _ ← name
  sign ":="
  return .other .naming [← rule .expression]

def namedExpression : Definition Expression := fun rule =>
  firstOf
    [naming rule,
      do
        mistake (rule .mistakenNaming)
        let value ← rule .expression
        notAhead (sign ":=")
        return value]

def starNamedExpression : Definition Expression := fun rule =>
  firstOf [do sign "*"; return .starred (← operands rule), namedExpression rule]

def starNamedExpressions : Definition (List Expression) := fun rule => do
  let items ← separated (starNamedExpression rule)
  let _ ← attempt (sign ",")
  return items

/-- A starred argument; a star by itself is always a mistake. -/
def starredExpression : Definition Expression := fun rule => do
  sign "*"
  match ← attempt (rule .expression) with
  | some value => return .starred value
  | none => raise .bareStarred

/-- An expression that is neither given a name nor followed by one. -/
def unnamedExpression : Definition Expression := fun rule =>
  firstOf
    [naming rule,
      do
        let value ← rule .expression
        notAhead (sign ":=")
        return value]

def yielding : Definition Expression := fun rule => do
  sign "yield"
  let value ← firstOf
    [do sign "from"; return some (← rule .expression),
      attempt (starExpressions rule)]
  return .other .yielding value.toList

/-! ## Targets of loops -/

def targets : Definition Unit := fun rule =>
  firstOf
    [do
        let _ ← rule .target
        notAhead (sign ","),
      do
        let _ ← separated (rule .target)
        let _ ← attempt (sign ",")]

def mistakenTarget : Definition Unit := fun rule => do
  let _ ← attempt (sign "async")
  sign "for"
  match (← starExpressions rule).badTarget? with
  | some bad => raise (.assignmentTo bad.kind)
  | none => failure

/-- One loop of a comprehension: what it goes through, and its conditions.  After
the word that ends its targets it has to go on. -/
def loop : Definition (List Expression) := fun rule => do
  let opening : Parser Unit := do
    sign "for"
    targets rule
    sign "in"
  match ← attempt (firstOf [do sign "async"; opening, opening]) with
  | some _ => do
    let items ← rule .disjunction
    let conditions ← many do sign "if"; rule .disjunction
    return items :: conditions
  | none => do
    mistake (mistakenTarget rule)
    failure

def loops : Definition (List Expression) := fun rule => do
  return (← oneOrMore (loop rule)).flatten

def mistakenComprehension : Definition Unit := fun rule =>
  firstOf
    [do
        let _ ← signOf ["[", "(", "\x7b"]
        let _ ← starredExpression rule
        let _ ← loops rule
        raise .starredComprehension,
      do
        let _ ← signOf ["[", "\x7b"]
        let _ ← starNamedExpression rule
        sign ","
        let _ ← starNamedExpressions rule
        let _ ← loops rule
        raise .bareTarget,
      do
        let _ ← signOf ["[", "\x7b"]
        let _ ← starNamedExpression rule
        sign ","
        let _ ← loops rule
        raise .bareTarget]

def generator : Definition Expression := fun rule =>
  firstOf
    [do
        sign "("
        let item ← unnamedExpression rule
        let parts ← loops rule
        sign ")"
        return .other .generator (item :: parts),
      do
        mistake (mistakenComprehension rule)
        failure]

/-! ## Brackets and braces -/

def tuple : Definition Expression := fun rule => do
  sign "("
  let items ← attempt do
    let first ← starNamedExpression rule
    sign ","
    let rest ← attempt (starNamedExpressions rule)
    return first :: rest.getD []
  sign ")"
  return .tuple (items.getD [])

def mistakenGroup : Definition Unit := fun rule =>
  firstOf
    [do
        sign "("
        let _ ← starredExpression rule
        sign ")"
        raise .starredExpression,
      do
        sign "("
        sign "**"
        let _ ← rule .expression
        sign ")"
        raise .doubleStarredExpression]

def group : Definition Expression := fun rule =>
  firstOf
    [do
        sign "("
        let value ← firstOf [yielding rule, namedExpression rule]
        sign ")"
        return value,
      do
        mistake (mistakenGroup rule)
        failure]

def keyValue : Definition (Option Expression × Expression) := fun rule => do
  let key ← rule .expression
  sign ":"
  return (some key, ← rule .expression)

def entry : Definition (Option Expression × Expression) := fun rule =>
  firstOf [do sign "**"; return (none, ← operands rule), keyValue rule]

/-- A key without a proper value. -/
def mistakenValue : Definition Unit := fun rule =>
  firstOf
    [do
        let _ ← rule .expression
        sign ":"
        sign "*"
        let _ ← operands rule
        raise .starredValue,
      do
        let _ ← rule .expression
        sign ":"
        ahead (signOf ["\x7d", ","])
        raise .missingValue]

def mistakenEntry : Definition Unit := fun rule =>
  firstOf
    [do
        let _ ← rule .expression
        notAhead (sign ":")
        raise .missingColon,
      mistakenValue rule]

def mistakenEntries : Definition Unit := fun rule =>
  firstOf
    [do
        let _ ← separated (entry rule)
        sign ","
        mistakenEntry rule,
      mistakenValue rule]

/-- A dictionary.  Its mistakes count the first time as well. -/
def dict : Definition Expression := fun rule =>
  firstOf
    [do
        sign "\x7b"
        let entries ← attempt do
          let entries ← separated (entry rule)
          let _ ← attempt (sign ",")
          return entries
        sign "\x7d"
        return .dict (entries.getD []),
      do
        sign "\x7b"
        mistakenEntries rule
        failure]

def set : Definition Expression := fun rule => do
  sign "\x7b"
  let items ← starNamedExpressions rule
  sign "\x7d"
  return .set items

def dictComprehension : Definition Expression := fun rule =>
  firstOf
    [do
        sign "\x7b"
        let (key, value) ← keyValue rule
        let parts ← loops rule
        sign "\x7d"
        return .other .dictComprehension (key.toList ++ value :: parts),
      do
        mistake do
          sign "\x7b"
          sign "**"
          let _ ← operands rule
          let _ ← loops rule
          sign "\x7d"
          (raise .unpackedComprehension : Parser Unit)
        failure]

def setComprehension : Definition Expression := fun rule =>
  firstOf
    [do
        sign "\x7b"
        let item ← namedExpression rule
        let parts ← loops rule
        sign "\x7d"
        return .other .setComprehension (item :: parts),
      do
        mistake (mistakenComprehension rule)
        failure]

/-! ## Arguments of calls -/

structure Arguments where
  /-- The arguments without a keyword. -/
  positional : List Expression := []
  /-- The other arguments, and whether they unpack a dictionary. -/
  keywords : List (Bool × Expression) := []

def Arguments.values (arguments : Arguments) : List Expression :=
  arguments.positional ++ arguments.keywords.map Prod.snd

def mistakenKeyword : Definition Unit := fun rule =>
  firstOf
    [do
        let word ← signOf ["True", "False", "None"]
        sign "="
        raise (.assignmentTo word),
      do
        let _ ← name
        sign "="
        let _ ← rule .expression
        let _ ← loops rule
        raise .assignmentSign,
      do
        notAhead do let _ ← name; sign "="
        let _ ← rule .expression
        sign "="
        raise .keywordExpression]

/-- An argument with a keyword, or one of another form. -/
def keywordOr (other : Parser Arguments) : Definition Arguments := fun rule => do
  mistake (mistakenKeyword rule)
  firstOf
    [do
        let _ ← name
        sign "="
        return ⟨[], [(false, ← rule .expression)]⟩,
      other]

def Arguments.joined (parts : List Arguments) : Arguments :=
  ⟨parts.flatMap Arguments.positional, parts.flatMap Arguments.keywords⟩

def keywordArguments : Definition Arguments := fun rule =>
  let starred := separated (keywordOr (do return ⟨[← starredExpression rule], []⟩) rule)
  let unpacked :=
    separated (keywordOr (do sign "**"; return ⟨[], [(true, ← rule .expression)]⟩) rule)
  firstOf
    [do
        let first ← starred
        sign ","
        return .joined (first ++ (← unpacked)),
      do return .joined (← starred),
      do return .joined (← unpacked)]

/-- Arguments without keywords. -/
def plainArguments : Definition Arguments := fun rule => do
  let items ← separated <| firstOf
    [starredExpression rule,
      do
        let value ← unnamedExpression rule
        notAhead (sign "=")
        return value]
  return ⟨items, []⟩

def argumentList : Definition Arguments := fun rule =>
  firstOf
    [do
        let plain ← plainArguments rule
        let keywords ← attempt do sign ","; keywordArguments rule
        return .joined (plain :: keywords.toList),
      keywordArguments rule]

def mistakenArguments : Definition Unit := fun rule => do
  let generators : Parser Unit := do
    let _ ← rule .expression
    let _ ← loops rule
  let early ← attempt <| firstOf
    [do
        let _ ← firstOf
          [do let _ ← plainArguments rule; sign ","; keywordArguments rule, keywordArguments rule]
        sign ","
        let _ ← separated do let _ ← starredExpression rule; notAhead (sign "=")
        raise .starAfterUnpacking,
      do
        generators
        sign ","
        let _ ← attempt (firstOf [do let _ ← argumentList rule, generators])
        raise .bareGenerator,
      do
        let _ ← name
        sign "="
        generators
        raise .assignmentSign,
      do
        let arguments ← argumentList rule
        let _ ← loops rule
        if arguments.positional.length ≤ 1 then return else raise .bareGenerator]
  match early with
  | some _ => failure
  | none =>
    firstOf
      [do
          let _ ← argumentList rule
          sign ","
          generators
          raise .bareGenerator,
        do
          let arguments ← argumentList rule
          sign ","
          let _ ← argumentList rule
          raise (if arguments.keywords.any Prod.fst then .positionalAfterUnpacking
            else .positionalAfterKeyword)]

/-- The arguments of a call. -/
def arguments : Definition (List Expression) := fun rule =>
  firstOf
    [do
        let arguments ← argumentList rule
        let _ ← attempt (sign ",")
        ahead (sign ")")
        return arguments.values,
      do
        mistake (mistakenArguments rule)
        failure]

/-! ## Atoms -/

/-- Texts side by side are one text. -/
def texts : Parser Expression := do
  let quotations ← oneOrMore text
  match Quotation.faultOf? (← read).check none quotations with
  | some fault => raise fault
  | none =>
    return if quotations.any (·.2.isFormatted) then .other .formatted [] else .text

def atom : Definition Expression := fun rule => do
  match (← current).kind with
  | .name word => do advance; return .name word
  | .number (.oversized digits) => do
    raise (if (← read).isField then .oversizedInField else .oversizedNumber digits)
  | .number number => do advance; return .number number
  | .text _ => texts
  | .sign "True" => do advance; return .truth true
  | .sign "False" => do advance; return .truth false
  | .sign "None" => do advance; return .nothing
  | .sign "..." => do advance; return .ellipsis
  | .sign "(" => inside .bracket (firstOf [tuple rule, group rule, generator rule])
  | .sign "\x7b" =>
    inside .brace (firstOf [dict rule, set rule, dictComprehension rule, setComprehension rule])
  | _ => failure

/-- A call with arguments. -/
def called (function : Expression) (arguments : List Expression) : Expression :=
  match function, arguments with
  | .name "set", [] => .emptySet
  | _, _ => .other .call (function :: arguments)

/-- The arguments of a call with the brackets around them, which may be a
comprehension by mistake. -/
def bracketedArguments : Definition (List Expression) := fun rule =>
  firstOf
    [do return [← generator rule],
      do
        sign "("
        let arguments ← attempt (arguments rule)
        sign ")"
        return arguments.getD []]

/-- A part that may follow an atom; each makes an expression of the one before. -/
def trailer : Definition (Expression → Expression) := fun rule =>
  firstOf
    [do sign "."; let _ ← name; return fun value => .other .member [value],
      do
        ahead (signOf ["(", "\x7b"])
        let arguments ← inside .call (bracketedArguments rule)
        return fun function => called function arguments]

def primary : Definition Expression := fun rule => do
  let first ← atom rule
  return (← many (trailer rule)).foldl (fun value step => step value) first

def power : Definition Expression := fun rule => do
  let base ← firstOf
    [do sign "await"; return .other .awaiting [← primary rule], primary rule]
  match ← attempt do sign "**"; inside .power (rule .factor) with
  | some exponent => return .other .operation [base, exponent]
  | none => return base

def factor : Definition Expression := fun rule =>
  firstOf
    [do
        let mark ← signOf ["+", "-", "~"]
        let value ← inside .sign (rule .factor)
        return if mark = "~" then .other .operation [value] else .signed value,
      power rule]

/-! ## Targets -/

/-- What shows that a target goes on. -/
def targetGoesOn : Parser Unit := do
  let _ ← signOf ["(", "[", "."]

def target : Definition Expression := fun rule =>
  firstOf
    [do
        sign "*"
        notAhead (sign "*")
        rule .target,
      rule .targetAtom]

def targetPrimary : Definition Expression := fun rule => do
  let first ← atom rule
  ahead targetGoesOn
  let steps ← many do
    let step ← trailer rule
    ahead targetGoesOn
    return step
  return steps.foldl (fun value step => step value) first

def targetAtom : Definition Expression := fun rule =>
  firstOf
    [do
        let value ← rule .targetPrimary
        sign "."
        let _ ← name
        notAhead targetGoesOn
        return .other .member [value],
      do return .name (← name),
      do
        sign "("
        let value ← rule .targetAtom
        sign ")"
        return value,
      do
        sign "("
        let _ ← attempt do
          let _ ← rule .target
          sign ","
          let _ ← attempt do
            let _ ← separated (rule .target)
            let _ ← attempt (sign ",")
        sign ")"
        return .tuple []]

def mistakenNaming : Definition Expression := fun rule =>
  firstOf
    [do
        let value ← rule .expression
        sign ":="
        let _ ← rule .expression
        raise (.namingOf value.kind),
      do
        let _ ← name
        sign "="
        let _ ← operands rule
        notAhead (signOf ["=", ":="])
        raise .assignmentSign,
      do
        notAhead (firstOf
          [do let _ ← tuple rule, do let _ ← generator rule,
            do let _ ← signOf ["True", "None", "False"]])
        let value ← operands rule
        sign "="
        let _ ← operands rule
        notAhead (signOf ["=", ":="])
        raise (.assignmentHere value.kind)]

/-- What a rule reads. -/
def definition : Rule → Definition Expression
  | .expression => expression
  | .disjunction => disjunction
  | .factor => factor
  | .target => target
  | .targetAtom => targetAtom
  | .targetPrimary => targetPrimary
  | .mistakenNaming => mistakenNaming

/-- Reads by a rule, with at most the given number of rules inside each other. -/
def parse : (depth : Nat) → Rule → Parser Expression
  | 0, _ => failure
  | depth + 1, rule => keeping rule (definition rule (parse depth))

/-- The expression of a field. -/
def field (depth : Nat) : Parser Expression :=
  starExpressions (parse depth)

/-- A whole text. -/
def whole (depth : Nat) : Parser Expression := do
  let value ← tupleOf (parse depth .expression)
  let _ ← many do if (← current).kind = .lineEnd then advance else failure
  if (← current).kind = .finish then return value else failure

end ConfigReference.Literal.Grammar
