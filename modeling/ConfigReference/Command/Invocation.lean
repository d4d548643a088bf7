import ConfigReference.Command.Arguments

/-!
# Invocations

What the arguments of the program ask for.
-/

namespace ConfigReference.Command

/-- Which variants a command works on, and how. -/
structure Choice where
  root : Option String := none
  variant : Option String := none
  variantFile : Option String := none
  verbose : Bool := false
  deriving DecidableEq, Repr

structure GenerateOptions where
  choice : Choice := {}
  /-- Work on every built-in variant. -/
  all : Bool := false
  output : Option String := none
  schemaJson : Option String := none
  diagnosticsLog : Option String := none
  deriving DecidableEq, Repr

inductive Invocation
  | generate (options : GenerateOptions)
  | scan (choice : Choice)
  | variants
  | version
  | help
  deriving DecidableEq, Repr

namespace Invocation

def helpForm : OptionForm := { name := "help", takesValue := false }

def choiceForms : List OptionForm :=
  [{ name := "root", letter := some 'r' }, { name := "variant", letter := some 't' },
   { name := "variant-file" }, { name := "verbose", takesValue := false }, helpForm]

def generateForms : List OptionForm :=
  choiceForms ++
    [{ name := "all", letter := some 'a', takesValue := false },
     { name := "output", letter := some 'o' }, { name := "schema-json" },
     { name := "diagnostics-log" }]

def choice (arguments : Arguments) : Choice where
  root := arguments.value? "root"
  variant := arguments.value? "variant"
  variantFile := arguments.value? "variant-file"
  verbose := arguments.has "verbose"

def generateOptions (arguments : Arguments) : GenerateOptions where
  choice := choice arguments
  all := arguments.has "all"
  output := arguments.value? "output"
  schemaJson := arguments.value? "schema-json"
  diagnosticsLog := arguments.value? "diagnostics-log"

/-- Reads the arguments of a command that takes options only. -/
def readOptions? (forms : List OptionForm) (make : Arguments → Invocation)
    (texts : List String) : Option Invocation :=
  match Arguments.read? forms true texts with
  | none => none
  | some arguments =>
    if arguments.has "help" then some help
    else if arguments.words.isEmpty then some (make arguments)
    else none

def readCommand? (name : String) (texts : List String) : Option Invocation :=
  match name with
  | "generate" =>
    readOptions? generateForms (fun arguments => generate (generateOptions arguments)) texts
  | "scan" => readOptions? choiceForms (fun arguments => scan (choice arguments)) texts
  | "variants" => readOptions? [helpForm] (fun _ => variants) texts
  | "version" => readOptions? [helpForm] (fun _ => version) texts
  | _ => none

/-- What the arguments of the program ask for; nothing if they are misused. -/
def read? (texts : List String) : Option Invocation :=
  match Arguments.read? [helpForm] false texts with
  | none => none
  | some arguments =>
    if arguments.has "help" then some help
    else
      match arguments.words with
      | name :: texts => readCommand? name texts
      | [] => none

end Invocation

end ConfigReference.Command
