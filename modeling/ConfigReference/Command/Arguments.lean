import ConfigReference.Text.Split

/-!
# Command-line arguments

Arguments are options or plain words.  An option has a long name after two
hyphens, and may have a letter after one hyphen.  It is a flag or takes a value:
the rest of its argument, or the next argument.  Letters of flags can be
grouped.  Two hyphens alone end the options.
-/

namespace ConfigReference.Command

structure OptionForm where
  name : String
  letter : Option Char := none
  takesValue : Bool := true
  deriving DecidableEq, Repr

/-- An option as it was given; a flag has no value. -/
structure Given where
  name : String
  value : Option String := none
  deriving DecidableEq, Repr

/-- What one argument says. -/
inductive Argument
  | word
  | malformed
  | options (given : List Given)
  /-- The last option needs the next argument as its value. -/
  | pending (given : List Given) (name : String)
  deriving DecidableEq, Repr

namespace Argument

def consFlag (name : String) : Argument → Argument
  | options given => options (⟨name, none⟩ :: given)
  | pending given last => pending (⟨name, none⟩ :: given) last
  | other => other

/-- Options given by their letters. -/
def ofLetters (forms : List OptionForm) : List Char → Argument
  | [] => options []
  | letter :: rest =>
    match forms.find? fun form => form.letter = some letter with
    | none => malformed
    | some form =>
      if !form.takesValue then consFlag form.name (ofLetters forms rest)
      else if rest.isEmpty then pending [] form.name
      else options [⟨form.name, some (String.ofList rest)⟩]

/-- An option given by its name, with or without a value after an equals
sign. -/
def ofName (forms : List OptionForm) (text : List Char) : Argument :=
  let name := String.ofList (text.takeWhile (· ≠ '='))
  match forms.find? fun form => form.name = name, text.dropWhile (· ≠ '=') with
  | none, _ => malformed
  | some form, [] =>
    if form.takesValue then pending [] form.name else options [⟨form.name, none⟩]
  | some form, _ :: value =>
    if form.takesValue then options [⟨form.name, some (String.ofList value)⟩] else malformed

def ofString (forms : List OptionForm) (argument : String) : Argument :=
  match argument.toList with
  | '-' :: '-' :: name => ofName forms name
  | '-' :: letter :: letters => ofLetters forms (letter :: letters)
  | _ => word

end Argument

/-- All arguments of a command, in their order. -/
structure Arguments where
  given : List Given := []
  words : List String := []
  deriving DecidableEq, Repr

namespace Arguments

def withGiven (given : List Given) (arguments : Arguments) : Arguments :=
  { arguments with given := given ++ arguments.given }

def withWord (word : String) (arguments : Arguments) : Arguments :=
  { arguments with words := word :: arguments.words }

/-- Reads arguments.  Options may stand among the words, or only before the
first one.  Malformed arguments give nothing. -/
def read? (forms : List OptionForm) (interspersed : Bool) : List String → Option Arguments
  | [] => some {}
  | argument :: rest =>
    if argument = "--" then some { words := rest }
    else
      match Argument.ofString forms argument with
      | .word =>
        if interspersed then (read? forms interspersed rest).map (withWord argument)
        else some { words := argument :: rest }
      | .malformed => none
      | .options given => (read? forms interspersed rest).map (withGiven given)
      | .pending given name =>
        match rest with
        | [] => none
        | value :: rest =>
          (read? forms interspersed rest).map (withGiven (given ++ [⟨name, some value⟩]))

/-- Whether a flag was given. -/
def has (arguments : Arguments) (name : String) : Bool :=
  arguments.given.any fun given => given.name = name

/-- The value of an option.  The last one counts; the empty value is none. -/
def value? (arguments : Arguments) (name : String) : Option String :=
  match (arguments.given.filter fun given => given.name = name).getLast? with
  | some given => given.value.filter (· ≠ "")
  | none => none

end Arguments

end ConfigReference.Command
