import ConfigReference.Table

/-!
# Environments

An environment gives values to variables.  The system that keeps it takes texts
only up to a null character and names only up to an equals sign, so a variable
that holds one there cannot be set.
-/

namespace ConfigReference

abbrev Environment := Table String String

/-- Why a variable cannot be set. -/
inductive VariableFault
  | nullCharacter
  | equalsInName
  deriving DecidableEq, Repr

def VariableFault.message : VariableFault → String
  | nullCharacter => "embedded null byte"
  | equalsInName => "illegal environment variable name"

namespace Environment

def set (environment : Environment) (name value : String) : Except VariableFault Environment :=
  if name.toList.contains '\x00' || value.toList.contains '\x00' then .error .nullCharacter
  else if name.toList.contains '=' then .error .equalsInName
  else .ok (environment.insert name value)

/-- Sets a variable that is not set yet. -/
def supply (environment : Environment) (name value : String) :
    Except VariableFault Environment :=
  if environment.contains name then .ok environment else environment.set name value

end Environment

end ConfigReference
