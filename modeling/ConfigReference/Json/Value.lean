/-!
# JSON values

Values keep what their text says: members stay in order and may repeat, and a
number with a fraction or an exponent is kept apart from an integer.
-/

namespace ConfigReference

inductive Json where
  | null
  | bool (value : Bool)
  | integer (value : Int)
  /-- The number `mantissa * 10 ^ exponent`. -/
  | decimal (mantissa exponent : Int)
  /-- One of the number words for infinities and for no number. -/
  | nonFinite
  | string (value : String)
  | list (items : List Json)
  | object (members : List (String × Json))

namespace Json

instance : Inhabited Json := ⟨.null⟩

/-- A member of an object; of several members with one name the last counts. -/
def member? (members : List (String × Json)) (name : String) : Option Json :=
  (members.reverse.find? fun member => member.1 = name).map Prod.snd

def optionalText : Option String → Json
  | none => .null
  | some value => .string value

end Json

end ConfigReference
