/-!
# Decimal fractions as binary numbers

A number with a fraction or an exponent is read as the nearest number with a
binary mantissa of 53 digits, of two equally near ones that with the even
mantissa.  Only two things about the result are of interest: whether it is
finite, and which integer it is if it is one.
-/

namespace ConfigReference.Number

/-- A finite number `mantissa * 2 ^ exponent`. -/
structure Binary where
  mantissa : Nat
  exponent : Int

/-- The integer nearest to a quotient, of two the even one. -/
def roundQuotient (numerator denominator : Nat) : Nat :=
  let quotient := numerator / denominator
  let twice := 2 * (numerator % denominator)
  if twice < denominator then quotient
  else if denominator < twice then quotient + 1
  else if quotient % 2 = 0 then quotient
  else quotient + 1

/-- The quotient of a fraction by a power of two, as a fraction. -/
def scaled (numerator denominator : Nat) (power : Int) : Nat × Nat :=
  if 0 ≤ power then (numerator, denominator * Nat.pow 2 power.toNat)
  else (numerator * Nat.pow 2 (-power).toNat, denominator)

/-- The exponent at which the mantissa of a positive fraction has 53 digits,
but not less than that of the smallest positive number. -/
def binaryExponent (numerator denominator : Nat) : Int :=
  let guess : Int := (Nat.log2 numerator : Int) - Nat.log2 denominator - 52
  let (high, low) := scaled numerator denominator guess
  let exponent := if high < low * Nat.pow 2 52 then guess - 1 else guess
  max exponent (-1074)

/-- The nearest binary number to a fraction with a positive denominator. -/
def nearest (numerator denominator : Nat) : Binary :=
  if numerator = 0 then ⟨0, 0⟩
  else
    let exponent := binaryExponent numerator denominator
    let (high, low) := scaled numerator denominator exponent
    ⟨roundQuotient high low, exponent⟩

/-- The integer that a binary number is, if it is one. -/
def Binary.integer? (number : Binary) : Option Nat :=
  if 0 ≤ number.exponent then some (number.mantissa * Nat.pow 2 number.exponent.toNat)
  else
    let unit := Nat.pow 2 (-number.exponent).toNat
    if number.mantissa % unit = 0 then some (number.mantissa / unit) else none

/-- What is left of a decimal number once it is read as a binary one. -/
inductive Reading
  | tooLarge
  | fractional
  | whole (value : Int)

/-- Reads `mantissa * 10 ^ exponent`.  Numbers beyond the greatest finite one
and those that vanish are told from the number of digits alone. -/
def read (mantissa exponent : Int) : Reading :=
  let digits := mantissa.natAbs
  let magnitude : Int := (toString digits).length + exponent
  if digits = 0 then .whole 0
  else if 310 < magnitude then .tooLarge
  else if magnitude < -330 then .whole 0
  else
    let number :=
      if 0 ≤ exponent then nearest (digits * Nat.pow 10 exponent.toNat) 1
      else nearest digits (Nat.pow 10 (-exponent).toNat)
    match number.integer? with
    | none => .fractional
    | some value =>
      if Nat.pow 2 1024 ≤ value then .tooLarge
      else .whole (if mantissa < 0 then -(value : Int) else value)

end ConfigReference.Number
