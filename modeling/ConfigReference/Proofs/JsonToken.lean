import ConfigReference.Json.Parser
import ConfigReference.Json.Printer
import ConfigReference.Proofs.Text
import Mathlib.Data.Nat.Digits.Defs

/-!
# Written numerals and strings are read back

The numeral of an integer is read as that integer if no further digit, fraction
or exponent follows it.  A string is read back character by character: whatever
form a character is written in, the reader takes exactly that form and goes on
with what follows.
-/

namespace ConfigReference.Json

open Text

/-! ## Numerals -/

/-- A numeral that stands before the text ends there. -/
def EndsNumeral (rest : List Char) : Prop :=
  ∀ c ∈ rest.head?, isDigit c = false ∧ c ≠ '.' ∧ c ≠ 'e' ∧ c ≠ 'E'

theorem endsNumeral_nil : EndsNumeral [] := by
  intro c hc
  simp at hc

theorem endsNumeral_cons {c : Char} {rest : List Char}
    (hc : isDigit c = false ∧ c ≠ '.' ∧ c ≠ 'e' ∧ c ≠ 'E') : EndsNumeral (c :: rest) := by
  intro first hfirst
  simp only [List.head?_cons, Option.mem_def, Option.some.injEq] at hfirst
  exact hfirst ▸ hc

theorem isDigit_of_mem_toDigits {number : Nat} {c : Char} (hc : c ∈ Nat.toDigits 10 number) :
    isDigit c = true :=
  Nat.isDigit_of_mem_toDigits (by decide) (by decide) hc

theorem natural_toDigits (number : Nat) : natural (Nat.toDigits 10 number) = number := by
  have hvalue : natural (Nat.toDigits 10 number) =
      Nat.ofDigitChars 10 (Nat.toDigits 10 number) 0 := by
    rw [natural, ofDigits, List.foldl_map, Nat.ofDigitChars_eq_foldl]
    simp only [Nat.mul_comm]
  rw [hvalue, Nat.ofDigitChars_ten_toDigits]

/-- No numeral but that of zero begins with a zero. -/
theorem eq_nil_of_toDigits_eq_zero_cons {number : Nat} {digits : List Char}
    (hdigits : Nat.toDigits 10 number = '0' :: digits) : digits = [] := by
  induction number using Nat.strongRecOn generalizing digits with
  | ind number ih =>
    rcases Nat.lt_or_ge number 10 with hsmall | hlarge
    · rw [Nat.toDigits_of_lt_base hsmall] at hdigits
      exact (List.cons.inj hdigits).2.symm
    · rw [Nat.toDigits_of_base_le (by decide) hlarge] at hdigits
      obtain ⟨first, front, hfront⟩ :=
        List.exists_cons_of_ne_nil (Nat.toDigits_ne_nil (n := number / 10) (b := 10))
      rw [hfront, List.cons_append] at hdigits
      obtain ⟨rfl, -⟩ := List.cons.inj hdigits
      -- the digits before the last one are then a single zero, but they stand for number / 10
      have hzero := ih (number / 10) (by omega) hfront
      have hvalue := natural_toDigits (number / 10)
      rw [hfront, hzero] at hvalue
      have : natural ['0'] = 0 := by decide
      omega

theorem digitRow?_append {digits rest : List Char} (hdigits : ∀ c ∈ digits, isDigit c = true)
    (hne : digits ≠ []) (hrest : EndsNumeral rest) :
    digitRow? (digits ++ rest) = some (digits, rest) := by
  have htake : (digits ++ rest).takeWhile isDigit = digits := by
    rw [List.takeWhile_append_of_pos hdigits]
    cases rest with
    | nil => simp
    | cons c rest => simp [(hrest c rfl).1]
  have hdrop : (digits ++ rest).dropWhile isDigit = rest := by
    rw [List.dropWhile_append_of_pos hdigits]
    cases rest with
    | nil => simp
    | cons c rest => simp [(hrest c rfl).1]
  rw [digitRow?, htake, hdrop]
  cases digits with
  | nil => exact absurd rfl hne
  | cons digit digits => rfl

theorem wholePart?_toDigits (number : Nat) {rest : List Char} (hrest : EndsNumeral rest) :
    wholePart? (Nat.toDigits 10 number ++ rest) = some (Nat.toDigits 10 number, rest) := by
  have hrow := digitRow?_append (fun c hc => isDigit_of_mem_toDigits hc)
    (Nat.toDigits_ne_nil (n := number)) hrest
  rw [wholePart?, hrow]
  split
  · next digit digits rest' hzero =>
    simp only [Option.some.injEq, Prod.mk.injEq] at hzero
    simpa using eq_nil_of_toDigits_eq_zero_cons hzero.1
  · rfl

theorem fraction?_of_endsNumeral {rest : List Char} (hrest : EndsNumeral rest) :
    fraction? rest = some (none, rest) := by
  cases rest with
  | nil => rfl
  | cons c rest =>
    have hpoint := (hrest c rfl).2.1
    rw [fraction?]
    intro rest' heq
    exact hpoint (List.cons.inj heq).1

theorem exponent?_of_endsNumeral {rest : List Char} (hrest : EndsNumeral rest) :
    exponent? rest = some (none, rest) := by
  cases rest with
  | nil => rfl
  | cons c rest =>
    obtain ⟨-, -, hsmall, hcapital⟩ := hrest c rfl
    simp [exponent?, hsmall, hcapital]

theorem unsigned?_toDigits (negative : Bool) {number : Nat} (hnumber : number < 10 ^ digitLimit)
    {rest : List Char} (hrest : EndsNumeral rest) :
    unsigned? negative (Nat.toDigits 10 number ++ rest) =
      some (.integer ((if negative then -1 else 1) * number), rest) := by
  have hlength : (Nat.toDigits 10 number).length ≤ digitLimit :=
    (Nat.length_toDigits_le_iff (by decide) (by decide)).mpr hnumber
  simp [unsigned?, wholePart?_toDigits number hrest, fraction?_of_endsNumeral hrest,
    exponent?_of_endsNumeral hrest, natural_toDigits, hlength, guard]

theorem toList_toString_of_nonneg {value : Int} (hvalue : 0 ≤ value) :
    (toString value).toList = Nat.toDigits 10 value.toNat := by
  have htext : (toString value).toList = value.repr.toList := rfl
  rw [htext, Int.repr_eq_if, if_pos hvalue, Nat.repr_eq_ofList_toDigits, String.toList_ofList]

theorem toList_toString_of_neg {value : Int} (hvalue : value < 0) :
    (toString value).toList = '-' :: Nat.toDigits 10 (-value).toNat := by
  have htext : (toString value).toList = value.repr.toList := rfl
  have hdigits : (-value).toNat.repr.toList = Nat.toDigits 10 (-value).toNat := by
    rw [Nat.repr_eq_ofList_toDigits, String.toList_ofList]
  rw [htext, Int.repr_eq_if, if_neg (by omega), String.toList_append, hdigits]
  rfl

theorem exists_toDigits_eq_cons (number : Nat) :
    ∃ c tail, Nat.toDigits 10 number = c :: tail ∧ isDigit c = true := by
  obtain ⟨c, tail, hdigits⟩ :=
    List.exists_cons_of_ne_nil (Nat.toDigits_ne_nil (n := number) (b := 10))
  exact ⟨c, tail, hdigits, isDigit_of_mem_toDigits (hdigits ▸ List.mem_cons_self)⟩

/-- An integer begins with a digit or with a minus sign. -/
theorem exists_toString_eq_cons (value : Int) :
    ∃ c tail, (toString value).toList = c :: tail ∧ (isDigit c = true ∨ c = '-') := by
  rcases lt_or_ge value 0 with hsign | hsign
  · exact ⟨'-', _, toList_toString_of_neg hsign, .inr rfl⟩
  · obtain ⟨c, tail, hdigits, hc⟩ := exists_toDigits_eq_cons value.toNat
    exact ⟨c, tail, (toList_toString_of_nonneg hsign).trans hdigits, .inl hc⟩

theorem number?_toString {value : Int} (hvalue : value.natAbs < 10 ^ digitLimit)
    {rest : List Char} (hrest : EndsNumeral rest) :
    number? ((toString value).toList ++ rest) = some (.integer value, rest) := by
  rcases lt_or_ge value 0 with hsign | hsign
  · obtain ⟨c, tail, hdigits, hc⟩ := exists_toDigits_eq_cons (-value).toNat
    have hunsigned :=
      unsigned?_toDigits true (show (-value).toNat < 10 ^ digitLimit by omega) hrest
    have hword : after? "Infinity".toList (Nat.toDigits 10 (-value).toNat ++ rest) = none := by
      have hne : 'I' ≠ c := by
        rintro rfl
        exact absurd hc (by decide)
      simp [hdigits, after?, hne]
    have hopposite : -1 * ((-value).toNat : Int) = value := by omega
    rw [toList_toString_of_neg hsign, List.cons_append, number?, hword, hunsigned, if_pos rfl,
      hopposite]
  · obtain ⟨c, tail, hdigits, hc⟩ := exists_toDigits_eq_cons value.toNat
    have hunsigned :=
      unsigned?_toDigits false (show value.toNat < 10 ^ digitLimit by omega) hrest
    rw [toList_toString_of_nonneg hsign]
    rw [hdigits, List.cons_append] at hunsigned ⊢
    rw [number?, hunsigned]
    · simp [hsign]
    · -- a digit is no minus sign
      rintro rest' heq
      rw [(List.cons.inj heq).1] at hc
      exact absurd hc (by decide)

/-! ## Strings -/

theorem asciiHex?_digitChar : ∀ digit < 16, asciiHex? (Nat.digitChar digit) = some digit := by
  decide

/-- The last digit stands apart from the digits before it. -/
theorem toList_hexText_succ {width : Nat} (hwidth : 0 < width) (number : Nat) :
    (hexText (width + 1) number).toList =
      (hexText width (number / 16)).toList ++ [Nat.digitChar (number % 16)] := by
  rw [hexText, hexText, String.toList_ofList, String.toList_ofList]
  rcases lt_or_ge number 16 with hsmall | hlarge
  · obtain ⟨width, rfl⟩ := Nat.exists_eq_add_one.mpr hwidth
    have hlast : number % 16 = number := Nat.mod_eq_of_lt hsmall
    have hfront : number / 16 = 0 := Nat.div_eq_of_lt hsmall
    have hzeros : List.replicate (width + 1) '0' = List.replicate width '0' ++ ['0'] :=
      List.replicate_succ'
    simp [hfront, hlast, Nat.toDigits_of_lt_base hsmall, hzeros]
  · simp [Nat.toDigits_of_base_le (show 1 < 16 by decide) hlarge]

theorem toList_hexText {code : Nat} (hcode : code < 0x10000) :
    (hexText 4 code).toList =
      [Nat.digitChar (code / 0x1000), Nat.digitChar (code / 0x100 % 16),
        Nat.digitChar (code / 0x10 % 16), Nat.digitChar (code % 16)] := by
  have hfirst : (hexText 1 (code / 16 / 16 / 16)).toList = [Nat.digitChar (code / 0x1000)] := by
    rw [hexText, String.toList_ofList, Nat.toDigits_of_lt_base (by omega), Nat.div_div_eq_div_mul,
      Nat.div_div_eq_div_mul]
    rfl
  rw [toList_hexText_succ (by decide), toList_hexText_succ (by decide),
    toList_hexText_succ (by decide), hfirst, Nat.div_div_eq_div_mul]
  rfl

theorem codeUnit?_digitChar {code : Nat} (hcode : code < 0x10000) :
    codeUnit? (Nat.digitChar (code / 0x1000)) (Nat.digitChar (code / 0x100 % 16))
      (Nat.digitChar (code / 0x10 % 16)) (Nat.digitChar (code % 16)) = some code := by
  rw [codeUnit?, asciiHex?_digitChar _ (by omega), asciiHex?_digitChar _ (by omega),
    asciiHex?_digitChar _ (by omega), asciiHex?_digitChar _ (by omega)]
  simp [ofDigits]
  omega

/-- A way to write characters that the reader undoes. -/
def ReadsBack (char : Char → List Char) : Prop :=
  ∀ c rest, stringBody (char c ++ rest) = prepend c (stringBody rest)

theorem stringBody_flatMap {char : Char → List Char} (hchar : ReadsBack char)
    (text rest : List Char) :
    stringBody (text.flatMap char ++ '\"' :: rest) = some (text, rest) := by
  induction text with
  | nil => rfl
  | cons c text ih => rw [List.flatMap_cons, List.append_assoc, hchar, ih, prepend, Option.map_some]

theorem stringBody_unitEscape {code : Nat}
    (hcode : code < 0xD800 ∨ 0xE000 ≤ code ∧ code < 0x10000) (rest : List Char) :
    stringBody (unitEscape code ++ rest) = prepend (Char.ofNat code) (stringBody rest) := by
  have hhigh : isHighSurrogate code = false := by simp [isHighSurrogate]; omega
  have hlow : isLowSurrogate code = false := by simp [isLowSurrogate]; omega
  rw [unitEscape, toList_hexText (by omega)]
  simp [stringBody, codeUnit?_digitChar (show code < 0x10000 by omega), hhigh, hlow]

/-- The two halves of a character beyond the basic plane are read together. -/
theorem stringBody_pairEscape {high low : Nat} (hhigh : isHighSurrogate high = true)
    (hlow : isLowSurrogate low = true) (rest : List Char) :
    stringBody (unitEscape high ++ unitEscape low ++ rest) =
      prepend (Char.ofNat (pairedCode high low)) (stringBody rest) := by
  have hhighUnit : high < 0x10000 := by
    simp [isHighSurrogate] at hhigh
    omega
  have hlowUnit : low < 0x10000 := by
    simp [isLowSurrogate] at hlow
    omega
  rw [unitEscape, unitEscape, toList_hexText hhighUnit, toList_hexText hlowUnit]
  simp [stringBody, codeUnit?_digitChar hhighUnit, codeUnit?_digitChar hlowUnit, hhigh, hlow]

/-- An escape of one letter, which is read by the table of these escapes. -/
theorem exists_mark_of_sharedEscape? {c : Char} {escape : List Char}
    (hescape : sharedEscape? c = some escape) :
    ∃ mark, escape = ['\\', mark] ∧ mark ≠ 'u' ∧ shortEscape? mark = some c := by
  unfold sharedEscape? at hescape
  split_ifs at hescape <;> cases hescape <;> subst_vars <;> exact ⟨_, rfl, by decide, by decide⟩

theorem stringBody_sharedEscape {c : Char} {escape : List Char}
    (hescape : sharedEscape? c = some escape) (rest : List Char) :
    stringBody (escape ++ rest) = prepend c (stringBody rest) := by
  obtain ⟨mark, rfl, hmark, hshort⟩ := exists_mark_of_sharedEscape? hescape
  rw [List.cons_append, List.cons_append, List.nil_append, stringBody.eq_def]
  simp [hmark, hshort]

theorem stringBody_cons {c : Char} (hescape : sharedEscape? c = none) (hc : 0x20 ≤ c.toNat)
    (rest : List Char) : stringBody (c :: rest) = prepend c (stringBody rest) := by
  have hquote : c ≠ '\"' := by
    rintro rfl
    simp [sharedEscape?] at hescape
  have hslash : c ≠ '\\' := by
    rintro rfl
    simp [sharedEscape?] at hescape
  rw [stringBody, if_neg (by omega)]
  · exact hquote
  · intro mark rest' heq
    exact absurd heq hslash

theorem readsBack_plainChar : ReadsBack plainChar := by
  intro c rest
  rw [plainChar]
  cases hescape : sharedEscape? c with
  | some escape => exact stringBody_sharedEscape hescape rest
  | none =>
    dsimp only
    split
    · next hcontrol =>
      rw [stringBody_unitEscape (by omega), Char.ofNat_toNat]
    · next hcontrol =>
      exact stringBody_cons hescape (by omega) rest

theorem readsBack_asciiChar : ReadsBack asciiChar := by
  intro c rest
  have hvalid : c.toNat < 0xD800 ∨ 0xDFFF < c.toNat ∧ c.toNat < 0x110000 := c.valid
  rw [asciiChar]
  cases hescape : sharedEscape? c with
  | some escape => exact stringBody_sharedEscape hescape rest
  | none =>
    dsimp only
    split
    · next hvisible =>
      exact stringBody_cons hescape hvisible.1 rest
    · split
      · next hbasic =>
        rw [stringBody_unitEscape (by omega), Char.ofNat_toNat]
      · next hbasic =>
        have hcode : pairedCode (0xD800 + (c.toNat - 0x10000) / 0x400)
            (0xDC00 + (c.toNat - 0x10000) % 0x400) = c.toNat := by
          unfold pairedCode
          omega
        rw [stringBody_pairEscape, hcode, Char.ofNat_toNat]
        · simp [isHighSurrogate]
          omega
        · simp [isLowSurrogate]
          omega

end ConfigReference.Json
