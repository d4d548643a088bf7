import ConfigReference.Proofs.JsonToken
import ConfigReference.Proofs.LastArgument

/-!
# Defaults that are hexadecimal literals

A hexadecimal literal as the last argument is shown as the decimal numeral of its
number, whatever stands before it.  A number with more digits than can be shown
is treated like a literal that is no hexadecimal number at all: it is looked up
among the constants, and shown as it is written if it is not one of them.
-/

namespace ConfigReference

open Text

/-! ## Spellings of a number -/

namespace Text

/-- A row of hexadecimal digits with the values of the digits.  A single underscore
may stand before each digit. -/
inductive SpellsDigits : List Char → List Nat → Prop
  | nil : SpellsDigits [] []
  | digit {c : Char} {value : Nat} {row : List Char} {values : List Nat}
    (hdigit : asciiHex? c = some value) (hrow : SpellsDigits row values) :
    SpellsDigits (c :: row) (value :: values)
  | marked {c : Char} {value : Nat} {row : List Char} {values : List Nat}
    (hdigit : asciiHex? c = some value) (hrow : SpellsDigits row values) :
    SpellsDigits ('_' :: c :: row) (value :: values)

/-- The mark of a hexadecimal literal, and what follows it. -/
def BeginsHex (literal row : List Char) : Prop :=
  ∃ mark, (mark = 'x' ∨ mark = 'X') ∧ literal = '0' :: mark :: row

/-- The literal is a hexadecimal spelling of the number: the digits behind the mark,
of which there is at least one, stand for it. -/
def SpellsHex (number : Nat) (literal : List Char) : Prop :=
  ∃ row values, BeginsHex literal row ∧ SpellsDigits row values ∧ values ≠ [] ∧
    Nat.ofDigits 16 values.reverse = number

/-- The text is the decimal numeral of the number, without leading zeros. -/
structure IsDecimal (number : Nat) (text : List Char) : Prop where
  ne_nil : text ≠ []
  isDigit : ∀ c ∈ text, isDigit c = true
  value : Nat.ofDigits 10 (text.map fun c => c.toNat - '0'.toNat).reverse = number
  eq_zero_of_head : text.head? = some '0' → text = ['0']

theorem ofDigits_eq (base : Nat) (digits : List Nat) :
    ofDigits base digits = Nat.ofDigits base digits.reverse := by
  rw [Nat.ofDigits_eq_foldr, List.foldr_reverse, ofDigits]
  congr 1
  funext number digit
  rw [Nat.cast_id, Nat.mul_comm, Nat.add_comm]

theorem isDecimal_toString (number : Nat) : IsDecimal number (toString number).toList := by
  have htext : (toString number).toList = Nat.toDigits 10 number := by
    rw [Nat.toString_eq_repr, Nat.toList_repr]
  rw [htext]
  refine ⟨Nat.toDigits_ne_nil, fun c hc => Json.isDigit_of_mem_toDigits hc, ?_, ?_⟩
  · rw [← ofDigits_eq]
    exact Json.natural_toDigits number
  · intro hhead
    obtain ⟨rest, hrest⟩ := List.head?_eq_some_iff.mp hhead
    rw [hrest, Json.eq_nil_of_toDigits_eq_zero_cons hrest]

/-! ## Reading a spelling -/

section Ascii

variable {c : Char} {value : Nat}

theorem lt_of_asciiHex? (hdigit : asciiHex? c = some value) : c.toNat < 128 := by
  have hletter : ∀ bound : Char, bound.toNat < 128 → c ≤ bound → c.toNat < 128 :=
    fun bound hbound hle => Nat.lt_of_le_of_lt hle hbound
  rw [asciiHex?, isDigit, hexLetter?] at hdigit
  split_ifs at hdigit with hdecimal hlower hupper
  · exact hletter '9' (by decide) (by simpa using (Bool.and_eq_true_iff.mp hdecimal).2)
  · exact hletter 'f' (by decide) hlower.2
  · exact hletter 'F' (by decide) hupper.2

theorem ascii_table : ∀ code < 128,
    hexDigit? (Char.ofNat code) = asciiHex? (Char.ofNat code) ∧
      ((asciiHex? (Char.ofNat code)).isSome → isBlank (Char.ofNat code) = false) := by
  decide

/-- Among the ASCII characters there are no other digits. -/
theorem hexDigit?_eq_asciiHex? (hc : c.toNat < 128) : hexDigit? c = asciiHex? c := by
  have htable := (ascii_table c.toNat hc).1
  rwa [Char.ofNat_toNat] at htable

theorem not_blank_of_asciiHex? (hdigit : asciiHex? c = some value) : isBlank c = false := by
  have htable := (ascii_table c.toNat (lt_of_asciiHex? hdigit)).2
  rw [Char.ofNat_toNat, hdigit] at htable
  exact htable rfl

end Ascii

section Digits

variable {row : List Char} {values : List Nat}

theorem SpellsDigits.mem (hrow : SpellsDigits row values) {c : Char} (hc : c ∈ row) :
    c = '_' ∨ ∃ value, asciiHex? c = some value := by
  induction hrow with
  | nil => cases hc
  | digit hdigit _ ih =>
    rcases List.mem_cons.mp hc with rfl | hrest
    · exact .inr ⟨_, hdigit⟩
    · exact ih hrest
  | marked hdigit _ ih =>
    rcases List.mem_cons.mp hc with rfl | hrest
    · exact .inl rfl
    · rcases List.mem_cons.mp hrest with rfl | hrest
      · exact .inr ⟨_, hdigit⟩
      · exact ih hrest

/-- A row of digits is read as the values of the digits. -/
theorem SpellsDigits.digits?_eq (hrow : SpellsDigits row values) :
    digits? hexDigit? row = some values := by
  induction hrow with
  | nil => rfl
  | @digit c value row values hdigit _ ih =>
    have hmark : ∀ (d : Char) (rest : List Char), c = '_' → row = d :: rest → False := by
      rintro d rest rfl -
      cases hdigit
    rw [digits?.eq_3 _ _ _ hmark, hexDigit?_eq_asciiHex? (lt_of_asciiHex? hdigit), hdigit, ih]
    rfl
  | marked hdigit _ ih =>
    rw [digits?, hexDigit?_eq_asciiHex? (lt_of_asciiHex? hdigit), hdigit, ih]
    rfl

/-- Nothing else is read among the ASCII texts. -/
theorem spellsDigits_of_digits? (hascii : ∀ c ∈ row, c.toNat < 128)
    (hread : digits? hexDigit? row = some values) : SpellsDigits row values := by
  induction row using digits?.induct generalizing values with
  | case1 =>
    cases hread
    exact .nil
  | case2 c rest ih =>
    have hc : c.toNat < 128 := hascii c (by simp)
    rw [digits?, hexDigit?_eq_asciiHex? hc] at hread
    obtain ⟨value, hdigit, hread⟩ := Option.bind_eq_some_iff.mp hread
    obtain ⟨others, hothers, hvalues⟩ := Option.bind_eq_some_iff.mp hread
    cases hvalues
    exact .marked hdigit (ih (fun d hd => hascii d (by simp [hd])) hothers)
  | case3 c rest hmark ih =>
    have hc : c.toNat < 128 := hascii c List.mem_cons_self
    rw [digits?.eq_3 _ _ _ hmark, hexDigit?_eq_asciiHex? hc] at hread
    obtain ⟨value, hdigit, hread⟩ := Option.bind_eq_some_iff.mp hread
    obtain ⟨others, hothers, hvalues⟩ := Option.bind_eq_some_iff.mp hread
    cases hvalues
    exact .digit hdigit (ih (fun d hd => hascii d (by simp [hd])) hothers)

end Digits

section Literal

variable {number : Nat} {literal row : List Char}

theorem hexLiteral?_eq_some_iff (hbegins : BeginsHex literal row) :
    hexLiteral? literal = some number ↔
      ∃ values, digits? hexDigit? row = some values ∧ values ≠ [] ∧
        ofDigits 16 values = number := by
  obtain ⟨mark, hmark, rfl⟩ := hbegins
  rw [hexLiteral?, if_pos hmark]
  cases digits? hexDigit? row with
  | none => simp
  | some values => cases values <;> simp

theorem SpellsHex.hexLiteral?_eq (hspells : SpellsHex number literal) :
    hexLiteral? literal = some number := by
  obtain ⟨row, values, hbegins, hrow, hne, rfl⟩ := hspells
  exact (hexLiteral?_eq_some_iff hbegins).mpr ⟨values, hrow.digits?_eq, hne, ofDigits_eq 16 values⟩

theorem spellsHex_of_hexLiteral? (hbegins : BeginsHex literal row)
    (hascii : ∀ c ∈ literal, c.toNat < 128) (hread : hexLiteral? literal = some number) :
    SpellsHex number literal := by
  have hrow : ∀ c ∈ row, c.toNat < 128 := by
    obtain ⟨mark, -, rfl⟩ := hbegins
    intro c hc
    exact hascii c (by simp [hc])
  obtain ⟨values, hdigits, hne, rfl⟩ := (hexLiteral?_eq_some_iff hbegins).mp hread
  exact ⟨row, values, hbegins, spellsDigits_of_digits? hrow hdigits, hne,
    (ofDigits_eq 16 values).symm⟩

/-- The characters of a spelling are no blanks and no marks between arguments. -/
theorem SpellsHex.mem (hspells : SpellsHex number literal) {c : Char} (hc : c ∈ literal) :
    isBlank c = false ∧ c ∉ [',', '\x7b', '\x7d', '\"'] := by
  obtain ⟨row, values, ⟨mark, hmark, rfl⟩, hrow, -, -⟩ := hspells
  have hcases : c ∈ ['0', 'x', 'X', '_'] ∨ ∃ value, asciiHex? c = some value := by
    rcases List.mem_cons.mp hc with rfl | hc
    · exact .inl (by decide)
    · rcases List.mem_cons.mp hc with rfl | hc
      · rcases hmark with rfl | rfl <;> exact .inl (by decide)
      · exact (hrow.mem hc).imp_left fun hunderscore => by simp [hunderscore]
  rcases hcases with hsign | ⟨value, hdigit⟩
  · simp only [List.mem_cons, List.not_mem_nil, or_false] at hsign
    rcases hsign with rfl | rfl | rfl | rfl <;> decide
  · refine ⟨not_blank_of_asciiHex? hdigit, fun hmark => ?_⟩
    simp only [List.mem_cons, List.not_mem_nil, or_false] at hmark
    rcases hmark with rfl | rfl | rfl | rfl <;> cases hdigit

end Literal

end Text

namespace Argument

/-! ## The value of a literal -/

section Literal

variable {number : Nat} {literal : List Char}

theorem isItem_of_spellsHex (hspells : SpellsHex number literal) : IsItem literal where
  ne_nil := by
    obtain ⟨row, values, ⟨mark, -, rfl⟩, -⟩ := hspells
    simp
  trim_eq := trim_eq_self (fun c hc => (hspells.mem (List.mem_of_mem_head? hc)).1)
    fun c hc => (hspells.mem (List.mem_of_getLast? hc)).1
  comma_not_mem hmem := (hspells.mem hmem).2 (by decide)
  opening_not_mem hmem := (hspells.mem hmem).2 (by decide)
  closing_not_mem hmem := (hspells.mem hmem).2 (by decide)

/-- A text without a quote at its end. -/
def dropLastQuote (text : List Char) : List Char :=
  if text.getLast? = some '\"' then text.dropLast else text

/-- What is shown of a literal that is not read as a number. -/
def asWritten (constants : Table String String) (literal : List Char) : String :=
  (constants.find? (String.ofList literal)).getD (String.ofList (dropLastQuote literal))

/-- A literal that begins with a digit is no empty form and no field. -/
theorem value_zero_cons (constants : Table String String) (row : List Char) :
    value constants ('0' :: row) =
      (hexValue? ('0' :: row)).getD (asWritten constants ('0' :: row)) := by
  have hform : String.ofList ('0' :: row) ∉ emptyForms := by
    intro hmem
    have hheads : emptyForms.all (fun form => form.toList.head? != some '0') = true := by decide
    have hhead := List.all_eq_true.mp hheads _ hmem
    simp at hhead
  have hfield : isField ('0' :: row) = false := rfl
  have hquotes : dropQuotes ('0' :: row) = dropLastQuote ('0' :: row) := rfl
  rw [value, if_neg hform, hfield, if_neg (by simp), hquotes, asWritten]
  cases hexValue? ('0' :: row) with
  | some numeral => rfl
  | none => cases constants.find? (String.ofList ('0' :: row)) <;> rfl

theorem value_of_begins (constants : Table String String) {row : List Char}
    (hbegins : BeginsHex literal row) :
    value constants literal = (hexValue? literal).getD (asWritten constants literal) := by
  obtain ⟨mark, -, rfl⟩ := hbegins
  exact value_zero_cons constants _

theorem value_of_spellsHex (constants : Table String String) (hspells : SpellsHex number literal) :
    value constants literal =
      if number < Nat.pow 10 digitLimit then toString number
      else asWritten constants literal := by
  obtain ⟨row, -, hbegins, -⟩ := id hspells
  have hread : hexValue? literal =
      if number < Nat.pow 10 digitLimit then some (toString number) else none := by
    rw [hexValue?, hspells.hexLiteral?_eq]
  rw [value_of_begins constants hbegins, hread]
  by_cases hsmall : number < Nat.pow 10 digitLimit
  · rw [if_pos hsmall, if_pos hsmall, Option.getD_some]
  · rw [if_neg hsmall, if_neg hsmall, Option.getD_none]

theorem asWritten_of_spellsHex (constants : Table String String)
    (hspells : SpellsHex number literal) :
    asWritten constants literal =
      (constants.find? (String.ofList literal)).getD (String.ofList literal) := by
  have hquote : literal.getLast? ≠ some '\"' := fun hlast =>
    (hspells.mem (List.mem_of_getLast? hlast)).2 (by decide)
  rw [asWritten, dropLastQuote, if_neg hquote]

end Literal

/-- A hexadecimal literal at the end of the arguments is shown as the decimal numeral
of its number, if that has at most 4300 digits.  Any other literal that begins like
one is shown as the constant that it is, or else as it is written, but for a quote
at its end. -/
theorem hex_default (overrides constants : Table String String) (lists : Bool) (key : String)
    (literal arguments : List Char) (hkey : overrides.find? key = none)
    (hlast : IsLast literal arguments) :
    (∀ number, SpellsHex number literal →
      (number < 10 ^ 4300 →
        IsDecimal number
          (defaultValue overrides constants lists key (String.ofList arguments)).toList) ∧
      (10 ^ 4300 ≤ number →
        defaultValue overrides constants lists key (String.ofList arguments) =
          (constants.find? (String.ofList literal)).getD (String.ofList literal))) ∧
    (∀ row, BeginsHex literal row → IsItem literal → (∀ c ∈ literal, c.toNat < 128) →
      (∀ number, ¬ SpellsHex number literal) →
      defaultValue overrides constants lists key (String.ofList arguments) =
        (constants.find? (String.ofList literal)).getD
          (String.ofList (dropLastQuote literal))) := by
  have hlimit : digitLimit = 4300 := rfl
  rw [← hlimit, ← Nat.pow_eq]
  constructor
  · intro number hspells
    rw [defaultValue_of_isLast constants lists hkey hlast (isItem_of_spellsHex hspells),
      value_of_spellsHex constants hspells]
    constructor
    · intro hsmall
      rw [if_pos hsmall]
      exact isDecimal_toString number
    · intro hlarge
      rw [if_neg (Nat.not_lt.mpr hlarge), asWritten_of_spellsHex constants hspells]
  · intro row hbegins hitem hascii hnone
    have hread : hexLiteral? literal = none := by
      rw [Option.eq_none_iff_forall_ne_some]
      intro number hnumber
      exact hnone number (spellsHex_of_hexLiteral? hbegins hascii hnumber)
    rw [defaultValue_of_isLast constants lists hkey hlast hitem,
      value_of_begins constants hbegins, hexValue?, hread]
    rfl

/-- The spelling of a power of sixteen. -/
def powerSpelling (zeros : Nat) : List Char :=
  '0' :: 'x' :: '1' :: List.replicate zeros '0'

theorem spellsHex_powerSpelling (zeros : Nat) : SpellsHex (16 ^ zeros) (powerSpelling zeros) := by
  have hzeros : SpellsDigits (List.replicate zeros '0') (List.replicate zeros 0) := by
    induction zeros with
    | zero => exact .nil
    | succ zeros ih => exact .digit (by decide) ih
  refine ⟨_, 1 :: List.replicate zeros 0, ⟨'x', .inl rfl, rfl⟩, .digit (by decide) hzeros,
    by simp, ?_⟩
  rw [List.reverse_cons, List.reverse_replicate, Nat.ofDigits_append, Nat.ofDigits_replicate_zero,
    List.length_replicate, Nat.ofDigits_singleton]
  simp

/-- A literal with two underscores in a row, and a quote at its end. -/
def brokenLiteral : List Char :=
  ['0', 'x', '1', '_', '_', '0', '\"']

/-- A spelling behind another argument, a number with too many digits, and a literal
that is no spelling. -/
theorem hex_default_spellings :
    SpellsHex 255 ['0', 'X', '_', '0', 'f', '_', 'F'] ∧
      IsDecimal 255 (defaultValue ∅ ∅ true "k" "1, 0X_0f_F ").toList ∧
      SpellsHex (16 ^ 3600) (powerSpelling 3600) ∧ 10 ^ 4300 ≤ 16 ^ 3600 ∧
      defaultValue ∅ ∅ false "k" (String.ofList (powerSpelling 3600)) =
        String.ofList (powerSpelling 3600) ∧
      (∀ number, ¬ SpellsHex number brokenLiteral) ∧
      defaultValue ∅ ∅ false "k" (String.ofList brokenLiteral) = "0x1__0" := by
  have hspells : SpellsHex 255 ['0', 'X', '_', '0', 'f', '_', 'F'] :=
    ⟨['_', '0', 'f', '_', 'F'], [0, 15, 15], ⟨'X', .inr rfl, rfl⟩,
      .marked (by decide) (.digit (by decide) (.marked (by decide) .nil)), by simp, by decide⟩
  have hsmall : 255 < 10 ^ 4300 := by decide +kernel
  have hlarge : 10 ^ 4300 ≤ 16 ^ 3600 := by decide +kernel
  have hbroken : ∀ number, ¬ SpellsHex number brokenLiteral := by
    intro number hnumber
    have hread := hnumber.hexLiteral?_eq
    have hnone : hexLiteral? brokenLiteral = none := by decide
    rw [hnone] at hread
    cases hread
  have hascii : ∀ c ∈ brokenLiteral, c.toNat < 128 := by
    have hall : brokenLiteral.all (fun c => decide (c.toNat < 128)) = true := by decide
    exact fun c hc => of_decide_eq_true (List.all_eq_true.mp hall c hc)
  have hlast : IsLast ['0', 'X', '_', '0', 'f', '_', 'F'] "1, 0X_0f_F ".toList :=
    .behind ['1'] isBlank_of_mem_space isBlank_of_mem_space
  obtain ⟨hnumber, -⟩ := hex_default ∅ ∅ true "k" _ _ rfl hlast
  obtain ⟨hpower, -⟩ := hex_default ∅ ∅ false "k" _ _ rfl (.self (powerSpelling 3600))
  obtain ⟨-, hother⟩ := hex_default ∅ ∅ false "k" _ _ rfl (.self brokenLiteral)
  refine ⟨hspells, ?_, spellsHex_powerSpelling 3600, hlarge, ?_, hbroken, ?_⟩
  · have hshown := (hnumber 255 hspells).1 hsmall
    rwa [String.ofList_toList] at hshown
  · exact (hpower _ (spellsHex_powerSpelling 3600)).2 hlarge
  · exact hother _ ⟨'x', .inl rfl, rfl⟩ (by decide) hascii hbroken

end Argument

end ConfigReference
