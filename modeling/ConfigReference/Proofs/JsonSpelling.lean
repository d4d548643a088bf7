import ConfigReference.Proofs.JsonToken

/-!
# Written JSON is read back

A value can be written in many ways that differ in white space and in the escapes
of its strings.  This module says which texts spell a value, and shows that the
reader takes each of them for that value, whatever follows it.  The indented form
and the form on one line are among these spellings, so they are read back, as long
as the value keeps to the limits of the reader on digits and on nesting.
-/

namespace ConfigReference.Json

open Text

/-! ## Spellings -/

def IsSpacing (text : List Char) : Prop :=
  ∀ c ∈ text, isSpace c = true

theorem skipSpace_spacing_append {spacing : List Char} (hspacing : IsSpacing spacing) {c : Char}
    (hc : isSpace c = false) (rest : List Char) :
    skipSpace (spacing ++ c :: rest) = c :: rest :=
  (takeWhile_dropWhile_append_cons hspacing c hc rest).2

theorem skipSpace_cons {c : Char} (hc : isSpace c = false) (rest : List Char) :
    skipSpace (c :: rest) = c :: rest :=
  List.dropWhile_cons_of_neg (by simp [hc])

/-- The texts that spell a string: its characters between quotes, in any form that
is undone. -/
def SpellsString (value : String) (text : List Char) : Prop :=
  ∃ char, ReadsBack char ∧ text = stringWith char value

/-- The texts that spell a value without other values in it. -/
inductive SpellsLeaf : Json → List Char → Prop
  | word {value : Json} {text : List Char} (hword : (text, value) ∈ words) : SpellsLeaf value text
  | integer {value : Int} (hvalue : value.natAbs < 10 ^ digitLimit) :
      SpellsLeaf (.integer value) (toString value).toList
  | string {value : String} {text : List Char} (hstring : SpellsString value text) :
      SpellsLeaf (.string value) text
  | emptyList : SpellsLeaf (.list []) ['[', ']']
  | emptyObject : SpellsLeaf (.object []) ['\x7b', '\x7d']

/-- Things that are spelled one after the other, with commas between them and
with a closing character at the end. -/
inductive SpellsRow {α : Type} (spells : α → List Char → Prop) (close : Char) :
    List α → List Char → Prop
  | last {item : α} {before text after : List Char} (hbefore : IsSpacing before)
      (hitem : spells item text) (hafter : IsSpacing after) :
      SpellsRow spells close [item] (before ++ (text ++ (after ++ [close])))
  | cons {item : α} {items : List α} {before text rest : List Char} (hbefore : IsSpacing before)
      (hitem : spells item text) (hrest : SpellsRow spells close items rest) :
      SpellsRow spells close (item :: items) (before ++ (text ++ ',' :: rest))

/-- A member is spelled by its name, a colon and its value. -/
def SpellsMember (spells : Json → List Char → Prop) (member : String × Json)
    (text : List Char) : Prop :=
  ∃ name spacing value, SpellsString member.1 name ∧ IsSpacing spacing ∧ spells member.2 value ∧
    text = name ++ ':' :: (spacing ++ value)

/-- The texts that spell a value within which at most `depth` containers are
nested. -/
def Spells : Nat → Json → List Char → Prop
  | 0, value, text => SpellsLeaf value text
  | depth + 1, value, text =>
    SpellsLeaf value text ∨
      (∃ items body, value = .list items ∧ text = '[' :: body ∧
        SpellsRow (Spells depth) ']' items body) ∨
      ∃ members body, value = .object members ∧ text = '\x7b' :: body ∧
        SpellsRow (SpellsMember (Spells depth)) '\x7d' members body

/-- The characters with which values begin. -/
def isInitial (c : Char) : Bool :=
  isDigit c || c ∈ ['-', '\"', '[', '\x7b', 'n', 't', 'f', 'N', 'I']

theorem SpellsString.initial {value : String} {text : List Char}
    (hstring : SpellsString value text) : ∃ tail, text = '\"' :: tail := by
  obtain ⟨char, -, rfl⟩ := hstring
  exact ⟨_, rfl⟩

theorem SpellsLeaf.initial {value : Json} {text : List Char} (hleaf : SpellsLeaf value text) :
    ∃ c tail, text = c :: tail ∧ isInitial c = true := by
  cases hleaf with
  | word hword =>
    simp only [words, List.mem_cons, Prod.mk.injEq, List.not_mem_nil, or_false] at hword
    rcases hword with ⟨rfl, -⟩ | ⟨rfl, -⟩ | ⟨rfl, -⟩ | ⟨rfl, -⟩ | ⟨rfl, -⟩ <;>
      exact ⟨_, _, rfl, by decide⟩
  | @integer value hvalue =>
    obtain ⟨c, tail, htext, hc⟩ := exists_toString_eq_cons value
    refine ⟨c, tail, htext, ?_⟩
    rcases hc with hdigit | rfl
    · simp [isInitial, hdigit]
    · decide
  | string hstring =>
    obtain ⟨tail, rfl⟩ := hstring.initial
    exact ⟨_, tail, rfl, by decide⟩
  | emptyList => exact ⟨_, _, rfl, by decide⟩
  | emptyObject => exact ⟨_, _, rfl, by decide⟩

theorem Spells.initial {depth : Nat} {value : Json} {text : List Char}
    (hspells : Spells depth value text) : ∃ c tail, text = c :: tail ∧ isInitial c = true := by
  cases depth with
  | zero => exact SpellsLeaf.initial hspells
  | succ depth =>
    rcases hspells with hleaf | ⟨items, body, -, rfl, -⟩ | ⟨members, body, -, rfl, -⟩
    · exact hleaf.initial
    · exact ⟨_, body, rfl, by decide⟩
    · exact ⟨_, body, rfl, by decide⟩

/-! ## Reading spellings -/

theorem isSpace_eq_true_iff {c : Char} :
    isSpace c = true ↔ c = ' ' ∨ c = '\t' ∨ c = '\n' ∨ c = '\r' := by
  simp [isSpace, or_assoc]

theorem isSpace_of_isInitial {c : Char} (hc : isInitial c = true) : isSpace c = false := by
  by_contra hspace
  rw [Bool.not_eq_false, isSpace_eq_true_iff] at hspace
  rcases hspace with rfl | rfl | rfl | rfl <;> exact absurd hc (by decide)

theorem endsNumeral_spacing_append {spacing : List Char} (hspacing : IsSpacing spacing) {c : Char}
    (hc : c = ']' ∨ c = '\x7d') (rest : List Char) : EndsNumeral (spacing ++ c :: rest) := by
  cases spacing with
  | nil =>
    rcases hc with rfl | rfl <;> exact endsNumeral_cons (by decide)
  | cons space spacing =>
    have hspace := isSpace_eq_true_iff.mp (hspacing space List.mem_cons_self)
    rcases hspace with rfl | rfl | rfl | rfl <;> exact endsNumeral_cons (by decide)

section Steps

variable (steps depth : Nat)

theorem skipSpace_append {spacing : List Char} (hspacing : IsSpacing spacing) (text : List Char) :
    skipSpace (spacing ++ text) = skipSpace text :=
  List.dropWhile_append_of_pos hspacing

theorem value?_spacing_append {spacing : List Char} (hspacing : IsSpacing spacing)
    (text : List Char) : value? steps depth (spacing ++ text) = value? steps depth text := by
  cases steps with
  | zero => rfl
  | succ steps => rw [value?.eq_def, value?.eq_def, skipSpace_append hspacing]

theorem value?_string {value : String} {text : List Char} (hstring : SpellsString value text)
    (rest : List Char) : value? (steps + 1) depth (text ++ rest) = some (.string value, rest) := by
  obtain ⟨char, hchar, rfl⟩ := hstring
  rw [stringWith, List.append_assoc, List.cons_append, List.cons_append, List.nil_append,
    value?.eq_def, skipSpace_cons (by decide)]
  simp only [stringBody_flatMap hchar, Option.map_some, String.ofList_toList]

/-- A value that is neither a string nor a container is a word or a number. -/
theorem value?_plain {c : Char} (hinitial : isInitial c = true)
    (hplain : c ≠ '\"' ∧ c ≠ '[' ∧ c ≠ '\x7b') (rest : List Char) :
    value? (steps + 1) depth (c :: rest) =
      (word? (c :: rest)).orElse fun _ => number? (c :: rest) := by
  obtain ⟨hquote, hbracket, hbrace⟩ := hplain
  rw [value?.eq_def, skipSpace_cons (isSpace_of_isInitial hinitial)]
  simp only
  split
  · next heq => exact absurd (List.cons.inj heq).1 hquote
  · next heq => exact absurd (List.cons.inj heq).1 hbracket
  · next heq => exact absurd (List.cons.inj heq).1 hbrace
  · rfl

theorem value?_word {value : Json} {text : List Char} (hword : (text, value) ∈ words)
    (rest : List Char) : value? (steps + 1) depth (text ++ rest) = some (value, rest) := by
  simp only [words, List.mem_cons, Prod.mk.injEq, List.not_mem_nil, or_false] at hword
  rcases hword with ⟨rfl, rfl⟩ | ⟨rfl, rfl⟩ | ⟨rfl, rfl⟩ | ⟨rfl, rfl⟩ | ⟨rfl, rfl⟩ <;>
    exact value?_plain steps depth (by decide) (by decide) _

theorem word?_numeral {c : Char} (hc : isDigit c = true ∨ c = '-') (rest : List Char) :
    word? (c :: rest) = none := by
  have hne : 'n' ≠ c ∧ 't' ≠ c ∧ 'f' ≠ c ∧ 'N' ≠ c ∧ 'I' ≠ c := by
    refine ⟨?_, ?_, ?_, ?_, ?_⟩ <;> rintro rfl <;> exact absurd hc (by decide)
  simp [word?, words, after?, hne]

theorem value?_integer {value : Int} (hvalue : value.natAbs < 10 ^ digitLimit)
    {rest : List Char} (hrest : EndsNumeral rest) :
    value? (steps + 1) depth ((toString value).toList ++ rest) = some (.integer value, rest) := by
  have hnumber := number?_toString hvalue hrest
  obtain ⟨c, tail, htext, hc⟩ := exists_toString_eq_cons value
  have hinitial : isInitial c = true := by
    rcases hc with hdigit | rfl
    · simp [isInitial, hdigit]
    · decide
  have hplain : c ≠ '\"' ∧ c ≠ '[' ∧ c ≠ '\x7b' := by
    refine ⟨?_, ?_, ?_⟩ <;> rintro rfl <;> exact absurd hc (by decide)
  rw [htext, List.cons_append] at hnumber ⊢
  rw [value?_plain steps depth hinitial hplain, word?_numeral hc, hnumber]
  rfl

theorem value?_leaf {value : Json} {text : List Char} (hleaf : SpellsLeaf value text)
    {rest : List Char} (hrest : EndsNumeral rest) :
    value? (steps + 1) depth (text ++ rest) = some (value, rest) := by
  cases hleaf with
  | word hword => exact value?_word steps depth hword rest
  | integer hvalue => exact value?_integer steps depth hvalue hrest
  | string hstring => exact value?_string steps depth hstring rest
  | emptyList =>
    rw [value?.eq_def]
    rfl
  | emptyObject =>
    rw [value?.eq_def]
    rfl

end Steps

/-- Every text that spells the value is read as that value, in no more steps than
it has characters. -/
def ReadsValues (depth : Nat) : Prop :=
  ∀ {value text}, Spells depth value text → ∀ {steps}, text.length ≤ steps →
    ∀ rest, EndsNumeral rest → value? steps depth (text ++ rest) = some (value, rest)

theorem items?_of_row {depth : Nat} (hread : ReadsValues depth) {items : List Json}
    {text : List Char} (hrow : SpellsRow (Spells depth) ']' items text) {steps : Nat}
    (hsteps : text.length ≤ steps) (rest : List Char) :
    items? steps depth (text ++ rest) = some (items, rest) := by
  induction hrow generalizing steps with
  | @last item before text after hbefore hitem hafter =>
    simp only [List.length_append, List.length_singleton] at hsteps
    obtain ⟨steps, rfl⟩ := Nat.exists_eq_add_one.mpr (show 0 < steps by omega)
    have hvalue := hread hitem (show text.length ≤ steps by omega) (after ++ ']' :: rest)
      (endsNumeral_spacing_append hafter (.inl rfl) rest)
    simp only [List.append_assoc, List.singleton_append]
    rw [items?, value?_spacing_append steps depth hbefore, hvalue]
    simp only [skipSpace_spacing_append hafter (show isSpace ']' = false by decide)]
  | @cons item items before text tail hbefore hitem htail ih =>
    simp only [List.length_append, List.length_cons] at hsteps
    obtain ⟨steps, rfl⟩ := Nat.exists_eq_add_one.mpr (show 0 < steps by omega)
    have hvalue := hread hitem (show text.length ≤ steps by omega) (',' :: (tail ++ rest))
      (endsNumeral_cons (by decide))
    simp only [List.append_assoc, List.cons_append]
    rw [items?, value?_spacing_append steps depth hbefore, hvalue]
    simp only [skipSpace_cons (show isSpace ',' = false by decide)]
    rw [ih (by omega), Option.map_some]

/-- How the members of an object go on after one of them. -/
def membersAfter (steps depth : Nat) (member : String × Json) (rest : List Char) :
    Option (List (String × Json) × List Char) :=
  match skipSpace rest with
  | ',' :: rest => (members? steps depth rest).map fun result => (member :: result.1, result.2)
  | '\x7d' :: rest => some ([member], rest)
  | _ => none

/-- Reads one member; what follows it decides how the object goes on. -/
theorem members?_member {depth : Nat} (hread : ReadsValues depth) {member : String × Json}
    {before text : List Char} (hbefore : IsSpacing before)
    (hmember : SpellsMember (Spells depth) member text) {steps : Nat}
    (hsteps : text.length ≤ steps) {rest : List Char} (hrest : EndsNumeral rest) :
    members? (steps + 1) depth (before ++ (text ++ rest)) =
      membersAfter steps depth member rest := by
  obtain ⟨name, value⟩ := member
  obtain ⟨_, spacing, text, ⟨char, hchar, rfl⟩, hspacing, hspells, rfl⟩ := hmember
  simp only [List.length_append, List.length_cons] at hsteps
  have hvalue := hread hspells (show text.length ≤ steps by omega) rest hrest
  simp only [stringWith, List.append_assoc, List.cons_append, List.nil_append]
  rw [members?, skipSpace_spacing_append hbefore (by decide)]
  simp only [stringBody_flatMap hchar, skipSpace_cons (show isSpace ':' = false by decide),
    value?_spacing_append steps depth hspacing, hvalue, String.ofList_toList]
  rfl

theorem members?_of_row {depth : Nat} (hread : ReadsValues depth) {members : List (String × Json)}
    {text : List Char} (hrow : SpellsRow (SpellsMember (Spells depth)) '\x7d' members text)
    {steps : Nat} (hsteps : text.length ≤ steps) (rest : List Char) :
    members? steps depth (text ++ rest) = some (members, rest) := by
  induction hrow generalizing steps with
  | @last member before text after hbefore hmember hafter =>
    simp only [List.length_append, List.length_singleton] at hsteps
    obtain ⟨steps, rfl⟩ := Nat.exists_eq_add_one.mpr (show 0 < steps by omega)
    have hrest := endsNumeral_spacing_append hafter (.inr rfl) rest
    simp only [List.append_assoc, List.singleton_append]
    rw [members?_member hread hbefore hmember (by omega) hrest, membersAfter,
      skipSpace_spacing_append hafter (by decide)]
    rfl
  | @cons member members before text tail hbefore hmember htail ih =>
    simp only [List.length_append, List.length_cons] at hsteps
    obtain ⟨steps, rfl⟩ := Nat.exists_eq_add_one.mpr (show 0 < steps by omega)
    simp only [List.append_assoc, List.cons_append]
    rw [members?_member hread hbefore hmember (by omega) (endsNumeral_cons (by decide)),
      membersAfter, skipSpace_cons (by decide)]
    simp only [ih (show tail.length ≤ steps by omega), Option.map_some]

/-- A row begins with the first character of a thing that is spelled. -/
theorem SpellsRow.skipSpace_eq {α : Type} {spells : α → List Char → Prop} {close : Char}
    (hinitial : ∀ {item text}, spells item text → ∃ c tail, text = c :: tail ∧ isInitial c = true)
    {items : List α} {text : List Char} (hrow : SpellsRow spells close items text)
    (rest : List Char) : ∃ c tail, skipSpace (text ++ rest) = c :: tail ∧ isInitial c = true := by
  cases hrow with
  | last hbefore hitem hafter =>
    obtain ⟨c, tail, rfl, hc⟩ := hinitial hitem
    simp only [List.append_assoc, List.cons_append]
    exact ⟨c, _, skipSpace_spacing_append hbefore (isSpace_of_isInitial hc) _, hc⟩
  | cons hbefore hitem hrest =>
    obtain ⟨c, tail, rfl, hc⟩ := hinitial hitem
    simp only [List.append_assoc, List.cons_append]
    exact ⟨c, _, skipSpace_spacing_append hbefore (isSpace_of_isInitial hc) _, hc⟩

theorem SpellsMember.initial {spells : Json → List Char → Prop} {member : String × Json}
    {text : List Char} (hmember : SpellsMember spells member text) :
    ∃ c tail, text = c :: tail ∧ isInitial c = true := by
  obtain ⟨name, spacing, value, hname, -, -, rfl⟩ := hmember
  obtain ⟨tail, rfl⟩ := hname.initial
  exact ⟨'\"', _, rfl, by decide⟩

theorem value?_list {depth : Nat} (hread : ReadsValues depth) {items : List Json}
    {body : List Char} (hrow : SpellsRow (Spells depth) ']' items body) {steps : Nat}
    (hsteps : body.length ≤ steps) (rest : List Char) :
    value? (steps + 1) (depth + 1) ('[' :: (body ++ rest)) = some (.list items, rest) := by
  obtain ⟨c, tail, hfirst, hc⟩ := hrow.skipSpace_eq Spells.initial rest
  have hopen : c ≠ ']' := by
    rintro rfl
    exact absurd hc (by decide)
  rw [value?.eq_def, skipSpace_cons (by decide)]
  simp only [hfirst, items?_of_row hread hrow hsteps, Option.map_some]
  split
  · next heq => exact absurd (List.cons.inj heq).1 hopen
  · rfl

theorem value?_object {depth : Nat} (hread : ReadsValues depth) {members : List (String × Json)}
    {body : List Char} (hrow : SpellsRow (SpellsMember (Spells depth)) '\x7d' members body)
    {steps : Nat} (hsteps : body.length ≤ steps) (rest : List Char) :
    value? (steps + 1) (depth + 1) ('\x7b' :: (body ++ rest)) = some (.object members, rest) := by
  obtain ⟨c, tail, hfirst, hc⟩ := hrow.skipSpace_eq SpellsMember.initial rest
  have hopen : c ≠ '\x7d' := by
    rintro rfl
    exact absurd hc (by decide)
  rw [value?.eq_def, skipSpace_cons (by decide)]
  simp only [hfirst, members?_of_row hread hrow hsteps, Option.map_some]
  split
  · next heq => exact absurd (List.cons.inj heq).1 hopen
  · rfl

theorem readsValues (depth : Nat) : ReadsValues depth := by
  induction depth with
  | zero =>
    intro value text hspells steps hsteps rest hrest
    obtain ⟨c, tail, rfl, -⟩ := Spells.initial hspells
    obtain ⟨steps, rfl⟩ := Nat.exists_eq_add_one.mpr (Nat.zero_lt_of_lt hsteps)
    exact value?_leaf steps 0 hspells hrest
  | succ depth ih =>
    intro value text hspells steps hsteps rest hrest
    obtain ⟨c, tail, htext, -⟩ := hspells.initial
    obtain ⟨steps, rfl⟩ := Nat.exists_eq_add_one.mpr (Nat.zero_lt_of_lt (htext ▸ hsteps))
    rcases hspells with hleaf | ⟨items, body, rfl, rfl, hrow⟩ | ⟨members, body, rfl, rfl, hrow⟩
    · exact value?_leaf steps _ hleaf hrest
    · exact value?_list ih hrow (Nat.le_of_succ_le_succ hsteps) rest
    · exact value?_object ih hrow (Nat.le_of_succ_le_succ hsteps) rest

/-- A text that spells a value is read as that value. -/
theorem parse?_of_spells {value : Json} {text : List Char}
    (hspells : Spells nestingLimit value text) : parse? text = some value := by
  have hvalue := readsValues nestingLimit hspells (show text.length ≤ 2 * text.length + 2 by omega)
    [] endsNumeral_nil
  rw [List.append_nil] at hvalue
  rw [parse?, hvalue]
  rfl

/-! ## Values that can be read back -/

/-- Whether a value keeps to the limits of the reader: containers are nested at
most `depth` deep, and no number has too many digits or a fraction. -/
def Fits : Nat → Json → Prop
  | _, .integer value => value.natAbs < 10 ^ digitLimit
  | _, .decimal _ _ => False
  | 0, .list items => items = []
  | depth + 1, .list items => ∀ item ∈ items, Fits depth item
  | 0, .object members => members = []
  | depth + 1, .object members => ∀ member ∈ members, Fits depth member.2
  | _, _ => True

theorem SpellsString.of_readsBack {char : Char → List Char} (hchar : ReadsBack char)
    (value : String) : SpellsString value (stringWith char value) :=
  ⟨char, hchar, rfl⟩

theorem spellsLeaf_leaf {char : Char → List Char} (hchar : ReadsBack char) {value : Json}
    (hfits : Fits 0 value) : SpellsLeaf value (leaf char value) := by
  cases value with
  | null => exact .word (.head _)
  | bool flag =>
    cases flag with
    | true => exact .word (.tail _ (.head _))
    | false => exact .word (.tail _ (.tail _ (.head _)))
  | integer value => exact .integer hfits
  | decimal mantissa exponent => exact hfits.elim
  | nonFinite => exact .word (.tail _ (.tail _ (.tail _ (.head _))))
  | string value => exact .string (.of_readsBack hchar value)
  | list items => exact (show items = [] from hfits) ▸ .emptyList
  | object members => exact (show members = [] from hfits) ▸ .emptyObject

/-- A row whose things are set apart by spacing, where `tail` writes those after
the first. -/
theorem spellsRow_spaced {α : Type} {spells : α → List Char → Prop} {print : α → List Char}
    {tail : List α → List Char} {first spacing last : List Char} (hfirst : IsSpacing first)
    (hspacing : IsSpacing spacing) (hlast : IsSpacing last) (hnil : tail [] = [])
    (hcons : ∀ item items, tail (item :: items) = ',' :: spacing ++ print item ++ tail items)
    (close : Char) {item : α} {items : List α}
    (hspells : ∀ other ∈ item :: items, spells other (print other)) :
    SpellsRow spells close (item :: items)
      (first ++ print item ++ tail items ++ last ++ [close]) := by
  induction items generalizing item first with
  | nil =>
    have hrow : SpellsRow spells close [item] _ :=
      .last hfirst (hspells item (by simp)) hlast
    simpa [hnil] using hrow
  | cons next items ih =>
    have hrow : SpellsRow spells close (item :: next :: items) _ :=
      .cons hfirst (hspells item (by simp))
        (ih hspacing fun other hother => hspells other (List.mem_cons_of_mem _ hother))
    simpa [hcons] using hrow

theorem isSpacing_blank : IsSpacing [' '] := by
  simp [IsSpacing, isSpace]

/-! ## The indented form -/

theorem isSpacing_newLine (level : Nat) : IsSpacing (newLine level) := by
  intro c hc
  rcases List.mem_cons.mp hc with rfl | hblank
  · decide
  · rw [(List.mem_replicate.mp hblank).2]
    decide

def indentedMember (level : Nat) (member : String × Json) : List Char :=
  stringWith plainChar member.1 ++ ": ".toList ++ indented level member.2

theorem indentedMembers_cons (level : Nat) (member : String × Json)
    (members : List (String × Json)) :
    indentedMembers level (member :: members) =
      ',' :: newLine level ++ indentedMember level member ++ indentedMembers level members := by
  simp [indentedMembers, indentedMember]

theorem indented_object_cons (level : Nat) (member : String × Json)
    (members : List (String × Json)) :
    indented level (.object (member :: members)) =
      '\x7b' :: (newLine (level + 1) ++ indentedMember (level + 1) member ++
        indentedMembers (level + 1) members ++ newLine level ++ ['\x7d']) := by
  simp [indented, indentedMember]

theorem spellsMember_indentedMember {spells : Json → List Char → Prop} {level : Nat}
    {member : String × Json} (hspells : spells member.2 (indented level member.2)) :
    SpellsMember spells member (indentedMember level member) :=
  ⟨_, [' '], _, .of_readsBack readsBack_plainChar member.1, isSpacing_blank, hspells,
    by simp [indentedMember]⟩

theorem spells_indented {depth : Nat} {value : Json} (hfits : Fits depth value) (level : Nat) :
    Spells depth value (indented level value) := by
  induction depth generalizing value level with
  | zero =>
    cases value with
    | list items =>
      obtain rfl : items = [] := hfits
      exact .emptyList
    | object members =>
      obtain rfl : members = [] := hfits
      exact .emptyObject
    | _ => exact spellsLeaf_leaf readsBack_plainChar hfits
  | succ depth ih =>
    cases value with
    | list items =>
      cases items with
      | nil => exact .inl .emptyList
      | cons item items =>
        refine .inr (.inl ⟨_, _, rfl, rfl, ?_⟩)
        exact spellsRow_spaced (isSpacing_newLine _) (isSpacing_newLine _) (isSpacing_newLine _) rfl
          (fun _ _ => rfl) ']' fun other hother => ih (hfits other hother) (level + 1)
    | object members =>
      cases members with
      | nil => exact .inl .emptyObject
      | cons member members =>
        refine .inr (.inr ⟨_, _, rfl, indented_object_cons level member members, ?_⟩)
        exact spellsRow_spaced (isSpacing_newLine _) (isSpacing_newLine _) (isSpacing_newLine _) rfl
          (indentedMembers_cons (level + 1)) '\x7d' fun other hother =>
            spellsMember_indentedMember (ih (hfits other hother) (level + 1))
    | _ => exact .inl (spellsLeaf_leaf readsBack_plainChar hfits)

/-- The indented form is read back. -/
theorem parse?_indented {value : Json} (hfits : Fits nestingLimit value) :
    parse? (indented 0 value) = some value :=
  parse?_of_spells (spells_indented hfits 0)

/-! ## The form on one line -/

def inlinedMember (member : String × Json) : List Char :=
  stringWith asciiChar member.1 ++ ": ".toList ++ inlined member.2

theorem inlinedItems_cons (item : Json) (items : List Json) :
    inlinedItems (item :: items) = ',' :: [' '] ++ inlined item ++ inlinedItems items := by
  simp [inlinedItems]

theorem inlinedMembers_cons (member : String × Json) (members : List (String × Json)) :
    inlinedMembers (member :: members) =
      ',' :: [' '] ++ inlinedMember member ++ inlinedMembers members := by
  simp [inlinedMembers, inlinedMember]

theorem inlined_list_cons (item : Json) (items : List Json) :
    inlined (.list (item :: items)) =
      '[' :: ([] ++ inlined item ++ inlinedItems items ++ [] ++ [']']) := by
  simp [inlined]

theorem inlined_object_cons (member : String × Json) (members : List (String × Json)) :
    inlined (.object (member :: members)) =
      '\x7b' :: ([] ++ inlinedMember member ++ inlinedMembers members ++ [] ++ ['\x7d']) := by
  simp [inlined, inlinedMember]

theorem isSpacing_nil : IsSpacing [] :=
  nofun

theorem spells_inlined {depth : Nat} {value : Json} (hfits : Fits depth value) :
    Spells depth value (inlined value) := by
  induction depth generalizing value with
  | zero =>
    cases value with
    | list items =>
      obtain rfl : items = [] := hfits
      exact .emptyList
    | object members =>
      obtain rfl : members = [] := hfits
      exact .emptyObject
    | _ => exact spellsLeaf_leaf readsBack_asciiChar hfits
  | succ depth ih =>
    cases value with
    | list items =>
      cases items with
      | nil => exact .inl .emptyList
      | cons item items =>
        refine .inr (.inl ⟨_, _, rfl, inlined_list_cons item items, ?_⟩)
        exact spellsRow_spaced isSpacing_nil isSpacing_blank isSpacing_nil rfl inlinedItems_cons ']'
          fun other hother => ih (hfits other hother)
    | object members =>
      cases members with
      | nil => exact .inl .emptyObject
      | cons member members =>
        refine .inr (.inr ⟨_, _, rfl, inlined_object_cons member members, ?_⟩)
        exact spellsRow_spaced isSpacing_nil isSpacing_blank isSpacing_nil rfl inlinedMembers_cons
          '\x7d' fun other hother =>
            ⟨_, [' '], _, .of_readsBack readsBack_asciiChar other.1, isSpacing_blank,
              ih (hfits other hother), by simp [inlinedMember]⟩
    | _ => exact .inl (spellsLeaf_leaf readsBack_asciiChar hfits)

/-- The form on one line is read back. -/
theorem parse?_inlined {value : Json} (hfits : Fits nestingLimit value) :
    parse? (inlined value) = some value :=
  parse?_of_spells (spells_inlined hfits)

end ConfigReference.Json
