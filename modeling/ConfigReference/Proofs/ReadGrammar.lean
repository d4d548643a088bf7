import ConfigReference.Proofs.ScanStep
import ConfigReference.Proofs.Text

/-!
# The grammar of reads

A read of a key is a call on the receiver that may stand anywhere in its line.
This module says how such a call is written, apart from how it is looked for,
and proves that the two rules for reads find exactly these calls: a line has a
read if and only if it can be cut around one, and the one that is recorded has
the shortest text before it and, there, the first separator that fits.
-/

namespace ConfigReference

open Text

/-- A read of a key as it is written behind the receiver and a separator. -/
@[ext]
structure Read where
  /-- The accessor without the `Get` or `GetMaybe` that it begins with. -/
  word : List Char
  key : List Char
  /-- The arguments after the key, which only a required read has. -/
  arguments : Option (List Char)
  word_ne_nil : word ≠ []
  isWordChar_of_mem_word : ∀ c ∈ word, Call.isWordChar c = true
  key_ne_nil : key ≠ []
  quote_not_mem_key : '\"' ∉ key
  arguments_ne_nil : ∀ text ∈ arguments, text ≠ []
  paren_not_mem_arguments : ∀ text ∈ arguments, ')' ∉ text

namespace Read

def rule (read : Read) : Rule :=
  match read.arguments with
  | none => .optional
  | some _ => .required

def accessor (read : Read) : List Char :=
  match read.arguments with
  | none => "GetMaybe".toList ++ read.word
  | some _ => "Get".toList ++ read.word

/-- The text of the call.  An optional read ends with the closing quote of the
key, a required one with the parenthesis that closes the arguments. -/
def text (read : Read) : List Char :=
  read.accessor ++ "(\"".toList ++ read.key ++
    match read.arguments with
    | none => "\"".toList
    | some arguments => "\", ".toList ++ arguments ++ ")".toList

def statement (read : Read) : Statement :=
  match read.arguments with
  | none => .optionalRead (String.ofList read.accessor) (String.ofList read.key)
  | some arguments =>
    .requiredRead (String.ofList read.accessor) (String.ofList read.key) (String.ofList arguments)

def entry (read : Read) (file : String) (line : Nat) : Entry where
  key := String.ofList read.key
  accessor := String.ofList read.accessor
  arguments := read.arguments.map String.ofList
  file := file
  line := line

theorem rule_eq_optional_iff {read : Read} : read.rule = .optional ↔ read.arguments = none := by
  rw [rule]
  cases read.arguments <;> simp

theorem rule_eq_required_iff {read : Read} :
    read.rule = .required ↔ ∃ arguments, read.arguments = some arguments := by
  rw [rule]
  cases read.arguments <;> simp

theorem accessor_of_none (read : Read) (hnone : read.arguments = none) :
    read.accessor = Accessor.optionalLead ++ read.word := by
  rw [accessor, hnone]
  rfl

theorem accessor_of_some (read : Read) {arguments : List Char}
    (hsome : read.arguments = some arguments) :
    read.accessor = Accessor.requiredLead ++ read.word := by
  rw [accessor, hsome]
  rfl

theorem text_of_none (read : Read) (hnone : read.arguments = none) :
    read.text = Accessor.optionalLead ++
      (read.word ++ '(' :: '\"' :: (read.key ++ ['\"'])) := by
  rw [text, read.accessor_of_none hnone, hnone, List.append_assoc, List.append_assoc,
    List.append_assoc]
  rfl

theorem text_of_some (read : Read) {arguments : List Char}
    (hsome : read.arguments = some arguments) :
    read.text = Accessor.requiredLead ++
      (read.word ++ '(' :: '\"' :: (read.key ++ '\"' :: ',' :: ' ' :: (arguments ++ [')']))) := by
  rw [text, read.accessor_of_some hsome, hsome, List.append_assoc, List.append_assoc,
    List.append_assoc]
  rfl

theorem statement_of_none (read : Read) (hnone : read.arguments = none) :
    read.statement = .optionalRead (String.ofList (Accessor.optionalLead ++ read.word))
      (String.ofList read.key) := by
  rw [statement, read.accessor_of_none hnone, hnone]

theorem statement_of_some (read : Read) {arguments : List Char}
    (hsome : read.arguments = some arguments) :
    read.statement = .requiredRead (String.ofList (Accessor.requiredLead ++ read.word))
      (String.ofList read.key) (String.ofList arguments) := by
  rw [statement, read.accessor_of_some hsome, hsome]

theorem rule_statement (read : Read) : read.statement.rule = read.rule := by
  rw [statement, rule]
  cases read.arguments <;> rfl

theorem statement_injective : Function.Injective statement := by
  intro left right heq
  have hrule : left.rule = right.rule := by
    rw [← rule_statement, ← rule_statement, heq]
  cases hleft : left.arguments with
  | none =>
    have hright : right.arguments = none := by
      rwa [rule_eq_optional_iff.mpr hleft, eq_comm, rule_eq_optional_iff] at hrule
    rw [left.statement_of_none hleft, right.statement_of_none hright] at heq
    simp only [Statement.optionalRead.injEq, String.ofList_inj, List.append_cancel_left_eq] at heq
    exact Read.ext heq.1 heq.2 (hleft.trans hright.symm)
  | some arguments =>
    obtain ⟨others, hright⟩ : ∃ others, right.arguments = some others := by
      rwa [rule_eq_required_iff.mpr ⟨arguments, hleft⟩, eq_comm, rule_eq_required_iff] at hrule
    rw [left.statement_of_some hleft, right.statement_of_some hright] at heq
    simp only [Statement.requiredRead.injEq, String.ofList_inj, List.append_cancel_left_eq] at heq
    exact Read.ext heq.1 heq.2.1 (by rw [hleft, hright, heq.2.2])

/-- The line is `before`, the receiver, the separator with the given number, the
read and some further text. -/
def StandsIn (variant : Variant) (line before : List Char) (number : Nat) (read : Read) : Prop :=
  ∃ separator behind, (Call.separators variant)[number]? = some separator ∧
    line = before ++ variant.receiver.toList ++ separator.toList ++ read.text ++ behind

end Read

/-! ## Calls at the beginning of a text -/

namespace Call

theorem head?_complete (lead : List Char) {word key : List Char} (hword : word ≠ [])
    (hchars : ∀ c ∈ word, isWordChar c = true) (hkey : key ≠ []) (hquote : '\"' ∉ key)
    (rest : List Char) :
    head? lead (lead ++ (word ++ '(' :: '\"' :: (key ++ '\"' :: rest))) =
      some (⟨lead ++ word, key⟩, rest) := by
  have hopen := takeWhile_dropWhile_append_cons hchars '(' (by decide)
    ('\"' :: (key ++ '\"' :: rest))
  have hchars' : ∀ c ∈ key, decide (c ≠ '\"') = true := fun c hc => by
    simpa using fun heq : c = '\"' => hquote (heq ▸ hc)
  have hclose := takeWhile_dropWhile_append_cons hchars' '\"' (by decide) rest
  simp only [head?, after?_append, hopen, Option.bind_eq_bind, Option.bind_some]
  rw [if_neg (by simpa using hword)]
  simp only [after?, if_true, Option.bind_some, hclose]
  rw [if_neg (by simpa using hkey)]
  rfl

theorem head?_sound {lead text rest : List Char} {head : Head}
    (hhead : head? lead text = some (head, rest)) :
    ∃ word key, word ≠ [] ∧ (∀ c ∈ word, isWordChar c = true) ∧ key ≠ [] ∧ '\"' ∉ key ∧
      head = ⟨lead ++ word, key⟩ ∧
      text = lead ++ (word ++ '(' :: '\"' :: (key ++ '\"' :: rest)) := by
  simp only [head?, Option.bind_eq_bind, Option.bind_none, Option.bind_eq_some_iff,
    Option.ite_none_left_eq_some, List.isEmpty_iff, after?_eq_some_iff, Option.pure_def,
    Option.some.injEq, Prod.mk.injEq] at hhead
  obtain ⟨called, rfl, hword, quoted, hquoted, hkey, closed, hclosed, hhead, rfl⟩ := hhead
  refine ⟨_, _, hword, fun c hc => List.mem_takeWhile_imp hc, hkey, ?_, hhead.symm, ?_⟩
  · intro hc
    simpa using List.mem_takeWhile_imp hc
  · calc lead ++ called
        = lead ++ (called.takeWhile isWordChar ++ called.dropWhile isWordChar) := by
          rw [List.takeWhile_append_dropWhile]
      _ = lead ++ (called.takeWhile isWordChar ++ '(' :: '\"' :: quoted) := by
          rw [hquoted]
          rfl
      _ = _ := by
          rw [← List.singleton_append (l := closed), ← hclosed, List.takeWhile_append_dropWhile]

theorem arguments?_eq_some_iff {text arguments : List Char} :
    arguments? text = some arguments ↔
      arguments ≠ [] ∧ ')' ∉ arguments ∧
        ∃ behind, text = ',' :: ' ' :: (arguments ++ ')' :: behind) := by
  constructor
  · intro hsome
    simp only [arguments?, Option.bind_eq_bind, Option.bind_none, Option.bind_eq_some_iff,
      Option.ite_none_left_eq_some, Bool.or_eq_true, List.isEmpty_iff, not_or,
      after?_eq_some_iff, Option.pure_def, Option.some.injEq] at hsome
    obtain ⟨rest, rfl, ⟨hne, hclosed⟩, rfl⟩ := hsome
    refine ⟨hne, fun hc => by simpa using List.mem_takeWhile_imp hc, ?_⟩
    obtain ⟨c, behind, hrest⟩ := List.exists_cons_of_ne_nil hclosed
    have hc : c = ')' := by
      have hhead := List.head?_dropWhile_not (fun x => decide (x ≠ ')')) rest
      rw [hrest] at hhead
      simpa using hhead
    subst hc
    refine ⟨behind, ?_⟩
    rw [← hrest, List.takeWhile_append_dropWhile]
    rfl
  · rintro ⟨hne, hparen, behind, rfl⟩
    have hchars : ∀ c ∈ arguments, decide (c ≠ ')') = true := fun c hc => by
      simpa using fun heq : c = ')' => hparen (heq ▸ hc)
    have hclose := takeWhile_dropWhile_append_cons hchars ')' (by decide) behind
    simp only [arguments?, after?, if_true, Option.bind_eq_bind, Option.bind_some, hclose]
    rw [if_neg (by simpa using hne)]
    rfl

/-- A recogniser of calls yields the reads of a rule: it accepts a text that
begins with one, and nothing else. -/
def Recognises (call? : List Char → Option Statement) (rule : Rule) : Prop :=
  ∀ text statement, call? text = some statement ↔
    ∃ read : Read, ∃ behind, read.rule = rule ∧ text = read.text ++ behind ∧
      statement = read.statement

theorem recognises_optionalRead? : Recognises optionalRead? .optional := by
  intro text statement
  simp only [optionalRead?, Option.bind_eq_bind, Option.bind_eq_some_iff, Prod.exists,
    Option.pure_def, Option.some.injEq]
  constructor
  · rintro ⟨head, rest, hhead, rfl⟩
    obtain ⟨word, key, hword, hchars, hkey, hquote, rfl, rfl⟩ := head?_sound hhead
    let read : Read := ⟨word, key, none, hword, hchars, hkey, hquote, by simp, by simp⟩
    refine ⟨read, rest, rfl, ?_, rfl⟩
    rw [read.text_of_none rfl]
    simp [read]
  · rintro ⟨read, behind, hrule, htext, hstatement⟩
    rw [Read.rule_eq_optional_iff] at hrule
    refine ⟨⟨Accessor.optionalLead ++ read.word, read.key⟩, behind, ?_, ?_⟩
    · rw [htext, read.text_of_none hrule, ← head?_complete Accessor.optionalLead
        read.word_ne_nil read.isWordChar_of_mem_word read.key_ne_nil read.quote_not_mem_key]
      simp
    · rw [hstatement, read.statement_of_none hrule]

theorem recognises_requiredRead? : Recognises requiredRead? .required := by
  intro text statement
  simp only [requiredRead?, Option.bind_eq_bind, Option.bind_eq_some_iff, Prod.exists,
    Option.pure_def, Option.some.injEq]
  constructor
  · rintro ⟨head, rest, hhead, arguments, harguments, rfl⟩
    obtain ⟨word, key, hword, hchars, hkey, hquote, rfl, rfl⟩ := head?_sound hhead
    obtain ⟨hne, hparen, behind, rfl⟩ := arguments?_eq_some_iff.mp harguments
    let read : Read := ⟨word, key, some arguments, hword, hchars, hkey, hquote,
      by simpa using hne, by simpa using hparen⟩
    refine ⟨read, behind, rfl, ?_, rfl⟩
    rw [read.text_of_some rfl]
    simp [read]
  · rintro ⟨read, behind, hrule, htext, hstatement⟩
    rw [Read.rule_eq_required_iff] at hrule
    obtain ⟨arguments, harguments⟩ := hrule
    refine ⟨⟨Accessor.requiredLead ++ read.word, read.key⟩,
      ',' :: ' ' :: (arguments ++ ')' :: behind), ?_, arguments, ?_, ?_⟩
    · rw [htext, read.text_of_some harguments, ← head?_complete Accessor.requiredLead
        read.word_ne_nil read.isWordChar_of_mem_word read.key_ne_nil read.quote_not_mem_key]
      simp
    · exact arguments?_eq_some_iff.mpr ⟨read.arguments_ne_nil arguments harguments,
        read.paren_not_mem_arguments arguments harguments, behind, rfl⟩
    · rw [hstatement, read.statement_of_some harguments]

end Call

namespace Read

/-- A text begins with at most one read of each rule. -/
theorem eq_of_text_append_eq {left right : Read} (hrule : left.rule = right.rule)
    {behindLeft behindRight : List Char}
    (htext : left.text ++ behindLeft = right.text ++ behindRight) : left = right := by
  -- both texts go through the recogniser of the rule, which has one answer
  have hunique : ∀ {call? : List Char → Option Statement},
      Call.Recognises call? left.rule → left = right := by
    intro call? hcall
    have hleft := (hcall _ _).mpr ⟨left, behindLeft, rfl, rfl, rfl⟩
    have hright := (hcall _ _).mpr ⟨right, behindRight, hrule.symm, htext, rfl⟩
    exact statement_injective (Option.some.inj (hleft.symm.trans hright))
  cases hkind : left.arguments with
  | none => exact hunique (rule_eq_optional_iff.mpr hkind ▸ Call.recognises_optionalRead?)
  | some arguments =>
    exact hunique (rule_eq_required_iff.mpr ⟨arguments, hkind⟩ ▸ Call.recognises_requiredRead?)

theorem StandsIn.eq_of_place_eq {variant : Variant} {line before : List Char} {number : Nat}
    {left right : Read} (hleft : left.StandsIn variant line before number)
    (hright : right.StandsIn variant line before number) (hrule : left.rule = right.rule) :
    left = right := by
  obtain ⟨separator, behindLeft, hseparator, rfl⟩ := hleft
  obtain ⟨separator', behindRight, hseparator', hline⟩ := hright
  obtain rfl : separator = separator' := Option.some.inj (hseparator.symm.trans hseparator')
  simp only [List.append_assoc, List.append_cancel_left_eq] at hline
  exact eq_of_text_append_eq hrule hline

theorem standsIn_cons_cons {variant : Variant} {c d : Char} {line before : List Char}
    {number : Nat} {read : Read} :
    read.StandsIn variant (c :: line) (d :: before) number ↔
      c = d ∧ read.StandsIn variant line before number := by
  simp only [StandsIn, List.cons_append, List.cons.injEq]
  tauto

/-- Among the reads of its rule in the line, the read has the least text before
it and, behind that text, the first separator that fits.  No other read has the
same text before it and the same separator. -/
structure IsFirst (variant : Variant) (line before : List Char) (number : Nat)
    (read : Read) : Prop where
  standsIn : read.StandsIn variant line before number
  first : ∀ (other : Read) (otherBefore : List Char) (otherNumber : Nat),
    other.rule = read.rule → other.StandsIn variant line otherBefore otherNumber →
      before.length < otherBefore.length ∨
        before = otherBefore ∧
          (number < otherNumber ∨ number = otherNumber ∧ read = other)

end Read

/-! ## The search in a line -/

namespace Call

section Search

variable {variant : Variant} {call? : List Char → Option Statement} {rule : Rule}

theorem standsIn_nil_iff {read : Read} {text rest : List Char} {number : Nat}
    (htext : after? variant.receiver.toList text = some rest) :
    read.StandsIn variant text [] number ↔
      ∃ separator behind, (separators variant)[number]? = some separator ∧
        after? separator.toList rest = some (read.text ++ behind) := by
  rw [after?_eq_some_iff] at htext
  simp only [Read.StandsIn, htext, List.nil_append, List.append_assoc,
    List.append_cancel_left_eq, after?_eq_some_iff]

theorem atStart?_eq_none (hcall : Recognises call? rule) {text : List Char}
    (hnone : atStart? variant call? text = none) (read : Read) (number : Nat)
    (hrule : read.rule = rule) : ¬ read.StandsIn variant text [] number := by
  intro hstands
  cases htext : after? variant.receiver.toList text with
  | none =>
    obtain ⟨separator, behind, -, rfl⟩ := hstands
    simp [List.append_assoc] at htext
  | some rest =>
    obtain ⟨separator, behind, hnumber, hrest⟩ := (standsIn_nil_iff htext).mp hstands
    simp only [atStart?, htext, List.findSome?_eq_none_iff] at hnone
    have hseparator := hnone separator (List.mem_of_getElem? hnumber)
    rw [hrest, Option.bind_some, (hcall _ _).mpr ⟨read, behind, hrule, rfl, rfl⟩] at hseparator
    cases hseparator

theorem atStart?_eq_some (hcall : Recognises call? rule) {text : List Char}
    {statement : Statement} (hsome : atStart? variant call? text = some statement) :
    ∃ (read : Read) (number : Nat), read.rule = rule ∧ statement = read.statement ∧
      read.StandsIn variant text [] number ∧
      ∀ (other : Read) (otherNumber : Nat), other.rule = rule →
        other.StandsIn variant text [] otherNumber → number ≤ otherNumber := by
  cases htext : after? variant.receiver.toList text with
  | none => simp [atStart?, htext] at hsome
  | some rest =>
    simp only [atStart?, htext, List.findSome?_eq_some_iff] at hsome
    obtain ⟨earlier, separator, later, hseparators, hfits, hearlier⟩ := hsome
    obtain ⟨called, hcalled, hstatement⟩ := Option.bind_eq_some_iff.mp hfits
    obtain ⟨read, behind, hrule, rfl, rfl⟩ := (hcall _ _).mp hstatement
    refine ⟨read, earlier.length, hrule, rfl, ?_, ?_⟩
    · exact (standsIn_nil_iff htext).mpr ⟨separator, behind, by simp [hseparators], hcalled⟩
    · intro other otherNumber hother hstands
      by_contra hless
      obtain ⟨fitting, behind', hnumber, hrest⟩ := (standsIn_nil_iff htext).mp hstands
      rw [hseparators, List.getElem?_append_left (by omega)] at hnumber
      have hnone := hearlier fitting (List.mem_of_getElem? hnumber)
      rw [hrest, Option.bind_some, (hcall _ _).mpr ⟨other, behind', hother, rfl, rfl⟩] at hnone
      cases hnone

/-- A read that is found at the beginning of the line is the first one. -/
theorem isFirst_of_atStart? (hcall : Recognises call? rule) {line : List Char}
    {statement : Statement} (hsome : atStart? variant call? line = some statement) :
    ∃ (read : Read) (number : Nat), read.rule = rule ∧ statement = read.statement ∧
      read.IsFirst variant line [] number := by
  obtain ⟨read, number, hrule, hstatement, hstands, hleast⟩ := atStart?_eq_some hcall hsome
  refine ⟨read, number, hrule, hstatement, hstands, ?_⟩
  intro other otherBefore otherNumber hother hotherStands
  cases otherBefore with
  | cons c otherBefore => exact .inl (by simp)
  | nil =>
    refine .inr ⟨rfl, ?_⟩
    rcases Nat.lt_or_eq_of_le (hleast other otherNumber (hother.trans hrule) hotherStands) with
      hless | rfl
    · exact .inl hless
    · exact .inr ⟨rfl, hstands.eq_of_place_eq hotherStands hother.symm⟩

theorem search?_eq_some (hcall : Recognises call? rule) {line : List Char}
    {statement : Statement} (hsome : search? variant call? line = some statement) :
    ∃ (read : Read) (before : List Char) (number : Nat), read.rule = rule ∧
      statement = read.statement ∧ read.IsFirst variant line before number := by
  induction line with
  | nil =>
    obtain ⟨read, number, hrule, hstatement, hfirst⟩ := isFirst_of_atStart? hcall hsome
    exact ⟨read, [], number, hrule, hstatement, hfirst⟩
  | cons c rest ih =>
    rw [search?] at hsome
    split at hsome
    · next found hfound =>
      obtain rfl : found = statement := Option.some.inj hsome
      obtain ⟨read, number, hrule, hstatement, hfirst⟩ := isFirst_of_atStart? hcall hfound
      exact ⟨read, [], number, hrule, hstatement, hfirst⟩
    · next hnone =>
      obtain ⟨read, before, number, hrule, hstatement, hstands, hfirst⟩ := ih hsome
      refine ⟨read, c :: before, number, hrule, hstatement,
        Read.standsIn_cons_cons.mpr ⟨rfl, hstands⟩, ?_⟩
      intro other otherBefore otherNumber hother hotherStands
      cases otherBefore with
      | nil =>
        exact absurd hotherStands
          (atStart?_eq_none hcall hnone other otherNumber (hother.trans hrule))
      | cons d otherBefore =>
        obtain ⟨rfl, hinside⟩ := Read.standsIn_cons_cons.mp hotherStands
        rcases hfirst other otherBefore otherNumber hother hinside with hless | ⟨rfl, hplace⟩
        · exact .inl (by simpa using hless)
        · exact .inr ⟨rfl, hplace⟩

theorem search?_eq_none (hcall : Recognises call? rule) {line : List Char}
    (hnone : search? variant call? line = none) (read : Read) (before : List Char) (number : Nat)
    (hrule : read.rule = rule) : ¬ read.StandsIn variant line before number := by
  induction line generalizing before with
  | nil =>
    intro hstands
    obtain rfl : before = [] := by
      obtain ⟨separator, behind, -, hline⟩ := hstands
      simp only [List.nil_eq, List.append_eq_nil_iff] at hline
      exact hline.1.1.1.1
    exact atStart?_eq_none hcall hnone read number hrule hstands
  | cons c rest ih =>
    intro hstands
    rw [search?] at hnone
    split at hnone
    · cases hnone
    · next hstart =>
      cases before with
      | nil => exact atStart?_eq_none hcall hstart read number hrule hstands
      | cons d before => exact ih hnone before (Read.standsIn_cons_cons.mp hstands).2

theorem search?_isSome_iff (hcall : Recognises call? rule) {line : List Char} :
    (search? variant call? line).isSome ↔
      ∃ (read : Read) (before : List Char) (number : Nat),
        read.rule = rule ∧ read.StandsIn variant line before number := by
  constructor
  · intro hsome
    obtain ⟨statement, hstatement⟩ := Option.isSome_iff_exists.mp hsome
    obtain ⟨read, before, number, hrule, -, hfirst⟩ := search?_eq_some hcall hstatement
    exact ⟨read, before, number, hrule, hfirst.standsIn⟩
  · rintro ⟨read, before, number, hrule, hstands⟩
    rw [Option.isSome_iff_ne_none]
    intro hnone
    exact search?_eq_none hcall hnone read before number hrule hstands

end Search

end Call

/-! ## The rules of a line -/

/-- The rule that decides about a line. -/
def Rule.fired? (variant : Variant) (line : List Char) : Option Rule :=
  (Statement.ofLine? variant line).map Statement.rule

theorem Rule.rule_of_statement? {variant : Variant} {line : List Char} {rule : Rule}
    {statement : Statement} (hsome : rule.statement? variant line = some statement) :
    statement.rule = rule := by
  cases rule with
  | optional =>
    obtain ⟨read, -, -, hrule, rfl, -⟩ :=
      Call.search?_eq_some Call.recognises_optionalRead? hsome
    rw [read.rule_statement, hrule]
  | required =>
    obtain ⟨read, -, -, hrule, rfl, -⟩ :=
      Call.search?_eq_some Call.recognises_requiredRead? hsome
    rw [read.rule_statement, hrule]
  | _ =>
    simp only [Rule.statement?, Option.ite_none_right_eq_some] at hsome
    rw [← Option.some.inj hsome.2]
    rfl

namespace Statement

variable (variant : Variant) (line : List Char)

theorem byRules?_cons (rule : Rule) (rules : List Rule) :
    byRules? (rule :: rules) variant line =
      (rule.statement? variant (trim line)).or (byRules? rules variant line) := by
  rw [byRules?, List.findSome?_cons, byRules?]
  cases rule.statement? variant (trim line) <;> rfl

variable {variant line}

theorem rule_mem_of_byRules? {rules : List Rule} {statement : Statement}
    (hsome : byRules? rules variant line = some statement) : statement.rule ∈ rules := by
  obtain ⟨rule, hrule, hstatement⟩ := List.exists_of_findSome?_eq_some hsome
  rwa [Rule.rule_of_statement? hstatement]

/-- The rule for optional reads is tried first. -/
theorem ofLine?_eq_some_iff_optional {statement : Statement}
    (hrule : statement.rule = .optional) :
    ofLine? variant line = some statement ↔
      Rule.statement? variant (trim line) .optional = some statement := by
  rw [ofLine?, Rule.order, byRules?_cons]
  cases hoptional : Rule.statement? variant (trim line) .optional with
  | some found => rfl
  | none =>
    simp only [Option.none_or, reduceCtorEq, iff_false]
    intro hsome
    have hmem := rule_mem_of_byRules? hsome
    simp [hrule] at hmem

/-- The rule for required reads is tried where there is no optional read. -/
theorem ofLine?_eq_some_iff_required {statement : Statement}
    (hrule : statement.rule = .required) :
    ofLine? variant line = some statement ↔
      Rule.statement? variant (trim line) .optional = none ∧
        Rule.statement? variant (trim line) .required = some statement := by
  rw [ofLine?, Rule.order, byRules?_cons, byRules?_cons]
  cases hoptional : Rule.statement? variant (trim line) .optional with
  | some found =>
    simp only [Option.some_or, Option.some.injEq, reduceCtorEq, false_and, iff_false]
    rintro rfl
    simp [Rule.rule_of_statement? hoptional] at hrule
  | none =>
    cases hrequired : Rule.statement? variant (trim line) .required with
    | some found => simp
    | none =>
      simp only [Option.none_or, reduceCtorEq, and_false, iff_false]
      intro hsome
      have hmem := rule_mem_of_byRules? hsome
      simp [hrule] at hmem

end Statement

theorem Rule.fired?_eq_some_iff {variant : Variant} {line : List Char} {rule : Rule} :
    Rule.fired? variant line = some rule ↔
      ∃ statement, Statement.ofLine? variant line = some statement ∧ statement.rule = rule := by
  rw [Rule.fired?, Option.map_eq_some_iff]

theorem Rule.fired?_eq_optional_iff {variant : Variant} {line : List Char} :
    Rule.fired? variant line = some .optional ↔
      (Rule.statement? variant (trim line) .optional).isSome := by
  rw [Rule.fired?_eq_some_iff, Option.isSome_iff_exists]
  constructor
  · rintro ⟨statement, hline, hrule⟩
    exact ⟨statement, (Statement.ofLine?_eq_some_iff_optional hrule).mp hline⟩
  · rintro ⟨statement, hstatement⟩
    have hrule := Rule.rule_of_statement? hstatement
    exact ⟨statement, (Statement.ofLine?_eq_some_iff_optional hrule).mpr hstatement, hrule⟩

theorem Rule.fired?_eq_required_iff {variant : Variant} {line : List Char} :
    Rule.fired? variant line = some .required ↔
      Rule.fired? variant line ≠ some .optional ∧
        (Rule.statement? variant (trim line) .required).isSome := by
  rw [ne_eq, Rule.fired?_eq_optional_iff, Option.not_isSome_iff_eq_none,
    Rule.fired?_eq_some_iff, Option.isSome_iff_exists]
  constructor
  · rintro ⟨statement, hline, hrule⟩
    obtain ⟨hnone, hsome⟩ := (Statement.ofLine?_eq_some_iff_required hrule).mp hline
    exact ⟨hnone, statement, hsome⟩
  · rintro ⟨hnone, statement, hsome⟩
    have hrule := Rule.rule_of_statement? hsome
    exact ⟨statement, (Statement.ofLine?_eq_some_iff_required hrule).mpr ⟨hnone, hsome⟩, hrule⟩

/-- The statement of a read is the read that stands first in its line. -/
theorem Read.exists_isFirst_of_ofLine? {variant : Variant} {line : List Char}
    {statement : Statement} (hline : Statement.ofLine? variant line = some statement)
    (hrule : statement.rule = .optional ∨ statement.rule = .required) :
    ∃ (read : Read) (before : List Char) (number : Nat), statement = read.statement ∧
      read.IsFirst variant (trim line) before number := by
  rcases hrule with hrule | hrule
  · have hsearch := (Statement.ofLine?_eq_some_iff_optional hrule).mp hline
    obtain ⟨read, before, number, -, hstatement, hfirst⟩ :=
      Call.search?_eq_some Call.recognises_optionalRead? hsearch
    exact ⟨read, before, number, hstatement, hfirst⟩
  · have hsearch := ((Statement.ofLine?_eq_some_iff_required hrule).mp hline).2
    obtain ⟨read, before, number, -, hstatement, hfirst⟩ :=
      Call.search?_eq_some Call.recognises_requiredRead? hsearch
    exact ⟨read, before, number, hstatement, hfirst⟩

theorem Read.entry?_statement (read : Read) (file : String) (line : Nat) :
    read.statement.entry? file line = some (read.entry file line) := by
  rw [Read.statement, Read.entry]
  cases read.arguments <;> rfl

/-- The rules for reads accept exactly the lines that can be cut around a read.
The one entry that such a line adds is that of the read with the shortest text
before it and, there, the first separator that fits. -/
theorem read_rules_accept_grammar (variant : Variant) (line : List Char) :
    (Rule.fired? variant line = some .optional ↔
      ∃ (read : Read) (before : List Char) (number : Nat),
        read.arguments = none ∧ read.StandsIn variant (trim line) before number) ∧
    (Rule.fired? variant line = some .required ↔
      Rule.fired? variant line ≠ some .optional ∧
        ∃ (read : Read) (before : List Char) (number : Nat),
          read.arguments ≠ none ∧ read.StandsIn variant (trim line) before number) ∧
    ∀ rule ∈ [Rule.optional, Rule.required], Rule.fired? variant line = some rule →
      ∃ (read : Read) (before : List Char) (number : Nat), read.rule = rule ∧
        read.IsFirst variant (trim line) before number ∧
        ∀ state : ScanState,
          (state.step variant (Statement.ofLine? variant line)).scan.entries =
            state.scan.entries ++ [read.entry state.scan.file (state.line + 1)] := by
  refine ⟨?_, ?_, ?_⟩
  · rw [Rule.fired?_eq_optional_iff, Rule.statement?,
      Call.search?_isSome_iff Call.recognises_optionalRead?]
    simp only [Read.rule_eq_optional_iff]
  · rw [Rule.fired?_eq_required_iff, Rule.statement?,
      Call.search?_isSome_iff Call.recognises_requiredRead?]
    simp only [Read.rule_eq_required_iff, Option.ne_none_iff_exists']
  · intro rule hmem hfired
    obtain ⟨statement, hline, rfl⟩ := Rule.fired?_eq_some_iff.mp hfired
    obtain ⟨read, before, number, rfl, hfirst⟩ :=
      Read.exists_isFirst_of_ofLine? hline (by simpa using hmem)
    refine ⟨read, before, number, read.rule_statement.symm, hfirst, ?_⟩
    intro state
    rw [ScanState.entries_step, hline, Option.bind_some, read.entry?_statement]
    rfl

/-- A call that breaks off before its arguments is passed over for a later one. -/
theorem read_rules_accept_grammar_second_call :
    Rule.fired? Variant.map "CFG->GetBool(\"a\" CFG.GetBool(\"b\", 1)".toList =
        some .required ∧
      ∃ (read : Read) (before : List Char) (number : Nat), read.rule = .required ∧
        read.IsFirst Variant.map (trim "CFG->GetBool(\"a\" CFG.GetBool(\"b\", 1)".toList)
          before number ∧
        ∀ state : ScanState,
          (state.step Variant.map (Statement.ofLine? Variant.map
              "CFG->GetBool(\"a\" CFG.GetBool(\"b\", 1)".toList)).scan.entries =
            state.scan.entries ++ [read.entry state.scan.file (state.line + 1)] :=
  ⟨by decide, (read_rules_accept_grammar Variant.map _).2.2 .required (by decide) (by decide)⟩

end ConfigReference
