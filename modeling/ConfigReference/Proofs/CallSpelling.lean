import ConfigReference.Proofs.ReadGrammar
import Mathlib.Data.List.Basic

/-!
# Calls on the receiver

Where the receiver and the separators hold no letters that an accessor could
take up, a line with a single opening parenthesis can be read in one way only:
what stands before the parenthesis ends with the accessor, and what stands behind
it tells a read from the calls that are known with all their arguments.  A line
without an opening parenthesis is a marker or no statement.
-/

namespace ConfigReference

open Text

/-- It can be told where the receiver, the separator and the accessor of a call
meet. -/
structure Variant.SpellsCalls (variant : Variant) : Prop where
  receiver_ne_empty : variant.receiver ≠ ""
  receiver_chars : ∀ c ∈ variant.receiver.toList, isBlank c = false ∧ c ≠ '('
  separators_ne_nil : variant.separators ≠ []
  separator_ne_empty : ∀ separator ∈ variant.separators, separator ≠ ""
  separator_chars : ∀ separator ∈ variant.separators, ∀ c ∈ separator.toList,
    Call.isWordChar c = false ∧ isBlank c = false ∧ c ≠ '('

/-! ## The spelling of calls -/

theorem separators_of_ne_nil {variant : Variant} (hseparators : variant.separators ≠ []) :
    Call.separators variant = variant.separators := by
  simp [Call.separators, hseparators]

namespace Variant.SpellsCalls

variable {variant : Variant} {spelling : String}

theorem separators_eq (hvariant : variant.SpellsCalls) :
    Call.separators variant = variant.separators :=
  separators_of_ne_nil hvariant.separators_ne_nil

theorem exists_separator (hspelling : spelling ∈ variant.spellings) :
    ∃ separator ∈ variant.separators,
      spelling.toList = variant.receiver.toList ++ separator.toList := by
  obtain ⟨separator, hseparator, rfl⟩ := List.mem_map.mp hspelling
  exact ⟨separator, hseparator, String.toList_append⟩

theorem spelling_chars (hvariant : variant.SpellsCalls) (hspelling : spelling ∈ variant.spellings) :
    ∀ c ∈ spelling.toList, isBlank c = false ∧ c ≠ '(' := by
  obtain ⟨separator, hseparator, heq⟩ := exists_separator hspelling
  intro c hc
  rw [heq, List.mem_append] at hc
  rcases hc with hc | hc
  · exact hvariant.receiver_chars c hc
  · exact (hvariant.separator_chars separator hseparator c hc).2

theorem paren_not_mem_spelling (hvariant : variant.SpellsCalls)
    (hspelling : spelling ∈ variant.spellings) : '(' ∉ spelling.toList := by
  intro hc
  exact (hvariant.spelling_chars hspelling _ hc).2 rfl

theorem spelling_ne_nil (hvariant : variant.SpellsCalls)
    (hspelling : spelling ∈ variant.spellings) : spelling.toList ≠ [] := by
  obtain ⟨separator, -, heq⟩ := exists_separator hspelling
  rw [heq]
  simp [hvariant.receiver_ne_empty]

/-- A separator ends where the word behind it begins. -/
theorem getLast?_append_separator (hvariant : variant.SpellsCalls) {separator : String}
    (hseparator : separator ∈ variant.separators) (front : List Char) :
    ∃ c, Call.isWordChar c = false ∧ (front ++ separator.toList).getLast? = some c := by
  have hne : separator.toList ≠ [] := by
    simpa using hvariant.separator_ne_empty separator hseparator
  refine ⟨separator.toList.getLast hne, ?_, ?_⟩
  · exact (hvariant.separator_chars separator hseparator _ (List.getLast_mem hne)).1
  · rw [List.getLast?_append_of_ne_nil _ hne, List.getLast?_eq_some_getLast hne]

end Variant.SpellsCalls

/-- A word is cut off from a text at the last character that is not part of it. -/
theorem Call.append_word_inj {left right word word' : List Char}
    (hleft : ∃ c, isWordChar c = false ∧ left.getLast? = some c)
    (hright : ∃ c, isWordChar c = false ∧ right.getLast? = some c)
    (hword : ∀ c ∈ word, isWordChar c = true) (hword' : ∀ c ∈ word', isWordChar c = true)
    (heq : left ++ word = right ++ word') : left = right ∧ word = word' := by
  -- what one text is longer by would be a part of the other word
  have hnil : ∀ {longer shorter middle behind : List Char},
      (∃ c, isWordChar c = false ∧ longer.getLast? = some c) → longer = shorter ++ middle →
        (∀ c ∈ middle ++ behind, isWordChar c = true) → middle = [] := by
    rintro longer shorter middle behind ⟨c, hc, hlast⟩ rfl hmiddle
    by_contra hne
    rw [List.getLast?_append_of_ne_nil _ hne] at hlast
    have hmem := hmiddle c (List.mem_append_left _ (List.mem_of_getLast? hlast))
    simp [hc] at hmem
  rcases List.append_eq_append_iff.mp heq with ⟨middle, hlonger, rfl⟩ | ⟨middle, hlonger, rfl⟩
  · obtain rfl := hnil hright hlonger hword
    simpa using hlonger.symm
  · obtain rfl := hnil hleft hlonger hword'
    simpa using hlonger

/-! ## Reads around the only parenthesis -/

/-- The text of a read behind its accessor and the opening quote of the key. -/
def Read.inner (read : Read) : List Char :=
  read.key ++
    match read.arguments with
    | none => "\"".toList
    | some arguments => "\", ".toList ++ arguments ++ ")".toList

namespace Read

theorem text_eq (read : Read) : read.text = read.accessor ++ '(' :: '\"' :: read.inner := by
  rw [text, inner, List.append_assoc, List.append_assoc]
  rfl

theorem not_mem_inner {read : Read} {c : Char} (hkey : c ∉ read.key)
    (harguments : ∀ arguments ∈ read.arguments, c ∉ arguments)
    (hmarks : c ∉ "\", )".toList) : c ∉ read.inner := by
  have hmarks' : c ≠ '\"' ∧ c ≠ ',' ∧ c ≠ ' ' ∧ c ≠ ')' := by simpa using hmarks
  rw [inner]
  cases hcase : read.arguments with
  | none => simp [hkey, hmarks']
  | some arguments => simp [hkey, hmarks', harguments arguments hcase]

theorem isWordChar_of_mem_accessor (read : Read) :
    ∀ c ∈ read.accessor, Call.isWordChar c = true := by
  have hlead : ∀ lead : List Char, lead.all Call.isWordChar = true →
      ∀ c ∈ lead ++ read.word, Call.isWordChar c = true := by
    intro lead hall c hc
    rcases List.mem_append.mp hc with hc | hc
    · exact List.all_eq_true.mp hall c hc
    · exact read.isWordChar_of_mem_word c hc
  rw [accessor]
  cases read.arguments with
  | none => exact hlead _ (by decide)
  | some arguments => exact hlead _ (by decide)

theorem not_mem_accessor (read : Read) {c : Char} (hc : Call.isWordChar c = false) :
    c ∉ read.accessor := by
  intro hmem
  simp [read.isWordChar_of_mem_accessor c hmem] at hc

theorem paren_mem_of_standsIn {variant : Variant} {line before : List Char} {number : Nat}
    {read : Read} (hstands : read.StandsIn variant line before number) : '(' ∈ line := by
  obtain ⟨separator, behind, -, rfl⟩ := hstands
  simp [read.text_eq]

/-- The only opening parenthesis of a line is that of every read in it. -/
theorem StandsIn.parts_eq {variant : Variant} {stem tail before : List Char} {number : Nat}
    {read : Read} (hstands : read.StandsIn variant (stem ++ '(' :: tail) before number)
    (hstem : '(' ∉ stem) (htail : '(' ∉ tail) :
    ∃ separator ∈ Call.separators variant, ∃ behind,
      stem = before ++ variant.receiver.toList ++ separator.toList ++ read.accessor ∧
        tail = '\"' :: (read.inner ++ behind) := by
  obtain ⟨separator, behind, hnumber, hline⟩ := hstands
  rw [read.text_eq, ← List.append_assoc, List.append_assoc _ _ behind, List.cons_append] at hline
  obtain ⟨hfront, -, hback⟩ := (List.append_cons_inj_of_notMem hstem htail).mp hline
  exact ⟨separator, List.mem_of_getElem? hnumber, behind, hfront, hback⟩

section Printed

variable {variant : Variant} {spelling : String} {read : Read}

/-- Every read in a line with a printed read and no further parenthesis has the
same accessor and is followed by the same text. -/
theorem StandsIn.text_append_eq (hvariant : variant.SpellsCalls)
    (hspelling : spelling ∈ variant.spellings) {behind : List Char}
    (hinner : '(' ∉ read.inner ++ behind) {other : Read} {before : List Char} {number : Nat}
    (hstands : other.StandsIn variant (spelling.toList ++ (read.text ++ behind)) before number) :
    read.accessor = other.accessor ∧
      ∃ otherBehind, read.text ++ behind = other.text ++ otherBehind := by
  obtain ⟨separator, hseparator, hparts⟩ := Variant.SpellsCalls.exists_separator hspelling
  have hline : spelling.toList ++ (read.text ++ behind) =
      (spelling.toList ++ read.accessor) ++ '(' :: '\"' :: (read.inner ++ behind) := by
    simp [read.text_eq]
  have hstem : '(' ∉ spelling.toList ++ read.accessor := by
    rw [List.mem_append, not_or]
    exact ⟨hvariant.paren_not_mem_spelling hspelling, read.not_mem_accessor (by decide)⟩
  rw [hline] at hstands
  obtain ⟨separator', hseparator', otherBehind, hfront, hback⟩ :=
    hstands.parts_eq hstem (by simpa using hinner)
  rw [hvariant.separators_eq] at hseparator'
  obtain ⟨-, haccessor⟩ := Call.append_word_inj
    (hparts ▸ hvariant.getLast?_append_separator hseparator _)
    (hvariant.getLast?_append_separator hseparator' _)
    read.isWordChar_of_mem_accessor other.isWordChar_of_mem_accessor hfront
  refine ⟨haccessor, otherBehind, ?_⟩
  rw [read.text_eq, other.text_eq, List.append_assoc, List.append_assoc, haccessor,
    List.cons_append, List.cons_append, hback]
  rfl

theorem standsIn_of_spelling (hvariant : variant.SpellsCalls)
    (hspelling : spelling ∈ variant.spellings) (read : Read) (behind : List Char) :
    ∃ number, read.StandsIn variant (spelling.toList ++ (read.text ++ behind)) [] number := by
  obtain ⟨separator, hseparator, hparts⟩ := Variant.SpellsCalls.exists_separator hspelling
  obtain ⟨number, hnumber⟩ := List.getElem?_of_mem hseparator
  refine ⟨number, separator, behind, ?_, ?_⟩
  · rwa [hvariant.separators_eq]
  · simp [hparts]

/-- The search for reads of its rule finds a printed read. -/
theorem search?_of_spelling (hvariant : variant.SpellsCalls)
    (hspelling : spelling ∈ variant.spellings) {behind : List Char}
    (hinner : '(' ∉ read.inner ++ behind) {call? : List Char → Option Statement}
    (hcall : Call.Recognises call? read.rule) :
    Call.search? variant call? (spelling.toList ++ (read.text ++ behind)) =
      some read.statement := by
  obtain ⟨number, hstands⟩ := read.standsIn_of_spelling hvariant hspelling behind
  obtain ⟨statement, hsome⟩ := Option.isSome_iff_exists.mp
    ((Call.search?_isSome_iff hcall).mpr ⟨read, [], number, rfl, hstands⟩)
  obtain ⟨other, before, otherNumber, hrule, rfl, hfirst⟩ := Call.search?_eq_some hcall hsome
  obtain ⟨-, otherBehind, htext⟩ := hfirst.standsIn.text_append_eq hvariant hspelling hinner
  rw [hsome, eq_of_text_append_eq hrule.symm htext]

/-- A printed required read is not taken for an optional one. -/
theorem optional_eq_none_of_spelling (hvariant : variant.SpellsCalls)
    (hspelling : spelling ∈ variant.spellings) {behind : List Char}
    (hinner : '(' ∉ read.inner ++ behind) (hrule : read.rule = .required)
    (hmaybe : ¬ "Maybe".toList <+: read.word) :
    Rule.statement? variant (spelling.toList ++ (read.text ++ behind)) .optional = none := by
  rw [← Option.not_isSome_iff_eq_none, Rule.statement?,
    Call.search?_isSome_iff Call.recognises_optionalRead?]
  rintro ⟨other, before, number, hother, hstands⟩
  obtain ⟨haccessor, -⟩ := hstands.text_append_eq hvariant hspelling hinner
  obtain ⟨arguments, harguments⟩ := rule_eq_required_iff.mp hrule
  rw [read.accessor_of_some harguments,
    other.accessor_of_none (rule_eq_optional_iff.mp hother)] at haccessor
  have hlead : Accessor.requiredLead ++ read.word =
      Accessor.requiredLead ++ ("Maybe".toList ++ other.word) := haccessor
  rw [List.append_cancel_left hlead] at hmaybe
  exact hmaybe (List.prefix_append _ _)

end Printed

end Read

/-! ## Calls that fill their line -/

namespace Rule

variable {variant : Variant}

/-- The calls that are known with all their arguments. -/
def exactCalls : List String :=
  ["FailIfErrorLast()", "SetStrictMode(true)", "SetStrictMode(wasStrict)", "SetStrictMode(false)"]

def fromParen (text : List Char) : List Char :=
  text.dropWhile (· ≠ '(')

theorem fromParen_append {front : List Char} (hfront : '(' ∉ front) (back : List Char) :
    fromParen (front ++ back) = fromParen back := by
  rw [fromParen, List.dropWhile_append_of_pos, fromParen]
  intro c hc
  simpa using fun heq : c = '(' => hfront (heq ▸ hc)

/-- The exact calls differ in what they hand over. -/
theorem fromParen_injOn_exactCalls :
    ∀ call ∈ exactCalls, ∀ other ∈ exactCalls,
      fromParen call.toList = fromParen other.toList → call = other := by
  decide

/-- An exact call has one opening parenthesis, with no quote behind it. -/
theorem exactCalls_parts :
    ∀ call ∈ exactCalls, ∃ name c tail, call.toList = name ++ '(' :: c :: tail ∧ '(' ∉ name ∧
      '(' ∉ c :: tail ∧ c ≠ '\"' := by
  intro call hcall
  simp only [exactCalls, List.mem_cons, List.not_mem_nil, or_false] at hcall
  rcases hcall with rfl | rfl | rfl | rfl
  · exact ⟨"FailIfErrorLast".toList, ')', [], by decide⟩
  · exact ⟨"SetStrictMode".toList, 't', "rue)".toList, by decide⟩
  · exact ⟨"SetStrictMode".toList, 'w', "asStrict)".toList, by decide⟩
  · exact ⟨"SetStrictMode".toList, 'f', "alse)".toList, by decide⟩

/-- A line with an exact call holds no read: its only parenthesis is that of the call, and
what is handed over is no key. -/
theorem not_standsIn_exactCall {spelling call : String} (hcall : call ∈ exactCalls)
    (hspelling : '(' ∉ spelling.toList) {ending : List Char} (hending : '(' ∉ ending)
    (read : Read) (before : List Char) (number : Nat) :
    ¬ read.StandsIn variant (spelling.toList ++ call.toList ++ ending) before number := by
  obtain ⟨name, c, tail, hparts, hname, htail, hquote⟩ := exactCalls_parts call hcall
  have hshape : spelling.toList ++ call.toList ++ ending =
      (spelling.toList ++ name) ++ '(' :: (c :: tail ++ ending) := by
    simp [hparts]
  have hstem : '(' ∉ spelling.toList ++ name := by
    rw [List.mem_append, not_or]
    exact ⟨hspelling, hname⟩
  have hrest : '(' ∉ c :: tail ++ ending := by
    rw [List.mem_append, not_or]
    exact ⟨htail, hending⟩
  rw [hshape]
  intro hstands
  obtain ⟨separator, -, behind, -, htext⟩ := hstands.parts_eq hstem hrest
  exact hquote (List.cons.inj htext).1

theorem isCall_iff {calls : List String} {line : List Char} :
    isCall variant calls line = true ↔
      ∃ spelling ∈ variant.spellings, ∃ call ∈ calls,
        withoutSemicolon line = spelling.toList ++ call.toList := by
  simp only [isCall, List.any_eq_true, decide_eq_true_eq]
  refine exists_congr fun spelling => and_congr_right fun _ => exists_congr fun call =>
    and_congr_right fun _ => ?_
  rw [← String.toList_inj, String.toList_ofList, String.toList_append]

/-- A line with an exact call is a call of one of the given forms if its own
form is given. -/
theorem isCall_eq_decide_mem (hvariant : variant.SpellsCalls) {spelling call : String}
    (hspelling : spelling ∈ variant.spellings) (hcall : call ∈ exactCalls) {line : List Char}
    (hline : withoutSemicolon line = spelling.toList ++ call.toList) {calls : List String}
    (hcalls : ∀ other ∈ calls, other ∈ exactCalls) :
    isCall variant calls line = decide (call ∈ calls) := by
  rw [Bool.eq_iff_iff, isCall_iff, decide_eq_true_iff, hline]
  constructor
  · rintro ⟨otherSpelling, hother, other, hmem, heq⟩
    have htail := congrArg fromParen heq
    rw [fromParen_append (hvariant.paren_not_mem_spelling hspelling),
      fromParen_append (hvariant.paren_not_mem_spelling hother)] at htail
    rwa [fromParen_injOn_exactCalls call hcall other (hcalls other hmem) htail]
  · intro hmem
    exact ⟨spelling, hspelling, call, hmem, rfl⟩

theorem mem_of_mem_withoutSemicolon {line : List Char} {c : Char}
    (hc : c ∈ withoutSemicolon line) : c ∈ line := by
  rw [withoutSemicolon] at hc
  split at hc
  · rw [trimEnd_eq_rdropWhile] at hc
    exact (List.dropLast_prefix line).mem ((List.rdropWhile_prefix isBlank _).mem hc)
  · exact hc

/-- Behind a text that ends with another character than a blank or a semicolon,
blanks with one semicolon are all that is left away. -/
theorem withoutSemicolon_eq_iff {line text : List Char} {last : Char}
    (hlast : text.getLast? = some last) (hblank : isBlank last = false) (hsemicolon : last ≠ ';') :
    withoutSemicolon line = text ↔
      line = text ∨
        ∃ blanks, (∀ c ∈ blanks, isBlank c = true) ∧ line = text ++ blanks ++ [';'] := by
  constructor
  · intro heq
    rw [withoutSemicolon] at heq
    split at heq
    · next hend =>
      obtain ⟨front, rfl⟩ := List.getLast?_eq_some_iff.mp hend
      rw [List.dropLast_concat, trimEnd_eq_rdropWhile] at heq
      refine .inr ⟨front.rtakeWhile isBlank, fun c hc => List.mem_rtakeWhile_imp hc, ?_⟩
      rw [← heq, List.rdropWhile_append_rtakeWhile]
    · exact .inl heq
  · rintro (rfl | ⟨blanks, hblanks, rfl⟩)
    · rw [withoutSemicolon, if_neg (by simp [hlast, hsemicolon])]
    · rw [withoutSemicolon, if_pos List.getLast?_concat, List.dropLast_concat,
        trimEnd_append_blank text hblanks, trimEnd_eq_self (by simp [hlast, hblank])]

theorem isCall_eq_false_of_no_paren {line : List Char} (hline : '(' ∉ line) {calls : List String}
    (hcalls : ∀ other ∈ calls, other ∈ exactCalls) : isCall variant calls line = false := by
  rw [Bool.eq_false_iff, ne_eq, isCall_iff]
  rintro ⟨spelling, -, call, hcall, heq⟩
  obtain ⟨name, c, tail, hparts, -⟩ := exactCalls_parts call (hcalls call hcall)
  apply hline
  apply mem_of_mem_withoutSemicolon
  simp [heq, hparts]

theorem statement?_eq_none_of_no_read {line : List Char}
    (hnone : ∀ (read : Read) before number, ¬ read.StandsIn variant line before number) :
    statement? variant line .optional = none ∧ statement? variant line .required = none := by
  constructor
  · rw [← Option.not_isSome_iff_eq_none, statement?,
      Call.search?_isSome_iff Call.recognises_optionalRead?]
    rintro ⟨read, before, number, -, hstands⟩
    exact hnone read before number hstands
  · rw [← Option.not_isSome_iff_eq_none, statement?,
      Call.search?_isSome_iff Call.recognises_requiredRead?]
    rintro ⟨read, before, number, -, hstands⟩
    exact hnone read before number hstands

end Rule

namespace Statement

variable {variant : Variant} {line : List Char}

theorem ofLine?_of_no_read
    (hnone : ∀ (read : Read) before number, ¬ read.StandsIn variant (trim line) before number) :
    ofLine? variant line =
      byRules? [.failFast, .sectionStart, .sectionEnd, .strictOn, .strictOff] variant line := by
  obtain ⟨hoptional, hrequired⟩ := Rule.statement?_eq_none_of_no_read hnone
  rw [ofLine?, Rule.order, byRules?_cons, byRules?_cons, hoptional, hrequired, Option.none_or,
    Option.none_or]

/-- Without an opening parenthesis a line is a marker or no statement. -/
theorem ofLine?_of_no_paren (hparen : '(' ∉ trim line) :
    ofLine? variant line =
      if trim line = Rule.sectionStartMarker.toList then some .sectionStart
      else if trim line = Rule.sectionEndMarker.toList then some .sectionEnd
      else none := by
  rw [ofLine?_of_no_read fun _ _ _ hstands => hparen (Read.paren_mem_of_standsIn hstands)]
  simp only [byRules?_cons, Rule.statement?]
  rw [Rule.isCall_eq_false_of_no_paren hparen (by decide),
    Rule.isCall_eq_false_of_no_paren hparen (by decide),
    Rule.isCall_eq_false_of_no_paren hparen (by decide)]
  by_cases hstart : trim line = Rule.sectionStartMarker.toList
  · rw [if_pos hstart, if_pos hstart]
    rfl
  · rw [if_neg hstart, if_neg hstart]
    by_cases hend : trim line = Rule.sectionEndMarker.toList
    · rw [if_pos hend]
      rfl
    · rw [if_neg hend]
      rfl

theorem ofLine?_exactCall (hvariant : variant.SpellsCalls) {spelling : String}
    (hspelling : spelling ∈ variant.spellings) (call : String) (hcall : call ∈ Rule.exactCalls)
    {ending : List Char} (hending : '(' ∉ ending)
    (htrim : trim line = spelling.toList ++ call.toList ++ ending)
    (hbare : Rule.withoutSemicolon (trim line) = spelling.toList ++ call.toList) :
    ofLine? variant line =
      if call = "FailIfErrorLast()" then some .failFast
      else if call = "SetStrictMode(true)" then some .strictOn
      else some .strictOff := by
  have hnone : ∀ (read : Read) before number,
      ¬ read.StandsIn variant (trim line) before number := by
    rw [htrim]
    exact Rule.not_standsIn_exactCall hcall (hvariant.paren_not_mem_spelling hspelling) hending
  have hmarker : ∀ marker : List Char, '(' ∉ marker → trim line ≠ marker := by
    rintro marker hparen rfl
    obtain ⟨name, c, tail, hparts, -⟩ := Rule.exactCalls_parts call hcall
    simp [htrim, hparts] at hparen
  rw [ofLine?_of_no_read hnone]
  simp only [byRules?_cons, Rule.statement?]
  rw [if_neg (hmarker Rule.sectionStartMarker.toList (by decide)),
    if_neg (hmarker Rule.sectionEndMarker.toList (by decide)),
    Rule.isCall_eq_decide_mem hvariant hspelling hcall hbare (by decide),
    Rule.isCall_eq_decide_mem hvariant hspelling hcall hbare (by decide),
    Rule.isCall_eq_decide_mem hvariant hspelling hcall hbare (by decide)]
  simp only [Rule.exactCalls, List.mem_cons, List.not_mem_nil, or_false] at hcall
  rcases hcall with rfl | rfl | rfl | rfl <;> rfl

end Statement

end ConfigReference
