import ConfigReference.Proofs.RuleOrder

/-!
# The spellings of the receiver

The receiver is looked for in two ways.  The rules for reads look for the receiver
with a separator anywhere in a line; the rules for calls compare a line with texts
that are put together beforehand, one for each spelling.  This module says when both
know the same spellings.  They do as soon as there is a separator.  Without any, a
read is accepted right behind the receiver, but no call is known at all.
-/

namespace ConfigReference

open Text

variable {variant : Variant}

/-! ## Spellings before reads -/

/-- The read is the one that is recorded of the line.  Before its accessor stand some
text and the spelling, which is what its rule takes for the receiver and a separator. -/
structure Read.RecordedBehind (variant : Variant) (line before : List Char) (spelling : String)
    (read : Read) : Prop where
  recorded : Statement.ofLine? variant line = some read.statement
  first : ∃ number separator, (Call.separators variant)[number]? = some separator ∧
    spelling = variant.receiver ++ separator ∧ read.IsFirst variant (trim line) before number

theorem Read.RecordedBehind.exists_separator {line before : List Char} {spelling : String}
    {read : Read} (hrecorded : read.RecordedBehind variant line before spelling) :
    ∃ separator ∈ Call.separators variant, spelling = variant.receiver ++ separator := by
  obtain ⟨number, separator, hseparator, hspelling, -⟩ := hrecorded.first
  exact ⟨separator, List.mem_of_getElem? hseparator, hspelling⟩

theorem exists_recordedBehind {line : List Char} {rule : Rule}
    (hrule : rule = .optional ∨ rule = .required) (hfired : Rule.fired? variant line = some rule) :
    ∃ (read : Read) (before : List Char) (spelling : String),
      read.RecordedBehind variant line before spelling := by
  obtain ⟨statement, hline, rfl⟩ := Rule.fired?_eq_some_iff.mp hfired
  obtain ⟨read, before, number, rfl, hfirst⟩ := Read.exists_isFirst_of_ofLine? hline hrule
  obtain ⟨separator, behind, hseparator, -⟩ := hfirst.standsIn
  exact ⟨read, before, variant.receiver ++ separator, hline, number, separator, hseparator, rfl,
    hfirst⟩

theorem separators_of_eq_nil (hseparators : variant.separators = []) :
    Call.separators variant = [""] := by
  simp [Call.separators, hseparators]

/-- With separators, a read is recorded behind a known spelling only. -/
theorem Read.RecordedBehind.mem_spellings {line before : List Char} {spelling : String}
    {read : Read} (hrecorded : read.RecordedBehind variant line before spelling)
    (hseparators : variant.separators ≠ []) : spelling ∈ variant.spellings := by
  obtain ⟨separator, hseparator, rfl⟩ := hrecorded.exists_separator
  rw [separators_of_ne_nil hseparators] at hseparator
  exact List.mem_map_of_mem hseparator

/-! ## Spellings before calls -/

/-- A line without a read is decided by the one rule for whole lines that applies. -/
theorem Rule.fired?_of_applies {line : List Char} {rule : Rule}
    (hnone : ∀ (read : Read) before number, ¬ read.StandsIn variant (trim line) before number)
    (hrule : rule ∈ Rule.fillingLine) (happlies : rule.Applies variant (trim line)) :
    Rule.fired? variant line = some rule := by
  obtain ⟨statement, hstatement⟩ := Option.isSome_iff_exists.mp happlies
  refine Rule.fired?_eq_some_iff.mpr ⟨statement, ?_, Rule.rule_of_statement? hstatement⟩
  rw [Statement.ofLine?_of_no_read hnone]
  refine (Statement.byRules?_eq_some_iff ?_).mpr ⟨rule, hrule, hstatement⟩
  intro left hleft right hright
  exact Rule.eq_of_applies hleft hright

theorem Rule.mem_exactCalls_of_mem_endings :
    ∀ rule ∈ Rule.forCalls, ∀ ending ∈ rule.endings, ending ∈ Rule.exactCalls := by
  decide

theorem trim_call_of_spelling {spelling call : String} (hcall : call ∈ Rule.exactCalls)
    (hblank : ∀ c ∈ spelling.toList.head?, isBlank c = false) :
    trim (spelling.toList ++ call.toList ++ [';']) = spelling.toList ++ call.toList ++ [';'] := by
  have hfirst : ∀ call ∈ Rule.exactCalls, call.toList.head?.any isBlank = false := by
    decide
  apply trim_eq_self
  · cases hspelling : spelling.toList with
    | nil =>
      intro c hc
      obtain ⟨name, d, tail, hparts, -⟩ := Rule.exactCalls_parts call hcall
      have hhead : call.toList.head? = some c := by
        rw [hparts] at hc ⊢
        cases name <;> simpa using hc
      have hvisible := hfirst call hcall
      rw [hhead] at hvisible
      exact hvisible
    | cons c rest =>
      rw [hspelling] at hblank
      exact hblank
  · intro c hc
    rw [List.getLast?_concat, Option.mem_some_iff] at hc
    subst hc
    decide

/-- A call on a known spelling is decided by its own rule. -/
theorem Rule.fired?_call {spelling : String} (hspelling : spelling ∈ variant.spellings)
    (hblank : ∀ c ∈ spelling.toList.head?, isBlank c = false) (hparen : '(' ∉ spelling.toList)
    {rule : Rule} (hrule : rule ∈ Rule.forCalls) {ending : String} (hending : ending ∈ rule.endings) :
    Rule.fired? variant (spelling ++ ending ++ ";").toList = some rule := by
  have hcall := Rule.mem_exactCalls_of_mem_endings rule hrule ending hending
  have hline : (spelling ++ ending ++ ";").toList = spelling.toList ++ ending.toList ++ [';'] := by
    simp
  have htrim := trim_call_of_spelling hcall hblank
  have hfilling : ∀ rule ∈ Rule.forCalls, rule ∈ Rule.fillingLine := by decide
  rw [hline]
  apply Rule.fired?_of_applies
  · rw [htrim]
    exact Rule.not_standsIn_exactCall hcall hparen (by decide)
  · exact hfilling rule hrule
  · rw [htrim]
    refine (Rule.applies_iff_of_mem_forCalls hrule).mpr ⟨spelling ++ ending,
      Rule.mem_calls_iff.mpr ⟨spelling, hspelling, ending, hending, rfl⟩, .inr ⟨[], by simp, ?_⟩⟩
    simp

/-! ## Agreement -/

/-- Reads and calls accept the same spellings of the receiver: a read is recorded behind a
known spelling only, and behind whatever reads are recorded behind, calls are known too,
unless blanks at its beginning or a parenthesis in it give the line another shape. -/
structure Variant.SpellingsAgree (variant : Variant) : Prop where
  reads : ∀ line rule, rule = Rule.optional ∨ rule = Rule.required →
    Rule.fired? variant line = some rule →
      ∃ (read : Read) (before : List Char) (spelling : String),
        read.RecordedBehind variant line before spelling ∧
          ∃ known ∈ variant.spellings, known.toList <:+ before ++ spelling.toList
  calls : ∀ spelling,
    (∃ (read : Read) (line before : List Char),
      read.RecordedBehind variant line before spelling) →
    (∀ c ∈ spelling.toList.head?, isBlank c = false) → '(' ∉ spelling.toList →
      ∀ rule ∈ Rule.forCalls, ∀ ending ∈ rule.endings,
        Rule.fired? variant (spelling ++ ending ++ ";").toList = some rule

theorem spellingsAgree_of_ne_nil (hseparators : variant.separators ≠ []) :
    variant.SpellingsAgree where
  reads line rule hrule hfired := by
    obtain ⟨read, before, spelling, hrecorded⟩ := exists_recordedBehind hrule hfired
    exact ⟨read, before, spelling, hrecorded, spelling, hrecorded.mem_spellings hseparators,
      List.suffix_append _ _⟩
  calls spelling := by
    rintro ⟨read, line, before, hrecorded⟩ hblank hparen rule hrule ending hending
    exact Rule.fired?_call (hrecorded.mem_spellings hseparators) hblank hparen hrule hending

/-- The optional read of a key `a`. -/
def sampleRead : Read where
  word := ['A']
  key := ['a']
  arguments := none
  word_ne_nil := by decide
  isWordChar_of_mem_word := by simp [Call.isWordChar]
  key_ne_nil := by decide
  quote_not_mem_key := by decide
  arguments_ne_nil := nofun
  paren_not_mem_arguments := nofun

/-- Without separators a read is recorded right behind the receiver, whatever that is. -/
theorem exists_recordedBehind_receiver (hseparators : variant.separators = []) :
    ∃ (line : List Char) (read : Read) (before : List Char),
      Rule.fired? variant line = some .optional ∧
        read.RecordedBehind variant line before variant.receiver := by
  -- a letter before the receiver keeps its own blanks in the line
  let line := 'x' :: (variant.receiver.toList ++ sampleRead.text)
  have htrim : trim line = line := by
    apply trim_eq_self
    · simp only [line, List.head?_cons, Option.mem_some_iff]
      rintro c rfl
      decide
    · intro c hc
      have htext : sampleRead.text.getLast? = some '\"' := by decide
      have hlast : line.getLast? = some '\"' := by
        rw [List.getLast?_cons, List.getLast?_append, htext]
        rfl
      rw [hlast, Option.mem_some_iff] at hc
      subst hc
      decide
  have hstands : sampleRead.StandsIn variant line ['x'] 0 := by
    refine ⟨"", [], by rw [separators_of_eq_nil hseparators]; rfl, ?_⟩
    simp [line]
  have hfired : Rule.fired? variant line = some .optional := by
    rw [Rule.fired?_eq_optional_iff, htrim, Rule.statement?,
      Call.search?_isSome_iff Call.recognises_optionalRead?]
    exact ⟨sampleRead, ['x'], 0, rfl, hstands⟩
  obtain ⟨read, before, spelling, hrecorded⟩ := exists_recordedBehind (.inl rfl) hfired
  obtain ⟨separator, hseparator, rfl⟩ := hrecorded.exists_separator
  rw [separators_of_eq_nil hseparators, List.mem_singleton] at hseparator
  subst hseparator
  rw [String.append_empty] at hrecorded
  exact ⟨line, read, before, hfired, hrecorded⟩

theorem spellings_of_eq_nil (hseparators : variant.separators = []) : variant.spellings = [] := by
  rw [Variant.spellings, hseparators, List.map_nil]

/-- Reads and calls accept the same spellings of the receiver if and only if there is a
separator.  Without one, reads are recorded right behind the receiver, but no line at all
is a fail-fast mark or a switch of strict mode. -/
theorem spellings_agree_iff_separators (variant : Variant) :
    (variant.SpellingsAgree ↔ variant.separators ≠ []) ∧
      (variant.separators = [] →
        (∃ (line : List Char) (read : Read) (before : List Char),
          Rule.fired? variant line = some .optional ∧
            read.RecordedBehind variant line before variant.receiver) ∧
        ∀ line, ∀ rule ∈ Rule.forCalls, ¬ rule.Applies variant line) := by
  refine ⟨⟨?_, spellingsAgree_of_ne_nil⟩, ?_⟩
  · intro hagree hseparators
    obtain ⟨line, -, -, hfired, -⟩ := exists_recordedBehind_receiver hseparators
    obtain ⟨-, -, -, -, known, hknown, -⟩ := hagree.reads line .optional (.inl rfl) hfired
    rw [spellings_of_eq_nil hseparators] at hknown
    cases hknown
  · intro hseparators
    refine ⟨exists_recordedBehind_receiver hseparators, ?_⟩
    intro line rule hrule happlies
    obtain ⟨text, htext, -⟩ := (Rule.applies_iff_withoutSemicolon hrule).mp happlies
    obtain ⟨spelling, hspelling, -⟩ := Rule.mem_calls_iff.mp htext
    rw [spellings_of_eq_nil hseparators] at hspelling
    cases hspelling

/-- The mark on the read before it is lost. -/
example :
    statements { Variant.config with separators := [] }
        "CFGGetInt(\"k\", 1);\nCFGFailIfErrorLast();" =
      [some (.requiredRead "GetInt" "k" "1"), none] := by
  decide +kernel

end ConfigReference
