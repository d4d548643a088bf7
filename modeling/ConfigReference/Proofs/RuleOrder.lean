import ConfigReference.Proofs.CallSpelling

/-!
# The order of the rules

A statement that fills its line is known by its ending: whatever the receiver and
the separators are, a call ends with its name and all its arguments, and a marker
is known as a whole.  No ending of one rule is the end of an ending of another, so
at most one of these rules applies to a line.  Behind the two rules for reads they
may therefore be tried in any order.
-/

namespace ConfigReference

open Text

namespace Rule

/-- Whether the rule finds a statement in a line without blanks around it. -/
def Applies (variant : Variant) (line : List Char) (rule : Rule) : Prop :=
  (rule.statement? variant line).isSome = true

/-- The rules for statements that fill their line. -/
def fillingLine : List Rule :=
  [failFast, sectionStart, sectionEnd, strictOn, strictOff]

/-- The rules for calls that are known with all their arguments. -/
def forCalls : List Rule :=
  [failFast, strictOn, strictOff]

/-- How the statements of a rule end; reads may end with anything. -/
def endings : Rule → List String
  | optional => []
  | required => []
  | failFast => ["FailIfErrorLast()"]
  | sectionStart => [sectionStartMarker]
  | sectionEnd => [sectionEndMarker]
  | strictOn => ["SetStrictMode(true)"]
  | strictOff => ["SetStrictMode(wasStrict)", "SetStrictMode(false)"]

/-- The calls of a rule on the receiver, in all their spellings. -/
def calls (variant : Variant) (rule : Rule) : List String :=
  variant.spellings.flatMap fun spelling => rule.endings.map (spelling ++ ·)

variable {variant : Variant} {line : List Char} {rule : Rule}

/-! ## Endings -/

/-- No ending of a rule is the end of an ending of another rule. -/
theorem eq_of_ending_isSuffixOf :
    ∀ rule ∈ fillingLine, ∀ other ∈ fillingLine, ∀ ending ∈ rule.endings,
      ∀ otherEnding ∈ other.endings,
        ending.toList.isSuffixOf otherEnding.toList = true → rule = other := by
  decide

theorem applies_iff_isCall (hrule : rule ∈ forCalls) :
    rule.Applies variant line ↔ isCall variant rule.endings line = true := by
  simp only [forCalls, List.mem_cons, List.not_mem_nil, or_false] at hrule
  rcases hrule with rfl | rfl | rfl <;> simp [Applies, statement?, endings]

theorem mem_calls_iff {text : String} :
    text ∈ rule.calls variant ↔
      ∃ spelling ∈ variant.spellings, ∃ ending ∈ rule.endings, spelling ++ ending = text := by
  simp only [calls, List.mem_flatMap, List.mem_map]

theorem applies_iff_withoutSemicolon (hrule : rule ∈ forCalls) :
    rule.Applies variant line ↔
      ∃ text ∈ rule.calls variant, withoutSemicolon line = text.toList := by
  rw [applies_iff_isCall hrule, isCall_iff]
  constructor
  · rintro ⟨spelling, hspelling, ending, hending, hline⟩
    refine ⟨spelling ++ ending, mem_calls_iff.mpr ⟨spelling, hspelling, ending, hending, rfl⟩, ?_⟩
    rw [hline, String.toList_append]
  · rintro ⟨text, htext, hline⟩
    obtain ⟨spelling, hspelling, ending, hending, rfl⟩ := mem_calls_iff.mp htext
    exact ⟨spelling, hspelling, ending, hending, hline.trans String.toList_append⟩

theorem getLast?_of_mem_calls (hrule : rule ∈ forCalls) {text : String}
    (htext : text ∈ rule.calls variant) : text.toList.getLast? = some ')' := by
  obtain ⟨spelling, -, ending, hending, rfl⟩ := mem_calls_iff.mp htext
  have hlast : ∀ rule ∈ forCalls, ∀ ending ∈ rule.endings,
      ending.toList.getLast? = some ')' := by decide
  rw [String.toList_append, List.getLast?_append, hlast rule hrule ending hending, Option.some_or]

/-- A rule for calls applies to a call of its own, with blanks and one semicolon
behind it or with nothing, and to no other line. -/
theorem applies_iff_of_mem_forCalls (hrule : rule ∈ forCalls) :
    rule.Applies variant line ↔
      ∃ text ∈ rule.calls variant, line = text.toList ∨
        ∃ blanks, (∀ c ∈ blanks, isBlank c = true) ∧ line = text.toList ++ blanks ++ [';'] := by
  rw [applies_iff_withoutSemicolon hrule]
  refine exists_congr fun text => and_congr_right fun htext => ?_
  exact withoutSemicolon_eq_iff (getLast?_of_mem_calls hrule htext) (by decide) (by decide)

theorem eq_marker_of_applies (hrule : rule = sectionStart ∨ rule = sectionEnd)
    (happlies : rule.Applies variant line) :
    ∃ marker ∈ rule.endings, line = marker.toList := by
  rcases hrule with rfl | rfl
  · exact ⟨sectionStartMarker, List.mem_singleton_self _,
      by simpa [Applies, statement?] using happlies⟩
  · exact ⟨sectionEndMarker, List.mem_singleton_self _,
      by simpa [Applies, statement?] using happlies⟩

/-! ## Lines with several rules -/

theorem exists_ending_of_applies (hrule : rule ∈ fillingLine)
    (happlies : rule.Applies variant line) :
    ∃ ending ∈ rule.endings, ending.toList <:+ withoutSemicolon line := by
  have hsplit : ∀ rule ∈ fillingLine,
      rule ∈ forCalls ∨ rule = sectionStart ∨ rule = sectionEnd := by decide
  rcases hsplit rule hrule with hcall | hmarker
  · obtain ⟨text, htext, hline⟩ := (applies_iff_withoutSemicolon hcall).mp happlies
    obtain ⟨spelling, -, ending, hending, rfl⟩ := mem_calls_iff.mp htext
    refine ⟨ending, hending, ?_⟩
    rw [hline, String.toList_append]
    exact List.suffix_append _ _
  · obtain ⟨marker, hmem, rfl⟩ := eq_marker_of_applies hmarker happlies
    have hkept : ∀ rule, rule = sectionStart ∨ rule = sectionEnd → ∀ marker ∈ rule.endings,
        withoutSemicolon marker.toList = marker.toList := by
      rintro _ (rfl | rfl) <;> decide
    exact ⟨marker, hmem, by simp [hkept rule hmarker marker hmem]⟩

/-- The two endings that a line has are comparable, hence of the same rule. -/
theorem eq_of_applies {other : Rule} (hrule : rule ∈ fillingLine) (hother : other ∈ fillingLine)
    (happlies : rule.Applies variant line) (happlies' : other.Applies variant line) :
    rule = other := by
  obtain ⟨ending, hending, hsuffix⟩ := exists_ending_of_applies hrule happlies
  obtain ⟨ending', hending', hsuffix'⟩ := exists_ending_of_applies hother happlies'
  rcases List.suffix_or_suffix_of_suffix hsuffix hsuffix' with hinside | hinside
  · exact eq_of_ending_isSuffixOf rule hrule other hother ending hending ending' hending'
      (List.isSuffixOf_iff_suffix.mpr hinside)
  · exact (eq_of_ending_isSuffixOf other hother rule hrule ending' hending' ending hending
      (List.isSuffixOf_iff_suffix.mpr hinside)).symm

/-- A marker has no opening parenthesis, so it holds no read. -/
theorem not_applies_read_of_marker (hmarker : rule = sectionStart ∨ rule = sectionEnd)
    (happlies : rule.Applies variant line) :
    ¬ optional.Applies variant line ∧ ¬ required.Applies variant line := by
  obtain ⟨marker, hmem, rfl⟩ := eq_marker_of_applies hmarker happlies
  have hparen : ∀ rule, rule = sectionStart ∨ rule = sectionEnd → ∀ marker ∈ rule.endings,
      '(' ∉ marker.toList := by
    rintro _ (rfl | rfl) <;> decide
  obtain ⟨hoptional, hrequired⟩ := statement?_eq_none_of_no_read fun _ _ _ hstands =>
    hparen rule hmarker marker hmem (Read.paren_mem_of_standsIn hstands)
  rw [Applies, Applies, hoptional, hrequired]
  exact ⟨Bool.false_ne_true, Bool.false_ne_true⟩

end Rule

/-! ## Scans with another order -/

namespace Statement

variable {variant : Variant} {line : List Char} {rules : List Rule}

/-- Where at most one of the rules applies, that one decides. -/
theorem byRules?_eq_some_iff
    (hunique : ∀ rule ∈ rules, ∀ other ∈ rules, rule.Applies variant (trim line) →
      other.Applies variant (trim line) → rule = other) {statement : Statement} :
    byRules? rules variant line = some statement ↔
      ∃ rule ∈ rules, rule.statement? variant (trim line) = some statement := by
  constructor
  · exact List.exists_of_findSome?_eq_some
  · rintro ⟨rule, hrule, hstatement⟩
    have happlies : rule.Applies variant (trim line) := by rw [Rule.Applies, hstatement]; rfl
    have hsome : (byRules? rules variant line).isSome = true :=
      List.findSome?_isSome_iff.mpr ⟨rule, hrule, happlies⟩
    obtain ⟨found, hfound⟩ := Option.isSome_iff_exists.mp hsome
    obtain ⟨other, hother, hstatement'⟩ := List.exists_of_findSome?_eq_some hfound
    have happlies' : other.Applies variant (trim line) := by rw [Rule.Applies, hstatement']; rfl
    obtain rfl := hunique rule hrule other hother happlies happlies'
    rw [hfound, ← hstatement', hstatement]

theorem byRules?_perm (hperm : rules.Perm Rule.fillingLine) :
    byRules? rules variant line = byRules? Rule.fillingLine variant line := by
  have hunique : ∀ rule ∈ Rule.fillingLine, ∀ other ∈ Rule.fillingLine,
      rule.Applies variant (trim line) → other.Applies variant (trim line) → rule = other :=
    fun rule hrule other hother => Rule.eq_of_applies hrule hother
  ext statement
  rw [byRules?_eq_some_iff hunique, byRules?_eq_some_iff]
  · simp only [hperm.mem_iff]
  · intro rule hrule other hother
    exact hunique rule (hperm.mem_iff.mp hrule) other (hperm.mem_iff.mp hother)

end Statement

/-- The scan of a text in which the rules are tried in the given order. -/
def scanTextBy (rules : List Rule) (variant : Variant) (file text : String) : FileScan :=
  (scanStatements variant file
    ((lines text.toList).map (Statement.byRules? rules variant))).finish

theorem scanTextBy_order : scanTextBy Rule.order = scanText :=
  rfl

theorem scanTextBy_perm {rules : List Rule} (hperm : rules.Perm Rule.fillingLine)
    (variant : Variant) (file text : String) :
    scanTextBy (.optional :: .required :: rules) variant file text =
      scanText variant file text := by
  have hstatements : Statement.byRules? (.optional :: .required :: rules) variant =
      Statement.byRules? Rule.order variant := by
    funext line
    have horder : Rule.order = .optional :: .required :: Rule.fillingLine := rfl
    rw [horder, Statement.byRules?_cons, Statement.byRules?_cons, Statement.byRules?_cons,
      Statement.byRules?_cons, Statement.byRules?_perm hperm]
  rw [← scanTextBy_order, scanTextBy, scanTextBy, hstatements]

/-- Of the rules for statements that fill their line at most one applies, and none of
those for reads applies beside a rule for markers.  So the five rules may be tried in
any order behind the rules for reads.  A rule for calls applies exactly to its calls,
with or without blanks and one semicolon behind them. -/
theorem filling_rules_in_any_order (variant : Variant) :
    (∀ line, ∀ rule ∈ Rule.fillingLine, ∀ other ∈ Rule.fillingLine,
      rule.Applies variant line → other.Applies variant line → rule = other) ∧
    (∀ line, Rule.sectionStart.Applies variant line ∨ Rule.sectionEnd.Applies variant line →
      ¬ Rule.optional.Applies variant line ∧ ¬ Rule.required.Applies variant line) ∧
    (∀ rules : List Rule, rules.Perm Rule.fillingLine → ∀ file text,
      scanTextBy (.optional :: .required :: rules) variant file text =
        scanText variant file text) ∧
    ∀ rule ∈ Rule.forCalls, ∀ line,
      rule.Applies variant line ↔
        ∃ text ∈ rule.calls variant, line = text.toList ∨
          ∃ blanks, (∀ c ∈ blanks, isBlank c = true) ∧
            line = text.toList ++ blanks ++ [';'] := by
  refine ⟨?_, ?_, ?_, ?_⟩
  · intro line rule hrule other hother
    exact Rule.eq_of_applies hrule hother
  · rintro line (hstart | hend)
    · exact Rule.not_applies_read_of_marker (.inl rfl) hstart
    · exact Rule.not_applies_read_of_marker (.inr rfl) hend
  · intro rules hperm file text
    exact scanTextBy_perm hperm variant file text
  · intro rule hrule line
    exact Rule.applies_iff_of_mem_forCalls hrule

end ConfigReference
