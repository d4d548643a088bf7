import ConfigReference.Proofs.FileOrder
import ConfigReference.Proofs.ReadTypes

/-!
# Defaults that are strings

A string may stand as the default value of a read.  The arguments are cut at
their commas, also at those in a string.  A string without a comma is shown as it
is written.  Of one with commas only what follows the last comma is shown; from
two commas on, what stands before them is taken for bounds on the length.
-/

namespace ConfigReference

open Text

/-! ## Quotes in a text -/

theorem Text.digits?_eq_none {digit? : Char → Option Nat} {c : Char} (hdigit : digit? c = none)
    (hmark : c ≠ '_') {text : List Char} (hmem : c ∈ text) : digits? digit? text = none := by
  induction text using digits?.induct with
  | case1 => cases hmem
  | case2 d rest ih =>
    rw [digits?]
    rcases List.mem_cons.mp hmem with rfl | hmem
    · exact absurd rfl hmark
    · rcases List.mem_cons.mp hmem with rfl | hmem
      · rw [hdigit]
        rfl
      · rw [ih hmem]
        cases digit? d <;> rfl
  | case3 d rest hother ih =>
    rw [digits?.eq_3 _ _ _ hother]
    rcases List.mem_cons.mp hmem with rfl | hmem
    · rw [hdigit]
      rfl
    · rw [ih hmem]
      cases digit? d <;> rfl

theorem Text.hexLiteral?_eq_none {text : List Char} (hquote : '\"' ∈ text) :
    hexLiteral? text = none := by
  unfold hexLiteral?
  split
  · next mark rest =>
    split
    · next hmark =>
      have hmem : '\"' ∈ rest := by
        rcases List.mem_cons.mp hquote with heq | hmem
        · exact absurd heq (by decide)
        · rcases List.mem_cons.mp hmem with rfl | hmem
          · exact absurd hmark (by decide)
          · exact hmem
      rw [digits?_eq_none (by decide) (by decide) hmem]
    · rfl
  · rfl

namespace Argument

variable {argument : List Char}

theorem ofList_not_mem {names : List String}
    (hnames : names.all (fun name => !name.toList.contains '\"') = true)
    (hquote : '\"' ∈ argument) : String.ofList argument ∉ names := by
  intro hmem
  have hfree := List.all_eq_true.mp hnames _ hmem
  rw [String.toList_ofList] at hfree
  simp [hquote] at hfree

/-- An argument with a quote is a field or is shown as it is written. -/
theorem value_of_quote (hquote : '\"' ∈ argument) :
    value knownConstants argument =
      if isField argument then emptyMark else String.ofList (dropQuotes argument) := by
  have hform : String.ofList argument ∉ emptyForms := ofList_not_mem (by decide) hquote
  have hconstant : knownConstants.find? (String.ofList argument) = none :=
    Table.find?_eq_none_iff.mpr (ofList_not_mem (by decide) hquote)
  rw [value, if_neg hform, hexValue?, hexLiteral?_eq_none hquote, hconstant]

theorem dropQuotes_quoted (text : List Char) : dropQuotes ('\"' :: (text ++ ['\"'])) = text := by
  simp [dropQuotes]

theorem dropQuotes_concat {text : List Char} (hquote : '\"' ∉ text) :
    dropQuotes (text ++ ['\"']) = text := by
  cases text with
  | nil => rfl
  | cons c text =>
    have hc : c ≠ '\"' := fun heq => hquote (heq ▸ List.mem_cons_self)
    have hopened : dropQuotes (c :: text ++ ['\"']) =
        if (c :: text ++ ['\"']).getLast? = some '\"' then (c :: text ++ ['\"']).dropLast
        else c :: text ++ ['\"'] := by
      simp [dropQuotes, hc]
    rw [hopened, if_pos List.getLast?_concat, List.dropLast_concat]

theorem trim_quoted (text : List Char) :
    trim ('\"' :: (text ++ ['\"'])) = '\"' :: (text ++ ['\"']) := by
  rw [← List.cons_append, trim_concat (by decide), List.dropWhile_cons_of_neg (by decide)]

theorem isField_concat (text : List Char) : isField (text ++ ['\"']) = isField text := by
  rcases text with _ | ⟨first, _ | ⟨second, rest⟩⟩ <;> simp [isField, List.isPrefixOf]

/-- What is shown of a string: all of it, or what follows its last comma. -/
def stringDefault (text : List Char) : String :=
  if ',' ∈ text then
    let last := ((splitAt ',' text).getLast?.getD []).dropWhile isBlank
    if isField last then emptyMark else String.ofList last
  else String.ofList text

theorem lastValue_string {text : List Char} (hquote : '\"' ∉ text) :
    lastValue knownConstants false ('\"' :: (text ++ ['\"'])) = stringDefault text := by
  change value knownConstants ((split ('\"' :: (text ++ ['\"']))).getLast?.getD []) = _
  rw [split, List.getLast?_map, stringDefault]
  split
  · next hcomma =>
    obtain ⟨front, last, rfl, hlast, hparts⟩ := exists_getLast?_splitAt hcomma
    have hfree : '\"' ∉ last.dropWhile isBlank := fun hmem =>
      hquote (by simp [(List.dropWhile_sublist _).mem hmem])
    have hquoted : '\"' :: (front ++ ',' :: last ++ ['\"']) =
        ('\"' :: front) ++ ',' :: (last ++ ['\"']) := by simp
    have hback : splitAt ',' (last ++ ['\"']) = [last ++ ['\"']] :=
      splitAt_of_not_mem (by simpa using hlast)
    rw [hparts, hquoted, splitAt_append_separator, hback, List.getLast?_concat, Option.map_some,
      Option.getD_some, Option.getD_some, trim_concat (by decide), value_of_quote (by simp),
      isField_concat, dropQuotes_concat hfree]
  · next hcomma =>
    rw [splitAt_of_not_mem (by simpa using hcomma), List.getLast?_singleton, Option.map_some,
      Option.getD_some, trim_quoted, value_of_quote (by simp), dropQuotes_quoted]
    rfl

theorem defaultValue_string (key : String) {text : List Char} (hquote : '\"' ∉ text) :
    defaultValue ∅ knownConstants false key (String.ofList ('\"' :: (text ++ ['\"']))) =
      stringDefault text := by
  have hnone : (∅ : Table String String).find? key = none := rfl
  rw [defaultValue, hnone, String.toList_ofList, trim_quoted]
  exact lastValue_string hquote

theorem comma_not_mem_stringDefault {text : List Char} (hcomma : ',' ∈ text) :
    ',' ∉ (stringDefault text).toList := by
  obtain ⟨front, last, -, hlast, hparts⟩ := exists_getLast?_splitAt hcomma
  rw [stringDefault, if_pos hcomma, hparts]
  dsimp only
  split
  · decide
  · rw [String.toList_ofList]
    exact fun hmem => hlast ((List.dropWhile_sublist _).mem hmem)

/-- A string with two commas or more is taken for one with bounds on its length. -/
theorem lengthBounds_string_ne_nil_iff (text : List Char) :
    lengthBounds "GetString" (String.ofList ('\"' :: (text ++ ['\"']))) ≠ [] ↔
      2 ≤ text.count ',' := by
  have hlength : (split ('\"' :: (text ++ ['\"']))).length = text.count ',' + 1 := by
    rw [split, List.length_map, length_splitAt]
    simp
  rw [lengthBounds, if_pos (by simp), String.toList_ofList]
  rcases hparts : split ('\"' :: (text ++ ['\"'])) with
    _ | ⟨least, _ | ⟨greatest, _ | ⟨third, rest⟩⟩⟩
  all_goals simp only [hparts, List.length_cons, List.length_nil] at hlength
  · exact iff_of_false (by simp) (by omega)
  · exact iff_of_false (by simp) (by omega)
  · exact iff_of_false (by simp) (by omega)
  · exact iff_of_true (by simp) (by omega)

end Argument

/-! ## The read of a string -/

namespace Call

variable {variant : Variant} {call? : List Char → Option Statement} {rule : Rule}

/-- No read begins where the receiver does not. -/
theorem search?_append_of_not_mem {c : Char} {rest front : List Char}
    (hreceiver : variant.receiver.toList = c :: rest) (hfront : c ∉ front) (back : List Char) :
    search? variant call? (front ++ back) = search? variant call? back := by
  induction front with
  | nil => rfl
  | cons d front ih =>
    rw [List.mem_cons, not_or] at hfront
    have hstart : atStart? variant call? (d :: (front ++ back)) = none := by
      rw [atStart?, hreceiver, after?, if_neg hfront.1]
    rw [List.cons_append, search?, hstart]
    exact ih hfront.2

/-- A read at the beginning of the line, behind the first separator, is found. -/
theorem search?_eq_some_of_start {read : Read} {line : List Char}
    (hcall : Recognises call? read.rule) (hstands : read.StandsIn variant line [] 0) :
    search? variant call? line = some read.statement := by
  obtain ⟨statement, hfound⟩ := Option.isSome_iff_exists.mp
    ((search?_isSome_iff hcall).mpr ⟨read, [], 0, rfl, hstands⟩)
  obtain ⟨first, before, number, hrule, rfl, hfirst⟩ := search?_eq_some hcall hfound
  rcases hfirst.first read [] 0 hrule.symm hstands with hless | ⟨-, hless | ⟨-, rfl⟩⟩
  · cases hless
  · cases hless
  · exact hfound

/-- A read has a quote on each side of its key. -/
theorem search?_eq_none_of_count_lt (hcall : Recognises call? rule) {line : List Char}
    (hcount : line.count '\"' < 2) : search? variant call? line = none := by
  rw [← Option.not_isSome_iff_eq_none, search?_isSome_iff hcall]
  rintro ⟨read, before, number, -, separator, behind, -, rfl⟩
  have htext : 2 ≤ read.text.count '\"' := by
    rw [Read.text]
    cases read.arguments <;> simp <;> omega
  simp only [List.count_append] at hcount
  omega

end Call

/-- A line that reads a key with a string as the only further argument. -/
def stringLine (text : String) : String :=
  "CFG->GetString(\"k\", \"" ++ text ++ "\");"

/-- The schema of a file with that line. -/
def stringSchema (file text : String) : Schema :=
  Schema.ofScans (scanSources Variant.config [(file, stringLine text)])

def stringRead (text : List Char) (hparen : ')' ∉ text) : Read where
  word := ['S', 't', 'r', 'i', 'n', 'g']
  key := ['k']
  arguments := some ('\"' :: (text ++ ['\"']))
  word_ne_nil := by decide
  isWordChar_of_mem_word := List.all_eq_true.mp (by decide)
  key_ne_nil := by decide
  quote_not_mem_key := by decide
  arguments_ne_nil := by simp
  paren_not_mem_arguments := by simpa using hparen

section StringRead

variable {text : List Char} (hparen : ')' ∉ text)

theorem text_stringRead : (stringRead text hparen).text =
    "GetString(\"k\", \"".toList ++ (text ++ "\")".toList) := by
  have harguments : (stringRead text hparen).arguments = some ('\"' :: (text ++ ['\"'])) := rfl
  have hfront : "GetString(\"k\", \"".toList = Accessor.requiredLead ++
      (['S', 't', 'r', 'i', 'n', 'g'] ++ ['(', '\"', 'k', '\"', ',', ' ', '\"']) := by decide
  have hback : "\")".toList = ['\"', ')'] := by decide
  rw [Read.text_of_some _ harguments, hfront, hback]
  simp only [stringRead, List.append_assoc, List.cons_append, List.nil_append]

theorem config_spelling : "CFG->".toList = Variant.config.receiver.toList ++ "->".toList := by
  decide

theorem statement?_required_stringRead :
    Rule.statement? Variant.config
      ("CFG->".toList ++ ((stringRead text hparen).text ++ [';'])) .required =
        some (stringRead text hparen).statement := by
  refine Call.search?_eq_some_of_start Call.recognises_requiredRead? ⟨"->", [';'], rfl, ?_⟩
  rw [config_spelling]
  simp only [List.append_assoc, List.nil_append]

/-- A string without quotes holds no read, and the read of the string is not one of
an optional key. -/
theorem statement?_optional_stringRead (hquote : '\"' ∉ text) :
    Rule.statement? Variant.config
      ("CFG->".toList ++ ((stringRead text hparen).text ++ [';'])) .optional = none := by
  have hline : "CFG->".toList ++ ((stringRead text hparen).text ++ [';']) =
      'C' :: ("FG->GetString(\"k\", \"".toList ++ (text ++ "\");".toList)) := by
    have hfront : "CFG->".toList ++ "GetString(\"k\", \"".toList =
        'C' :: "FG->GetString(\"k\", \"".toList := by decide
    have hback : "\")".toList ++ [';'] = "\");".toList := by decide
    rw [text_stringRead, List.append_assoc, List.append_assoc, hback, ← List.append_assoc, hfront,
      List.cons_append]
  have hrest : Call.search? Variant.config Call.optionalRead?
      ("FG->GetString(\"k\", \"".toList ++ (text ++ "\");".toList)) = none := by
    have hreceiver : Variant.config.receiver.toList = 'C' :: "FG".toList := by decide
    rw [Call.search?_append_of_not_mem hreceiver (by decide)]
    apply Call.search?_eq_none_of_count_lt Call.recognises_optionalRead?
    rw [List.count_append, List.count_eq_zero_of_not_mem hquote]
    decide
  change Call.search? _ _ _ = none
  rw [← Option.not_isSome_iff_eq_none, Call.search?_isSome_iff Call.recognises_optionalRead?]
  rintro ⟨read, before, number, hrule, hstands⟩
  cases before with
  | nil =>
    obtain ⟨separator, behind, hseparator, hcut⟩ := hstands
    have harrow : separator = "->" := List.mem_singleton.mp (List.mem_of_getElem? hseparator)
    have harguments : (stringRead text hparen).arguments = some ('\"' :: (text ++ ['\"'])) := rfl
    rw [harrow, config_spelling, Read.text_of_some _ harguments,
      read.text_of_none (Read.rule_eq_optional_iff.mp hrule), Accessor.optionalLead_eq] at hcut
    simp only [List.append_assoc, List.nil_append, List.append_cancel_left_eq] at hcut
    simpa [stringRead] using congrArg List.head? hcut
  | cons c before =>
    rw [hline, Read.standsIn_cons_cons] at hstands
    exact Call.search?_eq_none Call.recognises_optionalRead? hrest read before number hrule
      hstands.2

end StringRead

/-- The line of a string is the receiver, a separator, the read and a semicolon. -/
theorem toList_stringLine {text : String} (hparen : ')' ∉ text.toList) :
    (stringLine text).toList =
      "CFG->".toList ++ ((stringRead text.toList hparen).text ++ [';']) := by
  have hfront : "CFG->GetString(\"k\", \"".toList =
      "CFG->".toList ++ "GetString(\"k\", \"".toList := by decide
  have hback : "\");".toList = "\")".toList ++ [';'] := by decide
  unfold stringLine
  rw [String.toList_append, String.toList_append, hfront, hback, text_stringRead]
  simp only [List.append_assoc]

theorem ofLine?_stringLine {text : String} (hparen : ')' ∉ text.toList)
    (hquote : '\"' ∉ text.toList) :
    Statement.ofLine? Variant.config (stringLine text).toList =
      some (stringRead text.toList hparen).statement := by
  have hrule : (stringRead text.toList hparen).statement.rule = .required := rfl
  rw [Statement.ofLine?_eq_some_iff_required hrule, toList_stringLine hparen]
  have htrim : trim ("CFG->".toList ++ ((stringRead text.toList hparen).text ++ [';'])) =
      "CFG->".toList ++ ((stringRead text.toList hparen).text ++ [';']) := by
    have hfirst : "CFG->".toList = 'C' :: "FG->".toList := by decide
    rw [← List.append_assoc, trim_concat (by decide), hfirst, List.cons_append,
      List.dropWhile_cons_of_neg (by decide)]
  rw [htrim]
  exact ⟨statement?_optional_stringRead hparen hquote, statement?_required_stringRead hparen⟩

theorem entries_stringLine (file : String) {text : String} (hparen : ')' ∉ text.toList)
    (hquote : '\"' ∉ text.toList) (hfeed : '\n' ∉ text.toList) :
    Document.entries Variant.config (stringSchema file text) =
      [(stringRead text.toList hparen).entry file 1] := by
  have hlines : lines (stringLine text).toList = [(stringLine text).toList] :=
    lines_eq_singleton
      (lineFeed_not_mem_append (lineFeed_not_mem_append (by decide) hfeed) (by decide))
  have hstatements : statements Variant.config (stringLine text) =
      [some (stringRead text.toList hparen).statement] := by
    rw [statements, hlines, List.map_singleton, ofLine?_stringLine hparen hquote]
  have hscanned : (scanText Variant.config file (stringLine text)).entries =
      [(stringRead text.toList hparen).entry file 1] := by
    rw [scanText, ScanState.entries_finish, hstatements, entries_scanStatements]
    rfl
  have hkept : Variant.config.excludes "k" = false := by decide
  have hretained : Document.retained Variant.config (stringSchema file text) =
      [(stringRead text.toList hparen).entry file 1] := by
    rw [Document.retained, stringSchema, Schema.entries_ofScans, scanSources, List.map_singleton,
      List.flatMap_singleton, hscanned]
    exact List.filter_cons_of_pos (congrArg not hkept)
  rw [Document.entries_eq_byKey, hretained]
  exact List.mergeSort_singleton _

/-! ## The block of a string -/

namespace Document

variable {variant : Variant} {schema : Schema} {entry : Entry}

/-- There are constraints if the arguments have bounds. -/
theorem exists_constraintLine_iff :
    (∃ bounds, "Constraints:" ++ bounds ∈ (block variant schema entry).attributes) ↔
      Argument.lengthBounds entry.accessor (entry.arguments.getD "") ≠ [] := by
  rw [exists_line_iff (show initial "Constraints:" = some 'C' from rfl), notesFrom, constraintNote]
  split
  · next hnone => simp [hnone]
  · next hsome =>
    refine iff_of_true ?_ hsome
    have hlead : "Constraints:" ++ " " = "Constraints: " := by decide
    refine ⟨" " ++ (Text.joined ". " (Argument.lengthBounds entry.accessor
      (entry.arguments.getD "")) ++ "."), List.mem_singleton.mpr ?_⟩
    rw [← String.append_assoc, ← String.append_assoc, hlead]
    rfl

end Document

theorem defaultLine_mem_iff_stringRead (schema : Schema) (file : String) {text : List Char}
    (hparen : ')' ∉ text) (hquote : '\"' ∉ text) (value : String) :
    "Default value: " ++ value ∈
      (Document.block Variant.config schema ((stringRead text hparen).entry file 1)).attributes ↔
        value = Argument.stringDefault text := by
  have hshown : Argument.defaultValue Variant.config.overrides Variant.config.constants
      Variant.config.listDefaults "k" (String.ofList ('\"' :: (text ++ ['\"']))) =
        Argument.stringDefault text :=
    Argument.defaultValue_string "k" hquote
  have hrequired : (Accessor.classify Variant.config.indexIsEnum "GetString").optional = false := by
    decide
  have hgiven : ((stringRead text hparen).entry file 1).arguments.getD "" ≠ "" := by
    simp [stringRead, Read.entry]
  rw [Document.mem_attributes_iff_of_initial_D (Document.initial_append _ _ (by decide)),
    Document.mem_defaultNote_iff, String.append_right_inj, ← hshown]
  exact ⟨fun hnote => hnote.2.2, fun hvalue => ⟨hrequired, hgiven, hvalue⟩⟩

/-- A string without a comma is shown as it is written and has no constraints.  Of
one with commas only what follows the last comma is shown, and it has constraints
from two commas on. -/
theorem string_default_cut_at_commas (file text : String) (hquote : '\"' ∉ text.toList)
    (hparen : ')' ∉ text.toList) (hfeed : '\n' ∉ text.toList) :
    ∃ entry, Document.entries Variant.config (stringSchema file text) = [entry] ∧
      entry.key = "k" ∧
      (∀ value, "Default value: " ++ value ∈
        (Document.block Variant.config (stringSchema file text) entry).attributes ↔
          value = Argument.stringDefault text.toList) ∧
      ("Default value: " ++ text ∈
        (Document.block Variant.config (stringSchema file text) entry).attributes ↔
          ',' ∉ text.toList) ∧
      ((∃ bounds, "Constraints:" ++ bounds ∈
        (Document.block Variant.config (stringSchema file text) entry).attributes) ↔
          2 ≤ text.toList.count ',') := by
  refine ⟨_, entries_stringLine file hparen hquote hfeed, rfl,
    defaultLine_mem_iff_stringRead _ file hparen hquote, ?_, ?_⟩
  · rw [defaultLine_mem_iff_stringRead _ file hparen hquote]
    constructor
    · intro hwhole hcomma
      exact Argument.comma_not_mem_stringDefault hcomma (hwhole ▸ hcomma)
    · intro hcomma
      rw [Argument.stringDefault, if_neg hcomma, String.ofList_toList]
  · rw [Document.exists_constraintLine_iff]
    exact Argument.lengthBounds_string_ne_nil_iff text.toList

/-- Of a greeting with two commas only the last word is left as the default value, and
the words before it become bounds. -/
theorem string_default_cut_at_commas_greeting :
    ∃ entry, Document.entries Variant.config (stringSchema "src/net.cpp" "Hello, one, two") =
        [entry] ∧
      "Default value: two" ∈ (Document.block Variant.config
        (stringSchema "src/net.cpp" "Hello, one, two") entry).attributes ∧
      "Default value: Hello, one, two" ∉ (Document.block Variant.config
        (stringSchema "src/net.cpp" "Hello, one, two") entry).attributes ∧
      ∃ bounds, "Constraints:" ++ bounds ∈ (Document.block Variant.config
        (stringSchema "src/net.cpp" "Hello, one, two") entry).attributes := by
  obtain ⟨entry, hentries, -, hdefault, hwhole, hbounds⟩ :=
    string_default_cut_at_commas "src/net.cpp" "Hello, one, two" (by decide) (by decide) (by decide)
  have hlast : "Default value: two" = "Default value: " ++ "two" := by decide
  have hgreeting : "Default value: Hello, one, two" = "Default value: " ++ "Hello, one, two" := by
    decide
  rw [hlast, hgreeting]
  exact ⟨entry, hentries, (hdefault "two").mpr (by decide), fun hmem => hwhole.mp hmem (by decide),
    hbounds.mpr (by decide)⟩

end ConfigReference
