import ConfigReference.Proofs.CallSpelling

/-!
# Printed sources

A source is printed from a list of statements, each on a line of its own, with
any blanks around it, any spelling of the receiver and either line end.  A scan
undoes the printing: on every line the rule of the printed statement decides, and
the entries are the printed reads.  What keeps the rules apart is the opening
parenthesis, which a printed call has once and no other line has at all.
-/

namespace ConfigReference

open Text

/-- What is printed behind the text of a read.  Only a required read has its own
closing parenthesis. -/
def Read.closing (read : Read) : List Char :=
  match read.arguments with
  | none => ")".toList
  | some _ => []

/-- A call on the receiver.  Strict mode is switched off by handing over the
mode from before or a constant. -/
inductive SourceCall
  | read (called : Read)
  | failFast
  | strictOn
  | strictOff (restores : Bool)

namespace SourceCall

def text : SourceCall → List Char
  | read called => called.text ++ called.closing
  | failFast => "FailIfErrorLast()".toList
  | strictOn => "SetStrictMode(true)".toList
  | strictOff true => "SetStrictMode(wasStrict)".toList
  | strictOff false => "SetStrictMode(false)".toList

def statement : SourceCall → Statement
  | read called => called.statement
  | failFast => .failFast
  | strictOn => .strictOn
  | strictOff _ => .strictOff

/-- The parts of a read hold no line feed and no further parenthesis, and the
type of a required read does not make its accessor that of an optional one. -/
def WellFormed : SourceCall → Prop
  | read called =>
    '(' ∉ called.key ∧ '\n' ∉ called.key ∧
      ∀ arguments ∈ called.arguments,
        '(' ∉ arguments ∧ '\n' ∉ arguments ∧ ¬ "Maybe".toList <+: called.word
  | _ => True

end SourceCall

/-- What is printed on a line. -/
inductive SourceLine
  | call (called : SourceCall)
  | sectionStart
  | sectionEnd
  | noise (text : List Char)

namespace SourceLine

def statement? : SourceLine → Option Statement
  | call called => some called.statement
  | sectionStart => some .sectionStart
  | sectionEnd => some .sectionEnd
  | noise _ => none

/-- The entry that the line adds. -/
def entry? (file : String) (number : Nat) : SourceLine → Option Entry
  | call (.read called) => some (called.entry file number)
  | _ => none

/-- Noise is no call and, without the blanks around it, no marker. -/
def WellFormed : SourceLine → Prop
  | call called => called.WellFormed
  | noise text =>
    '(' ∉ text ∧ '\n' ∉ text ∧ trim text ≠ Rule.sectionStartMarker.toList ∧
      trim text ≠ Rule.sectionEndMarker.toList
  | _ => True

end SourceLine

/-- How a line is laid out.  The spelling of the receiver and the semicolon
matter for calls only. -/
structure Layout where
  before : List Char := []
  spelling : String
  /-- The blanks before a semicolon, if there is one. -/
  semicolon : Option (List Char) := none
  after : List Char := []

namespace Layout

def ending (layout : Layout) : List Char :=
  match layout.semicolon with
  | none => []
  | some blanks => blanks ++ [';']

structure Fits (variant : Variant) (layout : Layout) : Prop where
  spelling_mem : layout.spelling ∈ variant.spellings
  before_blank : IsPadding layout.before
  semicolon_blank : ∀ blanks ∈ layout.semicolon, IsPadding blanks
  after_blank : IsPadding layout.after

end Layout

structure PrintedLine where
  line : SourceLine
  layout : Layout

namespace PrintedLine

/-- The line without the blanks around it. -/
def core (printed : PrintedLine) : List Char :=
  match printed.line with
  | .call called => printed.layout.spelling.toList ++ called.text ++ printed.layout.ending
  | .sectionStart => Rule.sectionStartMarker.toList
  | .sectionEnd => Rule.sectionEndMarker.toList
  | .noise text => text

def text (printed : PrintedLine) : List Char :=
  printed.layout.before ++ printed.core ++ printed.layout.after

structure WellFormed (variant : Variant) (printed : PrintedLine) : Prop where
  line : printed.line.WellFormed
  layout : printed.layout.Fits variant

end PrintedLine

inductive LineEnd
  | lineFeed
  | returnLineFeed

def LineEnd.text : LineEnd → List Char
  | lineFeed => ['\n']
  | returnLineFeed => ['\r', '\n']

/-- The text of lines with their line ends and, behind them, of a last line
without one. -/
def printSource : List (PrintedLine × LineEnd) → Option PrintedLine → List Char
  | [], none => []
  | [], some last => last.text
  | (printed, lineEnd) :: rest, last => printed.text ++ lineEnd.text ++ printSource rest last

/-! ## Printed lines -/

theorem Read.not_mem_closing (read : Read) {c : Char} (hc : c ≠ ')') : c ∉ read.closing := by
  rw [Read.closing]
  cases read.arguments with
  | none => simpa using hc
  | some arguments => exact List.not_mem_nil

theorem Read.getLast?_text_append_closing (read : Read) :
    (read.text ++ read.closing).getLast? = some ')' := by
  rw [Read.closing]
  cases hcase : read.arguments with
  | none => exact List.getLast?_concat
  | some arguments =>
    rw [List.append_nil, read.text_of_some hcase]
    simp [List.getLast?_append, List.getLast?_cons]

namespace SourceCall

theorem text_read (called : Read) : (read called).text = called.text ++ called.closing := rfl

theorem getLast?_text (called : SourceCall) : called.text.getLast? = some ')' := by
  cases called with
  | read called => exact called.getLast?_text_append_closing
  | failFast => decide
  | strictOn => decide
  | strictOff restores => cases restores <;> decide

theorem getLast?_append_text (front : List Char) (called : SourceCall) :
    (front ++ called.text).getLast? = some ')' := by
  rw [List.getLast?_append, called.getLast?_text]
  rfl

theorem lineFeed_not_mem_text {called : SourceCall} (hcalled : called.WellFormed) :
    '\n' ∉ called.text := by
  cases called with
  | read called =>
    obtain ⟨-, hkey, harguments⟩ := hcalled
    have hinner : '\n' ∉ called.inner :=
      Read.not_mem_inner hkey (fun arguments hmem => (harguments arguments hmem).2.1) (by decide)
    have haccessor : '\n' ∉ called.accessor := called.not_mem_accessor (by decide)
    have hclosing : '\n' ∉ called.closing := called.not_mem_closing (by decide)
    simp [text_read, called.text_eq, hinner, haccessor, hclosing]
  | failFast => decide
  | strictOn => decide
  | strictOff restores => cases restores <;> decide

end SourceCall

namespace Layout

variable {variant : Variant} {layout : Layout}

theorem not_mem_ending (hlayout : layout.Fits variant) {c : Char}
    (hblank : isBlank c = false ∨ c = '\n') (hsemicolon : c ≠ ';') : c ∉ layout.ending := by
  rw [ending]
  cases hcase : layout.semicolon with
  | none => simp
  | some blanks =>
    simp only [List.mem_append, List.mem_singleton, not_or]
    refine ⟨fun hc => ?_, hsemicolon⟩
    obtain ⟨hcblank, hcfeed⟩ := hlayout.semicolon_blank blanks hcase c hc
    rcases hblank with hblank | hfeed
    · simp [hcblank] at hblank
    · exact hcfeed hfeed

/-- The ending of a call is what the rules for exact calls leave away. -/
theorem withoutSemicolon_append_ending (hlayout : layout.Fits variant) {body : List Char}
    (hbody : body.getLast? = some ')') :
    Rule.withoutSemicolon (body ++ layout.ending) = body := by
  rw [Rule.withoutSemicolon_eq_iff hbody (by decide) (by decide), ending]
  cases hcase : layout.semicolon with
  | none => exact .inl (List.append_nil body)
  | some blanks =>
    have hblanks : ∀ c ∈ blanks, isBlank c = true := fun c hc =>
      (hlayout.semicolon_blank blanks hcase c hc).1
    exact .inr ⟨blanks, hblanks, (List.append_assoc body blanks [';']).symm⟩

theorem getLast?_append_ending {body : List Char} (hbody : body.getLast? = some ')') :
    ∀ c ∈ (body ++ layout.ending).getLast?, isBlank c = false := by
  rw [ending]
  cases layout.semicolon with
  | none =>
    rw [List.append_nil, hbody]
    rintro c ⟨⟩
    decide
  | some blanks =>
    rw [← List.append_assoc, List.getLast?_concat]
    rintro c ⟨⟩
    decide

end Layout

namespace PrintedLine

variable {variant : Variant} {printed : PrintedLine}

theorem trim_text (hprinted : printed.WellFormed variant) :
    trim printed.text = trim printed.core := by
  rw [text, trim_padding hprinted.layout.before_blank hprinted.layout.after_blank]

/-- What is printed for a call has no blanks around it. -/
theorem trim_call (hvariant : variant.SpellsCalls) {layout : Layout}
    (hlayout : layout.Fits variant) (called : SourceCall) :
    trim (layout.spelling.toList ++ called.text ++ layout.ending) =
      layout.spelling.toList ++ called.text ++ layout.ending := by
  obtain ⟨c, rest, hspelling⟩ :=
    List.exists_cons_of_ne_nil (hvariant.spelling_ne_nil hlayout.spelling_mem)
  apply trim_eq_self
  · rw [hspelling]
    rintro d ⟨⟩
    exact (hvariant.spelling_chars hlayout.spelling_mem c (by simp [hspelling])).1
  · exact Layout.getLast?_append_ending (called.getLast?_append_text _)

theorem lineFeed_not_mem_text (hvariant : variant.SpellsCalls)
    (hprinted : printed.WellFormed variant) : '\n' ∉ printed.text := by
  obtain ⟨line, layout⟩ := printed
  obtain ⟨hline, hlayout⟩ := hprinted
  have hcore : '\n' ∉ core ⟨line, layout⟩ := by
    cases line with
    | call called =>
      have hspelling : '\n' ∉ layout.spelling.toList := fun hc =>
        absurd (hvariant.spelling_chars hlayout.spelling_mem _ hc).1 (by decide)
      simp only [core, List.mem_append, not_or]
      exact ⟨⟨hspelling, SourceCall.lineFeed_not_mem_text hline⟩,
        Layout.not_mem_ending hlayout (.inr rfl) (by decide)⟩
    | sectionStart => exact (by decide : '\n' ∉ Rule.sectionStartMarker.toList)
    | sectionEnd => exact (by decide : '\n' ∉ Rule.sectionEndMarker.toList)
    | noise text => exact hline.2.1
  simp only [text, List.mem_append, not_or]
  exact ⟨⟨hlayout.before_blank.lineFeed_not_mem, hcore⟩,
    hlayout.after_blank.lineFeed_not_mem⟩

theorem ofLine?_read (hvariant : variant.SpellsCalls) {layout : Layout}
    (hlayout : layout.Fits variant) {called : Read} (hcalled : (SourceCall.read called).WellFormed)
    {line : List Char} (htrim : trim line =
      layout.spelling.toList ++ (SourceCall.read called).text ++ layout.ending) :
    Statement.ofLine? variant line = some called.statement := by
  obtain ⟨hkey, -, harguments⟩ := hcalled
  have hinner : '(' ∉ called.inner ++ (called.closing ++ layout.ending) := by
    simp only [List.mem_append, not_or]
    exact ⟨Read.not_mem_inner hkey (fun text hmem => (harguments text hmem).1) (by decide),
      called.not_mem_closing (by decide),
      Layout.not_mem_ending hlayout (.inl (by decide)) (by decide)⟩
  have hline : trim line =
      layout.spelling.toList ++ (called.text ++ (called.closing ++ layout.ending)) := by
    rw [htrim, SourceCall.text_read, List.append_assoc, List.append_assoc]
  cases hcase : called.arguments with
  | none =>
    have hrule : called.rule = .optional := Read.rule_eq_optional_iff.mpr hcase
    rw [Statement.ofLine?_eq_some_iff_optional (called.rule_statement.trans hrule), hline]
    exact Read.search?_of_spelling hvariant hlayout.spelling_mem hinner
      (hrule ▸ Call.recognises_optionalRead?)
  | some arguments =>
    have hrule : called.rule = .required := Read.rule_eq_required_iff.mpr ⟨arguments, hcase⟩
    rw [Statement.ofLine?_eq_some_iff_required (called.rule_statement.trans hrule), hline]
    exact ⟨Read.optional_eq_none_of_spelling hvariant hlayout.spelling_mem hinner hrule
        (harguments arguments hcase).2.2,
      Read.search?_of_spelling hvariant hlayout.spelling_mem hinner
        (hrule ▸ Call.recognises_requiredRead?)⟩

theorem ofLine?_call (hvariant : variant.SpellsCalls) {layout : Layout}
    (hlayout : layout.Fits variant) {called : SourceCall} (hcalled : called.WellFormed)
    {line : List Char}
    (htrim : trim line = layout.spelling.toList ++ called.text ++ layout.ending) :
    Statement.ofLine? variant line = some called.statement := by
  have hparen : '(' ∉ layout.ending :=
    Layout.not_mem_ending hlayout (.inl (by decide)) (by decide)
  have hbare : Rule.withoutSemicolon (trim line) = layout.spelling.toList ++ called.text := by
    rw [htrim, Layout.withoutSemicolon_append_ending hlayout (called.getLast?_append_text _)]
  cases called with
  | read called => exact ofLine?_read hvariant hlayout hcalled htrim
  | failFast =>
    exact Statement.ofLine?_exactCall hvariant hlayout.spelling_mem
      "FailIfErrorLast()" (by decide) hparen htrim hbare
  | strictOn =>
    exact Statement.ofLine?_exactCall hvariant hlayout.spelling_mem
      "SetStrictMode(true)" (by decide) hparen htrim hbare
  | strictOff restores =>
    cases restores with
    | true =>
      exact Statement.ofLine?_exactCall hvariant hlayout.spelling_mem
        "SetStrictMode(wasStrict)" (by decide) hparen htrim hbare
    | false =>
      exact Statement.ofLine?_exactCall hvariant hlayout.spelling_mem
        "SetStrictMode(false)" (by decide) hparen htrim hbare

/-- The statement of a printed line is the one that was printed. -/
theorem ofLine?_eq_statement? (hvariant : variant.SpellsCalls)
    (hprinted : printed.WellFormed variant) {line : List Char}
    (hline : trim line = trim printed.text) :
    Statement.ofLine? variant line = printed.line.statement? := by
  rw [trim_text hprinted] at hline
  obtain ⟨source, layout⟩ := printed
  obtain ⟨hsource, hlayout⟩ := hprinted
  cases source with
  | call called =>
    exact ofLine?_call hvariant hlayout hsource (hline.trans (trim_call hvariant hlayout called))
  | sectionStart =>
    have hmarker : trim line = Rule.sectionStartMarker.toList := hline.trans
      (by decide : trim Rule.sectionStartMarker.toList = Rule.sectionStartMarker.toList)
    rw [Statement.ofLine?_of_no_paren (by rw [hmarker]; decide), if_pos hmarker]
    rfl
  | sectionEnd =>
    have hmarker : trim line = Rule.sectionEndMarker.toList := hline.trans
      (by decide : trim Rule.sectionEndMarker.toList = Rule.sectionEndMarker.toList)
    rw [Statement.ofLine?_of_no_paren (by rw [hmarker]; decide), if_neg (by rw [hmarker]; decide),
      if_pos hmarker]
    rfl
  | noise text =>
    obtain ⟨hparen, -, hstart, hend⟩ := hsource
    have htext : trim line = trim text := hline
    rw [Statement.ofLine?_of_no_paren (by rw [htext]; exact fun hc => hparen (mem_of_mem_trim hc)),
      htext, if_neg hstart, if_neg hend]
    rfl

end PrintedLine

/-! ## Printed sources -/

section Source

variable {variant : Variant}

theorem lines_printedLine {printed : PrintedLine} (hprinted : '\n' ∉ printed.text)
    (lineEnd : LineEnd) (rest : List Char) :
    ∃ line, lines (printed.text ++ lineEnd.text ++ rest) = line :: lines rest ∧
      trim line = trim printed.text := by
  cases lineEnd with
  | lineFeed =>
    refine ⟨dropReturn printed.text, ?_, trim_dropReturn _⟩
    rw [← lines_append_lineFeed hprinted, LineEnd.text, List.append_assoc]
    rfl
  | returnLineFeed =>
    refine ⟨dropReturn (printed.text ++ ['\r']), ?_, ?_⟩
    · rw [← lines_append_lineFeed (by simp [hprinted]), LineEnd.text, List.append_assoc,
        List.append_assoc]
      rfl
    · rw [trim_dropReturn, trim_append_blank_right _ (by simp; decide)]

/-- Each line of a printed source has the statement that was printed on it. -/
theorem map_ofLine?_lines_printSource (hvariant : variant.SpellsCalls)
    {lines : List (PrintedLine × LineEnd)} {last : Option PrintedLine}
    (hlines : ∀ line ∈ lines, line.1.WellFormed variant)
    (hlast : ∀ line ∈ last, line.WellFormed variant) :
    (Text.lines (printSource lines last)).map (Statement.ofLine? variant) =
      lines.map (fun line => line.1.line.statement?) ++
        [last.bind fun line => line.line.statement?] := by
  induction lines with
  | nil =>
    cases last with
    | none =>
      have hblank : Statement.ofLine? variant [] = none :=
        Statement.ofLine?_of_no_paren (by decide)
      simp [printSource, Text.lines, hblank]
    | some last =>
      have hprinted := hlast last rfl
      rw [printSource, lines_eq_singleton (last.lineFeed_not_mem_text hvariant hprinted),
        List.map_singleton, last.ofLine?_eq_statement? hvariant hprinted rfl]
      rfl
  | cons line rest ih =>
    obtain ⟨printed, lineEnd⟩ := line
    have hprinted : printed.WellFormed variant := hlines _ List.mem_cons_self
    obtain ⟨text, htext, htrim⟩ := lines_printedLine
      (printed.lineFeed_not_mem_text hvariant hprinted) lineEnd (printSource rest last)
    rw [printSource, htext, List.map_cons, printed.ofLine?_eq_statement? hvariant hprinted htrim,
      ih fun line hline => hlines line (List.mem_cons_of_mem _ hline)]
    rfl

end Source

theorem SourceLine.bind_entry?_statement? (line : SourceLine) (file : String) (number : Nat) :
    line.statement?.bind (Statement.entry? file number) = line.entry? file number := by
  cases line with
  | call called =>
    cases called with
    | read called => exact called.entry?_statement file number
    | _ => rfl
  | _ => rfl

/-- The statements of printed lines add the entries of the lines. -/
theorem filterMap_entry?_printed (file : String) (lines : List (PrintedLine × LineEnd))
    (last : Option PrintedLine) :
    ((lines.map (fun line => line.1.line.statement?) ++
        [last.bind fun line => line.line.statement?]).zipIdx.filterMap fun numbered =>
          numbered.1.bind (Statement.entry? file (numbered.2 + 1))) =
      (lines.map Prod.fst ++ last.toList).zipIdx.filterMap fun numbered =>
        numbered.1.line.entry? file (numbered.2 + 1) := by
  rw [List.zipIdx_append, List.filterMap_append, List.zipIdx_append, List.filterMap_append,
    List.zipIdx_map, List.zipIdx_map, List.filterMap_map, List.filterMap_map, List.length_map,
    List.length_map]
  congr 1
  · refine List.filterMap_congr fun numbered _ => ?_
    exact numbered.1.1.line.bind_entry?_statement? file (numbered.2 + 1)
  · cases last with
    | none => rfl
    | some last =>
      simp only [Option.bind_some, Option.toList_some, List.zipIdx_singleton,
        List.filterMap_cons, List.filterMap_nil, SourceLine.bind_entry?_statement?]

theorem Variant.spellsCalls_of_mem_builtIn :
    ∀ variant ∈ Variant.builtIn, variant.SpellsCalls := by
  intro variant hmem
  simp only [Variant.builtIn, List.mem_cons, List.not_mem_nil, or_false] at hmem
  rcases hmem with rfl | rfl
  · exact ⟨by decide, List.all_iff_forall_prop.mp (by decide), by decide, by decide,
      fun separator hseparator => List.all_iff_forall_prop.mp (by revert separator; decide)⟩
  · exact ⟨by decide, List.all_iff_forall_prop.mp (by decide), by decide, by decide,
      fun separator hseparator => List.all_iff_forall_prop.mp (by revert separator; decide)⟩

/-- Scanning undoes printing.  On every line the rule of the printed statement
decides and yields that statement, no rule applies to noise, and the entries are
the printed reads with their lines. -/
theorem scan_printSource :
    (∀ variant ∈ Variant.builtIn, variant.SpellsCalls) ∧
    ∀ (variant : Variant) (lines : List (PrintedLine × LineEnd)) (last : Option PrintedLine),
      variant.SpellsCalls → (∀ line ∈ lines, line.1.WellFormed variant) →
      (∀ line ∈ last, line.WellFormed variant) →
      (Text.lines (printSource lines last)).map (Rule.fired? variant) =
        lines.map (fun line => line.1.line.statement?.map Statement.rule) ++
          [last.bind fun line => line.line.statement?.map Statement.rule] ∧
      statements variant (String.ofList (printSource lines last)) =
        lines.map (fun line => line.1.line.statement?) ++
          [last.bind fun line => line.line.statement?] ∧
      ∀ file, (scanText variant file (String.ofList (printSource lines last))).entries =
        (lines.map Prod.fst ++ last.toList).zipIdx.filterMap fun numbered =>
          numbered.1.line.entry? file (numbered.2 + 1) := by
  refine ⟨Variant.spellsCalls_of_mem_builtIn, ?_⟩
  intro variant lines last hvariant hlines hlast
  have hprinted := map_ofLine?_lines_printSource hvariant hlines hlast
  have hstatements : statements variant (String.ofList (printSource lines last)) =
      lines.map (fun line => line.1.line.statement?) ++
        [last.bind fun line => line.line.statement?] := by
    rw [statements, String.toList_ofList, hprinted]
  refine ⟨?_, hstatements, ?_⟩
  · have hrules := congrArg (List.map (Option.map Statement.rule)) hprinted
    rw [List.map_map] at hrules
    refine hrules.trans ?_
    cases last <;> simp
  · intro file
    rw [scanText, ScanState.finish, entries_scanStatements, hstatements,
      filterMap_entry?_printed]

/-- A key and arguments that look like calls themselves. -/
def misleadingRead : Read where
  word := "Uint16".toList
  key := "CFG.GetMaybe".toList
  arguments := some "SetStrictMode; \"CFG->\"".toList
  word_ne_nil := by decide
  isWordChar_of_mem_word := List.all_eq_true.mp (by decide)
  key_ne_nil := by decide
  quote_not_mem_key := by decide
  arguments_ne_nil := by decide
  paren_not_mem_arguments := by decide

def misleadingSource : List (PrintedLine × LineEnd) :=
  [(⟨.noise "CFG->GetBool = \"a\", 1);".toList, ⟨['\t'], "CFG->", none, ['\r']⟩⟩, .lineFeed),
   (⟨.call (.strictOff true), ⟨[], "CFG->", some [' '], []⟩⟩, .returnLineFeed)]

def misleadingLast : PrintedLine :=
  ⟨.call (.read misleadingRead), ⟨[' '], "CFG.", some [], ['\t']⟩⟩

/-- Noise with most of a read, mixed line ends, and a read without a line end. -/
theorem scan_printSource_misleading :
    String.ofList (printSource misleadingSource (some misleadingLast)) =
        "\tCFG->GetBool = \"a\", 1);\r\nCFG->SetStrictMode(wasStrict) ;\r\n" ++
          " CFG.GetUint16(\"CFG.GetMaybe\", SetStrictMode; \"CFG->\");\t" ∧
      (Text.lines (printSource misleadingSource (some misleadingLast))).map
          (Rule.fired? Variant.map) =
        [none, some .strictOff, some .required] ∧
      (scanText Variant.map "src/map.cpp"
          (String.ofList (printSource misleadingSource (some misleadingLast)))).entries =
        [⟨"CFG.GetMaybe", "GetUint16", some "SetStrictMode; \"CFG->\"", "src/map.cpp", 3⟩] := by
  have hnoise : ∀ line ∈ misleadingSource, line.1.WellFormed Variant.map := by
    intro line hline
    simp only [misleadingSource, List.mem_cons, List.not_mem_nil, or_false] at hline
    rcases hline with rfl | rfl
    · exact ⟨⟨by decide, by decide, by decide, by decide⟩,
        ⟨by decide, by decide, by decide, by decide⟩⟩
    · exact ⟨trivial, ⟨by decide, by decide, by decide, by decide⟩⟩
  have hlast : ∀ line ∈ some misleadingLast, line.WellFormed Variant.map := by
    rintro line ⟨⟩
    exact ⟨⟨by decide, by decide, by decide⟩, ⟨by decide, by decide, by decide, by decide⟩⟩
  obtain ⟨hrules, -, hentries⟩ := scan_printSource.2 Variant.map misleadingSource
    (some misleadingLast) (Variant.spellsCalls_of_mem_builtIn _ (by simp [Variant.builtIn]))
    hnoise hlast
  exact ⟨by decide, hrules, hentries "src/map.cpp"⟩

end ConfigReference
