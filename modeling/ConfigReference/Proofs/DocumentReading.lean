import ConfigReference.Generation
import ConfigReference.Proofs.FileOrder
import ConfigReference.Proofs.OneLine
import Mathlib.Data.List.Forall2

/-!
# Reading a document back

The text of a document can be cut at its line feeds into the header and one block
for each entry: a heading, at least one attribute, and an empty line.  What is
read in the sources may look like a heading, but it never stands at the beginning
of a line.  So the headings, which begin alike, give the keys back, and dropping
the character before each angle bracket undoes the escapes.
-/

namespace ConfigReference.Document

open Text

/-! ## Escapes -/

def isBracket (c : Char) : Bool :=
  c = '<' || c = '>'

/-- Drops the character before every angle bracket. -/
def unescape : List Char → List Char
  | c :: d :: rest =>
    if isBracket d then unescape (d :: rest) else c :: unescape (d :: rest)
  | text => text

theorem escapeBrackets_cons (c : Char) (text : List Char) :
    escapeBrackets (c :: text) =
      if isBracket c then '\\' :: c :: escapeBrackets text else c :: escapeBrackets text := by
  rw [escapeBrackets, List.flatMap_cons, isBracket]
  split <;> rfl

theorem escapeBrackets_append (front back : List Char) :
    escapeBrackets (front ++ back) = escapeBrackets front ++ escapeBrackets back :=
  List.flatMap_append

theorem isBracket_head?_escapeBrackets (text : List Char) :
    ∀ c ∈ (escapeBrackets text).head?, isBracket c = false := by
  cases text with
  | nil => simp [escapeBrackets]
  | cons c text =>
    rw [escapeBrackets_cons]
    split
    · rintro _ ⟨⟩
      rfl
    · next hplain => simpa using hplain

theorem unescape_cons {c : Char} {text : List Char}
    (hhead : ∀ d ∈ text.head?, isBracket d = false) :
    unescape (c :: text) = c :: unescape text := by
  cases text with
  | nil => rfl
  | cons d text => rw [unescape, if_neg (by simp [hhead d rfl])]

theorem unescape_escapeBrackets (text : List Char) : unescape (escapeBrackets text) = text := by
  induction text with
  | nil => rfl
  | cons c text ih =>
    have hhead := isBracket_head?_escapeBrackets text
    rw [escapeBrackets_cons]
    split
    · next hbracket => rw [unescape, if_pos hbracket, unescape_cons hhead, ih]
    · rw [unescape_cons hhead, ih]

/-- A beginning without brackets and backslashes is the same with escapes. -/
theorem isPrefixOf_escapeBrackets {lead : List Char}
    (hlead : ∀ c ∈ lead, isBracket c = false ∧ c ≠ '\\') (text : List Char) :
    lead.isPrefixOf (escapeBrackets text) = lead.isPrefixOf text := by
  induction lead generalizing text with
  | nil => rfl
  | cons b lead ih =>
    obtain ⟨hplain, hslash⟩ := hlead b List.mem_cons_self
    cases text with
    | nil => rfl
    | cons c text =>
      rw [escapeBrackets_cons]
      split
      · next hbracket =>
        have hne : b ≠ c := fun heq => by simp [heq, hbracket] at hplain
        simp [List.isPrefixOf, beq_eq_false_iff_ne.mpr hslash, beq_eq_false_iff_ne.mpr hne]
      · simp [List.isPrefixOf, ih fun d hd => hlead d (List.mem_cons_of_mem b hd)]

section Shown

variable (variant : Variant)

/-- A text as the document shows it. -/
def shown (text : List Char) : List Char :=
  if variant.escapeBrackets then escapeBrackets text else text

/-- A text of the document without its escapes. -/
def plain (text : List Char) : List Char :=
  if variant.escapeBrackets then unescape text else text

theorem plain_shown (text : List Char) : plain variant (shown variant text) = text := by
  rw [plain, shown]
  split
  · exact unescape_escapeBrackets text
  · rfl

theorem shown_injective : Function.Injective (shown variant) :=
  Function.LeftInverse.injective (plain_shown variant)

theorem shown_nil : shown variant [] = [] := by
  rw [shown]
  split <;> rfl

theorem shown_append (front back : List Char) :
    shown variant (front ++ back) = shown variant front ++ shown variant back := by
  rw [shown, shown, shown]
  split
  · exact escapeBrackets_append front back
  · rfl

theorem shown_lineFeed : shown variant ['\n'] = ['\n'] := by
  rw [shown]
  split <;> rfl

theorem shown_joinWith (parts : List (List Char)) :
    shown variant (joinWith ['\n'] parts) = joinWith ['\n'] (parts.map (shown variant)) := by
  fun_induction joinWith ['\n'] parts with
  | case1 => exact shown_nil variant
  | case2 part => rfl
  | case3 part parts hparts ih =>
    rw [shown_append, shown_append, shown_lineFeed, ih, List.map_cons]
    cases parts with
    | nil => exact absurd rfl hparts
    | cons other rest => rfl

theorem lineFeed_not_mem_shown {text : List Char} (htext : '\n' ∉ text) :
    '\n' ∉ shown variant text := by
  rw [shown]
  split
  · intro hmem
    obtain ⟨c, hc, hfeed⟩ := List.mem_flatMap.mp hmem
    split at hfeed
    · next hbracket =>
      simp at hfeed
      exact htext (hfeed ▸ hc)
    · exact htext (List.mem_singleton.mp hfeed ▸ hc)
  · exact htext

end Shown

/-! ## Headings -/

def headingLead : List Char := "## `".toList

/-- Whether a line begins as a heading does. -/
def isHeading (line : List Char) : Bool :=
  headingLead.isPrefixOf line

/-- The key in a heading. -/
def headingKey? (line : List Char) : Option String :=
  (after? headingLead line).map fun rest => String.ofList rest.dropLast

theorem toList_heading (key : String) :
    (heading key).toList = headingLead ++ (key.toList ++ ['`']) := by
  rw [heading, String.toList_append, String.toList_append, List.append_assoc]
  rfl

theorem headingKey?_heading (key : String) : headingKey? (heading key).toList = some key := by
  rw [headingKey?, toList_heading, after?_append, Option.map_some, List.dropLast_concat,
    String.ofList_toList]

theorem isHeading_heading (key : String) : isHeading (heading key).toList = true := by
  rw [isHeading, toList_heading, List.isPrefixOf_iff_prefix]
  exact List.prefix_append _ _

theorem isHeading_eq_false {line : List Char} (hline : line.head? ≠ some '#') :
    isHeading line = false := by
  rw [Bool.eq_false_iff]
  intro hheading
  obtain ⟨rest, rfl⟩ := List.isPrefixOf_iff_prefix.mp hheading
  exact hline rfl

theorem headingKey?_eq_none {line : List Char} (hline : isHeading line = false) :
    headingKey? line = none := by
  rw [headingKey?, Option.map_eq_none_iff, Option.eq_none_iff_forall_ne_some]
  intro rest hrest
  rw [after?_eq_some_iff] at hrest
  have hprefix : isHeading line = true :=
    List.isPrefixOf_iff_prefix.mpr (hrest ▸ List.prefix_append _ _)
  rw [hline] at hprefix
  cases hprefix

theorem isHeading_shown (variant : Variant) (line : List Char) :
    isHeading (shown variant line) = isHeading line := by
  have hlead : ∀ c ∈ headingLead, isBracket c = false ∧ c ≠ '\\' := by
    simp [headingLead, isBracket]
  rw [shown]
  split
  · exact isPrefixOf_escapeBrackets hlead line
  · rfl

/-! ## Blocks -/

section Blocks

variable {variant : Variant} {schema : Schema} {entry : Entry}

theorem initial_ne_of_mem_attributes {note : String}
    (hnote : note ∈ (block variant schema entry).attributes) :
    initial note ≠ none ∧ initial note ≠ some '#' := by
  obtain ⟨letter, hletter, hmem⟩ := initial_of_mem_attributes hnote
  refine ⟨by simp [hletter], fun hheading => ?_⟩
  rw [hletter, Option.some.injEq] at hheading
  rw [hheading] at hmem
  cases hmem

/-- The lines of the attributes of a block. -/
def attributeLines (variant : Variant) (schema : Schema) (entry : Entry) : List String :=
  (block variant schema entry).attributes.map
    ((if variant.bulletAttributes then "- " else "") ++ ·)

theorem lines_block (variant : Variant) (schema : Schema) (entry : Entry) :
    (block variant schema entry).lines variant =
      heading entry.key :: attributeLines variant schema entry ++ [""] := rfl

theorem attributeLines_ne_nil : attributeLines variant schema entry ≠ [] := by
  simp [attributeLines, block]

theorem initial_attributeLine {line : String} (hline : line ∈ attributeLines variant schema entry) :
    initial line ≠ none ∧ initial line ≠ some '#' := by
  obtain ⟨note, hnote, rfl⟩ := List.mem_map.mp hline
  split
  · rw [initial_append _ _ (by decide)]
    decide
  · simpa using initial_ne_of_mem_attributes hnote

theorem isHeading_attributeLine {line : String}
    (hline : line ∈ attributeLines variant schema entry) :
    line ≠ "" ∧ isHeading line.toList = false := by
  obtain ⟨hsome, hletter⟩ := initial_attributeLine hline
  exact ⟨fun hempty => hsome (by rw [hempty]; rfl), isHeading_eq_false hletter⟩

theorem lineFeed_not_mem_block (hvariant : variant.OneLine) (hentry : entry.OneLine)
    {line : String} (hline : line ∈ (block variant schema entry).lines variant) :
    '\n' ∉ line.toList := by
  rw [lines_block, List.cons_append, List.mem_cons, List.mem_append, List.mem_singleton] at hline
  rcases hline with rfl | hattribute | rfl
  · exact lineFeed_not_mem_append (lineFeed_not_mem_append (by decide) hentry.key) (by decide)
  · obtain ⟨note, hnote, rfl⟩ := List.mem_map.mp hattribute
    apply lineFeed_not_mem_append
    · split <;> decide
    · exact lineFeed_not_mem_attributes hvariant hentry hnote
  · decide

/-- The lines of a block have one heading, the first one. -/
theorem filter_isHeading_block (variant : Variant) (schema : Schema) (entry : Entry) :
    ((block variant schema entry).lines variant).filter (fun line => isHeading line.toList) =
      [heading entry.key] := by
  have hattributes : (attributeLines variant schema entry).filter
      (fun line => isHeading line.toList) = [] :=
    List.filter_eq_nil_iff.mpr fun line hline => by simp [isHeading_attributeLine hline]
  rw [lines_block, List.filter_append, List.filter_cons, if_pos (isHeading_heading _),
    hattributes]
  rfl

theorem filterMap_headingKey?_block (variant : Variant) (schema : Schema) (entry : Entry) :
    ((block variant schema entry).lines variant).filterMap
      (fun line => headingKey? line.toList) = [entry.key] := by
  have hattributes : (attributeLines variant schema entry).filterMap
      (fun line => headingKey? line.toList) = [] :=
    List.filterMap_eq_nil_iff.mpr fun line hline =>
      headingKey?_eq_none (isHeading_attributeLine hline).2
  rw [lines_block, List.filterMap_append, List.filterMap_cons, headingKey?_heading, hattributes]
  rfl

end Blocks

/-! ## The whole document -/

/-- A line as the document shows it. -/
def shownLine (variant : Variant) (line : String) : List Char :=
  shown variant line.toList

/-- The lines of a document below the header. -/
def body (text : List Char) : List (List Char) :=
  (splitAt '\n' text).drop 3

/-- The lines below the header that begin as headings do. -/
def headingLines (text : List Char) : List (List Char) :=
  (body text).filter isHeading

/-- The keys in the headings of a document. -/
def keysIn (variant : Variant) (text : List Char) : List String :=
  (body text).filterMap fun line => headingKey? (plain variant line)

/-- The lines of the block of an entry: its heading, at least one attribute, and an
empty line.  No attribute is empty or begins as a heading does. -/
def IsBlock (variant : Variant) (schema : Schema) (lines : List (List Char)) (entry : Entry) :
    Prop :=
  ∃ attributes, lines = shownLine variant (heading entry.key) :: attributes ++ [[]] ∧
    attributes = (attributeLines variant schema entry).map (shownLine variant) ∧
    attributes ≠ [] ∧ ∀ line ∈ attributes, line ≠ [] ∧ isHeading line = false

/-- The text of a document is the header and a block for each entry, so that it can
be read back. -/
structure LaidOut (variant : Variant) (schema : Schema) (text : List Char) : Prop where
  header : (splitAt '\n' text).take 3 = (header variant).map (shownLine variant)
  blocks : ∃ blocks, body text = blocks.flatten ∧
    List.Forall₂ (IsBlock variant schema) blocks (entries variant schema)
  headings : headingLines text =
    (entries variant schema).map fun entry => shownLine variant (heading entry.key)
  keys : keysIn variant text = (entries variant schema).map Entry.key
  rendered : ∀ root document schemaPath,
    (Generation.summary ⟨root, variant, document⟩ schemaPath schema).rendered =
      (headingLines text).length
  excluded : ∀ key, variant.excludes key = true → shownLine variant (heading key) ∉ body text
  unescaped : variant.escapeBrackets = true →
    unescape text = joinWith ['\n'] ((lines variant schema).map String.toList)

section Content

variable {variant : Variant} {schema : Schema}

theorem toList_content (variant : Variant) (schema : Schema) :
    (content variant schema).toList =
      shown variant (joinWith ['\n'] ((lines variant schema).map String.toList)) := by
  rw [content, shown]
  split
  · rw [String.toList_ofList, joined, String.toList_ofList]
    rfl
  · rw [joined, String.toList_ofList]
    rfl

theorem lines_eq (variant : Variant) (schema : Schema) :
    lines variant schema = header variant ++
      (entries variant schema).flatMap fun entry => (block variant schema entry).lines variant := by
  rw [lines, List.flatMap_map]

theorem splitAt_content (hvariant : variant.OneLine)
    (hentries : ∀ entry ∈ entries variant schema, entry.OneLine) :
    splitAt '\n' (content variant schema).toList =
      (lines variant schema).map (shownLine variant) := by
  have hfree : ∀ line ∈ lines variant schema, '\n' ∉ line.toList := by
    intro line hline
    rw [lines_eq, List.mem_append, List.mem_flatMap] at hline
    rcases hline with hheader | ⟨entry, hentry, hblock⟩
    · rw [header, List.mem_cons, List.mem_pair] at hheader
      rcases hheader with rfl | rfl | rfl
      · exact hvariant.title
      · decide
      · exact lineFeed_not_mem_append (lineFeed_not_mem_append (by decide) hvariant.noun)
          (by decide)
    · exact lineFeed_not_mem_block hvariant (hentries entry hentry) hblock
  rw [toList_content, shown_joinWith, List.map_map]
  apply splitAt_joinWith
  · simp [lines_eq, header]
  · intro part hpart
    obtain ⟨line, hline, rfl⟩ := List.mem_map.mp hpart
    exact lineFeed_not_mem_shown variant (hfree line hline)

/-- The lines below the header are those of the blocks. -/
theorem body_content (hvariant : variant.OneLine)
    (hentries : ∀ entry ∈ entries variant schema, entry.OneLine) :
    body (content variant schema).toList = (entries variant schema).flatMap fun entry =>
      ((block variant schema entry).lines variant).map (shownLine variant) := by
  rw [body, splitAt_content hvariant hentries, lines_eq, List.map_append, List.map_flatMap]
  rfl

theorem isBlock_lines (variant : Variant) (schema : Schema) (entry : Entry) :
    IsBlock variant schema (((block variant schema entry).lines variant).map (shownLine variant))
      entry := by
  refine ⟨_, ?_, rfl, ?_, ?_⟩
  · rw [lines_block, List.map_append, List.map_cons, List.map_singleton]
    rw [show shownLine variant "" = [] from shown_nil variant]
  · simpa using attributeLines_ne_nil
  · intro text htext
    obtain ⟨line, hline, rfl⟩ := List.mem_map.mp htext
    obtain ⟨hne, hheading⟩ := isHeading_attributeLine hline
    refine ⟨fun hempty => ?_, (isHeading_shown variant _).trans hheading⟩
    rw [← shown_nil variant] at hempty
    exact hne (by simpa using shown_injective variant hempty)

theorem headingLines_content (hvariant : variant.OneLine)
    (hentries : ∀ entry ∈ entries variant schema, entry.OneLine) :
    headingLines (content variant schema).toList =
      (entries variant schema).map fun entry => shownLine variant (heading entry.key) := by
  have hblock : ∀ entry, (((block variant schema entry).lines variant).map
      (shownLine variant)).filter isHeading = [shownLine variant (heading entry.key)] := by
    intro entry
    have hshown : isHeading ∘ shownLine variant = fun line => isHeading line.toList :=
      funext fun line => isHeading_shown variant line.toList
    rw [List.filter_map, hshown, filter_isHeading_block, List.map_singleton]
  rw [headingLines, body_content hvariant hentries, List.filter_flatMap]
  simp only [hblock]
  exact List.map_eq_flatMap.symm

theorem keysIn_content (hvariant : variant.OneLine)
    (hentries : ∀ entry ∈ entries variant schema, entry.OneLine) :
    keysIn variant (content variant schema).toList = (entries variant schema).map Entry.key := by
  have hblock : ∀ entry, (((block variant schema entry).lines variant).map
      (shownLine variant)).filterMap (fun line => headingKey? (plain variant line)) =
        [entry.key] := by
    intro entry
    have hplain : (fun line => headingKey? (plain variant line)) ∘ shownLine variant =
        fun line => headingKey? line.toList :=
      funext fun line => congrArg headingKey? (plain_shown variant line.toList)
    rw [List.filterMap_map, hplain, filterMap_headingKey?_block]
  rw [keysIn, body_content hvariant hentries, List.filterMap_flatMap]
  simp only [hblock]
  exact List.map_eq_flatMap.symm

theorem heading_not_mem_body (hvariant : variant.OneLine)
    (hentries : ∀ entry ∈ entries variant schema, entry.OneLine) {key : String}
    (hkey : variant.excludes key = true) :
    shownLine variant (heading key) ∉ body (content variant schema).toList := by
  intro hmem
  have hheading : shownLine variant (heading key) ∈
      headingLines (content variant schema).toList :=
    List.mem_filter.mpr ⟨hmem, (isHeading_shown variant _).trans (isHeading_heading key)⟩
  rw [headingLines_content hvariant hentries] at hheading
  obtain ⟨entry, hentry, hsame⟩ := List.mem_map.mp hheading
  have hname : entry.key = key := by
    have hline := congrArg headingKey? (shown_injective variant hsame)
    rwa [headingKey?_heading, headingKey?_heading, Option.some.injEq] at hline
  rw [(entries_perm variant schema).mem_iff, retained, List.mem_filter, hname] at hentry
  simp [hkey] at hentry

theorem laidOut_content (hvariant : variant.OneLine)
    (hentries : ∀ entry ∈ entries variant schema, entry.OneLine) :
    LaidOut variant schema (content variant schema).toList where
  header := by
    rw [splitAt_content hvariant hentries, lines_eq, List.map_append]
    rfl
  blocks := by
    refine ⟨_, (body_content hvariant hentries).trans List.flatMap_def, ?_⟩
    rw [List.forall₂_map_left_iff, List.forall₂_same]
    exact fun entry _ => isBlock_lines variant schema entry
  headings := headingLines_content hvariant hentries
  keys := keysIn_content hvariant hentries
  rendered := by
    intro root document schemaPath
    rw [headingLines_content hvariant hentries, List.length_map]
    rfl
  excluded := fun key hkey => heading_not_mem_body hvariant hentries hkey
  unescaped := by
    intro hescape
    rw [toList_content, shown, if_pos hescape, unescape_escapeBrackets]

end Content

/-- The keys of scanned sources can be read back from their document. -/
theorem keys_read_back (variant : Variant) (sources : List (String × String))
    (hvariant : variant.OneLine) :
    LaidOut variant (Schema.ofScans (scanSources variant sources))
      (content variant (Schema.ofScans (scanSources variant sources))).toList := by
  apply laidOut_content hvariant
  intro entry hentry
  obtain ⟨source, -, hscanned⟩ := exists_source_of_mem_document hentry
  exact oneLine_of_mem_entries hscanned

/-- A key in angle brackets, and a default value that looks like a heading. -/
def bracketSources : List (String × String) :=
  [("src/map.cpp", "CFG.GetString(\"<k>\", \"## `x`\");")]

theorem oneLine_map : Variant.map.OneLine where
  title := by decide
  noun := by decide
  overrides := by decide +kernel
  constants := by decide +kernel

theorem keys_read_back_brackets :
    headingLines (content Variant.map
      (Schema.ofScans (scanSources Variant.map bracketSources))).toList =
        ["## `\\<k\\>`".toList] ∧
    keysIn Variant.map (content Variant.map
      (Schema.ofScans (scanSources Variant.map bracketSources))).toList = ["<k>"] := by
  have hentries : entries Variant.map
      (Schema.ofScans (scanSources Variant.map bracketSources)) =
        [⟨"<k>", "GetString", some "\"## `x`\"", "src/map.cpp", 1⟩] := by
    decide +kernel
  have hlaid := keys_read_back Variant.map bracketSources oneLine_map
  rw [hlaid.headings, hlaid.keys, hentries]
  exact ⟨rfl, rfl⟩

end ConfigReference.Document
