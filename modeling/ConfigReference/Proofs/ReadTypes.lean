import ConfigReference.Document
import ConfigReference.Proofs.ReadGrammar

/-!
# The types of scanned reads

Whether a read is optional is decided twice: by the rule that finds it, and by
the name of its accessor when the document is written.  The two agree on every
read that a scan finds, but for one accessor: behind the bare `GetMaybe` nothing
is left to name a type.  The rule for required reads takes it as a read of type
`Maybe`, and its name alone as an optional read without a type.
-/

namespace ConfigReference

open Text

/-! ## Type names -/

theorem Text.lowerBetween_ne_nil (before : List Char) (c : Char) (rest : List Char) :
    lowerBetween before c rest ≠ [] := by
  rw [lowerBetween]
  split_ifs <;> simp

theorem Text.lower_eq_nil_iff {text : List Char} : lower text = [] ↔ text = [] := by
  cases text with
  | nil => simp [lower, lowerAfter]
  | cons c rest => simp [lower, lowerAfter, lowerBetween_ne_nil]

namespace Accessor

theorem typeName_eq_empty_iff {indexIsEnum : Bool} {word : List Char} :
    typeName indexIsEnum word = "" ↔ word = [] := by
  have hname : String.ofList (lower word) = "" ↔ word = [] := by
    rw [String.ofList_eq_empty_iff, lower_eq_nil_iff]
  rw [typeName]
  split
  · next henum =>
    have hindex : String.ofList (lower word) = "stringindex" := by
      simpa using (Bool.and_eq_true_iff.mp henum).2
    refine iff_of_false (by decide) fun hword => ?_
    rw [hname.mpr hword] at hindex
    exact absurd hindex (by decide)
  · exact hname

theorem optionalLead_eq : optionalLead = requiredLead ++ "Maybe".toList := rfl

theorem ofList_optionalLead_append_eq_iff {word : List Char} :
    String.ofList (optionalLead ++ word) = "GetMaybe" ↔ word = [] := by
  have hlead : "GetMaybe" = String.ofList (optionalLead ++ []) := rfl
  rw [hlead, String.ofList_inj, List.append_cancel_left_eq]

theorem ofList_requiredLead_append_eq_iff {word : List Char} :
    String.ofList (requiredLead ++ word) = "GetMaybe" ↔ word = "Maybe".toList := by
  have hlead : "GetMaybe" = String.ofList (requiredLead ++ "Maybe".toList) := rfl
  rw [hlead, String.ofList_inj, List.append_cancel_left_eq]

theorem classify_optionalLead (indexIsEnum : Bool) (word : List Char) :
    classify indexIsEnum (String.ofList (optionalLead ++ word)) =
      ⟨typeName indexIsEnum word, true, true⟩ := by
  rw [classify, String.toList_ofList, after?_append]

theorem classify_requiredLead (indexIsEnum : Bool) {word : List Char}
    (hword : ∀ rest, word ≠ "Maybe".toList ++ rest) :
    classify indexIsEnum (String.ofList (requiredLead ++ word)) =
      ⟨typeName indexIsEnum word, false, true⟩ := by
  have hnone : after? optionalLead (requiredLead ++ word) = none := by
    rw [Option.eq_none_iff_forall_ne_some]
    intro rest hsome
    rw [after?_eq_some_iff, optionalLead_eq, List.append_assoc,
      List.append_cancel_left_eq] at hsome
    exact hword rest hsome
  rw [classify, String.toList_ofList, hnone, after?_append]

end Accessor

/-! ## Accessors of scanned reads -/

/-- A read with a type behind `GetMaybe` is found by the rule for optional reads,
which is tried first. -/
theorem Read.word_ne_of_ofLine? {variant : Variant} {line : List Char} {read : Read}
    (hline : Statement.ofLine? variant line = some read.statement)
    {arguments : List Char} (harguments : read.arguments = some arguments)
    {rest : List Char} (hrest : rest ≠ []) : read.word ≠ "Maybe".toList ++ rest := by
  intro hword
  have hrule : read.statement.rule = .required := by
    rw [read.rule_statement, Read.rule_eq_required_iff]
    exact ⟨arguments, harguments⟩
  obtain ⟨hnone, hsearch⟩ := (Statement.ofLine?_eq_some_iff_required hrule).mp hline
  obtain ⟨found, before, number, -, hfound, hfirst⟩ :=
    Call.search?_eq_some Call.recognises_requiredRead? hsearch
  obtain rfl : read = found := Read.statement_injective hfound
  obtain ⟨separator, behind, hseparator, htext⟩ := hfirst.standsIn
  -- the same call, read only up to the end of the key
  let optional : Read :=
    ⟨rest, read.key, none, hrest,
      fun c hc => read.isWordChar_of_mem_word c (by simp [hword, hc]),
      read.key_ne_nil, read.quote_not_mem_key, by simp, by simp⟩
  refine Call.search?_eq_none Call.recognises_optionalRead? hnone optional before number rfl
    ⟨separator, ',' :: ' ' :: (arguments ++ ')' :: behind), hseparator, ?_⟩
  rw [htext, read.text_of_some harguments, optional.text_of_none rfl, hword,
    Accessor.optionalLead_eq]
  simp [optional]

/-- A required read is left to its rule with the word `Maybe` alone, or with a word
that does not begin so. -/
theorem Read.word_eq_or_forall_ne_of_ofLine? {variant : Variant} {line : List Char} {read : Read}
    (hline : Statement.ofLine? variant line = some read.statement) {arguments : List Char}
    (harguments : read.arguments = some arguments) :
    read.word = "Maybe".toList ∨ ∀ rest, read.word ≠ "Maybe".toList ++ rest := by
  by_cases hbare : read.word = "Maybe".toList
  · exact .inl hbare
  · refine .inr fun rest => ?_
    by_cases hrest : rest = []
    · rwa [hrest, List.append_nil]
    · exact Read.word_ne_of_ofLine? hline harguments hrest

theorem Read.typeName_word_ne_empty (read : Read) (indexIsEnum : Bool) :
    Accessor.typeName indexIsEnum read.word ≠ "" := by
  intro hname
  exact read.word_ne_nil (Accessor.typeName_eq_empty_iff.mp hname)

/-- The two ways to tell whether a scanned read is optional agree, unless its
accessor is the bare `GetMaybe`. -/
theorem classify_of_mem_entries {variant : Variant} {file text : String} {entry : Entry}
    (hentry : entry ∈ (scanText variant file text).entries) :
    (entry.accessor ≠ "GetMaybe" ∧ entry.arguments ≠ some "" ∧
      ∀ indexIsEnum, ∃ name, name ≠ "" ∧
        Accessor.classify indexIsEnum entry.accessor = ⟨name, entry.arguments.isNone, true⟩) ∨
    (entry.accessor = "GetMaybe" ∧ entry.arguments.isSome = true ∧
      ∀ indexIsEnum, Accessor.classify indexIsEnum entry.accessor = ⟨"", true, true⟩) := by
  obtain ⟨line, statement, number, -, hline, hstatement⟩ :=
    mem_entries_scanText variant file hentry
  have hrule : statement.rule = .optional ∨ statement.rule = .required := by
    cases statement <;> simp [Statement.entry?, Statement.rule] at hstatement ⊢
  obtain ⟨read, before, place, rfl, -⟩ := Read.exists_isFirst_of_ofLine? hline hrule
  rw [read.entry?_statement, Option.some.injEq] at hstatement
  subst hstatement
  cases harguments : read.arguments with
  | none =>
    have haccessor : (read.entry file number).accessor =
        String.ofList (Accessor.optionalLead ++ read.word) :=
      congrArg String.ofList (read.accessor_of_none harguments)
    have hnone : (read.entry file number).arguments = none :=
      congrArg (Option.map String.ofList) harguments
    refine .inl ⟨?_, by simp [hnone], fun indexIsEnum => ?_⟩
    · rw [haccessor, ne_eq, Accessor.ofList_optionalLead_append_eq_iff]
      exact read.word_ne_nil
    · refine ⟨_, read.typeName_word_ne_empty indexIsEnum, ?_⟩
      rw [haccessor, Accessor.classify_optionalLead, hnone]
      rfl
  | some arguments =>
    have haccessor : (read.entry file number).accessor =
        String.ofList (Accessor.requiredLead ++ read.word) :=
      congrArg String.ofList (read.accessor_of_some harguments)
    have hsome : (read.entry file number).arguments = some (String.ofList arguments) :=
      congrArg (Option.map String.ofList) harguments
    rcases Read.word_eq_or_forall_ne_of_ofLine? hline harguments with hbare | hword
    · have hmaybe : (read.entry file number).accessor = "GetMaybe" := by
        rw [haccessor, hbare]
        rfl
      refine .inr ⟨hmaybe, by rw [hsome]; rfl, fun indexIsEnum => ?_⟩
      rw [haccessor, hbare, ← Accessor.optionalLead_eq, ← List.append_nil Accessor.optionalLead,
        Accessor.classify_optionalLead, Accessor.typeName_eq_empty_iff.mpr rfl]
    · refine .inl ⟨?_, ?_, fun indexIsEnum => ?_⟩
      · rw [haccessor, ne_eq, Accessor.ofList_requiredLead_append_eq_iff]
        simpa using hword []
      · rw [hsome, ne_eq, Option.some.injEq, String.ofList_eq_empty_iff]
        exact read.arguments_ne_nil arguments harguments
      · refine ⟨_, read.typeName_word_ne_empty indexIsEnum, ?_⟩
        rw [haccessor, Accessor.classify_requiredLead indexIsEnum hword, hsome]
        rfl

/-! ## The block of a scanned read -/

namespace Document

/-- The letter that a line of a block begins with tells what it is about. -/
def initial (note : String) : Option Char :=
  note.toList.head?

theorem initial_append (lead text : String) (hlead : lead ≠ "") :
    initial (lead ++ text) = initial lead := by
  have hne : lead.toList ≠ [] := by simpa using hlead
  rw [initial, initial, String.toList_append, List.head?_append_of_ne_nil _ hne]

theorem initial_of_mem_constraintNote {entry : Entry} {note : String}
    (hnote : note ∈ constraintNote entry) : initial note = some 'C' := by
  rw [constraintNote] at hnote
  split at hnote
  · cases hnote
  · rw [List.mem_singleton.mp hnote, String.append_assoc]
    exact initial_append _ _ (by decide)

theorem initial_of_mem_reloadNote {mode : ReloadMode} {note : String}
    (hnote : note ∈ reloadNote mode) : initial note = some 'R' := by
  cases mode <;> simp only [reloadNote, List.mem_singleton, List.not_mem_nil] at hnote <;>
    rw [hnote] <;> rfl

theorem mem_defaultNote_iff {variant : Variant} {entry : Entry} {note : String} :
    note ∈ defaultNote variant entry ↔
      entry.arguments.getD "" ≠ "" ∧
        note = "Default value: " ++ Argument.defaultValue variant.overrides variant.constants
          variant.listDefaults entry.key (entry.arguments.getD "") := by
  rw [defaultNote]
  split
  · next hempty => simp [hempty]
  · next hgiven =>
    rw [List.mem_singleton, and_iff_right hgiven]
    rfl

theorem initial_of_mem_defaultNote {variant : Variant} {entry : Entry} {note : String}
    (hnote : note ∈ defaultNote variant entry) : initial note = some 'D' := by
  rw [(mem_defaultNote_iff.mp hnote).2]
  exact initial_append _ _ (by decide)

theorem initial_of_mem_handlingNotes {variant : Variant} {entry : Entry} {type : KeyType}
    {facts : Facts} {note : String} (hnote : note ∈ handlingNotes variant entry type facts) :
    initial note = some 'O' ∨ initial note = some 'E' ∨
      type.optional = false ∧ note ∈ defaultNote variant entry := by
  rw [handlingNotes] at hnote
  split at hnote
  · rcases List.mem_cons.mp hnote with rfl | hmark
    · exact .inl rfl
    · split at hmark
      · rw [List.mem_singleton.mp hmark]
        exact .inr (.inl rfl)
      · cases hmark
  · next hrequired =>
    rcases List.mem_append.mp hnote with hdefault | hhandling
    · exact .inr (.inr ⟨by simpa using hrequired, hdefault⟩)
    · rw [List.mem_singleton.mp hhandling]
      split
      · exact .inr (.inl rfl)
      · exact .inr (.inl rfl)

section Attributes

variable {variant : Variant} {schema : Schema} {entry : Entry} {note : String}

theorem mem_attributes_iff :
    note ∈ (block variant schema entry).attributes ↔
      note = "Type: " ++ (Accessor.classify variant.indexIsEnum entry.accessor).display ∨
        note ∈ constraintNote entry ∨
        note ∈ handlingNotes variant entry (Accessor.classify variant.indexIsEnum entry.accessor)
          (schema.factsOf entry.key) ∨
        note ∈ reloadNote (schema.factsOf entry.key).reload := by
  rw [block, List.mem_append, List.cons_append, List.mem_cons, List.mem_append, or_assoc,
    or_assoc]
  rfl

/-- The notes about an entry that can begin with a letter. -/
def notesFrom (variant : Variant) (schema : Schema) (entry : Entry) : Char → List String
  | 'T' => ["Type: " ++ (Accessor.classify variant.indexIsEnum entry.accessor).display]
  | 'C' => constraintNote entry
  | 'O' | 'E' | 'D' =>
    handlingNotes variant entry (Accessor.classify variant.indexIsEnum entry.accessor)
      (schema.factsOf entry.key)
  | 'R' => reloadNote (schema.factsOf entry.key).reload
  | _ => []

theorem initial_of_mem_attributes (hnote : note ∈ (block variant schema entry).attributes) :
    ∃ letter, initial note = some letter ∧ note ∈ notesFrom variant schema entry letter := by
  rcases mem_attributes_iff.mp hnote with rfl | hconstraint | hhandling | hreload
  · exact ⟨'T', initial_append _ _ (by decide), List.mem_singleton.mpr rfl⟩
  · exact ⟨'C', initial_of_mem_constraintNote hconstraint, hconstraint⟩
  · rcases initial_of_mem_handlingNotes hhandling with hletter | hletter | ⟨-, hdefault⟩
    · exact ⟨'O', hletter, hhandling⟩
    · exact ⟨'E', hletter, hhandling⟩
    · exact ⟨'D', initial_of_mem_defaultNote hdefault, hhandling⟩
  · exact ⟨'R', initial_of_mem_reloadNote hreload, hreload⟩

theorem mem_attributes_of_mem_notesFrom {letter : Char}
    (hnote : note ∈ notesFrom variant schema entry letter) :
    note ∈ (block variant schema entry).attributes := by
  rw [mem_attributes_iff]
  unfold notesFrom at hnote
  split at hnote
  · exact .inl (List.mem_singleton.mp hnote)
  · exact .inr (.inl hnote)
  · exact .inr (.inr (.inl hnote))
  · exact .inr (.inr (.inl hnote))
  · exact .inr (.inr (.inl hnote))
  · exact .inr (.inr (.inr hnote))
  · cases hnote

/-- The letter that a line begins with tells where to look for it. -/
theorem mem_attributes_iff_of_initial {letter : Char} (hinitial : initial note = some letter) :
    note ∈ (block variant schema entry).attributes ↔
      note ∈ notesFrom variant schema entry letter := by
  refine ⟨fun hnote => ?_, mem_attributes_of_mem_notesFrom⟩
  obtain ⟨found, hfound, hmem⟩ := initial_of_mem_attributes hnote
  rw [hinitial, Option.some.injEq] at hfound
  exact hfound ▸ hmem

theorem exists_line_iff {lead : String} {letter : Char} (hlead : initial lead = some letter) :
    (∃ text, lead ++ text ∈ (block variant schema entry).attributes) ↔
      ∃ text, lead ++ text ∈ notesFrom variant schema entry letter := by
  have hne : lead ≠ "" := by
    rintro rfl
    cases hlead
  exact exists_congr fun text =>
    mem_attributes_iff_of_initial ((initial_append lead text hne).trans hlead)

theorem mem_attributes_iff_of_initial_T (hinitial : initial note = some 'T') :
    note ∈ (block variant schema entry).attributes ↔
      note = "Type: " ++ (Accessor.classify variant.indexIsEnum entry.accessor).display :=
  (mem_attributes_iff_of_initial hinitial).trans List.mem_singleton

/-- A line that begins with a `D` is the default value of a required read. -/
theorem mem_attributes_iff_of_initial_D (hinitial : initial note = some 'D') :
    note ∈ (block variant schema entry).attributes ↔
      (Accessor.classify variant.indexIsEnum entry.accessor).optional = false ∧
        note ∈ defaultNote variant entry := by
  refine (mem_attributes_iff_of_initial hinitial).trans ⟨fun hnote => ?_, ?_⟩
  · rcases initial_of_mem_handlingNotes hnote with hother | hother | hdefault
    · simp [hother] at hinitial
    · simp [hother] at hinitial
    · exact hdefault
  · rintro ⟨hrequired, hdefault⟩
    change note ∈ handlingNotes _ _ _ _
    rw [handlingNotes, if_neg (by simp [hrequired])]
    exact List.mem_append_left _ hdefault

theorem exists_defaultLine_iff :
    (∃ value, "Default value: " ++ value ∈ (block variant schema entry).attributes) ↔
      (Accessor.classify variant.indexIsEnum entry.accessor).optional = false ∧
        entry.arguments.getD "" ≠ "" := by
  have hinitial : ∀ value, initial ("Default value: " ++ value) = some 'D' := fun value =>
    initial_append _ _ (by decide)
  constructor
  · rintro ⟨value, hvalue⟩
    obtain ⟨hrequired, hdefault⟩ := (mem_attributes_iff_of_initial_D (hinitial value)).mp hvalue
    exact ⟨hrequired, (mem_defaultNote_iff.mp hdefault).1⟩
  · rintro ⟨hrequired, hgiven⟩
    exact ⟨_, (mem_attributes_iff_of_initial_D (hinitial _)).mpr
      ⟨hrequired, mem_defaultNote_iff.mpr ⟨hgiven, rfl⟩⟩⟩

theorem unknownLine_mem_iff :
    "Type: unknown" ∈ (block variant schema entry).attributes ↔
      (Accessor.classify variant.indexIsEnum entry.accessor).name = "" ∨
        (Accessor.classify variant.indexIsEnum entry.accessor).name = "unknown" := by
  have hunknown : "Type: unknown" = "Type: " ++ "unknown" := rfl
  rw [mem_attributes_iff_of_initial_T rfl, hunknown, String.append_right_inj, KeyType.display]
  split
  · next hname => simp [hname]
  · next hname => simp [hname, eq_comm]

end Attributes

end Document

/-- The types of scanned reads, and how the document shows them.  Every read is
recognised.  It has a type, is optional exactly if it has no arguments, and shows
the default value in its arguments, if and only if its accessor is not the bare
`GetMaybe`.  The document calls the type unknown for that accessor, and where the
type itself has this name. -/
theorem scanned_read_types (variant : Variant) (file text : String) (schema : Schema)
    (entry : Entry) (hentry : entry ∈ (scanText variant file text).entries) :
    (∀ indexIsEnum,
      (Accessor.classify indexIsEnum entry.accessor).recognized = true ∧
      ((Accessor.classify indexIsEnum entry.accessor).name ≠ "" ↔ entry.accessor ≠ "GetMaybe") ∧
      (((Accessor.classify indexIsEnum entry.accessor).optional = true ↔ entry.arguments = none) ↔
        entry.accessor ≠ "GetMaybe")) ∧
    (entry.arguments ≠ none →
      ((∃ value, "Default value: " ++ value ∈ (Document.block variant schema entry).attributes) ↔
        entry.accessor ≠ "GetMaybe")) ∧
    ("Type: unknown" ∈ (Document.block variant schema entry).attributes ↔
      entry.accessor = "GetMaybe" ∨
        (Accessor.classify variant.indexIsEnum entry.accessor).name = "unknown") := by
  rw [Document.exists_defaultLine_iff, Document.unknownLine_mem_iff]
  rcases classify_of_mem_entries hentry with ⟨haccessor, hgiven, htype⟩ | ⟨haccessor, hsome, htype⟩
  · refine ⟨fun indexIsEnum => ?_, fun harguments => ?_, ?_⟩
    · obtain ⟨name, hname, hclass⟩ := htype indexIsEnum
      simp [hclass, hname, haccessor]
    · obtain ⟨name, hname, hclass⟩ := htype variant.indexIsEnum
      obtain ⟨arguments, hsome⟩ := Option.ne_none_iff_exists'.mp harguments
      simp_all
    · obtain ⟨name, hname, hclass⟩ := htype variant.indexIsEnum
      simp [hclass, hname, haccessor]
  · have hgiven : entry.arguments ≠ none := Option.isSome_iff_ne_none.mp hsome
    refine ⟨fun indexIsEnum => ?_, fun _ => ?_, ?_⟩
    · rw [htype indexIsEnum]
      simp [haccessor, hgiven]
    · rw [htype variant.indexIsEnum]
      simp [haccessor]
    · rw [htype variant.indexIsEnum]
      simp [haccessor]

def bareEntry : Entry :=
  ⟨"k", "GetMaybe", some "1", "src/net.cpp", 1⟩

/-- The bare `GetMaybe` with arguments is scanned as a required read, and shown
without its default value and without a type. -/
theorem scanned_read_types_bare :
    bareEntry ∈ (scanText Variant.config "src/net.cpp" "CFG->GetMaybe(\"k\", 1);").entries ∧
      ¬ (∃ value, "Default value: " ++ value ∈
        (Document.block Variant.config {} bareEntry).attributes) ∧
      "Type: unknown" ∈ (Document.block Variant.config {} bareEntry).attributes := by
  have hentry :
      bareEntry ∈ (scanText Variant.config "src/net.cpp" "CFG->GetMaybe(\"k\", 1);").entries := by
    decide +kernel
  obtain ⟨-, hdefault, hunknown⟩ := scanned_read_types _ _ _ {} _ hentry
  refine ⟨hentry, fun hshown => ?_, hunknown.mpr (.inl rfl)⟩
  exact (hdefault (by decide)).mp hshown rfl

end ConfigReference
