import ConfigReference.Proofs.Aggregation
import ConfigReference.Proofs.ReadTypes

/-!
# Texts of one line

A line of a source holds no line feed, so neither does the key, the accessor or
the arguments of a read in it.  The notes about the read are made of pieces of
these, of fixed words, and of texts that the variant gives; if those hold no line
feed, then every note is one line of the document.
-/

namespace ConfigReference

/-! ## Lower case -/

namespace Text

variable {c : Char} {text : List Char}

theorem eq_of_ofNat_eq_lineFeed {code : Nat} (hcode : Char.ofNat code = '\n') : code = 10 := by
  by_cases hvalid : code.isValidChar
  · have hchar : Char.ofNat code = Char.ofNatAux code hvalid := dif_pos hvalid
    exact congrArg Char.toNat (hchar.symm.trans hcode)
  · have hchar : Char.ofNat code = Char.ofNat 0 := dif_neg hvalid
    exact absurd (hchar.symm.trans hcode) (by decide)

theorem lowerChar_ne_lineFeed (hc : c ≠ '\n') : lowerChar c ≠ '\n' := by
  rw [lowerChar]
  split
  · next run hrun =>
    have hbeyond : (10 : Int) < run.first + run.offset := by
      have hall : lowerRuns.all (fun run => decide ((10 : Int) < run.first + run.offset)) = true :=
        by decide +kernel
      exact of_decide_eq_true (List.all_eq_true.mp hall run (List.mem_of_find?_eq_some hrun))
    have hcovers := List.find?_some hrun
    simp only [CaseRun.covers, Bool.and_eq_true, decide_eq_true_eq] at hcovers
    intro heq
    have hcode := eq_of_ofNat_eq_lineFeed heq
    omega
  · exact hc

theorem lineFeed_not_mem_lowerAfter (before : List Char) (htext : '\n' ∉ text) :
    '\n' ∉ lowerAfter before text := by
  induction text generalizing before with
  | nil => simp [lowerAfter]
  | cons c rest ih =>
    rw [List.mem_cons, not_or] at htext
    have hfirst : '\n' ∉ lowerBetween before c rest := by
      rw [lowerBetween]
      split_ifs
      · decide
      · decide
      · decide
      · rw [List.mem_singleton]
        exact fun heq => lowerChar_ne_lineFeed (Ne.symm htext.1) heq.symm
    rw [lowerAfter, List.mem_append, not_or]
    exact ⟨hfirst, ih (c :: before) htext.2⟩

end Text

/-! ## Arguments -/

namespace Argument

open Text

variable {c : Char} {constants overrides : Table String String} {argument arguments : List Char}

theorem mem_of_mem_split {part : List Char} (hpart : part ∈ split arguments) (hc : c ∈ part) :
    c ∈ arguments := by
  obtain ⟨piece, hpiece, rfl⟩ := List.mem_map.mp hpart
  exact mem_of_mem_splitAt hpiece (mem_of_mem_trim hc)

theorem mem_of_mem_dropQuotes (hc : c ∈ dropQuotes argument) : c ∈ argument := by
  have hclosed : ∀ opened : List Char,
      c ∈ (if opened.getLast? = some '\"' then opened.dropLast else opened) → c ∈ opened := by
    intro opened hmem
    split at hmem
    · exact (List.dropLast_sublist opened).mem hmem
    · exact hmem
  have hopened := hclosed _ hc
  split at hopened
  · exact List.mem_cons_of_mem _ hopened
  · exact hopened

theorem lineFeed_not_mem_toString (number : Nat) : '\n' ∉ (toString number).toList := by
  intro hmem
  change '\n' ∈ number.repr.toList at hmem
  rw [Nat.repr_eq_ofList_toDigits, String.toList_ofList] at hmem
  exact absurd (Nat.isDigit_of_mem_toDigits (by decide) (by decide) hmem) (by decide)

theorem lineFeed_not_mem_value (hconstants : ∀ pair ∈ constants.entries, '\n' ∉ pair.2.toList)
    (hargument : '\n' ∉ argument) : '\n' ∉ (value constants argument).toList := by
  rw [value]
  split_ifs
  · decide
  · decide
  · split
    · next numeral hnumeral =>
      rw [hexValue?] at hnumeral
      split at hnumeral
      · rw [Option.ite_none_right_eq_some] at hnumeral
        rw [← Option.some.inj hnumeral.2]
        exact lineFeed_not_mem_toString _
      · cases hnumeral
    · split
      · next meaning hmeaning => exact hconstants _ (Table.mem_entries_of_find? hmeaning)
      · rw [String.toList_ofList]
        exact fun hmem => hargument (mem_of_mem_dropQuotes hmem)

theorem lineFeed_not_mem_braceList? {items : String} (harguments : '\n' ∉ arguments)
    (hitems : braceList? arguments = some items) : '\n' ∉ items.toList := by
  rw [braceList?, Option.ite_none_right_eq_some] at hitems
  obtain ⟨-, hitems⟩ := hitems
  split at hitems
  · cases hitems
  · next brace inside hinside =>
    rw [← Option.some.inj hitems]
    split
    · decide
    · rw [String.toList_ofList]
      intro hmem
      rcases mem_joinWith hmem with hblank | ⟨item, hitem, hmem⟩
      · exact absurd hblank (by decide)
      · have hpart := mem_of_mem_split (List.mem_filter.mp hitem).1 hmem
        apply harguments
        apply (List.dropWhile_sublist _).mem
        rw [hinside]
        exact List.mem_cons_of_mem brace ((List.dropLast_sublist inside).mem hpart)

theorem lineFeed_not_mem_defaultValue {lists : Bool} {key arguments : String}
    (hoverrides : ∀ pair ∈ overrides.entries, '\n' ∉ pair.2.toList)
    (hconstants : ∀ pair ∈ constants.entries, '\n' ∉ pair.2.toList)
    (harguments : '\n' ∉ arguments.toList) :
    '\n' ∉ (defaultValue overrides constants lists key arguments).toList := by
  have htrim : '\n' ∉ trim arguments.toList := fun hmem => harguments (mem_of_mem_trim hmem)
  rw [defaultValue]
  split
  · next description hfound => exact hoverrides _ (Table.mem_entries_of_find? hfound)
  · rw [lastValue]
    split
    · next items hitems =>
      rw [Option.ite_none_right_eq_some] at hitems
      exact lineFeed_not_mem_braceList? htrim hitems.2
    · apply lineFeed_not_mem_value hconstants
      cases hlast : (split (trim arguments.toList)).getLast? with
      | none => simp
      | some last =>
        exact fun hmem => htrim (mem_of_mem_split (List.mem_of_getLast? hlast) hmem)

theorem lineFeed_not_mem_lengthBounds {accessor arguments bound : String}
    (harguments : '\n' ∉ arguments.toList) (hbound : bound ∈ lengthBounds accessor arguments) :
    '\n' ∉ bound.toList := by
  rw [lengthBounds] at hbound
  split at hbound
  · split at hbound
    · next least greatest third rest hsplit =>
      have hpiece : ∀ piece ∈ split arguments.toList, '\n' ∉ (String.ofList piece).toList := by
        intro piece hpiece
        rw [String.toList_ofList]
        exact fun hmem => harguments (mem_of_mem_split hpiece hmem)
      rw [hsplit] at hpiece
      rcases List.mem_pair.mp hbound with rfl | rfl
      · exact lineFeed_not_mem_append (by decide) (hpiece least (by simp))
      · exact lineFeed_not_mem_append (by decide) (hpiece greatest (by simp))
    · cases hbound
  · cases hbound

end Argument

/-! ## Scanned reads -/

/-- A read whose parts hold no line feed. -/
structure Entry.OneLine (entry : Entry) : Prop where
  key : '\n' ∉ entry.key.toList
  accessor : '\n' ∉ entry.accessor.toList
  arguments : '\n' ∉ (entry.arguments.getD "").toList

theorem Read.oneLine_entry {read : Read} (htext : '\n' ∉ read.text) (file : String)
    (number : Nat) : (read.entry file number).OneLine := by
  rw [Read.text] at htext
  simp only [List.mem_append, not_or] at htext
  obtain ⟨⟨⟨haccessor, -⟩, hkey⟩, harguments⟩ := htext
  refine ⟨?_, ?_, ?_⟩
  · rwa [Read.entry, String.toList_ofList]
  · rwa [Read.entry, String.toList_ofList]
  · rw [Read.entry]
    cases hgiven : read.arguments with
    | none => simp
    | some arguments =>
      simp only [hgiven, List.mem_append, not_or] at harguments
      simpa using harguments.1.2

/-- What is read in a line is on that line. -/
theorem oneLine_of_mem_entries {variant : Variant} {file text : String} {entry : Entry}
    (hentry : entry ∈ (scanText variant file text).entries) : entry.OneLine := by
  obtain ⟨line, statement, number, hmem, hline, hstatement⟩ :=
    mem_entries_scanText variant file hentry
  have hrule : statement.rule = .optional ∨ statement.rule = .required := by
    cases statement <;> simp [Statement.entry?, Statement.rule] at hstatement ⊢
  obtain ⟨read, before, place, rfl, hfirst⟩ := Read.exists_isFirst_of_ofLine? hline hrule
  rw [read.entry?_statement, Option.some.injEq] at hstatement
  subst hstatement
  apply Read.oneLine_entry
  intro htext
  obtain ⟨separator, behind, -, hcut⟩ := hfirst.standsIn
  have htrim : '\n' ∈ Text.trim line := by
    rw [hcut]
    simp [htext]
  exact Text.lineFeed_not_mem_of_mem_lines hmem (Text.mem_of_mem_trim htrim)

/-! ## Notes -/

/-- A variant whose own texts hold no line feed. -/
structure Variant.OneLine (variant : Variant) : Prop where
  title : '\n' ∉ variant.title.toList
  noun : '\n' ∉ variant.noun.toList
  overrides : ∀ pair ∈ variant.overrides.entries, '\n' ∉ pair.2.toList
  constants : ∀ pair ∈ variant.constants.entries, '\n' ∉ pair.2.toList

theorem Accessor.lineFeed_not_mem_display {indexIsEnum : Bool} {accessor : String}
    (haccessor : '\n' ∉ accessor.toList) :
    '\n' ∉ (classify indexIsEnum accessor).display.toList := by
  have htype : ∀ {lead rest : List Char}, Text.after? lead accessor.toList = some rest →
      '\n' ∉ (typeName indexIsEnum rest).toList := by
    intro lead rest hrest
    have hlower : '\n' ∉ Text.lower rest := by
      apply Text.lineFeed_not_mem_lowerAfter
      rw [Text.after?_eq_some_iff.mp hrest] at haccessor
      exact fun hmem => haccessor (List.mem_append_right lead hmem)
    rw [typeName]
    split
    · decide
    · rwa [String.toList_ofList]
  have hname : '\n' ∉ (classify indexIsEnum accessor).name.toList := by
    rw [classify]
    split
    · next rest hrest => exact htype hrest
    · split
      · next rest hrest => exact htype hrest
      · decide
  rw [KeyType.display]
  split
  · decide
  · exact hname

namespace Document

variable {variant : Variant} {schema : Schema} {entry : Entry} {note : String}

theorem lineFeed_not_mem_constraintNote (hentry : entry.OneLine)
    (hnote : note ∈ constraintNote entry) : '\n' ∉ note.toList := by
  rw [constraintNote] at hnote
  split at hnote
  · cases hnote
  · rw [List.mem_singleton.mp hnote]
    refine Text.lineFeed_not_mem_append (Text.lineFeed_not_mem_append (by decide) ?_) (by decide)
    change '\n' ∉ (Text.joined _ _).toList
    rw [Text.joined, String.toList_ofList]
    intro hmem
    rcases Text.mem_joinWith hmem with hbetween | ⟨part, hpart, hmem⟩
    · exact absurd hbetween (by decide)
    · obtain ⟨bound, hbound, rfl⟩ := List.mem_map.mp hpart
      exact Argument.lineFeed_not_mem_lengthBounds hentry.arguments hbound hmem

theorem lineFeed_not_mem_defaultNote (hvariant : variant.OneLine) (hentry : entry.OneLine)
    (hnote : note ∈ defaultNote variant entry) : '\n' ∉ note.toList := by
  rw [(mem_defaultNote_iff.mp hnote).2]
  exact Text.lineFeed_not_mem_append (by decide)
    (Argument.lineFeed_not_mem_defaultValue hvariant.overrides hvariant.constants
      hentry.arguments)

theorem lineFeed_not_mem_handlingNotes (hvariant : variant.OneLine) (hentry : entry.OneLine)
    {type : KeyType} {facts : Facts} (hnote : note ∈ handlingNotes variant entry type facts) :
    '\n' ∉ note.toList := by
  rw [handlingNotes] at hnote
  split_ifs at hnote
  · rcases List.mem_pair.mp hnote with rfl | rfl
    · decide
    · decide
  · rw [List.mem_singleton.mp hnote]
    decide
  · rcases List.mem_append.mp hnote with hdefault | hhandling
    · exact lineFeed_not_mem_defaultNote hvariant hentry hdefault
    · rw [List.mem_singleton.mp hhandling]
      decide
  · rcases List.mem_append.mp hnote with hdefault | hhandling
    · exact lineFeed_not_mem_defaultNote hvariant hentry hdefault
    · rw [List.mem_singleton.mp hhandling]
      decide

theorem lineFeed_not_mem_reloadNote {mode : ReloadMode} (hnote : note ∈ reloadNote mode) :
    '\n' ∉ note.toList := by
  cases mode <;> simp only [reloadNote, List.mem_singleton, List.not_mem_nil] at hnote <;>
    rw [hnote] <;> decide

/-- Every note about a read is one line. -/
theorem lineFeed_not_mem_attributes (hvariant : variant.OneLine) (hentry : entry.OneLine)
    (hnote : note ∈ (block variant schema entry).attributes) : '\n' ∉ note.toList := by
  rcases mem_attributes_iff.mp hnote with rfl | hconstraint | hhandling | hreload
  · exact Text.lineFeed_not_mem_append (by decide)
      (Accessor.lineFeed_not_mem_display hentry.accessor)
  · exact lineFeed_not_mem_constraintNote hentry hconstraint
  · exact lineFeed_not_mem_handlingNotes hvariant hentry hhandling
  · exact lineFeed_not_mem_reloadNote hreload

end Document

end ConfigReference
