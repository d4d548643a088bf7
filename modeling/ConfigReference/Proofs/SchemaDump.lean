import ConfigReference.Proofs.FileOrder
import ConfigReference.Proofs.JsonSpelling

/-!
# A written schema is read back

A schema that was collected from sources can be written as JSON and read again
without loss: the order of the keys, absent arguments and every character of keys,
arguments and file names survive.  The records are read back part by part, and the
text is read back because it is one of the spellings of its value.
-/

namespace ConfigReference

open Json (Reading)

/-! ## Tables -/

namespace Table

variable {κ α : Type} [DecidableEq κ]

theorem write_of_not_mem {key : κ} {pairs : List (κ × α)} (hkey : key ∉ pairs.map Prod.fst)
    (value : α) : write key value pairs = pairs ++ [(key, value)] := by
  induction pairs with
  | nil => rfl
  | cons pair rest ih =>
    obtain ⟨name, old⟩ := pair
    simp only [List.map_cons, List.mem_cons, not_or] at hkey
    rw [write, if_neg fun heq => hkey.1 heq.symm, ih hkey.2, List.cons_append]

/-- Distinct keys are filed one behind the other. -/
theorem entries_foldl_insert {pairs : List (κ × α)} (table : Table κ α)
    (hnodup : ((table.entries ++ pairs).map Prod.fst).Nodup) :
    (pairs.foldl (fun table pair => table.insert pair.1 pair.2) table).entries =
      table.entries ++ pairs := by
  induction pairs generalizing table with
  | nil => rw [List.foldl_nil, List.append_nil]
  | cons pair rest ih =>
    have hfresh : pair.1 ∉ table.entries.map Prod.fst := by
      intro hmem
      rw [List.map_append, List.nodup_append] at hnodup
      exact hnodup.2.2 pair.1 hmem pair.1 (by simp) rfl
    have hentries : (table.insert pair.1 pair.2).entries = table.entries ++ [pair] :=
      write_of_not_mem hfresh pair.2
    have hsplit : table.entries ++ pair :: rest = table.entries ++ [pair] ++ rest := by simp
    rw [List.foldl_cons, ih _ (by rwa [hentries, ← hsplit]), hentries, ← hsplit]

theorem ofList_entries (table : Table κ α) : ofList table.entries = table :=
  Table.ext (entries_foldl_insert empty table.distinct)

end Table

/-! ## Readings -/

namespace Json

variable {α : Type} {read : Json → Reading α} {write : α → Json}

theorem readItems_map (hread : ∀ value, read (write value) = .ok value) (index : Nat)
    (values : List α) : readItems read index (values.map write) = .ok values := by
  induction values generalizing index with
  | nil => rfl
  | cons value values ih =>
    rw [List.map_cons, readItems, hread, ih]
    rfl

theorem readList_map (hread : ∀ value, read (write value) = .ok value) (values : List α) :
    readList read (.list (values.map write)) = .ok values :=
  readItems_map hread 0 values

theorem readPairs_map (hread : ∀ value, read (write value) = .ok value)
    (pairs : List (String × α)) :
    readPairs read (pairs.map fun pair => (pair.1, write pair.2)) = .ok pairs := by
  induction pairs with
  | nil => rfl
  | cons pair pairs ih =>
    rw [List.map_cons, readPairs, hread, ih]
    rfl

theorem readTable_map (hread : ∀ value, read (write value) = .ok value)
    (table : Table String α) :
    readTable read (.object (table.entries.map fun pair => (pair.1, write pair.2))) =
      .ok table := by
  rw [readTable, readPairs_map hread]
  exact congrArg Except.ok table.ofList_entries

end Json

theorem Facts.ofJson_toJson (facts : Facts) : ofJson facts.toJson = .ok facts := by
  obtain ⟨reload, failFast⟩ := facts
  cases reload <;> rfl

theorem Entry.ofJson_toJson (entry : Entry) : ofJson entry.toJson = .ok entry := by
  obtain ⟨key, accessor, arguments, file, line⟩ := entry
  cases arguments <;> rfl

theorem Diagnostic.ofJson_toJson (diagnostic : Diagnostic) :
    ofJson diagnostic.toJson = .ok diagnostic := by
  obtain ⟨kind, message, file, line, key⟩ := diagnostic
  cases kind <;> cases key <;> rfl

/-! ## Limits -/

theorem Json.fits_optionalText (depth : Nat) (text : Option String) :
    Json.Fits depth (Json.optionalText text) := by
  cases text <;> simp [Json.optionalText, Json.Fits]

theorem Facts.fits_toJson (facts : Facts) (depth : Nat) : Json.Fits (depth + 1) facts.toJson := by
  simp [Facts.toJson, Json.Fits]

theorem Entry.fits_toJson {entry : Entry} (hline : entry.line.natAbs < 10 ^ Json.digitLimit)
    (depth : Nat) : Json.Fits (depth + 1) entry.toJson := by
  simp [Entry.toJson, Json.Fits, Json.fits_optionalText, hline]

theorem Diagnostic.fits_toJson {diagnostic : Diagnostic}
    (hline : diagnostic.line.natAbs < 10 ^ Json.digitLimit) (depth : Nat) :
    Json.Fits (depth + 1) diagnostic.toJson := by
  simp [Diagnostic.toJson, Diagnostic.members, Json.Fits, Json.fits_optionalText, hline]

namespace Schema

theorem ofJson_toJson (schema : Schema) : ofJson schema.toJson = .ok schema := by
  have hentries := Json.readList_map Entry.ofJson_toJson schema.entries
  have hfacts := Json.readTable_map Facts.ofJson_toJson schema.facts
  have hdiagnostics := Json.readList_map Diagnostic.ofJson_toJson schema.diagnostics
  have hstring : ∀ text, Json.readString (.string text) = .ok text := fun _ => rfl
  have hfiles := Json.readList_map hstring schema.files
  have hreading : ofJson schema.toJson =
      Schema.mk <$> Reading.within (.member "entries")
          (Json.readList Entry.ofJson (.list (schema.entries.map Entry.toJson)))
        <*> Reading.within (.member "metadata") (Json.readTable Facts.ofJson
          (.object (schema.facts.entries.map fun pair => (pair.1, pair.2.toJson))))
        <*> Reading.within (.member "diagnostics") (Json.readList Diagnostic.ofJson
          (.list (schema.diagnostics.map Diagnostic.toJson)))
        <*> Reading.within (.member "source_files")
          (Json.readList Json.readString (.list (schema.files.map .string))) := rfl
  rw [hreading, hentries, hfacts, hdiagnostics, hfiles]
  rfl

/-- The limits of the reader only matter for the numbers of lines. -/
theorem fits_toJson {schema : Schema}
    (hentries : ∀ entry ∈ schema.entries, entry.line.natAbs < 10 ^ Json.digitLimit)
    (hdiagnostics : ∀ diagnostic ∈ schema.diagnostics,
      diagnostic.line.natAbs < 10 ^ Json.digitLimit) (depth : Nat) :
    Json.Fits (depth + 3) schema.toJson := by
  intro member hmember
  simp only [List.mem_cons, List.not_mem_nil, or_false] at hmember
  rcases hmember with rfl | rfl | rfl | rfl
  · intro item hitem
    obtain ⟨entry, hentry, rfl⟩ := List.mem_map.mp hitem
    exact Entry.fits_toJson (hentries entry hentry) depth
  · intro item hitem
    obtain ⟨pair, -, rfl⟩ := List.mem_map.mp hitem
    exact pair.2.fits_toJson depth
  · intro item hitem
    obtain ⟨diagnostic, hdiagnostic, rfl⟩ := List.mem_map.mp hitem
    exact Diagnostic.fits_toJson (hdiagnostics diagnostic hdiagnostic) depth
  · intro item hitem
    obtain ⟨file, -, rfl⟩ := List.mem_map.mp hitem
    simp [Json.Fits]

theorem readText_toIndented {schema : Schema}
    (hentries : ∀ entry ∈ schema.entries, entry.line.natAbs < 10 ^ Json.digitLimit)
    (hdiagnostics : ∀ diagnostic ∈ schema.diagnostics,
      diagnostic.line.natAbs < 10 ^ Json.digitLimit) :
    Json.readText ofJson schema.toJson.toIndented = .ok schema := by
  have hfits : Json.Fits Json.nestingLimit schema.toJson :=
    fits_toJson hentries hdiagnostics 197
  rw [Json.readText, Json.toIndented, String.toList_ofList, Json.parse?_indented hfits]
  exact ofJson_toJson schema

end Schema

/-! ## Scanned sources -/

section Lines

variable (variant : Variant) {sources : List (String × String)}

theorem length_statements (text : String) :
    (statements variant text).length = (Text.lines text.toList).length := by
  rw [statements, List.length_map]

/-- No entry has a line number beyond the lines of its text. -/
theorem exists_source_of_mem_entries {entry : Entry}
    (hentry : entry ∈ (Schema.ofScans (scanSources variant sources)).entries) :
    ∃ source ∈ sources, entry.line.natAbs ≤ (Text.lines source.2.toList).length := by
  rw [Schema.entries_ofScans, scanSources, List.flatMap_map, List.mem_flatMap] at hentry
  obtain ⟨source, hsource, hmem⟩ := hentry
  rw [scanText, ScanState.entries_finish] at hmem
  obtain ⟨i, hline, hread⟩ := exists_holdsAt_of_mem_entries variant source.1 _ hmem
  have hlt := hread.lt_length
  rw [length_statements] at hlt
  exact ⟨source, hsource, by omega⟩

theorem exists_source_of_mem_diagnostics {diagnostic : Diagnostic}
    (hdiagnostic : diagnostic ∈ (Schema.ofScans (scanSources variant sources)).diagnostics) :
    ∃ source ∈ sources, diagnostic.line.natAbs ≤ (Text.lines source.2.toList).length := by
  rw [Schema.diagnostics_ofScans, scanSources, List.flatMap_map, List.mem_flatMap] at hdiagnostic
  obtain ⟨source, hsource, hmem⟩ := hdiagnostic
  rw [scanText, ScanState.diagnostics_finish, diagnostics_scanStatements, List.mem_map] at hmem
  obtain ⟨i, hi, rfl⟩ := hmem
  have hlt : i < (statements variant source.2).length :=
    List.mem_range.mp (List.mem_filter.mp hi).1
  have hline : (Diagnostic.orphaned source.1 (i + 1)).line = (i : Int) + 1 := rfl
  rw [length_statements] at hlt
  exact ⟨source, hsource, by omega⟩

end Lines

/-- The schema of any sources is read back from its dump.  The reader refuses numbers
of more than 4300 digits, so no text may have so many lines that their number is
longer; no machine holds such a text. -/
theorem scanned_schema_reads_back (variant : Variant) (sources : List (String × String))
    (hlines : ∀ source ∈ sources,
      (Text.lines source.2.toList).length < 10 ^ Json.digitLimit) :
    Json.readText Schema.ofJson
        (Schema.ofScans (scanSources variant sources)).toJson.toIndented =
      .ok (Schema.ofScans (scanSources variant sources)) := by
  apply Schema.readText_toIndented
  · intro entry hentry
    obtain ⟨source, hsource, hline⟩ := exists_source_of_mem_entries variant hentry
    exact Nat.lt_of_le_of_lt hline (hlines source hsource)
  · intro diagnostic hdiagnostic
    obtain ⟨source, hsource, hline⟩ := exists_source_of_mem_diagnostics variant hdiagnostic
    exact Nat.lt_of_le_of_lt hline (hlines source hsource)

/-- Quotes, backslashes, controls and characters beyond ASCII in names, keys and
arguments, and an orphan. -/
def unrulySources : List (String × String) :=
  [("src/\"a\"\\.cpp",
    "CFG->FailIfErrorLast();\nCFG->GetString(\"k\\\x01ü😀\", 1, \"a\\\"\tb\");"),
   ("é.cpp", "CFG->GetMaybeBool(\"\x7f\");")]

theorem scanned_schema_reads_back_unruly :
    (Schema.ofScans (scanSources Variant.config unrulySources)).entries =
        [⟨"k\\\x01ü😀", "GetString", some "1, \"a\\\"\tb\"", "src/\"a\"\\.cpp", 2⟩,
         ⟨"\x7f", "GetMaybeBool", none, "é.cpp", 1⟩] ∧
      Json.readText Schema.ofJson
          (Schema.ofScans (scanSources Variant.config unrulySources)).toJson.toIndented =
        .ok (Schema.ofScans (scanSources Variant.config unrulySources)) := by
  refine ⟨by decide +kernel, scanned_schema_reads_back Variant.config unrulySources ?_⟩
  have hcounts : ∀ source ∈ unrulySources, (Text.lines source.2.toList).length ≤ 2 := by
    decide +kernel
  intro source hsource
  calc (Text.lines source.2.toList).length ≤ 2 := hcounts source hsource
    _ < 10 ^ 1 := by decide
    _ ≤ 10 ^ Json.digitLimit := Nat.pow_le_pow_right (by decide) (by decide)

end ConfigReference
