import ConfigReference.Proofs.Generation
import ConfigReference.Proofs.ReadTypes

/-!
# What a summary says

The numbers of a summary come from different places: the entries from the scans,
the keys from the entries, the files from the merged schema, the blocks from the
document.  After a generation that ends well they all agree with the texts that
were read, and the diagnostics are the orphans of these texts.
-/

namespace ConfigReference

/-! ## Lines with a read -/

/-- The lines of a text on which one of the rules for reads decides. -/
def readLines (variant : Variant) (text : String) : List (List Char) :=
  (Text.lines text.toList).filter fun line =>
    Rule.fired? variant line = some .optional ∨ Rule.fired? variant line = some .required

theorem isSome_readKey?_iff {variant : Variant} {line : List Char} :
    ((Statement.ofLine? variant line).bind Statement.readKey?).isSome = true ↔
      Rule.fired? variant line = some .optional ∨ Rule.fired? variant line = some .required := by
  rw [Rule.fired?]
  cases Statement.ofLine? variant line with
  | none => simp
  | some statement => cases statement <;> simp [Statement.readKey?, Statement.rule]

theorem length_textKeys (variant : Variant) (text : String) :
    (textKeys variant text).length = (readLines variant text).length := by
  rw [textKeys, readKeys, statements, List.filterMap_map, List.length_filterMap_eq_countP,
    readLines, ← List.countP_eq_length_filter]
  refine List.countP_congr fun line _ => ?_
  rw [decide_eq_true_eq, ← isSome_readKey?_iff]
  rfl

section Scan

variable (variant : Variant) (file text : String)

theorem file_scanText : (scanText variant file text).file = file :=
  file_scanStatements variant file _

theorem length_entries_scanText :
    (scanText variant file text).entries.length = (readLines variant text).length := by
  rw [← length_textKeys, ← map_key_entries_scanText variant file, List.length_map]

theorem diagnostics_scanText :
    (scanText variant file text).diagnostics =
      (orphanLines (statements variant text)).map fun i => Diagnostic.orphaned file (i + 1) := by
  rw [scanText, ScanState.diagnostics_finish, diagnostics_scanStatements]

theorem mem_keys_scanText_iff {key : String} (hkey : key ≠ "") :
    key ∈ (scanText variant file text).facts.keys ↔ key ∈ textKeys variant text := by
  rw [scanText, ScanState.facts_finish, mem_keys_scanStatements_iff variant file _ hkey, textKeys]

end Scan

/-! ## The schema of the sources -/

section Sources

variable (variant : Variant) (sources : List (String × String))

theorem map_key_entries_scanSources :
    (Schema.ofScans (scanSources variant sources)).entries.map Entry.key =
      sources.flatMap fun source => textKeys variant source.2 := by
  rw [Schema.entries_ofScans, scanSources, List.flatMap_map, List.map_flatMap]
  simp only [map_key_entries_scanText]

theorem length_entries_scanSources :
    (Schema.ofScans (scanSources variant sources)).entries.length =
      (sources.flatMap fun source => readLines variant source.2).length := by
  rw [Schema.entries_ofScans, scanSources, List.flatMap_map]
  induction sources with
  | nil => rfl
  | cons source rest ih =>
    rw [List.flatMap_cons, List.flatMap_cons, List.length_append, List.length_append, ih,
      length_entries_scanText]

theorem files_scanSources :
    (Schema.ofScans (scanSources variant sources)).files = sources.map Prod.fst := by
  rw [Schema.files_ofScans, scanSources, List.map_map]
  exact List.map_congr_left fun source _ => file_scanText variant source.1 source.2

/-- The diagnostics of a schema are the orphans, file by file and line by line. -/
theorem diagnostics_scanSources :
    (Schema.ofScans (scanSources variant sources)).diagnostics =
      sources.flatMap fun source =>
        (orphanLines (statements variant source.2)).map fun i =>
          Diagnostic.orphaned source.1 (i + 1) := by
  rw [Schema.diagnostics_ofScans, scanSources, List.flatMap_map]
  simp only [diagnostics_scanText]

/-- The keys that are read are those with facts, but for the empty one. -/
theorem mem_keys_scanSources_iff {key : String} :
    (key ∈ (Schema.ofScans (scanSources variant sources)).facts.keys ∧ key ≠ "") ↔
      key ∈ (Schema.ofScans (scanSources variant sources)).entries.map Entry.key := by
  rw [Schema.keys_facts_ofScans, List.mem_eraseDups, scanSources, List.flatMap_map,
    List.mem_flatMap, ← scanSources, map_key_entries_scanSources, List.mem_flatMap]
  constructor
  · rintro ⟨⟨source, hsource, hmem⟩, hkey⟩
    exact ⟨source, hsource, (mem_keys_scanText_iff variant source.1 source.2 hkey).mp hmem⟩
  · rintro ⟨source, hsource, hmem⟩
    have hkey : key ≠ "" := by
      rintro rfl
      exact empty_not_mem_readKeys_statements variant source.2 hmem
    have hnoted := (mem_keys_scanText_iff variant source.1 source.2 hkey).mpr hmem
    exact ⟨⟨source, hsource, hnoted⟩, hkey⟩

theorem keyCount_scanSources :
    (Schema.ofScans (scanSources variant sources)).keyCount =
      ((Schema.ofScans (scanSources variant sources)).facts.keys.filter (· ≠ "")).length := by
  apply List.Perm.length_eq
  rw [List.perm_ext_iff_of_nodup (nodup_eraseDups _) ((Table.nodup_keys _).filter _)]
  intro key
  rw [List.mem_eraseDups, List.mem_filter, decide_eq_true_eq, mem_keys_scanSources_iff]

/-- The accessor of every scanned read says what it reads. -/
theorem diagnostics_document_scanSources :
    Document.diagnostics variant (Schema.ofScans (scanSources variant sources)) = [] := by
  rw [Document.diagnostics, List.filterMap_eq_nil_iff]
  intro entry hentry
  obtain ⟨source, -, hmem⟩ := exists_source_of_mem_document hentry
  have hrecognized : (Accessor.classify variant.indexIsEnum entry.accessor).recognized = true := by
    rcases classify_of_mem_entries hmem with ⟨-, -, htype⟩ | ⟨-, -, htype⟩
    · obtain ⟨name, -, hclass⟩ := htype variant.indexIsEnum
      rw [hclass]
    · rw [htype variant.indexIsEnum]
  rw [if_pos hrecognized]

end Sources

/-- The document leaves out the entries with an excluded key and no others. -/
theorem Document.length_entries_add (variant : Variant) (schema : Schema) :
    (entries variant schema).length +
        (schema.entries.filter fun entry => variant.excludes entry.key).length =
      schema.entries.length := by
  rw [(entries_perm variant schema).length_eq, retained, ← List.countP_eq_length_filter,
    ← List.countP_eq_length_filter, Nat.add_comm]
  rw [List.length_eq_countP_add_countP fun entry : Entry => variant.excludes entry.key]
  simp

/-! ## The summary -/

theorem Source.map_fst_sources? {working : File.Location} {root : File.Path} {tree : File.Tree}
    {files : List String} {sources : List (String × String)}
    (hsources : sources? working root tree files = some sources) :
    sources.map Prod.fst = files := by
  induction files generalizing sources with
  | nil =>
    cases hsources
    rfl
  | cons file rest ih =>
    obtain ⟨text, texts, -, hrest, rfl⟩ := sources?_cons.mp hsources
    rw [List.map_cons, ih hrest]

namespace Generation

/-- What a summary says about the sources with the given names and texts. -/
structure Summarises (generation : Generation) (sources : List (String × String))
    (summary : Summary) : Prop where
  files : summary.files = generation.variant.sourceFiles.length
  /-- The lines of all files on which a rule for reads decides. -/
  entries : summary.entries =
    (sources.flatMap fun source => readLines generation.variant source.2).length
  keys : summary.keys = ((generation.schemaOf sources).facts.keys.filter (· ≠ "")).length
  rendered : summary.rendered = summary.entries -
    ((generation.schemaOf sources).entries.filter fun entry =>
      generation.variant.excludes entry.key).length
  diagnostics : summary.diagnostics =
    sources.flatMap fun source =>
      (orphanLines (statements generation.variant source.2)).map fun i =>
        Diagnostic.orphaned source.1 (i + 1)
  unrecognized : Document.diagnostics generation.variant (generation.schemaOf sources) = []

theorem summarises_summary {generation : Generation} {sources : List (String × String)}
    (hsources : sources.map Prod.fst = generation.variant.sourceFiles)
    (schemaPath : Option File.Path) :
    generation.Summarises sources
      (generation.summary schemaPath (generation.schemaOf sources)) := by
  have hentries := length_entries_scanSources generation.variant sources
  have hunrecognized := diagnostics_document_scanSources generation.variant sources
  constructor
  case files =>
    rw [summary, schemaOf, files_scanSources, hsources]
  case entries => exact congrArg Nat.cast hentries
  case keys => exact congrArg Nat.cast (keyCount_scanSources generation.variant sources)
  case rendered =>
    have hadd := Document.length_entries_add generation.variant (generation.schemaOf sources)
    simp only [summary]
    omega
  case diagnostics =>
    rw [summary, schemaOf, hunrecognized, List.append_nil, diagnostics_scanSources]
  case unrecognized => exact hunrecognized

/-- A generation that ends well has a summary that agrees with the sources in the
tree. -/
theorem finished_run_summarises (surroundings : Surroundings) (generation : Generation)
    (schemaPath : Option File.Path) (before after : Session) (summary : Summary)
    (hrun : generation.run surroundings schemaPath before = .ok summary after) :
    ∃ sources, generation.sourcesIn? surroundings.working before.tree = some sources ∧
      generation.Summarises sources summary := by
  obtain ⟨sources, middle, hfinished⟩ :=
    (run_ends surroundings generation schemaPath before).of_ok hrun
  refine ⟨sources, hfinished.reads.texts, ?_⟩
  rw [hfinished.summary]
  exact summarises_summary (Source.map_fst_sources? hfinished.reads.texts) schemaPath

/-- A file with an orphan and two reads of one key, and a file with an excluded key. -/
def countedTexts : List (String × String) :=
  [("a.cpp", "CFG->FailIfErrorLast();\nCFG->GetInt(\"k\", 1);\nCFG->GetInt(\"k\", 2);"),
   ("b.cpp", "CFG->GetMaybeBool(\"x.gameranger.y\");")]

def countedSession : Session where
  files.tree := countedTexts.foldl
    (fun tree (file, text) => tree.put ["p", file] (.file (Text.encodeUtf8 text.toList)))
    (File.Tree.put {} ["p"] .directory)

def countedGeneration : Generation where
  root := File.Path.ofString "p"
  variant := { Variant.config with sourceFiles := ["a.cpp", "b.cpp"] }
  document := File.Path.ofString "doc.md"

theorem finished_run_summarises_counted :
    ∃ summary after, countedGeneration.run eightLetters none countedSession = .ok summary after ∧
      summary.files = 2 ∧ summary.entries = 3 ∧ summary.keys = 2 ∧ summary.rendered = 2 ∧
      summary.diagnostics = [Diagnostic.orphaned "a.cpp" 1] := by
  have hvalue :
      (value? (countedGeneration.run eightLetters none countedSession)).isSome = true := by
    decide +kernel
  obtain ⟨summary, hrun⟩ := value?_isSome hvalue
  obtain ⟨sources, hsources, hsummary⟩ := finished_run_summarises eightLetters countedGeneration
    none countedSession _ summary hrun
  have htexts : countedGeneration.sourcesIn? eightLetters.working countedSession.tree =
      some countedTexts := by decide +kernel
  obtain rfl : sources = countedTexts := Option.some_inj.mp (hsources.symm.trans htexts)
  have hreads : (countedTexts.flatMap fun source =>
      readLines countedGeneration.variant source.2).length = 3 := by decide +kernel
  have hkeys : ((countedGeneration.schemaOf countedTexts).facts.keys.filter (· ≠ "")).length =
      2 := by decide +kernel
  have hexcluded : ((countedGeneration.schemaOf countedTexts).entries.filter fun entry =>
      countedGeneration.variant.excludes entry.key).length = 1 := by decide +kernel
  refine ⟨summary, _, hrun, hsummary.files, ?_, ?_, ?_, ?_⟩
  · rw [hsummary.entries, hreads]
    rfl
  · rw [hsummary.keys, hkeys]
    rfl
  · rw [hsummary.rendered, hsummary.entries, hreads, hexcluded]
    rfl
  · rw [hsummary.diagnostics]
    decide +kernel

end Generation

end ConfigReference
