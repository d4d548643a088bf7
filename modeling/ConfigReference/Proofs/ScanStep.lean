import ConfigReference.Proofs.Table
import ConfigReference.Scan
import Mathlib.Data.List.Induction

/-!
# What one line does to a scan

Every law of a whole scan rests on the laws of one line that stand here: which
entry the line adds, what it says about a key, and how it moves the section, the
strict mode and the key that was read last.  A scan of one line more is one
further step, so a law of whole scans follows by induction from its step.
-/

namespace ConfigReference

namespace Statement

/-- The key that the statement reads. -/
def readKey? : Statement → Option String
  | optionalRead _ key => some key
  | requiredRead _ key _ => some key
  | _ => none

/-- The entry of the statement, if it is a read on the given line. -/
def entry? (file : String) (line : Nat) : Statement → Option Entry
  | optionalRead accessor key => some ⟨key, accessor, none, file, line⟩
  | requiredRead accessor key arguments => some ⟨key, accessor, some arguments, file, line⟩
  | _ => none

theorem map_key_entry? (file : String) (line : Nat) (statement : Statement) :
    (statement.entry? file line).map Entry.key = statement.readKey? := by
  cases statement <;> rfl

theorem line_of_entry? {file : String} {line : Nat} {statement : Statement} {entry : Entry}
    (hentry : statement.entry? file line = some entry) : entry.line = line := by
  cases statement <;> simp only [Option.some.injEq, reduceCtorEq, entry?] at hentry <;>
    rw [← hentry]

end Statement

/-- Facts of which none is set change nothing. -/
@[simp]
theorem Facts.merge_default (facts : Facts) : facts.merge {} = facts := by
  simp [Facts.merge]

/-- The facts about a key; of a key without any nothing is known. -/
def FileScan.factsOf (scan : FileScan) (key : String) : Facts :=
  (scan.facts.find? key).getD {}

theorem FileScan.factsOf_note (scan : FileScan) (name key : String) (change : Facts → Facts) :
    (scan.note name change).factsOf key =
      if name = key then change (scan.factsOf key) else scan.factsOf key := by
  rw [factsOf, note, Table.find?_update]
  split
  · rfl
  · rfl

theorem FileScan.keys_note (scan : FileScan) (name : String) (change : Facts → Facts) :
    (scan.note name change).facts.keys = (scan.facts.keys ++ [name]).eraseDups :=
  scan.facts.keys_update name {} change

theorem FileScan.factsOf_markFailFast (scan : FileScan) (name key : String) :
    (scan.markFailFast name).factsOf key =
      (scan.factsOf key).merge (if name = key then ⟨.unset, true⟩ else {}) := by
  rw [markFailFast, factsOf_note]
  split
  · simp [Facts.merge]
  · rw [Facts.merge_default]

namespace ScanState

variable (variant : Variant) (state : ScanState)

/-- What the next line says about a key. -/
def contribution (key : String) : Option Statement → Facts
  | some (.optionalRead _ name) =>
    if name = key then ⟨.unset, state.strict && variant.strictAppliesToOptional⟩ else {}
  | some (.requiredRead _ name _) =>
    if name = key then ⟨state.reloadMode variant, state.strict⟩ else {}
  | some .failFast => if state.lastKey.getD "" = key then ⟨.unset, true⟩ else {}
  | _ => {}

@[simp]
theorem file_step (statement : Option Statement) :
    (state.step variant statement).scan.file = state.scan.file := by
  rcases statement with _ | statement
  · rfl
  · cases statement <;>
      simp [step, apply, record, failFast, markFailFast, FileScan.markFailFast, FileScan.note]
    · split <;> rfl
    · split <;> rfl

@[simp]
theorem line_step (statement : Option Statement) :
    (state.step variant statement).line = state.line + 1 := by
  rcases statement with _ | statement
  · rfl
  · cases statement <;> simp [step, apply, record, failFast, markFailFast]
    · split <;> rfl
    · split <;> rfl

theorem inSection_step (statement : Option Statement) :
    (state.step variant statement).inSection = true ↔
      statement = some .sectionStart ∨
        statement ≠ some .sectionEnd ∧ state.inSection = true := by
  rcases statement with _ | statement
  · simp [step]
  · cases statement <;> simp [step, apply, record, failFast, markFailFast]
    · split <;> rfl
    · split <;> rfl

theorem strict_step (statement : Option Statement) :
    (state.step variant statement).strict = true ↔
      statement = some .strictOn ∨ statement ≠ some .strictOff ∧ state.strict = true := by
  rcases statement with _ | statement
  · simp [step]
  · cases statement <;> simp [step, apply, record, failFast, markFailFast]
    · split <;> rfl
    · split <;> rfl

/-- A read replaces the key that was read last; all other lines keep it. -/
theorem lastKey_step (statement : Option Statement) :
    (state.step variant statement).lastKey =
      (statement.bind Statement.readKey?).or state.lastKey := by
  rcases statement with _ | statement
  · rfl
  · cases statement <;> simp [step, apply, record, failFast, markFailFast, Statement.readKey?]
    · split <;> rfl
    · split <;> simp_all

theorem entries_step (statement : Option Statement) :
    (state.step variant statement).scan.entries =
      state.scan.entries ++
        (statement.bind (Statement.entry? state.scan.file (state.line + 1))).toList := by
  rcases statement with _ | statement
  · simp [step]
  · cases statement <;>
      simp [step, apply, record, failFast, markFailFast, FileScan.markFailFast, FileScan.note,
        Statement.entry?]
    · split <;> rfl
    · split <;> rfl

theorem factsOf_record (accessor name : String) (arguments : Option String) (key : String) :
    (state.record accessor name arguments).scan.factsOf key = state.scan.factsOf key := by
  rw [record, FileScan.factsOf_note]
  split
  · rfl
  · rfl

/-- All that a line does to the facts about a key is to add what it says. -/
theorem factsOf_step (key : String) (statement : Option Statement) :
    (state.step variant statement).scan.factsOf key =
      (state.scan.factsOf key).merge (state.contribution variant key statement) := by
  rcases statement with _ | statement
  · simp [step, contribution]
  · cases statement with
    | optionalRead accessor name =>
      rw [step, apply, contribution]
      split
      · next hstrict =>
        have hmark : (state.strict && variant.strictAppliesToOptional) = true := hstrict
        rw [markFailFast, FileScan.factsOf_markFailFast, factsOf_record, hmark]
      · next hstrict =>
        have hmark : (state.strict && variant.strictAppliesToOptional) = false :=
          (Bool.not_eq_true _).mp hstrict
        rw [factsOf_record, hmark, ite_self, Facts.merge_default]
    | requiredRead accessor name arguments =>
      rw [step, apply, contribution]
      simp only [FileScan.factsOf_note, factsOf_record]
      split
      · rfl
      · rw [Facts.merge_default]
    | failFast =>
      rw [step, apply, contribution, failFast]
      cases hlast : state.lastKey with
      | some name => exact state.scan.factsOf_markFailFast name key
      | none => exact FileScan.factsOf_markFailFast { state.scan with diagnostics := _ } "" key
    | _ => simp [step, apply, contribution]

/-- The name under which the next line notes facts: the key of a read, and for a
fail-fast statement the key that was read last, or the empty one. -/
def notedName? : Option Statement → Option String
  | some .failFast => some (state.lastKey.getD "")
  | some statement => statement.readKey?
  | none => none

theorem keys_record (accessor name : String) (arguments : Option String) :
    (state.record accessor name arguments).scan.facts.keys =
      (state.scan.facts.keys ++ [name]).eraseDups :=
  FileScan.keys_note _ name id

/-- A line adds the name that it notes facts under, unless it is known. -/
theorem keys_step (statement : Option Statement) :
    (state.step variant statement).scan.facts.keys =
      (state.scan.facts.keys ++ (state.notedName? statement).toList).eraseDups := by
  have hnone : state.scan.facts.keys =
      (state.scan.facts.keys ++ (none : Option String).toList).eraseDups := by
    rw [Option.toList_none, List.append_nil, eraseDups_eq_self state.scan.facts.nodup_keys]
  -- a read notes the key twice: as one that is known, and with what the place tells
  have htwice : ∀ name, ((state.scan.facts.keys ++ [name]).eraseDups ++ [name]).eraseDups =
      (state.scan.facts.keys ++ [name]).eraseDups := by
    intro name
    rw [eraseDups_eraseDups_append, eraseDups_append_of_mem (by simp)]
  rcases statement with _ | statement
  · exact hnone
  · cases statement with
    | optionalRead accessor name =>
      rw [step, apply]
      split
      · rw [markFailFast, FileScan.markFailFast, FileScan.keys_note, keys_record]
        exact htwice name
      · exact keys_record _ accessor name none
    | requiredRead accessor name arguments =>
      rw [step, apply, FileScan.keys_note, keys_record]
      exact htwice name
    | failFast =>
      rw [step, apply, failFast, notedName?]
      cases hlast : state.lastKey with
      | some name => exact FileScan.keys_note state.scan name _
      | none => exact FileScan.keys_note { state.scan with diagnostics := _ } "" _
    | _ => exact hnone

/-- Only a fail-fast statement that no read precedes is reported. -/
theorem diagnostics_step (statement : Option Statement) :
    (state.step variant statement).scan.diagnostics =
      state.scan.diagnostics ++
        if statement = some .failFast ∧ state.lastKey = none then
          [Diagnostic.orphaned state.scan.file (state.line + 1)]
        else [] := by
  rcases statement with _ | statement
  · simp [step]
  · cases statement <;>
      simp [step, apply, record, failFast, markFailFast, FileScan.markFailFast, FileScan.note]
    · split <;> rfl
    · split <;> simp_all

end ScanState

namespace ScanState

variable (state : ScanState)

@[simp]
theorem entries_finish : state.finish.entries = state.scan.entries := rfl

@[simp]
theorem facts_finish : state.finish.facts = state.scan.facts := rfl

@[simp]
theorem factsOf_finish (key : String) : state.finish.factsOf key = state.scan.factsOf key := rfl

@[simp]
theorem diagnostics_finish : state.finish.diagnostics = state.scan.diagnostics := rfl

@[simp]
theorem lines_finish : state.finish.lines = state.line := rfl

end ScanState

/-! ## Whole scans -/

/-- The keys that a row of lines reads, in the order of the lines. -/
def readKeys (lines : List (Option Statement)) : List String :=
  lines.filterMap fun line => line.bind Statement.readKey?

theorem readKeys_append (front back : List (Option Statement)) :
    readKeys (front ++ back) = readKeys front ++ readKeys back :=
  List.filterMap_append

theorem readKeys_singleton (line : Option Statement) :
    readKeys [line] = (line.bind Statement.readKey?).toList := by
  cases hread : line.bind Statement.readKey? <;> simp [readKeys, hread]

section Run

variable (variant : Variant) (file : String)

theorem scanStatements_append_singleton (lines : List (Option Statement))
    (line : Option Statement) :
    scanStatements variant file (lines ++ [line]) =
      (scanStatements variant file lines).step variant line := by
  simp [scanStatements, List.foldl_append]

@[simp]
theorem file_scanStatements (lines : List (Option Statement)) :
    (scanStatements variant file lines).scan.file = file := by
  induction lines using List.reverseRecOn with
  | nil => rfl
  | append_singleton lines line ih => rw [scanStatements_append_singleton, ScanState.file_step, ih]

@[simp]
theorem line_scanStatements (lines : List (Option Statement)) :
    (scanStatements variant file lines).line = lines.length := by
  induction lines using List.reverseRecOn with
  | nil => rfl
  | append_singleton lines line ih =>
    rw [scanStatements_append_singleton, ScanState.line_step, ih, List.length_append]
    rfl

/-- The entries of a scan are those of its lines, in their order. -/
theorem entries_scanStatements (lines : List (Option Statement)) :
    (scanStatements variant file lines).scan.entries =
      lines.zipIdx.filterMap fun numbered =>
        numbered.1.bind (Statement.entry? file (numbered.2 + 1)) := by
  induction lines using List.reverseRecOn with
  | nil => rfl
  | append_singleton lines line ih =>
    rw [scanStatements_append_singleton, ScanState.entries_step, ih, file_scanStatements,
      line_scanStatements, List.zipIdx_append, List.filterMap_append]
    congr 1
    cases hentry : line.bind (Statement.entry? file (lines.length + 1)) with
    | none => simp [hentry]
    | some entry => simp [hentry]

theorem map_key_entries_scanStatements (lines : List (Option Statement)) :
    (scanStatements variant file lines).scan.entries.map Entry.key = readKeys lines := by
  induction lines using List.reverseRecOn with
  | nil => rfl
  | append_singleton lines line ih =>
    rw [scanStatements_append_singleton, ScanState.entries_step, List.map_append, ih,
      readKeys_append, readKeys_singleton]
    congr 1
    cases line with
    | none => rfl
    | some statement =>
      rw [← Option.toList_map, Option.bind_some, statement.map_key_entry?, Option.bind_some]

/-- The key that was read last is the last one of those that were read. -/
theorem lastKey_scanStatements_eq (lines : List (Option Statement)) :
    (scanStatements variant file lines).lastKey = (readKeys lines).getLast? := by
  induction lines using List.reverseRecOn with
  | nil => rfl
  | append_singleton lines line ih =>
    rw [scanStatements_append_singleton, ScanState.lastKey_step, ih, readKeys_append,
      List.getLast?_append, readKeys_singleton]
    cases line.bind Statement.readKey? <;> rfl

theorem mem_entries_scanText {text : String} {entry : Entry}
    (hentry : entry ∈ (scanText variant file text).entries) :
    ∃ line statement number, line ∈ Text.lines text.toList ∧
      Statement.ofLine? variant line = some statement ∧
      statement.entry? file number = some entry := by
  rw [scanText, ScanState.finish, entries_scanStatements, List.mem_filterMap] at hentry
  obtain ⟨⟨line?, index⟩, hline, hstatement⟩ := hentry
  obtain ⟨statement, rfl, hstatement⟩ := Option.bind_eq_some_iff.mp hstatement
  obtain ⟨line, hmem, hline⟩ := List.mem_map.mp (List.fst_mem_of_mem_zipIdx hline)
  exact ⟨line, statement, index + 1, hmem, hline, hstatement⟩

end Run

end ConfigReference
