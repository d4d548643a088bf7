import ConfigReference.Proofs.ReadGrammar
import ConfigReference.Proofs.ScanMeaning

/-!
# The record of a scan

Entries, facts, diagnostics and the key that was read last are kept side by side
while the lines of a file go by.  This module says how they hang together after
each line: the entries tell the reads, the diagnostics tell the orphans, which
are the fail-fast statements that no read precedes, and the keys with facts are
the names that reads and orphans bring up.
-/

namespace ConfigReference

/-! ## Orphans and the names of lines -/

section Names

variable (lines : List (Option Statement))

/-- Line `i` is a fail-fast statement that no read precedes. -/
def IsOrphan (i : Nat) : Prop :=
  HoldsAt (· = .failFast) lines i ∧ ∀ j < i, ¬ HoldsAt (·.readKey? ≠ none) lines j

instance (i : Nat) : Decidable (IsOrphan lines i) :=
  inferInstanceAs (Decidable (_ ∧ ∀ j < i, _))

/-- The places of the orphans, in their order. -/
def orphanLines : List Nat :=
  (List.range lines.length).filter fun i => IsOrphan lines i

/-- The name that line `i` brings up: the key of a read, and the empty name for an
orphan. -/
def lineName? (i : Nat) : Option String :=
  if IsOrphan lines i then some "" else lines[i]?.join.bind Statement.readKey?

/-- The names that the lines bring up, one after the other. -/
def lineNames : List String :=
  (List.range lines.length).filterMap (lineName? lines)

end Names

section NameLaws

variable {lines : List (Option Statement)} {line : Option Statement} {i : Nat}

theorem exists_holdsAt_iff {p : Statement → Prop} :
    (∃ i, HoldsAt p lines i) ↔ ∃ statement, some statement ∈ lines ∧ p statement := by
  simp only [HoldsAt, List.mem_iff_getElem?]
  constructor
  · rintro ⟨i, statement, hline, hp⟩
    exact ⟨statement, ⟨i, hline⟩, hp⟩
  · rintro ⟨statement, ⟨i, hline⟩, hp⟩
    exact ⟨i, statement, hline, hp⟩

theorem readKeys_eq_nil_iff :
    readKeys lines = [] ↔ ∀ j < lines.length, ¬ HoldsAt (·.readKey? ≠ none) lines j := by
  constructor
  · intro hnone j _ hread
    obtain ⟨statement, hmem, hkey⟩ := exists_holdsAt_iff.mp ⟨j, hread⟩
    rw [readKeys, List.filterMap_eq_nil_iff] at hnone
    exact hkey (hnone (some statement) hmem)
  · intro hnone
    rw [readKeys, List.filterMap_eq_nil_iff]
    rintro (_ | statement) hmem
    · rfl
    · by_contra hkey
      obtain ⟨j, hread⟩ : ∃ j, HoldsAt (·.readKey? ≠ none) lines j :=
        exists_holdsAt_iff.mpr ⟨statement, hmem, hkey⟩
      exact hnone j hread.lt_length hread

theorem isOrphan_append_singleton_of_lt (hi : i < lines.length) :
    IsOrphan (lines ++ [line]) i ↔ IsOrphan lines i := by
  refine and_congr (holdsAt_append_singleton_of_lt hi) (forall₂_congr fun j hj => ?_)
  rw [holdsAt_append_singleton_of_lt (by omega)]

theorem isOrphan_append_singleton_length :
    IsOrphan (lines ++ [line]) lines.length ↔ line = some .failFast ∧ readKeys lines = [] := by
  rw [IsOrphan, readKeys_eq_nil_iff]
  refine and_congr ?_ (forall₂_congr fun j hj => ?_)
  · have hpast : ¬ HoldsAt (· = .failFast) lines lines.length :=
      fun hholds => Nat.lt_irrefl _ hholds.lt_length
    rw [holdsAt_append_singleton, or_iff_right hpast]
    simp
  · rw [holdsAt_append_singleton_of_lt hj]

theorem orphanLines_append_singleton :
    orphanLines (lines ++ [line]) =
      orphanLines lines ++
        if line = some .failFast ∧ readKeys lines = [] then [lines.length] else [] := by
  rw [orphanLines, List.length_append, List.length_singleton, List.range_succ,
    List.filter_append, orphanLines]
  congr 1
  · refine List.filter_congr fun i hi => ?_
    simp only [isOrphan_append_singleton_of_lt (List.mem_range.mp hi)]
  · simp only [List.filter_cons, List.filter_nil, isOrphan_append_singleton_length,
      decide_eq_true_eq]

theorem lineNames_append_singleton :
    lineNames (lines ++ [line]) =
      lineNames lines ++
        if line = some .failFast ∧ readKeys lines = [] then [""]
        else (line.bind Statement.readKey?).toList := by
  rw [lineNames, List.length_append, List.length_singleton, List.range_succ,
    List.filterMap_append, lineNames]
  congr 1
  · refine List.filterMap_congr fun i hi => ?_
    have hi := List.mem_range.mp hi
    rw [lineName?, lineName?, List.getElem?_append_left hi]
    simp only [isOrphan_append_singleton_of_lt hi]
  · have hlast : (lines ++ [line])[lines.length]? = some line := by simp
    have hname : lineName? (lines ++ [line]) lines.length =
        if line = some .failFast ∧ readKeys lines = [] then some ""
        else line.bind Statement.readKey? := by
      simp only [lineName?, isOrphan_append_singleton_length, hlast, Option.join_some]
    rw [List.filterMap_cons, hname, List.filterMap_nil]
    split_ifs
    · rfl
    · cases line.bind Statement.readKey? <;> rfl

theorem mem_lineNames_iff {name : String} :
    name ∈ lineNames lines ↔ name ∈ readKeys lines ∨ name = "" ∧ orphanLines lines ≠ [] := by
  induction lines using List.reverseRecOn with
  | nil => simp [lineNames, readKeys, orphanLines]
  | append_singleton lines line ih =>
    rw [lineNames_append_singleton, orphanLines_append_singleton, readKeys_append,
      readKeys_singleton, List.mem_append, List.mem_append, ih]
    split
    · next horphan =>
      have hread : (line.bind Statement.readKey?).toList = [] := by rw [horphan.1]; rfl
      rw [hread, horphan.2, List.mem_singleton]
      simp only [List.not_mem_nil, false_or, ne_eq, List.append_eq_nil_iff, List.cons_ne_self,
        and_false, not_false_eq_true, and_true]
      exact or_iff_right_of_imp And.left
    · rw [List.append_nil]
      tauto

end NameLaws

/-! ## Runs -/

section Runs

variable (variant : Variant) (file : String) (lines : List (Option Statement))

theorem lastKey_scanStatements_eq_none_iff :
    (scanStatements variant file lines).lastKey = none ↔ readKeys lines = [] := by
  rw [lastKey_scanStatements_eq, List.getLast?_eq_none_iff]

/-- There is one diagnostic for each orphan, in the order of the lines. -/
theorem diagnostics_scanStatements :
    (scanStatements variant file lines).scan.diagnostics =
      (orphanLines lines).map fun i => Diagnostic.orphaned file (i + 1) := by
  induction lines using List.reverseRecOn with
  | nil => rfl
  | append_singleton lines line ih =>
    rw [scanStatements_append_singleton, ScanState.diagnostics_step, ih,
      orphanLines_append_singleton, List.map_append]
    simp only [lastKey_scanStatements_eq_none_iff, file_scanStatements, line_scanStatements]
    split
    · rfl
    · rfl

/-- The keys with facts are the names that the lines bring up. -/
theorem keys_scanStatements :
    (scanStatements variant file lines).scan.facts.keys = (lineNames lines).eraseDups := by
  induction lines using List.reverseRecOn with
  | nil => rfl
  | append_singleton lines line ih =>
    rw [scanStatements_append_singleton, ScanState.keys_step, ih, eraseDups_eraseDups_append,
      lineNames_append_singleton]
    by_cases hfail : line = some .failFast
    · subst hfail
      rw [ScanState.notedName?, lastKey_scanStatements_eq]
      cases hlast : (readKeys lines).getLast? with
      | none =>
        rw [List.getLast?_eq_none_iff] at hlast
        rw [if_pos ⟨rfl, hlast⟩]
        rfl
      | some key =>
        -- the key of the read before is known, and the statement brings up no name
        have hkey : key ∈ readKeys lines := List.mem_of_getLast? hlast
        rw [if_neg (fun horphan => List.ne_nil_of_mem hkey horphan.2), Option.getD_some,
          Option.toList_some, eraseDups_append_of_mem (mem_lineNames_iff.mpr (.inl hkey))]
        simp [Statement.readKey?]
    · rw [if_neg (fun horphan => hfail horphan.1)]
      congr 2
      rcases line with _ | statement
      · rfl
      · cases statement with
        | failFast => exact absurd rfl hfail
        | _ => rfl

theorem mem_keys_scanStatements_iff {key : String} (hkey : key ≠ "") :
    key ∈ (scanStatements variant file lines).scan.facts.keys ↔ key ∈ readKeys lines := by
  rw [keys_scanStatements, List.mem_eraseDups, mem_lineNames_iff,
    or_iff_left (fun horphan => hkey horphan.1)]

/-- Where all keys that are read have a name, only an orphan says something about
the empty key. -/
theorem ScanState.contribution_empty (state : ScanState) {line : Option Statement}
    (hline : "" ∉ readKeys [line]) (hlast : state.lastKey ≠ some "") :
    state.contribution variant "" line =
      if line = some .failFast ∧ state.lastKey = none then ⟨.unset, true⟩ else {} := by
  rw [readKeys_singleton] at hline
  rcases line with _ | statement
  · simp [contribution]
  · cases statement with
    | failFast =>
      cases hkey : state.lastKey with
      | none => simp [contribution, hkey]
      | some key =>
        have hne : key ≠ "" := fun heq => hlast (hkey.trans (congrArg some heq))
        simp [contribution, hkey, hne]
    | optionalRead accessor key =>
      have hne : key ≠ "" := by simpa [Statement.readKey?, eq_comm] using hline
      simp [contribution, hne]
    | requiredRead accessor key arguments =>
      have hne : key ≠ "" := by simpa [Statement.readKey?, eq_comm] using hline
      simp [contribution, hne]
    | _ => simp [contribution]

/-- An orphan marks the empty key, and nothing else is said about it. -/
theorem factsOf_empty_scanStatements (hlines : "" ∉ readKeys lines) :
    (scanStatements variant file lines).scan.factsOf "" =
      if orphanLines lines = [] then {} else ⟨.unset, true⟩ := by
  induction lines using List.reverseRecOn with
  | nil => rfl
  | append_singleton lines line ih =>
    rw [readKeys_append, List.mem_append, not_or] at hlines
    obtain ⟨hbefore, hhere⟩ := hlines
    have hlast : (scanStatements variant file lines).lastKey ≠ some "" := by
      rw [lastKey_scanStatements_eq]
      exact fun heq => hbefore (List.mem_of_getLast? heq)
    have hcontribution := (scanStatements variant file lines).contribution_empty variant hhere hlast
    simp only [lastKey_scanStatements_eq_none_iff] at hcontribution
    rw [scanStatements_append_singleton, ScanState.factsOf_step, ih hbefore, hcontribution,
      orphanLines_append_singleton]
    split_ifs <;> simp_all [Facts.merge]

/-- Every entry is the read on its line. -/
theorem exists_holdsAt_of_mem_entries {entry : Entry}
    (hentry : entry ∈ (scanStatements variant file lines).scan.entries) :
    ∃ i : Nat, entry.line = i + 1 ∧ HoldsAt (·.readKey? ≠ none) lines i := by
  rw [entries_scanStatements, List.mem_filterMap] at hentry
  obtain ⟨⟨line, i⟩, hnumbered, hline⟩ := hentry
  obtain ⟨statement, rfl, hstatement⟩ := Option.bind_eq_some_iff.mp hline
  refine ⟨i, Statement.line_of_entry? hstatement, statement,
    List.mk_mem_zipIdx_iff_getElem?.mp hnumbered, ?_⟩
  have hkey := statement.map_key_entry? file (i + 1)
  rw [hstatement, Option.map_some] at hkey
  simp [← hkey]

theorem pairwise_line_entries_scanStatements :
    (scanStatements variant file lines).scan.entries.Pairwise
      fun left right => left.line < right.line := by
  induction lines using List.reverseRecOn with
  | nil => exact List.Pairwise.nil
  | append_singleton lines line ih =>
    rw [scanStatements_append_singleton, ScanState.entries_step, List.pairwise_append]
    refine ⟨ih, ?_, ?_⟩
    · cases line.bind _ <;> simp
    · intro left hleft right hright
      obtain ⟨i, hline, hread⟩ := exists_holdsAt_of_mem_entries variant file lines hleft
      obtain ⟨statement, -, hstatement⟩ :=
        Option.bind_eq_some_iff.mp (Option.mem_toList.mp hright)
      have hlast := Statement.line_of_entry? hstatement
      have hlt := hread.lt_length
      rw [line_scanStatements] at hlast
      omega

end Runs

/-! ## The record after each line -/

/-- What the state of a scan has recorded of the lines that have been read. -/
structure ScanState.Records (file : String) (lines : List (Option Statement))
    (state : ScanState) : Prop where
  line_eq : state.line = lines.length
  pairwise_line : state.scan.entries.Pairwise fun left right => left.line < right.line
  line_range : ∀ entry ∈ state.scan.entries, 1 ≤ entry.line ∧ entry.line ≤ state.line
  key_ne_empty : ∀ entry ∈ state.scan.entries, entry.key ≠ ""
  /-- The keys with facts, in the order in which the lines bring them up. -/
  keys_eq : state.scan.facts.keys = (lineNames lines).eraseDups
  empty_mem_keys_iff : "" ∈ state.scan.facts.keys ↔ state.scan.diagnostics ≠ []
  find?_empty : state.scan.diagnostics ≠ [] →
    state.scan.facts.find? "" = some ⟨.unset, true⟩
  kind_of_diagnostic : ∀ diagnostic ∈ state.scan.diagnostics,
    diagnostic.kind = .orphanedStatement ∧ diagnostic.key = none ∧ diagnostic.file = file
  /-- There is one diagnostic for each orphan, in the order of the lines. -/
  map_line_diagnostics : state.scan.diagnostics.map Diagnostic.line =
    (orphanLines lines).map fun i : Nat => (i : Int) + 1
  diagnostic_before_entry : ∀ diagnostic ∈ state.scan.diagnostics,
    ∀ entry ∈ state.scan.entries, diagnostic.line < entry.line
  lastKey_eq_none_iff : state.lastKey = none ↔ state.scan.entries = []
  lastKey_eq : state.lastKey = state.scan.entries.getLast?.map Entry.key
  lastKey_mem_keys : ∀ key ∈ state.lastKey, key ∈ state.scan.facts.keys

section Record

variable (variant : Variant) (file : String) {lines : List (Option Statement)}

theorem orphan_lt_of_read {i j : Nat} (horphan : IsOrphan lines i)
    (hread : HoldsAt (·.readKey? ≠ none) lines j) : i < j := by
  rcases Nat.lt_trichotomy i j with hlt | rfl | hgt
  · exact hlt
  · -- a line is not both a fail-fast statement and a read
    obtain ⟨statement, hline, rfl⟩ := horphan.1
    obtain ⟨other, hother, hkey⟩ := hread
    rw [hline, Option.some.injEq, Option.some.injEq] at hother
    exact absurd (hother ▸ rfl) hkey
  · exact absurd hread (horphan.2 j hgt)

theorem scanStatements_records (hlines : "" ∉ readKeys lines) :
    (scanStatements variant file lines).Records file lines := by
  have hdiagnostics := diagnostics_scanStatements variant file lines
  have hkeys := keys_scanStatements variant file lines
  have hempty : "" ∈ (scanStatements variant file lines).scan.facts.keys ↔
      (scanStatements variant file lines).scan.diagnostics ≠ [] := by
    rw [hkeys, List.mem_eraseDups, mem_lineNames_iff, or_iff_right hlines, hdiagnostics]
    simp
  have hlast : (scanStatements variant file lines).lastKey =
      (scanStatements variant file lines).scan.entries.getLast?.map Entry.key := by
    rw [lastKey_scanStatements_eq, ← map_key_entries_scanStatements variant file,
      List.getLast?_map]
  constructor
  case line_eq => exact line_scanStatements variant file lines
  case pairwise_line => exact pairwise_line_entries_scanStatements variant file lines
  case line_range =>
    intro entry hentry
    obtain ⟨i, hline, hread⟩ := exists_holdsAt_of_mem_entries variant file lines hentry
    have hlt := hread.lt_length
    rw [hline, line_scanStatements]
    omega
  case key_ne_empty =>
    intro entry hentry hkey
    apply hlines
    rw [← map_key_entries_scanStatements variant file, ← hkey]
    exact List.mem_map_of_mem hentry
  case keys_eq => exact hkeys
  case empty_mem_keys_iff => exact hempty
  case find?_empty =>
    intro hsome
    have hfacts := factsOf_empty_scanStatements variant file lines hlines
    rw [hdiagnostics, ne_eq, List.map_eq_nil_iff] at hsome
    rw [if_neg hsome, FileScan.factsOf] at hfacts
    rw [Table.find?_eq_some_getD (hempty.mpr (by simpa [hdiagnostics] using hsome)) {}, hfacts]
  case kind_of_diagnostic =>
    intro diagnostic hdiagnostic
    rw [hdiagnostics] at hdiagnostic
    obtain ⟨i, -, rfl⟩ := List.mem_map.mp hdiagnostic
    exact ⟨rfl, rfl, rfl⟩
  case map_line_diagnostics =>
    rw [hdiagnostics, List.map_map]
    rfl
  case diagnostic_before_entry =>
    intro diagnostic hdiagnostic entry hentry
    rw [hdiagnostics] at hdiagnostic
    obtain ⟨i, hi, rfl⟩ := List.mem_map.mp hdiagnostic
    obtain ⟨j, hline, hread⟩ := exists_holdsAt_of_mem_entries variant file lines hentry
    have horphan : IsOrphan lines i := by simpa using (List.mem_filter.mp hi).2
    have hlt := orphan_lt_of_read horphan hread
    have horphanLine : (Diagnostic.orphaned file (i + 1)).line = (i : Int) + 1 := rfl
    omega
  case lastKey_eq_none_iff =>
    rw [hlast, Option.map_eq_none_iff, List.getLast?_eq_none_iff]
  case lastKey_eq => exact hlast
  case lastKey_mem_keys =>
    intro key hkey
    rw [Option.mem_def, lastKey_scanStatements_eq] at hkey
    rw [hkeys, List.mem_eraseDups, mem_lineNames_iff]
    exact .inl (List.mem_of_getLast? hkey)

theorem getElem?_scanHistory (state : ScanState) (lines : List (Option Statement)) (i : Nat) :
    (scanHistory variant state lines)[i]? =
      lines[i]?.map fun line => (line, (lines.take (i + 1)).foldl (ScanState.step variant) state) := by
  induction lines generalizing state i with
  | nil => rfl
  | cons line rest ih =>
    cases i with
    | zero => rfl
    | succ i =>
      rw [scanHistory, List.getElem?_cons_succ, ih, List.getElem?_cons_succ, List.take_succ_cons]
      rfl

theorem empty_not_mem_readKeys_statements (text : String) :
    "" ∉ readKeys (statements variant text) := by
  intro hmem
  obtain ⟨line?, hline, hkey⟩ := List.mem_filterMap.mp hmem
  obtain ⟨line, -, rfl⟩ := List.mem_map.mp hline
  obtain ⟨statement, hstatement, hread⟩ := Option.bind_eq_some_iff.mp hkey
  have hrule : statement.rule = .optional ∨ statement.rule = .required := by
    cases statement <;> simp [Statement.readKey?, Statement.rule] at hread ⊢
  obtain ⟨read, -, -, rfl, -⟩ := Read.exists_isFirst_of_ofLine? hstatement hrule
  rw [← read.statement.map_key_entry? "" 0, read.entry?_statement, Option.map_some,
    Option.some.injEq] at hread
  exact read.key_ne_nil (String.ofList_eq_empty_iff.mp hread)

end Record

/-- After every line of a scan the entries, the facts, the diagnostics and the key
that was read last are those of the lines so far, and the state after the last
line is what the scan returns. -/
theorem scanText_records_every_line (variant : Variant) (file text : String) (i : Nat)
    (hi : i < (statements variant text).length) :
    ∃ state, (scanHistory variant (ScanState.start file) (statements variant text))[i]? =
        some ((statements variant text)[i], state) ∧
      state.Records file ((statements variant text).take (i + 1)) ∧
      (i + 1 = (statements variant text).length → state.finish = scanText variant file text) := by
  refine ⟨scanStatements variant file ((statements variant text).take (i + 1)), ?_, ?_, ?_⟩
  · rw [getElem?_scanHistory, List.getElem?_eq_getElem hi]
    rfl
  · apply scanStatements_records
    intro hmem
    apply empty_not_mem_readKeys_statements variant text
    rw [← List.take_append_drop (i + 1) (statements variant text), readKeys_append]
    exact List.mem_append_left _ hmem
  · intro hlast
    rw [hlast, List.take_length]
    rfl

/-- An orphan, then a read, then a fail-fast statement that follows it. -/
def orphanSource : String :=
  "CFG->FailIfErrorLast();\n" ++
    "CFG->GetBool(\"a\", 1);\n" ++
    "CFG->FailIfErrorLast();"

theorem scanText_records_every_line_orphan :
    2 < (statements Variant.config orphanSource).length ∧
      (scanText Variant.config "src/net.cpp" orphanSource).facts.keys = ["", "a"] ∧
      (scanText Variant.config "src/net.cpp" orphanSource).diagnostics.map Diagnostic.line =
        [1] := by
  have hlength : (statements Variant.config orphanSource).length = 3 := by decide +kernel
  have hnames : (lineNames (statements Variant.config orphanSource)).eraseDups = ["", "a"] := by
    decide +kernel
  have horphans : orphanLines (statements Variant.config orphanSource) = [0] := by
    decide +kernel
  obtain ⟨state, -, hrecords, hlast⟩ := scanText_records_every_line Variant.config "src/net.cpp"
    orphanSource 2 (by omega)
  rw [List.take_of_length_le (by omega)] at hrecords
  have hkeys := hrecords.keys_eq
  have hlines := hrecords.map_line_diagnostics
  rw [hnames] at hkeys
  rw [horphans] at hlines
  rw [← hlast hlength.symm]
  exact ⟨by omega, hkeys, hlines⟩

end ConfigReference
