import ConfigReference.Proofs.Aggregation
import ConfigReference.Proofs.Text

/-!
# Scanning a text in two pieces

A file may be cut at the end of a line.  If the first piece leaves no section and
no strict mode behind, and no fail-fast statement of the second refers to a read
of the first, then scanning the pieces and collecting the two scans gives what
the scan of the whole file gives.  The scan of the whole is followed beside that
of the second piece: the two differ in the number of the line, in what the first
piece has left in the record, and in the key that was read last, until the second
piece has a read of its own.
-/

namespace ConfigReference

open Text

/-- The statements of a text depend on nothing but what stands between its line
feeds, without the blanks around it. -/
theorem statements_eq_map_trim (variant : Variant) (text : String) :
    statements variant text =
      ((splitAt '\n' text.toList).map trim).map fun line =>
        Rule.order.findSome? (Rule.statement? variant line) := by
  rw [← map_trim_lines, List.map_map]
  rfl

theorem statements_append_lineFeed (variant : Variant) (front back : String) :
    statements variant (front ++ "\n" ++ back) =
      statements variant front ++ statements variant back := by
  have htext : (front ++ "\n" ++ back).toList = front.toList ++ '\n' :: back.toList := by
    rw [String.toList_append, String.toList_append, List.append_assoc]
    rfl
  rw [statements_eq_map_trim, statements_eq_map_trim, statements_eq_map_trim, htext,
    splitAt_append_separator, List.map_append, List.map_append]

theorem scanStatements_append (variant : Variant) (file : String)
    (front back : List (Option Statement)) :
    scanStatements variant file (front ++ back) =
      back.foldl (ScanState.step variant) (scanStatements variant file front) :=
  List.foldl_append

/-- The entry a number of lines further down. -/
def Entry.movedDown (number : Int) (entry : Entry) : Entry :=
  { entry with line := entry.line + number }

theorem Statement.entry?_movedDown (statement : Statement) (file : String) (number line : Nat) :
    statement.entry? file (number + line) =
      (statement.entry? file line).map (Entry.movedDown number) := by
  cases statement <;> simp [Entry.movedDown, entry?, Int.add_comm]

namespace ScanState

/-- The scan of a whole text compared with those of its pieces: `front` is the
state at the end of the first piece, `back` a state in the second piece scanned
as a file of its own, and `whole` the state at the same line of the whole. -/
structure Continues (front back whole : ScanState) : Prop where
  line_eq : whole.line = front.line + back.line
  file_eq : whole.scan.file = back.scan.file
  inSection_eq : whole.inSection = back.inSection
  strict_eq : whole.strict = back.strict
  lastKey_eq : whole.lastKey = back.lastKey.or front.lastKey
  entries_eq : whole.scan.entries =
    front.scan.entries ++ back.scan.entries.map (Entry.movedDown front.line)
  diagnostics_eq : whole.scan.diagnostics = front.scan.diagnostics
  keys_eq : whole.scan.facts.keys = (front.scan.facts.keys ++ back.scan.facts.keys).eraseDups
  factsOf_eq : ∀ key,
    whole.scan.factsOf key = (front.scan.factsOf key).merge (back.scan.factsOf key)

theorem continues_start {front : ScanState} (hsection : front.inSection = false)
    (hstrict : front.strict = false) : Continues front (start front.scan.file) front where
  line_eq := rfl
  file_eq := rfl
  inSection_eq := hsection
  strict_eq := hstrict
  lastKey_eq := rfl
  entries_eq := (List.append_nil _).symm
  diagnostics_eq := rfl
  keys_eq := by
    have hnone : (start front.scan.file).scan.facts.keys = [] := rfl
    rw [hnone, List.append_nil, eraseDups_eq_self front.scan.facts.nodup_keys]
  factsOf_eq := fun key => (Facts.merge_default _).symm

section Step

variable {front back whole : ScanState} (variant : Variant) {line : Option Statement}

theorem contribution_congr (hfile : whole.scan.file = back.scan.file)
    (hsection : whole.inSection = back.inSection) (hstrict : whole.strict = back.strict)
    (hlast : line = some .failFast → whole.lastKey = back.lastKey) (key : String) :
    whole.contribution variant key line = back.contribution variant key line := by
  rcases line with _ | statement
  · rfl
  · cases statement with
    | optionalRead accessor name => simp only [contribution, hstrict]
    | requiredRead accessor name arguments =>
      simp only [contribution, reloadMode, hstrict, hsection, hfile]
    | failFast => simp only [contribution, hlast rfl]
    | _ => rfl

theorem notedName?_congr (hlast : line = some .failFast → whole.lastKey = back.lastKey) :
    whole.notedName? line = back.notedName? line := by
  rcases line with _ | statement
  · rfl
  · cases statement with
    | failFast => simp only [notedName?, hlast rfl]
    | _ => rfl

/-- One more line keeps the two scans side by side, unless it is a fail-fast
statement that no read of the second piece precedes. -/
theorem Continues.step (hstate : Continues front back whole)
    (hread : line = some .failFast → back.lastKey ≠ none) :
    Continues front (back.step variant line) (whole.step variant line) := by
  have hlast : line = some .failFast → whole.lastKey = back.lastKey := by
    intro hline
    obtain ⟨key, hkey⟩ := Option.ne_none_iff_exists'.mp (hread hline)
    rw [hstate.lastKey_eq, hkey, Option.some_or]
  constructor
  case line_eq => rw [line_step, line_step, hstate.line_eq, Nat.add_assoc]
  case file_eq => rw [file_step, file_step, hstate.file_eq]
  case inSection_eq =>
    rw [Bool.eq_iff_iff, inSection_step, inSection_step, hstate.inSection_eq]
  case strict_eq => rw [Bool.eq_iff_iff, strict_step, strict_step, hstate.strict_eq]
  case lastKey_eq => rw [lastKey_step, lastKey_step, hstate.lastKey_eq, Option.or_assoc]
  case entries_eq =>
    rw [entries_step, entries_step, hstate.entries_eq, hstate.line_eq, hstate.file_eq,
      List.map_append, List.append_assoc]
    congr 2
    cases line with
    | none => rfl
    | some statement =>
      rw [Option.bind_some, Option.bind_some, Nat.add_assoc, statement.entry?_movedDown,
        Option.toList_map]
  case diagnostics_eq =>
    have hreported : ¬ (line = some .failFast ∧ whole.lastKey = none) := by
      rintro ⟨hline, hnone⟩
      exact hread hline ((hlast hline).symm.trans hnone)
    rw [diagnostics_step, if_neg hreported, List.append_nil, hstate.diagnostics_eq]
  case keys_eq =>
    rw [keys_step, keys_step, hstate.keys_eq, notedName?_congr hlast, eraseDups_eraseDups_append,
      eraseDups_append_eraseDups, List.append_assoc]
  case factsOf_eq =>
    intro key
    have hcontribution := contribution_congr variant hstate.file_eq hstate.inSection_eq
      hstate.strict_eq hlast key
    rw [factsOf_step, factsOf_step, hstate.factsOf_eq, hcontribution, Facts.merge_assoc]

/-- The second piece as a whole, in which no fail-fast statement is an orphan. -/
theorem continues_scanStatements (hsection : front.inSection = false)
    (hstrict : front.strict = false) (lines : List (Option Statement))
    (hdiagnostics : (scanStatements variant front.scan.file lines).scan.diagnostics = []) :
    Continues front (scanStatements variant front.scan.file lines)
      (lines.foldl (ScanState.step variant) front) := by
  induction lines using List.reverseRecOn with
  | nil => exact continues_start hsection hstrict
  | append_singleton lines line ih =>
    rw [scanStatements_append_singleton, diagnostics_step, List.append_eq_nil_iff] at hdiagnostics
    obtain ⟨hbefore, hhere⟩ := hdiagnostics
    rw [scanStatements_append_singleton, List.foldl_append, List.foldl_cons, List.foldl_nil]
    refine (ih hbefore).step variant fun hline hnone => ?_
    rw [if_pos ⟨hline, hnone⟩] at hhere
    exact List.cons_ne_nil _ _ hhere

end Step

end ScanState

/-- A file that is cut at the end of a line, where the scan is in no section and not
in strict mode, can be scanned in pieces: the entries of the second piece only move
down, and collecting the two scans gives the facts of the whole. -/
theorem scanText_append_lineFeed (variant : Variant) (file front back : String)
    (hsection : (scanStatements variant file (statements variant front)).inSection = false)
    (hstrict : (scanStatements variant file (statements variant front)).strict = false)
    (hback : (scanText variant file back).diagnostics = []) :
    (scanText variant file (front ++ "\n" ++ back)).entries =
        (scanText variant file front).entries ++
          (scanText variant file back).entries.map
            (Entry.movedDown (scanText variant file front).lines) ∧
      (scanText variant file (front ++ "\n" ++ back)).diagnostics =
        (scanText variant file front).diagnostics ∧
      (scanText variant file (front ++ "\n" ++ back)).lines =
        (scanText variant file front).lines + (scanText variant file back).lines ∧
      (scanText variant file (front ++ "\n" ++ back)).facts =
        (Schema.ofScans [scanText variant file front, scanText variant file back]).facts := by
  simp only [scanText, ScanState.entries_finish, ScanState.diagnostics_finish,
    ScanState.lines_finish, ScanState.facts_finish] at hback ⊢
  have hfile := file_scanStatements variant file (statements variant front)
  have hcontinues := ScanState.continues_scanStatements variant hsection hstrict
    (statements variant back) (by rw [hfile, hback])
  rw [hfile, ← scanStatements_append, ← statements_append_lineFeed] at hcontinues
  refine ⟨hcontinues.entries_eq, hcontinues.diagnostics_eq, ?_, ?_⟩
  · rw [hcontinues.line_eq, Int.natCast_add]
  · apply Table.eq_of_getD_eq {}
    · rw [Schema.keys_facts_pair, ScanState.facts_finish, ScanState.facts_finish,
        hcontinues.keys_eq]
    · intro key
      rw [← FileScan.factsOf, ← Schema.factsOf, Schema.factsOf_pair, ScanState.factsOf_finish,
        ScanState.factsOf_finish, hcontinues.factsOf_eq]

/-- The first piece ends with a carriage return, which becomes part of the line end
in the whole. -/
def returnPiece : String :=
  "CFG->GetBool(\"b\", 1);\nCFG->GetMaybeBool(\"a\");\r"

/-- The second piece reads a key of the first again, and a fail-fast statement
follows. -/
def markedPiece : String :=
  "CFG->GetBool(\"a\", 2);\nCFG->FailIfErrorLast();"

theorem scanText_append_lineFeed_return :
    (scanStatements Variant.config "src/config_game.cpp"
        (statements Variant.config returnPiece)).inSection = false ∧
      (scanStatements Variant.config "src/config_game.cpp"
        (statements Variant.config returnPiece)).strict = false ∧
      (scanText Variant.config "src/config_game.cpp" markedPiece).diagnostics = [] ∧
      (scanText Variant.config "src/config_game.cpp"
          (returnPiece ++ "\n" ++ markedPiece)).lines = 4 ∧
      (scanText Variant.config "src/config_game.cpp"
          (returnPiece ++ "\n" ++ markedPiece)).facts =
        (Schema.ofScans [scanText Variant.config "src/config_game.cpp" returnPiece,
          scanText Variant.config "src/config_game.cpp" markedPiece]).facts := by
  have hsection : (scanStatements Variant.config "src/config_game.cpp"
      (statements Variant.config returnPiece)).inSection = false := by decide +kernel
  have hstrict : (scanStatements Variant.config "src/config_game.cpp"
      (statements Variant.config returnPiece)).strict = false := by decide +kernel
  have hback : (scanText Variant.config "src/config_game.cpp" markedPiece).diagnostics = [] := by
    decide +kernel
  have hlines : (scanText Variant.config "src/config_game.cpp" returnPiece).lines +
      (scanText Variant.config "src/config_game.cpp" markedPiece).lines = 4 := by decide +kernel
  obtain ⟨-, -, hwhole, hfacts⟩ := scanText_append_lineFeed Variant.config "src/config_game.cpp"
    returnPiece markedPiece hsection hstrict hback
  exact ⟨hsection, hstrict, hback, hwhole.trans hlines, hfacts⟩

end ConfigReference
