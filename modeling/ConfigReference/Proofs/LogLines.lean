import ConfigReference.Proofs.CommandEffects
import ConfigReference.Proofs.SchemaDump
import ConfigReference.Proofs.Utf8
import Mathlib.Data.List.Forall2

/-!
# The lines of a diagnostic log

However a log is written to, its file keeps what it held and gets one line for
each diagnostic, in order.  A line is in visible ASCII, so no character of a
message can end it early, and it is read back as the diagnostic.  The counts of
the log are the numbers of these lines.
-/

namespace ConfigReference

open File (FileAction History Location Path Tree)

/-! ## Lines of octets -/

namespace Text

/-- The lines of a file, without the line feeds that end them.  Octets behind the
last line feed are a line as well. -/
def octetLines : List UInt8 → List (List UInt8)
  | [] => []
  | octet :: rest =>
    if octet = 10 then [] :: octetLines rest
    else
      match octetLines rest with
      | [] => [[octet]]
      | line :: lines => (octet :: line) :: lines

theorem octetLines_line {line : List UInt8} (hline : 10 ∉ line) (rest : List UInt8) :
    octetLines (line ++ 10 :: rest) = line :: octetLines rest := by
  induction line with
  | nil => rfl
  | cons octet line ih =>
    rw [List.mem_cons, not_or] at hline
    rw [List.cons_append, octetLines, if_neg (Ne.symm hline.1), ih hline.2]

/-- Lines that are all ended are not touched by what follows them. -/
theorem octetLines_append {old : List UInt8} (hold : old = [] ∨ old.getLast? = some 10)
    (rest : List UInt8) : octetLines (old ++ rest) = octetLines old ++ octetLines rest := by
  rcases hold with rfl | hlast
  · rfl
  · obtain ⟨front, rfl⟩ := List.getLast?_eq_some_iff.mp hlast
    obtain ⟨line, lines, hended, happended⟩ : ∃ line lines,
        octetLines (front ++ [10]) = line :: lines ∧
        octetLines (front ++ [10] ++ rest) = line :: (lines ++ octetLines rest) := by
      induction front with
      | nil => exact ⟨[], [], rfl, rfl⟩
      | cons octet front ih =>
        obtain ⟨line, lines, hended, happended⟩ := ih (List.getLast?_concat ..)
        simp only [List.cons_append, octetLines, hended, happended]
        by_cases hfeed : octet = 10
        · exact ⟨[], line :: lines, by simp [hfeed], by simp [hfeed]⟩
        · exact ⟨octet :: line, lines, by simp [hfeed], by simp [hfeed]⟩
    rw [hended, happended, List.cons_append]

theorem octetLines_flatMap {lines : List (List UInt8)} (hlines : ∀ line ∈ lines, 10 ∉ line) :
    octetLines (lines.flatMap (· ++ [10])) = lines := by
  induction lines with
  | nil => rfl
  | cons line lines ih =>
    rw [List.forall_mem_cons] at hlines
    rw [List.flatMap_cons, List.append_assoc, List.singleton_append, octetLines_line hlines.1,
      ih hlines.2]

end Text

/-! ## Visible characters -/

namespace Json

/-- Whether a character is in ASCII and no control. -/
def isVisible (c : Char) : Bool :=
  0x20 ≤ c.toNat && c.toNat ≤ 0x7E

theorem isVisible_iff {c : Char} : isVisible c = true ↔ 0x20 ≤ c.toNat ∧ c.toNat ≤ 0x7E := by
  simp [isVisible]

theorem isVisible_of_shortEscape? {mark c : Char} (hmark : shortEscape? mark = some c) :
    isVisible mark = true := by
  unfold shortEscape? at hmark
  split_ifs at hmark <;> subst_vars <;> decide

theorem isVisible_digitChar : ∀ digit < 16, isVisible (Nat.digitChar digit) = true := by
  decide

theorem isVisible_unitEscape {code : Nat} (hcode : code < 0x10000) :
    ∀ c ∈ unitEscape code, isVisible c = true := by
  rw [unitEscape, toList_hexText hcode]
  simp only [List.forall_mem_cons]
  exact ⟨by decide, by decide, isVisible_digitChar _ (by omega), isVisible_digitChar _ (by omega),
    isVisible_digitChar _ (by omega), isVisible_digitChar _ (by omega), List.forall_mem_nil _⟩

theorem isVisible_asciiChar (char : Char) : ∀ c ∈ asciiChar char, isVisible c = true := by
  have hvalid : char.toNat < 0xD800 ∨ 0xDFFF < char.toNat ∧ char.toNat < 0x110000 := char.valid
  rw [asciiChar]
  cases hescape : sharedEscape? char with
  | some escape =>
    obtain ⟨mark, rfl, -, hmark⟩ := exists_mark_of_sharedEscape? hescape
    simp only [List.forall_mem_cons]
    exact ⟨by decide, isVisible_of_shortEscape? hmark, List.forall_mem_nil _⟩
  | none =>
    dsimp only
    split
    · next hvisible =>
      intro c hc
      obtain rfl := List.mem_singleton.mp hc
      exact isVisible_iff.mpr ⟨hvisible.1, by omega⟩
    · split
      · next hbasic => exact isVisible_unitEscape hbasic
      · intro c hc
        rcases List.mem_append.mp hc with hhigh | hlow
        · exact isVisible_unitEscape (by omega) c hhigh
        · exact isVisible_unitEscape (by omega) c hlow

theorem isVisible_stringWith (text : String) :
    ∀ c ∈ stringWith asciiChar text, isVisible c = true := by
  intro c hc
  simp only [stringWith, List.cons_append, List.mem_cons, List.mem_append, List.mem_flatMap,
    List.not_mem_nil, or_false] at hc
  rcases hc with rfl | ⟨char, -, hchar⟩ | rfl
  · decide
  · exact isVisible_asciiChar char c hchar
  · decide

theorem isVisible_toString (value : Int) : ∀ c ∈ (toString value).toList, isVisible c = true := by
  have hdigits : ∀ (number : Nat), ∀ c ∈ Nat.toDigits 10 number, isVisible c = true := by
    intro number c hc
    have hdigit := isDigit_of_mem_toDigits hc
    simp only [Text.isDigit, Bool.and_eq_true, decide_eq_true_eq] at hdigit
    have hleast : '0'.toNat ≤ c.toNat := hdigit.1
    have hgreatest : c.toNat ≤ '9'.toNat := hdigit.2
    exact isVisible_iff.mpr
      ⟨Nat.le_trans (by decide) hleast, Nat.le_trans hgreatest (by decide)⟩
  rcases lt_or_ge value 0 with hsign | hsign
  · rw [toList_toString_of_neg hsign, List.forall_mem_cons]
    exact ⟨by decide, hdigits _⟩
  · rw [toList_toString_of_nonneg hsign]
    exact hdigits _

theorem isVisible_leaf (value : Json) : ∀ c ∈ leaf asciiChar value, isVisible c = true := by
  cases value with
  | bool flag => cases flag <;> exact List.all_eq_true.mp (by decide)
  | integer value => exact isVisible_toString value
  | decimal mantissa exponent =>
    intro c hc
    rcases List.mem_append.mp hc with hmantissa | hc
    · exact isVisible_toString mantissa c hmantissa
    · rcases List.mem_cons.mp hc with rfl | hexponent
      · decide
      · exact isVisible_toString exponent c hexponent
  | string text => exact isVisible_stringWith text
  | list items => exact List.all_eq_true.mp (by rfl)
  | object members => exact List.all_eq_true.mp (by rfl)
  | _ => exact List.all_eq_true.mp (by decide)

mutual

theorem isVisible_inlined : ∀ (value : Json), ∀ c ∈ inlined value, isVisible c = true
  | .list (item :: items) => by
    intro c hc
    simp only [inlined, List.cons_append, List.mem_cons, List.mem_append, List.not_mem_nil,
      or_false] at hc
    rcases hc with rfl | (hitem | hitems) | rfl
    · decide
    · exact isVisible_inlined item c hitem
    · exact isVisible_inlinedItems items c hitems
    · decide
  | .object ((name, value) :: members) => by
    intro c hc
    simp only [inlined, List.cons_append, List.mem_cons, List.mem_append, List.not_mem_nil,
      or_false] at hc
    rcases hc with rfl | (((hname | hcolon) | hvalue) | hmembers) | rfl
    · decide
    · exact isVisible_stringWith name c hname
    · exact List.all_eq_true.mp (by decide) c hcolon
    · exact isVisible_inlined value c hvalue
    · exact isVisible_inlinedMembers members c hmembers
    · decide
  | .list [] => isVisible_leaf _
  | .object [] => isVisible_leaf _
  | .null => isVisible_leaf _
  | .bool _ => isVisible_leaf _
  | .integer _ => isVisible_leaf _
  | .decimal _ _ => isVisible_leaf _
  | .nonFinite => isVisible_leaf _
  | .string _ => isVisible_leaf _

theorem isVisible_inlinedItems : ∀ (items : List Json), ∀ c ∈ inlinedItems items, isVisible c = true
  | [] => nofun
  | item :: items => by
    intro c hc
    rw [inlinedItems, List.mem_append, List.mem_append] at hc
    rcases hc with (hcomma | hitem) | hitems
    · exact List.all_eq_true.mp (by decide) c hcomma
    · exact isVisible_inlined item c hitem
    · exact isVisible_inlinedItems items c hitems

theorem isVisible_inlinedMembers :
    ∀ (members : List (String × Json)), ∀ c ∈ inlinedMembers members, isVisible c = true
  | [] => nofun
  | (name, value) :: members => by
    intro c hc
    simp only [inlinedMembers, List.mem_append] at hc
    rcases hc with (((hcomma | hname) | hcolon) | hvalue) | hmembers
    · exact List.all_eq_true.mp (by decide) c hcomma
    · exact isVisible_stringWith name c hname
    · exact List.all_eq_true.mp (by decide) c hcolon
    · exact isVisible_inlined value c hvalue
    · exact isVisible_inlinedMembers members c hmembers

end

end Json

/-! ## Records -/

/-- The octets of a visible text are those of its characters. -/
theorem Text.encodeUtf8_visible {text : List Char} (htext : ∀ c ∈ text, Json.isVisible c = true) :
    ∀ octet ∈ encodeUtf8 text, 0x20 ≤ octet ∧ octet ≤ 0x7E := by
  intro octet hoctet
  obtain ⟨c, hc, hencoded⟩ := List.mem_flatMap.mp hoctet
  obtain ⟨hleast, hgreatest⟩ := Json.isVisible_iff.mp (htext c hc)
  rw [utf8EncodeChar_one (by omega)] at hencoded
  obtain rfl := List.mem_singleton.mp hencoded
  rw [UInt8.le_iff_toNat_le, UInt8.le_iff_toNat_le, toNat_ofNat_octet (by omega)]
  exact ⟨hleast, hgreatest⟩

theorem Text.encodeUtf8_append (left right : List Char) :
    encodeUtf8 (left ++ right) = encodeUtf8 left ++ encodeUtf8 right :=
  List.flatMap_append

namespace DiagnosticLog

/-- A diagnostic with what is written beside it. -/
structure Record where
  time : String
  variant : String
  diagnostic : Diagnostic

namespace Record

def members (record : Record) : List (String × Json) :=
  ("timestamp", .string record.time) :: ("variant", .string record.variant) ::
    record.diagnostic.members

/-- The octets of the line of a record. -/
def octets (record : Record) : List UInt8 :=
  Text.encodeUtf8 (line record.time record.variant record.diagnostic).toList

/-- Octets spell a record: they are visible ASCII, and what is read from them is an
object with the members of the record, which gives its diagnostic. -/
def SpelledBy (record : Record) (octets : List UInt8) : Prop :=
  (∀ octet ∈ octets, 0x20 ≤ octet ∧ octet ≤ 0x7E) ∧
    ∃ text members, Text.decodeUtf8 octets = .ok text ∧
      Json.parse? text = some (.object members) ∧
      Json.member? members "timestamp" = some (.string record.time) ∧
      Json.member? members "variant" = some (.string record.variant) ∧
      Diagnostic.ofJson (.object members) = .ok record.diagnostic

theorem toList_line (record : Record) :
    (line record.time record.variant record.diagnostic).toList =
      Json.inlined (.object record.members) :=
  String.toList_ofList

theorem ofJson_members (record : Record) :
    Diagnostic.ofJson (.object record.members) = .ok record.diagnostic := by
  obtain ⟨time, variant, kind, message, file, line, key⟩ := record
  cases kind <;> cases key <;> rfl

theorem spelledBy_octets {record : Record}
    (hline : record.diagnostic.line.natAbs < 10 ^ Json.digitLimit) :
    record.SpelledBy record.octets := by
  have hfits : Json.Fits Json.nestingLimit (.object record.members) := by
    simp [members, Json.Fits, Json.nestingLimit, Diagnostic.members, Json.fits_optionalText, hline]
  refine ⟨?_, Json.inlined (.object record.members), record.members, ?_, Json.parse?_inlined hfits,
    rfl, rfl, ofJson_members record⟩
  · rw [octets, toList_line]
    exact Text.encodeUtf8_visible (Json.isVisible_inlined _)
  · rw [octets, toList_line, Text.decodeUtf8_encodeUtf8]

end Record

/-! ## Writing -/

/-- Writes the line of a record. -/
def writeRecord (working : Location) (log : DiagnosticLog) (record : Record) :
    FileAction DiagnosticLog :=
  write working record.time record.variant log record.diagnostic

/-- One use of a log.  Each line has a time of its own. -/
inductive Call
  | one (time variant : String) (diagnostic : Diagnostic)
  | all (times : Nat → String) (variant : String) (diagnostics : List Diagnostic)

namespace Call

def run (working : Location) (log : DiagnosticLog) : Call → FileAction DiagnosticLog
  | one time variant diagnostic => write working time variant log diagnostic
  | all times variant diagnostics => writeAll working times variant log diagnostics

def records : Call → List Record
  | one time variant diagnostic => [⟨time, variant, diagnostic⟩]
  | all times variant diagnostics =>
    diagnostics.zipIdx.map fun (diagnostic, index) => ⟨times index, variant, diagnostic⟩

theorem run_eq_foldlM (working : Location) (log : DiagnosticLog) (call : Call) :
    call.run working log = call.records.foldlM (writeRecord working) log := by
  cases call with
  | one time variant diagnostic =>
    rw [records, List.foldlM_cons]
    exact (bind_pure _).symm
  | all times variant diagnostics =>
    rw [records, List.foldlM_map]
    rfl

/-- Uses of a log one after the other write all of their records. -/
theorem foldlM_run (working : Location) (log : DiagnosticLog) (calls : List Call) :
    calls.foldlM (fun log call => call.run working log) log =
      (calls.flatMap records).foldlM (writeRecord working) log := by
  induction calls generalizing log with
  | nil => rfl
  | cons call calls ih =>
    rw [List.foldlM_cons, List.flatMap_cons, List.foldlM_append, run_eq_foldlM]
    exact bind_congr ih

end Call

section Run

variable {working : Location} {tree : Tree} {log : DiagnosticLog} {held : List UInt8}

/-- The file of a log can be written to, and holds the octets. -/
structure Open (working : Location) (log : DiagnosticLog) (held : List UInt8) (tree : Tree) :
    Prop where
  hasNull : log.path.hasNull = false
  slot : tree.slot working log.path = .ok (some (log.path.locate working))
  file : tree.file? (log.path.locate working) = some held

theorem Open.put (hopen : Open working log held tree) (octets : List UInt8) (counts : LogCounts) :
    Open working { log with counts := counts } octets
      (tree.put (log.path.locate working) (.file octets)) := by
  obtain ⟨-, hroot⟩ := Tree.slot_location hopen.slot
  have hnode := Tree.file?_eq_some_iff.mp hopen.file
  have hreceives : tree.Receives _ _ octets := Tree.receives_put hroot (by rw [hnode]; nofun)
  exact ⟨hopen.hasNull, hreceives.grows.slot hopen.slot, hreceives.held⟩

/-- One record is added at the end. -/
theorem yields_writeRecord (hopen : Open working log held tree) (record : Record) :
    Yields History.tree (writeRecord working log record) tree
      { log with counts := log.counts.add record.diagnostic.kind }
      (tree.put (log.path.locate working) (.file (held ++ (record.octets ++ [10])))) := by
  have hnode := Tree.file?_eq_some_iff.mp hopen.file
  have hoctets : Text.encodeUtf8
      (line record.time record.variant record.diagnostic ++ "\n").toList =
        record.octets ++ [10] := by
    rw [String.toList_append, Text.encodeUtf8_append]
    rfl
  have happend : Yields History.tree (FileAction.append working log.path
      (line record.time record.variant record.diagnostic ++ "\n")) tree ()
      (tree.put (log.path.locate working) (.file (held ++ (record.octets ++ [10])))) := by
    apply (File.yields_guardNull tree hopen.hasNull).bind
    apply File.yields_tree
    rw [Tree.append, hopen.slot]
    simp only [hnode, hoctets]
    exact File.yields_change _ _
  exact happend.bind (Yields.pure _)

/-- Records that are written one after the other are added in order. -/
theorem yields_foldlM_writeRecord (hopen : Open working log held tree) (records : List Record) :
    Yields History.tree (records.foldlM (writeRecord working) log) tree
      { log with
        counts := (records.map fun record => record.diagnostic.kind).foldl LogCounts.add log.counts }
      (tree.put (log.path.locate working)
        (.file (held ++ (records.map Record.octets).flatMap (· ++ [10])))) := by
  induction records generalizing log held tree with
  | nil =>
    obtain ⟨-, hroot⟩ := Tree.slot_location hopen.slot
    have hnode := Tree.file?_eq_some_iff.mp hopen.file
    have hsame : tree.put (log.path.locate working)
        (.file (held ++ (List.map Record.octets []).flatMap (· ++ [10]))) = tree := by
      rw [List.map_nil, List.flatMap_nil, List.append_nil, Tree.put_eq_self hroot hnode]
    rw [hsame]
    exact Yields.pure log
  | cons record records ih =>
    rw [List.foldlM_cons]
    apply (yields_writeRecord hopen record).bind
    have hrest := ih (hopen.put (held ++ (record.octets ++ [10]))
      (log.counts.add record.diagnostic.kind))
    simp only [Tree.put_put, List.append_assoc] at hrest
    simpa [List.append_assoc] using hrest

end Run

/-! ## Counts -/

theorem foldl_add (kinds : List DiagnosticKind) (counts : LogCounts) :
    kinds.foldl LogCounts.add counts =
      ⟨counts.logged + kinds.length, counts.orphaned + kinds.count .orphanedStatement,
        counts.unrecognized + kinds.count .unrecognizedAccessor⟩ := by
  induction kinds generalizing counts with
  | nil => rfl
  | cons kind kinds ih =>
    rw [List.foldl_cons, ih]
    cases kind <;> simp [LogCounts.add] <;> omega

/-- There is no third kind. -/
theorem length_eq_count_add_count (kinds : List DiagnosticKind) :
    kinds.length = kinds.count .orphanedStatement + kinds.count .unrecognizedAccessor := by
  induction kinds with
  | nil => rfl
  | cons kind kinds ih => cases kind <;> simp <;> omega

/-! ## The law -/

theorem open_of_octets {working : Location} {path : Path} {tree : Tree} {held : List UInt8}
    (hnull : path.hasNull = false) (hname : path.name ≠ "" ∧ path.name ≠ "..")
    (hheld : tree.octets working path = .ok held) :
    Open working { path := path } held tree := by
  obtain ⟨location, hfind⟩ := Tree.octets_eq_ok_iff.mp hheld
  obtain ⟨hshort, hwalk, hnode⟩ := Tree.find_eq_ok_iff.mp hfind
  have hparts : path.parts ≠ [] := by
    intro hparts
    apply hname.1
    rw [Path.name, hparts]
    rfl
  have hlast := Tree.getLast?_parts hparts
  rw [Tree.parts_eq_of_getLast? hlast] at hwalk
  obtain ⟨directory, hfront, hback⟩ := Tree.walk_append hwalk
  obtain ⟨next, henter, hnil⟩ := Tree.walk_cons_eq_ok hback
  cases hnil
  obtain ⟨hdirectory, rfl, hentered⟩ := Tree.enter_eq_ok henter
  have hslot : tree.slot working path = .ok (some (directory ++ [path.name])) :=
    Tree.slot_eq_some_iff.mpr ⟨hshort, directory, path.name, hlast, hfront, hdirectory, hname.2,
      (hentered hname.2).1, rfl⟩
  rw [(Tree.slot_location hslot).1] at hslot
  exact ⟨hnull, hslot, Tree.file?_of_octets hheld⟩

/-- A log that is opened on a file keeps what the file holds.  All that is written
to it comes behind, one line for each diagnostic, and each line is read back as
its diagnostic.  No other file changes, and the counts are those of the lines. -/
theorem log_keeps_every_diagnostic {working : Location} {path : Path} {history opened : History}
    {log : DiagnosticLog} {old : List UInt8} (calls : List Call)
    (hstart : start working path history = .ok log opened)
    (hname : path.name ≠ "" ∧ path.name ≠ "..")
    (hheld : opened.tree.octets working path = .ok old)
    (hended : old = [] ∨ old.getLast? = some 10)
    (hlines : ∀ record ∈ calls.flatMap Call.records,
      record.diagnostic.line.natAbs < 10 ^ Json.digitLimit) :
    (history.tree.file? (path.locate working) = some old ∨
      history.tree.node? (path.locate working) = none ∧ old = []) ∧
    ∃ final finish lines,
      calls.foldlM (fun log call => call.run working log) log opened = .ok final finish ∧
      finish.tree.octets working path = .ok (old ++ lines.flatMap (· ++ [10])) ∧
      Text.octetLines (old ++ lines.flatMap (· ++ [10])) = Text.octetLines old ++ lines ∧
      List.Forall₂ Record.SpelledBy (calls.flatMap Call.records) lines ∧
      (∀ other, other ≠ path.locate working →
        finish.tree.file? other = opened.tree.file? other) ∧
      final.counts.logged = lines.length ∧
      final.counts.logged = final.counts.orphaned + final.counts.unrecognized ∧
      final.counts.orphaned = ((calls.flatMap Call.records).map fun record =>
        record.diagnostic.kind).count .orphanedStatement ∧
      final.counts.unrecognized = ((calls.flatMap Call.records).map fun record =>
        record.diagnostic.kind).count .unrecognizedAccessor := by
  obtain ⟨rfl, hnull, htouched⟩ := (start_ends working path history).of_ok hstart
  have hopen := open_of_octets hnull hname hheld
  generalize hrecords : calls.flatMap Call.records = records at hlines ⊢
  obtain ⟨finish, hrun, hfinish⟩ := yields_foldlM_writeRecord hopen records opened rfl
  obtain ⟨-, hroot⟩ := Tree.slot_location hopen.slot
  have hreceives : opened.tree.Receives finish.tree (path.locate working)
      (old ++ (records.map Record.octets).flatMap (· ++ [10])) := by
    rw [hfinish]
    apply Tree.receives_put hroot
    rw [Tree.file?_eq_some_iff.mp hopen.file]
    nofun
  have hspelled : ∀ record ∈ records, record.SpelledBy record.octets :=
    fun record hrecord => Record.spelledBy_octets (hlines record hrecord)
  have hfeeds : ∀ line ∈ records.map Record.octets, 10 ∉ line := by
    intro line hline hfeed
    obtain ⟨record, hrecord, rfl⟩ := List.mem_map.mp hline
    exact absurd ((hspelled record hrecord).1 10 hfeed).1 (by decide)
  rw [Call.foldlM_run, hrecords]
  refine ⟨?_, _, finish, records.map Record.octets, hrun, hreceives.grows.octets hheld hreceives.held,
    ?_, ?_, hreceives.others, ?_⟩
  · rw [← Tree.file?_of_octets hheld]
    rcases htouched.empty with hsame | ⟨hfree, hempty⟩
    · exact .inl hsame.symm
    · rw [Tree.file?_of_octets hheld, Option.some.injEq] at hempty
      exact .inr ⟨hfree, hempty⟩
  · rw [Text.octetLines_append hended, Text.octetLines_flatMap hfeeds]
  · rw [List.forall₂_map_right_iff, List.forall₂_same]
    exact hspelled
  · have hkinds := length_eq_count_add_count (records.map fun record => record.diagnostic.kind)
    dsimp only
    rw [foldl_add]
    refine ⟨by simp, ?_, Nat.zero_add _, Nat.zero_add _⟩
    dsimp only
    omega

/-- A file with one line of no log. -/
def oldLines : History where
  tree := Tree.put {} ["d.jsonl"] (.file (Text.encodeUtf8 "x\n".toList))

/-- Texts with line ends, quotes, controls and characters of every plane. -/
def unrulyCalls : List Call :=
  [.one "t" "\"\n\"" { kind := .orphanedStatement, message := "a\r\n\x00\x7f\\ é \u2028 😀" },
   .all (fun index => if index = 0 then "u" else "v") ""
     [{ kind := .unrecognizedAccessor, message := "", line := 9223372036854775807 },
      { kind := .unrecognizedAccessor, message := "�", key := some "\n" }]]

theorem log_keeps_every_diagnostic_unruly :
    ∃ log opened final finish lines, start [] (Path.ofString "d.jsonl") oldLines = .ok log opened ∧
      unrulyCalls.foldlM (fun log call => call.run [] log) log opened = .ok final finish ∧
      finish.tree.octets [] (Path.ofString "d.jsonl") =
        .ok (Text.encodeUtf8 "x\n".toList ++ lines.flatMap (· ++ [10])) ∧
      List.Forall₂ Record.SpelledBy (unrulyCalls.flatMap Call.records) lines ∧
      final.counts = ⟨3, 1, 2⟩ := by
  have hvalue : value? (start [] (Path.ofString "d.jsonl") oldLines) =
      some { path := Path.ofString "d.jsonl" } := by
    decide +kernel
  have hstart := value?_eq_some hvalue
  obtain ⟨-, final, finish, lines, hrun, hoctets, -, hspelled, -, hlogged, -, horphaned,
    hunrecognized⟩ := log_keeps_every_diagnostic unrulyCalls hstart (by decide) (by rfl)
      (.inr (by decide +kernel)) (by decide +kernel)
  refine ⟨_, _, final, finish, lines, hstart, hrun, hoctets, hspelled, ?_⟩
  rw [← hspelled.length_eq] at hlogged
  obtain ⟨path, logged, orphaned, unrecognized⟩ := final
  dsimp only at hlogged horphaned hunrecognized
  subst hlogged horphaned hunrecognized
  rfl

end DiagnosticLog

end ConfigReference
