import ConfigReference.Proofs.ScanStep
import ConfigReference.Schema

/-!
# What a schema collects

A schema is filled scan by scan, and each scan key by key.  This module says in
one step what comes out: the entries and diagnostics of the scans in a row, the
keys in the order in which they are first met, and for each key the last reload
mode that any scan sets and the fail-fast mark if any scan has it.  It follows
that scans may be collected in groups.
-/

namespace ConfigReference

/-! ## Merging facts -/

/-- The last mode of a row that is set; without one nothing is known. -/
def ReloadMode.lastSet (modes : List ReloadMode) : ReloadMode :=
  (modes.filter (· ≠ .unset)).getLast?.getD .unset

theorem ReloadMode.lastSet_append (front back : List ReloadMode) :
    lastSet (front ++ back) = if lastSet back = .unset then lastSet front else lastSet back := by
  rw [lastSet, List.filter_append, List.getLast?_append]
  cases hlast : (back.filter (· ≠ .unset)).getLast? with
  | none =>
    have hback : lastSet back = .unset := by rw [lastSet, hlast, Option.getD_none]
    rw [if_pos hback, Option.none_or, lastSet]
  | some mode =>
    have hback : lastSet back = mode := by rw [lastSet, hlast, Option.getD_some]
    have hset : mode ≠ .unset := by simpa using (List.mem_filter.mp (List.mem_of_getLast? hlast)).2
    rw [hback, if_neg hset, Option.some_or, Option.getD_some]

namespace Facts

theorem default_merge (facts : Facts) : ({} : Facts).merge facts = facts := by
  obtain ⟨reload, failFast⟩ := facts
  cases reload <;> simp [merge]

theorem merge_assoc (first second third : Facts) :
    (first.merge second).merge third = first.merge (second.merge third) := by
  simp only [merge, Bool.or_assoc, mk.injEq, and_true]
  split_ifs <;> simp_all

/-- What several records of one key amount to. -/
def combined (records : List Facts) : Facts where
  reload := ReloadMode.lastSet (records.map reload)
  failFast := records.any failFast

theorem combined_append (front back : List Facts) :
    combined (front ++ back) = (combined front).merge (combined back) := by
  rw [combined, List.map_append, ReloadMode.lastSet_append, List.any_append]
  rfl

theorem combined_toList (record : Option Facts) : combined record.toList = record.getD {} := by
  obtain _ | ⟨reload, failFast⟩ := record
  · rfl
  · cases reload <;> simp [combined, ReloadMode.lastSet]

end Facts

/-! ## Adding a scan -/

namespace Schema

theorem keys_foldl_mergeFacts (table : Table String Facts) (pairs : List (String × Facts)) :
    (pairs.foldl mergeFacts table).keys = (table.keys ++ pairs.map Prod.fst).eraseDups := by
  induction pairs generalizing table with
  | nil => rw [List.foldl_nil, List.map_nil, List.append_nil, eraseDups_eq_self table.nodup_keys]
  | cons pair rest ih =>
    rw [List.foldl_cons, ih, mergeFacts, Table.keys_update, eraseDups_eraseDups_append,
      List.append_assoc]
    rfl

theorem getD_find?_mergeFacts (table : Table String Facts) (pair : String × Facts) (key : String) :
    ((mergeFacts table pair).find? key).getD {} =
      ((table.find? key).getD {}).merge (if pair.1 = key then pair.2 else {}) := by
  rw [mergeFacts, Table.find?_update]
  split
  · rfl
  · rw [Facts.merge_default]

/-- A name occurs in one pair at most, so its facts are merged once. -/
theorem getD_find?_foldl_mergeFacts (table : Table String Facts) {pairs : List (String × Facts)}
    (hnodup : (pairs.map Prod.fst).Nodup) (key : String) :
    ((pairs.foldl mergeFacts table).find? key).getD {} =
      ((table.find? key).getD {}).merge ((Table.lookup key pairs).getD {}) := by
  induction pairs generalizing table with
  | nil => rw [List.foldl_nil, Table.lookup, Option.getD_none, Facts.merge_default]
  | cons pair rest ih =>
    obtain ⟨name, facts⟩ := pair
    obtain ⟨hfresh, hrest⟩ := List.nodup_cons.mp hnodup
    rw [List.foldl_cons, ih _ hrest, getD_find?_mergeFacts, Table.lookup]
    by_cases hname : name = key
    · subst hname
      rw [if_pos rfl, if_pos rfl, Table.lookup_eq_none_iff.mpr hfresh, Option.getD_none,
        Facts.merge_default, Option.getD_some]
    · rw [if_neg hname, if_neg hname, Facts.merge_default]

variable (schema : Schema) (scan : FileScan)

theorem keys_facts_add :
    (schema.add scan).facts.keys = (schema.facts.keys ++ scan.facts.keys).eraseDups :=
  keys_foldl_mergeFacts schema.facts scan.facts.entries

theorem factsOf_add (key : String) :
    (schema.add scan).factsOf key = (schema.factsOf key).merge (scan.factsOf key) :=
  getD_find?_foldl_mergeFacts schema.facts scan.facts.distinct key

/-! ## Collecting scans -/

theorem ofScans_append_singleton (scans : List FileScan) (scan : FileScan) :
    ofScans (scans ++ [scan]) = (ofScans scans).add scan := by
  rw [ofScans, List.foldl_append]
  rfl

variable (scans : List FileScan)

/-- A part of the schema that every scan only appends to. -/
theorem part_ofScans {β : Type} (part : Schema → List β) (partOf : FileScan → List β)
    (hempty : part {} = [])
    (hadd : ∀ schema scan, part (schema.add scan) = part schema ++ partOf scan) :
    part (ofScans scans) = scans.flatMap partOf := by
  induction scans using List.reverseRecOn with
  | nil => exact hempty
  | append_singleton scans scan ih =>
    rw [ofScans_append_singleton, hadd, ih, List.flatMap_append, List.flatMap_singleton]

theorem entries_ofScans : (ofScans scans).entries = scans.flatMap FileScan.entries :=
  part_ofScans scans entries FileScan.entries rfl fun _ _ => rfl

theorem diagnostics_ofScans :
    (ofScans scans).diagnostics = scans.flatMap FileScan.diagnostics :=
  part_ofScans scans diagnostics FileScan.diagnostics rfl fun _ _ => rfl

theorem files_ofScans : (ofScans scans).files = scans.map FileScan.file := by
  rw [List.map_eq_flatMap]
  exact part_ofScans scans files (fun scan => [scan.file]) rfl fun _ _ => rfl

theorem keys_facts_ofScans :
    (ofScans scans).facts.keys = (scans.flatMap fun scan => scan.facts.keys).eraseDups := by
  induction scans using List.reverseRecOn with
  | nil => rfl
  | append_singleton scans scan ih =>
    rw [ofScans_append_singleton, keys_facts_add, ih, eraseDups_eraseDups_append,
      List.flatMap_append, List.flatMap_singleton]

/-- The records of a key in a row of scans. -/
def records (key : String) : List Facts :=
  scans.filterMap fun scan => scan.facts.find? key

theorem factsOf_ofScans (key : String) :
    (ofScans scans).factsOf key = Facts.combined (records scans key) := by
  induction scans using List.reverseRecOn with
  | nil => rfl
  | append_singleton scans scan ih =>
    have hlast : records [scan] key = (scan.facts.find? key).toList := by
      cases hfind : scan.facts.find? key <;> simp [records, hfind]
    rw [ofScans_append_singleton, factsOf_add, ih, records, records, List.filterMap_append,
      ← records, ← records, hlast, Facts.combined_append, Facts.combined_toList]
    rfl

theorem find?_facts_ofScans (key : String) :
    (ofScans scans).facts.find? key =
      if key ∈ (ofScans scans).facts.keys then some (Facts.combined (records scans key))
      else none := by
  split
  · next hkey => rw [← factsOf_ofScans, factsOf, ← Table.find?_eq_some_getD hkey]
  · next hkey => exact Table.find?_eq_none_iff.mpr hkey

/-! ## Groups of scans -/

section Groups

variable (front back : List FileScan)

theorem entries_ofScans_append :
    (ofScans (front ++ back)).entries = (ofScans front).entries ++ (ofScans back).entries := by
  rw [entries_ofScans, entries_ofScans, entries_ofScans, List.flatMap_append]

theorem diagnostics_ofScans_append :
    (ofScans (front ++ back)).diagnostics =
      (ofScans front).diagnostics ++ (ofScans back).diagnostics := by
  rw [diagnostics_ofScans, diagnostics_ofScans, diagnostics_ofScans, List.flatMap_append]

theorem keys_facts_ofScans_append :
    (ofScans (front ++ back)).facts.keys =
      ((ofScans front).facts.keys ++ (ofScans back).facts.keys).eraseDups := by
  rw [keys_facts_ofScans, keys_facts_ofScans, keys_facts_ofScans, eraseDups_eraseDups_append,
    eraseDups_append_eraseDups, List.flatMap_append]

theorem factsOf_ofScans_append (key : String) :
    (ofScans (front ++ back)).factsOf key =
      ((ofScans front).factsOf key).merge ((ofScans back).factsOf key) := by
  rw [factsOf_ofScans, factsOf_ofScans, factsOf_ofScans, ← Facts.combined_append, records,
    List.filterMap_append]
  rfl

end Groups

section Pair

variable (first second : FileScan)

theorem keys_facts_pair :
    (ofScans [first, second]).facts.keys =
      (first.facts.keys ++ second.facts.keys).eraseDups := by
  rw [keys_facts_ofScans, List.flatMap_cons, List.flatMap_singleton]

theorem factsOf_pair (key : String) :
    (ofScans [first, second]).factsOf key = (first.factsOf key).merge (second.factsOf key) := by
  have hfirst : (ofScans [first]).factsOf key = first.factsOf key := by
    rw [ofScans, List.foldl_cons, List.foldl_nil, factsOf_add]
    exact Facts.default_merge _
  have hpair : ofScans [first, second] = (ofScans [first]).add second := rfl
  rw [hpair, factsOf_add, hfirst]

end Pair

/-- A schema taken as the scan of one file. -/
def toScan (file : String) (lines : Int) : FileScan :=
  ⟨file, schema.entries, schema.facts, schema.diagnostics, lines⟩

/-- The facts of two groups of scans, collected one after the other. -/
theorem facts_ofScans_toScan (front back : List FileScan) (frontFile backFile : String)
    (frontLines backLines : Int) :
    (ofScans [(ofScans front).toScan frontFile frontLines,
      (ofScans back).toScan backFile backLines]).facts = (ofScans (front ++ back)).facts := by
  apply Table.eq_of_getD_eq {}
  · rw [keys_facts_pair, keys_facts_ofScans_append]
    rfl
  · intro key
    rw [← factsOf, ← factsOf, factsOf_pair, factsOf_ofScans_append]
    rfl

end Schema

/-- What a schema has collected from a row of scans.  The scans may be collected in
two groups: but for the files, the schema is the same. -/
theorem ofScans_closed_form (scans : List FileScan) :
    (Schema.ofScans scans).entries = scans.flatMap FileScan.entries ∧
    (Schema.ofScans scans).diagnostics = scans.flatMap FileScan.diagnostics ∧
    (Schema.ofScans scans).files = scans.map FileScan.file ∧
    (Schema.ofScans scans).facts.keys = (scans.flatMap fun scan => scan.facts.keys).eraseDups ∧
    (∀ key, (Schema.ofScans scans).facts.find? key =
      if key ∈ scans.flatMap (fun scan => scan.facts.keys) then
        some
          { reload := ReloadMode.lastSet ((Schema.records scans key).map Facts.reload)
            failFast := (Schema.records scans key).any Facts.failFast }
      else none) ∧
    ∀ (m : Nat) (frontFile backFile : String) (frontLines backLines : Int),
      let grouped := Schema.ofScans
        [(Schema.ofScans (scans.take m)).toScan frontFile frontLines,
          (Schema.ofScans (scans.drop m)).toScan backFile backLines]
      grouped.entries = (Schema.ofScans scans).entries ∧
        grouped.facts = (Schema.ofScans scans).facts ∧
        grouped.diagnostics = (Schema.ofScans scans).diagnostics := by
  refine ⟨Schema.entries_ofScans scans, Schema.diagnostics_ofScans scans,
    Schema.files_ofScans scans, Schema.keys_facts_ofScans scans, ?_, ?_⟩
  · intro key
    rw [Schema.find?_facts_ofScans, Schema.keys_facts_ofScans, Facts.combined]
    simp only [List.mem_eraseDups]
  · intro m frontFile backFile frontLines backLines
    have hscans : scans.take m ++ scans.drop m = scans := List.take_append_drop m scans
    have hentries := Schema.entries_ofScans_append (scans.take m) (scans.drop m)
    have hfacts := Schema.facts_ofScans_toScan (scans.take m) (scans.drop m) frontFile backFile
      frontLines backLines
    have hdiagnostics := Schema.diagnostics_ofScans_append (scans.take m) (scans.drop m)
    rw [hscans] at hentries hfacts hdiagnostics
    exact ⟨hentries.symm, hfacts, hdiagnostics.symm⟩

end ConfigReference
