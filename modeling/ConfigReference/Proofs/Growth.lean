import ConfigReference.Proofs.JoinedText

/-!
# What is found stays

Neither a further line of a file nor a further file takes anything back.  Entries
and diagnostics are appended, keys stay in the place where they arrived, and what
is known of a key is only merged with more: a reload mode may give way to another
one, but a mode that is set stays set, and so does the fail-fast mark.  As growth
is a preorder, it is enough to look at one line and at one file.
-/

namespace ConfigReference

/-! ## Facts that are kept -/

/-- What later facts about a key owe to earlier ones. -/
structure Facts.KeptBy (facts later : Facts) : Prop where
  reload : facts.reload ≠ .unset → later.reload ≠ .unset
  failFast : facts.failFast = true → later.failFast = true

namespace Facts

theorem KeptBy.refl (facts : Facts) : facts.KeptBy facts :=
  ⟨id, id⟩

theorem KeptBy.trans {first second third : Facts} (hfirst : first.KeptBy second)
    (hsecond : second.KeptBy third) : first.KeptBy third where
  reload := fun hset => hsecond.reload (hfirst.reload hset)
  failFast := fun hmark => hsecond.failFast (hfirst.failFast hmark)

theorem keptBy_merge (facts further : Facts) : facts.KeptBy (facts.merge further) where
  reload := by
    intro hset
    rw [merge]
    split
    · exact hset
    · next hfurther => exact hfurther
  failFast := by
    intro hmark
    rw [merge, hmark, Bool.true_or]

end Facts

/-! ## Growth -/

/-- What has been found so far, in a file or in several of them. -/
structure Findings where
  entries : List Entry
  facts : Table String Facts
  diagnostics : List Diagnostic

def FileScan.findings (scan : FileScan) : Findings :=
  ⟨scan.entries, scan.facts, scan.diagnostics⟩

def Schema.findings (schema : Schema) : Findings :=
  ⟨schema.entries, schema.facts, schema.diagnostics⟩

namespace Findings

/-- Nothing that was found before is missing later, or stands in another place. -/
structure Grows (before after : Findings) : Prop where
  entries : before.entries <+: after.entries
  diagnostics : before.diagnostics <+: after.diagnostics
  keys : before.facts.keys <+: after.facts.keys
  facts : ∀ key facts, before.facts.find? key = some facts →
    ∃ later, after.facts.find? key = some later ∧ facts.KeptBy later

theorem Grows.refl (findings : Findings) : findings.Grows findings where
  entries := List.prefix_refl _
  diagnostics := List.prefix_refl _
  keys := List.prefix_refl _
  facts := fun _ facts hfind => ⟨facts, hfind, Facts.KeptBy.refl facts⟩

theorem Grows.trans {before middle after : Findings} (hfirst : before.Grows middle)
    (hsecond : middle.Grows after) : before.Grows after where
  entries := hfirst.entries.trans hsecond.entries
  diagnostics := hfirst.diagnostics.trans hsecond.diagnostics
  keys := hfirst.keys.trans hsecond.keys
  facts := by
    intro key facts hfind
    obtain ⟨between, hbetween, hkept⟩ := hfirst.facts key facts hfind
    obtain ⟨later, hlater, hkept'⟩ := hsecond.facts key between hbetween
    exact ⟨later, hlater, hkept.trans hkept'⟩

/-- Findings grow if rows are appended to, and facts merged with others. -/
theorem grows_of_merge {before after : Findings} {entries : List Entry}
    {diagnostics : List Diagnostic} {names : List String} (further : String → Facts)
    (hentries : after.entries = before.entries ++ entries)
    (hdiagnostics : after.diagnostics = before.diagnostics ++ diagnostics)
    (hkeys : after.facts.keys = (before.facts.keys ++ names).eraseDups)
    (hfacts : ∀ key, (after.facts.find? key).getD {} =
      ((before.facts.find? key).getD {}).merge (further key)) :
    before.Grows after := by
  have hkeysPrefix : before.facts.keys <+: after.facts.keys := by
    rw [hkeys, List.eraseDups_append, eraseDups_eq_self before.facts.nodup_keys]
    exact List.prefix_append _ _
  refine ⟨?_, ?_, hkeysPrefix, ?_⟩
  · rw [hentries]
    exact List.prefix_append _ _
  · rw [hdiagnostics]
    exact List.prefix_append _ _
  · intro key facts hfind
    have hkey : key ∈ before.facts.keys :=
      Table.find?_ne_none_iff.mp (hfind ▸ Option.some_ne_none facts)
    refine ⟨_, Table.find?_eq_some_getD (hkeysPrefix.mem hkey) {}, ?_⟩
    rw [hfacts key, hfind]
    exact facts.keptBy_merge (further key)

end Findings

/-! ## Further lines and further files -/

namespace ScanState

variable (variant : Variant) (state : ScanState)

theorem grows_step (statement : Option Statement) :
    state.scan.findings.Grows (state.step variant statement).scan.findings :=
  Findings.grows_of_merge (fun key => state.contribution variant key statement)
    (state.entries_step variant statement) (state.diagnostics_step variant statement)
    (state.keys_step variant statement) fun key => state.factsOf_step variant key statement

theorem grows_foldl_step (lines : List (Option Statement)) :
    state.scan.findings.Grows (lines.foldl (step variant) state).scan.findings := by
  induction lines generalizing state with
  | nil => exact Findings.Grows.refl _
  | cons line lines ih =>
    rw [List.foldl_cons]
    exact (state.grows_step variant line).trans (ih (state.step variant line))

end ScanState

theorem Schema.grows_add (schema : Schema) (scan : FileScan) :
    schema.findings.Grows (schema.add scan).findings :=
  Findings.grows_of_merge scan.factsOf rfl rfl (schema.keys_facts_add scan)
    (schema.factsOf_add scan)

/-- Going on with a text only adds to what the scan of its beginning found, whatever
state the beginning leaves and whatever the further lines say; and adding a scan only
adds to a schema. -/
theorem scanning_only_adds (variant : Variant) (file text further : String) :
    (scanText variant file text).findings.Grows
        (scanText variant file (text ++ "\n" ++ further)).findings ∧
      ∀ (schema : Schema) (scan : FileScan), schema.findings.Grows (schema.add scan).findings := by
  constructor
  · rw [scanText, scanText, statements_append_lineFeed, scanStatements_append]
    exact ScanState.grows_foldl_step variant _ (statements variant further)
  · exact Schema.grows_add

/-- A mode that is set may still be replaced by a later line. -/
example :
    ((scanText Variant.config "src/config_game.cpp" "CFG->GetInt(\"k\", 1);").facts.find? "k",
      (scanText Variant.config "src/config_game.cpp" ("CFG->GetInt(\"k\", 1);" ++ "\n" ++
        "// == SECTION START: Cannot be reloaded ==\nCFG->GetInt(\"k\", 1);")).facts.find? "k") =
      (some ⟨.nextSession, false⟩, some ⟨.notReloadable, false⟩) := by
  decide +kernel

end ConfigReference
