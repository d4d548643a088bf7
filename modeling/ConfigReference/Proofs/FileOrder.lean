import ConfigReference.Proofs.Aggregation
import ConfigReference.Proofs.DocumentOrder
import ConfigReference.Proofs.ScanRecord

/-!
# The order of the files

All that a schema knows about a key that is read comes from the files that read
it.  If no two files read the same key, each part of the document therefore comes
from one file, and the order in which the files are scanned cannot be seen in the
document.  Orphans do not spoil this: the facts of the empty key are shared by
all files, but no file reads that key.
-/

namespace ConfigReference

/-- Parts of which at most one is not empty, in any order. -/
theorem flatMap_eq_of_perm {α β : Type} {part : α → List β} {left right : List α}
    (hperm : left.Perm right)
    (halone : left.Pairwise fun first second => part first = [] ∨ part second = []) :
    left.flatMap part = right.flatMap part := by
  induction hperm with
  | nil => rfl
  | cons first _ ih =>
    rw [List.flatMap_cons, List.flatMap_cons, ih (List.pairwise_cons.mp halone).2]
  | swap first second rest =>
    have hempty := (List.pairwise_cons.mp halone).1 first List.mem_cons_self
    simp only [List.flatMap_cons]
    rcases hempty with hsecond | hfirst
    · rw [hsecond, List.nil_append, List.nil_append]
    · rw [hfirst, List.nil_append, List.nil_append]
  | trans hfirst _ ihfirst ihsecond =>
    rw [ihfirst halone, ihsecond (hfirst.pairwise halone Or.symm)]

/-- The scans of files with the given names and texts. -/
def scanSources (variant : Variant) (sources : List (String × String)) : List FileScan :=
  sources.map fun source => scanText variant source.1 source.2

/-- The keys that a text reads. -/
def textKeys (variant : Variant) (text : String) : List String :=
  readKeys (statements variant text)

section Scan

variable (variant : Variant) (file text : String)

theorem map_key_entries_scanText :
    (scanText variant file text).entries.map Entry.key = textKeys variant text := by
  rw [scanText, ScanState.entries_finish, map_key_entries_scanStatements, textKeys]

variable {text}

theorem readsOf_entries_scanText_eq_nil {key : String} (hkey : key ∉ textKeys variant text) :
    Document.readsOf key (scanText variant file text).entries = [] := by
  rw [List.eq_nil_iff_forall_not_mem]
  intro entry hentry
  obtain ⟨hmem, rfl⟩ := Document.mem_readsOf_iff.mp hentry
  apply hkey
  rw [← map_key_entries_scanText variant file]
  exact List.mem_map_of_mem hmem

theorem find?_facts_scanText_eq_none {key : String} (hempty : key ≠ "")
    (hkey : key ∉ textKeys variant text) :
    (scanText variant file text).facts.find? key = none := by
  rw [Table.find?_eq_none_iff, scanText, ScanState.facts_finish,
    mem_keys_scanStatements_iff variant file _ hempty]
  exact hkey

end Scan

section Sources

variable {variant : Variant} {sources others : List (String × String)}

/-- What the files add about a key is the same in any order of the files, if it
comes from files that read the key. -/
theorem flatMap_sources_eq {β : Type} {part : String × String → List β} (key : String)
    (hperm : sources.Perm others)
    (hdisjoint : sources.Pairwise fun left right =>
      (textKeys variant left.2).Disjoint (textKeys variant right.2))
    (hpart : ∀ source, key ∉ textKeys variant source.2 → part source = []) :
    sources.flatMap part = others.flatMap part := by
  refine flatMap_eq_of_perm hperm (hdisjoint.imp fun {left right} hkeys => ?_)
  by_cases hleft : key ∈ textKeys variant left.2
  · exact .inr (hpart right fun hright => hkeys hleft hright)
  · exact .inl (hpart left hleft)

theorem readsOf_retained_scanSources (key : String) :
    Document.readsOf key (Document.retained variant (Schema.ofScans (scanSources variant sources))) =
      sources.flatMap fun source =>
        (Document.readsOf key (scanText variant source.1 source.2).entries).filter
          fun entry => !variant.excludes entry.key := by
  rw [Document.retained, Schema.entries_ofScans, scanSources, List.flatMap_map, List.filter_flatMap,
    Document.readsOf, List.filter_flatMap]
  congr 1
  funext source
  rw [Document.readsOf, List.filter_comm]

theorem records_scanSources (key : String) :
    Schema.records (scanSources variant sources) key =
      sources.flatMap fun source =>
        ((scanText variant source.1 source.2).facts.find? key).toList := by
  rw [Schema.records, scanSources, List.filterMap_map, List.filterMap_eq_flatMap_toList]
  rfl

theorem exists_source_of_mem_document {entry : Entry}
    (hentry : entry ∈ Document.entries variant (Schema.ofScans (scanSources variant sources))) :
    ∃ source ∈ sources, entry ∈ (scanText variant source.1 source.2).entries := by
  rw [(Document.entries_perm variant _).mem_iff, Document.retained, List.mem_filter,
    Schema.entries_ofScans, scanSources, List.flatMap_map, List.mem_flatMap] at hentry
  exact hentry.1

theorem key_ne_empty_of_mem_entries {entry : Entry}
    (hentry : entry ∈ Document.entries variant (Schema.ofScans (scanSources variant sources))) :
    entry.key ≠ "" := by
  obtain ⟨source, -, hmem⟩ := exists_source_of_mem_document hentry
  intro hkey
  apply empty_not_mem_readKeys_statements variant source.2
  rw [← textKeys, ← map_key_entries_scanText variant source.1, ← hkey]
  exact List.mem_map_of_mem hmem

end Sources

/-- The document does not depend on the order of the files, if no two of them read
the same key. -/
theorem document_eq_of_perm (variant : Variant) (sources others : List (String × String))
    (hperm : sources.Perm others)
    (hdisjoint : sources.Pairwise fun left right =>
      (textKeys variant left.2).Disjoint (textKeys variant right.2)) :
    Document.content variant (Schema.ofScans (scanSources variant sources)) =
        Document.content variant (Schema.ofScans (scanSources variant others)) ∧
      (Document.entries variant (Schema.ofScans (scanSources variant sources))).length =
        (Document.entries variant (Schema.ofScans (scanSources variant others))).length ∧
      Document.entries variant (Schema.ofScans (scanSources variant sources)) =
        Document.entries variant (Schema.ofScans (scanSources variant others)) := by
  have hentries : Document.entries variant (Schema.ofScans (scanSources variant sources)) =
      Document.entries variant (Schema.ofScans (scanSources variant others)) := by
    apply Document.entries_eq_of_readsOf_eq
    intro key
    rw [readsOf_retained_scanSources, readsOf_retained_scanSources]
    refine flatMap_sources_eq key hperm hdisjoint fun source hkey => ?_
    rw [readsOf_entries_scanText_eq_nil variant source.1 hkey, List.filter_nil]
  have hcontent : Document.content variant (Schema.ofScans (scanSources variant sources)) =
      Document.content variant (Schema.ofScans (scanSources variant others)) := by
    apply Document.content_eq_of_entries_eq hentries
    intro entry hentry
    have hempty := key_ne_empty_of_mem_entries hentry
    rw [Schema.factsOf_ofScans, Schema.factsOf_ofScans, records_scanSources, records_scanSources]
    congr 1
    refine flatMap_sources_eq entry.key hperm hdisjoint fun source hkey => ?_
    rw [find?_facts_scanText_eq_none variant source.1 hempty hkey, Option.toList_none]
  exact ⟨hcontent, congrArg List.length hentries, hentries⟩

/-- Two files with an orphan each: the facts of the empty key are shared. -/
def orphanSources : List (String × String) :=
  [("src/net.cpp", "CFG->FailIfErrorLast();\nCFG->GetBool(\"b\", 1);"),
   ("src/config_game.cpp",
    "CFG->FailIfErrorLast();\nCFG->GetBool(\"a\", 1);\nCFG->GetMaybeBool(\"a\");")]

theorem document_eq_of_perm_orphans :
    (orphanSources.map fun source => textKeys Variant.config source.2) = [["b"], ["a", "a"]] ∧
      Document.content Variant.config (Schema.ofScans (scanSources Variant.config orphanSources)) =
        Document.content Variant.config
          (Schema.ofScans (scanSources Variant.config orphanSources.reverse)) := by
  have hkeys : (orphanSources.map fun source => textKeys Variant.config source.2) =
      [["b"], ["a", "a"]] := by decide +kernel
  have hdisjoint : orphanSources.Pairwise fun left right =>
      (textKeys Variant.config left.2).Disjoint (textKeys Variant.config right.2) := by
    have hpairwise : (orphanSources.map fun source =>
        textKeys Variant.config source.2).Pairwise List.Disjoint := by
      rw [hkeys]
      simp [List.Disjoint]
    exact List.pairwise_map.mp hpairwise
  exact ⟨hkeys, (document_eq_of_perm Variant.config orphanSources orphanSources.reverse
    (List.reverse_perm orphanSources).symm hdisjoint).1⟩

end ConfigReference
