import ConfigReference.Document
import Mathlib.Data.List.Perm.Basic

/-!
# The order of the document

The entries of the document are sorted by key, and the reads of one key keep the
order in which they were found.  These two facts determine the order: it does not
matter how the entries of different keys were mixed before.
-/

namespace ConfigReference.Document

/-- The entries of a schema that are shown, in the order of the schema. -/
def retained (variant : Variant) (schema : Schema) : List Entry :=
  schema.entries.filter fun entry => !variant.excludes entry.key

/-- The reads of one key in a row of entries. -/
def readsOf (key : String) (entries : List Entry) : List Entry :=
  entries.filter fun entry => entry.key = key

theorem mem_readsOf_iff {key : String} {entries : List Entry} {entry : Entry} :
    entry ∈ readsOf key entries ↔ entry ∈ entries ∧ entry.key = key := by
  rw [readsOf, List.mem_filter, decide_eq_true_eq]

theorem readsOf_cons_self (entry : Entry) (rest : List Entry) :
    readsOf entry.key (entry :: rest) = entry :: readsOf entry.key rest :=
  List.filter_cons_of_pos (by simp)

/-- A row of entries sorted by key. -/
def byKey (rows : List Entry) : List Entry :=
  rows.mergeSort fun left right => decide (left.key ≤ right.key)

theorem keyLe_trans (first second third : Entry) (hleft : decide (first.key ≤ second.key) = true)
    (hright : decide (second.key ≤ third.key) = true) :
    decide (first.key ≤ third.key) = true := by
  rw [decide_eq_true_eq] at hleft hright ⊢
  exact String.le_trans hleft hright

theorem keyLe_total (left right : Entry) :
    (decide (left.key ≤ right.key) || decide (right.key ≤ left.key)) = true := by
  rw [Bool.or_eq_true, decide_eq_true_eq, decide_eq_true_eq]
  exact String.le_total left.key right.key

section ByKey

variable (rows : List Entry)

theorem byKey_perm : (byKey rows).Perm rows :=
  List.mergeSort_perm _ _

theorem pairwise_key_byKey : (byKey rows).Pairwise fun left right => left.key ≤ right.key := by
  have hsorted := List.pairwise_mergeSort keyLe_trans keyLe_total rows
  exact hsorted.imp fun hle => of_decide_eq_true hle

/-- The reads of one key keep their order. -/
theorem readsOf_byKey (key : String) : readsOf key (byKey rows) = readsOf key rows := by
  have hpairwise : (readsOf key rows).Pairwise
      fun left right => decide (left.key ≤ right.key) = true := by
    apply List.pairwise_of_forall_mem_list
    intro left hleft right hright
    have hkey : left.key = right.key :=
      (mem_readsOf_iff.mp hleft).2.trans (mem_readsOf_iff.mp hright).2.symm
    exact decide_eq_true (hkey ▸ String.le_refl left.key)
  have hsublist : (readsOf key rows).Sublist (byKey rows) :=
    List.sublist_mergeSort keyLe_trans keyLe_total hpairwise List.filter_sublist
  have hreads : (readsOf key rows).Sublist (readsOf key (byKey rows)) := by
    have htwice : readsOf key (readsOf key rows) = readsOf key rows :=
      List.filter_eq_self.mpr fun entry hentry => decide_eq_true (mem_readsOf_iff.mp hentry).2
    rw [← htwice]
    exact hsublist.filter _
  exact (hreads.eq_of_length ((byKey_perm rows).filter _).length_eq.symm).symm

end ByKey

section Entries

variable (variant : Variant) (schema : Schema)

theorem entries_eq_byKey : entries variant schema = byKey (retained variant schema) := rfl

theorem entries_perm : (entries variant schema).Perm (retained variant schema) :=
  byKey_perm (retained variant schema)

theorem pairwise_key_entries :
    (entries variant schema).Pairwise fun left right => left.key ≤ right.key :=
  pairwise_key_byKey (retained variant schema)

theorem readsOf_entries (key : String) :
    readsOf key (entries variant schema) = readsOf key (retained variant schema) :=
  readsOf_byKey (retained variant schema) key

end Entries

/-! ## Rows with the same reads -/

section SameReads

variable {left right : List Entry}

theorem mem_iff_of_readsOf_eq (hreads : ∀ key, readsOf key left = readsOf key right)
    (entry : Entry) : entry ∈ left ↔ entry ∈ right := by
  have hiff : entry ∈ readsOf entry.key left ↔ entry ∈ readsOf entry.key right := by rw [hreads]
  rwa [mem_readsOf_iff, mem_readsOf_iff, and_iff_left rfl, and_iff_left rfl] at hiff

theorem key_le_of_mem_cons {first entry : Entry} {rest : List Entry}
    (hsorted : (first :: rest).Pairwise fun left right => left.key ≤ right.key)
    (hentry : entry ∈ first :: rest) : first.key ≤ entry.key := by
  rcases List.mem_cons.mp hentry with rfl | hrest
  · exact String.le_refl _
  · exact (List.pairwise_cons.mp hsorted).1 entry hrest

theorem readsOf_eq_of_cons {first : Entry} {key : String}
    (hreads : readsOf key (first :: left) = readsOf key (first :: right)) :
    readsOf key left = readsOf key right := by
  by_cases hkey : first.key = key
  · subst hkey
    rw [readsOf_cons_self, readsOf_cons_self] at hreads
    exact List.tail_eq_of_cons_eq hreads
  · have hskip : ∀ rest, readsOf key (first :: rest) = readsOf key rest :=
      fun rest => List.filter_cons_of_neg (by simpa using hkey)
    rwa [hskip, hskip] at hreads

/-- Two sorted rows in which each key has the same reads are the same. -/
theorem eq_of_readsOf_eq (hleft : left.Pairwise fun first second => first.key ≤ second.key)
    (hright : right.Pairwise fun first second => first.key ≤ second.key)
    (hreads : ∀ key, readsOf key left = readsOf key right) : left = right := by
  induction left generalizing right with
  | nil =>
    symm
    rw [List.eq_nil_iff_forall_not_mem]
    intro entry hentry
    exact List.not_mem_nil ((mem_iff_of_readsOf_eq hreads entry).mpr hentry)
  | cons first rest ih =>
    have hfirst := (mem_iff_of_readsOf_eq hreads first).mp List.mem_cons_self
    cases right with
    | nil => exact absurd hfirst List.not_mem_nil
    | cons other rest' =>
      -- both rows begin with the least key, and with the first read of it
      have hother := (mem_iff_of_readsOf_eq hreads other).mpr List.mem_cons_self
      have hkey : first.key = other.key :=
        String.le_antisymm (key_le_of_mem_cons hleft hother) (key_le_of_mem_cons hright hfirst)
      have hhead := hreads first.key
      rw [readsOf_cons_self, hkey, readsOf_cons_self, List.cons.injEq] at hhead
      obtain rfl := hhead.1
      have hrest := ih (List.pairwise_cons.mp hleft).2 (List.pairwise_cons.mp hright).2
        fun key => readsOf_eq_of_cons (hreads key)
      rw [hrest]

end SameReads

/-! ## Schemas with the same document -/

section SameDocument

variable {variant : Variant} {left right : Schema}

theorem entries_eq_of_readsOf_eq
    (hreads : ∀ key, readsOf key (retained variant left) = readsOf key (retained variant right)) :
    entries variant left = entries variant right := by
  refine eq_of_readsOf_eq (pairwise_key_entries variant left) (pairwise_key_entries variant right)
    fun key => ?_
  rw [readsOf_entries, readsOf_entries, hreads]

/-- The content depends on the entries and on the facts about their keys only. -/
theorem content_eq_of_entries_eq (hentries : entries variant left = entries variant right)
    (hfacts : ∀ entry ∈ entries variant left, left.factsOf entry.key = right.factsOf entry.key) :
    content variant left = content variant right := by
  have hblocks : (entries variant left).map (block variant left) =
      (entries variant right).map (block variant right) := by
    rw [← hentries]
    refine List.map_congr_left fun entry hentry => ?_
    rw [block, block, hfacts entry hentry]
  have hlines : lines variant left = lines variant right := by
    rw [lines, lines, hblocks]
  rw [content, content, hlines]

end SameDocument

end ConfigReference.Document
