import ConfigReference.Table
import Mathlib.Data.List.Induction
import Mathlib.Data.List.Nodup

/-!
# Laws of tables

The keys of a table stand in the order of their arrival: they are the first
occurrences in the row of all names that were ever written.  A table is
determined by this order and by the value of each key, so two tables that were
filled in different ways are compared key by key.
-/

namespace ConfigReference

/-! ## First occurrences -/

section FirstOccurrences

variable {α : Type} [BEq α] [LawfulBEq α]

theorem eraseDups_append_singleton (names : List α) (name : α) :
    (names ++ [name]).eraseDups =
      if name ∈ names then names.eraseDups else names.eraseDups ++ [name] := by
  rw [List.eraseDups_append]
  by_cases hname : name ∈ names <;> simp [List.removeAll, List.eraseDups_cons, hname]

theorem nodup_eraseDups (names : List α) : names.eraseDups.Nodup := by
  induction names using List.reverseRecOn with
  | nil => exact List.nodup_nil
  | append_singleton names name ih =>
    rw [eraseDups_append_singleton]
    split
    · exact ih
    · next hname =>
      rw [← List.concat_eq_append]
      exact ih.concat fun hmem => hname (List.mem_eraseDups.mp hmem)

theorem eraseDups_eq_self {names : List α} (hnodup : names.Nodup) : names.eraseDups = names := by
  induction names using List.reverseRecOn with
  | nil => rfl
  | append_singleton names name ih =>
    obtain ⟨hnames, -, hfresh⟩ := List.nodup_append.mp hnodup
    have hname : name ∉ names := fun hmem => hfresh name hmem name (by simp) rfl
    rw [eraseDups_append_singleton, if_neg hname, ih hnames]

/-- Names that occur already add nothing. -/
theorem eraseDups_append_of_mem {names : List α} {name : α} (hname : name ∈ names) :
    (names ++ [name]).eraseDups = names.eraseDups := by
  rw [eraseDups_append_singleton, if_pos hname]

theorem eraseDups_eraseDups_append (front back : List α) :
    (front.eraseDups ++ back).eraseDups = (front ++ back).eraseDups := by
  induction back using List.reverseRecOn with
  | nil => rw [List.append_nil, List.append_nil, eraseDups_eq_self (nodup_eraseDups front)]
  | append_singleton back name ih =>
    rw [← List.append_assoc, ← List.append_assoc, eraseDups_append_singleton,
      eraseDups_append_singleton, ih]
    simp only [List.mem_append, List.mem_eraseDups]

theorem eraseDups_append_eraseDups (front back : List α) :
    (front ++ back.eraseDups).eraseDups = (front ++ back).eraseDups := by
  induction back using List.reverseRecOn with
  | nil => rfl
  | append_singleton back name ih =>
    rw [← List.append_assoc, eraseDups_append_singleton back, eraseDups_append_singleton, ← ih]
    by_cases hname : name ∈ back
    · rw [if_pos hname, if_pos (List.mem_append_right front hname)]
    · rw [if_neg hname, ← List.append_assoc, eraseDups_append_singleton]
      simp only [List.mem_append, List.mem_eraseDups]

end FirstOccurrences

/-! ## Keys and values -/

namespace Table

variable {κ α : Type}

theorem nodup_keys (table : Table κ α) : table.keys.Nodup :=
  table.distinct

variable [DecidableEq κ]

theorem lookup_eq_none_iff {key : κ} {pairs : List (κ × α)} :
    lookup key pairs = none ↔ key ∉ pairs.map Prod.fst := by
  induction pairs with
  | nil => simp [lookup]
  | cons pair rest ih =>
    obtain ⟨name, value⟩ := pair
    rw [lookup]
    split
    · next hname => simp [hname]
    · next hname =>
      rw [ih, List.map_cons, List.mem_cons, not_or, and_iff_right (fun heq => hname heq.symm)]

theorem mem_of_lookup {key : κ} {value : α} {pairs : List (κ × α)}
    (hlookup : lookup key pairs = some value) : (key, value) ∈ pairs := by
  induction pairs with
  | nil => cases hlookup
  | cons pair rest ih =>
    obtain ⟨name, held⟩ := pair
    rw [lookup] at hlookup
    split at hlookup
    · next hname =>
      cases hlookup
      exact hname ▸ List.mem_cons_self
    · exact List.mem_cons_of_mem _ (ih hlookup)

theorem mem_entries_of_find? {table : Table κ α} {key : κ} {value : α}
    (hfind : table.find? key = some value) : (key, value) ∈ table.entries :=
  mem_of_lookup hfind

theorem find?_eq_none_iff {table : Table κ α} {key : κ} :
    table.find? key = none ↔ key ∉ table.keys :=
  lookup_eq_none_iff

theorem find?_ne_none_iff {table : Table κ α} {key : κ} :
    table.find? key ≠ none ↔ key ∈ table.keys := by
  rw [ne_eq, find?_eq_none_iff, not_not]

theorem find?_eq_some_getD {table : Table κ α} {key : κ} (hkey : key ∈ table.keys) (other : α) :
    table.find? key = some ((table.find? key).getD other) := by
  obtain ⟨value, hvalue⟩ := Option.ne_none_iff_exists'.mp (find?_ne_none_iff.mpr hkey)
  rw [hvalue, Option.getD_some]

theorem keys_update (table : Table κ α) (key : κ) (initial : α) (change : α → α) :
    (table.update key initial change).keys = (table.keys ++ [key]).eraseDups := by
  rw [update, keys_insert, eraseDups_append_singleton, eraseDups_eq_self table.nodup_keys]

/-- Pairs with the same keys in the same order, each with the same value. -/
theorem eq_of_lookup_eq {left right : List (κ × α)} (hnodup : (left.map Prod.fst).Nodup)
    (hkeys : left.map Prod.fst = right.map Prod.fst)
    (hlookup : ∀ key, lookup key left = lookup key right) : left = right := by
  induction left generalizing right with
  | nil => exact (List.map_eq_nil_iff.mp hkeys.symm).symm
  | cons pair rest ih =>
    obtain ⟨name, value⟩ := pair
    obtain _ | ⟨⟨name', value'⟩, rest'⟩ := right
    · simp at hkeys
    · simp only [List.map_cons, List.cons.injEq] at hkeys hnodup
      obtain ⟨rfl, hkeys⟩ := hkeys
      obtain ⟨hfresh, hnodup⟩ := List.nodup_cons.mp hnodup
      have hvalue : value = value' := by simpa [lookup] using hlookup name
      have hrest : rest = rest' := by
        refine ih hnodup hkeys fun key => ?_
        by_cases hkey : name = key
        · -- the name of the first pair does not occur again
          subst hkey
          rw [lookup_eq_none_iff.mpr hfresh, lookup_eq_none_iff.mpr (hkeys ▸ hfresh)]
        · simpa [lookup, hkey] using hlookup key
      rw [hvalue, hrest]

theorem eq_of_find?_eq {left right : Table κ α} (hkeys : left.keys = right.keys)
    (hfind : ∀ key, left.find? key = right.find? key) : left = right :=
  Table.ext (eq_of_lookup_eq left.distinct hkeys hfind)

/-- Tables are equal if their keys arrived in the same order and each key has the
same value; what stands for a key without a value does not matter. -/
theorem eq_of_getD_eq {left right : Table κ α} (other : α) (hkeys : left.keys = right.keys)
    (hvalue : ∀ key, (left.find? key).getD other = (right.find? key).getD other) :
    left = right := by
  refine eq_of_find?_eq hkeys fun key => ?_
  by_cases hkey : key ∈ left.keys
  · calc left.find? key = some ((left.find? key).getD other) := find?_eq_some_getD hkey other
      _ = some ((right.find? key).getD other) := by rw [hvalue key]
      _ = right.find? key := (find?_eq_some_getD (hkeys ▸ hkey) other).symm
  · rw [find?_eq_none_iff.mpr hkey, find?_eq_none_iff.mpr (hkeys ▸ hkey)]

/-! ## Values taken back -/

theorem keys_erase (table : Table κ α) (key : κ) :
    (table.erase key).keys = table.keys.filter fun name => decide (name ≠ key) := by
  rw [keys, keys, List.filter_map]
  rfl

theorem find?_erase (table : Table κ α) (key other : κ) :
    (table.erase key).find? other = if key = other then none else table.find? other := by
  obtain ⟨pairs, hdistinct⟩ := table
  change lookup other (pairs.filter fun pair => decide (pair.1 ≠ key)) =
    if key = other then none else lookup other pairs
  clear hdistinct
  induction pairs with
  | nil => simp [lookup]
  | cons pair rest ih =>
    obtain ⟨name, value⟩ := pair
    by_cases hname : name = key
    · by_cases hother : key = other <;> simp_all [lookup]
    · by_cases hother : name = other
      · have hne : key ≠ other := fun heq => hname (hother.trans heq.symm)
        simp_all [lookup]
      · simp_all [lookup]

/-- A key that was not there leaves no trace when it is erased. -/
theorem erase_insert_of_new {table : Table κ α} {key : κ} (hnew : table.find? key = none)
    (value : α) : (table.insert key value).erase key = table := by
  have hkey : key ∉ table.keys := find?_eq_none_iff.mp hnew
  apply eq_of_find?_eq
  · rw [keys_erase, keys_insert, if_neg hkey, List.filter_append]
    simp only [ne_eq, not_true_eq_false, decide_false, List.filter_cons_of_neg, List.filter_nil,
      List.append_nil, Bool.false_eq_true, not_false_eq_true]
    exact List.filter_eq_self.mpr fun name hname => decide_eq_true fun heq => hkey (heq ▸ hname)
  · intro other
    rw [find?_erase, find?_insert]
    by_cases hother : key = other
    · rw [if_pos hother, ← hother, hnew]
    · rw [if_neg hother, if_neg hother]

theorem insert_insert (table : Table κ α) (key : κ) (old value : α) :
    (table.insert key old).insert key value = table.insert key value := by
  apply eq_of_find?_eq
  · rw [keys_insert, if_pos, keys_insert, keys_insert]
    rw [← find?_ne_none_iff, find?_insert, if_pos rfl]
    exact Option.some_ne_none old
  · intro other
    rw [find?_insert, find?_insert, find?_insert]
    split <;> rfl

theorem insert_eq_self {table : Table κ α} {key : κ} {value : α}
    (hvalue : table.find? key = some value) : table.insert key value = table := by
  apply eq_of_find?_eq
  · rw [keys_insert, if_pos]
    rw [← find?_ne_none_iff, hvalue]
    exact Option.some_ne_none value
  · intro other
    rw [find?_insert]
    by_cases hother : key = other
    · rw [if_pos hother, ← hother, hvalue]
    · rw [if_neg hother]

end Table

end ConfigReference
