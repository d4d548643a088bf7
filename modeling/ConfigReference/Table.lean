/-!
# Insertion-ordered tables

Facts about keys, named constants, environment variables and the nodes of a
file tree are all kept in tables whose order can be observed: a new key goes to
the end, and a key that is written again keeps its place.  That no key occurs
twice is part of the type, so a table is determined by its entries.
-/

namespace ConfigReference

/-- A finite map that remembers the order in which its keys arrived. -/
structure Table (κ : Type) (α : Type) where
  entries : List (κ × α)
  distinct : (entries.map Prod.fst).Nodup

namespace Table

variable {κ : Type} {α : Type}

@[ext]
theorem ext {left right : Table κ α} (hentries : left.entries = right.entries) : left = right := by
  cases left
  cases right
  subst hentries
  rfl

def empty : Table κ α := ⟨[], List.nodup_nil⟩

instance : EmptyCollection (Table κ α) := ⟨empty⟩

instance : Inhabited (Table κ α) := ⟨empty⟩

def keys (table : Table κ α) : List κ :=
  table.entries.map Prod.fst

@[simp]
theorem keys_empty : (empty : Table κ α).keys = [] := rfl

def size (table : Table κ α) : Nat :=
  table.entries.length

variable [DecidableEq κ]

/-- The value of the first pair with the key. -/
def lookup (key : κ) : List (κ × α) → Option α
  | [] => none
  | (name, value) :: rest => if name = key then some value else lookup key rest

/-- Writes a value in the place of its key, or at the end if the key is new. -/
def write (key : κ) (value : α) : List (κ × α) → List (κ × α)
  | [] => [(key, value)]
  | (name, old) :: rest =>
    if name = key then (key, value) :: rest else (name, old) :: write key value rest

theorem map_fst_write (key : κ) (value : α) (pairs : List (κ × α)) :
    (write key value pairs).map Prod.fst =
      if key ∈ pairs.map Prod.fst then pairs.map Prod.fst else pairs.map Prod.fst ++ [key] := by
  induction pairs with
  | nil => simp [write]
  | cons pair rest ih =>
    obtain ⟨name, old⟩ := pair
    by_cases hname : name = key
    · simp [write, hname]
    · have hkey : key ≠ name := fun heq => hname heq.symm
      by_cases hrest : key ∈ rest.map Prod.fst
      · simp_all [write]
      · simp_all [write]

theorem nodup_write (key : κ) (value : α) (pairs : List (κ × α))
    (hnodup : (pairs.map Prod.fst).Nodup) : ((write key value pairs).map Prod.fst).Nodup := by
  rw [map_fst_write]
  split
  · exact hnodup
  · next hkey =>
    rw [List.nodup_append]
    refine ⟨hnodup, by simp, ?_⟩
    intro left hleft right hright heq
    simp only [List.mem_singleton] at hright
    exact hkey (hright ▸ heq ▸ hleft)

def find? (table : Table κ α) (key : κ) : Option α :=
  lookup key table.entries

def contains (table : Table κ α) (key : κ) : Bool :=
  (table.find? key).isSome

def insert (table : Table κ α) (key : κ) (value : α) : Table κ α :=
  ⟨write key value table.entries, nodup_write key value table.entries table.distinct⟩

/-- Applies a change to the value of a key, which starts from `initial` if the
key is new. -/
def update (table : Table κ α) (key : κ) (initial : α) (change : α → α) : Table κ α :=
  table.insert key (change ((table.find? key).getD initial))

def erase (table : Table κ α) (key : κ) : Table κ α where
  entries := table.entries.filter fun pair => decide (pair.1 ≠ key)
  distinct := table.distinct.sublist (List.Sublist.map _ List.filter_sublist)

/-- The table of a list of pairs: of several values for one key the last one
counts, in the place of the first. -/
def ofList (pairs : List (κ × α)) : Table κ α :=
  pairs.foldl (fun table pair => table.insert pair.1 pair.2) empty

theorem keys_insert (table : Table κ α) (key : κ) (value : α) :
    (table.insert key value).keys =
      if key ∈ table.keys then table.keys else table.keys ++ [key] :=
  map_fst_write key value table.entries

theorem lookup_write (key other : κ) (value : α) (pairs : List (κ × α)) :
    lookup other (write key value pairs) =
      if key = other then some value else lookup other pairs := by
  induction pairs with
  | nil => simp [write, lookup]
  | cons pair rest ih =>
    obtain ⟨name, old⟩ := pair
    by_cases hname : name = key
    · by_cases hother : key = other <;> simp_all [write, lookup]
    · by_cases hother : name = other
      · have hne : key ≠ other := fun heq => hname (hother.trans heq.symm)
        simp_all [write, lookup]
      · simp_all [write, lookup]

@[simp]
theorem find?_insert (table : Table κ α) (key other : κ) (value : α) :
    (table.insert key value).find? other =
      if key = other then some value else table.find? other :=
  lookup_write key other value table.entries

theorem find?_update (table : Table κ α) (key other : κ) (initial : α) (change : α → α) :
    (table.update key initial change).find? other =
      if key = other then some (change ((table.find? other).getD initial))
      else table.find? other := by
  rw [update, find?_insert]
  by_cases hkey : key = other
  · rw [if_pos hkey, if_pos hkey, hkey]
  · rw [if_neg hkey, if_neg hkey]

end Table

end ConfigReference
