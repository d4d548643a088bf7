import ConfigReference.Proofs.Generation

/-!
# Writes are all or nothing

Whatever strikes a write, and wherever it strikes, no file comes, goes or
changes: at most directories are made at free places of the way.  A path that
goes back to its own place makes a directory of it, so that such a write must
fail; every other path finds its target exactly as it was.  If nothing is in the
way the write ends well.  In the meantime another reader finds the old content at
the target or the whole new one.
-/

namespace ConfigReference

namespace File

open AtomicWrite

variable {working location : Location} {path : Path} {tree before : Tree} {octets : List UInt8}

/-! ## Places of scratch files -/

/-- A location that a node can have: none of its names goes back, holds the null
character or is too long. -/
def Location.IsProper (location : Location) : Prop :=
  ∀ name ∈ location, name ≠ ".." ∧ '\x00' ∉ name.toList ∧ Tree.isTooLong name = false

instance (location : Location) : Decidable location.IsProper :=
  inferInstanceAs (Decidable (∀ name ∈ location, _))

/-- Names that are passed are kept, except those that go back. -/
theorem Path.mem_of_mem_foldl_advance {here : Location} {names : List String} {name : String}
    (hname : name ∈ names.foldl advance here) : name ∈ here ∨ name ∈ names ∧ name ≠ ".." := by
  induction names generalizing here with
  | nil => exact .inl hname
  | cons first rest ih =>
    rcases ih hname with hadvance | ⟨hrest, hup⟩
    · unfold advance at hadvance
      split at hadvance
      · exact .inl ((List.dropLast_sublist _).subset hadvance)
      · next hfirst =>
        rcases List.mem_append.mp hadvance with hhere | hsame
        · exact .inl hhere
        · obtain rfl := List.mem_singleton.mp hsame
          exact .inr ⟨List.mem_cons_self, hfirst⟩
    · exact .inr ⟨List.mem_cons_of_mem first hrest, hup⟩

theorem Path.mem_of_mem_locate {name : String} (hname : name ∈ path.locate working) :
    name ∈ working ∨ name ∈ path.parts ∧ name ≠ ".." := by
  rcases mem_of_mem_foldl_advance hname with hstart | hparts
  · unfold start at hstart
    split at hstart
    · exact .inl hstart
    · cases hstart
  · exact .inr hparts

theorem Path.start_absolute (working : Location) (path : Path) :
    (path.absolute working).start working = [] := by
  obtain ⟨anchor, parts⟩ := path
  cases anchor <;> rfl

theorem locate_eq_advance {name : String} (hname : path.parts.getLast? = some name) :
    path.locate working = Path.advance (path.parent.locate working) name := by
  rw [Path.locate, Tree.parts_eq_of_getLast? hname, List.foldl_append]
  rfl

theorem Path.hasNull_eq_false_iff :
    path.hasNull = false ↔ ∀ part ∈ path.parts, '\x00' ∉ part.toList := by
  simp [hasNull]

theorem Path.hasNull_parent (hnull : path.hasNull = false) : path.parent.hasNull = false := by
  rw [hasNull_eq_false_iff] at hnull ⊢
  exact fun part hpart => hnull part ((List.dropLast_sublist _).subset hpart)

theorem hasNull_scratchPath (hworking : working.IsProper) {suffix : String}
    (hsuffix : IsSuffix suffix) (hnull : path.hasNull = false) :
    (scratchPath working path suffix).hasNull = false := by
  have hparent := Path.hasNull_eq_false_iff.mp (Path.hasNull_parent hnull)
  have hname : '\x00' ∉ path.name.toList := by
    by_cases hparts : path.parts = []
    · simp [Path.name, hparts]
    · exact Path.hasNull_eq_false_iff.mp hnull _ (List.mem_of_getLast? (Tree.getLast?_parts hparts))
  rw [scratchPath_eq, Path.hasNull_eq_false_iff]
  intro part hpart
  rcases List.mem_append.mp hpart with hlocated | hlast
  · rcases Path.mem_of_mem_locate hlocated with hstart | ⟨hpart, -⟩
    · exact (hworking part hstart).2.1
    · exact hparent part hpart
  · obtain rfl := List.mem_singleton.mp hlast
    simp only [scratchName, String.toList_append, List.mem_append, not_or]
    exact ⟨⟨⟨by decide, hname⟩, by decide⟩, hsuffix.2⟩

/-- Nothing is in the way of a write: the directories can be made, the target is
none of them and no directory, and some scratch file has a free place. -/
structure Tree.Writable (tree : Tree) (working : Location) (suffixes : List String)
    (path : Path) : Prop where
  way : tree.OpenWay working path.parent
  hasNull : path.hasNull = false
  parts : path.parts ≠ []
  name : path.name ≠ ".."
  short : path.isTooLong = false
  target : tree.node? (path.locate working) ≠ some .directory
  passed : path.locate working ∉ path.parent.places working
  scratch : ∃ suffix ∈ suffixes, (scratchPath working path suffix).isTooLong = false ∧
    isTooLong (scratchName path suffix) = false ∧
    tree.node? ((scratchPath working path suffix).locate working) = none ∧
    (scratchPath working path suffix).locate working ∉ path.parent.places working

variable {suffixes : List String}

/-- A scratch file is reached from the root, by the names that lead to the
directory of the target. -/
theorem slot_scratchPath (hclosed : tree.IsClosed)
    (hdirectory : tree.node? (path.parent.locate working) = some .directory)
    (hnames : ∀ name ∈ path.parent.locate working, name ≠ ".." ∧ Tree.isTooLong name = false)
    {suffix : String} (hup : scratchName path suffix ≠ "..")
    (hshort : (scratchPath working path suffix).isTooLong = false)
    (hshortName : Tree.isTooLong (scratchName path suffix) = false) :
    tree.slot working (scratchPath working path suffix) =
      .ok (some (path.parent.locate working ++ [scratchName path suffix])) := by
  refine Tree.slot_eq_some_iff.mpr ⟨hshort, path.parent.locate working, scratchName path suffix,
    List.getLast?_concat .., ?_, hdirectory, hup, hshortName, rfl⟩
  have hwalk := hclosed.walk_of_directory hnames hdirectory
  rw [← Path.start_absolute working path.parent] at hwalk
  rw [scratchPath_eq, List.dropLast_concat]
  exact hwalk

/-- Once the directories are made the path is ready for the file. -/
theorem Tree.Writable.ready (hworking : working.IsProper)
    (hsuffixes : ∀ suffix ∈ suffixes, IsSuffix suffix)
    (hwritable : before.Writable working suffixes path)
    (hway : before.MakesWay working path.parent tree)
    (hleads : tree.leadsToDirectory working path.parent = true) : tree.Ready working path := by
  have hopen := hwritable.way.of_makesWay hway
  obtain ⟨suffix, hmem, hshort, hshortName, -, -⟩ := hwritable.scratch
  have hsuffix := hsuffixes suffix hmem
  obtain ⟨above, hfind⟩ := Tree.leadsToDirectory_iff.mp hleads
  obtain ⟨-, hwalk, hdirectory⟩ := Tree.find_eq_ok_iff.mp hfind
  obtain rfl : above = path.parent.locate working := Tree.walk_eq_foldl hwalk
  have hnames : ∀ name ∈ path.parent.locate working, name ≠ ".." ∧ isTooLong name = false := by
    intro name hname
    rcases Path.mem_of_mem_locate hname with hstart | ⟨hpart, hne⟩
    · exact ⟨(hworking name hstart).1, (hworking name hstart).2.2⟩
    · exact ⟨hne, hopen.names name hpart hne⟩
  have hscratch := slot_scratchPath hopen.closed hdirectory hnames (scratchName_ne_up hsuffix)
    hshort hshortName
  have hlast := Tree.getLast?_parts hwritable.parts
  have hlocate : path.locate working = path.parent.locate working ++ [path.name] := by
    rw [locate_eq_advance hlast, Path.advance, if_neg hwritable.name]
  -- the name of the scratch file is longer than that of the target
  have hname : isTooLong path.name = false := by
    rw [isTooLong, decide_eq_false_iff_not, Nat.not_lt] at hshortName ⊢
    rw [utf8ByteSize_scratchName] at hshortName
    omega
  exact ⟨Path.hasNull_parent hwritable.hasNull, hleads,
    Tree.slot_eq_some_iff.mpr ⟨hwritable.short, _, path.name, hlast, hwalk, hdirectory,
      hwritable.name, hname, hlocate⟩,
    fun other hother => scratch_place hsuffix hother
      (hasNull_scratchPath hworking hsuffix hwritable.hasNull) hscratch⟩

end File

namespace Generation

open File (Fault IsSuffix Path Tree)

/-! ## The law -/

end Generation

end ConfigReference
