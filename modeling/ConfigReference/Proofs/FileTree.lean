import ConfigReference.File.Tree
import ConfigReference.Proofs.Table

/-!
# Laws of file trees

A path that can be followed leads to the location that its names spell out.
While a tree only grows, that is, while directories stay directories and files
stay files, every path that could be followed can be followed still, and leads
to the same place; what is found there is then told by the octets of the files
alone.
-/

open ConfigReference.File.Path (advance)

namespace ConfigReference.File.Tree

variable {tree before after : Tree} {working location other here : Location} {path : Path}
  {node : Node}

/-! ## Nodes -/

theorem filedAt_eq_iff : filedAt location = filedAt other ↔ location = other := by
  rw [filedAt, filedAt, Prod.mk.injEq]
  exact ⟨And.right, fun heq => ⟨congrArg List.length heq, heq⟩⟩

theorem node?_put (hlocation : location ≠ []) :
    (tree.put location node).node? other =
      if location = other then some node else tree.node? other := by
  rw [node?, node?, put, Table.find?_insert]
  by_cases hother : other = []
  · subst hother
    rw [if_pos rfl, if_neg hlocation, if_pos rfl]
  · rw [if_neg hother, if_neg hother]
    simp only [filedAt_eq_iff]

theorem find?_nodes (hlocation : location ≠ []) :
    tree.nodes.find? (filedAt location) = tree.node? location := by
  rw [node?, if_neg hlocation]

theorem put_put (tree : Tree) (location : Location) (old node : Node) :
    (tree.put location old).put location node = tree.put location node :=
  Tree.ext (Table.insert_insert tree.nodes (filedAt location) old node)

theorem erase_put (hlocation : location ≠ []) (hfree : tree.node? location = none) (node : Node) :
    (tree.put location node).erase location = tree :=
  Tree.ext (Table.erase_insert_of_new ((find?_nodes hlocation).trans hfree) node)

theorem put_eq_self (hlocation : location ≠ []) (hnode : tree.node? location = some node) :
    tree.put location node = tree :=
  Tree.ext (Table.insert_eq_self ((find?_nodes hlocation).trans hnode))

/-! ## Octets of files -/

/-- The octets of the file at a location; where there is no file there are none. -/
def file? (tree : Tree) (location : Location) : Option (List UInt8) :=
  match tree.node? location with
  | some (.file octets) => some octets
  | _ => none

theorem file?_eq_some_iff {octets : List UInt8} :
    tree.file? location = some octets ↔ tree.node? location = some (.file octets) := by
  unfold file?
  split
  · next held hheld => simp [hheld]
  · next hnone =>
    simp only [reduceCtorEq, false_iff]
    exact hnone octets

theorem file?_congr (hnode : before.node? location = after.node? other) :
    before.file? location = after.file? other := by
  rw [file?, file?, hnode]

/-! ## Growth -/

/-- Directories stay directories and files stay files, with any octets. -/
structure Grows (before after : Tree) : Prop where
  directory : ∀ location, before.node? location = some .directory →
    after.node? location = some .directory
  file : ∀ location octets, before.node? location = some (.file octets) →
    ∃ others, after.node? location = some (.file others)

theorem Grows.refl (tree : Tree) : tree.Grows tree :=
  ⟨fun _ hnode => hnode, fun _ octets hnode => ⟨octets, hnode⟩⟩

theorem Grows.trans {middle : Tree} (hfirst : before.Grows middle) (hsecond : middle.Grows after) :
    before.Grows after where
  directory location hnode := hsecond.directory location (hfirst.directory location hnode)
  file location octets hnode := by
    obtain ⟨others, hothers⟩ := hfirst.file location octets hnode
    exact hsecond.file location others hothers

theorem Grows.isSome (hgrows : before.Grows after) (hnode : (before.node? location).isSome) :
    (after.node? location).isSome := by
  obtain ⟨node, hnode⟩ := Option.isSome_iff_exists.mp hnode
  cases node with
  | directory => rw [hgrows.directory location hnode, Option.isSome_some]
  | file octets =>
    obtain ⟨others, hothers⟩ := hgrows.file location octets hnode
    rw [hothers, Option.isSome_some]

/-- Nodes that are put where nothing was, or a file where a file was. -/
theorem grows_put (hlocation : location ≠ [])
    (hnode : tree.node? location = none ∨ ∃ old octets,
      tree.node? location = some (.file old) ∧ node = .file octets) :
    tree.Grows (tree.put location node) where
  directory other hother := by
    rw [node?_put hlocation, if_neg, hother]
    rintro rfl
    rcases hnode with hnone | ⟨old, octets, hold, -⟩
    · rw [hnone] at hother
      cases hother
    · rw [hold] at hother
      cases hother
  file other octets hother := by
    rw [node?_put hlocation]
    split
    · next heq =>
      subst heq
      rcases hnode with hnone | ⟨old, others, -, rfl⟩
      · rw [hnone] at hother
        cases hother
      · exact ⟨others, rfl⟩
    · exact ⟨octets, hother⟩

/-- No file has come, gone or changed; directories may have come. -/
structure OnlyDirectories (before after : Tree) : Prop where
  grows : before.Grows after
  file? : ∀ location, after.file? location = before.file? location

theorem OnlyDirectories.refl (tree : Tree) : tree.OnlyDirectories tree :=
  ⟨Grows.refl tree, fun _ => rfl⟩

theorem OnlyDirectories.trans {middle : Tree} (hfirst : before.OnlyDirectories middle)
    (hsecond : middle.OnlyDirectories after) : before.OnlyDirectories after :=
  ⟨hfirst.grows.trans hsecond.grows,
    fun location => (hsecond.file? location).trans (hfirst.file? location)⟩

/-- One file has got its octets; no other file has come, gone or changed. -/
structure Receives (before after : Tree) (location : Location) (octets : List UInt8) : Prop where
  grows : before.Grows after
  held : after.file? location = some octets
  others : ∀ other, other ≠ location → after.file? other = before.file? other

theorem receives_put {octets : List UInt8} (hlocation : location ≠ [])
    (hnode : tree.node? location ≠ some .directory) :
    tree.Receives (tree.put location (.file octets)) location octets where
  grows := by
    apply grows_put hlocation
    cases hheld : tree.node? location with
    | none => exact .inl rfl
    | some node =>
      cases node with
      | directory => exact absurd hheld hnode
      | file old => exact .inr ⟨old, octets, rfl, rfl⟩
  held := by rw [file?_eq_some_iff, node?_put hlocation, if_pos rfl]
  others other hother := file?_congr (by rw [node?_put hlocation, if_neg (Ne.symm hother)])

theorem OnlyDirectories.receives {middle : Tree} {octets : List UInt8}
    (honly : before.OnlyDirectories middle) (hreceives : middle.Receives after location octets) :
    before.Receives after location octets where
  grows := honly.grows.trans hreceives.grows
  held := hreceives.held
  others other hother := (hreceives.others other hother).trans (honly.file? other)

/-- Files have come or changed at the given places only, and none has gone. -/
structure ChangesOnly (places : List Location) (before after : Tree) : Prop where
  grows : before.Grows after
  kept : ∀ location, location ∉ places → after.file? location = before.file? location

theorem ChangesOnly.refl (places : List Location) (tree : Tree) : ChangesOnly places tree tree :=
  ⟨Grows.refl tree, fun _ _ => rfl⟩

theorem ChangesOnly.trans {places : List Location} {middle : Tree}
    (hfirst : ChangesOnly places before middle) (hsecond : ChangesOnly places middle after) :
    ChangesOnly places before after where
  grows := hfirst.grows.trans hsecond.grows
  kept location hlocation :=
    (hsecond.kept location hlocation).trans (hfirst.kept location hlocation)

theorem ChangesOnly.mono {places more : List Location} (hchanges : ChangesOnly places before after)
    (hmore : ∀ location ∈ places, location ∈ more) : ChangesOnly more before after where
  grows := hchanges.grows
  kept location hlocation := hchanges.kept location fun hmem => hlocation (hmore location hmem)

theorem Receives.changesOnly {octets : List UInt8}
    (hreceives : before.Receives after location octets) :
    ChangesOnly [location] before after where
  grows := hreceives.grows
  kept other hother := hreceives.others other fun heq => hother (List.mem_singleton.mpr heq)

/-! ## Paths -/

theorem enter_eq_ok {part : String} {next : Location} (henter : tree.enter here part = .ok next) :
    tree.node? here = some .directory ∧ next = advance here part ∧
      (part ≠ ".." → isTooLong part = false ∧ (tree.node? next).isSome) := by
  unfold enter at henter
  unfold advance
  split at henter
  · cases henter
  · cases henter
  · next hhere =>
    by_cases hpart : part = ".."
    · rw [if_pos hpart] at henter ⊢
      cases henter
      exact ⟨hhere, rfl, fun hne => absurd hpart hne⟩
    · rw [if_neg hpart] at henter ⊢
      split at henter
      · cases henter
      · next hshort =>
        split at henter
        · next hsome =>
          cases henter
          exact ⟨hhere, rfl, fun _ => ⟨Bool.eq_false_iff.mpr hshort, hsome⟩⟩
        · cases henter

theorem enter_eq_ok_of {part : String} (hhere : tree.node? here = some .directory)
    (hpart : part ≠ ".." → isTooLong part = false ∧ (tree.node? (advance here part)).isSome) :
    tree.enter here part = .ok (advance here part) := by
  unfold enter advance at *
  rw [hhere]
  by_cases hup : part = ".."
  · simp [hup]
  · obtain ⟨hshort, hsome⟩ := hpart hup
    rw [if_neg hup] at hsome
    simp [hup, hshort, hsome]

theorem Grows.enter (hgrows : before.Grows after) {part : String} {next : Location}
    (henter : before.enter here part = .ok next) : after.enter here part = .ok next := by
  obtain ⟨hhere, rfl, hpart⟩ := enter_eq_ok henter
  refine enter_eq_ok_of (hgrows.directory here hhere) fun hup => ?_
  exact ⟨(hpart hup).1, hgrows.isSome (hpart hup).2⟩

theorem walk_cons_eq_ok {part : String} {rest : List String} {last : Location}
    (hwalk : tree.walk here (part :: rest) = .ok last) :
    ∃ next, tree.enter here part = .ok next ∧ tree.walk next rest = .ok last := by
  rw [walk] at hwalk
  split at hwalk
  · next next hnext => exact ⟨next, hnext, hwalk⟩
  · cases hwalk

theorem walk_eq_foldl {parts : List String} {last : Location}
    (hwalk : tree.walk here parts = .ok last) : last = parts.foldl advance here := by
  induction parts generalizing here with
  | nil =>
    cases hwalk
    rfl
  | cons part rest ih =>
    obtain ⟨next, hnext, hrest⟩ := walk_cons_eq_ok hwalk
    obtain ⟨-, rfl, -⟩ := enter_eq_ok hnext
    exact ih hrest

theorem Grows.walk (hgrows : before.Grows after) {parts : List String} {last : Location}
    (hwalk : before.walk here parts = .ok last) : after.walk here parts = .ok last := by
  induction parts generalizing here with
  | nil => exact hwalk
  | cons part rest ih =>
    obtain ⟨next, hnext, hrest⟩ := walk_cons_eq_ok hwalk
    rw [Tree.walk, hgrows.enter hnext]
    exact ih hrest

theorem walk_append {front back : List String} {last : Location}
    (hwalk : tree.walk here (front ++ back) = .ok last) :
    ∃ middle, tree.walk here front = .ok middle ∧ tree.walk middle back = .ok last := by
  induction front generalizing here with
  | nil => exact ⟨here, rfl, hwalk⟩
  | cons part rest ih =>
    obtain ⟨next, hnext, hrest⟩ := walk_cons_eq_ok hwalk
    obtain ⟨middle, hmiddle, hback⟩ := ih hrest
    refine ⟨middle, ?_, hback⟩
    rw [walk, hnext]
    exact hmiddle

theorem walk_append_of {front back : List String} {middle last : Location}
    (hfront : tree.walk here front = .ok middle) (hback : tree.walk middle back = .ok last) :
    tree.walk here (front ++ back) = .ok last := by
  induction front generalizing here with
  | nil =>
    cases hfront
    exact hback
  | cons part rest ih =>
    obtain ⟨next, hnext, hrest⟩ := walk_cons_eq_ok hfront
    rw [List.cons_append, walk, hnext]
    exact ih hrest

/-! ## Places of nodes -/

theorem find_eq_ok_iff :
    tree.find working path = .ok (location, node) ↔
      path.isTooLong = false ∧ tree.walk (path.start working) path.parts = .ok location ∧
        tree.node? location = some node := by
  unfold find
  split
  · next hlong => simp [hlong]
  · next hshort =>
    rw [Bool.not_eq_true] at hshort
    split
    · next obstacle hwalk => simp [hwalk]
    · next last hwalk =>
      split
      · next found hfound =>
        simp only [Except.ok.injEq, Prod.mk.injEq, hshort, hwalk, true_and]
        constructor
        · rintro ⟨rfl, rfl⟩
          exact ⟨rfl, hfound⟩
        · rintro ⟨rfl, hnode⟩
          exact ⟨rfl, Option.some.inj (hfound.symm.trans hnode)⟩
      · next hnone =>
        simp only [reduceCtorEq, hwalk, Except.ok.injEq, false_iff, not_and]
        rintro - rfl hnode
        rw [hnone] at hnode
        cases hnode

theorem leadsToDirectory_iff :
    tree.leadsToDirectory working path = true ↔
      ∃ location, tree.find working path = .ok (location, .directory) := by
  unfold leadsToDirectory
  split
  · next location hfind => simp [hfind]
  · next hother =>
    simp only [Bool.false_eq_true, false_iff, not_exists]
    exact hother

theorem Grows.leadsToDirectory (hgrows : before.Grows after)
    (hleads : before.leadsToDirectory working path = true) :
    after.leadsToDirectory working path = true := by
  obtain ⟨location, hfind⟩ := leadsToDirectory_iff.mp hleads
  obtain ⟨hshort, hwalk, hnode⟩ := find_eq_ok_iff.mp hfind
  exact leadsToDirectory_iff.mpr
    ⟨location, find_eq_ok_iff.mpr ⟨hshort, hgrows.walk hwalk, hgrows.directory location hnode⟩⟩

/-- Where a new node may be put: below a directory, under a name of its own. -/
theorem slot_eq_some_iff :
    tree.slot working path = .ok (some location) ↔
      path.isTooLong = false ∧ ∃ directory name, path.parts.getLast? = some name ∧
        tree.walk (path.start working) path.parts.dropLast = .ok directory ∧
        tree.node? directory = some .directory ∧ name ≠ ".." ∧ isTooLong name = false ∧
        location = directory ++ [name] := by
  unfold slot
  split
  · next hlong => simp [hlong]
  · next hshort =>
    rw [Bool.not_eq_true] at hshort
    split
    · next hnone => simp [hnone]
    · next name hname =>
      split
      · next obstacle hwalk => simp [hwalk]
      · next directory hwalk =>
        split
        · next hdirectory =>
          by_cases hup : name = ".."
          · simp [hname, hup]
          · cases hlong : isTooLong name
            · simp only [hup, if_false, Bool.false_eq_true, Except.ok.injEq, Option.some.injEq,
                hshort, hwalk, true_and]
              constructor
              · rintro rfl
                exact ⟨directory, name, hname, rfl, hdirectory, hup, hlong, rfl⟩
              · rintro ⟨_, _, hlast, rfl, -, -, -, rfl⟩
                rw [Option.some.inj (hname.symm.trans hlast)]
            · simp [hname, hup, hlong]
        · next hfile => simp [hname, hwalk, hfile]
        · next hnone => simp [hname, hwalk, hnone]

theorem Grows.slot (hgrows : before.Grows after)
    (hslot : before.slot working path = .ok (some location)) :
    after.slot working path = .ok (some location) := by
  obtain ⟨hshort, directory, name, hname, hwalk, hdirectory, hrest⟩ := slot_eq_some_iff.mp hslot
  exact slot_eq_some_iff.mpr ⟨hshort, directory, name, hname, hgrows.walk hwalk,
    hgrows.directory directory hdirectory, hrest⟩

theorem parts_eq_of_getLast? {parts : List String} {name : String}
    (hname : parts.getLast? = some name) : parts = parts.dropLast ++ [name] := by
  obtain ⟨front, rfl⟩ := List.getLast?_eq_some_iff.mp hname
  rw [List.dropLast_concat]

theorem getLast?_parts (hparts : path.parts ≠ []) : path.parts.getLast? = some path.name := by
  rw [Path.name, List.getLastD_eq_getLast?, List.getLast?_eq_some_getLast hparts]
  rfl

theorem slot_location (hslot : tree.slot working path = .ok (some location)) :
    location = path.locate working ∧ location ≠ [] := by
  obtain ⟨-, directory, name, hname, hwalk, -, hup, -, rfl⟩ := slot_eq_some_iff.mp hslot
  constructor
  · rw [Path.locate, parts_eq_of_getLast? hname, List.foldl_append, ← walk_eq_foldl hwalk,
      List.foldl_cons, List.foldl_nil, advance, if_neg hup]
  · simp

/-- A path that has a place in one tree has it in every tree in which the path
above it leads to a directory. -/
theorem slot_of_leadsToDirectory (hleads : tree.leadsToDirectory working path.parent = true)
    (hslot : after.slot working path = .ok (some location)) :
    tree.slot working path = .ok (some location) := by
  obtain ⟨hshort, directory, name, hname, hwalk, -, hrest⟩ := slot_eq_some_iff.mp hslot
  obtain ⟨above, hfind⟩ := leadsToDirectory_iff.mp hleads
  obtain ⟨-, habove, hnode⟩ := find_eq_ok_iff.mp hfind
  have hsame : above = directory := (walk_eq_foldl habove).trans (walk_eq_foldl hwalk).symm
  subst hsame
  exact slot_eq_some_iff.mpr ⟨hshort, above, name, hname, habove, hnode, hrest⟩

/-! ## Operations -/

theorem makeDirectory_eq_ok {next : Tree} (hmake : tree.makeDirectory working path = .ok next) :
    ∃ location, tree.slot working path = .ok (some location) ∧ tree.node? location = none ∧
      next = tree.put location .directory := by
  unfold makeDirectory at hmake
  split at hmake
  · cases hmake
  · cases hmake
  · next location hslot =>
    split at hmake
    · cases hmake
    · next hfree =>
      cases hmake
      exact ⟨location, hslot, Option.not_isSome_iff_eq_none.mp hfree, rfl⟩

theorem onlyDirectories_makeDirectory {next : Tree}
    (hmake : tree.makeDirectory working path = .ok next) : tree.OnlyDirectories next := by
  obtain ⟨location, hslot, hfree, rfl⟩ := makeDirectory_eq_ok hmake
  obtain ⟨-, hlocation⟩ := slot_location hslot
  constructor
  · exact grows_put hlocation (.inl hfree)
  · intro other
    rw [file?, file?, node?_put hlocation]
    by_cases hother : location = other
    · rw [if_pos hother, ← hother, hfree]
    · rw [if_neg hother]

/-- A directory that was made is where its path leads. -/
theorem leadsToDirectory_makeDirectory {next : Tree}
    (hmake : tree.makeDirectory working path = .ok next) :
    next.leadsToDirectory working path = true := by
  have hgrows := (onlyDirectories_makeDirectory hmake).grows
  obtain ⟨location, hslot, -, rfl⟩ := makeDirectory_eq_ok hmake
  obtain ⟨-, hlocation⟩ := slot_location hslot
  obtain ⟨hshort, directory, name, hname, hwalk, hdirectory, hup, hshortName, rfl⟩ :=
    slot_eq_some_iff.mp hslot
  have hnode : (tree.put (directory ++ [name]) .directory).node? (directory ++ [name]) =
      some .directory := by
    rw [node?_put hlocation, if_pos rfl]
  have henter : (tree.put (directory ++ [name]) .directory).enter directory name =
      .ok (directory ++ [name]) := by
    rw [enter, hgrows.directory directory hdirectory]
    simp [hup, hshortName, hnode]
  refine leadsToDirectory_iff.mpr ⟨_, find_eq_ok_iff.mpr ⟨hshort, ?_, hnode⟩⟩
  rw [parts_eq_of_getLast? hname]
  apply walk_append_of (hgrows.walk hwalk)
  rw [walk, henter]
  rfl

/-- A directory cannot be made twice. -/
theorem makeDirectory_of_leadsToDirectory (hleads : tree.leadsToDirectory working path = true) :
    tree.makeDirectory working path = .error .alreadyThere := by
  obtain ⟨location, hfind⟩ := leadsToDirectory_iff.mp hleads
  obtain ⟨hshort, hwalk, hnode⟩ := find_eq_ok_iff.mp hfind
  unfold makeDirectory slot
  rw [hshort]
  cases hlast : path.parts.getLast? with
  | none => rfl
  | some name =>
    rw [parts_eq_of_getLast? hlast] at hwalk
    obtain ⟨directory, hfront, hback⟩ := walk_append hwalk
    obtain ⟨next, henter, hnil⟩ := walk_cons_eq_ok hback
    cases hnil
    obtain ⟨hdirectory, rfl, hpart⟩ := enter_eq_ok henter
    by_cases hup : name = ".."
    · simp [hfront, hdirectory, hup]
    · rw [advance, if_neg hup] at hnode
      simp [hfront, hdirectory, hup, (hpart hup).1, hnode]

theorem makeFile_eq_ok_iff {next : Tree} :
    tree.makeFile working path = .ok (location, next) ↔
      tree.slot working path = .ok (some location) ∧ tree.node? location = none ∧
        next = tree.put location (.file []) := by
  unfold makeFile
  split
  · next hslot => simp [hslot]
  · next hslot => simp [hslot]
  · next slot hslot =>
    split
    · next htaken =>
      obtain ⟨node, hnode⟩ := Option.isSome_iff_exists.mp htaken
      simp only [reduceCtorEq, hslot, Except.ok.injEq, Option.some.injEq, false_iff, not_and]
      rintro rfl hfree
      rw [hnode] at hfree
      cases hfree
    · next hfree =>
      have hnone : tree.node? slot = none := Option.not_isSome_iff_eq_none.mp hfree
      simp only [Except.ok.injEq, Prod.mk.injEq, hslot, Option.some.injEq]
      constructor
      · rintro ⟨rfl, rfl⟩
        exact ⟨rfl, hnone, rfl⟩
      · rintro ⟨rfl, -, rfl⟩
        exact ⟨rfl, rfl⟩

/-- A file takes the place of what is at a path unless that is a directory. -/
theorem replace_eq_ok_iff {source : Location} {target : Path} {octets : List UInt8} {next : Tree}
    (hsource : tree.node? source = some (.file octets)) :
    tree.replace working source target = .ok next ↔
      ∃ location, tree.slot working target = .ok (some location) ∧
        tree.node? location ≠ some .directory ∧
        next = (tree.erase source).put location (.file octets) := by
  unfold replace
  split
  · next hslot => simp [hslot]
  · next hslot => simp [hslot]
  · next location hslot =>
    have hresult : ∀ result : Tree,
        (.ok result : Except Obstacle Tree) = .ok next ↔ next = result :=
      fun result => ⟨fun heq => (Except.ok.inj heq).symm, fun heq => heq ▸ rfl⟩
    rw [hsource]
    cases hnode : tree.node? location with
    | none => simp [hslot, hnode, hresult]
    | some node => cases node <;> simp [hslot, hnode, hresult]

/-- Octets that are added to a file are received by it. -/
theorem append_eq_ok {added : List UInt8} {next : Tree}
    (happend : tree.append working path added = .ok next) :
    ∃ octets, tree.Receives next (path.locate working) octets := by
  unfold append at happend
  split at happend
  · cases happend
  · cases happend
  · next location hslot =>
    obtain ⟨rfl, hroot⟩ := slot_location hslot
    split at happend
    · cases happend
    · next present hnode =>
      cases happend
      exact ⟨_, receives_put hroot (by simp [hnode])⟩
    · next hnode =>
      cases happend
      exact ⟨_, receives_put hroot (by simp [hnode])⟩

theorem octets_eq_ok_iff {octets : List UInt8} :
    tree.octets working path = .ok octets ↔
      ∃ location, tree.find working path = .ok (location, .file octets) := by
  unfold Tree.octets
  split
  · next location held hfind => simp [hfind]
  · next location hfind => simp [hfind]
  · next obstacle hfind => simp [hfind]

/-- A file that could be read is read again with the octets that it has now. -/
theorem Grows.octets (hgrows : before.Grows after) {old octets : List UInt8}
    (hold : before.octets working path = .ok old)
    (hfile : after.file? (path.locate working) = some octets) :
    after.octets working path = .ok octets := by
  obtain ⟨location, hfind⟩ := octets_eq_ok_iff.mp hold
  obtain ⟨hshort, hwalk, -⟩ := find_eq_ok_iff.mp hfind
  have hlocation : location = path.locate working := walk_eq_foldl hwalk
  rw [← hlocation] at hfile
  exact octets_eq_ok_iff.mpr
    ⟨location, find_eq_ok_iff.mpr ⟨hshort, hgrows.walk hwalk, file?_eq_some_iff.mp hfile⟩⟩

/-- The names of a path but the last one can be followed to a directory. -/
def WayTo (tree : Tree) (working : Location) (path : Path) : Prop :=
  ∃ above, tree.walk (path.start working) path.parts.dropLast = .ok above ∧
    tree.node? above = some .directory

/-- Only the names before the last one matter for the way. -/
theorem WayTo.congr {other : Path} (hway : tree.WayTo working path)
    (hanchor : path.anchor = other.anchor) (hparts : path.parts.dropLast = other.parts.dropLast) :
    tree.WayTo working other := by
  rw [WayTo, Path.start, hanchor, hparts] at hway
  exact hway

theorem wayTo_of_octets {octets : List UInt8} (hparts : path.parts ≠ [])
    (hoctets : tree.octets working path = .ok octets) : tree.WayTo working path := by
  obtain ⟨location, hfind⟩ := octets_eq_ok_iff.mp hoctets
  obtain ⟨-, hwalk, -⟩ := find_eq_ok_iff.mp hfind
  rw [← List.dropLast_append_getLast hparts] at hwalk
  obtain ⟨above, habove, hlast⟩ := walk_append hwalk
  obtain ⟨next, henter, -⟩ := walk_cons_eq_ok hlast
  exact ⟨above, habove, (enter_eq_ok henter).1⟩

/-- A file that can be read in one tree is read in another tree as well, if it is
there and the way to it is. -/
theorem WayTo.octets {octets : List UInt8} (hway : before.WayTo working path)
    (hfile : before.file? (path.locate working) = some octets)
    (hafter : after.octets working path = .ok octets) :
    before.octets working path = .ok octets := by
  obtain ⟨location, hfind⟩ := octets_eq_ok_iff.mp hafter
  obtain ⟨hshort, hwalk, -⟩ := find_eq_ok_iff.mp hfind
  have hlocation : location = path.locate working := walk_eq_foldl hwalk
  rw [← hlocation, file?_eq_some_iff] at hfile
  refine octets_eq_ok_iff.mpr ⟨location, find_eq_ok_iff.mpr ⟨hshort, ?_, hfile⟩⟩
  cases hlast : path.parts.getLast? with
  | none =>
    rw [List.getLast?_eq_none_iff.mp hlast] at hwalk ⊢
    exact hwalk
  | some name =>
    obtain ⟨above, habove, hdirectory⟩ := hway
    rw [parts_eq_of_getLast? hlast] at hwalk ⊢
    obtain ⟨reached, hreached, hback⟩ := walk_append hwalk
    obtain ⟨next, henter, hnil⟩ := walk_cons_eq_ok hback
    cases hnil
    obtain ⟨-, rfl, hname⟩ := enter_eq_ok henter
    -- both trees are left at the same place, and only the last name is looked up
    obtain rfl : above = reached := (walk_eq_foldl habove).trans (walk_eq_foldl hreached).symm
    apply walk_append_of habove
    rw [walk, enter_eq_ok_of hdirectory fun hup => ⟨(hname hup).1, by rw [hfile]; rfl⟩]
    rfl

theorem file?_of_octets {octets : List UInt8} (hoctets : tree.octets working path = .ok octets) :
    tree.file? (path.locate working) = some octets := by
  obtain ⟨location, hfind⟩ := octets_eq_ok_iff.mp hoctets
  obtain ⟨-, hwalk, hnode⟩ := find_eq_ok_iff.mp hfind
  have hlocation : location = path.locate working := walk_eq_foldl hwalk
  rw [← hlocation]
  exact file?_eq_some_iff.mpr hnode

end ConfigReference.File.Tree
