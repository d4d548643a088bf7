import ConfigReference.File.Action
import ConfigReference.Proofs.FileTree
import ConfigReference.Proofs.Outcome

/-!
# Laws of making directories

The directories on the way to a path are made one after the other, each at a
place that the first names of the path lead to.  All else that can be said of
the trees on the way follows from this: files stay as they are, and what has
come is a directory at a free place of the way.  If nothing but directories is
found there, and no name is too long, all of them are there at the end.
-/

namespace ConfigReference.File

open FileAction

variable {working location : Location} {path : Path} {history : History}

/-! ## The places of a way -/

/-- The places that names lead to, one after the other. -/
def Path.placesFrom : Location → List String → List Location
  | _, [] => []
  | here, name :: rest => advance here name :: placesFrom (advance here name) rest

/-- The places that a path leads through, its own as the last one. -/
def Path.places (working : Location) (path : Path) : List Location :=
  placesFrom (path.start working) path.parts

theorem Path.mem_placesFrom_iff {here : Location} {names : List String} :
    location ∈ placesFrom here names ↔
      ∃ front, front ≠ [] ∧ front <+: names ∧ location = front.foldl advance here := by
  induction names generalizing here with
  | nil => simp [placesFrom]
  | cons name rest ih =>
    rw [placesFrom, List.mem_cons, ih]
    constructor
    · rintro (rfl | ⟨front, -, ⟨back, rfl⟩, rfl⟩)
      · exact ⟨[name], by simp, ⟨rest, rfl⟩, rfl⟩
      · exact ⟨name :: front, by simp, ⟨back, rfl⟩, rfl⟩
    · rintro ⟨front, hfront, hbegin, rfl⟩
      cases front with
      | nil => exact absurd rfl hfront
      | cons first others =>
        obtain ⟨rfl, hothers⟩ := List.cons_prefix_cons.mp hbegin
        cases others with
        | nil => exact .inl rfl
        | cons second more => exact .inr ⟨second :: more, by simp, hothers, rfl⟩

theorem Path.mem_placesFrom_of_beginning {here : Location} {front names : List String}
    (hfront : front <+: names) (hplace : location ∈ placesFrom here front) :
    location ∈ placesFrom here names := by
  obtain ⟨few, hfew, hbegin, rfl⟩ := mem_placesFrom_iff.mp hplace
  exact mem_placesFrom_iff.mpr ⟨few, hfew, hbegin.trans hfront, rfl⟩

theorem Path.foldl_advance {names : List String} (hup : ".." ∉ names) (here : Location) :
    names.foldl advance here = here ++ names := by
  induction names generalizing here with
  | nil => simp
  | cons name rest ih =>
    rw [List.mem_cons, not_or] at hup
    rw [List.foldl_cons, ih hup.2, advance, if_neg (Ne.symm hup.1), List.append_assoc]
    rfl

/-- A path that never goes back leads through places above its own. -/
theorem Path.above_of_mem_places (hup : ".." ∉ path.parts)
    (hplace : location ∈ path.parent.places working) :
    location <+: path.locate working ∧ location ≠ path.locate working := by
  obtain ⟨front, hfront, hbegin, rfl⟩ := mem_placesFrom_iff.mp hplace
  have hwhole : front <+: path.parts := hbegin.trans <| List.dropLast_prefix path.parts
  rw [locate, foldl_advance hup, foldl_advance fun hmem => hup (hwhole.subset hmem)]
  refine ⟨(List.prefix_append_right_inj _).mpr hwhole, fun hlocate => ?_⟩
  obtain rfl : front = path.parts := List.append_cancel_left hlocate
  have hlength := hbegin.length_le
  rw [Path.parent, List.length_dropLast] at hlength
  exact hfront (List.length_eq_zero_iff.mp (by omega))

theorem Path.locate_not_mem_places (hup : ".." ∉ path.parts) :
    path.locate working ∉ path.parent.places working :=
  fun hmem => (above_of_mem_places hup hmem).2 rfl

/-! ## Trees and directories -/

namespace Tree

variable {tree before middle after : Tree} {node : Node}

/-- Every node lies in a directory. -/
def IsClosed (tree : Tree) : Prop :=
  ∀ location, location ≠ [] → (tree.node? location).isSome →
    tree.node? location.dropLast = some .directory

theorem IsClosed.put (hclosed : tree.IsClosed) (hlocation : location ≠ [])
    (hparent : tree.node? location.dropLast = some .directory) (hfree : tree.node? location = none) :
    (tree.put location node).IsClosed := by
  intro other hother hsome
  rw [node?_put hlocation] at hsome ⊢
  have habove : tree.node? other.dropLast = some .directory := by
    by_cases hsame : location = other
    · rwa [← hsame]
    · rw [if_neg hsame] at hsome
      exact hclosed other hother hsome
  rw [if_neg, habove]
  rintro rfl
  rw [hfree] at habove
  cases habove

/-- In a closed tree the names of a directory lead to it from the root. -/
theorem IsClosed.walk_of_directory (hclosed : tree.IsClosed)
    (hnames : ∀ name ∈ location, name ≠ ".." ∧ isTooLong name = false)
    (hnode : tree.node? location = some .directory) : tree.walk [] location = .ok location := by
  induction hlength : location.length generalizing location with
  | zero =>
    rw [List.length_eq_zero_iff.mp hlength]
    rfl
  | succ length ih =>
    obtain ⟨front, name, rfl⟩ : ∃ front name, location = front ++ [name] := by
      have hnonempty : location ≠ [] := by
        rintro rfl
        cases hlength
      exact ⟨_, _, (List.dropLast_append_getLast hnonempty).symm⟩
    have hdirectory := hclosed (front ++ [name]) (by simp) (by rw [hnode]; rfl)
    rw [List.dropLast_concat] at hdirectory
    have hfront := ih (fun part hpart => hnames part (List.mem_append_left _ hpart)) hdirectory
      (by simpa using hlength)
    obtain ⟨hup, hshort⟩ := hnames name (by simp)
    have henter : tree.enter front name = .ok (front ++ [name]) := by
      have hadvance : Path.advance front name = front ++ [name] := if_neg hup
      rw [← hadvance]
      exact enter_eq_ok_of hdirectory fun _ => ⟨hshort, by rw [hadvance, hnode]; rfl⟩
    apply walk_append_of hfront
    rw [walk, henter]
    rfl

/-- Directories have been made one after the other, each at a path of the first
names of a given one. -/
inductive MakesWay (working : Location) (path : Path) (before : Tree) : Tree → Prop
  | refl : MakesWay working path before before
  | make {middle after : Tree} {front : List String} (hmiddle : MakesWay working path before middle)
      (hfront : front <+: path.parts)
      (hmake : middle.makeDirectory working ⟨path.anchor, front⟩ = .ok after) :
      MakesWay working path before after

theorem MakesWay.trans (hfirst : before.MakesWay working path middle)
    (hsecond : middle.MakesWay working path after) : before.MakesWay working path after := by
  induction hsecond with
  | refl => exact hfirst
  | make _ hfront hmake ih => exact .make ih hfront hmake

theorem MakesWay.of_beginning {anchor : Anchor} {front names : List String}
    (hway : before.MakesWay working ⟨anchor, front⟩ after) (hfront : front <+: names) :
    before.MakesWay working ⟨anchor, names⟩ after := by
  induction hway with
  | refl => exact .refl
  | make _ hfew hmake ih => exact .make ih (hfew.trans hfront) hmake

theorem MakesWay.onlyDirectories (hway : before.MakesWay working path after) :
    before.OnlyDirectories after := by
  induction hway with
  | refl => exact OnlyDirectories.refl before
  | make _ _ hmake ih => exact ih.trans (onlyDirectories_makeDirectory hmake)

theorem MakesWay.isClosed (hway : before.MakesWay working path after) (hclosed : before.IsClosed) :
    after.IsClosed := by
  induction hway with
  | refl => exact hclosed
  | make _ _ hmake ih =>
    obtain ⟨location, hslot, hfree, rfl⟩ := makeDirectory_eq_ok hmake
    obtain ⟨-, directory, name, -, -, hdirectory, -, -, rfl⟩ := slot_eq_some_iff.mp hslot
    exact ih.put (by simp) (by rwa [List.dropLast_concat]) hfree

/-- A place is as it was, or it was free, is among the given ones and has got a
directory. -/
def MayAddDirectory (places : List Location) (before after : Tree) (location : Location) : Prop :=
  after.node? location = before.node? location ∨
    location ∈ places ∧ before.node? location = none ∧ after.node? location = some .directory

namespace MayAddDirectory

variable {places : List Location}

theorem trans (hfirst : MayAddDirectory places before middle location)
    (hsecond : MayAddDirectory places middle after location) :
    MayAddDirectory places before after location := by
  rcases hfirst with hsame | ⟨hplace, hfree, hmade⟩
  · rwa [MayAddDirectory, ← hsame]
  · rcases hsecond with hsame | ⟨-, hnone, -⟩
    · exact .inr ⟨hplace, hfree, hsame.trans hmade⟩
    · rw [hmade] at hnone
      cases hnone

theorem mono {more : List Location} (hadds : MayAddDirectory places before after location)
    (hplaces : ∀ place ∈ places, place ∈ more) : MayAddDirectory more before after location :=
  hadds.imp_right fun ⟨hplace, hmade⟩ => ⟨hplaces location hplace, hmade⟩

theorem node?_eq (hadds : MayAddDirectory places before after location)
    (hplace : location ∉ places) : after.node? location = before.node? location :=
  hadds.resolve_right fun hmade => hplace hmade.1

end MayAddDirectory

/-- Directories have come at free places among the given ones, and nothing else
is different. -/
def AddsDirectories (places : List Location) (before after : Tree) : Prop :=
  ∀ location, MayAddDirectory places before after location

/-- A directory that is made comes at a free place of the way. -/
theorem mayAddDirectory_of_makeDirectory {front : List String} (hfront : front <+: path.parts)
    (hmake : before.makeDirectory working ⟨path.anchor, front⟩ = .ok after) (location : Location) :
    MayAddDirectory (path.places working) before after location := by
  obtain ⟨place, hslot, hfree, rfl⟩ := makeDirectory_eq_ok hmake
  obtain ⟨hplace, hroot⟩ := slot_location hslot
  have hnames : front ≠ [] := by
    rintro rfl
    obtain ⟨-, _, _, hname, -⟩ := slot_eq_some_iff.mp hslot
    cases hname
  rw [MayAddDirectory, node?_put hroot]
  split
  · next hsame =>
    subst hsame
    exact .inr ⟨Path.mem_placesFrom_iff.mpr ⟨front, hnames, hfront, hplace⟩, hfree, rfl⟩
  · exact .inl rfl

theorem MakesWay.addsDirectories (hway : before.MakesWay working path after) :
    AddsDirectories (path.places working) before after := by
  intro location
  induction hway with
  | refl => exact .inl rfl
  | make _ hfront hmake ih =>
    exact ih.trans (mayAddDirectory_of_makeDirectory hfront hmake location)

/-- A place that the way does not lead through is as it was. -/
theorem MakesWay.node?_eq (hway : before.MakesWay working path after)
    (hplace : location ∉ path.places working) : after.node? location = before.node? location :=
  (hway.addsDirectories location).node?_eq hplace

end Tree

/-! ## Trees that another reader finds -/

/-- All trees from one state to a later one have a property. -/
def History.Through (holds : Tree → Prop) (before after : History) : Prop :=
  ∃ visited, after.past = visited ++ before.past ∧ ∀ tree ∈ after.tree :: visited, holds tree

namespace History.Through

variable {holds weaker : Tree → Prop} {before middle after : History}

theorem refl (hholds : holds before.tree) : Through holds before before :=
  ⟨[], rfl, by simpa using hholds⟩

theorem last (hthrough : Through holds before after) : holds after.tree := by
  obtain ⟨visited, -, hholds⟩ := hthrough
  exact hholds after.tree List.mem_cons_self

theorem change (hthrough : Through holds before middle) {next : Tree} (hnext : holds next) :
    Through holds before ⟨next, middle.tree :: middle.past⟩ := by
  obtain ⟨visited, hpast, hholds⟩ := hthrough
  refine ⟨middle.tree :: visited, by rw [hpast, List.cons_append], ?_⟩
  exact List.forall_mem_cons.mpr ⟨hnext, hholds⟩

theorem trans (hfirst : Through weaker before middle) (hsecond : Through holds middle after)
    (himplies : ∀ tree, holds tree → weaker tree) : Through weaker before after := by
  obtain ⟨early, hpast, hearly⟩ := hfirst
  obtain ⟨late, hlater, hlate⟩ := hsecond
  refine ⟨late ++ early, by rw [hlater, hpast, List.append_assoc], fun tree htree => ?_⟩
  rw [← List.cons_append, List.mem_append] at htree
  rcases htree with hmem | hmem
  · exact himplies tree (hlate tree hmem)
  · exact hearly tree (List.mem_cons_of_mem _ hmem)

theorem mono (hthrough : Through holds before after)
    (himplies : ∀ tree, holds tree → weaker tree) : Through weaker before after := by
  obtain ⟨visited, hpast, hholds⟩ := hthrough
  exact ⟨visited, hpast, fun tree htree => himplies tree (hholds tree htree)⟩

end History.Through

/-- A run that makes directories of a way goes on after another one. -/
theorem History.Through.makesWay_trans {first second third : History}
    (hfirst : first.Through (first.tree.MakesWay working path) second)
    (hsecond : second.Through (second.tree.MakesWay working path) third) :
    first.Through (first.tree.MakesWay working path) third :=
  hfirst.trans hsecond fun _ hway => hfirst.last.trans hway

/-! ## Runs -/

theorem ends_tree {α : Type} {next : Tree → FileAction α} {onValue : α → History → Prop}
    {onFailure : Fault → History → Prop}
    (hends : Ends (next history.tree) history onValue onFailure) :
    Ends (tree >>= next) history onValue onFailure :=
  ⟨hends.holds⟩

theorem guardNull_ends_by (path : Path) (history : History) :
    Ends (guardNull path) history (fun _ after => after = history ∧ path.hasNull = false)
      fun fault after => after = history ∧ fault = .nullInPath ∧ path.hasNull = true := by
  unfold guardNull
  split
  · next hnull => exact ⟨rfl, rfl, hnull⟩
  · next hnull => exact ⟨rfl, Bool.eq_false_iff.mpr hnull⟩

theorem guardNull_ends (path : Path) (history : History) :
    Ends (guardNull path) history (fun _ after => after = history ∧ path.hasNull = false)
      fun _ after => after = history :=
  (guardNull_ends_by path history).mono (fun _ _ => id) fun _ _ => And.left

/-- The attempt itself never fails, so nothing has to be shown of a failure. -/
theorem tryMakeDirectory_ends (working : Location) (path : Path) (history : History)
    {onFailure : Fault → History → Prop} :
    Ends (tryMakeDirectory working path) history
      (fun obstacle after => history.Through (history.tree.MakesWay working path) after ∧
        (obstacle = none → after.tree.leadsToDirectory working path = true))
      onFailure := by
  unfold tryMakeDirectory
  apply ends_tree
  cases hmake : history.tree.makeDirectory working path with
  | ok next =>
    exact ⟨(History.Through.refl .refl).change (.make .refl List.prefix_rfl hmake),
      fun _ => Tree.leadsToDirectory_makeDirectory hmake⟩
  | error obstacle => exact ⟨.refl .refl, nofun⟩

theorem acceptPresent_ends (working : Location) (path : Path) (obstacle : Obstacle)
    (history : History) :
    Ends (acceptPresent working path obstacle) history
      (fun _ after => after = history ∧ history.tree.leadsToDirectory working path = true)
      fun fault after => after = history ∧ fault.isOfTree = true := by
  unfold acceptPresent
  apply ends_tree
  split
  · next hleads => exact ⟨rfl, hleads⟩
  · exact ⟨rfl, rfl⟩

/-- Directories are made or present, or the refusal leaves things as they were. -/
theorem settle_ends {start : History} {obstacle : Option Obstacle} {middle : History}
    (hthrough : start.Through (start.tree.MakesWay working path) middle)
    (hmade : obstacle = none → middle.tree.leadsToDirectory working path = true) :
    Ends
      (match obstacle with
        | none => (return : FileAction Unit)
        | some obstacle => acceptPresent working path obstacle)
      middle
      (fun _ after => start.Through (start.tree.MakesWay working path) after ∧
        after.tree.leadsToDirectory working path = true)
      fun fault after => start.Through (start.tree.MakesWay working path) after ∧
        fault.isOfTree = true := by
  cases obstacle with
  | none => exact ⟨hthrough, hmade rfl⟩
  | some obstacle =>
    apply (acceptPresent_ends working path obstacle middle).mono
    · rintro _ after ⟨rfl, hleads⟩
      exact ⟨hthrough, hleads⟩
    · rintro fault after ⟨rfl, hfault⟩
      exact ⟨hthrough, hfault⟩

theorem makeUpwards_ends (working : Location) (anchor : Anchor) (names : List String)
    (history : History) :
    Ends (makeUpwards working anchor names) history
      (fun _ after =>
        history.Through (history.tree.MakesWay working ⟨anchor, names.reverse⟩) after ∧
        after.tree.leadsToDirectory working ⟨anchor, names.reverse⟩ = true)
      fun fault after =>
        history.Through (history.tree.MakesWay working ⟨anchor, names.reverse⟩) after ∧
        fault.isOfTree = true := by
  induction names generalizing history with
  | nil =>
    unfold makeUpwards
    apply (tryMakeDirectory_ends working ⟨anchor, []⟩ history).bind
    rintro obstacle middle ⟨hthrough, hmade⟩
    exact settle_ends hthrough hmade
  | cons name above ih =>
    unfold makeUpwards
    apply (tryMakeDirectory_ends working ⟨anchor, (name :: above).reverse⟩ history).bind
    rintro obstacle middle ⟨hthrough, hmade⟩
    split
    · exact ⟨hthrough, hmade rfl⟩
    · -- the directories above are made first, then the directory is tried again
      have habove : above.reverse <+: (name :: above).reverse := by
        rw [List.reverse_cons]
        exact List.prefix_append _ _
      have hwiden : ∀ between,
          middle.Through (middle.tree.MakesWay working ⟨anchor, above.reverse⟩) between →
          history.Through
            (history.tree.MakesWay working ⟨anchor, (name :: above).reverse⟩) between :=
        fun between hbetween =>
          hthrough.makesWay_trans (hbetween.mono fun _ hway => hway.of_beginning habove)
      apply Ends.bind
      · apply (ih middle).mono
        · rintro _ between ⟨hbetween, -⟩
          exact hwiden between hbetween
        · rintro fault between ⟨hbetween, hfault⟩
          exact ⟨hwiden between hbetween, hfault⟩
      · intro _ between hbetween
        apply (tryMakeDirectory_ends working ⟨anchor, (name :: above).reverse⟩ between).bind
        rintro obstacle last ⟨hlast, hmade⟩
        exact settle_ends (hbetween.makesWay_trans hlast) hmade
    · next obstacle _ => exact settle_ends hthrough (nofun : some obstacle = none → _)

theorem makeParents_ends (working : Location) (path : Path) (history : History) :
    Ends (makeParents working path) history
      (fun _ after => history.Through (history.tree.MakesWay working path.parent) after ∧
        path.parent.hasNull = false ∧ after.tree.leadsToDirectory working path.parent = true)
      fun fault after => history.Through (history.tree.MakesWay working path.parent) after ∧
        (fault.isOfTree = true ∨ fault = .nullInPath ∧ path.parent.hasNull = true) := by
  unfold makeParents
  apply ((guardNull_ends_by path.parent history).mono (fun _ _ => id) ?_).bind
  · rintro _ history ⟨rfl, hnull⟩
    have hends := makeUpwards_ends working path.anchor path.parent.parts.reverse history
    rw [List.reverse_reverse] at hends
    apply hends.mono
    · rintro _ after ⟨hthrough, hleads⟩
      exact ⟨hthrough, hnull, hleads⟩
    · rintro fault after ⟨hthrough, hfault⟩
      exact ⟨hthrough, .inl hfault⟩
  · rintro fault _ ⟨rfl, hnull⟩
    exact ⟨.refl .refl, .inr hnull⟩

/-! ## Directories that are there -/

section Present

variable {tree : Tree}

theorem yields_tree {α : Type} {next : Tree → FileAction α} {value : α} {after : Tree}
    (hnext : Yields History.tree (next tree) tree value after) :
    Yields History.tree (FileAction.tree >>= next) tree value after := by
  rintro history rfl
  exact hnext history rfl

theorem yields_change (tree next : Tree) : Yields History.tree (change next) tree () next :=
  fun _ _ => ⟨_, rfl, rfl⟩

theorem yields_guardNull (tree : Tree) (hnull : path.hasNull = false) :
    Yields History.tree (guardNull path) tree () tree := by
  rw [guardNull, hnull]
  exact Yields.pure ()

theorem yields_tryMakeDirectory_of_error {obstacle : Obstacle}
    (hmake : tree.makeDirectory working path = .error obstacle) :
    Yields History.tree (tryMakeDirectory working path) tree (some obstacle) tree := by
  apply yields_tree
  rw [hmake]
  exact Yields.pure _

theorem yields_acceptPresent (hleads : tree.leadsToDirectory working path = true)
    (obstacle : Obstacle) :
    Yields History.tree (acceptPresent working path obstacle) tree () tree := by
  apply yields_tree
  rw [if_pos hleads]
  exact Yields.pure _

theorem yields_makeUpwards_of_present {anchor : Anchor} {names : List String}
    (hleads : tree.leadsToDirectory working ⟨anchor, names.reverse⟩ = true) :
    Yields History.tree (makeUpwards working anchor names) tree () tree := by
  have htry := yields_tryMakeDirectory_of_error (Tree.makeDirectory_of_leadsToDirectory hleads)
  cases names <;> exact htry.bind (yields_acceptPresent hleads .alreadyThere)

theorem yields_makeParents (hnull : path.parent.hasNull = false)
    (hleads : tree.leadsToDirectory working path.parent = true) :
    Yields History.tree (makeParents working path) tree () tree := by
  apply (yields_guardNull tree hnull).bind
  apply yields_makeUpwards_of_present
  rw [List.reverse_reverse]
  exact hleads

end Present

/-! ## Open ways -/

section Open

variable {tree : Tree}

theorem joined_append (separator : String) (front back : List String) :
    ∃ rest, Text.joined separator (front ++ back) = Text.joined separator front ++ rest := by
  induction front with
  | nil => exact ⟨Text.joined separator back, by simp [Text.joined, Text.joinWith]⟩
  | cons part others ih =>
    obtain ⟨rest, hrest⟩ := ih
    have hlist := congrArg String.toList hrest
    simp only [Text.joined, String.toList_ofList, String.toList_append] at hlist
    cases others with
    | nil =>
      cases back with
      | nil => exact ⟨"", by simp⟩
      | cons next more =>
        refine ⟨separator ++ Text.joined separator (next :: more), String.toList_inj.mp ?_⟩
        simp [Text.joined, Text.joinWith]
    | cons next more =>
      refine ⟨rest, String.toList_inj.mp ?_⟩
      simp only [List.cons_append, List.map_cons] at hlist
      simp only [Text.joined, List.cons_append, List.map_cons, Text.joinWith,
        String.toList_ofList, String.toList_append, List.append_assoc, hlist]

/-- The first names of a path are no longer than all of them. -/
theorem Path.isTooLong_of_beginning {anchor : Anchor} {front names : List String}
    (hfront : front <+: names) (hshort : Path.isTooLong ⟨anchor, names⟩ = false) :
    Path.isTooLong ⟨anchor, front⟩ = false := by
  obtain ⟨back, rfl⟩ := hfront
  obtain ⟨rest, hrest⟩ := joined_append "/" front back
  simp only [isTooLong, render, hrest, decide_eq_false_iff_not, Nat.not_lt] at hshort ⊢
  split
  · decide
  · next hfilled =>
    rw [if_neg] at hshort
    · simp only [String.utf8ByteSize_append] at hshort ⊢
      omega
    · intro hempty
      apply hfilled
      simp_all

namespace Tree

/-- On the way to a directory there is nothing but directories and free places
for them. -/
structure OpenWay (tree : Tree) (working : Location) (path : Path) : Prop where
  closed : tree.IsClosed
  start : tree.node? (path.start working) = some .directory
  short : path.isTooLong = false
  names : ∀ name ∈ path.parts, name ≠ ".." → isTooLong name = false
  places : ∀ place ∈ path.places working, tree.file? place = none

theorem OpenWay.of_beginning {anchor : Anchor} {front names : List String}
    (hopen : tree.OpenWay working ⟨anchor, names⟩) (hfront : front <+: names) :
    tree.OpenWay working ⟨anchor, front⟩ where
  closed := hopen.closed
  start := hopen.start
  short := Path.isTooLong_of_beginning hfront hopen.short
  names name hname := hopen.names name (hfront.subset hname)
  places place hplace := hopen.places place (Path.mem_placesFrom_of_beginning hfront hplace)

theorem OpenWay.of_makesWay {after : Tree} {made : Path} (hopen : tree.OpenWay working path)
    (hway : tree.MakesWay working made after) : after.OpenWay working path where
  closed := hway.isClosed hopen.closed
  start := hway.onlyDirectories.grows.directory _ hopen.start
  short := hopen.short
  names := hopen.names
  places place hplace := (hway.onlyDirectories.file? place).trans (hopen.places place hplace)

variable {anchor : Anchor} {above : List String} {name : String}

end Tree

end Open

end ConfigReference.File
