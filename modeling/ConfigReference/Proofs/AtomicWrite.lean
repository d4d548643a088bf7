import ConfigReference.File.AtomicWrite
import ConfigReference.Proofs.MakingDirectories

/-!
# Laws of atomic writes

A write that fails leaves every file as it was: at most, directories above the
target have been made.  A write that ends well changes the octets of the target
and of nothing else.  In both cases the scratch file is gone.  Another reader
never finds more on the way than the directories, the scratch file and, at last,
the whole content.  Writing a text to a file that holds it already ends well
too, and gives back the very same tree.
-/

namespace ConfigReference.File

open FileAction AtomicWrite

variable {working location : Location} {path : Path} {history : History}

/-! ## Scratch files -/

/-- The ending of a scratch file's name: eight octets, none of them null. -/
def IsSuffix (suffix : String) : Prop :=
  suffix.utf8ByteSize = 8 ∧ '\x00' ∉ suffix.toList

instance (suffix : String) : Decidable (IsSuffix suffix) :=
  inferInstanceAs (Decidable (_ ∧ _))

theorem joined_concat (separator : String) (front : List String) :
    ∃ beginning, ∀ last, Text.joined separator (front ++ [last]) = beginning ++ last := by
  induction front with
  | nil => exact ⟨"", fun last => by simp [Text.joined, Text.joinWith]⟩
  | cons part rest ih =>
    obtain ⟨beginning, hbeginning⟩ := ih
    refine ⟨part ++ separator ++ beginning, fun last => ?_⟩
    have hrest := congrArg String.toList (hbeginning last)
    simp only [Text.joined, String.toList_ofList, String.toList_append] at hrest
    apply String.toList_inj.mp
    obtain ⟨head, tail, hcons⟩ : ∃ head tail, rest ++ [last] = head :: tail :=
      List.exists_cons_of_ne_nil (by simp)
    rw [hcons] at hrest
    rw [List.cons_append, hcons]
    simp only [Text.joined, List.map_cons, Text.joinWith, String.toList_ofList,
      String.toList_append, List.append_assoc] at hrest ⊢
    rw [hrest]

/-- Last names of one size make paths of one size. -/
theorem isTooLong_concat (anchor : Anchor) (front : List String) {left right : String}
    (hsize : left.utf8ByteSize = right.utf8ByteSize) (hleft : left ≠ "") :
    Path.isTooLong ⟨anchor, front ++ [left]⟩ = Path.isTooLong ⟨anchor, front ++ [right]⟩ := by
  have hright : right ≠ "" := by
    rintro rfl
    exact hleft (String.utf8ByteSize_eq_zero_iff.mp hsize)
  obtain ⟨beginning, hbeginning⟩ := joined_concat "/" front
  have hrender : ∀ last, last ≠ "" →
      (Path.render ⟨anchor, front ++ [last]⟩).utf8ByteSize =
        anchor.text.utf8ByteSize + (beginning.utf8ByteSize + last.utf8ByteSize) := by
    intro last hlast
    rw [Path.render, hbeginning]
    rw [if_neg]
    · simp [String.utf8ByteSize_append]
    · simp [hlast]
  rw [Path.isTooLong, Path.isTooLong, hrender left hleft, hrender right hright, hsize]

/-- The name of a scratch file beside a target. -/
def scratchName (target : Path) (suffix : String) : String :=
  "." ++ target.name ++ "." ++ suffix

theorem utf8ByteSize_scratchName (target : Path) (suffix : String) :
    (scratchName target suffix).utf8ByteSize =
      target.name.utf8ByteSize + suffix.utf8ByteSize + 2 := by
  have hone : ("." : String).utf8ByteSize = 1 := rfl
  rw [scratchName, String.utf8ByteSize_append, String.utf8ByteSize_append,
    String.utf8ByteSize_append]
  omega

/-- A name of ten octets or more does not go back. -/
theorem scratchName_ne_up {target : Path} {suffix : String} (hsuffix : IsSuffix suffix) :
    scratchName target suffix ≠ ".." := by
  intro hup
  have hsize := utf8ByteSize_scratchName target suffix
  have htwo : (".." : String).utf8ByteSize = 2 := rfl
  rw [hup, hsuffix.1] at hsize
  omega

theorem scratchPath_eq (working : Location) (target : Path) (suffix : String) :
    scratchPath working target suffix =
      ⟨(target.parent.absolute working).anchor,
        (target.parent.absolute working).parts ++ [scratchName target suffix]⟩ :=
  rfl

/-- If one ending gives a scratch file a place, every other one does. -/
theorem scratch_place {tree : Tree} {target : Path} {suffix other : String}
    (hsuffix : IsSuffix suffix) (hother : IsSuffix other)
    (hnull : (scratchPath working target suffix).hasNull = false)
    (hslot : tree.slot working (scratchPath working target suffix) = .ok (some location)) :
    (scratchPath working target other).hasNull = false ∧
      ∃ place, tree.slot working (scratchPath working target other) = .ok (some place) := by
  have hsize : (scratchName target suffix).utf8ByteSize =
      (scratchName target other).utf8ByteSize := by
    rw [utf8ByteSize_scratchName, utf8ByteSize_scratchName, hsuffix.1, hother.1]
  rw [scratchPath_eq] at hnull hslot ⊢
  constructor
  · simp only [Path.hasNull, scratchName, List.any_append, Bool.or_eq_false_iff, List.any_cons,
      List.any_nil, Bool.or_false, String.toList_append, List.contains_eq_mem, List.mem_append,
      decide_eq_false_iff_not, not_or] at hnull ⊢
    exact ⟨hnull.1, hnull.2.1, hother.2⟩
  · obtain ⟨hshort, directory, name, hname, hwalk, hdirectory, -, hshortName, -⟩ :=
      Tree.slot_eq_some_iff.mp hslot
    rw [List.getLast?_concat, Option.some.injEq] at hname
    rw [List.dropLast_concat] at hwalk
    subst hname
    refine ⟨directory ++ [scratchName target other], Tree.slot_eq_some_iff.mpr ?_⟩
    refine ⟨?_, directory, scratchName target other, List.getLast?_concat .., ?_, hdirectory,
      scratchName_ne_up hother, ?_, rfl⟩
    · rw [← hshort]
      exact (isTooLong_concat _ _ hsize (by simp [scratchName])).symm
    · rw [List.dropLast_concat]
      exact hwalk
    · rw [← hshortName, Tree.isTooLong, Tree.isTooLong, hsize]

/-- A scratch file is made with the first name that is free, unless the tree
refuses it or a name cannot be handed to it. -/
theorem makeScratch_ends (working : Location) (target : Path) (suffixes : List String)
    (history : History) :
    Ends (makeScratch working target suffixes) history
      (fun made after => ∃ suffix ∈ suffixes, made.1 = scratchPath working target suffix ∧
        made.1.hasNull = false ∧ history.tree.slot working made.1 = .ok (some made.2) ∧
        history.tree.node? made.2 = none ∧
        after = ⟨history.tree.put made.2 (.file []), history.tree :: history.past⟩)
      fun fault after => after = history ∧ (fault.isOfTree = true ∨
        fault = .nullInPath ∧ ∃ suffix ∈ suffixes,
          (scratchPath working target suffix).hasNull = true) := by
  induction suffixes with
  | nil => exact ⟨rfl, .inl rfl⟩
  | cons suffix rest ih =>
    unfold makeScratch
    apply ((guardNull_ends_by (scratchPath working target suffix) history).mono
      (fun _ _ => id) ?_).bind
    · rintro _ history ⟨rfl, hnull⟩
      apply ends_tree
      cases hmake : history.tree.makeFile working (scratchPath working target suffix) with
      | ok made =>
        obtain ⟨location, next⟩ := made
        obtain ⟨hslot, hfree, rfl⟩ := Tree.makeFile_eq_ok_iff.mp hmake
        exact ⟨suffix, List.mem_cons_self, rfl, hnull, hslot, hfree, rfl⟩
      | error obstacle =>
        split
        · next heq => cases heq
        · apply ih.mono
          · rintro made after ⟨taken, htaken, hrest⟩
            exact ⟨taken, List.mem_cons_of_mem suffix htaken, hrest⟩
          · rintro fault after ⟨rfl, hfault | ⟨rfl, taken, htaken, hnull⟩⟩
            · exact ⟨rfl, .inl hfault⟩
            · exact ⟨rfl, .inr ⟨rfl, taken, List.mem_cons_of_mem suffix htaken, hnull⟩⟩
        · exact ⟨rfl, .inl rfl⟩
    · rintro fault after ⟨rfl, rfl, hnull⟩
      exact ⟨rfl, .inr ⟨rfl, suffix, List.mem_cons_self, hnull⟩⟩

/-! ## One write -/

/-- A fault that strikes a write from outside. -/
def Struck (interruption : Option Interruption) (fault : Fault) : Prop :=
  ∃ struck ∈ interruption, struck.fault = fault

theorem pass_ends (interruption : Option Interruption) (stage : Stage) (history : History) :
    Ends (AtomicWrite.pass interruption stage) history
      (fun _ after => after = history ∧ ∀ struck ∈ interruption, struck.stage ≠ stage)
      fun fault after => after = history ∧ Struck interruption fault := by
  cases interruption with
  | none => exact ⟨rfl, nofun⟩
  | some struck =>
    unfold AtomicWrite.pass
    dsimp only
    split
    · exact ⟨rfl, struck, rfl, rfl⟩
    · next hstage =>
      refine ⟨rfl, ?_⟩
      rintro _ ⟨rfl⟩
      exact hstage

/-- The directories are made, all of them unless a fault strikes. -/
theorem makeWay_ends (interruption : Option Interruption) (working : Location) (path : Path)
    (history : History) :
    Ends (makeWay interruption working path) history
      (fun _ after => history.Through (history.tree.MakesWay working path.parent) after ∧
        path.parent.hasNull = false ∧ after.tree.leadsToDirectory working path.parent = true ∧
        ∀ struck ∈ interruption, struck.stage ≠ .directories)
      fun fault after => history.Through (history.tree.MakesWay working path.parent) after ∧
        (fault.isOfTree = true ∨ Struck interruption fault ∨
          fault = .nullInPath ∧ path.parent.hasNull = true) := by
  unfold makeWay
  split
  · next fault progress =>
    have htake : path.parent.parts.take progress <+: path.parent.parts := List.take_prefix _ _
    have hmade := makeUpwards_ends working path.anchor
      (path.parent.parts.take progress).reverse history
    rw [List.reverse_reverse] at hmade
    apply ((guardNull_ends_by path.parent history).mono (fun _ _ => id) ?_).bind
    · rintro _ history ⟨rfl, -⟩
      apply (hmade.mono (fun _ _ => id) ?_).bind
      · rintro _ after ⟨hthrough, -⟩
        exact ⟨hthrough.mono fun _ hway => hway.of_beginning htake, .inr (.inl ⟨_, rfl, rfl⟩)⟩
      · rintro fault after ⟨hthrough, hfault⟩
        exact ⟨hthrough.mono fun _ hway => hway.of_beginning htake, .inl hfault⟩
    · rintro fault _ ⟨rfl, hnull⟩
      exact ⟨.refl .refl, .inr (.inr hnull)⟩
  · next hother =>
    apply (makeParents_ends working path history).mono
    · rintro _ after ⟨hthrough, hnull, hleads⟩
      refine ⟨hthrough, hnull, hleads, ?_⟩
      rintro ⟨stage, fault, progress⟩ hstruck rfl
      exact hother fault progress hstruck
    · rintro fault after ⟨hthrough, hfault | hnull⟩
      · exact ⟨hthrough, .inl hfault⟩
      · exact ⟨hthrough, .inr (.inr hnull)⟩

theorem fill_ends (interruption : Option Interruption) (location : Location)
    (octets : List UInt8) (history : History) :
    Ends (fill interruption location octets) history
      (fun _ after =>
        after = ⟨history.tree.put location (.file octets), history.tree :: history.past⟩ ∧
        ∀ struck ∈ interruption, struck.stage ≠ .contents)
      fun fault after =>
        (∃ written,
          after = ⟨history.tree.put location (.file written), history.tree :: history.past⟩) ∧
        Struck interruption fault := by
  unfold fill
  split
  · next written => exact ⟨⟨_, rfl⟩, _, rfl, rfl⟩
  · next hother =>
    refine ⟨rfl, ?_⟩
    rintro ⟨stage, fault, written⟩ hstruck rfl
    exact hother fault written hstruck

theorem substitute_ends (working : Location) (path : Path) (location : Location) (target : Path)
    (history : History) :
    Ends (substitute working path location target) history
      (fun _ after => ∃ next, history.tree.replace working location target = .ok next ∧
        after = ⟨next, history.tree :: history.past⟩)
      fun fault after => after = history ∧ fault.isOfTree = true := by
  unfold substitute
  apply ends_tree
  cases hreplace : history.tree.replace working location target with
  | ok next => exact ⟨next, rfl, rfl⟩
  | error obstacle => exact ⟨rfl, rfl⟩

theorem orRemove_ends {action : FileAction Unit} {onValue : Unit → History → Prop}
    {onFailure : Fault → History → Prop} (hends : Ends action history onValue onFailure) :
    Ends (orRemove location action) history onValue
      fun fault after => ∃ left, onFailure fault left ∧
        after = ⟨left.tree.erase location, left.tree :: left.past⟩ := by
  constructor
  unfold orRemove
  simp only [tryCatch, tryCatchThe, MonadExceptOf.tryCatch, EStateM.tryCatch]
  cases hrun : action history with
  | ok value after => exact hends.of_ok hrun
  | error fault after => exact ⟨after, hends.of_error hrun, rfl⟩

/-- What a write that ended well has done: the directories of the way are there,
and the target has got the octets. -/
structure Tree.Wrote (working : Location) (path : Path) (octets : List UInt8)
    (before middle after : Tree) : Prop where
  way : before.MakesWay working path.parent middle
  slot : middle.slot working path = .ok (some (path.locate working))
  node : middle.node? (path.locate working) ≠ some .directory
  tree : after = middle.put (path.locate working) (.file octets)

theorem Tree.Wrote.receives {octets : List UInt8} {before middle after : Tree}
    (hwrote : Tree.Wrote working path octets before middle after) :
    before.Receives after (path.locate working) octets := by
  obtain ⟨-, hroot⟩ := Tree.slot_location hwrote.slot
  apply hwrote.way.onlyDirectories.receives
  rw [hwrote.tree]
  exact Tree.receives_put hroot hwrote.node

/-- Beside the target, a write that ended well has made directories only. -/
theorem Tree.Wrote.mayAddDirectory {octets : List UInt8} {before middle after : Tree}
    (hwrote : Tree.Wrote working path octets before middle after)
    (hlocation : location ≠ path.locate working) :
    MayAddDirectory (path.parent.places working) before after location := by
  obtain ⟨-, hroot⟩ := Tree.slot_location hwrote.slot
  rw [hwrote.tree, MayAddDirectory, Tree.node?_put hroot, if_neg (Ne.symm hlocation)]
  exact hwrote.way.addsDirectories location

/-- What another reader may find while octets are written to a path: directories
of the way, a scratch file beside the target with some octets, and in the end
the target with all of them. -/
inductive Tree.InWrite (working : Location) (path : Path) (octets : List UInt8) (before : Tree) :
    Tree → Prop
  | way {middle : Tree} (hway : before.MakesWay working path.parent middle) :
      InWrite working path octets before middle
  | scratch {middle : Tree} {suffix : String} {location : Location} (written : List UInt8)
      (hway : before.MakesWay working path.parent middle)
      (hplace : middle.slot working (scratchPath working path suffix) = .ok (some location))
      (hfree : middle.node? location = none) :
      InWrite working path octets before (middle.put location (.file written))
  | target {middle after : Tree} (hwrote : Wrote working path octets before middle after) :
      InWrite working path octets before after

/-- The scratch file gets the octets and takes the place of the target, or it is
left with some of them. -/
theorem exchange_ends {interruption : Option Interruption} {octets : List UInt8} {suffix : String}
    {before middle : Tree} (hway : before.MakesWay working path.parent middle)
    (hparent : middle.leadsToDirectory working path.parent = true)
    (hplace : middle.slot working (scratchPath working path suffix) = .ok (some location))
    (hfree : middle.node? location = none)
    (hmade : history.tree = middle.put location (.file [])) :
    Ends
      (do
        fill interruption location octets
        AtomicWrite.pass interruption .replacement
        substitute working (scratchPath working path suffix) location path)
      history
      (fun _ after => history.Through (before.InWrite working path octets) after ∧
        Tree.Wrote working path octets before middle after.tree ∧
        ∀ struck ∈ interruption, struck.stage ≠ .contents ∧ struck.stage ≠ .replacement)
      fun fault after => history.Through (before.InWrite working path octets) after ∧
        (∃ written, after.tree = middle.put location (.file written)) ∧
        (fault.isOfTree = true ∨ Struck interruption fault) := by
  obtain ⟨-, hlocation⟩ := Tree.slot_location hplace
  have hstart : history.Through (before.InWrite working path octets) history := by
    apply History.Through.refl
    rw [hmade]
    exact .scratch [] hway hplace hfree
  have hchange : ∀ written, history.Through (before.InWrite working path octets)
      ⟨history.tree.put location (.file written), history.tree :: history.past⟩ := by
    intro written
    apply hstart.change
    rw [hmade, Tree.put_put]
    exact .scratch written hway hplace hfree
  apply ((fill_ends interruption location octets history).mono (fun _ _ => id) ?_).bind
  · rintro _ filled ⟨hfilled, hcontents⟩
    have hthrough := hchange octets
    rw [← hfilled] at hthrough
    have htree : filled.tree = middle.put location (.file octets) := by
      rw [hfilled, hmade, Tree.put_put]
    apply ((pass_ends interruption .replacement filled).mono (fun _ _ => id) ?_).bind
    · rintro _ filled ⟨rfl, hreplacement⟩
      apply (substitute_ends working (scratchPath working path suffix) location path filled).mono
      · rintro _ after ⟨next, hnext, rfl⟩
        have hsource : filled.tree.node? location = some (.file octets) := by
          rw [htree, Tree.node?_put hlocation, if_pos rfl]
        obtain ⟨target, hslot, hdirectory, rfl⟩ := (Tree.replace_eq_ok_iff hsource).mp hnext
        rw [htree] at hslot hdirectory
        have htarget := Tree.slot_of_leadsToDirectory hparent hslot
        obtain ⟨rfl, -⟩ := Tree.slot_location htarget
        have hnode : middle.node? (path.locate working) ≠ some .directory := fun hnode =>
          hdirectory ((Tree.grows_put hlocation (.inl hfree)).directory _ hnode)
        have hwrote : Tree.Wrote working path octets before middle
            ((filled.tree.erase location).put (path.locate working) (.file octets)) :=
          ⟨hway, htarget, hnode, by rw [htree, Tree.erase_put hlocation hfree]⟩
        exact ⟨hthrough.change (.target hwrote), hwrote,
          fun struck hstruck => ⟨hcontents struck hstruck, hreplacement struck hstruck⟩⟩
      · rintro fault filled ⟨rfl, hfault⟩
        exact ⟨hthrough, ⟨octets, htree⟩, .inl hfault⟩
    · rintro fault filled ⟨rfl, hstruck⟩
      exact ⟨hthrough, ⟨octets, htree⟩, .inr hstruck⟩
  · rintro fault after ⟨⟨written, rfl⟩, hstruck⟩
    refine ⟨hchange written, ⟨written, ?_⟩, .inr hstruck⟩
    rw [hmade, Tree.put_put]

/-- A path at which a file can be written, with scratch files beside it. -/
structure Tree.Ready (tree : Tree) (working : Location) (path : Path) : Prop where
  parent_hasNull : path.parent.hasNull = false
  parent : tree.leadsToDirectory working path.parent = true
  slot : tree.slot working path = .ok (some (path.locate working))
  scratch : ∀ suffix, IsSuffix suffix → (scratchPath working path suffix).hasNull = false ∧
    ∃ place, tree.slot working (scratchPath working path suffix) = .ok (some place)

/-- Some suffix gives a scratch file beside the path a name that is not taken. -/
def Tree.HasFreeName (tree : Tree) (working : Location) (path : Path) (suffixes : List String) :
    Prop :=
  ∃ suffix ∈ suffixes, tree.node? ((scratchPath working path suffix).locate working) = none

instance (tree : Tree) (working : Location) (path : Path) (suffixes : List String) :
    Decidable (tree.HasFreeName working path suffixes) :=
  inferInstanceAs (Decidable (∃ suffix ∈ suffixes, _))

theorem Tree.Ready.grows {before after : Tree} (hready : before.Ready working path)
    (hgrows : before.Grows after) : after.Ready working path where
  parent_hasNull := hready.parent_hasNull
  parent := hgrows.leadsToDirectory hready.parent
  slot := hgrows.slot hready.slot
  scratch suffix hsuffix := by
    obtain ⟨hnull, place, hplace⟩ := hready.scratch suffix hsuffix
    exact ⟨hnull, place, hgrows.slot hplace⟩

theorem eq_none_of_stages {interruption : Option Interruption}
    (hstages : ∀ stage, ∀ struck ∈ interruption, struck.stage ≠ stage) : interruption = none := by
  cases interruption with
  | none => rfl
  | some struck => exact absurd rfl (hstages struck.stage struck rfl)

/-- Whether a name that a write hands to the tree holds the null character. -/
def Path.HandsNull (working : Location) (suffixes : List String) (path : Path) : Prop :=
  path.parent.hasNull = true ∨
    ∃ suffix ∈ suffixes, (scratchPath working path suffix).hasNull = true

/-- How a write goes, to its end. -/
theorem writeAtomically_ends_by (working : Location) (suffixes : List String) (path : Path)
    (content : String) (interruption : Option Interruption) (history : History) :
    Ends (writeAtomically working suffixes path content interruption) history
      (fun _ after =>
        history.Through
          (history.tree.InWrite working path (Text.encodeUtf8 content.toList)) after ∧
        interruption = none ∧
        ∃ middle, Tree.Wrote working path (Text.encodeUtf8 content.toList) history.tree middle
            after.tree ∧
          ((∀ suffix ∈ suffixes, IsSuffix suffix) → middle.Ready working path))
      fun fault after =>
        history.Through
          (history.tree.InWrite working path (Text.encodeUtf8 content.toList)) after ∧
        history.tree.MakesWay working path.parent after.tree ∧
        (fault.isOfTree = true ∨ Struck interruption fault ∨
          fault = .nullInPath ∧ path.HandsNull working suffixes) := by
  unfold writeAtomically
  apply ((makeWay_ends interruption working path history).mono (fun _ _ => id) ?_).bind
  · rintro _ middle ⟨hthrough, hnull, hparent, hdirectories⟩
    have hway := hthrough.last
    have hseen : history.Through
        (history.tree.InWrite working path (Text.encodeUtf8 content.toList)) middle :=
      hthrough.mono fun _ => .way
    apply ((pass_ends interruption .scratch middle).mono (fun _ _ => id) ?_).bind
    · rintro _ middle ⟨rfl, hscratch⟩
      apply ((makeScratch_ends working path suffixes middle).mono (fun _ _ => id) ?_).bind
      · rintro ⟨scratch, location⟩ made ⟨suffix, hsuffix, rfl, hscratchNull, hplace, hfree, rfl⟩
        dsimp only at hscratchNull hplace hfree
        have hmade := hseen.change (.scratch [] hway hplace hfree)
        obtain ⟨-, hlocation⟩ := Tree.slot_location hplace
        apply (orRemove_ends (exchange_ends hway hparent hplace hfree rfl)).mono
        · rintro _ after ⟨hafter, hwrote, hlast⟩
          refine ⟨hmade.trans hafter fun _ => id, ?_, middle.tree, hwrote,
            fun hsuffixes => ⟨hnull, hparent, hwrote.slot, fun other hother =>
              scratch_place (hsuffixes suffix hsuffix) hother hscratchNull hplace⟩⟩
          apply eq_none_of_stages
          intro stage struck hstruck
          cases stage with
          | directories => exact hdirectories struck hstruck
          | scratch => exact hscratch struck hstruck
          | contents => exact (hlast struck hstruck).1
          | replacement => exact (hlast struck hstruck).2
        · rintro fault after ⟨left, ⟨hleft, ⟨written, htree⟩, hfault⟩, rfl⟩
          have herased : left.tree.erase location = middle.tree := by
            rw [htree, Tree.erase_put hlocation hfree]
          rw [herased]
          refine ⟨(hmade.trans hleft fun _ => id).change (.way hway), hway, ?_⟩
          rcases hfault with hfault | hstruck
          · exact .inl hfault
          · exact .inr (.inl hstruck)
      · rintro fault after ⟨rfl, hfault | ⟨rfl, hfault⟩⟩
        · exact ⟨hseen, hway, .inl hfault⟩
        · exact ⟨hseen, hway, .inr (.inr ⟨rfl, .inr hfault⟩)⟩
    · rintro fault after ⟨rfl, hstruck⟩
      exact ⟨hseen, hway, .inr (.inl hstruck)⟩
  · rintro fault after ⟨hthrough, hfault⟩
    refine ⟨hthrough.mono fun _ => .way, hthrough.last, ?_⟩
    rcases hfault with htree | hstruck | ⟨rfl, hnull⟩
    · exact .inl htree
    · exact .inr (.inl hstruck)
    · exact .inr (.inr ⟨rfl, .inl hnull⟩)

/-- How a write ends: the target has the content and nothing else is different
but for directories of the way, or nothing is different but for these. -/
theorem writeAtomically_ends (working : Location) (suffixes : List String) (path : Path)
    (content : String) (interruption : Option Interruption) (history : History) :
    Ends (writeAtomically working suffixes path content interruption) history
      (fun _ after =>
        history.tree.Receives after.tree (path.locate working) (Text.encodeUtf8 content.toList) ∧
        (∀ location, location ≠ path.locate working →
          Tree.MayAddDirectory (path.parent.places working) history.tree after.tree location) ∧
        interruption = none ∧
        ((∀ suffix ∈ suffixes, IsSuffix suffix) → after.tree.Ready working path))
      fun _ after => history.tree.MakesWay working path.parent after.tree := by
  apply (writeAtomically_ends_by working suffixes path content interruption history).mono
  · rintro _ after ⟨-, hinterruption, middle, hwrote, hready⟩
    refine ⟨hwrote.receives, fun _ => hwrote.mayAddDirectory, hinterruption,
      fun hsuffixes => (hready hsuffixes).grows ?_⟩
    obtain ⟨-, hroot⟩ := Tree.slot_location hwrote.slot
    rw [hwrote.tree]
    exact (Tree.receives_put hroot hwrote.node).grows
  · rintro _ after ⟨-, hway, -⟩
    exact hway

/-! ## Writes that end well -/

section Again

variable {tree : Tree}

/-- A scratch file is made as soon as one of the names is free. -/
theorem yields_makeScratch (hready : tree.Ready working path) {suffixes : List String}
    (hsuffixes : ∀ suffix ∈ suffixes, IsSuffix suffix)
    (hfree : tree.HasFreeName working path suffixes) :
    ∃ scratch location, location ≠ [] ∧ tree.node? location = none ∧
      Yields History.tree (makeScratch working path suffixes) tree (scratch, location)
        (tree.put location (.file [])) := by
  induction suffixes with
  | nil =>
    obtain ⟨suffix, hsuffix, -⟩ := hfree
    cases hsuffix
  | cons suffix rest ih =>
    obtain ⟨hnull, place, hslot⟩ := hready.scratch suffix (hsuffixes suffix List.mem_cons_self)
    obtain ⟨hplace, hroot⟩ := Tree.slot_location hslot
    cases hnode : tree.node? place with
    | none =>
      refine ⟨scratchPath working path suffix, place, hroot, hnode, ?_⟩
      apply (yields_guardNull tree hnull).bind
      apply yields_tree
      rw [Tree.makeFile_eq_ok_iff.mpr ⟨hslot, hnode, rfl⟩]
      exact (yields_change tree _).bind (Yields.pure _)
    | some node =>
      -- this name is taken, so the free one is among the others
      have hrest : tree.HasFreeName working path rest := by
        obtain ⟨other, hother, hnone⟩ := hfree
        rcases List.mem_cons.mp hother with rfl | hmem
        · rw [← hplace, hnode] at hnone
          cases hnone
        · exact ⟨other, hmem, hnone⟩
      obtain ⟨scratch, location, hlocation, hunused, hyields⟩ :=
        ih (fun other hother => hsuffixes other (List.mem_cons_of_mem suffix hother)) hrest
      refine ⟨scratch, location, hlocation, hunused, ?_⟩
      apply (yields_guardNull tree hnull).bind
      apply yields_tree
      have htaken : tree.makeFile working (scratchPath working path suffix) =
          .error .alreadyThere := by
        simp [Tree.makeFile, hslot, hnode]
      rw [htaken]
      exact hyields

theorem yields_orRemove {action : FileAction Unit} {before after : Tree}
    (hyields : Yields History.tree action before () after) :
    Yields History.tree (orRemove location action) before () after := by
  intro start hstart
  obtain ⟨finish, hrun, hfinish⟩ := hyields start hstart
  refine ⟨finish, ?_, hfinish⟩
  unfold orRemove
  simp only [tryCatch, tryCatchThe, MonadExceptOf.tryCatch, EStateM.tryCatch, hrun]

/-- Once the directories are there, a file is written if nothing but a file is at
its place and some name for a scratch file is free. -/
theorem yields_writeAtomically_put {before : Tree}
    (hparents : Yields History.tree (makeParents working path) before () tree)
    (hready : tree.Ready working path)
    (hnode : tree.node? (path.locate working) ≠ some .directory)
    {suffixes : List String} (hsuffixes : ∀ suffix ∈ suffixes, IsSuffix suffix)
    (hfree : tree.HasFreeName working path suffixes) (content : String) :
    Yields History.tree (writeAtomically working suffixes path content) before ()
      (tree.put (path.locate working) (.file (Text.encodeUtf8 content.toList))) := by
  obtain ⟨scratch, location, hlocation, hunused, hscratch⟩ :=
    yields_makeScratch hready hsuffixes hfree
  have hgrows : tree.Grows (tree.put location (.file (Text.encodeUtf8 content.toList))) :=
    Tree.grows_put hlocation (.inl hunused)
  have hreplaced : (tree.put location (.file (Text.encodeUtf8 content.toList))).replace working
      location path =
      .ok (tree.put (path.locate working) (.file (Text.encodeUtf8 content.toList))) := by
    apply (Tree.replace_eq_ok_iff (by rw [Tree.node?_put hlocation, if_pos rfl])).mpr
    refine ⟨path.locate working, hgrows.slot hready.slot, ?_, ?_⟩
    · rw [Tree.node?_put hlocation]
      split
      · nofun
      · exact hnode
    · rw [Tree.erase_put hlocation hunused]
  apply hparents.bind
  apply (Yields.pure ()).bind
  apply hscratch.bind
  apply yields_orRemove
  apply Yields.bind
  · apply yields_tree
    rw [Tree.put_put]
    exact yields_change _ _
  apply (Yields.pure ()).bind
  apply yields_tree
  rw [hreplaced]
  exact yields_change _ _

/-- Writing to a file what it holds changes nothing, if some name for a scratch
file is free. -/
theorem yields_writeAtomically (hready : tree.Ready working path) {content : String}
    (hheld : tree.file? (path.locate working) = some (Text.encodeUtf8 content.toList))
    {suffixes : List String} (hsuffixes : ∀ suffix ∈ suffixes, IsSuffix suffix)
    (hfree : tree.HasFreeName working path suffixes) :
    Yields History.tree (writeAtomically working suffixes path content) tree () tree := by
  have hnode := Tree.file?_eq_some_iff.mp hheld
  obtain ⟨-, hroot⟩ := Tree.slot_location hready.slot
  have hyields := yields_writeAtomically_put (yields_makeParents hready.parent_hasNull hready.parent)
    hready (by rw [hnode]; nofun) hsuffixes hfree content
  rwa [Tree.put_eq_self hroot hnode] at hyields

end Again

end ConfigReference.File
