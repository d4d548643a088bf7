import ConfigReference.Generation
import ConfigReference.Proofs.AtomicWrite
import ConfigReference.Proofs.FileOrder

/-!
# What a generation reads

Reading does not change files, whether it ends well or not.  If all sources of a
generation can be read, the schema is that of their texts; and while a tree only
grows and the octets of the sources stay, the same texts are read again.
-/

namespace ConfigReference

open File (FileAction Fault History Location Path Tree)

/-! ## Texts of a tree -/

namespace File

/-- The text at a path, with line ends as they are read. -/
def Tree.text? (tree : Tree) (working : Location) (path : Path) : Option String :=
  match tree.octets working path with
  | .ok octets =>
    match Text.decodeUtf8 octets with
    | .ok text => some (String.ofList (Text.unifyLineEnds text))
    | .error _ => none
  | .error _ => none

theorem Tree.Grows.text? {before after : Tree} {working : Location} {path : Path} {text : String}
    (hgrows : before.Grows after)
    (hfile : after.file? (path.locate working) = before.file? (path.locate working))
    (htext : before.text? working path = some text) : after.text? working path = some text := by
  unfold Tree.text? at htext ⊢
  split at htext
  · next octets hoctets =>
    rw [hgrows.octets hoctets (hfile.trans (Tree.file?_of_octets hoctets))]
    exact htext
  · cases htext

theorem Tree.WayTo.text? {before after : Tree} {working : Location} {path : Path} {text : String}
    (hway : before.WayTo working path)
    (hfile : after.file? (path.locate working) = before.file? (path.locate working))
    (htext : after.text? working path = some text) : before.text? working path = some text := by
  unfold Tree.text? at htext ⊢
  split at htext
  · next octets hoctets =>
    rw [hway.octets (hfile.symm.trans (Tree.file?_of_octets hoctets)) hoctets]
    exact htext
  · cases htext

theorem Tree.wayTo_of_text? {tree : Tree} {working : Location} {path : Path} {text : String}
    (hparts : path.parts ≠ []) (htext : tree.text? working path = some text) :
    tree.WayTo working path := by
  unfold Tree.text? at htext
  split at htext
  · next octets hoctets => exact Tree.wayTo_of_octets hparts hoctets
  · cases htext

/-- Why there is no text at a path: the path cannot be asked for, the tree refuses it, or
the octets there are not decoded. -/
inductive Tree.TextFault (tree : Tree) (working : Location) (path : Path) : Fault → Prop
  | null (hnull : path.hasNull = true) : TextFault tree working path .nullInPath
  | refused {obstacle : Obstacle} (hnull : path.hasNull = false)
      (hread : tree.octets working path = .error obstacle) :
      TextFault tree working path (.refused obstacle path.render none)
  | notText {octets : List UInt8} {fault : Text.Utf8Fault} (hnull : path.hasNull = false)
      (hread : tree.octets working path = .ok octets)
      (hdecode : Text.decodeUtf8 octets = .error fault) :
      TextFault tree working path (.notText fault)

theorem readText_ends_by (working : Location) (path : Path) (history : History) :
    Ends (FileAction.readText working path) history
      (fun text after => after = history ∧ path.hasNull = false ∧
        history.tree.text? working path = some text)
      fun fault after => after = history ∧ history.tree.TextFault working path fault := by
  unfold FileAction.readText
  have hoctets : Ends (FileAction.readOctets working path) history
      (fun octets after => after = history ∧ path.hasNull = false ∧
        history.tree.octets working path = .ok octets)
      fun fault after => after = history ∧ history.tree.TextFault working path fault := by
    unfold FileAction.readOctets
    apply ((guardNull_ends_by path history).mono (fun _ _ => id) ?_).bind
    · rintro _ history ⟨rfl, hnull⟩
      apply ends_tree
      cases hread : history.tree.octets working path with
      | ok octets => exact ⟨rfl, hnull, rfl⟩
      | error obstacle => exact ⟨rfl, .refused hnull hread⟩
    · rintro _ _ ⟨rfl, rfl, hnull⟩
      exact ⟨rfl, .null hnull⟩
  apply hoctets.bind
  rintro octets history ⟨rfl, hnull, hread⟩
  cases hdecode : Text.decodeUtf8 octets with
  | ok text =>
    have htext : history.tree.text? working path =
        some (String.ofList (Text.unifyLineEnds text)) := by
      simp only [Tree.text?, hread, hdecode]
    exact ⟨rfl, hnull, htext⟩
  | error fault => exact ⟨rfl, .notText hnull hread hdecode⟩

theorem readText_ends (working : Location) (path : Path) (history : History) :
    Ends (FileAction.readText working path) history
      (fun text after => after = history ∧ path.hasNull = false ∧
        history.tree.text? working path = some text)
      fun _ after => after = history :=
  (readText_ends_by working path history).mono (fun _ _ => id) fun _ _ => And.left

theorem yields_readText {tree : Tree} {working : Location} {path : Path} {text : String}
    (hnull : path.hasNull = false) (htext : tree.text? working path = some text) :
    Yields History.tree (FileAction.readText working path) tree text tree := by
  unfold Tree.text? at htext
  split at htext
  · next octets hoctets =>
    split at htext
    · next decoded hdecode =>
      cases htext
      have hread : Yields History.tree (FileAction.readOctets working path) tree octets tree := by
        apply (yields_guardNull tree hnull).bind
        apply yields_tree
        rw [hoctets]
        exact Yields.pure octets
      apply hread.bind
      rw [hdecode]
      exact Yields.pure _
    · cases htext
  · cases htext

end File

/-! ## Steps of a session -/

/-- The tree that a session has come to. -/
def Session.tree (session : Session) : Tree :=
  session.files.tree

/-- Sessions with the same files have come to the same tree. -/
theorem Session.tree_eq_of_files {before after : Session} (hfiles : after.files = before.files) :
    after.tree = before.tree :=
  congrArg History.tree hfiles

theorem onFiles_ends {α : Type} {action : FileAction α} {failureOf : Fault → Failure}
    {session : Session} {onValue : α → History → Prop} {onFault : Fault → History → Prop}
    (hends : Ends action session.files onValue onFault) :
    Ends (Action.onFiles action failureOf) session (fun value after => onValue value after.files)
      fun failure after => ∃ fault, failure = failureOf fault ∧ onFault fault after.files := by
  constructor
  unfold Action.onFiles
  cases hrun : action session.files with
  | ok value files => exact hends.of_ok hrun
  | error fault files => exact ⟨fault, rfl, hends.of_error hrun⟩

theorem report_ends (events : List Event) (session : Session)
    {onFailure : Failure → Session → Prop} :
    Ends (Action.report events) session (fun _ after => after.files = session.files) onFailure :=
  ⟨rfl⟩

/-- A report leaves what is known of the tree. -/
theorem report_ends_of_tree {session : Session} {events : List Event} {holds : Tree → Prop}
    {onFailure : Failure → Session → Prop} (hholds : holds session.tree) :
    Ends (Action.report events) session (fun _ after => holds after.tree) onFailure :=
  ⟨hholds⟩

theorem yields_onFiles {α : Type} {action : FileAction α} {failureOf : Fault → Failure}
    {before after : Tree} {value : α} (hyields : Yields History.tree action before value after) :
    Yields Session.tree (Action.onFiles action failureOf) before value after := by
  intro session hsession
  obtain ⟨files, hrun, hfiles⟩ := hyields session.files hsession
  refine ⟨{ session with files := files }, ?_, hfiles⟩
  rw [Action.onFiles, hrun]

theorem yields_report (events : List Event) (tree : Tree) :
    Yields Session.tree (Action.report events) tree () tree :=
  fun _ hsession => ⟨_, rfl, hsession⟩

/-! ## Reading -/

namespace Source

/-- The names and texts of the files below a root, if all of them can be read. -/
def sources? (working : Location) (root : Path) (tree : Tree) (files : List String) :
    Option (List (String × String)) :=
  files.mapM fun file =>
    (tree.text? working (root.join (Path.ofString file))).map fun text => (file, text)

theorem openRoot_ends (working : Location) (root : Path) (session : Session) :
    Ends (openRoot working root) session
      (fun resolved after => after.files = session.files ∧
        resolved = Path.ofLocation (root.locate working) ∧ root.hasNull = false ∧
        session.tree.leadsToDirectory working resolved = true)
      fun _ after => after.files = session.files := by
  unfold openRoot
  have hsomewhere : Ends
      (FileAction.leadsSomewhere working (Path.ofLocation (root.locate working))) session.files
      (fun _ after => after = session.files) fun _ after => after = session.files := by
    unfold FileAction.leadsSomewhere
    apply File.ends_tree
    split <;> exact ⟨rfl⟩
  have hlook : Ends
      (do
        FileAction.guardNull root
        let present ← FileAction.leadsSomewhere working (Path.ofLocation (root.locate working))
        let tree ← FileAction.tree
        return (present, tree.leadsToDirectory working (Path.ofLocation (root.locate working))))
      session.files
      (fun found after => after = session.files ∧ root.hasNull = false ∧
        found.2 = session.tree.leadsToDirectory working (Path.ofLocation (root.locate working)))
      fun _ after => after = session.files := by
    apply (File.guardNull_ends root session.files).bind
    rintro _ _ ⟨rfl, hnull⟩
    apply hsomewhere.bind
    rintro present _ rfl
    exact ⟨rfl, hnull, rfl⟩
  apply ((onFiles_ends hlook).mono (fun _ _ => id) ?_).bind
  swap
  · rintro _ after ⟨_, -, hfiles⟩
    exact hfiles
  rintro ⟨present, directory⟩ middle ⟨hfiles, hnull, hdirectory⟩
  cases present with
  | false => exact ⟨hfiles⟩
  | true =>
    cases directory with
    | false => exact ⟨hfiles⟩
    | true => exact ⟨hfiles, rfl, hnull, hdirectory.symm⟩

theorem yields_openRoot {working : Location} {root : Path} {tree : Tree}
    (hnull : root.hasNull = false)
    (hleads : tree.leadsToDirectory working (Path.ofLocation (root.locate working)) = true) :
    Yields Session.tree (openRoot working root) tree (Path.ofLocation (root.locate working))
      tree := by
  have hsomewhere : Yields History.tree
      (FileAction.leadsSomewhere working (Path.ofLocation (root.locate working))) tree true
      tree := by
    obtain ⟨location, hfind⟩ := Tree.leadsToDirectory_iff.mp hleads
    apply File.yields_tree
    rw [hfind]
    exact Yields.pure true
  have hlook : Yields History.tree
      (do
        FileAction.guardNull root
        let present ← FileAction.leadsSomewhere working (Path.ofLocation (root.locate working))
        let tree ← FileAction.tree
        return (present, tree.leadsToDirectory working (Path.ofLocation (root.locate working))))
      tree (true, true) tree := by
    apply (File.yields_guardNull tree hnull).bind
    apply hsomewhere.bind
    apply File.yields_tree
    rw [hleads]
    exact Yields.pure _
  exact (yields_onFiles hlook).bind (Yields.pure _)

theorem read_ends (working : Location) (root : Path) (file : String) (session : Session) :
    Ends (read working root file) session
      (fun text after => after.files = session.files ∧
        (root.join (Path.ofString file)).hasNull = false ∧
        session.tree.text? working (root.join (Path.ofString file)) = some text)
      fun _ after => after.files = session.files := by
  unfold read
  apply Ends.bind
  · apply (onFiles_ends (File.readText_ends working _ session.files)).mono (fun _ _ => id)
    rintro _ after ⟨_, -, hfiles⟩
    exact hfiles
  · rintro text middle ⟨hfiles, hnull, htext⟩
    exact ⟨hfiles, hnull, htext⟩

theorem yields_read {working : Location} {root : Path} {file : String} {tree : Tree}
    {text : String} (hnull : (root.join (Path.ofString file)).hasNull = false)
    (htext : tree.text? working (root.join (Path.ofString file)) = some text) :
    Yields Session.tree (read working root file) tree text tree :=
  (yields_onFiles (File.yields_readText hnull htext)).bind
    ((yields_report _ tree).bind (Yields.pure text))

theorem sources?_nil (working : Location) (root : Path) (tree : Tree) :
    sources? working root tree [] = some [] :=
  rfl

theorem sources?_cons {working : Location} {root : Path} {tree : Tree} {file : String}
    {files : List String} {sources : List (String × String)} :
    sources? working root tree (file :: files) = some sources ↔
      ∃ text rest, tree.text? working (root.join (Path.ofString file)) = some text ∧
        sources? working root tree files = some rest ∧ sources = (file, text) :: rest := by
  unfold sources?
  rw [List.mapM_cons]
  cases tree.text? working (root.join (Path.ofString file)) with
  | none => simp
  | some text =>
    cases files.mapM fun file =>
        (tree.text? working (root.join (Path.ofString file))).map fun text => (file, text) with
    | none => simp
    | some rest => simp [eq_comm]

/-- Sources of which each can be read in another tree are read there alike. -/
theorem sources?_mono {working : Location} {root : Path} {before after : Tree}
    {files : List String} {sources : List (String × String)}
    (htexts : ∀ file ∈ files, ∀ text,
      before.text? working (root.join (Path.ofString file)) = some text →
        after.text? working (root.join (Path.ofString file)) = some text)
    (hsources : sources? working root before files = some sources) :
    sources? working root after files = some sources := by
  induction files generalizing sources with
  | nil =>
    rw [sources?_nil] at hsources ⊢
    exact hsources
  | cons file rest ih =>
    obtain ⟨text, texts, htext, hrest, rfl⟩ := sources?_cons.mp hsources
    have hothers := ih (fun other hother => htexts other (List.mem_cons_of_mem file hother)) hrest
    have hsame := htexts file List.mem_cons_self text htext
    exact sources?_cons.mpr ⟨text, texts, hsame, hothers, rfl⟩

/-- Sources whose octets are the same have the same texts. -/
theorem sources?_grows {working : Location} {root : Path} {before after : Tree}
    {files : List String} {sources : List (String × String)} (hgrows : before.Grows after)
    (hfiles : ∀ file ∈ files,
      after.file? ((root.join (Path.ofString file)).locate working) =
        before.file? ((root.join (Path.ofString file)).locate working))
    (hsources : sources? working root before files = some sources) :
    sources? working root after files = some sources :=
  sources?_mono (fun file hfile _ htext => hgrows.text? (hfiles file hfile) htext) hsources

/-- Sources that can be read later could be read before, if there were the ways
to them. -/
theorem sources?_of_ways {working : Location} {root : Path} {before after : Tree}
    {files : List String} {sources : List (String × String)}
    (hways : ∀ file ∈ files, before.WayTo working (root.join (Path.ofString file)))
    (hfiles : ∀ file ∈ files,
      after.file? ((root.join (Path.ofString file)).locate working) =
        before.file? ((root.join (Path.ofString file)).locate working))
    (hsources : sources? working root after files = some sources) :
    sources? working root before files = some sources :=
  sources?_mono (fun file hfile _ htext => (hways file hfile).text? (hfiles file hfile) htext)
    hsources

end Source

namespace Generation

theorem collect_ends (working : Location) (variant : Variant) (root : Path) (schema : Schema)
    (files : List String) (session : Session) :
    Ends (collect working variant root schema files) session
      (fun result after => after.files = session.files ∧
        (∀ file ∈ files, (root.join (Path.ofString file)).hasNull = false) ∧
        ∃ sources, Source.sources? working root session.tree files = some sources ∧
          result = (scanSources variant sources).foldl Schema.add schema)
      fun _ after => after.files = session.files := by
  induction files generalizing schema session with
  | nil => exact ⟨rfl, nofun, [], rfl, rfl⟩
  | cons file rest ih =>
    unfold collect
    apply (Source.read_ends working root file session).bind
    rintro text middle ⟨hfiles, hnull, htext⟩
    apply (report_ends (scanText variant file text).events middle).bind
    intro _ reported hreported
    have hsame : reported.files = session.files := hreported.trans hfiles
    apply (ih (schema.add (scanText variant file text)) reported).mono
    · rintro result after ⟨hafter, hnulls, sources, hsources, rfl⟩
      refine ⟨hafter.trans hsame, ?_, (file, text) :: sources, ?_, rfl⟩
      · intro other hother
        rcases List.mem_cons.mp hother with rfl | hmem
        · exact hnull
        · exact hnulls other hmem
      · rw [Session.tree, hsame] at hsources
        exact Source.sources?_cons.mpr ⟨text, sources, htext, hsources, rfl⟩
    · intro _ after hafter
      exact hafter.trans hsame

theorem yields_collect {working : Location} {variant : Variant} {root : Path} {tree : Tree}
    {files : List String} {sources : List (String × String)}
    (hnulls : ∀ file ∈ files, (root.join (Path.ofString file)).hasNull = false)
    (hsources : Source.sources? working root tree files = some sources) (schema : Schema) :
    Yields Session.tree (collect working variant root schema files) tree
      ((scanSources variant sources).foldl Schema.add schema) tree := by
  induction files generalizing sources schema with
  | nil =>
    cases hsources
    exact Yields.pure schema
  | cons file rest ih =>
    obtain ⟨text, texts, htext, htexts, rfl⟩ := Source.sources?_cons.mp hsources
    apply (Source.yields_read (hnulls file List.mem_cons_self) htext).bind
    apply (yields_report _ tree).bind
    exact ih (fun other hother => hnulls other (List.mem_cons_of_mem file hother)) htexts _

/-- The directory of the sources, as a path from the root of the tree. -/
def resolvedRoot (working : Location) (generation : Generation) : Path :=
  Path.ofLocation (generation.root.locate working)

/-- Where a source file is. -/
def sourceLocation (working : Location) (generation : Generation) (file : String) : Location :=
  ((generation.resolvedRoot working).join (Path.ofString file)).locate working

/-- The names and texts of the sources in a tree, if all of them can be read. -/
def sourcesIn? (working : Location) (generation : Generation) (tree : Tree) :
    Option (List (String × String)) :=
  Source.sources? working (generation.resolvedRoot working) tree generation.variant.sourceFiles

/-- The schema of sources with the given names and texts. -/
def schemaOf (generation : Generation) (sources : List (String × String)) : Schema :=
  Schema.ofScans (scanSources generation.variant sources)

/-- A tree in which a generation can read its sources. -/
structure Reads (working : Location) (generation : Generation) (tree : Tree)
    (sources : List (String × String)) : Prop where
  root_hasNull : generation.root.hasNull = false
  root : tree.leadsToDirectory working (generation.resolvedRoot working) = true
  hasNull : ∀ file ∈ generation.variant.sourceFiles,
    ((generation.resolvedRoot working).join (Path.ofString file)).hasNull = false
  texts : generation.sourcesIn? working tree = some sources

theorem extract_ends (surroundings : Surroundings) (generation : Generation) (session : Session) :
    Ends (generation.extract surroundings) session
      (fun schema after => after.files = session.files ∧
        ∃ sources, generation.Reads surroundings.working session.tree sources ∧
          schema = generation.schemaOf sources)
      fun _ after => after.files = session.files := by
  unfold extract
  apply (Source.openRoot_ends surroundings.working generation.root session).bind
  rintro _ opened ⟨hopened, rfl, hnull, hroot⟩
  apply (report_ends _ opened).bind
  intro _ reported hreported
  have hsame : reported.files = session.files := hreported.trans hopened
  apply Ends.bind ((collect_ends _ _ _ _ _ reported).mono (fun _ _ => id) ?_)
  · rintro schema collected ⟨hcollected, hnulls, sources, hsources, rfl⟩
    rw [Session.tree, hsame] at hsources
    apply (report_ends _ collected).bind
    intro _ after hafter
    exact ⟨hafter.trans (hcollected.trans hsame), sources, ⟨hnull, hroot, hnulls, hsources⟩, rfl⟩
  · intro _ after hafter
    exact hafter.trans hsame

theorem yields_extract {surroundings : Surroundings} {generation : Generation} {tree : Tree}
    {sources : List (String × String)}
    (hreads : generation.Reads surroundings.working tree sources) :
    Yields Session.tree (generation.extract surroundings) tree (generation.schemaOf sources)
      tree := by
  apply (Source.yields_openRoot hreads.root_hasNull hreads.root).bind
  apply (yields_report _ tree).bind
  apply (yields_collect hreads.hasNull hreads.texts {}).bind
  exact (yields_report _ tree).bind (Yields.pure _)

theorem Reads.grows {working : Location} {generation : Generation} {before after : Tree}
    {sources : List (String × String)} (hreads : generation.Reads working before sources)
    (hgrows : before.Grows after)
    (hfiles : ∀ file ∈ generation.variant.sourceFiles,
      after.file? (generation.sourceLocation working file) =
        before.file? (generation.sourceLocation working file)) :
    generation.Reads working after sources where
  root_hasNull := hreads.root_hasNull
  root := hgrows.leadsToDirectory hreads.root
  hasNull := hreads.hasNull
  texts := Source.sources?_grows hgrows hfiles hreads.texts

end Generation

end ConfigReference
