import ConfigReference.Command.Run
import ConfigReference.Proofs.Generation

/-!
# What a command leaves behind

A command that makes documents works on one variant after the other, and opens
its log before the first.  If the sources of a variant cannot be read, at most
the outputs of the variants before it and the log are different.  With one
variant and no log nothing is different; with one variant and a log at most an
empty log is new.
-/

namespace ConfigReference

open File (FileAction Fault History Location Path Tree)

/-! ## Logs -/

/-- A file is there, empty if it is new; no other file has come or changed. -/
structure File.Tree.Touched (before after : Tree) (location : Location) : Prop where
  changes : Tree.ChangesOnly [location] before after
  empty : after.file? location = before.file? location ∨
    before.node? location = none ∧ after.file? location = some []

namespace DiagnosticLog

theorem touch_ends (working : Location) (path : Path) (history : History) :
    Ends (FileAction.touch working path) history
      (fun _ after => path.hasNull = false ∧
        history.tree.Touched after.tree (path.locate working))
      fun _ _ => True := by
  unfold FileAction.touch
  apply ((File.guardNull_ends path history).mono (fun _ _ => id) fun _ _ _ => trivial).bind
  rintro _ history ⟨rfl, hnull⟩
  apply File.ends_tree
  split
  · exact ⟨hnull, Tree.ChangesOnly.refl _ _, .inl rfl⟩
  · apply File.ends_tree
    cases hmake : history.tree.makeFile working path with
    | ok made =>
      obtain ⟨location, next⟩ := made
      obtain ⟨hslot, hfree, rfl⟩ := Tree.makeFile_eq_ok_iff.mp hmake
      obtain ⟨rfl, hroot⟩ := Tree.slot_location hslot
      have hreceives : history.tree.Receives
          (history.tree.put (path.locate working) (.file [])) (path.locate working) [] :=
        Tree.receives_put hroot (by simp [hfree])
      exact ⟨hnull, hreceives.changesOnly, .inr ⟨hfree, hreceives.held⟩⟩
    | error obstacle => exact ⟨trivial⟩

theorem start_ends (working : Location) (path : Path) (history : History) :
    Ends (start working path) history
      (fun log after => log = { path := path } ∧ path.hasNull = false ∧
        history.tree.Touched after.tree (path.locate working))
      fun _ _ => True := by
  unfold start
  apply ((File.makeParents_ends working path history).mono (fun _ _ => id)
    fun _ _ _ => trivial).bind
  rintro _ middle ⟨hthrough, -, -⟩
  have honly := hthrough.last.onlyDirectories
  apply (touch_ends working path middle).bind
  rintro _ after ⟨hnull, htouched⟩
  refine ⟨rfl, hnull, ⟨honly.grows.trans htouched.changes.grows, ?_⟩, ?_⟩
  · intro location hlocation
    rw [htouched.changes.kept location hlocation, honly.file?]
  · rcases htouched.empty with hsame | ⟨hfree, hempty⟩
    · left
      rw [hsame, honly.file?]
    · right
      refine ⟨?_, hempty⟩
      -- what was there before the directories were made would be there still
      by_contra hsome
      have hstill := honly.grows.isSome (Option.isSome_iff_ne_none.mpr hsome)
      rw [hfree] at hstill
      cases hstill

theorem append_ends (working : Location) (path : Path) (text : String) (history : History) :
    Ends (FileAction.append working path text) history
      (fun _ after => Tree.ChangesOnly [path.locate working] history.tree after.tree)
      fun _ _ => True := by
  unfold FileAction.append
  apply ((File.guardNull_ends path history).mono (fun _ _ => id) fun _ _ _ => trivial).bind
  rintro _ history ⟨rfl, -⟩
  apply File.ends_tree
  split
  · next next hnext =>
    obtain ⟨octets, hreceives⟩ := Tree.append_eq_ok hnext
    exact ⟨hreceives.changesOnly⟩
  · exact ⟨trivial⟩

theorem write_ends (working : Location) (time variant : String) (log : DiagnosticLog)
    (diagnostic : Diagnostic) (history : History) :
    Ends (write working time variant log diagnostic) history
      (fun next after => next.path = log.path ∧
        Tree.ChangesOnly [log.path.locate working] history.tree after.tree)
      fun _ _ => True := by
  unfold write
  apply (append_ends working log.path _ history).bind
  intro _ after hafter
  exact ⟨rfl, hafter⟩

theorem writeAll_ends (working : Location) (times : Nat → String) (variant : String)
    (log : DiagnosticLog) (diagnostics : List Diagnostic) (history : History) :
    Ends (writeAll working times variant log diagnostics) history
      (fun next after => next.path = log.path ∧
        Tree.ChangesOnly [log.path.locate working] history.tree after.tree)
      fun _ _ => True := by
  unfold writeAll
  apply Ends.foldlM
  · rintro ⟨diagnostic, index⟩ - current middle ⟨hpath, hchanges⟩
    apply (write_ends working (times index) variant current diagnostic middle).mono
    · rintro next after ⟨hnext, hmore⟩
      rw [hpath] at hnext hmore
      exact ⟨hnext, hchanges.trans hmore⟩
    · exact fun _ _ => id
  · exact ⟨rfl, Tree.ChangesOnly.refl _ _⟩

end DiagnosticLog

/-! ## Steps that change no files -/

theorem print_ends (output : Output) (session : Session)
    {onFailure : Failure → Session → Prop}
    (hfailure : ∀ fault, onFailure (.markup fault) session) :
    Ends (Action.print output) session (fun _ after => after.files = session.files)
      onFailure := by
  unfold Action.print
  split
  · exact ⟨rfl⟩
  · exact ⟨hfailure _⟩

theorem settings_ends (surroundings : Surroundings) (session : Session) :
    Ends (Settings.load surroundings true) session
      (fun _ after => after.files = session.files)
      fun failure _ => failure.isOfSources = false := by
  have hread : Ends (EnvironmentFile.read? surroundings.working surroundings.environment)
      session.files (fun _ after => after = session.files) fun _ _ => True := by
    unfold EnvironmentFile.read?
    split
    · exact ⟨rfl⟩
    · apply File.ends_tree
      split
      · next location _ =>
        apply ((File.readText_ends surroundings.working (Path.ofLocation location)
          session.files).mono (fun _ _ => id) fun _ _ _ => trivial).bind
        rintro text after ⟨hafter, -⟩
        exact ⟨hafter⟩
      · exact ⟨rfl⟩
  have hextend : Ends (Settings.extendedEnvironment surroundings) session
      (fun _ after => after.files = session.files)
      fun failure _ => failure.isOfSources = false := by
    unfold Settings.extendedEnvironment
    apply ((onFiles_ends hread).mono (fun _ _ => id) ?_).bind
    · intro text middle hmiddle
      split
      · exact ⟨hmiddle⟩
      · split
        · exact ⟨hmiddle⟩
        · exact ⟨rfl⟩
    · rintro _ after ⟨fault, rfl, -⟩
      exact rfl
  unfold Settings.load
  apply hextend.bind
  intro environment middle hmiddle
  dsimp only
  split
  · exact ⟨hmiddle⟩
  · exact ⟨rfl⟩

theorem configureLog_ends (settings : Settings) (verbose : Bool) (session : Session)
    {onFailure : Failure → Session → Prop} :
    Ends (settings.configureLog verbose) session (fun _ after => after.files = session.files)
      onFailure :=
  ⟨rfl⟩

theorem prepare_ends (root : Path) (variant : Variant) (output : Option Path) (session : Session)
    {onFailure : Failure → Session → Prop} :
    Ends (Generation.prepare root variant output) session
      (fun generation after => after.files = session.files ∧
        generation = ⟨root, variant, Generation.documentPath root variant output⟩)
      onFailure :=
  ⟨rfl, rfl⟩

namespace Variant

/-- Why a file gives no variant: its text cannot be read, or does not describe one. -/
inductive Refused (surroundings : Surroundings) (tree : Tree) (path : Path) : Failure → Prop
  | unread {fault : Fault} (hfault : tree.TextFault surroundings.working path fault) :
      Refused surroundings tree path (failureOf path fault)
  | invalid {text : String} {problems : List Json.Problem} (hnull : path.hasNull = false)
      (htext : tree.text? surroundings.working path = some text)
      (hread : Json.readText ofJson text = .error problems) :
      Refused surroundings tree path
        (.variantInvalid path problems (surroundings.account text problems))

theorem Refused.isOfSources {surroundings : Surroundings} {tree : Tree} {path : Path}
    {failure : Failure} (hrefused : Refused surroundings tree path failure) :
    failure.isOfSources = false := by
  cases hrefused with
  | @unread fault hfault =>
    unfold failureOf
    split <;> rfl
  | invalid hnull htext hread => rfl

theorem load_ends (surroundings : Surroundings) (path : Path) (session : Session) :
    Ends (load surroundings path) session
      (fun variant after => after.files = session.files ∧ path.hasNull = false ∧
        ∃ text, session.tree.text? surroundings.working path = some text ∧
          Json.readText ofJson text = .ok variant)
      fun failure after => after.files = session.files ∧
        Refused surroundings session.tree path failure := by
  unfold load
  apply ((onFiles_ends (File.readText_ends_by surroundings.working path session.files)).mono
    (fun _ _ => id) ?_).bind
  · rintro text middle ⟨hmiddle, hnull, htext⟩
    cases hread : Json.readText ofJson text with
    | error problems => exact ⟨hmiddle, .invalid hnull htext hread⟩
    | ok variant => exact ⟨hmiddle, hnull, text, htext, hread⟩
  · rintro _ after ⟨fault, rfl, hafter, hfault⟩
    exact ⟨hafter, .unread hfault⟩

end Variant

/-- The variant that a choice names: the one that its file describes, or else the
one that is built in with the name of the choice or of the settings. -/
inductive Command.Choice.Selects (choice : Command.Choice) (surroundings : Surroundings)
    (settings : Settings) (tree : Tree) : Variant → Prop
  | described {file text : String} {variant : Variant} (hfile : choice.variantFile = some file)
      (htext : tree.text? surroundings.working (Path.ofString file) = some text)
      (hread : Json.readText Variant.ofJson text = .ok variant) :
      Selects choice surroundings settings tree variant
  | builtIn {variant : Variant} (hfile : choice.variantFile = none)
      (hnamed : Variant.named? (choice.variant.getD settings.variant) = some variant) :
      Selects choice surroundings settings tree variant

/-- The variants to work on are all that are built in, or just the one that the
choice names. -/
theorem chooseVariants_ends (surroundings : Surroundings) (settings : Settings)
    (choice : Command.Choice) (all : Bool) (session : Session) :
    Ends (Command.chooseVariants surroundings settings choice all) session
      (fun variants after => after.files = session.files ∧
        (variants = Variant.builtIn ∧ all = true ∧ choice.variantFile = none ∨
          ∃ variant, variants = [variant] ∧
            choice.Selects surroundings settings session.tree variant))
      fun failure _ => failure.isOfSources = false := by
  unfold Command.chooseVariants
  split
  · next file hfile =>
    apply ((Variant.load_ends surroundings (Path.ofString file) session).mono
      (fun _ _ => id) fun _ _ hrefused => hrefused.2.isOfSources).bind
    rintro variant after ⟨hafter, -, text, htext, hread⟩
    exact ⟨hafter, .inr ⟨variant, rfl, .described hfile htext hread⟩⟩
  · next hfile =>
    split
    · next hall => exact ⟨rfl, .inl ⟨rfl, hall, hfile⟩⟩
    · dsimp only
      split
      · next variant hnamed => exact ⟨rfl, .inr ⟨variant, rfl, .builtIn hfile hnamed⟩⟩
      · exact ⟨rfl⟩

namespace Command

/-! ## One variant -/

/-- The places of the document and of the schema of a variant. -/
def outputPlaces (working : Location) (options : GenerateOptions) (root : Path) (several : Bool)
    (variant : Variant) : List Location :=
  (Generation.documentPath root variant (options.output.map Path.ofString)).locate working ::
    match schemaPath options.schemaJson variant.name several with
    | .ok path => (path.map (Path.locate working)).toList
    | .error _ => []

/-- The place of the log, if there is one. -/
def logPlaces (working : Location) (log : Option Path) : List Location :=
  (log.map (Path.locate working)).toList

theorem keepDiagnostics_ends (surroundings : Surroundings) (log : Option DiagnosticLog)
    (variant : Variant) (diagnostics : List Diagnostic) (session : Session) :
    Ends (keepDiagnostics surroundings log variant diagnostics) session
      (fun next after => next.map DiagnosticLog.path = log.map DiagnosticLog.path ∧
        Tree.ChangesOnly (logPlaces surroundings.working (log.map DiagnosticLog.path))
          session.tree after.tree)
      fun failure _ => failure.isOfSources = false := by
  unfold keepDiagnostics
  split
  · exact ⟨rfl, Tree.ChangesOnly.refl _ _⟩
  · apply (print_ends _ session fun _ => rfl).bind
    intro _ printed hprinted
    have htree : printed.tree = session.tree := Session.tree_eq_of_files hprinted
    cases log with
    | none => exact ⟨rfl, htree ▸ Tree.ChangesOnly.refl _ _⟩
    | some log =>
      dsimp only
      rw [map_eq_pure_bind]
      apply ((onFiles_ends (log.writeAll_ends surroundings.working _ variant.name diagnostics
        printed.files)).mono (fun _ _ => id) ?_).bind
      · rintro next after ⟨hpath, hchanges⟩
        rw [← htree]
        exact ⟨congrArg some hpath, hchanges⟩
      · rintro _ after ⟨fault, rfl, -⟩
        exact rfl

theorem printPlaces_ends (summary : Summary) (session : Session) :
    Ends (printPlaces summary) session (fun _ after => after.files = session.files)
      fun failure _ => failure.isOfSources = false := by
  unfold printPlaces
  apply (print_ends _ session fun _ => rfl).bind
  intro _ printed hprinted
  split
  · apply (print_ends _ printed fun _ => rfl).mono ?_ (fun _ _ => id)
    intro _ after hafter
    exact hafter.trans hprinted
  · exact ⟨hprinted⟩

/-- The generation for a variant. -/
def generationOf (options : GenerateOptions) (root : Path) (variant : Variant) : Generation :=
  ⟨root, variant, Generation.documentPath root variant (options.output.map Path.ofString)⟩

/-- What the work on one variant has done that ended well: the generation is
finished, and then at most the log has changed. -/
structure VariantDone (surroundings : Surroundings) (options : GenerateOptions) (root : Path)
    (several : Bool) (log : Option DiagnosticLog) (variant : Variant) (before : Tree)
    (next : Option DiagnosticLog) (after : Tree) : Prop where
  path : next.map DiagnosticLog.path = log.map DiagnosticLog.path
  finished : ∃ path summary sources middle finished,
    schemaPath options.schemaJson variant.name several = .ok path ∧
    Generation.Finished surroundings (generationOf options root variant) path before finished
      summary sources middle ∧
    Tree.ChangesOnly (logPlaces surroundings.working (log.map DiagnosticLog.path)) finished after

theorem generateOne_finishes (surroundings : Surroundings) (options : GenerateOptions)
    (root : Path) (several : Bool) (log : Option DiagnosticLog) (variant : Variant)
    (session : Session) :
    Ends (generateOne surroundings options root several log variant) session
      (fun next after => VariantDone surroundings options root several log variant session.tree next
        after.tree)
      fun failure after => failure.isOfSources = true → after.files = session.files := by
  have hother : ∀ (failure : Failure) (after : Session), failure.isOfSources = false →
      failure.isOfSources = true → after.files = session.files := by
    intro failure after hfalse htrue
    rw [hfalse] at htrue
    cases htrue
  unfold generateOne
  apply (print_ends _ session fun _ => nofun).bind
  intro _ announced hannounced
  apply (prepare_ends root variant (options.output.map Path.ofString) announced).bind
  rintro _ prepared ⟨hprepared, rfl⟩
  have hstart : prepared.files = session.files := hprepared.trans hannounced
  cases hpath : schemaPath options.schemaJson variant.name several with
  | error failure => exact ⟨fun _ => hstart⟩
  | ok path =>
    apply Ends.bind (((generationOf options root variant).run_ends_of_sources surroundings path
      prepared).mono (fun _ _ => id) fun _ _ hfiles hsource => (hfiles hsource).trans hstart)
    rintro summary finished ⟨sources, middle, hfinished⟩
    rw [Session.tree_eq_of_files hstart] at hfinished
    apply (print_ends _ finished fun _ => nofun).bind
    intro _ printed hprinted
    apply ((keepDiagnostics_ends surroundings log variant summary.diagnostics printed).mono
      (fun _ _ => id) hother).bind
    rintro next kept ⟨hnext, hlog⟩
    apply ((printPlaces_ends summary kept).mono (fun _ _ => id) hother).bind
    intro _ last hlast
    rw [Session.tree_eq_of_files hprinted] at hlog
    have htree : last.tree = kept.tree := Session.tree_eq_of_files hlast
    exact ⟨hnext, path, summary, sources, middle, finished.tree, hpath, hfinished, htree ▸ hlog⟩

theorem VariantDone.changesOnly {surroundings : Surroundings} {options : GenerateOptions}
    {root : Path} {several : Bool} {log next : Option DiagnosticLog} {variant : Variant}
    {before after : Tree}
    (hdone : VariantDone surroundings options root several log variant before next after) :
    Tree.ChangesOnly
      (outputPlaces surroundings.working options root several variant ++
        logPlaces surroundings.working (log.map DiagnosticLog.path)) before after := by
  obtain ⟨path, summary, sources, middle, finished, hpath, hfinished, hlog⟩ := hdone.finished
  have hchanges : Tree.ChangesOnly (outputPlaces surroundings.working options root several variant)
      before finished := by
    rw [outputPlaces, hpath]
    exact hfinished.changesOnly
  apply (hchanges.mono ?_).trans (hlog.mono ?_)
  · exact fun location hlocation => List.mem_append_left _ hlocation
  · exact fun location hlocation => List.mem_append_right _ hlocation

theorem generateOne_ends (surroundings : Surroundings) (options : GenerateOptions) (root : Path)
    (several : Bool) (log : Option DiagnosticLog) (variant : Variant) (session : Session) :
    Ends (generateOne surroundings options root several log variant) session
      (fun next after => next.map DiagnosticLog.path = log.map DiagnosticLog.path ∧
        Tree.ChangesOnly
          (outputPlaces surroundings.working options root several variant ++
            logPlaces surroundings.working (log.map DiagnosticLog.path))
          session.tree after.tree)
      fun failure after => failure.isOfSources = true → after.files = session.files := by
  apply (generateOne_finishes surroundings options root several log variant session).mono
  · intro next after hdone
    exact ⟨hdone.path, hdone.changesOnly⟩
  · exact fun _ _ => id

/-! ## All variants -/

/-- If the sources of a variant cannot be read, the variants before it are done. -/
theorem generateAll_eq_error {surroundings : Surroundings} {options : GenerateOptions} {root : Path}
    {several : Bool} {log : Option DiagnosticLog} {variants : List Variant}
    {before after : Session} {failure : Failure}
    (hrun : variants.foldlM (generateOne surroundings options root several) log before =
      .error failure after)
    (hsource : failure.isOfSources = true) :
    ∃ earlier failed later, variants = earlier ++ failed :: later ∧
      Tree.ChangesOnly
        (earlier.flatMap (outputPlaces surroundings.working options root several) ++
          logPlaces surroundings.working (log.map DiagnosticLog.path))
        before.tree after.tree ∧
      (earlier = [] → after.files = before.files) := by
  obtain ⟨earlier, failed, later, reached, middle, hvariants, hearlier, hfailed⟩ :=
    foldlM_eq_error hrun
  have hfiles : after.files = middle.files :=
    (generateOne_ends surroundings options root several reached failed middle).of_error hfailed
      hsource
  refine ⟨earlier, failed, later, hvariants, ?_, ?_⟩
  · -- each variant changes its own outputs and the log, whose path stays the same
    have hends : Ends (earlier.foldlM (generateOne surroundings options root several) log) before
        (fun next finish => next.map DiagnosticLog.path = log.map DiagnosticLog.path ∧
          Tree.ChangesOnly
            (earlier.flatMap (outputPlaces surroundings.working options root several) ++
              logPlaces surroundings.working (log.map DiagnosticLog.path))
            before.tree finish.tree)
        fun _ _ => True := by
      apply Ends.foldlM
      · rintro variant hvariant current start ⟨hpath, hchanges⟩
        apply (generateOne_ends surroundings options root several current variant start).mono
        · rintro next finish ⟨hnext, hmore⟩
          rw [hpath] at hnext hmore
          refine ⟨hnext, hchanges.trans (hmore.mono ?_)⟩
          intro location hlocation
          rcases List.mem_append.mp hlocation with houtput | hlog
          · exact List.mem_append_left _ (List.mem_flatMap.mpr ⟨variant, hvariant, houtput⟩)
          · exact List.mem_append_right _ hlog
        · exact fun _ _ _ => trivial
      · exact ⟨rfl, Tree.ChangesOnly.refl _ _⟩
    rw [Session.tree_eq_of_files hfiles]
    exact (hends.of_ok hearlier).2
  · rintro rfl
    cases hearlier
    exact hfiles

/-- A log is there, if one is asked for; it is empty if it is new. -/
structure LogOpened (surroundings : Surroundings) (given : Option String) (before : Session)
    (log : Option DiagnosticLog) (after : Session) : Prop where
  path : log.map DiagnosticLog.path = given.map Path.ofString
  changes : Tree.ChangesOnly (logPlaces surroundings.working (given.map Path.ofString))
    before.tree after.tree
  empty : ∀ location, after.tree.file? location = before.tree.file? location ∨
    before.tree.node? location = none ∧ after.tree.file? location = some []
  nothing : given = none → after.files = before.files

theorem openLog_ends (surroundings : Surroundings) (given : Option String) (before start : Session)
    (hstart : start.files = before.files) :
    Ends
      (given.mapM fun path =>
        Action.onFiles (DiagnosticLog.start surroundings.working (Path.ofString path)))
      start (LogOpened surroundings given before) fun failure _ => failure.isOfSources = false := by
  cases given with
  | none =>
    have htree : start.tree = before.tree := Session.tree_eq_of_files hstart
    refine ⟨rfl, ?_, fun location => .inl ?_, fun _ => hstart⟩
    · rw [htree]
      exact Tree.ChangesOnly.refl _ _
    · rw [htree]
  | some path =>
    change Ends (some <$> _) start _ _
    rw [map_eq_pure_bind]
    apply ((onFiles_ends (DiagnosticLog.start_ends surroundings.working (Path.ofString path)
      start.files)).mono (fun _ _ => id) ?_).bind
    · rintro log after ⟨rfl, -, htouched⟩
      rw [hstart] at htouched
      refine ⟨rfl, htouched.changes, fun location => ?_, nofun⟩
      by_cases hlocation : location = (Path.ofString path).locate surroundings.working
      · rw [hlocation]
        exact htouched.empty
      · left
        exact htouched.changes.kept location fun hmem => hlocation (List.mem_singleton.mp hmem)
    · rintro _ after ⟨fault, rfl, -⟩
      exact rfl

/-- What a command leaves that could not read the sources of a variant, when it
was done with the earlier ones. -/
structure LeftBehind (surroundings : Surroundings) (options : GenerateOptions) (root : Path)
    (earlier : List Variant) (before after : Session) : Prop where
  /-- Only the outputs of the earlier variants and the log are new or different. -/
  changes : Tree.ChangesOnly
    (earlier.flatMap (outputPlaces surroundings.working options root true) ++
      logPlaces surroundings.working (options.diagnosticsLog.map Path.ofString))
    before.tree after.tree
  /-- There are earlier variants only if all variants are asked for. -/
  built_in : earlier ≠ [] → options.all = true ∧ options.choice.variantFile = none ∧
    options.output = none ∧ ∃ failed later, Variant.builtIn = earlier ++ failed :: later
  /-- Before the first variant is done the log may be new, but is empty then. -/
  log : earlier = [] → ∀ location, after.tree.file? location = before.tree.file? location ∨
    before.tree.node? location = none ∧ after.tree.file? location = some []
  /-- Before the first variant is done nothing happens without a log. -/
  nothing : earlier = [] → options.diagnosticsLog = none → after.files = before.files

/-- The log is opened, then the earlier variants are worked on. -/
theorem leftBehind_of_opened {surroundings : Surroundings} {options : GenerateOptions}
    {root : Path} {variants earlier later : List Variant} {failed : Variant}
    {log : Option DiagnosticLog} {before opened after : Session}
    (hvariants : variants = Variant.builtIn ∧ options.all = true ∧
      options.choice.variantFile = none ∨ ∃ variant, variants = [variant])
    (houtput : ¬(options.output.isSome && decide (variants.length > 1)) = true)
    (hopened : LogOpened surroundings options.diagnosticsLog before log opened)
    (hsplit : variants = earlier ++ failed :: later)
    (hchanges : Tree.ChangesOnly
      (earlier.flatMap
          (outputPlaces surroundings.working options root (decide (variants.length > 1))) ++
        logPlaces surroundings.working (log.map DiagnosticLog.path))
      opened.tree after.tree)
    (hfirst : earlier = [] → after.files = opened.files) :
    LeftBehind surroundings options root earlier before after := by
  rw [hopened.path] at hchanges
  have hlog : Tree.ChangesOnly
      (earlier.flatMap
          (outputPlaces surroundings.working options root (decide (variants.length > 1))) ++
        logPlaces surroundings.working (options.diagnosticsLog.map Path.ofString))
      before.tree after.tree :=
    (hopened.changes.mono fun _ hlocation => List.mem_append_right _ hlocation).trans hchanges
  have hempty : earlier = [] → ∀ location,
      after.tree.file? location = before.tree.file? location ∨
        before.tree.node? location = none ∧ after.tree.file? location = some [] := by
    intro hnil location
    rw [Session.tree_eq_of_files (hfirst hnil)]
    exact hopened.empty location
  have hnothing : earlier = [] → options.diagnosticsLog = none → after.files = before.files :=
    fun hnil hnone => (hfirst hnil).trans (hopened.nothing hnone)
  rcases hvariants with ⟨rfl, hall, hfile⟩ | ⟨variant, rfl⟩
  · have hnoOutput : options.output = none := by
      cases hgiven : options.output with
      | none => rfl
      | some path =>
        rw [hgiven] at houtput
        exact absurd rfl houtput
    exact ⟨hlog, fun _ => ⟨hall, hfile, hnoOutput, failed, later, hsplit⟩, hempty, hnothing⟩
  · -- a single variant is the first one
    have hnil : earlier = [] := by
      cases earlier with
      | nil => rfl
      | cons first rest => simp at hsplit
    subst hnil
    exact ⟨hlog, fun hne => absurd rfl hne, hempty, hnothing⟩

theorem runGenerate_ends (surroundings : Surroundings) (options : GenerateOptions)
    (session : Session) :
    Ends (runGenerate surroundings options) session (fun _ _ => True)
      fun failure after => failure.isOfSources = true →
        ∃ settings loaded earlier, Settings.load surroundings true session = .ok settings loaded ∧
          LeftBehind surroundings options (sourceRoot settings options.choice) earlier session
            after := by
  have hother : ∀ (failure : Failure) (after : Session), failure.isOfSources = false →
      failure.isOfSources = true →
      ∃ settings loaded earlier, Settings.load surroundings true session = .ok settings loaded ∧
        LeftBehind surroundings options (sourceRoot settings options.choice) earlier session
          after := by
    intro failure after hfalse htrue
    rw [hfalse] at htrue
    cases htrue
  unfold runGenerate
  apply ((settings_ends surroundings session).and_run.mono (fun _ _ => id) hother).bind
  rintro settings loaded ⟨hload, hloaded⟩
  apply (configureLog_ends settings options.choice.verbose loaded).bind
  intro _ configured hconfigured
  apply ((chooseVariants_ends surroundings settings options.choice options.all configured).mono
    (fun _ _ => id) hother).bind
  rintro variants chosen ⟨hchosen, hvariants⟩
  have hsingle : variants = Variant.builtIn ∧ options.all = true ∧
      options.choice.variantFile = none ∨ ∃ variant, variants = [variant] :=
    hvariants.imp_right fun ⟨variant, hvariant, _⟩ => ⟨variant, hvariant⟩
  have hstart : chosen.files = session.files := hchosen.trans (hconfigured.trans hloaded)
  dsimp only
  split
  · apply (print_ends _ chosen fun _ => nofun).bind
    exact fun _ _ _ => ⟨trivial⟩
  · next houtput =>
    apply ((openLog_ends surroundings options.diagnosticsLog session chosen hstart).mono
      (fun _ _ => id) hother).bind
    intro log opened hopened
    have hfold : Ends
        (variants.foldlM (generateOne surroundings options (sourceRoot settings options.choice)
          (decide (variants.length > 1))) log)
        opened (fun _ _ => True)
        fun failure after => failure.isOfSources = true →
          ∃ settings loaded earlier,
            Settings.load surroundings true session = .ok settings loaded ∧
              LeftBehind surroundings options (sourceRoot settings options.choice) earlier session
                after := by
      apply Ends.of_runs (fun _ _ _ => trivial)
      intro failure after hrun hsource
      obtain ⟨earlier, failed, later, hsplit, hchanges, hfirst⟩ :=
        generateAll_eq_error hrun hsource
      exact ⟨settings, loaded, earlier, hload,
        leftBehind_of_opened hsingle houtput hopened hsplit hchanges hfirst⟩
    exact hfold.bind fun _ _ _ => ⟨trivial⟩

theorem reportFailure_eq_of_foreseen {action : Action Nat} {before after : Session}
    {failure : Failure} (hrun : action before = .error failure after)
    (hforeseen : failure.isForeseen = true) :
    reportFailure action before =
      (do
        Action.print (failureLine failure)
        pure 1 : Action Nat) after := by
  unfold reportFailure
  simp only [tryCatch, tryCatchThe, MonadExceptOf.tryCatch, EStateM.tryCatch, hrun, hforeseen,
    if_true]
  rfl

/-- A failure that is foreseen is printed and gives the code 1; the files stay as
the failure left them. -/
theorem reportFailure_of_foreseen {action : Action Nat} {before after : Session}
    {failure : Failure} (hrun : action before = .error failure after)
    (hforeseen : failure.isForeseen = true) :
    ∃ final, final.files = after.files ∧
      (reportFailure action before = .ok 1 final ∨
        ∃ fault, reportFailure action before = .error (.markup fault) final) := by
  have hprint : Ends
      (do
        Action.print (failureLine failure)
        pure 1 : Action Nat)
      after (fun code final => code = 1 ∧ final.files = after.files)
      fun problem final => (∃ fault, problem = .markup fault) ∧ final.files = after.files := by
    apply (print_ends _ after fun fault => ⟨⟨fault, rfl⟩, rfl⟩).bind
    intro _ final hfinal
    exact ⟨rfl, hfinal⟩
  rw [reportFailure_eq_of_foreseen hrun hforeseen]
  cases hend : (do
      Action.print (failureLine failure)
      pure 1 : Action Nat) after with
  | ok code final =>
    obtain ⟨rfl, hfinal⟩ := hprint.of_ok hend
    exact ⟨final, hfinal, .inl rfl⟩
  | error problem final =>
    obtain ⟨⟨fault, rfl⟩, hfinal⟩ := hprint.of_error hend
    exact ⟨final, hfinal, .inr ⟨fault, rfl⟩⟩

theorem isForeseen_of_isOfSources {failure : Failure} (hsource : failure.isOfSources = true) :
    failure.isForeseen = true := by
  cases failure <;> first | rfl | cases hsource

/-- A command that cannot read its sources ends with the code 1, or with the
fault of the line that should say so.  Nothing is different but, possibly, the
documents and schemas of the variants before the one that failed, and the log. -/
theorem unread_sources_leave_earlier_outputs (surroundings : Surroundings)
    (options : GenerateOptions) (before after : Session) (failure : Failure)
    (hrun : runGenerate surroundings options before = .error failure after)
    (hsource : failure.isOfSources = true) :
    (∃ settings loaded earlier, Settings.load surroundings true before = .ok settings loaded ∧
      LeftBehind surroundings options (sourceRoot settings options.choice) earlier before after) ∧
    ∃ final, final.files = after.files ∧
      (runInvocation surroundings (.generate options) before = .ok 1 final ∨
        ∃ fault, runInvocation surroundings (.generate options) before =
          .error (.markup fault) final) := by
  constructor
  · exact (runGenerate_ends surroundings options before).of_error hrun hsource
  · exact reportFailure_of_foreseen hrun (isForeseen_of_isOfSources hsource)

/-- There are no sources at all, and still the log is new. -/
theorem unread_sources_leave_earlier_outputs_log :
    ∃ after final, runGenerate {} { diagnosticsLog := some "d.jsonl" } {} =
        .error (.sourceUnreadable (Path.ofString "/src/net.cpp")
          (.refused .missing "/src/net.cpp" none)) after ∧
      ({} : Session).tree.node? ["d.jsonl"] = none ∧
      after.tree.file? ["d.jsonl"] = some [] ∧
      final.files = after.files ∧
      (runInvocation {} (.generate { diagnosticsLog := some "d.jsonl" }) {} = .ok 1 final ∨
        ∃ fault, runInvocation {} (.generate { diagnosticsLog := some "d.jsonl" }) {} =
          .error (.markup fault) final) := by
  have hends :
      failure? (runGenerate {} { diagnosticsLog := some "d.jsonl" } {}) =
        some (.sourceUnreadable (Path.ofString "/src/net.cpp")
          (.refused .missing "/src/net.cpp" none)) ∧
      (stateOf (runGenerate {} { diagnosticsLog := some "d.jsonl" } {})).tree.file? ["d.jsonl"] =
        some [] := by
    decide +kernel
  have hrun := failure?_eq_some hends.1
  obtain ⟨-, final, hfinal, hcode⟩ := unread_sources_leave_earlier_outputs _ _ _ _ _ hrun rfl
  exact ⟨_, final, hrun, rfl, hends.2, hfinal, hcode⟩

end Command

end ConfigReference
