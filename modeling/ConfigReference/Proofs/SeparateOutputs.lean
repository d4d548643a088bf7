import ConfigReference.Proofs.CommandEffects
import Mathlib.Data.List.Infix
import Mathlib.Data.List.Nodup

/-!
# The outputs of all variants

A command that works on all variants reads the sources of the second one when the
outputs of the first one are written already.  This does no harm: every output
and every source has a last name of its own, since the name of a schema holds the
name of its variant behind a dot.  So each variant finds its sources as they were
at the start, and what it writes stays.
-/

namespace ConfigReference

open File (History Location Path Tree)

/-! ## Last names -/

namespace File.Path

variable {working : Location} {path : Path} {name : String}

theorem getLast?_locate (hname : path.parts.getLast? = some name) (hup : name ≠ "..") :
    (path.locate working).getLast? = some name := by
  rw [locate, Tree.parts_eq_of_getLast? hname, List.foldl_append, List.foldl_cons, List.foldl_nil,
    advance, if_neg hup, List.getLast?_concat]

theorem join_of_working {further : Path} (hanchor : further.anchor = .working) :
    path.join further = ⟨path.anchor, path.parts ++ further.parts⟩ := by
  rw [join, if_pos hanchor]

theorem getLast?_locate_join {further : Path} (hanchor : further.anchor = .working)
    (hname : further.parts.getLast? = some name) (hup : name ≠ "..") :
    ((path.join further).locate working).getLast? = some name := by
  have hlast : (path.join further).parts.getLast? = some name := by
    rw [join_of_working hanchor, List.getLast?_append, hname, Option.some_or]
  exact getLast?_locate hlast hup

theorem getLast?_locate_withName (hup : name ≠ "..") :
    ((path.withName name).locate working).getLast? = some name :=
  getLast?_locate (List.getLast?_concat ..) hup

end File.Path

namespace Command

section Row

variable {surroundings : Surroundings} {options : GenerateOptions} {root : Path} {several : Bool}
  {initial before after : Tree} {variant : Variant} {done rest variants : List Variant}

/-! ## One variant after the other -/

/-- The document and the schema of a variant are what its sources in the initial
tree give. -/
def Published (surroundings : Surroundings) (options : GenerateOptions) (root : Path)
    (several : Bool) (initial tree : Tree) (variant : Variant) : Prop :=
  ∃ path sources, schemaPath options.schemaJson variant.name several = .ok path ∧
    (generationOf options root variant).sourcesIn? surroundings.working initial = some sources ∧
    tree.file? ((generationOf options root variant).document.locate surroundings.working) =
      some (Text.encodeUtf8 (Document.content variant
        ((generationOf options root variant).schemaOf sources)).toList) ∧
    ∀ given ∈ path, tree.file? (given.locate surroundings.working) =
      some (Text.encodeUtf8
        ((generationOf options root variant).schemaOf sources).toJson.toIndented.toList)

/-- No output is in the place of another one or of a source. -/
structure Separate (working : Location) (options : GenerateOptions) (root : Path) (several : Bool)
    (variants : List Variant) : Prop where
  each : ∀ variant ∈ variants, (outputPlaces working options root several variant).Nodup
  apart : variants.Pairwise fun left right =>
    (outputPlaces working options root several left).Disjoint
      (outputPlaces working options root several right)
  sources : ∀ reader ∈ variants, ∀ file ∈ reader.sourceFiles, ∀ writer ∈ variants,
    (generationOf options root reader).sourceLocation working file ∉
      outputPlaces working options root several writer

/-- The variants that are done are published, and no other file is different. -/
structure Settled (surroundings : Surroundings) (options : GenerateOptions) (root : Path)
    (several : Bool) (initial : Tree) (done : List Variant) (tree : Tree) : Prop where
  published : ∀ variant ∈ done, Published surroundings options root several initial tree variant
  changes : Tree.ChangesOnly
    (done.flatMap (outputPlaces surroundings.working options root several)) initial tree

theorem document_mem_outputPlaces (working : Location) (options : GenerateOptions) (root : Path)
    (several : Bool) (variant : Variant) :
    (generationOf options root variant).document.locate working ∈
      outputPlaces working options root several variant :=
  List.mem_cons_self

theorem schema_mem_outputPlaces {working : Location} {path : Option Path} {given : Path}
    (hpath : schemaPath options.schemaJson variant.name several = .ok path)
    (hgiven : given ∈ path) :
    given.locate working ∈ outputPlaces working options root several variant := by
  rw [outputPlaces, hpath]
  exact List.mem_cons_of_mem _ (Option.mem_toList.mpr (Option.mem_map_of_mem _ hgiven))

/-- What is published stays so while its places are left alone. -/
theorem Published.kept
    (hpublished : Published surroundings options root several initial before variant)
    (hkept : ∀ location ∈ outputPlaces surroundings.working options root several variant,
      after.file? location = before.file? location) :
    Published surroundings options root several initial after variant := by
  obtain ⟨path, sources, hpath, hsources, hdocument, hschema⟩ := hpublished
  refine ⟨path, sources, hpath, hsources, ?_, fun given hgiven => ?_⟩
  · rw [hkept _ (document_mem_outputPlaces ..), hdocument]
  · rw [hkept _ (schema_mem_outputPlaces hpath hgiven), hschema given hgiven]

/-- A variant that is done is published, if its sources could be read at the start. -/
theorem published_of_done {next : Option DiagnosticLog}
    (hplaces : (outputPlaces surroundings.working options root several variant).Nodup)
    (hsources : ∀ sources,
      (generationOf options root variant).sourcesIn? surroundings.working before = some sources →
      (generationOf options root variant).sourcesIn? surroundings.working initial = some sources)
    (hdone : VariantDone surroundings options root several none variant before next after) :
    Published surroundings options root several initial after variant := by
  obtain ⟨path, summary, sources, middle, finished, hpath, hfinished, hlog⟩ := hdone.finished
  have hafter : ∀ location, after.file? location = finished.file? location :=
    fun location => hlog.kept location List.not_mem_nil
  refine ⟨path, sources, hpath, hsources sources hfinished.reads.texts, ?_, ?_⟩
  · rw [hafter]
    exact hfinished.document.receives.held
  · intro given hgiven
    -- the document is written after the schema, to another place
    have hapart : given.locate surroundings.working ≠
        (generationOf options root variant).document.locate surroundings.working := by
      rw [outputPlaces, hpath, List.nodup_cons] at hplaces
      have hplace : given.locate surroundings.working ∈
          (path.map (Path.locate surroundings.working)).toList :=
        Option.mem_toList.mpr (Option.mem_map_of_mem _ hgiven)
      intro heq
      rw [heq] at hplace
      exact hplaces.1 hplace
    rw [hafter, hfinished.document.receives.others _ hapart]
    exact (hfinished.schema.written hgiven).receives.held

theorem Settled.step {next : Option DiagnosticLog}
    (hseparate : Separate surroundings.working options root several (done ++ variant :: rest))
    (hways : ∀ file ∈ variant.sourceFiles, initial.WayTo surroundings.working
      (((generationOf options root variant).resolvedRoot surroundings.working).join
        (Path.ofString file)))
    (hsettled : Settled surroundings options root several initial done before)
    (hdone : VariantDone surroundings options root several none variant before next after) :
    Settled surroundings options root several initial (done ++ [variant]) after := by
  have hvariant : variant ∈ done ++ variant :: rest := by simp
  have hearlier : ∀ earlier ∈ done, earlier ∈ done ++ variant :: rest :=
    fun earlier hmem => List.mem_append_left _ hmem
  have hchanges : Tree.ChangesOnly
      (outputPlaces surroundings.working options root several variant) before after := by
    simpa [logPlaces] using hdone.changesOnly
  constructor
  · intro published hpublished
    rcases List.mem_append.mp hpublished with hmem | hmem
    · apply (hsettled.published published hmem).kept
      intro location hlocation
      have hdisjoint := (List.pairwise_append.mp hseparate.apart).2.2 published hmem variant
        List.mem_cons_self
      exact hchanges.kept location fun hwritten => hdisjoint hlocation hwritten
    · rw [List.mem_singleton.mp hmem]
      refine published_of_done (hseparate.each variant hvariant) (fun sources hsources => ?_) hdone
      apply Source.sources?_of_ways hways (fun file hfile => ?_) hsources
      apply hsettled.changes.kept
      intro hplace
      obtain ⟨writer, hwriter, hwritten⟩ := List.mem_flatMap.mp hplace
      exact hseparate.sources variant hvariant file hfile writer (hearlier writer hwriter) hwritten
  · apply (hsettled.changes.mono fun location hlocation => ?_).trans
      (hchanges.mono fun location hlocation => ?_)
    · rw [List.flatMap_append]
      exact List.mem_append_left _ hlocation
    · rw [List.flatMap_append, List.flatMap_singleton]
      exact List.mem_append_right _ hlocation

/-- Variants that are worked on one after the other are all published in the end. -/
theorem Settled.run {start finish : Session} {log : Option DiagnosticLog}
    (hseparate : Separate surroundings.working options root several (done ++ variants))
    (hways : ∀ variant ∈ variants, ∀ file ∈ variant.sourceFiles,
      initial.WayTo surroundings.working
        (((generationOf options root variant).resolvedRoot surroundings.working).join
          (Path.ofString file)))
    (hsettled : Settled surroundings options root several initial done start.tree)
    (hrun : variants.foldlM (generateOne surroundings options root several) none start =
      .ok log finish) :
    Settled surroundings options root several initial (done ++ variants) finish.tree := by
  induction variants generalizing done start with
  | nil =>
    cases hrun
    rwa [List.append_nil]
  | cons variant rest ih =>
    rw [List.foldlM_cons] at hrun
    obtain ⟨next, middle, hfirst, hrest⟩ := bind_eq_ok_iff.mp hrun
    have hdone := (generateOne_finishes surroundings options root several none variant start).of_ok
      hfirst
    have hnone : next = none := Option.map_eq_none_iff.mp hdone.path
    subst hnone
    have hnext := hsettled.step hseparate (hways variant List.mem_cons_self) hdone
    rw [← List.singleton_append, ← List.append_assoc] at hseparate ⊢
    exact ih hseparate (fun other hother => hways other (List.mem_cons_of_mem _ hother)) hnext hrest

end Row

/-! ## The variants that are built in -/

/-- The name of the schema of a variant, where each variant has one of its own. -/
def dumpName (given : String) (variant : Variant) : String :=
  (Path.ofString given).stem ++ "." ++ variant.name ++ (Path.ofString given).suffix

def dumpPath (given : String) (variant : Variant) : Path :=
  (Path.ofString given).withName (dumpName given variant)

theorem schemaPath_eq_ok {given : String} {variant : Variant} {path : Option Path}
    (hpath : schemaPath (some given) variant.name true = .ok path) :
    path = some (dumpPath given variant) := by
  simp only [schemaPath, Bool.not_true, Bool.false_eq_true, if_false] at hpath
  split at hpath
  · cases hpath
  · split at hpath
    · cases hpath
    · cases hpath
      rfl

/-- The name of the variant stands in the name of its schema, behind a dot. -/
theorem infix_dumpName (given : String) (variant : Variant) :
    ("." ++ variant.name).toList <:+: (dumpName given variant).toList := by
  refine ⟨(Path.ofString given).stem.toList, (Path.ofString given).suffix.toList, ?_⟩
  simp [dumpName]

/-- Where the document of a variant goes, below the source root. -/
def documentPlace (working : Location) (root : Path) (variant : Variant) : Location :=
  (root.join (Path.ofString variant.documentPath)).locate working

/-- Where the schema of a variant goes. -/
def dumpPlace (working : Location) (given : String) (variant : Variant) : Location :=
  (dumpPath given variant).locate working

/-- Where a source file is, below the source root. -/
def sourcePlace (working : Location) (root : Path) (file : String) : Location :=
  ((Path.ofLocation (root.locate working)).join (Path.ofString file)).locate working

/-- The places of the four files that a command for all variants writes. -/
def allPlaces (working : Location) (root : Path) (given : String) : List Location :=
  Variant.builtIn.flatMap fun variant =>
    [documentPlace working root variant, dumpPlace working given variant]

/-- The files that the variants name, relative to the source root. -/
def namedFiles : List String :=
  Variant.builtIn.flatMap fun variant => variant.documentPath :: variant.sourceFiles

def lastName (file : String) : String :=
  (Path.ofString file).name

theorem namedFiles_relative :
    ∀ file ∈ namedFiles, (Path.ofString file).anchor = .working ∧
      (Path.ofString file).parts.getLast? = some (lastName file) ∧ lastName file ≠ ".." := by
  decide +kernel

theorem dumpName_ne {given name : String} {variant : Variant}
    (hwithin : ¬ ("." ++ variant.name).toList <:+: name.toList) : dumpName given variant ≠ name := by
  rintro rfl
  exact hwithin (infix_dumpName given variant)

theorem dumpName_ne_up {given : String} {variant : Variant} (hvariant : variant ∈ Variant.builtIn) :
    dumpName given variant ≠ ".." := by
  have hnames : ∀ variant ∈ Variant.builtIn, ¬ ("." ++ variant.name).toList <:+: "..".toList := by
    decide
  exact dumpName_ne (hnames variant hvariant)

theorem dumpName_ne_lastName {given file : String} {variant : Variant}
    (hvariant : variant ∈ Variant.builtIn) (hfile : file ∈ namedFiles) :
    dumpName given variant ≠ lastName file := by
  have hnames : ∀ file ∈ namedFiles, ∀ variant ∈ Variant.builtIn,
      ¬ ("." ++ variant.name).toList <:+: (lastName file).toList := by
    decide +kernel
  exact dumpName_ne (hnames file hfile variant hvariant)

theorem dumpName_config_ne_map (given : String) :
    dumpName given Variant.config ≠ dumpName given Variant.map := by
  intro heq
  rw [dumpName, dumpName, String.append_left_inj, String.append_right_inj] at heq
  exact absurd heq (by decide)

theorem documentPath_mem_namedFiles {variant : Variant} (hvariant : variant ∈ Variant.builtIn) :
    variant.documentPath ∈ namedFiles :=
  List.mem_flatMap.mpr ⟨variant, hvariant, List.mem_cons_self⟩

theorem sourceFile_mem_namedFiles {variant : Variant} (hvariant : variant ∈ Variant.builtIn)
    {file : String} (hfile : file ∈ variant.sourceFiles) : file ∈ namedFiles :=
  List.mem_flatMap.mpr ⟨variant, hvariant, List.mem_cons_of_mem _ hfile⟩

section Names

variable {working : Location} {root : Path} {given : String} {variant : Variant}

theorem getLast?_dumpPlace (hvariant : variant ∈ Variant.builtIn) :
    (dumpPlace working given variant).getLast? = some (dumpName given variant) :=
  Path.getLast?_locate_withName (dumpName_ne_up hvariant)

theorem getLast?_locate_namedFile {file : String} (hfile : file ∈ namedFiles) :
    ((root.join (Path.ofString file)).locate working).getLast? = some (lastName file) := by
  obtain ⟨hanchor, hlast, hup⟩ := namedFiles_relative file hfile
  exact Path.getLast?_locate_join hanchor hlast hup

theorem getLast?_documentPlace (hvariant : variant ∈ Variant.builtIn) :
    (documentPlace working root variant).getLast? = some (lastName variant.documentPath) :=
  getLast?_locate_namedFile (documentPath_mem_namedFiles hvariant)

theorem mem_allPlaces_iff {location : Location} :
    location ∈ allPlaces working root given ↔ ∃ variant ∈ Variant.builtIn,
      location = documentPlace working root variant ∨ location = dumpPlace working given variant := by
  simp [allPlaces]

variable (working root given)

/-- The last names of the four outputs are different. -/
theorem nodup_allPlaces : (allPlaces working root given).Nodup := by
  have hconfig : Variant.config ∈ Variant.builtIn := List.mem_cons_self
  have hmap : Variant.map ∈ Variant.builtIn := List.mem_cons_of_mem _ List.mem_cons_self
  have hnames : (allPlaces working root given).map List.getLast? =
      [some (lastName Variant.config.documentPath), some (dumpName given Variant.config),
        some (lastName Variant.map.documentPath), some (dumpName given Variant.map)] := by
    simp [allPlaces, Variant.builtIn, getLast?_documentPlace hconfig, getLast?_documentPlace hmap,
      getLast?_dumpPlace hconfig, getLast?_dumpPlace hmap]
  have hdumps : ∀ writer ∈ Variant.builtIn, ∀ variant ∈ Variant.builtIn,
      dumpName given writer ≠ lastName variant.documentPath :=
    fun writer hwriter variant hvariant =>
      dumpName_ne_lastName hwriter (documentPath_mem_namedFiles hvariant)
  have hdocuments : lastName Variant.config.documentPath ≠ lastName Variant.map.documentPath := by
    decide
  apply List.Nodup.of_map List.getLast?
  rw [hnames]
  simp [hdocuments, (hdumps _ hconfig _ hconfig).symm, (hdumps _ hmap _ hconfig).symm,
    hdumps _ hconfig _ hmap, (hdumps _ hmap _ hmap).symm, dumpName_config_ne_map given]

theorem sourcePlace_not_mem {file : String} (hvariant : variant ∈ Variant.builtIn)
    (hfile : file ∈ variant.sourceFiles) :
    sourcePlace working root file ∉ allPlaces working root given := by
  have hnamed := sourceFile_mem_namedFiles hvariant hfile
  have hlast : (sourcePlace working root file).getLast? = some (lastName file) :=
    getLast?_locate_namedFile hnamed
  intro hmem
  obtain ⟨writer, hwriter, hdocument | hdump⟩ := mem_allPlaces_iff.mp hmem
  · have hnames : ∀ variant ∈ Variant.builtIn, ∀ file ∈ variant.sourceFiles,
        ∀ writer ∈ Variant.builtIn, lastName file ≠ lastName writer.documentPath := by
      decide +kernel
    rw [hdocument, getLast?_documentPlace hwriter] at hlast
    exact hnames variant hvariant file hfile writer hwriter (Option.some.inj hlast).symm
  · rw [hdump, getLast?_dumpPlace hwriter] at hlast
    exact dumpName_ne_lastName hwriter hnamed (Option.some.inj hlast)

end Names

section BuiltIn

variable {working : Location} {options : GenerateOptions} {root : Path} {given : String}

theorem outputPlaces_sublist (working : Location) (root : Path) (houtput : options.output = none)
    (hschema : options.schemaJson = some given) (variant : Variant) :
    (outputPlaces working options root true variant).Sublist
      [documentPlace working root variant, dumpPlace working given variant] := by
  rw [outputPlaces, houtput, hschema]
  cases hpath : schemaPath (some given) variant.name true with
  | error failure => exact (List.nil_sublist _).cons_cons _
  | ok path =>
    rw [schemaPath_eq_ok hpath]
    exact List.Sublist.refl _

theorem separate_builtIn (houtput : options.output = none)
    (hschema : options.schemaJson = some given) :
    Separate working options root true Variant.builtIn := by
  have hsublist := outputPlaces_sublist working root houtput hschema
  obtain ⟨heach, hapart⟩ := List.nodup_flatMap.mp (nodup_allPlaces working root given)
  constructor
  · intro variant hvariant
    exact (heach variant hvariant).sublist (hsublist variant)
  · apply hapart.imp
    intro left right hdisjoint location hleft hright
    exact hdisjoint ((hsublist left).mem hleft) ((hsublist right).mem hright)
  · intro reader hreader file hfile writer hwriter hplace
    apply sourcePlace_not_mem working root given hreader hfile
    exact List.mem_flatMap.mpr ⟨writer, hwriter, (hsublist writer).mem hplace⟩

/-- The sources of all variants are in one directory, so the way to one of them is
a way to all. -/
theorem wayTo_sources {tree : Tree} {first text : String}
    (hfirst : first ∈ Variant.builtIn.flatMap Variant.sourceFiles)
    (htext : tree.text? working
      ((Path.ofLocation (root.locate working)).join (Path.ofString first)) = some text) :
    ∀ file ∈ Variant.builtIn.flatMap Variant.sourceFiles, tree.WayTo working
      ((Path.ofLocation (root.locate working)).join (Path.ofString file)) := by
  have hfiles : ∀ file ∈ Variant.builtIn.flatMap Variant.sourceFiles,
      (Path.ofString file).anchor = .working ∧ (Path.ofString file).parts ≠ [] ∧
        (Path.ofString file).parts.dropLast = ["src"] := by
    decide +kernel
  have hparts : ∀ file ∈ Variant.builtIn.flatMap Variant.sourceFiles,
      ((Path.ofLocation (root.locate working)).join (Path.ofString file)).anchor = .root ∧
        ((Path.ofLocation (root.locate working)).join (Path.ofString file)).parts ≠ [] ∧
        ((Path.ofLocation (root.locate working)).join (Path.ofString file)).parts.dropLast =
          root.locate working ++ ["src"] := by
    intro file hfile
    obtain ⟨hanchor, hne, hdirectory⟩ := hfiles file hfile
    rw [Path.join_of_working hanchor, List.dropLast_append_of_ne_nil hne, hdirectory]
    exact ⟨rfl, List.append_ne_nil_of_right_ne_nil _ hne, rfl⟩
  intro file hfile
  obtain ⟨hfirstAnchor, hfirstNe, hfirstParts⟩ := hparts first hfirst
  obtain ⟨hanchor, -, hdirectory⟩ := hparts file hfile
  exact (Tree.wayTo_of_text? hfirstNe htext).congr (hfirstAnchor.trans hanchor.symm)
    (hfirstParts.trans hdirectory.symm)

end BuiltIn

/-! ## The command for all variants -/

theorem reportFailure_eq_ok_zero {action : Action Nat} {before after : Session}
    (hrun : reportFailure action before = .ok 0 after) : action before = .ok 0 after := by
  cases haction : action before with
  | ok code finish =>
    have hsame : reportFailure action before = .ok code finish := by
      unfold reportFailure
      simp only [tryCatch, tryCatchThe, MonadExceptOf.tryCatch, EStateM.tryCatch, haction]
    rw [← hsame, hrun]
  | error failure finish =>
    exfalso
    by_cases hforeseen : failure.isForeseen = true
    · obtain ⟨final, -, hcode | ⟨fault, hfault⟩⟩ := reportFailure_of_foreseen haction hforeseen
      · rw [hrun] at hcode
        cases hcode
      · rw [hrun] at hfault
        cases hfault
    · have hsame : reportFailure action before = .error failure finish := by
        unfold reportFailure
        simp only [tryCatch, tryCatchThe, MonadExceptOf.tryCatch, EStateM.tryCatch, haction,
          hforeseen]
        rfl
      rw [hrun] at hsame
      cases hsame

/-- A command for all variants that ends well has worked on both of them, without
a log and without a place of its own for the document. -/
theorem runGenerate_all_eq_ok {surroundings : Surroundings} {options : GenerateOptions}
    {before after : Session} (hall : options.all = true)
    (hfile : options.choice.variantFile = none) (hlog : options.diagnosticsLog = none)
    (hrun : runGenerate surroundings options before = .ok 0 after) :
    options.output = none ∧ ∃ settings loaded start log,
      Settings.load surroundings true before = .ok settings loaded ∧ start.tree = before.tree ∧
      Variant.builtIn.foldlM
        (generateOne surroundings options (sourceRoot settings options.choice) true) none start =
          .ok log after := by
  unfold runGenerate at hrun
  obtain ⟨settings, loaded, hload, hrun⟩ := bind_eq_ok_iff.mp hrun
  obtain ⟨_, configured, hconfigured, hrun⟩ := bind_eq_ok_iff.mp hrun
  obtain ⟨variants, chosen, hchosen, hrun⟩ := bind_eq_ok_iff.mp hrun
  have hfiles : chosen.files = before.files := by
    have hafterChoice := ((chooseVariants_ends surroundings settings options.choice options.all
      configured).of_ok hchosen).1
    have hafterLevel : configured.files = loaded.files := by
      cases hconfigured
      rfl
    exact hafterChoice.trans (hafterLevel.trans ((settings_ends surroundings before).of_ok hload))
  have hvariants : variants = Variant.builtIn := by
    simp only [chooseVariants, hfile, hall, if_true] at hchosen
    cases hchosen
    rfl
  subst hvariants
  rw [hlog] at hrun
  cases houtput : options.output with
  | some path =>
    -- a place for the document cannot be given for two documents
    exfalso
    rw [houtput] at hrun
    obtain ⟨_, _, -, hend⟩ := bind_eq_ok_iff.mp hrun
    cases hend
  | none =>
    rw [houtput] at hrun
    obtain ⟨_, opened, hopened, hrun⟩ := bind_eq_ok_iff.mp hrun
    cases hopened
    obtain ⟨log, finish, hfold, hend⟩ := bind_eq_ok_iff.mp hrun
    cases hend
    exact ⟨rfl, settings, loaded, chosen, log, hload, Session.tree_eq_of_files hfiles, hfold⟩

/-- Both variants are published when a command for all of them ends well. -/
theorem settled_of_runGenerate_all {surroundings : Surroundings} {options : GenerateOptions}
    {given : String} {before after : Session} (hall : options.all = true)
    (hfile : options.choice.variantFile = none) (hschema : options.schemaJson = some given)
    (hlog : options.diagnosticsLog = none)
    (hrun : runGenerate surroundings options before = .ok 0 after) :
    options.output = none ∧ ∃ settings loaded,
      Settings.load surroundings true before = .ok settings loaded ∧
      Settled surroundings options (sourceRoot settings options.choice) true before.tree
        Variant.builtIn after.tree := by
  obtain ⟨houtput, settings, loaded, start, log, hload, hstart, hfold⟩ :=
    runGenerate_all_eq_ok hall hfile hlog hrun
  refine ⟨houtput, settings, loaded, hload, ?_⟩
  have hways : ∀ variant ∈ Variant.builtIn, ∀ file ∈ variant.sourceFiles,
      before.tree.WayTo surroundings.working
        (((generationOf options (sourceRoot settings options.choice) variant).resolvedRoot
          surroundings.working).join (Path.ofString file)) := by
    -- the first variant has read its sources before anything was written
    obtain ⟨next, middle, hfirst, -⟩ := bind_eq_ok_iff.mp hfold
    obtain ⟨path, summary, sources, between, finished, -, hfinished, -⟩ :=
      ((generateOne_finishes _ _ _ _ _ _ start).of_ok hfirst).finished
    rw [hstart] at hfinished
    obtain ⟨text, -, htext, -, -⟩ := Source.sources?_cons.mp hfinished.reads.texts
    intro variant hvariant file hsource
    exact wayTo_sources (by simp [Variant.builtIn, Variant.config]) htext file
      (List.mem_flatMap.mpr ⟨variant, hvariant, hsource⟩)
  have hbegin : Settled surroundings options (sourceRoot settings options.choice) true before.tree
      [] start.tree := by
    rw [hstart]
    exact ⟨nofun, Tree.ChangesOnly.refl _ _⟩
  exact hbegin.run (separate_builtIn houtput hschema) hways hfold

/-- If a command for all variants ends well, the two documents and the two schemas
are at four different places, none of which is that of a source.  Each holds what
the sources of its variant gave before the run, and no other file is different. -/
theorem all_outputs_of_initial_sources (surroundings : Surroundings) (arguments : List String)
    (options : GenerateOptions) (given : String) (before after : Session)
    (hread : Invocation.read? arguments = some (.generate options)) (hall : options.all = true)
    (hfile : options.choice.variantFile = none) (hschema : options.schemaJson = some given)
    (hlog : options.diagnosticsLog = none)
    (hrun : run surroundings arguments before = .ok 0 after) :
    ∃ settings loaded root, Settings.load surroundings true before = .ok settings loaded ∧
      root = sourceRoot settings options.choice ∧
      (allPlaces surroundings.working root given).Nodup ∧
      (∀ variant ∈ Variant.builtIn, ∀ file ∈ variant.sourceFiles,
        sourcePlace surroundings.working root file ∉ allPlaces surroundings.working root given) ∧
      (∀ variant ∈ Variant.builtIn, ∃ sources,
        Source.sources? surroundings.working (Path.ofLocation (root.locate surroundings.working))
          before.tree variant.sourceFiles = some sources ∧
        after.tree.file? (documentPlace surroundings.working root variant) =
          some (Text.encodeUtf8 (Document.content variant
            (Schema.ofScans (scanSources variant sources))).toList) ∧
        after.tree.file? (dumpPlace surroundings.working given variant) =
          some (Text.encodeUtf8
            (Schema.ofScans (scanSources variant sources)).toJson.toIndented.toList)) ∧
      Tree.ChangesOnly (allPlaces surroundings.working root given) before.tree after.tree := by
  have hgenerate : runGenerate surroundings options before = .ok 0 after := by
    rw [run, hread] at hrun
    exact reportFailure_eq_ok_zero hrun
  obtain ⟨houtput, settings, loaded, hload, hsettled⟩ :=
    settled_of_runGenerate_all hall hfile hschema hlog hgenerate
  refine ⟨settings, loaded, _, hload, rfl, nodup_allPlaces _ _ _, ?_, ?_, ?_⟩
  · intro variant hvariant file hsource
    exact sourcePlace_not_mem _ _ _ hvariant hsource
  · intro variant hvariant
    obtain ⟨path, sources, hpath, hsources, hdocument, hdump⟩ :=
      hsettled.published variant hvariant
    rw [hschema] at hpath
    rw [generationOf, houtput] at hdocument
    exact ⟨sources, hsources, hdocument, hdump _ (schemaPath_eq_ok hpath)⟩
  · apply hsettled.changes.mono
    intro location hlocation
    obtain ⟨variant, hvariant, hplace⟩ := List.mem_flatMap.mp hlocation
    exact List.mem_flatMap.mpr
      ⟨variant, hvariant, (outputPlaces_sublist _ _ houtput hschema variant).mem hplace⟩

theorem read?_generate_all {given : String} (hgiven : given ≠ "") :
    Invocation.read? ["generate", "--all", "--schema-json", given] =
      some (.generate { all := true, schemaJson := some given }) := by
  have hoptions : Invocation.generateOptions
      { given := [⟨"all", none⟩, ⟨"schema-json", some given⟩] } =
        { all := true, schemaJson := some given } := by
    simp [Invocation.generateOptions, Invocation.choice, Arguments.value?, Arguments.has, hgiven]
  rw [← hoptions]
  rfl

/-- A read in one source of each variant. -/
def sourceText (file : String) : String :=
  if file = "src/net.cpp" then "CFG->GetInt(\"k\", 1);"
  else if file = "src/map.cpp" then "CFG.GetInt(\"m\", 2);"
  else ""

/-- A working directory with the sources of all variants. -/
def allSources : Session where
  files.tree := (Variant.builtIn.flatMap Variant.sourceFiles).foldl
    (fun tree file => tree.put (Path.ofString file).parts
      (.file (Text.encodeUtf8 (sourceText file).toList)))
    (Tree.put {} ["src"] .directory)

/-- The path that is given for the schemas is that of a source, which stays as it is. -/
theorem all_outputs_of_initial_sources_beside :
    ∃ after sources,
      run Generation.eightLetters ["generate", "--all", "--schema-json", "src/../src/map.cpp"]
        allSources = .ok 0 after ∧
      after.tree.file? ["src", "map.cpp"] = allSources.tree.file? ["src", "map.cpp"] ∧
      Source.sources? [] (Path.ofLocation []) allSources.tree Variant.map.sourceFiles =
        some sources ∧
      after.tree.file? ["src", "map.map.cpp"] = some (Text.encodeUtf8
        (Schema.ofScans (scanSources Variant.map sources)).toJson.toIndented.toList) := by
  have hcode : value? (run Generation.eightLetters
      ["generate", "--all", "--schema-json", "src/../src/map.cpp"] allSources) = some 0 := by
    decide +kernel
  have hsettings : value? (Settings.load Generation.eightLetters true allSources) = some {} := by
    decide +kernel
  have hrun := value?_eq_some hcode
  obtain ⟨settings, loaded, root, hload, rfl, -, -, hpublished, hchanges⟩ :=
    all_outputs_of_initial_sources _ _ _ _ _ _ (read?_generate_all (by decide)) rfl rfl rfl rfl
      hrun
  rw [hload] at hsettings
  cases hsettings
  obtain ⟨sources, hsources, -, hdump⟩ := hpublished Variant.map (by simp [Variant.builtIn])
  exact ⟨_, sources, hrun, hchanges.kept _ (by decide +kernel), hsources, hdump⟩

end Command

end ConfigReference
