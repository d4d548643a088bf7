import ConfigReference.Proofs.SourceReading

/-!
# What a generation leaves behind

A generation reads all of its sources before it writes anything.  If one of them
cannot be read the files are as they were.  If a write fails only the schema,
which is written first, and directories may be new.  The place of the document is
as it was, unless the schema is the same file or lies below it or a path goes back
to its own place; and a new schema is complete.  A generation that ends well
leaves the document and the schema of its sources and nothing else, and can be
repeated without any effect.
-/

namespace ConfigReference

open File (Fault History IsSuffix Location Path Tree)

/-- Whether a source, or the directory of the sources, could not be read. -/
def Failure.isOfSources : Failure → Bool
  | rootMissing _ => true
  | rootNotDirectory _ => true
  | sourceUnreadable _ _ => true
  | _ => false

namespace Generation

/-! ## Writing -/

/-- What a write has done that ended well. -/
structure Written (surroundings : Surroundings) (path : Path) (content : String)
    (before after : Tree) : Prop where
  receives : before.Receives after (path.locate surroundings.working)
    (Text.encodeUtf8 content.toList)
  beside : ∀ location, location ≠ path.locate surroundings.working →
    Tree.MayAddDirectory (path.parent.places surroundings.working) before after location
  interruption : surroundings.interruption path = none
  ready : (∀ suffix ∈ surroundings.suffixes, IsSuffix suffix) →
    after.Ready surroundings.working path

/-- What a fault means that comes up when a file is written. -/
def writeFailure (path : Path) (fault : Fault) : Failure :=
  if fault.isOfTree then .outputUnwritable path fault else .file fault

theorem isOfSources_writeFailure (path : Path) (fault : Fault) :
    (writeFailure path fault).isOfSources = false := by
  unfold writeFailure
  split <;> rfl

theorem writeFailure_eq_outputUnwritable {path target : Path} {fault cause : Fault}
    (heq : writeFailure path fault = .outputUnwritable target cause) : path = target := by
  unfold writeFailure at heq
  split at heq
  · cases heq
    rfl
  · cases heq

theorem write_ends (surroundings : Surroundings) (path : Path) (content : String)
    (session : Session) :
    Ends (write surroundings path content) session
      (fun _ after => Written surroundings path content session.tree after.tree)
      fun failure after => (∃ fault, failure = writeFailure path fault) ∧
        session.tree.MakesWay surroundings.working path.parent after.tree := by
  apply (onFiles_ends (File.writeAtomically_ends surroundings.working surroundings.suffixes path
    content (surroundings.interruption path) session.files)).mono
  · rintro _ after ⟨hreceives, hbeside, hinterruption, hready⟩
    exact ⟨hreceives, hbeside, hinterruption, hready⟩
  · rintro _ after ⟨fault, rfl, hway⟩
    exact ⟨⟨fault, rfl⟩, hway⟩

theorem yields_write {surroundings : Surroundings} {path : Path} {content : String} {tree : Tree}
    (hinterruption : surroundings.interruption path = none)
    (hready : tree.Ready surroundings.working path)
    (hheld : tree.file? (path.locate surroundings.working) =
      some (Text.encodeUtf8 content.toList))
    (hsuffixes : ∀ suffix ∈ surroundings.suffixes, IsSuffix suffix)
    (hfree : tree.HasFreeName surroundings.working path surroundings.suffixes) :
    Yields Session.tree (write surroundings path content) tree () tree := by
  unfold write
  rw [hinterruption]
  exact yields_onFiles (File.yields_writeAtomically hready hheld hsuffixes hfree)

/-- Writes the schema if there is a path for it. -/
def saveGiven (surroundings : Surroundings) (schemaPath : Option Path) (schema : Schema) :
    Action Unit :=
  match schemaPath with
  | none => return
  | some path => saveSchema surroundings path schema

/-- What is left to do once the schema is written. -/
def conclude (surroundings : Surroundings) (generation : Generation) (schemaPath : Option Path)
    (schema : Schema) : Action Summary := do
  saveDocument surroundings generation.document (Document.content generation.variant schema)
  let summary := generation.summary schemaPath schema
  if !summary.diagnostics.isEmpty then
    Action.report
      [.diagnosticsReported summary.diagnostics.length generation.variant.name]
  return summary

theorem run_eq (surroundings : Surroundings) (generation : Generation)
    (schemaPath : Option Path) :
    generation.run surroundings schemaPath = (do
      Action.report [.extracting generation.variant.sourceFiles.length]
      let schema ← generation.extract surroundings
      Action.report
        (.rendering generation.document.name :: Document.events generation.variant schema)
      saveGiven surroundings schemaPath schema
      generation.conclude surroundings schemaPath schema) := by
  cases schemaPath <;> rfl

/-- What the write of the schema has done, if there was a path for it. -/
def SchemaWritten (surroundings : Surroundings) (schemaPath : Option Path) (schema : Schema)
    (before after : Tree) : Prop :=
  match schemaPath with
  | none => after = before
  | some path => Written surroundings path schema.toJson.toIndented before after

theorem saveGiven_ends (surroundings : Surroundings) (schemaPath : Option Path) (schema : Schema)
    (session : Session) :
    Ends (saveGiven surroundings schemaPath schema) session
      (fun _ after => SchemaWritten surroundings schemaPath schema session.tree after.tree)
      fun failure after => ∃ path ∈ schemaPath, (∃ fault, failure = writeFailure path fault) ∧
        session.tree.MakesWay surroundings.working path.parent after.tree := by
  cases schemaPath with
  | none => exact ⟨rfl⟩
  | some path =>
    apply Ends.bind
    · apply (write_ends surroundings path schema.toJson.toIndented session).mono
      · intro _ after hwritten
        exact hwritten
      · intro _ after hfailed
        exact ⟨path, rfl, hfailed⟩
    · intro _ middle hwritten
      exact report_ends_of_tree hwritten

theorem conclude_ends (surroundings : Surroundings) (generation : Generation)
    (schemaPath : Option Path) (schema : Schema) (session : Session) :
    Ends (generation.conclude surroundings schemaPath schema) session
      (fun result after => result = generation.summary schemaPath schema ∧
        Written surroundings generation.document (Document.content generation.variant schema)
          session.tree after.tree)
      fun failure after => (∃ fault, failure = writeFailure generation.document fault) ∧
        session.tree.MakesWay surroundings.working generation.document.parent after.tree := by
  have hsave : Ends
      (saveDocument surroundings generation.document (Document.content generation.variant schema))
      session
      (fun _ after => Written surroundings generation.document
        (Document.content generation.variant schema) session.tree after.tree)
      fun failure after => (∃ fault, failure = writeFailure generation.document fault) ∧
        session.tree.MakesWay surroundings.working generation.document.parent after.tree := by
    apply (write_ends surroundings generation.document _ session).bind
    intro _ middle hwritten
    exact report_ends_of_tree hwritten
  apply hsave.bind
  intro _ middle hwritten
  -- the report on diagnostics does not touch the files
  dsimp only
  split
  · exact ⟨rfl, hwritten⟩
  · exact ⟨rfl, hwritten⟩

/-- How a generation that fails has ended: while it read, while it wrote the
schema, or while it wrote the document. -/
inductive Unfinished (surroundings : Surroundings) (generation : Generation)
    (schemaPath : Option Path) (before : Session) : Failure → Session → Prop
  | reading {failure : Failure} {after : Session} (hfiles : after.files = before.files) :
    Unfinished surroundings generation schemaPath before failure after
  | schema {path : Path} {fault : Fault} {after : Session} (hpath : path ∈ schemaPath)
    (hway : before.tree.MakesWay surroundings.working path.parent after.tree) :
    Unfinished surroundings generation schemaPath before (writeFailure path fault) after
  | document {fault : Fault} {after : Session} {sources : List (String × String)} {middle : Tree}
    (hreads : generation.Reads surroundings.working before.tree sources)
    (hschema : SchemaWritten surroundings schemaPath (generation.schemaOf sources) before.tree
      middle)
    (hway : middle.MakesWay surroundings.working generation.document.parent after.tree) :
    Unfinished surroundings generation schemaPath before
      (writeFailure generation.document fault) after

/-- How a generation that ends well has ended. -/
structure Finished (surroundings : Surroundings) (generation : Generation)
    (schemaPath : Option Path) (before after : Tree) (summary : Summary)
    (sources : List (String × String)) (middle : Tree) : Prop where
  reads : generation.Reads surroundings.working before sources
  schema : SchemaWritten surroundings schemaPath (generation.schemaOf sources) before middle
  document : Written surroundings generation.document
    (Document.content generation.variant (generation.schemaOf sources)) middle after
  summary : summary = generation.summary schemaPath (generation.schemaOf sources)

theorem run_ends (surroundings : Surroundings) (generation : Generation)
    (schemaPath : Option Path) (session : Session) :
    Ends (generation.run surroundings schemaPath) session
      (fun summary after => ∃ sources middle,
        Finished surroundings generation schemaPath session.tree after.tree summary sources middle)
      (Unfinished surroundings generation schemaPath session) := by
  rw [run_eq]
  apply (report_ends _ session).bind
  intro _ started hstarted
  apply Ends.bind
  · apply (extract_ends surroundings generation started).mono (fun _ _ => id)
    intro _ after hafter
    exact .reading (hafter.trans hstarted)
  rintro _ extracted ⟨hextracted, sources, hreads, rfl⟩
  apply (report_ends _ extracted).bind
  intro _ rendered hrendered
  have htree : rendered.tree = session.tree :=
    Session.tree_eq_of_files (hrendered.trans (hextracted.trans hstarted))
  have hstart : started.tree = session.tree := Session.tree_eq_of_files hstarted
  rw [hstart] at hreads
  apply Ends.bind
  · apply (saveGiven_ends surroundings schemaPath _ rendered).mono (fun _ _ => id)
    rintro _ after ⟨path, hpath, ⟨fault, rfl⟩, hway⟩
    rw [htree] at hway
    exact .schema hpath hway
  intro _ saved hschema
  rw [htree] at hschema
  apply (conclude_ends surroundings generation schemaPath _ saved).mono
  · rintro _ after ⟨rfl, hwritten⟩
    exact ⟨sources, saved.tree, hreads, hschema, hwritten, rfl⟩
  · rintro _ after ⟨⟨fault, rfl⟩, hway⟩
    exact .document hreads hschema hway

section SchemaWritten

variable {surroundings : Surroundings} {schemaPath : Option Path} {schema : Schema}
  {before middle : Tree}

theorem SchemaWritten.grows
    (hschema : SchemaWritten surroundings schemaPath schema before middle) :
    before.Grows middle := by
  cases schemaPath with
  | none =>
    cases hschema
    exact Tree.Grows.refl _
  | some path => exact hschema.receives.grows

theorem SchemaWritten.others
    (hschema : SchemaWritten surroundings schemaPath schema before middle) {location : Location}
    (hlocation : ∀ path ∈ schemaPath, location ≠ path.locate surroundings.working) :
    middle.file? location = before.file? location := by
  cases schemaPath with
  | none =>
    cases hschema
    rfl
  | some path => exact hschema.receives.others location (hlocation path rfl)

/-- Beside the schema there may be new directories on the way to it. -/
theorem SchemaWritten.beside
    (hschema : SchemaWritten surroundings schemaPath schema before middle) {location : Location}
    (hlocation : ∀ path ∈ schemaPath, location ≠ path.locate surroundings.working) :
    Tree.MayAddDirectory
      (schemaPath.toList.flatMap fun path => path.parent.places surroundings.working) before middle
      location := by
  cases schemaPath with
  | none =>
    cases hschema
    exact .inl rfl
  | some path =>
    apply (hschema.beside location (hlocation path rfl)).mono
    exact fun place hplace => List.mem_flatMap.mpr ⟨path, List.mem_singleton.mpr rfl, hplace⟩

theorem SchemaWritten.written
    (hschema : SchemaWritten surroundings schemaPath schema before middle) {path : Path}
    (hpath : path ∈ schemaPath) :
    Written surroundings path schema.toJson.toIndented before middle := by
  cases hpath
  exact hschema

end SchemaWritten

/-! ## Failed generations -/

/-- A generation that fails on its sources has not written anything. -/
theorem run_ends_of_sources (surroundings : Surroundings) (generation : Generation)
    (schemaPath : Option Path) (session : Session) :
    Ends (generation.run surroundings schemaPath) session
      (fun summary after => ∃ sources middle,
        Finished surroundings generation schemaPath session.tree after.tree summary sources middle)
      fun failure after => failure.isOfSources = true → after.files = session.files := by
  apply (run_ends surroundings generation schemaPath session).mono (fun _ _ => id)
  intro failure after hfailed hsource
  cases hfailed with
  | reading hfiles => exact hfiles
  | schema =>
    rw [isOfSources_writeFailure] at hsource
    cases hsource
  | document =>
    rw [isOfSources_writeFailure] at hsource
    cases hsource

/-- The places that the paths of the outputs lead through. -/
def passedPlaces (working : Location) (generation : Generation) (schemaPath : Option Path) :
    List Location :=
  (generation.document :: schemaPath.toList).flatMap fun path => path.parent.places working

/-- The outputs are two files, and neither path leads through the place of the
document, nor that of the schema through its own. -/
structure OutputsClear (working : Location) (generation : Generation)
    (schemaPath : Option Path) : Prop where
  schema_document : ∀ path ∈ schemaPath, path.locate working ≠ generation.document.locate working
  document : generation.document.locate working ∉ generation.passedPlaces working schemaPath
  schema : ∀ path ∈ schemaPath, path.locate working ∉ path.parent.places working

/-- Paths that never go back are clear of each other unless the schema is the
document or lies below it. -/
theorem outputsClear_of_not_below {working : Location} {generation : Generation}
    {schemaPath : Option Path}
    (hup : ∀ path ∈ generation.document :: schemaPath.toList, ".." ∉ path.parts)
    (hbelow : ∀ path ∈ schemaPath,
      ¬ generation.document.locate working <+: path.locate working) :
    generation.OutputsClear working schemaPath := by
  rw [List.forall_mem_cons] at hup
  refine ⟨fun path hpath hsame => ?_, fun hpassed => ?_, fun path hpath => ?_⟩
  · exact hbelow path hpath (hsame ▸ List.prefix_rfl)
  · rw [passedPlaces, List.flatMap_cons, List.mem_append, List.mem_flatMap] at hpassed
    rcases hpassed with hown | ⟨path, hpath, hplace⟩
    · exact Path.locate_not_mem_places hup.1 hown
    · exact hbelow path (Option.mem_toList.mp hpath)
        (Path.above_of_mem_places (hup.2 path hpath) hplace).1
  · exact Path.locate_not_mem_places (hup.2 path (Option.mem_toList.mpr hpath))

section Unfinished

variable {surroundings : Surroundings} {generation : Generation} {schemaPath : Option Path}
  {before after : Session} {failure : Failure}

/-- Whatever a generation failed on, nothing that was there is gone. -/
theorem Unfinished.grows
    (hunfinished : Unfinished surroundings generation schemaPath before failure after) :
    before.tree.Grows after.tree := by
  cases hunfinished with
  | reading hfiles =>
    rw [Session.tree_eq_of_files hfiles]
    exact Tree.Grows.refl _
  | schema _ hway => exact hway.onlyDirectories.grows
  | document _ hschema hway => exact hschema.grows.trans hway.onlyDirectories.grows

/-- Beside the schema there may be new directories on the ways to the outputs. -/
theorem Unfinished.beside
    (hunfinished : Unfinished surroundings generation schemaPath before failure after)
    {location : Location}
    (hlocation : ∀ path ∈ schemaPath, location ≠ path.locate surroundings.working) :
    Tree.MayAddDirectory (generation.passedPlaces surroundings.working schemaPath) before.tree
      after.tree location := by
  cases hunfinished with
  | reading hfiles =>
    rw [Session.tree_eq_of_files hfiles]
    exact .inl rfl
  | schema hpath hway =>
    apply (hway.addsDirectories location).mono
    exact fun place hplace => List.mem_flatMap.mpr
      ⟨_, List.mem_cons_of_mem _ (Option.mem_toList.mpr hpath), hplace⟩
  | document _ hschema hway =>
    have hearly : Tree.MayAddDirectory (generation.passedPlaces surroundings.working schemaPath)
        before.tree _ location :=
      (hschema.beside hlocation).mono fun place hplace => List.mem_append_right _ hplace
    have hlate : Tree.MayAddDirectory (generation.passedPlaces surroundings.working schemaPath)
        _ after.tree location :=
      (hway.addsDirectories location).mono fun place hplace => List.mem_append_left _ hplace
    exact hearly.trans hlate

/-- The place of the schema is as it was, or the schema is there, complete, and
the document could not be written. -/
theorem Unfinished.schema_or
    (hunfinished : Unfinished surroundings generation schemaPath before failure after)
    {path : Path} (hpath : path ∈ schemaPath)
    (hclear : path.locate surroundings.working ∉ path.parent.places surroundings.working) :
    after.tree.node? (path.locate surroundings.working) =
        before.tree.node? (path.locate surroundings.working) ∨
      (∃ fault, failure = writeFailure generation.document fault) ∧
        ∃ sources, generation.sourcesIn? surroundings.working before.tree = some sources ∧
          after.tree.node? (path.locate surroundings.working) = some (.file
            (Text.encodeUtf8 (generation.schemaOf sources).toJson.toIndented.toList)) := by
  cases hunfinished with
  | reading hfiles =>
    rw [Session.tree_eq_of_files hfiles]
    exact .inl rfl
  | schema hwritten hway =>
    obtain rfl := Option.mem_unique hwritten hpath
    exact .inl (hway.node?_eq hclear)
  | document hreads hschema hway =>
    refine .inr ⟨⟨_, rfl⟩, _, hreads.texts, Tree.file?_eq_some_iff.mp ?_⟩
    rw [hway.onlyDirectories.file?]
    exact (hschema.written hpath).receives.held

end Unfinished

/-- A generation that fails on its sources leaves the files as they were.  One
that fails on a write leaves everything as it was but the schema and directories
on the ways to the outputs.  If the outputs are clear of each other the place of
the document is as it was, be there a file, a directory or nothing; that of the
schema too, unless it was the document that could not be written, and the new
schema is complete. -/
theorem failed_run_keeps_files (surroundings : Surroundings) (generation : Generation)
    (schemaPath : Option Path) (before after : Session) (failure : Failure)
    (hrun : generation.run surroundings schemaPath before = .error failure after) :
    (failure.isOfSources = true → after.files = before.files) ∧
    ∀ target fault, failure = .outputUnwritable target fault →
      before.tree.Grows after.tree ∧
      (∀ location, (∀ path ∈ schemaPath, location ≠ path.locate surroundings.working) →
        Tree.MayAddDirectory (generation.passedPlaces surroundings.working schemaPath) before.tree
          after.tree location) ∧
      (generation.OutputsClear surroundings.working schemaPath →
        after.tree.node? (generation.document.locate surroundings.working) =
          before.tree.node? (generation.document.locate surroundings.working) ∧
        ∀ path ∈ schemaPath,
          after.tree.node? (path.locate surroundings.working) =
            before.tree.node? (path.locate surroundings.working) ∨
          target = generation.document ∧
            ∃ sources, generation.sourcesIn? surroundings.working before.tree = some sources ∧
              after.tree.node? (path.locate surroundings.working) = some (.file
                (Text.encodeUtf8 (generation.schemaOf sources).toJson.toIndented.toList))) := by
  refine ⟨(run_ends_of_sources surroundings generation schemaPath before).of_error hrun, ?_⟩
  rintro target fault rfl
  have hunfinished := (run_ends surroundings generation schemaPath before).of_error hrun
  refine ⟨hunfinished.grows, fun _ => hunfinished.beside, fun hclear => ⟨?_, ?_⟩⟩
  · have hapart : ∀ path ∈ schemaPath,
        generation.document.locate surroundings.working ≠ path.locate surroundings.working :=
      fun path hpath => (hclear.schema_document path hpath).symm
    exact (hunfinished.beside hapart).node?_eq hclear.document
  · intro path hpath
    refine (hunfinished.schema_or hpath (hclear.schema path hpath)).imp_right ?_
    rintro ⟨⟨fault, hfault⟩, hnew⟩
    exact ⟨(writeFailure_eq_outputUnwritable hfault.symm).symm, hnew⟩

/-- A working directory with the directory `p` of one source. -/
def oneSource : Session where
  files.tree := (Tree.put {} ["p"] .directory).put ["p", "net.cpp"]
    (.file (Text.encodeUtf8 "CFG->GetInt(\"k\", 1);\n".toList))

def eightLetters : Surroundings where
  suffixes := ["abcdefgh"]

/-- The generation for one source, with the document at a path. -/
def ofOneSource (document : String) : Generation where
  root := Path.ofString "p"
  variant := { Variant.config with sourceFiles := ["net.cpp"] }
  document := Path.ofString document

/-- The document cannot take the place of a directory, but the schema is written. -/
theorem failed_run_keeps_files_directory :
    ∃ after, (ofOneSource "p").run eightLetters (some (Path.ofString "s.json")) oneSource =
        .error (.outputUnwritable (Path.ofString "p")
          (.refused .isDirectory "/.p.abcdefgh" (some "p"))) after ∧
      after.tree.node? ["p", "net.cpp"] = oneSource.tree.node? ["p", "net.cpp"] ∧
      after.tree.node? ["p"] = oneSource.tree.node? ["p"] ∧
      ∃ sources, (ofOneSource "p").sourcesIn? [] oneSource.tree = some sources ∧
        after.tree.node? ["s.json"] = some (.file (Text.encodeUtf8
          ((ofOneSource "p").schemaOf sources).toJson.toIndented.toList)) := by
  have hfailure : failure?
      ((ofOneSource "p").run eightLetters (some (Path.ofString "s.json")) oneSource) =
        some (.outputUnwritable (Path.ofString "p")
          (.refused .isDirectory "/.p.abcdefgh" (some "p"))) := by
    decide +kernel
  have hrun := failure?_eq_some hfailure
  have hclear : (ofOneSource "p").OutputsClear eightLetters.working
      (some (Path.ofString "s.json")) :=
    outputsClear_of_not_below (by decide +kernel) (by decide +kernel)
  obtain ⟨-, hkept⟩ := failed_run_keeps_files eightLetters (ofOneSource "p")
    (some (Path.ofString "s.json")) oneSource _ _ hrun
  obtain ⟨-, hbeside, hexact⟩ := hkept _ _ rfl
  obtain ⟨hdocument, hschema⟩ := hexact hclear
  have hsource := (hbeside ["p", "net.cpp"] (by decide +kernel)).node?_eq (by decide +kernel)
  refine ⟨_, hrun, hsource, hdocument, ?_⟩
  rcases hschema (Path.ofString "s.json") rfl with hsame | ⟨-, hnew⟩
  · -- there was no schema before
    exact absurd hsame (by decide +kernel)
  · exact hnew

/-- A fault strikes the write of the document. -/
def documentStruck : Surroundings :=
  { eightLetters with
    interruption := fun path =>
      if path = Path.ofString "out.md" then some ⟨.contents, .refused .busy "out.md" none, 0⟩
      else none }

/-- A schema below the document makes a directory of the place that the document
does not get.  A schema with another path to that place is left there itself. -/
theorem failed_run_takes_place_of_document :
    oneSource.tree.node? ["out.md"] = none ∧
    (∃ after, (ofOneSource "out.md").run eightLetters (some (Path.ofString "out.md/s.json"))
          oneSource =
        .error (.outputUnwritable (Path.ofString "out.md")
          (.refused .isDirectory "/.out.md.abcdefgh" (some "out.md"))) after ∧
      after.tree.node? ["out.md"] = some .directory) ∧
    ∃ after sources, (ofOneSource "out.md").run documentStruck
          (some (Path.ofString "p/../out.md")) oneSource =
        .error (.outputUnwritable (Path.ofString "out.md") (.refused .busy "out.md" none)) after ∧
      (ofOneSource "out.md").sourcesIn? [] oneSource.tree = some sources ∧
      after.tree.node? ["out.md"] = some (.file (Text.encodeUtf8
        ((ofOneSource "out.md").schemaOf sources).toJson.toIndented.toList)) := by
  have hfree : oneSource.tree.node? ["out.md"] = none := by decide +kernel
  have hbelow : failure?
      ((ofOneSource "out.md").run eightLetters (some (Path.ofString "out.md/s.json")) oneSource) =
        some (.outputUnwritable (Path.ofString "out.md")
          (.refused .isDirectory "/.out.md.abcdefgh" (some "out.md"))) := by
    decide +kernel
  have hsame : failure?
      ((ofOneSource "out.md").run documentStruck (some (Path.ofString "p/../out.md")) oneSource) =
        some (.outputUnwritable (Path.ofString "out.md") (.refused .busy "out.md" none)) := by
    decide +kernel
  have hrun := failure?_eq_some hsame
  refine ⟨hfree, ⟨_, failure?_eq_some hbelow, by decide +kernel⟩, ?_⟩
  have hunfinished := (run_ends documentStruck (ofOneSource "out.md")
    (some (Path.ofString "p/../out.md")) oneSource).of_error hrun
  rcases hunfinished.schema_or rfl (by decide +kernel) with hkept | ⟨-, sources, hsources, hnew⟩
  · -- something has come to the free place
    exact absurd (congrArg Option.isSome hkept) (by decide +kernel)
  · exact ⟨_, sources, hrun, hsources, hnew⟩

/-! ## Finished generations -/

/-- The outputs are apart from each other and from the sources. -/
structure OutputsApart (working : Location) (generation : Generation)
    (schemaPath : Option Path) : Prop where
  schema_document : ∀ path ∈ schemaPath,
    path.locate working ≠ generation.document.locate working
  source_document : ∀ file ∈ generation.variant.sourceFiles,
    generation.sourceLocation working file ≠ generation.document.locate working
  source_schema : ∀ path ∈ schemaPath, ∀ file ∈ generation.variant.sourceFiles,
    generation.sourceLocation working file ≠ path.locate working

section Finished

variable {surroundings : Surroundings} {generation : Generation} {schemaPath : Option Path}
  {before after middle : Tree} {summary : Summary} {sources : List (String × String)}

theorem Finished.grows
    (hfinished : Finished surroundings generation schemaPath before after summary sources middle) :
    before.Grows after :=
  hfinished.schema.grows.trans hfinished.document.receives.grows

theorem Finished.others
    (hfinished : Finished surroundings generation schemaPath before after summary sources middle)
    {location : Location} (hdocument : location ≠ generation.document.locate surroundings.working)
    (hschema : ∀ path ∈ schemaPath, location ≠ path.locate surroundings.working) :
    after.file? location = before.file? location :=
  (hfinished.document.receives.others location hdocument).trans (hfinished.schema.others hschema)

/-- A generation that ends well changes its outputs only. -/
theorem Finished.changesOnly
    (hfinished : Finished surroundings generation schemaPath before after summary sources middle) :
    Tree.ChangesOnly
      (generation.document.locate surroundings.working ::
        (schemaPath.map (Path.locate surroundings.working)).toList) before after where
  grows := hfinished.grows
  kept location hlocation := by
    rw [List.mem_cons, not_or, Option.mem_toList] at hlocation
    apply hfinished.others hlocation.1
    rintro path hpath rfl
    exact hlocation.2 (Option.mem_map_of_mem _ hpath)

/-- Everything that a generation needs is still there when it has ended. -/
theorem Finished.yields_run
    (hfinished : Finished surroundings generation schemaPath before after summary sources middle)
    (hapart : generation.OutputsApart surroundings.working schemaPath) {names : List String}
    (hsuffixes : ∀ suffix ∈ surroundings.suffixes, IsSuffix suffix)
    (hnames : ∀ name ∈ names, IsSuffix name)
    (hfree : ∀ path ∈ generation.document :: schemaPath.toList,
      after.HasFreeName surroundings.working path names) :
    Yields Session.tree (generation.run { surroundings with suffixes := names } schemaPath) after
      summary after := by
  have hreads : generation.Reads surroundings.working after sources := by
    apply hfinished.reads.grows hfinished.grows
    intro file hfile
    exact hfinished.others (hapart.source_document file hfile)
      fun path hpath => hapart.source_schema path hpath file hfile
  have hdocument : Yields Session.tree
      (write { surroundings with suffixes := names } generation.document
        (Document.content generation.variant (generation.schemaOf sources))) after () after :=
    yields_write hfinished.document.interruption (hfinished.document.ready hsuffixes)
      hfinished.document.receives.held hnames (hfree _ List.mem_cons_self)
  have hschema : Yields Session.tree
      (saveGiven { surroundings with suffixes := names } schemaPath (generation.schemaOf sources))
      after () after := by
    cases schemaPath with
    | none => exact Yields.pure ()
    | some path =>
      have hwritten := hfinished.schema.written rfl
      -- the document, written later, has left the schema alone
      have hheld := (hfinished.document.receives.others _ (hapart.schema_document path rfl)).trans
        hwritten.receives.held
      have hready := (hwritten.ready hsuffixes).grows hfinished.document.receives.grows
      have hwrite : Yields Session.tree
          (write { surroundings with suffixes := names } path
            (generation.schemaOf sources).toJson.toIndented) after () after :=
        yields_write hwritten.interruption hready hheld hnames (hfree path (by simp))
      exact hwrite.bind (yields_report _ after)
  have hreport : Yields Session.tree
      (generation.conclude { surroundings with suffixes := names } schemaPath
        (generation.schemaOf sources)) after summary after := by
    rw [hfinished.summary]
    apply (hdocument.bind (yields_report _ after)).bind
    dsimp only
    split
    · exact (yields_report _ after).bind (Yields.pure _)
    · exact Yields.pure _
  rw [run_eq]
  apply (yields_report _ after).bind
  apply (yields_extract hreads).bind
  apply (yields_report _ after).bind
  exact hschema.bind hreport

end Finished

/-- A generation that ends well leaves the document and the schema of its
sources, and all other files as they were.  If it is run again it ends well with
the same summary and leaves the same tree, whatever names are used for scratch
files, as long as one is free beside each output. -/
theorem finished_run_repeats (surroundings : Surroundings) (generation : Generation)
    (schemaPath : Option Path) (before after : Session) (summary : Summary)
    (hapart : generation.OutputsApart surroundings.working schemaPath)
    (hrun : generation.run surroundings schemaPath before = .ok summary after) :
    ∃ sources, generation.sourcesIn? surroundings.working before.tree = some sources ∧
      after.tree.file? (generation.document.locate surroundings.working) =
        some (Text.encodeUtf8
          (Document.content generation.variant (generation.schemaOf sources)).toList) ∧
      (∀ path ∈ schemaPath, after.tree.file? (path.locate surroundings.working) =
        some (Text.encodeUtf8 (generation.schemaOf sources).toJson.toIndented.toList)) ∧
      (∀ location, location ≠ generation.document.locate surroundings.working →
        (∀ path ∈ schemaPath, location ≠ path.locate surroundings.working) →
        after.tree.file? location = before.tree.file? location) ∧
      before.tree.Grows after.tree ∧
      ∀ names again, (∀ suffix ∈ surroundings.suffixes ++ names, IsSuffix suffix) →
        (∀ path ∈ generation.document :: schemaPath.toList,
          after.tree.HasFreeName surroundings.working path names) →
        again.tree = after.tree →
        ∃ final, generation.run { surroundings with suffixes := names } schemaPath again =
            .ok summary final ∧ final.tree = again.tree := by
  obtain ⟨sources, middle, hfinished⟩ :=
    (run_ends surroundings generation schemaPath before).of_ok hrun
  refine ⟨sources, hfinished.reads.texts, hfinished.document.receives.held, ?_, ?_,
    hfinished.grows, ?_⟩
  · intro path hpath
    calc after.tree.file? (path.locate surroundings.working)
      _ = middle.file? (path.locate surroundings.working) :=
        hfinished.document.receives.others _ (hapart.schema_document path hpath)
      _ = _ := (hfinished.schema.written hpath).receives.held
  · intro location hdocument hschema
    exact hfinished.others hdocument hschema
  · intro names again hsuffixes hfree hagain
    rw [hagain]
    exact hfinished.yields_run hapart
      (fun suffix hsuffix => hsuffixes suffix (List.mem_append_left _ hsuffix))
      (fun name hname => hsuffixes name (List.mem_append_right _ hname)) hfree again hagain

/-- The directory of the document is made by the first run and found by the second. -/
theorem finished_run_repeats_new_directory :
    ∃ summary after final,
      (ofOneSource "out/doc.md").run eightLetters (some (Path.ofString "s.json")) oneSource =
        .ok summary after ∧
      (ofOneSource "out/doc.md").run eightLetters (some (Path.ofString "s.json")) after =
        .ok summary final ∧
      final.tree = after.tree := by
  have hvalue : (value? ((ofOneSource "out/doc.md").run eightLetters
      (some (Path.ofString "s.json")) oneSource)).isSome = true := by
    decide +kernel
  obtain ⟨summary, hrun⟩ := value?_isSome hvalue
  have hapart : (ofOneSource "out/doc.md").OutputsApart eightLetters.working
      (some (Path.ofString "s.json")) :=
    ⟨by decide +kernel, by decide +kernel, by decide +kernel⟩
  have hfree : ∀ path ∈ [Path.ofString "out/doc.md", Path.ofString "s.json"],
      (stateOf ((ofOneSource "out/doc.md").run eightLetters (some (Path.ofString "s.json"))
        oneSource)).tree.HasFreeName [] path ["abcdefgh"] := by
    decide +kernel
  obtain ⟨sources, -, -, -, -, -, hagain⟩ := finished_run_repeats eightLetters
    (ofOneSource "out/doc.md") (some (Path.ofString "s.json")) oneSource _ summary hapart hrun
  obtain ⟨final, hfinal, htree⟩ := hagain ["abcdefgh"] _ (by decide +kernel) hfree rfl
  exact ⟨summary, _, final, hrun, hfinal, htree⟩

end Generation

end ConfigReference
