import ConfigReference.Proofs.CommandEffects
import ConfigReference.Proofs.Utf8

/-!
# Variant files that are refused

A variant file passes several stages: its path is asked for, its octets are read and
decoded, and the text is read as the description of a variant.  What goes wrong at the
second and at the last stage is a failure of variants, which a command reports.  What
goes wrong at the other two is none, and ends the command as it is.  The report is read
as markup, with the path and the account of a description in it, and may be at fault
itself.
-/

namespace ConfigReference

open File (Fault Location Path Tree)

/-- Whether a variant could not be had. -/
def Failure.isOfVariant : Failure → Bool
  | unknownVariant _ => true
  | variantUnreadable _ _ => true
  | variantInvalid _ _ _ => true
  | _ => false

namespace Variant

variable {surroundings : Surroundings} {working : Location} {path : Path} {session : Session}

/-- The stages that come before the description: there is a path to ask for, and whatever
octets are found there are those of a text. -/
def Decodes (tree : Tree) (working : Location) (path : Path) : Prop :=
  path.hasNull = false ∧ ∀ octets, tree.octets working path = .ok octets → Text.IsText octets

/-- A variant comes from a text. -/
theorem decodes_of_text? {tree : Tree} {text : String} (hnull : path.hasNull = false)
    (htext : tree.text? working path = some text) : Decodes tree working path := by
  refine ⟨hnull, fun octets hoctets => ?_⟩
  by_contra hnone
  obtain ⟨fault, hfault⟩ := Text.decodeUtf8_eq_error_iff.mpr hnone
  rw [Tree.text?, hoctets] at htext
  simp only [hfault, reduceCtorEq] at htext

/-- Only a path or octets that cannot be decoded lead to a failure of another kind. -/
theorem Refused.isOfVariant_iff {tree : Tree} {failure : Failure}
    (hrefused : Refused surroundings tree path failure) :
    failure.isOfVariant = true ↔ Decodes tree surroundings.working path := by
  cases hrefused with
  | invalid hnull htext hread =>
    exact ⟨fun _ => decodes_of_text? hnull htext, fun _ => rfl⟩
  | unread hfault =>
    cases hfault with
    | null hnull =>
      refine ⟨fun hvariant => ?_, fun hdecodes => ?_⟩
      · cases hvariant
      · rw [hdecodes.1] at hnull
        cases hnull
    | refused hnull hread =>
      refine ⟨fun _ => ⟨hnull, fun octets hoctets => ?_⟩, fun _ => rfl⟩
      rw [hread] at hoctets
      cases hoctets
    | notText hnull hread hdecode =>
      refine ⟨fun hvariant => ?_, fun hdecodes => ?_⟩
      · cases hvariant
      · exact absurd (hdecodes.2 _ hread) (Text.decodeUtf8_eq_error_iff.mp ⟨_, hdecode⟩)

/-- Every failure to load a variant is a failure of variants, exactly if the path and the
octets there can be decoded. -/
theorem forall_isOfVariant_iff (surroundings : Surroundings) (path : Path) (session : Session) :
    (∀ failure after, load surroundings path session = .error failure after →
        failure.isOfVariant = true) ↔
      Decodes session.tree surroundings.working path := by
  have hends := load_ends surroundings path session
  constructor
  · intro hall
    cases hload : load surroundings path session with
    | ok variant after =>
      obtain ⟨-, hnull, text, htext, -⟩ := hends.of_ok hload
      exact decodes_of_text? hnull htext
    | error failure after =>
      exact (hends.of_error hload).2.isOfVariant_iff.mp (hall failure after hload)
  · intro hdecodes failure after hload
    exact (hends.of_error hload).2.isOfVariant_iff.mpr hdecodes

/-- A refused file is foreseen if and only if that is a failure of variants. -/
theorem Refused.isForeseen_eq {tree : Tree} {failure : Failure}
    (hrefused : Refused surroundings tree path failure) :
    failure.isForeseen = failure.isOfVariant := by
  cases hrefused with
  | invalid hnull htext hread => rfl
  | unread hfault =>
    unfold failureOf
    split <;> rfl

end Variant

/-! ## Commands with a variant file -/

namespace Command

/-- The choice that a command makes its variants by. -/
def Invocation.choice? : Invocation → Option Choice
  | generate options => some options.choice
  | scan choice => some choice
  | _ => none

/-- The session in which a command chooses its variants. -/
def configured (settings : Settings) (verbose : Bool) (session : Session) : Session :=
  { session with threshold := settings.threshold verbose }

/-- How a command ends that reports a failure: with the code 1, or with the fault of the
message itself, of which nothing is printed then. -/
def reported (failure : Failure) (session : Session) : EStateM.Result Failure Session Nat :=
  match (failureLine failure).render with
  | .ok printed => .ok 1 { session with printed := session.printed ++ [printed] }
  | .error fault => .error (.markup fault) session

theorem reportFailure_eq_reported {action : Action Nat} {before after : Session}
    {failure : Failure} (hrun : action before = .error failure after)
    (hforeseen : failure.isForeseen = true) :
    reportFailure action before = reported failure after := by
  rw [reportFailure_eq_of_foreseen hrun hforeseen, reported]
  change EStateM.bind (Action.print _) _ after = _
  unfold EStateM.bind Action.print
  cases (failureLine failure).render <;> rfl

theorem reportFailure_eq_of_unforeseen {action : Action Nat} {before after : Session}
    {failure : Failure} (hrun : action before = .error failure after)
    (hforeseen : failure.isForeseen = false) :
    reportFailure action before = .error failure after := by
  unfold reportFailure
  simp only [tryCatch, tryCatchThe, MonadExceptOf.tryCatch, EStateM.tryCatch, hrun, hforeseen]
  rfl

section VariantFile

variable {surroundings : Surroundings} {settings : Settings} {choice : Choice} {file : String}
  {before loaded after : Session} {failure : Failure}

theorem chooseVariants_eq_error {session : Session} (hfile : choice.variantFile = some file)
    (hload : Variant.load surroundings (Path.ofString file) session =
      .error failure after) (all : Bool) :
    chooseVariants surroundings settings choice all session = .error failure after := by
  unfold chooseVariants
  rw [hfile]
  exact bind_eq_error_iff.mpr (.inl hload)

/-- The settings are read and the log is set up before the variant file is opened. -/
theorem runGenerate_eq_error {options : GenerateOptions}
    (hfile : options.choice.variantFile = some file)
    (hsettings : Settings.load surroundings true before = .ok settings loaded)
    (hload : Variant.load surroundings (Path.ofString file)
      (configured settings options.choice.verbose loaded) = .error failure after) :
    runGenerate surroundings options before = .error failure after := by
  unfold runGenerate
  refine bind_eq_error_iff.mpr (.inr ⟨settings, loaded, hsettings, ?_⟩)
  refine bind_eq_error_iff.mpr (.inr ⟨(), _, rfl, ?_⟩)
  exact bind_eq_error_iff.mpr (.inl (chooseVariants_eq_error hfile hload options.all))

theorem runScan_eq_error (hfile : choice.variantFile = some file)
    (hsettings : Settings.load surroundings true before = .ok settings loaded)
    (hload : Variant.load surroundings (Path.ofString file)
      (configured settings choice.verbose loaded) = .error failure after) :
    runScan surroundings choice before = .error failure after := by
  unfold runScan
  refine bind_eq_error_iff.mpr (.inr ⟨settings, loaded, hsettings, ?_⟩)
  refine bind_eq_error_iff.mpr (.inr ⟨(), _, rfl, ?_⟩)
  exact bind_eq_error_iff.mpr (.inl (chooseVariants_eq_error hfile hload false))

theorem exists_work_eq_error {invocation : Invocation} (hchoice : invocation.choice? = some choice)
    (hfile : choice.variantFile = some file)
    (hsettings : Settings.load surroundings true before = .ok settings loaded)
    (hload : Variant.load surroundings (Path.ofString file)
      (configured settings choice.verbose loaded) = .error failure after) :
    ∃ action : Action Nat, runInvocation surroundings invocation = reportFailure action ∧
      action before = .error failure after := by
  cases invocation with
  | generate options =>
    cases hchoice
    exact ⟨_, rfl, runGenerate_eq_error hfile hsettings hload⟩
  | scan choice =>
    cases hchoice
    exact ⟨_, rfl, runScan_eq_error hfile hsettings hload⟩
  | _ => cases hchoice

end VariantFile

/-- A variant file gives a variant or a failure of variants, exactly if its path holds no
null character and its octets, if there are any, are those of a text.  A command with a
variant file that is refused reports a failure of variants, as far as its message can be
printed; every other failure ends the command as it is. -/
theorem variant_file_failures (surroundings : Surroundings) (path : Path) (session : Session) :
    ((∀ failure after, Variant.load surroundings path session = .error failure after →
        failure.isOfVariant = true) ↔
      path.hasNull = false ∧ ∀ octets,
        session.tree.octets surroundings.working path = .ok octets → Text.IsText octets) ∧
    ∀ invocation choice file before settings loaded failure after,
      Invocation.choice? invocation = some choice → choice.variantFile = some file →
      Path.ofString file = path →
      Settings.load surroundings true before = .ok settings loaded →
      configured settings choice.verbose loaded = session →
      Variant.load surroundings path session = .error failure after →
        runInvocation surroundings invocation before =
          if failure.isOfVariant then reported failure after else .error failure after := by
  refine ⟨Variant.forall_isOfVariant_iff surroundings path session, ?_⟩
  rintro invocation choice file before settings loaded failure after hchoice hfile rfl hsettings rfl
    hload
  obtain ⟨action, hrun, herror⟩ := exists_work_eq_error hchoice hfile hsettings hload
  have hrefused := ((Variant.load_ends _ _ _).of_error hload).2
  rw [hrun, ← hrefused.isForeseen_eq]
  cases hforeseen : failure.isForeseen with
  | true => exact reportFailure_eq_reported herror hforeseen
  | false => exact reportFailure_eq_of_unforeseen herror hforeseen

/-- One octet that begins no character, and a description that is not complete. -/
def refusedFiles : Session where
  files.tree := (Tree.put {} ["v.json"] (.file [0xFF])).put ["w.json"]
    (.file (Text.encodeUtf8 "\x7b\"name\": \"[/x]\"\x7d".toList))

/-- Accounts that quote the text. -/
def quoting : Surroundings where
  account text _ := text

/-- What comes of a file in a scan. -/
def scanWith (file : String) : EStateM.Result Failure Session Nat :=
  runInvocation quoting (.scan { variantFile := some file }) refusedFiles

/-- The octet ends a scan as it is.  A missing file is reported, but not if there is a
closing tag in its name that closes nothing; nor is a description with such a tag. -/
theorem variant_file_failures_stray_octet :
    failure? (scanWith "v.json") = some (.file (.notText ⟨0, 0xFF, 1, .invalidStart⟩)) ∧
      value? (scanWith "none") = some 1 ∧
      failure? (scanWith "[/x]") = some (.markup (.notOpen ⟨"/x", none⟩ 40)) ∧
      failure? (scanWith "w.json") = some (.markup (.notOpen ⟨"/x", none⟩ 54)) := by
  have hsettings : value? (Settings.load quoting true refusedFiles) = some {} := by decide +kernel
  have hscan : ∀ file failure,
      failure? (Variant.load quoting (Path.ofString file)
        (configured {} false (stateOf (Settings.load quoting true refusedFiles)))) =
          some failure →
      scanWith file = if failure.isOfVariant then reported failure _ else .error failure _ :=
    fun file failure hload => (variant_file_failures quoting (Path.ofString file) _).2 _ _ file
      refusedFiles {} _ failure _ rfl rfl rfl (value?_eq_some hsettings) rfl
      (failure?_eq_some hload)
  rw [hscan "v.json" (.file (.notText ⟨0, 0xFF, 1, .invalidStart⟩)) (by decide +kernel),
    hscan "none" (.variantUnreadable (Path.ofString "none") (.refused .missing "none" none))
      (by decide +kernel),
    hscan "[/x]" (.variantUnreadable (Path.ofString "[/x]") (.refused .missing "[/x]" none))
      (by decide +kernel),
    hscan "w.json" (.variantInvalid (Path.ofString "w.json")
      (["title", "noun", "output_path", "source_files"].map fun name =>
        ⟨.missing, [.member name]⟩) "\x7b\"name\": \"[/x]\"\x7d") (by decide +kernel)]
  decide +kernel

end Command

end ConfigReference
