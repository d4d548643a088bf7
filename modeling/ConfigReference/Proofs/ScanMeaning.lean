import ConfigReference.Proofs.ScanStep

/-!
# The meaning of a scan

A scan carries three things from line to line and changes the facts about keys
as it goes.  This module says what the facts are once all lines have been read,
by the places of the statements alone: a line lies in a section, or in strict
mode, by what stands before it, and the facts about a key follow from the places
of its reads and of the fail-fast statements behind them.
-/

namespace ConfigReference

/-! ## Places -/

section Places

variable (p starts ends : Statement → Prop)

/-- Line `i` holds a statement with the property. -/
def HoldsAt (lines : List (Option Statement)) (i : Nat) : Prop :=
  ∃ statement, lines[i]? = some (some statement) ∧ p statement

/-- A line before line `i` starts something that no line after it and before
line `i` ends. -/
def Since (lines : List (Option Statement)) (i : Nat) : Prop :=
  ∃ j < i, HoldsAt starts lines j ∧ ∀ m < i, j < m → ¬ HoldsAt ends lines m

instance [DecidablePred p] (lines : List (Option Statement)) (i : Nat) :
    Decidable (HoldsAt p lines i) :=
  match hline : lines[i]? with
  | some (some statement) =>
    decidable_of_iff (p statement) (by simp [HoldsAt, hline])
  | some none => isFalse (by simp [HoldsAt, hline])
  | none => isFalse (by simp [HoldsAt, hline])

instance [DecidablePred starts] [DecidablePred ends] (lines : List (Option Statement)) (i : Nat) :
    Decidable (Since starts ends lines i) :=
  inferInstanceAs (Decidable (∃ j < i, _))

end Places

section PlaceLaws

variable {p starts ends : Statement → Prop} {lines : List (Option Statement)}
  {line : Option Statement} {i : Nat}

theorem holdsAt_append_singleton :
    HoldsAt p (lines ++ [line]) i ↔
      HoldsAt p lines i ∨ i = lines.length ∧ ∃ statement ∈ line, p statement := by
  rcases Nat.lt_trichotomy i lines.length with hlt | rfl | hgt
  · simp [HoldsAt, List.getElem?_append_left hlt, Nat.ne_of_lt hlt]
  · simp [HoldsAt]
  · have hlines : lines[i]? = none := List.getElem?_eq_none (by omega)
    have hlonger : (lines ++ [line])[i]? = none := List.getElem?_eq_none (by simp; omega)
    simp [HoldsAt, hlines, hlonger, Nat.ne_of_gt hgt]

theorem HoldsAt.lt_length (hholds : HoldsAt p lines i) : i < lines.length := by
  obtain ⟨statement, hline, -⟩ := hholds
  exact (List.getElem?_eq_some_iff.mp hline).1

/-- Lines further down do not matter for what holds at a line. -/
theorem holdsAt_append_singleton_of_lt (hi : i < lines.length) :
    HoldsAt p (lines ++ [line]) i ↔ HoldsAt p lines i := by
  simp [holdsAt_append_singleton, Nat.ne_of_lt hi]

theorem not_since_zero : ¬ Since starts ends lines 0 := by
  rintro ⟨j, hj, -⟩
  exact Nat.not_lt_zero j hj

theorem since_append_singleton_of_le (hi : i ≤ lines.length) :
    Since starts ends (lines ++ [line]) i ↔ Since starts ends lines i := by
  refine exists_congr fun j => and_congr_right fun hj => and_congr ?_ ?_
  · exact holdsAt_append_singleton_of_lt (by omega)
  · refine forall₂_congr fun m hm => ?_
    rw [holdsAt_append_singleton_of_lt (by omega)]

/-- Behind one more line, something has started there, or it had started before
and the line does not end it. -/
theorem since_append_singleton :
    Since starts ends (lines ++ [line]) (lines.length + 1) ↔
      (∃ statement ∈ line, starts statement) ∨
        (¬ ∃ statement ∈ line, ends statement) ∧ Since starts ends lines lines.length := by
  constructor
  · rintro ⟨j, hj, hstarts, hends⟩
    rcases holdsAt_append_singleton.mp hstarts with hbefore | ⟨rfl, hhere⟩
    · have hlt := hbefore.lt_length
      refine .inr ⟨fun hend => ?_, j, hlt, hbefore, fun m hm hjm hend => ?_⟩
      · exact hends lines.length (by omega) hlt (holdsAt_append_singleton.mpr (.inr ⟨rfl, hend⟩))
      · exact hends m (by omega) hjm (holdsAt_append_singleton.mpr (.inl hend))
    · exact .inl hhere
  · rintro (hhere | ⟨hend, j, hj, hstarts, hends⟩)
    · exact ⟨lines.length, by omega, holdsAt_append_singleton.mpr (.inr ⟨rfl, hhere⟩),
        fun m hm hjm => by omega⟩
    · refine ⟨j, by omega, holdsAt_append_singleton.mpr (.inl hstarts), fun m hm hjm hat => ?_⟩
      rcases holdsAt_append_singleton.mp hat with hbefore | ⟨rfl, hhere⟩
      · exact hends m hbefore.lt_length hjm hbefore
      · exact hend hhere

/-- One more line is a statement behind something that has started, or such a
statement stands on an earlier line. -/
theorem exists_holdsAt_and_since_append_singleton :
    (∃ i, HoldsAt p (lines ++ [line]) i ∧ Since starts ends (lines ++ [line]) i) ↔
      (∃ i, HoldsAt p lines i ∧ Since starts ends lines i) ∨
        (∃ statement ∈ line, p statement) ∧ Since starts ends lines lines.length := by
  constructor
  · rintro ⟨i, hholds, hsince⟩
    rcases holdsAt_append_singleton.mp hholds with hbefore | ⟨rfl, hhere⟩
    · have hi := Nat.le_of_lt hbefore.lt_length
      exact .inl ⟨i, hbefore, (since_append_singleton_of_le hi).mp hsince⟩
    · exact .inr ⟨hhere, (since_append_singleton_of_le (Nat.le_refl _)).mp hsince⟩
  · rintro (⟨i, hholds, hsince⟩ | ⟨hhere, hsince⟩)
    · have hi := Nat.le_of_lt hholds.lt_length
      exact ⟨i, holdsAt_append_singleton.mpr (.inl hholds),
        (since_append_singleton_of_le hi).mpr hsince⟩
    · exact ⟨lines.length, holdsAt_append_singleton.mpr (.inr ⟨rfl, hhere⟩),
        (since_append_singleton_of_le (Nat.le_refl _)).mpr hsince⟩

end PlaceLaws

/-! ## The state of a scan, by places -/

/-- Line `i` lies in a section that cannot be reloaded. -/
def InSection (lines : List (Option Statement)) (i : Nat) : Prop :=
  Since (· = .sectionStart) (· = .sectionEnd) lines i

/-- The last strict-mode statement before line `i` switches strict mode on. -/
def InStrictMode (lines : List (Option Statement)) (i : Nat) : Prop :=
  Since (· = .strictOn) (fun statement => statement = .strictOn ∨ statement = .strictOff) lines i

/-- The nearest read before line `i` reads the key. -/
def FollowsRead (key : String) (lines : List (Option Statement)) (i : Nat) : Prop :=
  Since (·.readKey? = some key) (·.readKey? ≠ none) lines i

instance (lines : List (Option Statement)) (i : Nat) : Decidable (InSection lines i) :=
  inferInstanceAs (Decidable (Since _ _ lines i))

instance (lines : List (Option Statement)) (i : Nat) : Decidable (InStrictMode lines i) :=
  inferInstanceAs (Decidable (Since _ _ lines i))

instance (key : String) (lines : List (Option Statement)) (i : Nat) :
    Decidable (FollowsRead key lines i) :=
  inferInstanceAs (Decidable (Since _ _ lines i))

section State

variable (variant : Variant) (file : String) (lines : List (Option Statement))

theorem inSection_scanStatements :
    (scanStatements variant file lines).inSection = true ↔ InSection lines lines.length := by
  induction lines using List.reverseRecOn with
  | nil => exact iff_of_false Bool.false_ne_true not_since_zero
  | append_singleton lines line ih =>
    rw [scanStatements_append_singleton, ScanState.inSection_step, ih, List.length_append,
      List.length_singleton]
    unfold InSection
    rw [since_append_singleton]
    simp

theorem strict_scanStatements :
    (scanStatements variant file lines).strict = true ↔ InStrictMode lines lines.length := by
  induction lines using List.reverseRecOn with
  | nil => exact iff_of_false Bool.false_ne_true not_since_zero
  | append_singleton lines line ih =>
    rw [scanStatements_append_singleton, ScanState.strict_step, ih, List.length_append,
      List.length_singleton]
    unfold InStrictMode
    rw [since_append_singleton]
    simp only [Option.mem_def, exists_eq_right, and_or_left, exists_or]
    tauto

theorem lastKey_scanStatements (key : String) :
    (scanStatements variant file lines).lastKey = some key ↔
      FollowsRead key lines lines.length := by
  induction lines using List.reverseRecOn with
  | nil => exact iff_of_false (by rintro ⟨⟩) not_since_zero
  | append_singleton lines line ih =>
    rw [scanStatements_append_singleton, ScanState.lastKey_step, Option.or_eq_some_iff, ih,
      List.length_append, List.length_singleton]
    unfold FollowsRead
    rw [since_append_singleton]
    simp [Option.bind_eq_some_iff]

end State

/-! ## The facts about a key, by places -/

/-- The statement is a read of the key under the rule. -/
def Statement.IsRead (rule : Rule) (key : String) (statement : Statement) : Prop :=
  statement.rule = rule ∧ statement.readKey? = some key

instance (rule : Rule) (key : String) : DecidablePred (Statement.IsRead rule key) :=
  fun _ => inferInstanceAs (Decidable (_ ∧ _))

section Facts

variable (variant : Variant) (file key : String) (lines : List (Option Statement))

/-- The place of line `i` tells when a key that is read there takes effect. -/
def TellsReload (i : Nat) : Prop :=
  InSection lines i ∨ file ∈ variant.sessionFiles ∨ file ∈ variant.instantFiles

/-- When a key that is read on line `i` takes effect, if the place tells it. -/
def toldReload (i : Nat) : ReloadMode :=
  if InSection lines i then .notReloadable
  else if file ∈ variant.sessionFiles then .nextSession
  else .instant

/-- Line `i` is a required read of the key in a place that tells when the key
takes effect. -/
def SetsReload (i : Nat) : Prop :=
  HoldsAt (Statement.IsRead .required key) lines i ∧ TellsReload variant file lines i

/-- The last line that tells when the key takes effect decides; without such a
line it is not known. -/
def DecidesReload (mode : ReloadMode) : Prop :=
  (∀ i, ¬ SetsReload variant file key lines i) ∧ mode = .unset ∨
    ∃ i, SetsReload variant file key lines i ∧
      (∀ j, SetsReload variant file key lines j → j ≤ i) ∧ mode = toldReload variant file lines i

/-- The key is read in strict mode, where this matters, or a fail-fast statement
follows a read of it. -/
def IsFailFast : Prop :=
  (∃ i, HoldsAt (Statement.IsRead .required key) lines i ∧ InStrictMode lines i) ∨
    (variant.strictAppliesToOptional = true ∧
      ∃ i, HoldsAt (Statement.IsRead .optional key) lines i ∧ InStrictMode lines i) ∨
    ∃ i, HoldsAt (· = .failFast) lines i ∧ FollowsRead key lines i

end Facts

section FactLaws

variable {variant : Variant} {file key : String} {lines : List (Option Statement)}
  {line : Option Statement} {i : Nat}

theorem tellsReload_append_singleton (hi : i ≤ lines.length) :
    TellsReload variant file (lines ++ [line]) i ↔ TellsReload variant file lines i :=
  or_congr (since_append_singleton_of_le hi) Iff.rfl

theorem toldReload_append_singleton (hi : i ≤ lines.length) :
    toldReload variant file (lines ++ [line]) i = toldReload variant file lines i := by
  have hsection : InSection (lines ++ [line]) i ↔ InSection lines i :=
    since_append_singleton_of_le hi
  simp only [toldReload, hsection]

theorem setsReload_append_singleton :
    SetsReload variant file key (lines ++ [line]) i ↔
      SetsReload variant file key lines i ∨
        i = lines.length ∧ (∃ statement ∈ line, statement.IsRead .required key) ∧
          TellsReload variant file lines lines.length := by
  rw [SetsReload, holdsAt_append_singleton, or_and_right]
  refine or_congr ?_ ?_
  · refine and_congr_right fun hread => ?_
    exact tellsReload_append_singleton (Nat.le_of_lt hread.lt_length)
  · rw [and_assoc]
    refine and_congr_right fun hi => and_congr_right fun _ => ?_
    rw [hi]
    exact tellsReload_append_singleton (Nat.le_refl _)

theorem SetsReload.lt_length (hsets : SetsReload variant file key lines i) : i < lines.length :=
  hsets.1.lt_length

theorem isFailFast_append_singleton :
    IsFailFast variant key (lines ++ [line]) ↔
      IsFailFast variant key lines ∨
        (∃ statement ∈ line, statement.IsRead .required key) ∧ InStrictMode lines lines.length ∨
        (variant.strictAppliesToOptional = true ∧
          (∃ statement ∈ line, statement.IsRead .optional key) ∧
            InStrictMode lines lines.length) ∨
        line = some .failFast ∧ FollowsRead key lines lines.length := by
  unfold IsFailFast InStrictMode FollowsRead
  rw [exists_holdsAt_and_since_append_singleton, exists_holdsAt_and_since_append_singleton,
    exists_holdsAt_and_since_append_singleton, and_or_left]
  simp only [Option.mem_def, exists_eq_right]
  -- what the new line adds stands between what the earlier lines tell
  apply iff_of_eq
  ac_rfl

end FactLaws

section FactRuns

variable (variant : Variant) (file key : String) (lines : List (Option Statement))

theorem ScanState.reloadMode_eq (state : ScanState) (hfile : state.scan.file = file)
    (hsection : state.inSection = true ↔ InSection lines lines.length) :
    (TellsReload variant file lines lines.length →
        state.reloadMode variant = toldReload variant file lines lines.length) ∧
      (¬ TellsReload variant file lines lines.length → state.reloadMode variant = .unset) := by
  simp only [ScanState.reloadMode, toldReload, TellsReload, hfile, hsection]
  constructor
  · intro htells
    split_ifs <;> simp_all
  · intro htells
    simp_all

theorem ScanState.contribution_reload (state : ScanState) (line : Option Statement) :
    (state.contribution variant key line).reload =
      if ∃ statement ∈ line, statement.IsRead .required key then state.reloadMode variant
      else .unset := by
  rcases line with _ | statement
  · simp [contribution]
  · cases statement <;>
      simp [contribution, Statement.IsRead, Statement.rule, Statement.readKey?]
    all_goals split <;> rfl

theorem ScanState.contribution_failFast (state : ScanState) (line : Option Statement)
    (hkey : key ≠ "") :
    (state.contribution variant key line).failFast = true ↔
      (∃ statement ∈ line, statement.IsRead .required key) ∧ state.strict = true ∨
        (variant.strictAppliesToOptional = true ∧
          (∃ statement ∈ line, statement.IsRead .optional key) ∧ state.strict = true) ∨
        line = some .failFast ∧ state.lastKey = some key := by
  rcases line with _ | statement
  · simp [contribution]
  · cases statement with
    | optionalRead accessor name =>
      by_cases hname : name = key <;>
        simp [contribution, Statement.IsRead, Statement.rule, Statement.readKey?, hname, and_comm]
    | requiredRead accessor name arguments =>
      by_cases hname : name = key <;>
        simp [contribution, Statement.IsRead, Statement.rule, Statement.readKey?, hname]
    | failFast =>
      -- the empty key stands for no key, and is not the key in question
      cases hlast : state.lastKey with
      | none => simp [contribution, Statement.IsRead, Statement.rule, hlast, hkey.symm]
      | some name =>
        by_cases hname : name = key <;>
          simp [contribution, Statement.IsRead, Statement.rule, hlast, hname]
    | _ => simp [contribution, Statement.IsRead, Statement.rule]

/-- One more line, if it tells when the key takes effect, decides about it. -/
theorem decidesReload_append_singleton {lines : List (Option Statement)} {line : Option Statement}
    {mode further : ReloadMode} (hmode : DecidesReload variant file key lines mode)
    (htells : (∃ statement ∈ line, statement.IsRead .required key) →
      TellsReload variant file lines lines.length →
        further = toldReload variant file lines lines.length)
    (hsilent : ¬ ((∃ statement ∈ line, statement.IsRead .required key) ∧
      TellsReload variant file lines lines.length) → further = .unset) :
    DecidesReload variant file key (lines ++ [line])
      (if further = .unset then mode else further) := by
  by_cases hsets : (∃ statement ∈ line, statement.IsRead .required key) ∧
      TellsReload variant file lines lines.length
  · have hfurther := htells hsets.1 hsets.2
    have hset : further ≠ .unset := by
      rw [hfurther, toldReload]
      split_ifs <;> simp
    rw [if_neg hset]
    refine .inr ⟨lines.length, setsReload_append_singleton.mpr (.inr ⟨rfl, hsets⟩), ?_, ?_⟩
    · intro j hj
      have hlt := hj.lt_length
      simp only [List.length_append, List.length_singleton] at hlt
      omega
    · rw [hfurther, toldReload_append_singleton (Nat.le_refl _)]
  · have hsame : ∀ i, SetsReload variant file key (lines ++ [line]) i ↔
        SetsReload variant file key lines i := by
      intro i
      rw [setsReload_append_singleton]
      exact or_iff_left fun hlast => hsets hlast.2
    rw [if_pos (hsilent hsets)]
    rcases hmode with ⟨hnever, hunset⟩ | ⟨i, hi, hlast, htold⟩
    · exact .inl ⟨fun i hi => hnever i ((hsame i).mp hi), hunset⟩
    · refine .inr ⟨i, (hsame i).mpr hi, fun j hj => hlast j ((hsame j).mp hj), ?_⟩
      rw [htold, toldReload_append_singleton (Nat.le_of_lt hi.lt_length)]

theorem reload_scanStatements :
    DecidesReload variant file key lines
      ((scanStatements variant file lines).scan.factsOf key).reload := by
  induction lines using List.reverseRecOn with
  | nil =>
    refine .inl ⟨fun i hi => ?_, rfl⟩
    exact Nat.not_lt_zero i hi.lt_length
  | append_singleton lines line ih =>
    have hplace := ScanState.reloadMode_eq variant file lines (scanStatements variant file lines)
      (file_scanStatements variant file lines) (inSection_scanStatements variant file lines)
    rw [scanStatements_append_singleton, ScanState.factsOf_step, Facts.merge]
    refine decidesReload_append_singleton variant file key ih ?_ ?_
    · intro hread htells
      rw [ScanState.contribution_reload, if_pos hread, hplace.1 htells]
    · intro hsilent
      rw [ScanState.contribution_reload]
      split
      · next hread => exact hplace.2 fun htells => hsilent ⟨hread, htells⟩
      · rfl

theorem failFast_scanStatements (hkey : key ≠ "") :
    ((scanStatements variant file lines).scan.factsOf key).failFast = true ↔
      IsFailFast variant key lines := by
  induction lines using List.reverseRecOn with
  | nil =>
    refine iff_of_false Bool.false_ne_true ?_
    rintro (⟨i, hi, -⟩ | ⟨-, i, hi, -⟩ | ⟨i, hi, -⟩) <;> exact Nat.not_lt_zero i hi.lt_length
  | append_singleton lines line ih =>
    rw [scanStatements_append_singleton, ScanState.factsOf_step, Facts.merge, Bool.or_eq_true, ih,
      ScanState.contribution_failFast variant key _ line hkey, strict_scanStatements,
      lastKey_scanStatements, isFailFast_append_singleton]

end FactRuns

/-- What a scan knows about a key in the end, by the places of the statements.
The last required read in a section or in a listed file tells when the key takes
effect.  A failed read of the key aborts the operation if the key is read in
strict mode, where this matters, or if a fail-fast statement follows a read of
it. -/
theorem scanText_facts_meaning (variant : Variant) (file text key : String) (facts : Facts)
    (hkey : key ≠ "") (hfacts : (scanText variant file text).facts.find? key = some facts) :
    ((∀ i, ¬ SetsReload variant file key (statements variant text) i) ∧ facts.reload = .unset ∨
      ∃ i, SetsReload variant file key (statements variant text) i ∧
        (∀ j, SetsReload variant file key (statements variant text) j → j ≤ i) ∧
        facts.reload =
          if InSection (statements variant text) i then .notReloadable
          else if file ∈ variant.sessionFiles then .nextSession
          else .instant) ∧
    (facts.failFast = true ↔
      (∃ i, HoldsAt (Statement.IsRead .required key) (statements variant text) i ∧
        InStrictMode (statements variant text) i) ∨
      (variant.strictAppliesToOptional = true ∧
        ∃ i, HoldsAt (Statement.IsRead .optional key) (statements variant text) i ∧
          InStrictMode (statements variant text) i) ∨
      ∃ i, HoldsAt (· = .failFast) (statements variant text) i ∧
        FollowsRead key (statements variant text) i) := by
  have hknown : (scanStatements variant file (statements variant text)).scan.factsOf key =
      facts := by
    rw [FileScan.factsOf]
    exact congrArg (·.getD {}) hfacts
  refine ⟨?_, ?_⟩
  · rw [← hknown]
    exact reload_scanStatements variant file key (statements variant text)
  · rw [← hknown]
    exact failFast_scanStatements variant file key (statements variant text) hkey

/-- A key that is read in a section and once more behind it, where a fail-fast
statement follows. -/
def rereadSource : String :=
  "// == SECTION START: Cannot be reloaded ==\n" ++
    "CFG->GetBool(\"a\", 1);\n" ++
    "// == SECTION END ==\n" ++
    "CFG->GetBool(\"a\", 2);\n" ++
    "CFG->FailIfErrorLast();"

theorem scanText_facts_meaning_reread :
    (scanText Variant.config "src/config_game.cpp" rereadSource).facts.find? "a" =
        some ⟨.nextSession, true⟩ ∧
      DecidesReload Variant.config "src/config_game.cpp" "a"
        (statements Variant.config rereadSource) .nextSession ∧
      (true = true ↔ IsFailFast Variant.config "a" (statements Variant.config rereadSource)) := by
  have hfacts : (scanText Variant.config "src/config_game.cpp" rereadSource).facts.find? "a" =
      some ⟨.nextSession, true⟩ := by decide +kernel
  exact ⟨hfacts, scanText_facts_meaning _ _ _ _ _ (by decide) hfacts⟩

end ConfigReference
