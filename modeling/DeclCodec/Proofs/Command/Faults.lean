import DeclCodec.Proofs.Command.Writing

/-!
# How generating ends

The command goes through the directories up to the first fault. A fault that it meets
is one of a file or one of the texts that are read in the directory. So it ends with
a report on a fault of the declarations, unless a tag in these texts is broken.
-/

namespace DeclCodec

namespace Workspace

/-- The fault of the declarations that is met in a directory is one of the texts that are read
there. -/
theorem faultOfTexts_of_generateDirectory {workspace later : Workspace}
    {options : GenerateOptions} {now : Time} {directory : String} {fault : Fault}
    (failed : workspace.generateDirectory options now directory =
      (later, some (.declarations fault))) :
    ∃ sources, workspace.files.unitTexts directory = .ok sources ∧
      FaultOfTexts options.settings sources fault := by
  unfold generateDirectory at failed
  split at failed
  · next loadFault notLoaded =>
    cases failed
    obtain ⟨sources, read, refused⟩ := Files.parseAll_of_loadUnits_error notLoaded
    exact ⟨sources, read, UnitText.faults_parseAll _ sources fault refused⟩
  next units loaded =>
  obtain ⟨sources, read, parsed⟩ := Files.loadUnits_eq_ok.1 loaded
  have ofUnits (isFault : FaultOfUnits options.settings units fault) :
      FaultOfTexts options.settings sources fault := isFault.of_parseAll parsed
  refine ⟨sources, read, ofUnits ?_⟩
  split at failed
  · next groupFault notGrouped =>
    cases failed
    exact faults_groupUnits _ units _ notGrouped
  next groups grouped =>
  split at failed
  · cases failed
  next notices stale selected =>
  dsimp only at failed
  split at failed
  · cases failed
  split at failed
  · next runFault notGenerated =>
    cases failed
    have among : stale ⊆ units :=
      List.Subset.trans (GenerateOptions.subset_of_select (congrArg Prod.snd selected))
        (subset_of_groupUnits grouped)
    exact (faults_generate _ stale _ notGenerated).mono among
  · cases failed

/-- The fault that ends a run over directories is met in one of them, after the directories before
it went well. -/
theorem exists_of_generateAll {workspace later : Workspace} {options : GenerateOptions}
    {now : Time} {directories : List String} {fault : SourceFault}
    (failed : workspace.generateAll options now directories = (later, some fault)) :
    ∃ before directory after middle, directories = before ++ directory :: after ∧
      workspace.generateAll options now before = (middle, none) ∧
      middle.generateDirectory options now directory = (later, some fault) := by
  induction directories generalizing workspace with
  | nil => cases failed
  | cons first rest inductionHypothesis =>
    rw [generateAll_cons] at failed
    rcases met : workspace.generateDirectory options now first with ⟨next, _ | firstFault⟩
    · rw [met] at failed
      dsimp only at failed
      obtain ⟨before, directory, after, middle, split, wentWell, blame⟩ :=
        inductionHypothesis failed
      refine ⟨first :: before, directory, after, middle, by rw [split]; rfl, ?_, blame⟩
      rw [generateAll_cons, met]
      exact wentWell
    · rw [met] at failed
      cases failed
      exact ⟨[], first, rest, workspace, rfl, rfl, met⟩

end Workspace

/-- Does the command meet the fault of a tag? It is a tag in one of the texts that are read in one
of its directories, after the directories before went well. -/
def MeetsTagFault (files : Files) (now : Time) (words : List String) (fault : Fault) : Prop :=
  ∃ options before directory after workspace sources,
    GenerateOptions.ofWords? words = some options ∧
    options.directories = before ++ directory :: after ∧
    (⟨files, "", []⟩ : Workspace).generateAll options now before = (workspace, none) ∧
    workspace.files.unitTexts directory = .ok sources ∧
    ∃ source ∈ sources, source.TagFault options.settings fault

/-- How the command ends: it is done; it does not understand its command line; it reports a fault of
the declarations; it breaks off because of a file; or it breaks off because of a tag. -/
theorem ending_runGenerate (files : Files) (now : Time) (words : List String) :
    (runGenerate files now words).ending = .done ∨
      (runGenerate files now words).ending = .misused ∨
      (∃ fault, (runGenerate files now words).ending = .refused fault) ∨
      (∃ fault, (runGenerate files now words).ending = .brokenOff (.file fault)) ∨
      ∃ fault, (runGenerate files now words).ending = .brokenOff (.declarations fault) ∧
        MeetsTagFault files now words fault := by
  unfold runGenerate
  split
  · exact .inr (.inl rfl)
  next options understood =>
  split
  · rcases run : (⟨files, "", []⟩ : Workspace).generateAll options now options.directories with
      ⟨later, _ | fault | fault⟩
    · exact .inl rfl
    · exact .inr (.inr (.inr (.inl ⟨fault, rfl⟩)))
    · by_cases reported : fault.isGeneration = true
      · refine .inr (.inr (.inl ⟨fault, ?_⟩))
        exact if_pos reported
      · obtain ⟨before, directory, after, middle, split, wentWell, met⟩ :=
          Workspace.exists_of_generateAll run
        obtain ⟨sources, read, isFault⟩ := Workspace.faultOfTexts_of_generateDirectory met
        refine .inr (.inr (.inr (.inr ⟨fault, ?_, options, before, directory, after, middle,
          sources, understood, split, wentWell, read, isFault.resolve_left reported⟩)))
        exact if_neg reported
  · exact .inr (.inl rfl)

/-- Failures of generation are faults of the declarations, but for broken tags. A unit's text is
read, or it is refused with the name of the unit and the place where it is wrong, or else for the
first of its quoted tags that is no JSON string. Reading texts and generating what they declare
succeeds, or fails with a fault of the declarations, or else with the fault of a tag in one of the
texts; nothing that is looked up on the way is missing. The command reports every fault of the
declarations, and apart from files it breaks off for a tag only. -/
theorem generation_faults (settings : Settings) (sources : List UnitText) (files : Files)
    (now : Time) (words : List String) :
    (∀ source : UnitText, (∃ unit, source.parse = .ok unit) ∨
      (∃ position, source.parse = .error (.invalidDeclaration source.name position)) ∨
      ∃ cause, source.parse = .error (.invalidTagLiteral cause) ∧
        source.tagFault? = some cause) ∧
    ((∃ packages, (UnitText.parseAll sources >>= fun units =>
        (generate settings units).result) = .ok packages) ∨
      ∃ fault, (UnitText.parseAll sources >>= fun units =>
          (generate settings units).result) = .error fault ∧
        (fault.isGeneration = true ∨ ∃ source ∈ sources, source.TagFault settings fault)) ∧
    (∀ name units package, Package.Gathers name settings units package →
      package.LookupsSucceed) ∧
    ((runGenerate files now words).ending = .done ∨
      (runGenerate files now words).ending = .misused ∨
      (∃ fault, (runGenerate files now words).ending = .refused fault) ∨
      (∃ fault, (runGenerate files now words).ending = .brokenOff (.file fault)) ∨
      ∃ fault, (runGenerate files now words).ending = .brokenOff (.declarations fault) ∧
        MeetsTagFault files now words fault) := by
  refine ⟨?_, ?_, fun _ _ _ gathers => gathers.gathered.lookupsSucceed,
    ending_runGenerate files now words⟩
  · intro source
    rcases source.parse_cases with ⟨read, _⟩ | refused
    · exact .inl read
    · exact .inr refused
  · cases outcome : UnitText.parseAll sources >>= fun units => (generate settings units).result with
    | ok packages => exact .inl ⟨packages, rfl⟩
    | error fault =>
      exact .inr ⟨fault, rfl, faults_parseAll_generate settings sources fault outcome⟩

/-- A text with a quoted tag that is no JSON string. -/
def brokenLiteral : UnitText := ⟨"<string>", "p", "type T struct \x7b\n A int \"\\q\"\n\x7d"⟩

/-- A text with a tag in which a value is no JSON string. -/
def brokenValue : UnitText := ⟨"<string>", "p", "type T struct \x7b\n A int `json:\"\\q\"`\n\x7d"⟩

/-- Does a text fail with a fault that is none of the declarations? -/
def UnitText.FailsOtherwise (source : UnitText) : Prop :=
  ∃ fault, (UnitText.parseAll [source] >>= fun units => (generate {} units).result) =
    .error fault ∧ fault.isGeneration = false

/-- Each of them does. -/
theorem not_isGeneration_brokenTag :
    brokenLiteral.FailsOtherwise ∧ brokenValue.FailsOtherwise := by
  have foreign : ∀ source ∈ [brokenLiteral, brokenValue],
      (match UnitText.parseAll [source] >>= fun units => (generate {} units).result with
        | .ok _ => true
        | .error fault => fault.isGeneration) = false := by
    decide +kernel
  have otherwise : ∀ source ∈ [brokenLiteral, brokenValue], source.FailsOtherwise := by
    intro source member
    have isForeign := foreign source member
    split at isForeign
    · cases isForeign
    · next fault failed => exact ⟨fault, failed, isForeign⟩
  exact ⟨otherwise _ List.mem_cons_self,
    otherwise _ (List.mem_cons_of_mem _ (List.mem_singleton_self _))⟩

end DeclCodec
