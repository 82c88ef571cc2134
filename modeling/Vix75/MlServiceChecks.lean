import Vix75.ArtifactChecks
import Vix75.MlServiceCore
import Vix75.ProgramLocks

/-! What any number of training requests leave on disk: the two artifacts of one training. -/

namespace Vix75

open EffectProgram PyMath Training
open Artifacts (Files FileEffect ArtifactError saveArtifact loadArtifact)
open Inference (canonicalOrder inferenceMatrix)

namespace MlService

def Agrees (known files : Files) : Prop :=
  ∀ path bytes, known path = some bytes → files path = some bytes

theorem Agrees.update {known files : Files} (agrees : Agrees known files) (path : Artifacts.Path)
    {content left : Option Artifacts.Bytes}
    (told : ∀ bytes, content = some bytes → left = some bytes) :
    Agrees (Function.update known path content) (Function.update files path left) := by
  intro other bytes here
  by_cases same : other = path
  · subst same
    rw [Function.update_self] at here ⊢
    exact told bytes here
  · rw [Function.update_of_ne same] at here ⊢
    exact agrees other bytes here

theorem Agrees.forget {known files : Files} (agrees : Agrees known files) (path : Artifacts.Path)
    (left : Option Artifacts.Bytes) :
    Agrees (Function.update known path none) (Function.update files path left) :=
  agrees.update path nofun

structure Saved {Obj : Type} (store : Artifacts.Library Obj) (obj : Obj) (path : Artifacts.Path)
    (files : Files) : Prop where
  artifact : files path = some (store.dumps obj)
  checksum : files path.sidecar = some (store.encode
    (store.sha256 (store.dumps obj) ++ "  " ++ path.name ++ "\n"))

theorem Saved.agrees {Obj : Type} {store : Artifacts.Library Obj} {obj : Obj}
    {path : Artifacts.Path} {known files : Files} (saved : Saved store obj path known)
    (agrees : Agrees known files) : Saved store obj path files :=
  ⟨agrees _ _ saved.artifact, agrees _ _ saved.checksum⟩

def Reads : FileEffect → Prop
  | .joblibDump _ _ => False
  | .writeText _ _ => False
  | _ => True

def learn (encode : String → Artifacts.Bytes) (known : Files) :
    (effect : FileEffect) → Except MlError effect.Reply → Files
  | .joblibDump path bytes, .ok _ => Function.update known path (some bytes)
  | .joblibDump path _, .error _ => Function.update known path none
  | .writeText path text, .ok _ => Function.update known path (some (encode text))
  | .writeText path _, .error _ => Function.update known path none
  | _, _ => known

theorem learn_reads {encode : String → Artifacts.Bytes} {known : Files} {effect : FileEffect}
    {reply : Except MlError effect.Reply} (reads : Reads effect) :
    learn encode known effect reply = known := by
  cases effect <;> first | rfl | cases reads

theorem answer_reads {Obj : Type} {store : Artifacts.Library Obj} {files after : Files}
    {effect : FileEffect} {reply : Except ArtifactError effect.Reply} (reads : Reads effect)
    (answered : Artifacts.answer store files effect reply = some after) : after = files := by
  cases reply with
  | error error =>
      cases effect <;> cases error <;> simp_all [Artifacts.answer, Reads]
  | ok value =>
      cases effect <;> simp_all [Artifacts.answer, Reads]

section Reading

variable {Obj : Type} {store : Artifacts.Library Obj} {path : Artifacts.Path}

theorem verify_reads : (Artifacts.verifyArtifact store path).Uses Reads := by
  refine Prog.uses_bind (Prog.uses_perform trivial) fun found => ?_
  cases found with
  | false => trivial
  | true =>
      refine Prog.uses_bind (Prog.uses_perform trivial) fun manifest => ?_
      cases manifest with
      | false => trivial
      | true =>
          refine Prog.uses_bind (Prog.uses_bind (Prog.uses_perform trivial) fun text => ?_)
            fun expected => Prog.uses_bind (Prog.uses_bind (Prog.uses_perform trivial)
              fun _ => trivial) fun actual => ?_
          · cases Artifacts.expectedDigest store text <;> trivial
          · split <;> trivial

theorem load_reads : (loadArtifact store path).Uses Reads := by
  refine Prog.uses_bind verify_reads fun _ =>
    Prog.uses_bind (Prog.uses_perform trivial) fun bytes => ?_
  cases store.loads bytes <;> trivial

def Harmless : MlEffect → Prop
  | .file effect => Reads effect
  | .acquire => False
  | .release => False
  | .trainingFailed _ => False
  | _ => True

theorem load_harmless {F : Type} :
    ((loadArtifact store path).hoist (fileHoisting F)).Uses Harmless :=
  Prog.uses_hoist load_reads

end Reading

section Service

variable {F : Type} {service : Service F}

theorem answerFile_reads {files after : Files} {effect : FileEffect}
    {reply : Except MlError effect.Reply} (reads : Reads effect)
    (answered : service.answerFile files effect reply = some after) : after = files := by
  cases reply with
  | ok value =>
      have answered : Artifacts.answer service.regimeStore files effect (.ok value) =
          some after := by
        cases effect <;> exact answered
      exact answer_reads reads answered
  | error error =>
      cases error with
      | artifact error =>
          have answered : Artifacts.answer service.regimeStore files effect (.error error) =
              some after := by
            cases effect <;> exact answered
          exact answer_reads reads answered
      | torn content => cases effect <;> simp_all [Service.answerFile, Reads]
      | _ => cases effect <;> cases answered

theorem Agrees.answerFile {known files after : Files} (agrees : Agrees known files)
    {effect : FileEffect} {reply : Except MlError effect.Reply}
    (answered : service.answerFile files effect reply = some after) :
    Agrees (learn service.regimeStore.encode known effect reply) after := by
  have failed (path : Artifacts.Path) : Agrees (Function.update known path none) files := by
    have forgotten := agrees.forget path (files path)
    rwa [Function.update_eq_self] at forgotten
  by_cases reads : Reads effect
  · rw [learn_reads reads]
    obtain rfl := answerFile_reads reads answered
    exact agrees
  · cases effect with
    | joblibDump path bytes =>
        rcases reply with (_ | _ | (_ | _ | _ | _) | _ | _) | value
        all_goals cases answered
        · exact failed path
        · exact agrees.forget path _
        · exact agrees.update path fun _ same => same
    | writeText path text =>
        rcases reply with (_ | _ | (_ | _ | _ | _) | _ | _) | value
        all_goals cases answered
        · exact failed path
        · exact agrees.forget path _
        · exact agrees.update path fun _ same => same
    | _ => exact absurd trivial reads

/-- Where a request stands; a training knows what it has written since it took the lock, and whether
a failure of it was logged. -/
inductive Phase where
  | waiting
  | training (failed : Bool) (known : Files)

def trainLock : Lock MlWorld Phase Files Files where
  locked := MlWorld.lock
  resource := MlWorld.files
  holds
    | .waiting => none
    | .training _ known => some known
  describes := Agrees

def Phase.advance (service : Service F) :
    Phase → (effect : MlEffect) → Except MlError (effect.Reply F) → Phase
  | .waiting, .acquire, .ok true => .training false fun _ => none
  | .training failed known, .file effect, reply =>
      .training failed (learn service.regimeStore.encode known effect reply)
  | .training _ known, .trainingFailed _, _ => .training true known
  | .training _ _, .release, .ok _ => .waiting
  | phase, _, _ => phase

def Aside : MlEffect → Prop
  | .acquire => False
  | .release => False
  | .file _ => False
  | _ => True

theorem answer_aside {world after : MlWorld} {effect : MlEffect}
    {reply : Except MlError (effect.Reply F)}
    (answered : service.answer world effect reply = some after) (aside : Aside effect) :
    after = world := by
  rcases reply with (_ | _ | _ | _ | _) | value
  all_goals cases effect <;> first | exact False.elim aside | cases answered <;> rfl

theorem holds_aside {phase : Phase} {effect : MlEffect} {reply : Except MlError (effect.Reply F)}
    (aside : Aside effect) :
    trainLock.holds (phase.advance service effect reply) = trainLock.holds phase := by
  cases phase <;> cases effect <;> first | rfl | exact False.elim aside

theorem loadModels_harmless : service.loadModels.Uses Harmless :=
  Prog.uses_rescue (Prog.uses_bind load_harmless fun _ => Prog.uses_bind load_harmless
    fun _ => trivial) fun _ => trivial

theorem workerLoadModels_harmless (worker : Service.LoadedModels service) :
    (service.workerLoadModels worker).Uses Harmless :=
  Prog.uses_rescue (Prog.uses_bind load_harmless fun _ => Prog.uses_rescue
    (Prog.uses_bind load_harmless fun _ => trivial) fun _ => trivial) fun _ => trivial

/-- How the last training to take the lock has gone so far: `some false` once it has logged a
failure. -/
def lastTraining {Pid : Type} (last : Option Bool) :
    Label Pid MlEffect (MlEffect.Reply F) MlError Empty Request → Option Bool
  | .answer _ .acquire (.ok true) => some true
  | .answer _ (.trainingFailed _) _ => some false
  | _ => last

theorem harmless_turn {Pid : Type} {world after : MlWorld} (last : Option Bool) (pid : Pid)
    {effect : MlEffect} {reply : Except MlError (effect.Reply F)} (harmless : Harmless effect)
    (answered : service.answer world effect reply = some after) :
    after = world ∧ lastTraining last (.answer pid effect reply) = last ∧
      Phase.waiting.advance service effect reply = .waiting := by
  refine ⟨?_, ?_, ?_⟩
  · cases effect with
    | file effect =>
        obtain ⟨files, opened, rfl⟩ := Option.map_eq_some_iff.mp answered
        obtain rfl := answerFile_reads harmless opened
        rfl
    | acquire => exact False.elim harmless
    | release => exact False.elim harmless
    | trainingFailed error => exact False.elim harmless
    | _ => exact answer_aside answered trivial
  · cases effect <;> first | rfl | exact False.elim harmless
  · cases effect <;> first | rfl | exact False.elim harmless

theorem training_turn {Pid : Type} {world after : MlWorld} (pid : Pid) {failed : Bool}
    {known : Files} {effect : MlEffect} {reply : Except MlError (effect.Reply F)}
    (locked : world.lock = true) (acquires : effect ≠ .acquire) (releases : effect ≠ .release)
    (answered : service.answer world effect reply = some after) :
    after.lock = true ∧ ∃ failed' known',
      lastTraining (some !failed) (.answer pid effect reply) = some !failed' ∧
        (Phase.training failed known).advance service effect reply = .training failed' known' := by
  cases effect with
  | acquire => exact absurd rfl acquires
  | release => exact absurd rfl releases
  | file effect =>
      obtain ⟨files, opened, rfl⟩ := Option.map_eq_some_iff.mp answered
      exact ⟨locked, failed, _, rfl, rfl⟩
  | trainingFailed error =>
      obtain rfl := answer_aside answered trivial
      exact ⟨locked, true, known, rfl, rfl⟩
  | _ =>
      refine ⟨?_, failed, known, rfl, rfl⟩
      rw [answer_aside answered trivial, locked]

variable [Add F] [Sub F] [Mul F] [Div F] [PyMath F]

theorem predict_harmless (timeframe : String) :
    (service.predict timeframe).Uses Harmless := by
  refine Prog.uses_bind loadModels_harmless fun bundles =>
    Prog.uses_bind (Prog.uses_perform trivial) fun rows => ?_
  dsimp only
  split
  · trivial
  · exact Prog.uses_bind (Prog.uses_perform trivial) fun _ =>
      Prog.uses_bind (Prog.uses_ofExcept _) fun _ => Prog.uses_bind (Prog.uses_ofExcept _) fun _ =>
        Prog.uses_bind (Prog.uses_ofExcept _) fun _ => Prog.uses_bind (Prog.uses_ofExcept _)
          fun _ => trivial

variable [LE F] [DecidableLE F]

/-- Both artifacts on disk come from one training: it fitted the regime model to the matrix of some
rows, and the meta-label model to the posteriors that this model, as loaded back from its file,
gives. -/
def Service.OneTraining (service : Service F) (files : Files) : Prop :=
  ∃ rows priceRows hmmX regimeBundle loaded metaBundle,
    500 ≤ (fetchFeatureMatrix rows).length ∧
    buildRegimeMatrix service.numerics (fetchCloseAtr priceRows) = .ok hmmX ∧
    service.regimeBundle (hmmX.map Stamped.value) = .ok regimeBundle ∧
    Saved service.regimeStore regimeBundle regimePath files ∧
    service.regimeStore.loads (service.regimeStore.dumps regimeBundle) = some loaded ∧
    service.metaBundle (service.pairs loaded.model (fetchFeatureMatrix rows)
      (fetchCloseAtr priceRows) hmmX) = .ok metaBundle ∧
    Saved service.metaStore metaBundle metaPath files

theorem Service.OneTraining.agrees {known files : Files} (trained : service.OneTraining known)
    (agrees : Agrees known files) : service.OneTraining files := by
  obtain ⟨rows, priceRows, hmmX, regimeBundle, loaded, metaBundle, enough, built, fitted, regime,
    loads, labelled, meta_⟩ := trained
  exact ⟨rows, priceRows, hmmX, regimeBundle, loaded, metaBundle, enough, built, fitted,
    regime.agrees agrees, loads, labelled, meta_.agrees agrees⟩

def Phase.Allowed (service : Service F) : Phase → MlEffect → Prop
  | .waiting, .file effect => Reads effect
  | .waiting, .release => False
  | .waiting, .trainingFailed _ => False
  | .training _ _, .acquire => False
  | .training failed known, .release => failed = false → service.OneTraining known
  | _, _ => True

def custody (service : Service F) :
    Discipline MlEffect (MlEffect.Reply F) MlError Request Phase where
  initial := fun _ => .waiting
  allowed := Phase.Allowed service
  assumed := fun phase effect reply => trainLock.Believes service.system phase effect reply
  advance := Phase.advance service

theorem turns_of_allowed (world : MlWorld) (phase : Phase) (effect : MlEffect)
    (reply : Except MlError (effect.Reply F)) (after : MlWorld)
    (allowed : (custody service).allowed phase effect)
    (known : trainLock.Knows world (trainLock.holds phase))
    (answered : service.system.answer world effect reply = some after) :
    trainLock.Turn world (trainLock.holds phase)
      (trainLock.holds ((custody service).advance phase effect reply)) after := by
  by_cases aside : Aside effect
  · obtain rfl := answer_aside answered aside
    rw [show (custody service).advance phase effect reply = phase.advance service effect reply
      from rfl, holds_aside aside]
    cases phase with
    | waiting => exact .apart rfl rfl
    | training failed knowledge =>
        obtain ⟨locked, agrees⟩ := known knowledge rfl
        exact .works locked agrees
  · cases phase with
    | waiting =>
        cases effect with
        | acquire =>
            cases reply with
            | error error => cases answered
            | ok acquired =>
                obtain ⟨same, changed⟩ := Option.ite_none_right_eq_some.mp answered
                obtain rfl := Option.some.inj changed
                cases acquired with
                | true =>
                    have free : world.lock = false := by simpa using same
                    exact .takes free rfl nofun
                | false =>
                    have taken : world.lock = true := by simpa using same
                    exact .apart taken.symm rfl
        | release => exact absurd allowed id
        | file effect =>
            obtain ⟨files, opened, rfl⟩ := Option.map_eq_some_iff.mp answered
            obtain rfl := answerFile_reads allowed opened
            exact .apart rfl rfl
        | _ => exact absurd trivial aside
    | training failed knowledge =>
        cases effect with
        | acquire => exact absurd allowed id
        | release =>
            cases reply with
            | error error => cases answered
            | ok value => exact .leaves
        | file effect =>
            obtain ⟨files, opened, rfl⟩ := Option.map_eq_some_iff.mp answered
            obtain ⟨locked, agrees⟩ := known knowledge rfl
            exact .works locked (agrees.answerFile opened)
        | _ => exact absurd trivial aside

/-! What the programs do -/

theorem believed_file {failed : Bool} {known : Files} {effect : FileEffect}
    {reply : Except MlError effect.Reply}
    (given : (custody service).assumed (.training failed known) (.file effect) reply) :
    ∃ files, Agrees known files ∧ (service.answerFile files effect reply).isSome := by
  obtain ⟨world, knows, answered⟩ := given
  refine ⟨world.files, (knows known rfl).2, ?_⟩
  have answered : ((service.answerFile world.files effect reply).map fun files =>
      ({ world with files := files } : MlWorld)).isSome := answered
  rwa [Option.isSome_map] at answered

theorem believed_bytes {failed : Bool} {known : Files} {path : Artifacts.Path}
    {bytes opened : Artifacts.Bytes} {effect : FileEffect} {reply : Except MlError effect.Reply}
    (written : known path = some bytes)
    (reads : ∀ files, (service.answerFile files effect reply).isSome → files path = some opened)
    (given : (custody service).assumed (.training failed known) (.file effect) reply) :
    opened = bytes := by
  obtain ⟨files, agrees, answered⟩ := believed_file given
  exact Option.some.inj ((reads files answered).symm.trans (agrees _ _ written))

theorem sidecar_ne (path : Artifacts.Path) : path.sidecar ≠ path := by
  intro same
  have lengths := congrArg (fun other => other.name.length) same
  simp [Artifacts.Path.sidecar] at lengths

section Stores

variable {Obj : Type} {store : Artifacts.Library Obj} {path : Artifacts.Path}

theorem wp_reads {α : Type} {failed : Bool} {known : Files} {program : Artifacts.Program α}
    (reads : program.Uses Reads) :
    (custody service).wp (.training failed known) (program.hoist (fileHoisting F))
      (fun after _ => after = .training failed known)
      (fun after _ => after = .training failed known) := by
  have used : (program.hoist (fileHoisting F)).Uses fun effect =>
      ∃ access, effect = .file access ∧ Reads access :=
    Prog.uses_hoist (reads.mono fun effect read => ⟨effect, rfl, read⟩)
  refine Discipline.wp_of_uses used ?_
  rintro _ ⟨access, rfl, read⟩
  exact ⟨trivial, fun reply _ => congrArg (Phase.training failed) (learn_reads read)⟩

theorem load_custody {failed : Bool} {known : Files} {bytes : Artifacts.Bytes}
    (written : known path = some bytes) :
    (custody service).wp (.training failed known)
      ((loadArtifact store path).hoist (fileHoisting F))
      (fun after obj => after = .training failed known ∧ store.loads bytes = some obj)
      (fun after _ => after = .training failed known) := by
  rw [loadArtifact, Prog.hoist_bind]
  refine Discipline.wp_seq _ (wp_reads verify_reads) ?_
  rintro _ _ rfl
  refine Discipline.wp_hoist_perform_bind trivial (fun _ _ => rfl) fun opened given => ?_
  obtain rfl : opened = bytes := believed_bytes written (fun files answered => by
    by_contra different
    simp [Service.answerFile, Artifacts.answer, different] at answered) given
  rw [show (fileHoisting F).value (.joblibLoad path) opened = opened from rfl]
  cases found : store.loads opened with
  | some obj => exact ⟨rfl, rfl⟩
  | none => exact rfl

theorem digest_custody {failed : Bool} {known : Files} {bytes : Artifacts.Bytes}
    (written : known path = some bytes) :
    (custody service).wp (.training failed known)
      ((Artifacts.artifactDigest store path).hoist (fileHoisting F))
      (fun after digest => after = .training failed known ∧ digest = store.sha256 bytes)
      (fun after _ => after = .training failed known) := by
  refine Discipline.wp_hoist_perform_bind trivial (fun _ _ => rfl) fun opened given => ?_
  obtain rfl : opened = bytes := believed_bytes written (fun files answered => by
    by_contra different
    simp [Service.answerFile, Artifacts.answer, different] at answered) given
  exact ⟨rfl, rfl⟩

theorem save_custody {failed : Bool} {known : Files} {obj : Obj}
    (encodes : store.encode = service.regimeStore.encode) :
    (custody service).wp (.training failed known)
      ((saveArtifact store obj path).hoist (fileHoisting F))
      (fun after _ => ∃ written, after = .training failed written ∧
        Saved store obj path.joblib written ∧
        ∀ other, other ≠ path.joblib → other ≠ path.joblib.sidecar → written other = known other)
      (fun after _ => ∃ written, after = .training failed written) := by
  unfold saveArtifact
  refine Discipline.wp_hoist_perform_bind trivial (fun _ _ => ⟨known, rfl⟩) fun _ _ => ?_
  refine Discipline.wp_hoist_perform_bind trivial (fun _ _ => ⟨_, rfl⟩) fun _ _ => ?_
  rw [Prog.hoist_bind]
  refine Discipline.wp_seq _ (Discipline.wp_mono (digest_custody (Function.update_self ..))
    (fun _ _ held => held) fun _ _ held => ⟨_, held⟩) ?_
  rintro _ _ ⟨rfl, rfl⟩
  refine Discipline.wp_hoist_perform_bind trivial (fun _ _ => ⟨_, rfl⟩) fun _ _ => ?_
  refine ⟨Function.update (Function.update known path.joblib (some (store.dumps obj)))
    path.joblib.sidecar (some (service.regimeStore.encode (store.sha256 (store.dumps obj) ++ "  " ++
      path.joblib.name ++ "\n"))), rfl, ⟨?_, ?_⟩, fun other one two => ?_⟩
  · rw [Function.update_of_ne (sidecar_ne _).symm, Function.update_self]
  · rw [Function.update_self, encodes]
  · rw [Function.update_of_ne two, Function.update_of_ne one]

end Stores

theorem wp_compute {α : Type} {phase : Phase} (result : Except PyError α) :
    (custody service).wp phase (compute result : Program F α)
      (fun after value => after = phase ∧ result = .ok value) (fun after _ => after = phase) := by
  cases result with
  | ok value => exact ⟨rfl, rfl⟩
  | error error => exact rfl

theorem trainHmm_custody {failed : Bool} {known : Files} (features : List (RegimeRow F)) :
    (custody service).wp (.training failed known) (service.trainHmm features)
      (fun after _ => ∃ bundle written, after = .training failed written ∧
        service.regimeBundle features = .ok bundle ∧
        Saved service.regimeStore bundle regimePath written)
      (fun after _ => ∃ written, after = .training failed written) := by
  unfold Service.trainHmm
  refine Discipline.wp_seq _ (Discipline.wp_mono (wp_compute _) (fun _ _ held => held)
    fun _ _ same => ⟨_, same⟩) ?_
  rintro _ bundle ⟨rfl, fitted⟩
  refine Discipline.wp_seq _ (save_custody rfl) ?_
  rintro _ _ ⟨written, rfl, saved, _⟩
  exact ⟨bundle, written, rfl, fitted, saved⟩

theorem trainMetaLabel_custody {failed : Bool} {known : Files} (pairs : List (TrainingPair F)) :
    (custody service).wp (.training failed known) (service.trainMetaLabel pairs)
      (fun after _ => ∃ bundle written, after = .training failed written ∧
        service.metaBundle pairs = .ok bundle ∧ Saved service.metaStore bundle metaPath written ∧
        ∀ other, other ≠ metaPath → other ≠ metaPath.sidecar → written other = known other)
      (fun after _ => ∃ written, after = .training failed written) := by
  unfold Service.trainMetaLabel
  refine Discipline.wp_seq _ (Discipline.wp_mono (wp_compute _) (fun _ _ held => held)
    fun _ _ same => ⟨_, same⟩) ?_
  rintro _ bundle ⟨rfl, labelled⟩
  refine Discipline.wp_seq _ (save_custody rfl) ?_
  rintro _ _ ⟨written, rfl, saved, kept⟩
  exact ⟨bundle, written, rfl, labelled, saved, kept⟩

/-- A training that ends well leaves the artifacts of one training. -/
theorem trainSync_custody {failed : Bool} {known : Files} (timeframe : String) :
    (custody service).wp (.training failed known) (service.trainSync timeframe)
      (fun after _ => ∃ written, after = .training failed written ∧ service.OneTraining written)
      (fun after _ => ∃ written, after = .training failed written) := by
  unfold Service.trainSync
  refine Discipline.wp_perform_bind trivial (fun _ _ => ⟨_, rfl⟩) fun rows _ => ?_
  refine Discipline.wp_perform_bind trivial (fun _ _ => ⟨_, rfl⟩) fun priceRows _ => ?_
  change (custody service).wp (.training failed known) _ _ _
  split
  · exact ⟨known, rfl⟩
  rename_i enough
  refine Discipline.wp_seq _ (Discipline.wp_mono (wp_compute _) (fun _ _ held => held)
    fun _ _ same => ⟨_, same⟩) ?_
  rintro _ hmmX ⟨rfl, built⟩
  refine Discipline.wp_seq _ (trainHmm_custody _) ?_
  rintro _ _ ⟨regimeBundle, first, rfl, fitted, regime⟩
  refine Discipline.wp_seq _ (Discipline.wp_mono (load_custody regime.artifact)
    (fun _ _ held => held) fun _ _ same => ⟨_, same⟩) ?_
  rintro _ loaded ⟨rfl, loads⟩
  refine Discipline.wp_seq _ (trainMetaLabel_custody _) ?_
  rintro _ _ ⟨metaBundle, second, rfl, labelled, meta_, kept⟩
  refine ⟨second, rfl, rows, priceRows, hmmX, regimeBundle, loaded, metaBundle,
    Nat.le_of_not_lt enough, built, fitted, ⟨?_, ?_⟩, loads, labelled, meta_⟩
  · rw [kept regimePath (by decide) (by decide)]
    exact regime.artifact
  · rw [kept regimePath.sidecar (by decide) (by decide)]
    exact regime.checksum

theorem job_custody (timeframe : String) :
    (custody service).wp .waiting (service.job timeframe) (fun _ _ => True) (fun _ _ => True) := by
  refine Discipline.wp_perform_bind trivial (fun _ _ => trivial) fun acquired _ => ?_
  cases acquired with
  | false => exact Discipline.wp_perform.mpr ⟨trivial, fun _ _ => trivial, fun _ _ => trivial⟩
  | true =>
      -- The lock is released by a training that went well, or else has logged its failure.
      refine Discipline.wp_seq (fun after _ => ∃ failed written,
        after = .training failed written ∧ (failed = false → service.OneTraining written)) ?_ ?_
      · refine Discipline.wp_rescue.mpr (Discipline.wp_rescue.mpr (Discipline.wp_mono
          (trainSync_custody timeframe) ?_ ?_))
        · rintro _ _ ⟨written, rfl, trained⟩
          exact ⟨false, written, rfl, fun _ => trained⟩
        · rintro _ error ⟨written, rfl⟩
          refine Discipline.wp_perform.mpr ⟨trivial, fun _ _ => ⟨true, written, rfl, nofun⟩, ?_⟩
          rintro _ ⟨world, _, answered⟩
          cases answered
      · rintro _ _ ⟨failed, written, rfl, trained⟩
        exact Discipline.wp_perform.mpr ⟨trained, fun _ _ => trivial, fun _ _ => trivial⟩

theorem waiting_of_harmless {α : Type} {program : Program F α}
    (harmless : program.Uses Harmless) :
    (custody service).wp .waiting program (fun after _ => after = .waiting)
      (fun after _ => after = .waiting) := by
  refine Discipline.wp_of_uses harmless fun effect here => ?_
  cases effect <;> first | exact False.elim here | exact ⟨here, fun _ _ => rfl⟩

theorem train_custody (timeframe : String) :
    (custody service).wp .waiting (service.train timeframe) (fun _ _ => True) fun _ _ => True := by
  unfold Service.train
  split
  · trivial
  · exact Discipline.wp_perform_bind trivial (fun _ _ => trivial) fun _ _ =>
      Discipline.wp_perform_bind trivial (fun _ _ => trivial) fun _ _ => job_custody timeframe

theorem respond_custody {phase : Phase} (response : Response) :
    (custody service).wp phase (await (.respond response) : Program F Unit) (fun _ _ => True)
      (fun _ _ => True) := by
  cases phase <;>
    exact Discipline.wp_perform.mpr ⟨trivial, fun _ _ => trivial, fun _ _ => trivial⟩

theorem entry_custody (request : Request) :
    (custody service).wp ((custody service).initial request) (service.system.entry request)
      (fun after _ => (custody service).finished after) (custody service).failed := by
  cases request with
  | train timeframe =>
      exact Discipline.wp_rescue.mpr (Discipline.wp_mono (train_custody timeframe)
        (fun _ _ _ => trivial) fun _ _ _ => respond_custody _)
  | predict timeframe =>
      refine Discipline.wp_seq (fun after _ => after = .waiting) ?_ fun _ _ _ => respond_custody _
      refine Discipline.wp_rescue.mpr (Discipline.wp_mono (waiting_of_harmless
        (predict_harmless timeframe)) (fun _ _ held => held) fun _ _ same => same)
  | workerLoad =>
      exact Discipline.wp_seq _ (Discipline.wp_mono (waiting_of_harmless
        (workerLoadModels_harmless {})) (fun _ _ held => held) fun _ _ _ => trivial)
        fun _ _ _ => trivial

abbrev Trace (Pid F : Type) := List (Label Pid MlEffect (MlEffect.Reply F) MlError Empty Request)

structure Settled {Pid : Type} (service : Service F) (initial : Files) (last : Option Bool)
    (world : MlWorld) (phases : Pid → Option Phase) : Prop where
  exclusive : trainLock.Exclusive world phases
  running : ∀ pid failed known, phases pid = some (.training failed known) → last = some !failed
  untouched : last = none → world.lock = false ∧ world.files = initial
  trained : world.lock = false → last = some true → service.OneTraining world.files

theorem waiting_idle (failed : Bool) (known : Files) :
    some Phase.waiting ≠ some (.training failed known) := by simp

theorem gone_idle (failed : Bool) (known : Files) :
    none ≠ some (Phase.training failed known) := by simp

section Runs

variable {Pid : Type} [DecidableEq Pid] {initial : Files} {last : Option Bool}
variable {world after : MlWorld} {phases : Pid → Option Phase} {pid : Pid}

theorem Settled.idle (settled : Settled service initial last world phases) {next : Option Phase}
    (idle : ∀ failed known, next ≠ some (.training failed known))
    (exclusive : trainLock.Exclusive world (Function.update phases pid next)) :
    Settled service initial last world (Function.update phases pid next) := by
  refine ⟨exclusive, fun other failed known here => ?_, settled.untouched, settled.trained⟩
  by_cases same : other = pid
  · subst same
    rw [Function.update_self] at here
    exact absurd here (idle failed known)
  · rw [Function.update_of_ne same] at here
    exact settled.running other failed known here

theorem settled_busy {failed : Bool} {known : Files} (locked : world.lock = true)
    (exclusive : trainLock.Exclusive world
      (Function.update phases pid (some (.training failed known)))) :
    Settled service initial (some !failed) world
      (Function.update phases pid (some (.training failed known))) := by
  refine ⟨exclusive, fun other failed' known' here => ?_, fun none => ?_, fun free => ?_⟩
  · have holds : ((Function.update phases pid (some (.training failed known)) other).bind
        trainLock.holds).isSome := by
      rw [here]
      rfl
    have same : other = pid := exclusive.unique other pid holds (by rw [Function.update_self]; rfl)
    subst same
    rw [Function.update_self, Option.some.injEq, Phase.training.injEq] at here
    rw [here.1]
  · cases none
  · rw [locked] at free
    cases free

theorem settled_answer {phase : Phase} {effect : MlEffect}
    {reply : Except MlError (effect.Reply F)} (settled : Settled service initial last world phases)
    (current : phases pid = some phase) (allowed : phase.Allowed service effect)
    (answered : service.answer world effect reply = some after)
    (exclusive : trainLock.Exclusive after
      (Function.update phases pid (some (phase.advance service effect reply)))) :
    Settled service initial (lastTraining last (.answer pid effect reply)) after
      (Function.update phases pid (some (phase.advance service effect reply))) := by
  cases phase with
  | waiting =>
      by_cases harmless : Harmless effect
      · obtain ⟨rfl, recorded, still⟩ := harmless_turn last pid harmless answered
        rw [still] at exclusive ⊢
        rw [recorded]
        exact settled.idle waiting_idle exclusive
      · cases effect with
        | acquire =>
            cases reply with
            | error error => cases answered
            | ok acquired =>
                obtain ⟨same, changed⟩ := Option.ite_none_right_eq_some.mp answered
                obtain rfl := Option.some.inj changed
                cases acquired with
                | true => exact settled_busy rfl exclusive
                | false =>
                    have taken : world.lock = true := by simpa using same
                    have still : ({ world with lock := true } : MlWorld) = world := by rw [← taken]
                    rw [still] at exclusive ⊢
                    exact settled.idle waiting_idle exclusive
        | release => exact absurd allowed id
        | trainingFailed error => exact absurd allowed id
        | file effect => exact absurd allowed harmless
        | _ => exact absurd trivial harmless
  | training failed known =>
      have knows := settled.exclusive.knows pid
      rw [current] at knows
      obtain ⟨locked, agrees⟩ := knows known rfl
      obtain rfl := settled.running pid failed known current
      by_cases acquires : effect = .acquire
      · subst acquires
        exact absurd allowed id
      by_cases releases : effect = .release
      · subst releases
        cases reply with
        | error error => cases answered
        | ok value =>
            obtain ⟨_, changed⟩ := Option.ite_none_right_eq_some.mp answered
            obtain rfl := Option.some.inj changed
            refine ⟨exclusive, fun other failed' known' here => ?_, fun none => ?_,
              fun _ fine => ?_⟩
            · by_cases same : other = pid
              · subst same
                rw [Function.update_self] at here
                cases here
              · rw [Function.update_of_ne same] at here
                exact settled.running other failed' known' here
            · cases none
            · have fine : (some !failed) = some true := fine
              exact (allowed (by simpa using fine)).agrees agrees
      · obtain ⟨locked, failed', known', recorded, goes⟩ :=
          training_turn pid locked acquires releases answered
        rw [goes] at exclusive ⊢
        rw [recorded]
        exact settled_busy locked exclusive

theorem settled_moves {label : Label Pid MlEffect (MlEffect.Reply F) MlError Empty Request}
    (settled : Settled service initial last world phases)
    (moved : (custody service).Moves service.system world phases label after) :
    Settled service initial (lastTraining last label) after
      ((custody service).track phases label) := by
  have exclusive := settled.exclusive.moves (fun _ => rfl) turns_of_allowed
    (fun _ event => nomatch event) moved
  cases moved with
  | start pid request idle => exact settled.idle waiting_idle exclusive
  | finish pid phase current finished => exact settled.idle gone_idle exclusive
  | fail pid phase error current failed => exact settled.idle gone_idle exclusive
  | crash pid phase current => exact settled.idle gone_idle exclusive
  | environment event => exact nomatch event
  | answer pid phase effect reply after current allowed answered =>
      rw [Discipline.track, current, Option.map_some] at exclusive ⊢
      exact settled_answer settled current allowed answered exclusive

/-- However many training requests and readers overlap and whatever fails, the artifacts on disk are
those of one training whenever the lock is free and its last holder has logged no failure; and they
are untouched before anyone takes the lock. -/
theorem trainings_serialised {files : Files} {trace : Trace Pid F}
    {after : Config Pid MlEffect (MlEffect.Reply F) MlError MlWorld}
    (ran : service.system.run ⟨{ files := files }, fun _ => none⟩ trace = some after) :
    (trace.foldl lastTraining none = none → after.world.files = files) ∧
      (trace.foldl lastTraining none = some true → after.world.lock = false →
        service.OneTraining after.world.files) := by
  have settled : Settled service files (trace.foldl lastTraining none) after.world
      ((custody service).trackAll (fun _ => none) trace) :=
    Lock.run_recorded entry_custody (fun _ _ _ believed => believed) (fun _ => trivial)
      (fun _ _ _ held => held.exclusive) (fun _ _ _ _ _ => settled_moves)
      (Discipline.matches_initial _)
      ⟨Lock.exclusive_idle _, by simp, fun _ => ⟨rfl, rfl⟩, by simp⟩ ran
  exact ⟨fun none => (settled.untouched none).2, fun fine free => settled.trained free fine⟩

end Runs

end Service

namespace Sample

def timeSeriesSplit (rows : ℕ) : Except PyError (List (List ℕ × List ℕ)) :=
  if rows < 6 then
    .error (.valueError ("Cannot have number of folds=6 greater than the number of samples=" ++
      toString rows ++ "."))
  else .ok ((List.range 5).map fun fold =>
    let start := rows - (5 - fold) * (rows / 6)
    (List.range start, List.range' start (rows / 6)))

def evenLabels : MetaLibrary ℚ where
  Classifier := Unit
  fit := fun _ => .ok ()
  predictProba := fun _ _ => .ok [1 / 3, 1 / 3, 1 / 3]
  logLoss := fun _ _ => .ok (1099 / 1000)
  splits := timeSeriesSplit
  uniqueText := fun labels => toString labels

def meanReturns (_ : Unit) (state : Fin 3) : PyFloat := .finite state.val

def regimeBundle : RegimeBundle Unit := ⟨(), canonicalOrder (meanReturns ()), regimeFeatures,
  regimePath.text⟩

def metaBundle : MetaBundle Unit ℚ :=
  ⟨(), classes, metaFeatureNames, List.replicate 5 (1099 / 1000), verticalBars, 2⟩

def service : Service ℚ where
  symbol := "V75"
  numerics := Vix75.Sample.approximate
  timeOfDay := fun _ => (0, 1)
  hmm := Vix75.Sample.uniformRegimes
  meanReturns := meanReturns
  lightgbm := evenLabels
  regimeStore := { Artifacts.Sample.ascii with
    dumps := fun _ => [1]
    loads := fun bytes => if bytes = [1] then some regimeBundle else none }
  metaDumps := fun _ => [2]
  metaLoads := fun bytes => if bytes = [2] then some metaBundle else none
  floatOf := .finite
  isoOf := toString

def flatRows : List (Snapshot ℚ) := (List.range 500).map Vix75.Sample.flatRow

def recentRows : List (Snapshot ℚ) := flatRows.drop 370

def regimeChecksum : String := Artifacts.Sample.firstDigest ++ "  regime_hmm.joblib\n"

def metaChecksum : String := Artifacts.Sample.secondDigest ++ "  meta_label_lgbm.joblib\n"

def queued (pid : ℕ) (timeframe : String) : Trace ℕ ℚ :=
  [.start pid (.train timeframe), .answer pid .uuid4 (.ok "c"),
    .answer pid (.respond (.queued timeframe [regimePath.text, metaPath.text] "c")) (.ok ())]

def savesRegime (pid : ℕ) : Trace ℕ ℚ :=
  [.answer pid .acquire (.ok true),
    .answer pid (.features "V75" "M15") (.ok flatRows),
    .answer pid (.features "V75" "M15") (.ok recentRows),
    .answer pid (.file (.mkdir "models")) (.ok ()),
    .answer pid (.file (.joblibDump regimePath [1])) (.ok ()),
    .answer pid (.file (.readBytes regimePath)) (.ok [1]),
    .answer pid (.file (.writeText regimePath.sidecar regimeChecksum)) (.ok ())]

def savesMeta (pid : ℕ) : Trace ℕ ℚ :=
  [.answer pid (.file (.pathExists regimePath)) (.ok true),
    .answer pid (.file (.pathExists regimePath.sidecar)) (.ok true),
    .answer pid (.file (.readText regimePath.sidecar)) (.ok regimeChecksum),
    .answer pid (.file (.readBytes regimePath)) (.ok [1]),
    .answer pid (.file (.joblibLoad regimePath)) (.ok [1]),
    .answer pid (.file (.mkdir "models")) (.ok ()),
    .answer pid (.file (.joblibDump metaPath [2])) (.ok ()),
    .answer pid (.file (.readBytes metaPath)) (.ok [2]),
    .answer pid (.file (.writeText metaPath.sidecar metaChecksum)) (.ok ()),
    .answer pid .release (.ok ()), .finish pid]

def overlapping : Trace ℕ ℚ :=
  queued 0 "M15" ++ savesRegime 0 ++ queued 1 "H1" ++
    [.answer 1 .acquire (.ok false), .answer 1 .trainingInProgress (.ok ()), .finish 1] ++
    savesMeta 0

end Sample

theorem trainings_serialised_overlapping : ∃ after,
    Sample.service.system.run ⟨{ files := fun _ => none }, fun _ => none⟩ Sample.overlapping =
      some after ∧ Sample.service.OneTraining after.world.files := by
  have runs : ((Sample.service.system.run ⟨{ files := fun _ => none }, fun _ => none⟩
      Sample.overlapping).map fun after => after.world.lock) = some false := by
    decide +kernel
  obtain ⟨after, ran, free⟩ := Option.map_eq_some_iff.mp runs
  exact ⟨after, ran, (trainings_serialised ran).2 rfl free⟩

end MlService

end Vix75
