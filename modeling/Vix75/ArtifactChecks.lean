import Vix75.Artifacts
import Vix75.RedactionChecks

/-! What is deserialised against what was verified, over all interleavings of loads, saves and
other writers. -/

namespace Vix75

open EffectProgram Redaction

namespace Artifacts

inductive Stage where
  | saving
  | checking
  | expecting (expected : String)
  | hashed (expected : String) (bytes : Bytes)
  | deserialised
  | faulted
deriving DecidableEq

section History

variable {Obj : Type} (library : Library Obj)

/-- A failed access is a fault of the call, unless it saves. -/
def Stage.advance (stage : Stage) (effect : FileEffect)
    (reply : Except ArtifactError effect.Reply) : Stage :=
  match stage, effect, reply with
  | .saving, _, _ => .saving
  | .deserialised, _, _ => .deserialised
  | _, _, .error _ => .faulted
  | .checking, .readText _, .ok text =>
      match expectedDigest library text with
      | some expected => .expecting expected
      | none => .checking
  | .expecting expected, .readBytes _, .ok bytes => .hashed expected bytes
  | .hashed _ _, .joblibLoad _, .ok _ => .deserialised
  | stage, _, .ok _ => stage

def Stage.Fails : Stage → ArtifactError → Prop
  | .saving, _ => True
  | .deserialised, _ => True
  | .faulted, error => ∀ message, error ≠ .integrity message
  | _, error => ∃ message, error = .integrity message

def history : Discipline FileEffect FileEffect.Reply ArtifactError (Request Obj) Stage where
  initial
    | .load _ => .checking
    | .save _ _ => .saving
  allowed stage effect := ∀ path, effect = .joblibLoad path →
    ∃ expected bytes, stage = .hashed expected bytes ∧ library.sha256 bytes = expected
  assumed _ _ reply := ∀ message, reply ≠ .error (.integrity message)
  advance := Stage.advance library
  finished stage := stage = .saving ∨ stage = .deserialised
  failed := Stage.Fails

variable {library}

theorem answer_faults {files after : Files} {effect : FileEffect}
    {reply : Except ArtifactError effect.Reply}
    (answered : answer library files effect reply = some after) (message : String) :
    reply ≠ .error (.integrity message) := by
  rintro rfl
  cases effect <;> cases answered

theorem fault {effect : FileEffect} {error : ArtifactError}
    (given : ∀ message, (.error error : Except ArtifactError effect.Reply) ≠
      .error (.integrity message)) : Stage.Fails .faulted error :=
  fun message same => given message (congrArg Except.error same)

theorem digest_follows (path : Path) (expected : String) :
    (history library).wp (.expecting expected) (artifactDigest library path)
      (fun after digest => ∃ bytes, after = .hashed expected bytes ∧ library.sha256 bytes = digest)
      (history library).failed := by
  refine Discipline.wp_perform_bind (fun _ same => by cases same) (fun _ given => fault given) ?_
  intro bytes _
  exact ⟨bytes, rfl, rfl⟩

theorem manifest_follows (sidecar : Path) :
    (history library).wp .checking (readExpectedDigest library sidecar)
      (fun after expected => after = .expecting expected) (history library).failed := by
  refine Discipline.wp_perform_bind (fun _ same => by cases same) (fun _ given => fault given) ?_
  intro text _
  have advanced : (history library).advance .checking (.readText sidecar) (.ok text) =
      match expectedDigest library text with
      | some expected => .expecting expected
      | none => .checking := rfl
  rw [advanced]
  cases expectedDigest library text with
  | none => exact ⟨_, rfl⟩
  | some expected => rfl

theorem verify_follows (target : Path) :
    (history library).wp .checking (verifyArtifact library target)
      (fun after _ => ∃ expected bytes, after = .hashed expected bytes ∧
        library.sha256 bytes = expected) (history library).failed := by
  unfold verifyArtifact
  refine Discipline.wp_perform_bind (fun _ same => by cases same) (fun _ given => fault given) ?_
  intro found _
  cases found with
  | false => exact ⟨_, rfl⟩
  | true =>
      refine Discipline.wp_perform_bind (fun _ same => by cases same)
        (fun _ given => fault given) ?_
      intro manifest _
      cases manifest with
      | false => exact ⟨_, rfl⟩
      | true =>
          refine Discipline.wp_seq (fun after expected => after = .expecting expected)
            (manifest_follows target.sidecar) ?_
          rintro _ expected rfl
          refine Discipline.wp_seq _ (digest_follows target expected) ?_
          rintro _ actual ⟨bytes, rfl, rfl⟩
          split
          · rename_i same
            exact ⟨expected, bytes, rfl, same.symm⟩
          · exact ⟨_, rfl⟩

theorem load_follows (path : Path) :
    (history library).wp .checking (entry library (.load path))
      (fun after _ => (history library).finished after) (history library).failed := by
  rw [entry, Discipline.wp_bind]
  refine Discipline.wp_seq _ (verify_follows path) ?_
  rintro _ _ ⟨expected, bytes, rfl, digest⟩
  refine Discipline.wp_perform_bind (fun _ _ => ⟨expected, bytes, rfl, digest⟩)
    (fun _ given => fault given) ?_
  intro loaded _
  cases library.loads loaded with
  | none => trivial
  | some obj => exact .inr rfl

theorem save_follows (obj : Obj) (path : Path) :
    (history library).wp .saving (entry library (.save obj path))
      (fun after _ => (history library).finished after) (history library).failed := by
  have awaits (effect : FileEffect) (writes : ∀ path, effect ≠ .joblibLoad path) :
      (await effect).Uses fun effect => ∀ path, effect ≠ .joblibLoad path :=
    Prog.uses_perform writes
  have used : (entry library (.save obj path)).Uses fun effect =>
      ∀ path, effect ≠ .joblibLoad path := by
    refine Prog.uses_bind ?_ fun _ => trivial
    refine Prog.uses_bind (awaits _ nofun) fun _ => Prog.uses_bind (awaits _ nofun) fun _ =>
      Prog.uses_bind (Prog.uses_bind (awaits _ nofun) fun _ => trivial) fun _ =>
        Prog.uses_bind (awaits _ nofun) fun _ => trivial
  refine Discipline.wp_mono (Discipline.wp_of_uses used fun effect writes => ?_)
    (fun _ _ same => .inl same) fun _ _ same => ?_
  · exact ⟨fun path same => absurd same (writes path), fun _ _ => rfl⟩
  · rw [same]
    trivial

theorem entry_follows (request : Request Obj) :
    (history library).wp ((history library).initial request) (entry library request)
      (fun after _ => (history library).finished after) (history library).failed := by
  cases request with
  | load path => exact load_follows path
  | save obj path => exact save_follows obj path

section Runs

variable {Pid : Type}

abbrev Trace (Pid Obj : Type) :=
  List (Label Pid FileEffect FileEffect.Reply ArtifactError Tampering (Request Obj))

/-- What is deserialised has the digest that the call read, and a load that ends without
deserialising raises an integrity error. -/
def Verified (library : Library Obj) (stages : Pid → Option Stage) :
    Label Pid FileEffect FileEffect.Reply ArtifactError Tampering (Request Obj) → Prop
  | .answer pid (.joblibLoad _) (.ok bytes) => ∃ expected hashed,
      stages pid = some (.hashed expected hashed) ∧ library.sha256 bytes = expected
  | .finish pid => ∀ stage, stages pid = some stage → stage = .saving ∨ stage = .deserialised
  | .fail pid error => ∀ stage, stages pid = some stage → stage = .saving ∨ stage = .deserialised ∨
      ∃ message, error = .integrity message
  | _ => True

/-- The file still holds what was hashed when it is opened again, and no load ends on a failed
access. -/
def Intact (stages : Pid → Option Stage) :
    Label Pid FileEffect FileEffect.Reply ArtifactError Tampering (Request Obj) → Prop
  | .answer pid (.joblibLoad _) (.ok bytes) =>
      ∀ expected hashed, stages pid = some (.hashed expected hashed) → bytes = hashed
  | .fail pid _ => stages pid ≠ some .faulted
  | _ => True

theorem verified_iff_intact (injective : Function.Injective library.sha256) (files : Files)
    (stages : Pid → Option Stage)
    (label : Label Pid FileEffect FileEffect.Reply ArtifactError Tampering (Request Obj))
    (after : Files) (moves : (history library).Moves (system library) files stages label after) :
    Verified library stages label ↔ Intact stages label := by
  cases moves with
  | start pid request idle => exact Iff.rfl
  | crash pid stage current => exact Iff.rfl
  | environment event after happened => exact Iff.rfl
  | finish pid stage current finished =>
      refine iff_of_true (fun other same => ?_) trivial
      obtain rfl := Option.some.inj (current.symm.trans same)
      exact finished
  | fail pid stage error current failed =>
      change (∀ other, stages pid = some other → _) ↔ stages pid ≠ some .faulted
      simp only [current, Option.some.injEq, forall_eq']
      change Stage.Fails stage error at failed
      cases stage with
      | faulted =>
          refine iff_of_false ?_ (not_not_intro rfl)
          rintro (saving | deserialised | ⟨message, same⟩)
          · cases saving
          · cases deserialised
          · exact failed message same
      | saving => exact iff_of_true (.inl rfl) nofun
      | deserialised => exact iff_of_true (.inr (.inl rfl)) nofun
      | checking => exact iff_of_true (.inr (.inr failed)) nofun
      | expecting expected => exact iff_of_true (.inr (.inr failed)) nofun
      | hashed expected bytes => exact iff_of_true (.inr (.inr failed)) nofun
  | answer pid stage effect reply after current allowed answered =>
      cases effect with
      | joblibLoad path =>
          cases reply with
          | error error => exact Iff.rfl
          | ok bytes =>
              obtain ⟨expected, hashed, rfl, digest⟩ := allowed path rfl
              constructor
              · rintro ⟨other, whole, same, loaded⟩ _ _ again
                rw [current, Option.some.injEq, Stage.hashed.injEq] at same again
                obtain ⟨rfl, rfl⟩ := same
                obtain ⟨rfl, rfl⟩ := again
                exact injective (loaded.trans digest.symm)
              · intro intact
                obtain rfl := intact expected hashed current
                exact ⟨expected, bytes, current, digest⟩
      | mkdir => exact Iff.rfl
      | pathExists => exact Iff.rfl
      | readText => exact Iff.rfl
      | readBytes => exact Iff.rfl
      | joblibDump => exact Iff.rfl
      | writeText => exact Iff.rfl

variable [DecidableEq Pid]

/-- In every run of loads, saves and other writers, only verified bytes are deserialised if and
only if no file changes between its hash and its load. -/
theorem only_verified_iff (injective : Function.Injective library.sha256) {files : Files}
    {trace : Trace Pid Obj} {after : Config Pid FileEffect FileEffect.Reply ArtifactError Files}
    (ran : (system library).run ⟨files, fun _ => none⟩ trace = some after) :
    (history library).Relies (Verified library) (fun _ => none) trace ↔
      (history library).Relies Intact (fun _ => none) trace := by
  have assumed : (history library).Assumes (fun _ : Pid => none) trace :=
    Discipline.assumes_of_run (fun _ _ _ _ _ answered => answer_faults answered)
      (fun _ => trivial) ran
  exact Discipline.relies_congr entry_follows (verified_iff_intact injective)
    (Discipline.matches_initial files) assumed ran

end Runs

end History

namespace Sample

def firstDigest : String := "4bf5122f344554c53bde2ebb8cd2b7e3d1600ad631c385a5d7cce23c7785459a"

def secondDigest : String := "dbc1b4c900ffe48d575b5da5c638040125f65db0fe3e24494b76ea986457d986"

def sha256 (bytes : Bytes) : String :=
  if bytes = [1] then firstDigest
  else if bytes = [2] then secondDigest
  else String.ofList ('x' :: bytes.map fun byte => Char.ofNat byte.toNat)

def ascii : Library UInt8 where
  tables := CharTables.Sample.ascii
  sha256 := sha256
  dumps := fun obj => [obj]
  loads := List.head?
  encode := fun text => text.toList.map fun char => UInt8.ofNat char.toNat
  decode := fun bytes => if bytes.all (· < 128) then
      some (String.ofList (bytes.map fun byte => Char.ofNat byte.toNat))
    else none

def model : Path := ⟨"models", "regime_hmm.joblib"⟩

def manifest (digest : String) : String := digest ++ "  regime_hmm.joblib\n"

def saver : ℕ := 0

def loader : ℕ := 1

def dumped (obj : UInt8) : Trace ℕ UInt8 :=
  [.start saver (.save obj model), .answer saver (.mkdir "models") (.ok ()),
    .answer saver (.joblibDump model [obj]) (.ok ())]

def saved : Trace ℕ UInt8 := dumped 1 ++
  [.answer saver (.readBytes model) (.ok [1]),
    .answer saver (.writeText model.sidecar (manifest firstDigest)) (.ok ()), .finish saver]

def verified : Trace ℕ UInt8 :=
  [.start loader (.load model), .answer loader (.pathExists model) (.ok true),
    .answer loader (.pathExists model.sidecar) (.ok true),
    .answer loader (.readText model.sidecar) (.ok (manifest firstDigest)),
    .answer loader (.readBytes model) (.ok [1])]

def loaded (byte : UInt8) : Trace ℕ UInt8 := [.answer loader (.joblibLoad model) (.ok [byte])]

def noFiles : Files := fun _ => none

theorem sha256_injective : Function.Injective sha256 := by
  have chars : ∀ n < 256, (Char.ofNat n).toNat = n := by decide +kernel
  have bytes : Function.Injective fun byte : UInt8 => Char.ofNat byte.toNat := by
    intro left right same
    have numbers := congrArg Char.toNat same
    simp only [chars _ left.toNat_lt, chars _ right.toNat_lt] at numbers
    exact UInt8.toNat_inj.mp numbers
  have others (rest : Bytes) : (String.ofList ('x' :: rest.map fun byte =>
      Char.ofNat byte.toNat)) ≠ firstDigest ∧ (String.ofList ('x' :: rest.map fun byte =>
        Char.ofNat byte.toNat)) ≠ secondDigest := by
    constructor
    · intro same
      have heads := congrArg (fun text => text.toList.head?) same
      simp [firstDigest] at heads
    · intro same
      have heads := congrArg (fun text => text.toList.head?) same
      simp [secondDigest] at heads
  intro left right same
  unfold sha256 at same
  split at same
  · rename_i first
    split at same
    · rename_i second
      exact first.trans second.symm
    · split at same
      · exact absurd same (by decide)
      · exact absurd same.symm (others right).1
  · split at same
    · rename_i first
      split at same
      · exact absurd same (by decide)
      · split at same
        · rename_i second
          exact first.trans second.symm
        · exact absurd same.symm (others right).2
    · split at same
      · exact absurd same (others left).1
      · split at same
        · exact absurd same (others left).2
        · exact List.map_injective_iff.mpr bytes (List.cons.inj (String.ofList_inj.mp same)).2

end Sample

theorem only_verified_saved : ∃ after,
    (system Sample.ascii).run ⟨Sample.noFiles, fun _ => none⟩
      (Sample.saved ++ Sample.verified ++ Sample.loaded 1) = some after ∧
    (history Sample.ascii).Relies (Verified Sample.ascii) (fun _ => none)
      (Sample.saved ++ Sample.verified ++ Sample.loaded 1) := by
  have runs : ((system Sample.ascii).run ⟨Sample.noFiles, fun _ => none⟩
      (Sample.saved ++ Sample.verified ++ Sample.loaded 1)).isSome = true := by decide +kernel
  obtain ⟨after, ran⟩ := Option.isSome_iff_exists.mp runs
  refine ⟨after, ran, (only_verified_iff Sample.sha256_injective ran).mpr ?_⟩
  refine Discipline.relies_append.mpr ⟨Discipline.relies_append.mpr ⟨?_, ?_⟩, ?_, trivial⟩
  · simp [Sample.saved, Sample.dumped, Discipline.Relies, Intact]
  · simp [Sample.verified, Discipline.Relies, Intact]
  · intro expected hashed same
    exact (Stage.hashed.inj (Option.some.inj same)).2

/-- A training that dumps between the hash and the load of a file has its bytes deserialised under
the old digest. -/
theorem deserialises_unverified : ¬∀ (trace : Trace ℕ UInt8) after,
    (system Sample.ascii).run ⟨Sample.noFiles, fun _ => none⟩ trace = some after →
      (history Sample.ascii).Relies (Verified Sample.ascii) (fun _ => none) trace := by
  intro only
  have runs : ((system Sample.ascii).run ⟨Sample.noFiles, fun _ => none⟩
      (Sample.saved ++ Sample.verified ++ Sample.dumped 2 ++ Sample.loaded 2)).isSome = true := by
    decide +kernel
  obtain ⟨after, ran⟩ := Option.isSome_iff_exists.mp runs
  obtain ⟨_, ⟨expected, hashed, same, digest⟩, _⟩ :=
    Discipline.relies_append.mp (only _ after ran)
  obtain ⟨rfl, _⟩ := Stage.hashed.inj (Option.some.inj same)
  exact absurd digest (by decide +kernel)

end Artifacts

end Vix75
