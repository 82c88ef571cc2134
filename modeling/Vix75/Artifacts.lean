import Vix75.EffectProgram
import Vix75.Redaction

/-! vix_core.artifacts: model files with a checksum beside them, as programs over one file
system that any number of calls and other writers share. -/

namespace Vix75

open EffectProgram Redaction

namespace Artifacts

abbrev Bytes := List UInt8

structure Path where
  parent : String
  name : String
deriving DecidableEq

def Path.text (path : Path) : String := path.parent ++ "/" ++ path.name

def Path.split (path : Path) : String × String :=
  let back := path.name.toList.reverse
  let ending := back.takeWhile fun char => char ≠ '.'
  match back.dropWhile fun char => char ≠ '.' with
  | [] => (path.name, "")
  | dot :: front =>
      if ending = [] ∨ front = [] then (path.name, "")
      else (String.ofList front.reverse, String.ofList (dot :: ending.reverse))

def Path.joblib (path : Path) : Path :=
  if path.split.2 = ".joblib" then path else { path with name := path.split.1 ++ ".joblib" }

def Path.sidecar (target : Path) : Path := { target with name := target.name ++ ".sha256" }

inductive ArtifactError where
  | integrity (message : String)
  | os
  | unicodeDecode
  | unpickling
deriving DecidableEq

/-- What the standard library and joblib compute. -/
structure Library (Obj : Type) where
  tables : CharTables
  sha256 : Bytes → String
  dumps : Obj → Bytes
  loads : Bytes → Option Obj
  encode : String → Bytes
  decode : Bytes → Option String

inductive FileEffect where
  | mkdir (parent : String)
  | pathExists (path : Path)
  | readText (path : Path)
  | readBytes (path : Path)
  | joblibDump (path : Path) (bytes : Bytes)
  | joblibLoad (path : Path)
  | writeText (path : Path) (text : String)
deriving DecidableEq

/-- `joblibLoad` answers with the bytes that it deserialises. -/
abbrev FileEffect.Reply : FileEffect → Type
  | .mkdir _ => Unit
  | .pathExists _ => Bool
  | .readText _ => String
  | .readBytes _ => Bytes
  | .joblibDump _ _ => Unit
  | .joblibLoad _ => Bytes
  | .writeText _ _ => Unit

abbrev Program (α : Type) := Prog FileEffect FileEffect.Reply ArtifactError α

def await (effect : FileEffect) : Program effect.Reply := Prog.perform effect

section Programs

variable {Obj : Type} (library : Library Obj)

def artifactDigest (path : Path) : Program String := do
  let bytes ← await (.readBytes path)
  .done (library.sha256 bytes)

def saveArtifact (obj : Obj) (path : Path) : Program Path := do
  let target := path.joblib
  let _ ← await (.mkdir target.parent)
  let _ ← await (.joblibDump target (library.dumps obj))
  let digest ← artifactDigest library target
  let _ ← await (.writeText target.sidecar (digest ++ "  " ++ target.name ++ "\n"))
  .done target

def isHex (char : Char) : Bool :=
  char.isDigit || (('a' ≤ char && char ≤ 'f') || ('A' ≤ char && char ≤ 'F'))

def strip (text : List Char) : List Char :=
  ((text.dropWhile library.tables.isSpace).reverse.dropWhile library.tables.isSpace).reverse

/-- `^([0-9a-fA-F]{64})\b`, in lower case. -/
def expectedDigest (text : String) : Option String :=
  let stripped := strip library text.toList
  let digits := stripped.take 64
  if digits.length = 64 ∧ digits.all isHex ∧
      !(stripped.drop 64).head?.any library.tables.isWord then
    some (String.ofList (digits.map Char.toLower))
  else none

def readExpectedDigest (sidecar : Path) : Program String := do
  let text ← await (.readText sidecar)
  match expectedDigest library text with
  | some digest => .done digest
  | none => .raise (.integrity ("malformed checksum manifest: " ++ sidecar.text))

def firstTwelve (digest : String) : String := String.ofList (digest.toList.take 12)

def verifyArtifact (target : Path) : Program Unit := do
  let found ← await (.pathExists target)
  if (found : Bool) then
    let manifest ← await (.pathExists target.sidecar)
    if (manifest : Bool) then
      let expected ← readExpectedDigest library target.sidecar
      let actual ← artifactDigest library target
      if expected = actual then .done ()
      else .raise (.integrity ("checksum mismatch for " ++ target.text ++ ": expected " ++
        firstTwelve expected ++ ", got " ++ firstTwelve actual))
    else .raise (.integrity ("checksum sidecar missing for " ++ target.text))
  else .raise (.integrity ("artifact missing: " ++ target.text))

def loadArtifact (target : Path) : Program Obj := do
  let _ ← verifyArtifact library target
  let bytes ← await (.joblibLoad target)
  match library.loads bytes with
  | some obj => .done obj
  | none => .raise .unpickling

/-! The file system -/

abbrev Files := Path → Option Bytes

inductive Request (Obj : Type) where
  | load (path : Path)
  | save (obj : Obj) (path : Path)

structure Tampering where
  path : Path
  content : Option Bytes

/-- Reads see the file as it is, and fail where there is none; every access may fail. -/
def answer (files : Files) : (effect : FileEffect) → Except ArtifactError effect.Reply →
    Option Files
  | .mkdir _, .ok _ => some files
  | .pathExists path, .ok found => if found = (files path).isSome then some files else none
  | .readText path, .ok text =>
      if (files path).bind library.decode = some text then some files else none
  | .readBytes path, .ok bytes => if files path = some bytes then some files else none
  | .joblibLoad path, .ok bytes => if files path = some bytes then some files else none
  | .joblibDump path bytes, .ok _ => some (Function.update files path (some bytes))
  | .writeText path text, .ok _ =>
      some (Function.update files path (some (library.encode text)))
  | _, .error .os => some files
  | .readText _, .error .unicodeDecode => some files
  | _, .error _ => none

def entry : Request Obj → Program Unit
  | .load path => loadArtifact library path >>= fun _ => .done ()
  | .save obj path => saveArtifact library obj path >>= fun _ => .done ()

def system : System FileEffect FileEffect.Reply ArtifactError Files Tampering (Request Obj) where
  entry := entry library
  answer := answer library
  environment := fun files tampering =>
    some (Function.update files tampering.path tampering.content)

end Programs

end Artifacts

end Vix75
