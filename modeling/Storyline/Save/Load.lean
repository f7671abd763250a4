import Storyline.Json.Read
import Storyline.Save.Checksum
import Storyline.Save.Envelope
import Storyline.Save.Result
import Storyline.Save.Version
import Storyline.Story.Basic
import Storyline.Value.Field

namespace Storyline.Save
open Schema

/-- Makes a save of this version from one of another, or says why it cannot. -/
abbrev Migration := Entries Value → Except String (Entries Value)

structure LoadOptions where
  verifyChecksum : Bool := false
  skipVersion : Bool := false
  restoreEvents : Bool := false
  restorePerformance : Bool := false
  restoreBranching : Bool := false
  restoreRules : Bool := false
  migration : Option Migration := none

def LoadOptions.ofFields (r : Entries Value) (migration : Option Migration) : LoadOptions :=
  { verifyChecksum := r.boolOr "verify_checksum" false
    skipVersion := r.boolOr "skip_compatibility_check" false
    restoreEvents := r.boolOr "restore_flow_events" false
    restorePerformance := r.boolOr "restore_performance_state" false
    restoreBranching := r.boolOr "restore_branching_context" false
    restoreRules := r.boolOr "restore_validation_state" false
    migration }

inductive Refusal where
  | notJson (reason : String)
  | notRecord
  | schema (problems : List Problem)
  | otherStory (saved loaded : String)
  | version (fault : VersionFault)
  | compression (compression : Compression)
  | noChecksum
  | checksum
  | migrated (problems : List Problem)
  | migration (reason : String)
  | unknownNode (id : String)

def Refusal.message : Refusal → String
  | notJson reason => "Invalid serialized state: not valid JSON (" ++ reason ++ ")"
  | notRecord => "Invalid serialized state: expected an object"
  | schema problems => "Invalid serialized state: " ++ describe problems
  | otherStory saved loaded =>
    "Story mismatch: state was saved for story '" ++ saved ++ "' but the loaded story is '" ++
      loaded ++ "'"
  | version fault => fault.message
  | compression c => "Unsupported compression '" ++ c.name ++ "'"
  | noChecksum => "Checksum verification failed: no checksum present"
  | checksum => "Checksum verification failed"
  | migrated problems => "Migration produced an invalid state: " ++ describe problems
  | migration reason => "Migration failed: " ++ reason
  | unknownNode id => "Serialized state references unknown node '" ++ id ++ "'"

inductive LoadFault where
  | uncopyable
  | number (fault : NumberFault)
  | write (fault : Json.WriteFault)
  | state (fault : StateFault)
  deriving DecidableEq

def LoadFault.message : LoadFault → String
  | uncopyable => refusesCopy
  | number fault => fault.message
  | write fault => fault.message
  | state fault => fault.message

instance : Failing LoadFault where
  sort
    | .uncopyable => .wrongKind
    | .number f => Failing.sort f
    | .write f => Failing.sort f
    | .state f => Failing.sort f
  message := LoadFault.message
  report?
    | .state f => some f.report
    | _ => none

inductive LoadStop where
  | refused (refusal : Refusal) (warnings : List Warning)
  | broken (fault : LoadFault)

structure Loaded where
  state : NarrativeState
  envelope : Envelope
  size : Nat
  warnings : List Warning

def Loaded.result (l : Loaded) : Result :=
  .ok [("size", .int l.size), ("checksum", Value.ofText? l.envelope.metadata.checksum),
    ("duration", noTime)] (l.warnings.map Warning.message)

/-- The outcome of a load that came to a verdict. -/
structure LoadOutcome where
  result : Result
  loaded : Option Loaded

def document : Value → Except LoadStop (Entries Value)
  | .text s =>
    match Json.read s with
    | .ok (.record fields) => .ok fields
    | .ok _ => .error (.refused .notRecord [])
    | .error (.number fault) => .error (.broken (.number fault))
    | .error fault => .error (.refused (.notJson fault.message) [])
  | .record fields => .ok fields
  | _ => .error (.refused .notRecord [])

/-- A save of another story is refused; one of no story passes with a warning. -/
def checkStory (story : Story) (m : Metadata) : Except Refusal (List Warning) :=
  match m.storyId with
  | none => .ok [.noStory]
  | some id => if id == story.identity then .ok [] else .error (.otherStory id story.identity)

def checkCompression (m : Metadata) : Except Refusal Unit :=
  if m.compression = .none then .ok () else .error (.compression m.compression)

def checkSum (raw : Entries Value) (m : Metadata) (warnings : List Warning) :
    Except LoadStop Unit :=
  let expected := m.checksum.getD ""
  if expected.isEmpty then .error (.refused .noChecksum warnings)
  else match checksum raw with
    | .error fault => .error (.broken (.write fault))
    | .ok found => if found = expected then .ok () else .error (.refused .checksum warnings)

def migrate (migration : Migration) (raw : Entries Value) : Except Refusal Envelope :=
  match migration raw with
  | .error reason => .error (.migration reason)
  | .ok fields => (Envelope.read (.record fields)).mapError .migrated

def stateIn (story : Story) (e : Envelope) (warnings : List Warning) :
    Except LoadStop NarrativeState := do
  let state ← e.state.state.mapError fun
    | .state f => .broken (.state f)
    | .uncopyable => .broken .uncopyable
    | .number f => .broken (.number f)
  if story.has state.node then return state
  else .error (.refused (.unknownNode state.node) warnings)

def sizeOf (v : Value) : Except Json.WriteFault Nat :=
  (Json.write .measuring v).map String.utf8ByteSize

def copied (data : Value) : Except LoadStop (Entries Value) := do
  let raw ← document data
  if Value.allFieldsCopyable raw then return raw else .error (.broken .uncopyable)

/-- The warnings about a version are added to those there are, unless no one asks for them. -/
def withVersion (o : LoadOptions) (m : Metadata) (warnings : List Warning) :
    Except LoadStop (List Warning) :=
  if o.skipVersion then .ok warnings
  else match checkVersion m.engineVersion o.migration.isSome with
    | .ok more => .ok (warnings ++ more)
    | .error fault => .error (.refused (.version fault) warnings)

/-- The envelope of a record that has the structure, the story, the version and the compression
that are wanted. -/
def recognise (story : Story) (o : LoadOptions) (raw : Entries Value) :
    Except LoadStop (Envelope × List Warning) := do
  let envelope ← (Envelope.read (.record raw)).mapError fun ps => .refused (.schema ps) []
  let warnings ← (checkStory story envelope.metadata).mapError fun r => .refused r []
  let warnings ← withVersion o envelope.metadata warnings
  (checkCompression envelope.metadata).mapError fun r => .refused r warnings
  return (envelope, warnings)

def verify (o : LoadOptions) (raw : Entries Value) (m : Metadata) (warnings : List Warning) :
    Except LoadStop Unit :=
  if o.verifyChecksum then checkSum raw m warnings else .ok ()

/-- The envelope of this version: the one there is, or what a migration makes of the record. -/
def brought (o : LoadOptions) (raw : Entries Value) (e : Envelope) (warnings : List Warning) :
    Except LoadStop Envelope :=
  match o.migration with
  | none => .ok e
  | some migration => (migrate migration raw).mapError fun r => .refused r warnings

def check (story : Story) (o : LoadOptions) (data : Value) : Except LoadStop Loaded := do
  let raw ← copied data
  let (envelope, warnings) ← recognise story o raw
  verify o raw envelope.metadata warnings
  let envelope ← brought o raw envelope warnings
  let state ← stateIn story envelope warnings
  let size ← (sizeOf (.record raw)).mapError fun f => .broken (.write f)
  return ⟨state, envelope, size, warnings⟩

def load (story : Story) (o : LoadOptions) (data : Value) : Except LoadFault LoadOutcome :=
  match check story o data with
  | .ok loaded => .ok ⟨loaded.result, some loaded⟩
  | .error (.refused r warnings) => .ok ⟨.failure r.message (warnings.map Warning.message), none⟩
  | .error (.broken fault) => .error fault

end Storyline.Save
