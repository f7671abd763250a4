import Storyline.Ambient
import Storyline.Save.Checksum
import Storyline.Save.Version
import Storyline.State.Basic
import Storyline.Value.Field

namespace Storyline.Save

structure SaveOptions where
  performance : Bool := false
  events : Bool := false
  branching : Bool := false
  rules : Bool := false
  checksum : Bool := false
  custom : Entries Value := []

def SaveOptions.ofFields (r : Entries Value) : SaveOptions :=
  { performance := r.boolOr "include_performance_data" false
    events := r.boolOr "include_flow_events" false
    branching := r.boolOr "include_branching_context" false
    rules := r.boolOr "include_validation_state" false
    checksum := r.boolOr "generate_checksum" false
    custom := r.recordOr "custom_metadata" }

structure Parts where
  events : List (Entries Value) := []
  performance : Option (Entries Value) := none
  branching : Option (Entries Value) := none
  rules : Option (Entries Value) := none

inductive BuildFault where
  | uncopyable
  | write (fault : Json.WriteFault)
  deriving DecidableEq

def BuildFault.message : BuildFault → String
  | uncopyable => refusesCopy
  | write fault => fault.message

instance : Failing BuildFault :=
  .sorted (fun
    | .uncopyable => .wrongKind
    | .write f => Failing.sort f) BuildFault.message

def part (name : String) (wanted : Bool) (fields : Option (Entries Value)) : Entries Value :=
  if wanted then (fields.map fun fields => (name, Value.record fields)).toList else []

def metadataOf (storyId : String) (a : Ambient) (o : SaveOptions) : Entries Value :=
  [("engineVersion", .text Version.currentText), ("timestamp", .text a.stamp),
    ("storyId", .text storyId), ("compression", .text "none"), ("customMetadata", .record o.custom)]

def partsOf (o : SaveOptions) (p : Parts) : Entries Value :=
  part "performanceState" o.performance p.performance ++
    part "branchingContext" o.branching p.branching ++
    part "validationState" o.rules p.rules

def plain (storyId : String) (a : Ambient) (s : NarrativeState) (o : SaveOptions) (p : Parts) :
    Entries Value :=
  [("state", s.payload), ("flowEvents", .list (if o.events then p.events.map .record else [])),
    ("metadata", .record (metadataOf storyId a o))] ++ partsOf o p

def stamped (envelope : Entries Value) (digest : String) : Entries Value :=
  match envelope.get? "metadata" with
  | some (.record metadata) =>
    envelope.put "metadata" (.record (Entries.put metadata "checksum" (.text digest)))
  | _ => envelope

def finished (o : SaveOptions) (envelope : Entries Value) : Except BuildFault (Entries Value) :=
  if o.checksum then (checksum envelope).map (stamped envelope) |>.mapError .write
  else .ok envelope

def build (storyId : String) (a : Ambient) (s : NarrativeState) (o : SaveOptions) (p : Parts) :
    Except BuildFault (Entries Value) :=
  if s.copyable then do
    let _ ← (Json.write .oneLine s.payload).mapError .write
    if Value.allFieldsCopyable o.custom && Value.allFieldsCopyable (partsOf o p) then
      finished o (plain storyId a s o p)
    else .error .uncopyable
  else .error .uncopyable

end Storyline.Save
