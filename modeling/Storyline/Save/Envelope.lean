import Storyline.Schema.Record
import Storyline.Schema.Scalar
import Storyline.State.Basic
import Storyline.State.FlowEvent

namespace Storyline.Save
open Schema

structure StateRecord where
  node : String
  flags : Entries Value
  history : List String
  others : Entries Value

structure EventRecord where
  event : FlowEvent
  others : Entries Value

inductive Compression where
  | none
  | gzip
  | lz4
  deriving DecidableEq

structure Metadata where
  engineVersion : String
  timestamp : String
  storyId : Option String
  checksum : Option String
  compression : Compression
  custom : Entries Value
  others : Entries Value

/-- What is known of the work that goes on beside the story. -/
structure Performance where
  mode : Bool
  profiling : Bool
  tasks : List String
  telemetry : List (Entries Value)
  others : Entries Value

structure Branching where
  active : List String
  states : Entries Value
  convergence : List String
  others : Entries Value

/-- Which rules were out of force, and which were added. -/
structure RuleRecord where
  disabled : List String
  custom : Entries Value
  errors : List String
  others : Entries Value

/-- Each part is written and read by the same schema; fields that the schema does not know stay with
their part. -/
structure Envelope where
  state : StateRecord
  events : List EventRecord
  metadata : Metadata
  performance : Option Performance
  branching : Option Branching
  rules : Option RuleRecord
  others : Entries Value

namespace StateRecord

def read : Value → Checked StateRecord := model "StateModel" fun fields =>
  .ok StateRecord.mk
    |> fill (required fields "current_node_id" shownText)
    |> fill (field fields "flags" [] record)
    |> fill (field fields "history" [] (list text))
    |> fill (.ok (Schema.others fields ["current_node_id", "flags", "history"]))

def payload (s : StateRecord) : Value :=
  .record ([("currentNodeId", .text s.node), ("flags", .record s.flags),
    ("history", .texts s.history)] ++ s.others)

/-- The state itself; a blank node is no node, and a flag may refuse to be copied. -/
def state (s : StateRecord) : Except NarrativeState.PayloadFault NarrativeState :=
  if Value.allFieldsCopyable s.flags then
    (NarrativeState.make (.text s.node) s.flags s.history).mapError .state
  else .error .uncopyable

end StateRecord

namespace EventRecord

def ofParts (source target choiceText : String) (timestamp : Double) (others : Entries Value) :
    EventRecord :=
  ⟨⟨source, target, choiceText, .double timestamp⟩, others⟩

def read : Value → Checked EventRecord := model "FlowEventModel" fun fields =>
  .ok ofParts
    |> fill (required fields "from_node_id" text)
    |> fill (required fields "to_node_id" text)
    |> fill (field fields "choice_text" "" text)
    |> fill (field fields "timestamp" (.zero false) double)
    |> fill (.ok (Schema.others fields
      ["from_node_id", "to_node_id", "choice_text", "timestamp"]))

def payload (e : EventRecord) : Value :=
  .record (e.event.fields ++ e.others)

end EventRecord

namespace Compression

def name : Compression → String
  | none => "none"
  | gzip => "gzip"
  | lz4 => "lz4"

def read : Value → Checked Compression :=
  oneOf "'none', 'gzip' or 'lz4'" ([none, gzip, lz4].map fun c => (c.name, c))

end Compression

namespace Metadata

def read : Value → Checked Metadata := model "SerializationMetadataModel" fun fields =>
  .ok Metadata.mk
    |> fill (required fields "engine_version" text)
    |> fill (required fields "timestamp" text)
    |> fill (field fields "story_id" none (optional text))
    |> fill (field fields "checksum" none (optional text))
    |> fill (field fields "compression" .none Compression.read)
    |> fill (field fields "custom_metadata" [] record)
    |> fill (.ok (Schema.others fields ["engine_version", "timestamp", "story_id", "checksum",
      "compression", "custom_metadata"]))

def payload (m : Metadata) : Value :=
  .record ([("engineVersion", .text m.engineVersion), ("timestamp", .text m.timestamp),
    ("storyId", Value.ofText? m.storyId), ("checksum", Value.ofText? m.checksum),
    ("compression", .text m.compression.name), ("customMetadata", .record m.custom)] ++ m.others)

end Metadata

namespace Performance

def idle : Performance := ⟨false, false, [], [], []⟩

def read : Value → Checked Performance := model "PerformanceStateModel" fun fields =>
  .ok Performance.mk
    |> fill (field fields "performance_mode" false bool)
    |> fill (field fields "enable_profiling" false bool)
    |> fill (field fields "background_tasks" [] (list text))
    |> fill (field fields "telemetry_data" [] (list record))
    |> fill (.ok (Schema.others fields
      ["performance_mode", "enable_profiling", "background_tasks", "telemetry_data"]))

def fields (p : Performance) : Entries Value :=
  [("performanceMode", .bool p.mode), ("enableProfiling", .bool p.profiling),
    ("backgroundTasks", .texts p.tasks), ("telemetryData", .list (p.telemetry.map .record))] ++
    p.others

end Performance

namespace Branching

def straight : Branching := ⟨[], [], [], []⟩

def read : Value → Checked Branching := model "BranchingContextModel" fun fields =>
  .ok Branching.mk
    |> fill (field fields "active_branches" [] (list text))
    |> fill (field fields "branch_states" [] record)
    |> fill (field fields "convergence_points" [] (list text))
    |> fill (.ok (Schema.others fields
      ["active_branches", "branch_states", "convergence_points"]))

def fields (b : Branching) : Entries Value :=
  [("activeBranches", .texts b.active), ("branchStates", .record b.states),
    ("convergencePoints", .texts b.convergence)] ++ b.others

end Branching

namespace RuleRecord

def read : Value → Checked RuleRecord := model "ValidationStateModel" fun fields =>
  .ok RuleRecord.mk
    |> fill (field fields "disabled_rules" [] (list text))
    |> fill (field fields "custom_rules" [] record)
    |> fill (field fields "validation_errors" [] (list text))
    |> fill (.ok (Schema.others fields
      ["disabled_rules", "custom_rules", "validation_errors"]))

def fields (r : RuleRecord) : Entries Value :=
  [("disabledRules", .texts r.disabled), ("customRules", .record r.custom),
    ("validationErrors", .texts r.errors)] ++ r.others

end RuleRecord

namespace Envelope

def read : Value → Checked Envelope := model "SerializedEnvelope" fun fields =>
  .ok Envelope.mk
    |> fill (required fields "state" StateRecord.read)
    |> fill (field fields "flow_events" [] (list EventRecord.read))
    |> fill (required fields "metadata" Metadata.read)
    |> fill (field fields "performance_state" none (optional Performance.read))
    |> fill (field fields "branching_context" none (optional Branching.read))
    |> fill (field fields "validation_state" none (optional RuleRecord.read))
    |> fill (.ok (Schema.others fields ["state", "flow_events", "metadata", "performance_state",
      "branching_context", "validation_state"]))

def payload (e : Envelope) : Value :=
  let part (fields? : Option (Entries Value)) : Value := (fields?.map Value.record).getD .null
  .record ([("state", e.state.payload), ("flowEvents", .list (e.events.map EventRecord.payload)),
    ("metadata", e.metadata.payload),
    ("performanceState", part (e.performance.map Performance.fields)),
    ("branchingContext", part (e.branching.map Branching.fields)),
    ("validationState", part (e.rules.map RuleRecord.fields))] ++ e.others)

end Envelope
end Storyline.Save
