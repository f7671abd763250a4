import Storyline.Engine.Choosing
import Storyline.Engine.Saving

namespace Storyline.Service
open Engine (Outcome andThen)

/-- A choice in sight, and what the rules say about it. -/
structure Offer where
  choice : Choice
  verdict : Verdict

def Offer.payload (index : Nat) (o : Offer) : Value :=
  .record [("index", .int index), ("text", .text o.choice.text),
    ("next_node_id", .text o.choice.target), ("available", .bool o.verdict.valid),
    ("reason", Value.ofText? o.verdict.reason)]

def judge (e : Engine) : List Choice → Outcome (List Offer)
  | [] => (.ok [], e)
  | c :: rest =>
    andThen (e.verdict c none) fun v e =>
      andThen (judge e rest) fun more e => (.ok (⟨c, v⟩ :: more), e)

def offersOf (e : Engine) : Outcome (List Offer) :=
  andThen (e.visible []) fun seen e => judge e seen

def offersPayload (os : List Offer) : Value :=
  .list (os.mapIdx fun i o => o.payload i)

def nodePayload (n : Node) : Value :=
  .record [("id", .text n.id), ("text", .text n.text), ("is_terminal", .bool n.isTerminal)]

structure SessionView where
  id : String
  node : Node
  offers : List Offer
  state : NarrativeState
  canUndo : Bool
  canRedo : Bool

def SessionView.isComplete (v : SessionView) : Bool := !v.offers.any (·.verdict.valid)

def SessionView.payload (v : SessionView) : Value :=
  .record [("session_id", .text v.id), ("node", nodePayload v.node),
    ("choices", offersPayload v.offers), ("flags", .record v.state.flags),
    ("history", .texts v.state.history), ("is_complete", .bool v.isComplete),
    ("can_undo", .bool v.canUndo), ("can_redo", .bool v.canRedo)]

def view (id : String) (e : Engine) : Outcome SessionView :=
  match e.node with
  | .error f => (.error f, e)
  | .ok node =>
    andThen (offersOf e) fun offers e =>
      (.ok ⟨id, node, offers, e.state, e.timeline.canUndo, e.timeline.canRedo⟩, e)

def checkpointResource (c : Checkpoint) : Value :=
  .record [("id", .text c.id), ("name", Value.ofText? c.name),
    ("description", Value.ofText? c.description), ("timestamp", .text c.timestamp),
    ("node_id", .text c.state.node), ("tags", .texts c.tags), ("metadata", .record c.metadata)]

def resultResource (r : Save.Result) : Value :=
  .record [("success", .bool r.success), ("error", Value.ofText? r.error),
    ("data", .record r.data), ("warnings", .texts r.warnings)]

def travelResource (o : Timeline.Outcome) (v : SessionView) : Value :=
  .record [("success", .bool o.success), ("error", Value.ofText? o.error?),
    ("undo_count", .int o.after.undo), ("redo_count", .int o.after.redo), ("session", v.payload)]

def rejectionResource (r : Rejection) : Value :=
  .record [("detail", .text r.message), ("failed_rule", Value.ofText? r.failedRule?),
    ("failed_conditions", .texts r.verdict.failedConditions),
    ("available_choices", .list (r.available.map fun c =>
      .record [("text", .text c.text), ("next_node_id", .text c.target)]))]

end Storyline.Service
