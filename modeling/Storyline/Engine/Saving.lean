import Storyline.Engine.Basic
import Storyline.Save.Build

namespace Storyline.Engine

/-- Which standard rules are out of force, and which others are in force. -/
def ruleRecord (e : Engine) : Save.RuleRecord :=
  let standard := Rule.standard.map Rule.name
  { disabled := Text.inOrder (standard.filter fun name => !e.rules.has name)
    custom := (e.rules.rules.filter fun rule => !standard.contains rule.name).map fun rule =>
      (rule.name, .record [("priority", .int rule.priority)])
    errors := [], others := [] }

def parts (e : Engine) : Save.Parts :=
  { events := e.events.map FlowEvent.fields, performance := some e.performance.fields
    branching := some e.branching.fields, rules := some e.ruleRecord.fields }

def save (e : Engine) (o : Save.SaveOptions) : Except StateFault (Entries Value) :=
  (Save.build e.story.identity e.ambient e.state o e.parts).mapError fun f =>
    .unsaved e.state.node f.message

/-- The engine with the state of a save, and of its other parts those that are asked for. -/
def restored (e : Engine) (o : Save.LoadOptions) (l : Save.Loaded) : Engine :=
  let disabled := if o.restoreRules then (l.envelope.rules.map (·.disabled)).getD [] else []
  { e with
    state := l.state
    events := if o.restoreEvents then l.envelope.events.map (·.event) else e.events
    performance :=
      if o.restorePerformance then l.envelope.performance.getD e.performance else e.performance
    branching := if o.restoreBranching then l.envelope.branching.getD e.branching else e.branching
    rules := disabled.foldl Registry.remove e.rules }

def load (e : Engine) (o : Save.LoadOptions) (data : Value) : Outcome Save.Result :=
  match Save.load e.story o data with
  | .error f => (.error (.load f), e)
  | .ok ⟨result, none⟩ => (.ok result, e)
  | .ok ⟨result, some l⟩ =>
    andThen (e.track .stateLoad [("nodeId", .text e.state.node)]) fun _ e =>
      andThen ((e.restored o l).happened .stateLoad [("nodeId", .text l.state.node)]) fun _ e =>
        (.ok result, e)

def saveTo (e : Engine) (key : Value) (o : Save.SaveOptions) : Outcome Save.Result :=
  match e.save o with
  | .error f => (.ok (.failure f.message []), e)
  | .ok envelope =>
    let (result, storage) := Save.saveTo e.storage key (.record envelope)
    (result.mapError .noFields, { e with storage })

def loadFrom (e : Engine) (key : Value) (o : Save.LoadOptions) : Outcome Save.Result :=
  match Save.fetchFrom e.storage key with
  | .error reason => (.ok (.failure reason []), e)
  | .ok envelope => e.load o envelope

def keep (e : Engine) (d : Shelf.Draft) : Outcome Checkpoint :=
  let (c, shelf, ambient) := e.shelf.create e.ambient d
  (c.mapError .checkpoint, { e with shelf, ambient })

def createCheckpoint (e : Engine) (name : Option String) (options : CheckpointOptions)
    (tags : List String) : Outcome Checkpoint :=
  e.keep { state := e.state, name, options, node := e.story.find? e.state.node, tags }

def deleteCheckpoint (e : Engine) (id : String) : Bool × Engine :=
  (e.shelf.has id, { e with shelf := e.shelf.delete id })

def cleanup (e : Engine) (o : CheckpointOptions) : Outcome Nat :=
  match e.shelf.cleanup o with
  | .error f => (.error (.checkpoint f), e)
  | .ok (count, shelf) => (.ok count, { e with shelf })

def importCheckpoint (e : Engine) (data : Value) : Outcome Checkpoint :=
  match e.shelf.importFrom e.story data with
  | .error f => (.error (.checkpoint f), e)
  | .ok (c, shelf) => (.ok c, { e with shelf })

/-- Puts the state of a checkpoint in place. No automatic save follows. -/
def restore (e : Engine) (id : String) : Outcome Save.Result :=
  match e.shelf.stateOf? id with
  | none => (.ok (.failure ("Checkpoint not found: " ++ id) []), e)
  | some s =>
    if !e.story.has s.node then
      (.ok (.failure ("Checkpoint references unknown node '" ++ s.node ++ "'") []), e)
    else
      let metadata : Entries Value :=
        [("nodeId", .text e.state.node), ("checkpointId", .text id)]
      andThen (e.track .stateLoad metadata) fun _ e =>
        (.ok (.ok [("checkpointId", .text id), ("nodeId", .text s.node),
          ("duration", Save.noTime)] []), { e with state := s })

end Storyline.Engine
