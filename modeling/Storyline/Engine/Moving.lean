import Storyline.Engine.Basic

namespace Storyline.Engine

def goTo (e : Engine) (id : String) : Outcome Node :=
  match e.story.find? id with
  | none => (.error (.navigation (.unknownNode id)), e)
  | some target =>
    let metadata : Entries Value := [("nodeId", .text e.state.node), ("targetNodeId", .text id)]
    andThen (e.track .navigation metadata) fun _ e =>
      (.ok target, { e with state := e.state.moveTo id })

def flagName? : Value → Option String
  | .text s => if Text.isAllBlank s then none else some s
  | _ => none

def setFlag (e : Engine) (name value : Value) : Outcome Unit :=
  match flagName? name with
  | none => (.error .blankFlag, e)
  | some name =>
    let changed : Entries Value := [("flagsChanged", .texts [name])]
    andThen (e.track .flagChange (("nodeId", .text e.state.node) :: changed)) fun _ e =>
      if value.copyable then
        let e := { e with state := e.state.withEffects [(name, value)] }
        e.happened .flagChange changed
      else (.error .uncopyable, e)

def reset (e : Engine) : Outcome Unit :=
  andThen (e.track .reset [("nodeId", .text e.state.node)]) fun _ e =>
    (.ok (), { e with state := .start e.story.initial, events := [] })

/-- Puts a state in place of the current one. A change that is not tracked leaves no trace. -/
def replace (e : Engine) (s : NarrativeState) (tracked : Bool) : Outcome Unit :=
  if !e.story.has s.node then (.error (.navigation (.unknownNode s.node)), e)
  else if !tracked then (.ok (), { e with state := s })
  else
    andThen (e.track .stateLoad [("nodeId", .text e.state.node)]) fun _ e =>
      { e with state := s }.happened .stateLoad [("nodeId", .text s.node)]

def loadState (e : Engine) (s : NarrativeState) (tracked : Bool) : Outcome Unit :=
  match s.clone with
  | .error f => (.error (.state f), e)
  | .ok s => e.replace s tracked

def loadPayload (e : Engine) (payload : Value) (tracked : Bool) : Outcome Unit :=
  match NarrativeState.ofPayload payload with
  | .error f => (.error (.payload f), e)
  | .ok s => e.replace s tracked

def travelFrom (e : Engine) (captured : Except StateFault NarrativeState)
    (d : Timeline.Direction) : Timeline.Outcome × Engine :=
  let t := e.timeline.travel e.ambient d captured
  (t.outcome, { e with
    timeline := t.timeline, ambient := t.ambient, state := t.restored.getD e.state })

def travel (e : Engine) (d : Timeline.Direction) : Timeline.Outcome × Engine :=
  e.travelFrom e.state.clone d

def clearTimeline (e : Engine) : Engine := { e with timeline := e.timeline.clear }

def configureTimeline (e : Engine) (changes : Entries Value) : Outcome Timeline.Config :=
  match Timeline.Config.make (e.timeline.config.wishes.changed changes) with
  | .error f => (.error (.timeline f), e)
  | .ok c => (.ok c, { e with timeline := e.timeline.configure c })

def configureAutosave (e : Engine) (changes : Entries Value) : Outcome Autosave.Config :=
  match Autosave.Config.make (e.autosave.config.wishes.changed changes) with
  | .error f => (.error (.autosave f), e)
  | .ok c =>
    let (autosave, shelf) := e.autosave.configure c e.shelf
    (.ok c, { e with autosave, shelf })

end Storyline.Engine
