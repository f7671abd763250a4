import Mathlib.Data.List.Infix
import Storyline.Proofs.Choosing

namespace Storyline

namespace Timeline
variable {t : Timeline} {a : Ambient}

def Config.most (c : Config) : Direction → Nat
  | .undo => c.maxUndo
  | .redo => c.maxRedo

theorem Settled.bounded (h : t.Settled) (d : Direction) :
    (t.ahead d).length ≤ t.config.most d := by
  cases d with
  | undo => exact h.past
  | redo => exact h.future

theorem Settled.take (h : t.Settled) (d : Direction) :
    (t.ahead d).take (t.config.most d) = t.ahead d :=
  List.take_of_length_le (h.bounded d)

/-- The entry that a step leaves behind, under the action of the one that it takes. -/
def leaving (a : Ambient) (current : NarrativeState) (action : Action) : TimelineEntry :=
  ⟨"h-" ++ a.issue.id, current, a.issue.stamp, action, [("nodeId", .text current.node)]⟩

/-- What is ahead in either direction, newest first, if no entry is ever dropped for a bound. -/
abbrev Archive := Direction → List TimelineEntry

namespace Archive

/-- A recorded entry comes before the others, and what could be redone is given up. -/
def recorded (all : Archive) (t : Timeline) (entry : Except RecordFault (Option TimelineEntry)) :
    Archive
  | .undo =>
    match entry with
    | .ok (some entry) => entry :: all .undo
    | _ => all .undo
  | .redo => if t.config.enabled then [] else all .redo

def travelled (all : Archive) (t : Timeline) (a : Ambient) (d : Direction)
    (captured : Except StateFault NarrativeState) (d' : Direction) : List TimelineEntry :=
  match t.config.enabled, t.ahead d, captured with
  | true, entry :: _, .ok current =>
    if d' = d then (all d').tail else leaving a current entry.action :: all d'
  | _, _, _ => all d'

def configured (all : Archive) (c : Config) (d : Direction) : List TimelineEntry :=
  if c.enabled then all d else []

variable {few all : Archive}

end Archive

/-- What the owner of a live state does with a timeline, and what it does besides. -/
inductive Call where
  | record (state : NarrativeState) (action : Action) (metadata : Entries Value)
  /-- The owner may fail to capture its state. -/
  | travel (direction : Direction) (captured : Except StateFault NarrativeState)
  | clear
  | configure (changes : Entries Value)
  /-- The owner becomes another one, with the same timeline. -/
  | elsewhere (owner : Engine)

end Timeline

namespace Engine
open Timeline

def called (e : Engine) : Call → Engine
  | .record state action metadata =>
    let (_, timeline, ambient) := e.timeline.record e.ambient state action metadata
    { e with timeline, ambient }
  | .travel d captured => (e.travelFrom captured d).2
  | .clear => e.clearTimeline
  | .configure changes => (e.configureTimeline changes).2
  | .elsewhere owner => { owner with timeline := e.timeline }

end Engine

namespace Timeline.Archive

def called (all : Archive) (e : Engine) : Call → Archive
  | .record state action metadata =>
    all.recorded e.timeline (e.timeline.record e.ambient state action metadata).1
  | .travel d captured => all.travelled e.timeline e.ambient d captured
  | .clear => fun _ => []
  | .configure changes =>
    match (e.configureTimeline changes).1 with
    | .ok c => all.configured c
    | .error _ => all
  | .elsewhere _ => all

end Timeline.Archive

namespace Engine
open Timeline
variable {e : Engine} {all : Archive}

end Engine
end Storyline
