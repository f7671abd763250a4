import Storyline.Checkpoint.Shelf
import Storyline.Save.Result
import Storyline.Template

namespace Storyline.Autosave

inductive Fault where
  | throttled (seconds : String)
  | state (fault : StateFault)
  | name (fault : Template.Fault)
  | checkpoint (fault : CheckpointFault)
  | size (fault : Json.WriteFault)

def Fault.message : Fault → String
  | throttled seconds =>
    "Autosave throttled: last save was less than " ++ seconds ++ "s ago"
  | state fault => "Autosave failed: " ++ fault.message
  | name fault => "Autosave failed: " ++ fault.message
  | checkpoint fault => "Autosave failed: " ++ fault.message
  | size fault => "Autosave failed: " ++ fault.message

/-- A template that asks a value for what it does not have, or for a number beyond all bounds, has a
fault that is not caught. -/
def escapes (f : Template.Fault) : Bool := [.noMember, .overflow].contains (Failing.sort f)

/-- A checkpoint that was made, and its size in bytes. -/
structure Saved where
  id : String
  size : Nat

structure Result where
  trigger : String
  saved : Except Fault Saved

namespace Result

def success (r : Result) : Bool := r.saved.isOk

def payload (r : Result) : Value :=
  let size := match r.saved with
    | .ok s => s.size
    | .error _ => 0
  .record ([("success", .bool r.success), ("trigger", .text r.trigger),
      ("duration", Save.noTime), ("size", .int size)] ++
    match r.saved with
    | .ok s => [("checkpointId", .text s.id)]
    | .error fault => [("error", .text fault.message)])

end Result

end Storyline.Autosave
