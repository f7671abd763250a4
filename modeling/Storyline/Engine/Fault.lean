import Storyline.Autosave
import Storyline.Condition.Evaluator
import Storyline.Engine.Rejection
import Storyline.Save.Load
import Storyline.Save.Stored
import Storyline.Timeline

namespace Storyline

inductive NavigationFault where
  | unknownNode (id : String)
  /-- The index as it was given and as it is shown, and the number of choices in sight. -/
  | badIndex (index : Value) (shown : String) (count : Nat) (node : String)
  | leadsNowhere (text target : String)

namespace NavigationFault

def message : NavigationFault → String
  | unknownNode id => "Node '" ++ id ++ "' does not exist in the story"
  | badIndex _ shown count _ =>
    "Invalid choice index " ++ shown ++ "; " ++ toString count ++ " choice(s) available"
  | leadsNowhere text target => "Choice \"" ++ text ++ "\" leads to unknown node '" ++ target ++ "'"

def metadata : NavigationFault → Entries Value
  | unknownNode id => [("nodeId", .text id)]
  | badIndex index _ count node =>
    [("index", index), ("choiceCount", .int count), ("nodeId", .text node)]
  | leadsNowhere _ target => [("nodeId", .text target)]

def report (f : NavigationFault) : Report :=
  ⟨"NavigationError", "NAVIGATION_ERROR", f.message, f.metadata⟩

end NavigationFault

instance : Failing NavigationFault := .narrative NavigationFault.report

inductive SetupFault where
  | navigation (fault : NavigationFault)
  | state (fault : StateFault)
  | cache (fault : Condition.CacheFault)
  | shelf (fault : CheckpointFault)
  | timeline (fault : Timeline.ConfigFault)
  | autosave (fault : Autosave.ConfigFault)

instance : Failing SetupFault where
  sort
    | .navigation f => Failing.sort f
    | .state f => Failing.sort f
    | .cache f => Failing.sort f
    | .shelf f => Failing.sort f
    | .timeline f => Failing.sort f
    | .autosave f => Failing.sort f
  message
    | .navigation f => f.message
    | .state f => f.message
    | .cache f => f.message
    | .shelf f => f.message
    | .timeline f => f.message
    | .autosave f => f.message
  report?
    | .navigation f => some f.report
    | .state f => some f.report
    | .shelf f => Failing.report? f
    | _ => none

/-- Why an engine does not do what it is asked. -/
inductive EngineFault where
  | navigation (fault : NavigationFault)
  | rejected (rejection : Rejection)
  /-- A number that is too long to be read in a condition, or to be shown. -/
  | number (fault : NumberFault)
  | rule (fault : RuleFault)
  | record (fault : Timeline.RecordFault)
  | blankFlag
  | uncopyable
  | state (fault : StateFault)
  | payload (fault : NarrativeState.PayloadFault)
  | load (fault : Save.LoadFault)
  | noFields (fault : Save.NoFields)
  /-- The template for the names of automatic saves. -/
  | template (fault : Template.Fault)
  | checkpoint (fault : CheckpointFault)
  | timeline (fault : Timeline.ConfigFault)
  | autosave (fault : Autosave.ConfigFault)

namespace EngineFault

def message : EngineFault → String
  | navigation f => f.message
  | rejected r => r.message
  | number f => f.message
  | rule f => f.message
  | record f => f.message
  | blankFlag => "flag name must be a non-empty string"
  | uncopyable => refusesCopy
  | state f => f.message
  | payload f => Failing.message f
  | load f => f.message
  | noFields f => f.message
  | template f => f.message
  | checkpoint f => f.message
  | timeline f => f.message
  | autosave f => f.message

def sort : EngineFault → FailureSort
  | navigation f => Failing.sort f
  | rejected r => Failing.sort r
  | number f => Failing.sort f
  | rule f => Failing.sort f
  | record f => Failing.sort f
  | blankFlag => .wrongValue
  | uncopyable => .wrongKind
  | state f => Failing.sort f
  | payload f => Failing.sort f
  | load f => Failing.sort f
  | noFields f => Failing.sort f
  | template f => Failing.sort f
  | checkpoint f => Failing.sort f
  | timeline f => Failing.sort f
  | autosave f => Failing.sort f

def report? : EngineFault → Option Report
  | navigation f => some f.report
  | rejected r => some r.report
  | record f => Failing.report? f
  | state f => some f.report
  | payload f => Failing.report? f
  | load f => Failing.report? f
  | checkpoint f => Failing.report? f
  | _ => none

end EngineFault

instance : Failing EngineFault := ⟨EngineFault.sort, EngineFault.message, EngineFault.report?⟩

end Storyline
