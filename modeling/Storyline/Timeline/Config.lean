import Storyline.Text.Order
import Storyline.Failing
import Storyline.Value.Field

namespace Storyline

inductive Action where
  | choice
  | flagChange
  | stateLoad
  | reset
  | navigation
  | custom
  | other (name : String)
  deriving DecidableEq

namespace Action

def name : Action → String
  | choice => "choice"
  | flagChange => "flag-change"
  | stateLoad => "state-load"
  | reset => "reset"
  | navigation => "navigation"
  | custom => "custom"
  | other name => name

def trackable : List Action := [choice, flagChange, stateLoad, reset, navigation, custom]

def ofName (name : String) : Action := (trackable.find? (·.name == name)).getD (.other name)

end Action

namespace Timeline

/-- Wishes for a timeline, still to be checked. -/
structure Wishes where
  enabled : Bool := true
  maxUndo : Int := 50
  maxRedo : Int := 50
  keepsFlags : Bool := true
  keepsText : Bool := true
  actions : List String := Action.trackable.map Action.name

/-- How a timeline records. Each side holds at least one entry. -/
structure Config where
  enabled : Bool
  maxUndo : Nat
  maxRedo : Nat
  /-- Entries name the flags that were changed. -/
  keepsFlags : Bool
  /-- Entries name the text that was chosen. -/
  keepsText : Bool
  actions : List Action
  undo_pos : 0 < maxUndo
  redo_pos : 0 < maxRedo

inductive ConfigFault where
  | bounds
  | unknownActions (names : List String)
  deriving DecidableEq

def ConfigFault.message : ConfigFault → String
  | bounds => "undo/redo bounds must be positive integers"
  | unknownActions names => "Unknown tracked action(s): " ++ ", ".intercalate names

instance : Failing ConfigFault := .simple .wrongValue ConfigFault.message

def Wishes.changed (w : Wishes) (changes : Entries Value) : Wishes :=
  { enabled := changes.boolOr "enabled" w.enabled
    maxUndo := changes.intOr "max_undo_entries" w.maxUndo
    maxRedo := changes.intOr "max_redo_entries" w.maxRedo
    keepsFlags := changes.boolOr "track_flag_changes" w.keepsFlags
    keepsText := changes.boolOr "track_choice_text" w.keepsText
    actions := (changes.texts? "track_actions").getD w.actions }

namespace Config

def make (w : Wishes) : Except ConfigFault Config :=
  if h : 0 < w.maxUndo ∧ 0 < w.maxRedo then
    let unknown := w.actions.filter fun n => !Action.trackable.contains (Action.ofName n)
    if unknown.isEmpty then
      .ok { enabled := w.enabled, maxUndo := w.maxUndo.toNat, maxRedo := w.maxRedo.toNat,
            keepsFlags := w.keepsFlags, keepsText := w.keepsText,
            actions := (Text.asSet w.actions).map Action.ofName,
            undo_pos := by omega, redo_pos := by omega }
    else .error (.unknownActions (Text.asSet unknown))
  else .error .bounds

def wishes (c : Config) : Wishes :=
  ⟨c.enabled, c.maxUndo, c.maxRedo, c.keepsFlags, c.keepsText, c.actions.map Action.name⟩

def payload (c : Config) : Value :=
  .record [("enabled", .bool c.enabled), ("max_undo_entries", .int c.maxUndo),
    ("max_redo_entries", .int c.maxRedo), ("track_flag_changes", .bool c.keepsFlags),
    ("track_choice_text", .bool c.keepsText),
    ("track_actions", .texts (Text.inOrder (c.actions.map Action.name)))]

def standard : Config where
  enabled := true
  maxUndo := 50
  maxRedo := 50
  keepsFlags := true
  keepsText := true
  actions := Action.trackable
  undo_pos := by decide
  redo_pos := by decide

end Config
end Timeline
end Storyline
