import Storyline.Time.Iso
import Storyline.Failing
import Storyline.Text.Order
import Storyline.Value.Field

namespace Storyline.Autosave

inductive Trigger where
  | choice
  | flagChange
  | stateLoad
  | branchExit
  | custom
  deriving DecidableEq

namespace Trigger

def name : Trigger → String
  | choice => "choice"
  | flagChange => "flag-change"
  | stateLoad => "state-load"
  | branchExit => "branch-exit"
  | custom => "custom"

def all : List Trigger := [choice, flagChange, stateLoad, branchExit, custom]

def ofName? (name : String) : Option Trigger := all.find? (·.name == name)

end Trigger

/-- Wishes for automatic saves, still to be checked. -/
structure Wishes where
  enabled : Bool := false
  triggers : List String := ["choice", "flag-change"]
  maxEntries : Int := 10
  /-- The least time between two saves, in seconds. -/
  throttle : Number := .double (Time.seconds 100)
  describes : Bool := true
  pattern : String := "autosave-\x7btimestamp\x7d-\x7bnode_id\x7d"

/-- At least one save is kept, and the throttle is no negative time. -/
structure Config where
  enabled : Bool
  triggers : List Trigger
  maxEntries : Nat
  throttle : Number
  describes : Bool
  /-- The template for names, with the time in milliseconds, the node and the trigger. -/
  pattern : String
  entries_pos : 0 < maxEntries
  throttle_nonneg : throttle.less (.int 0) = false

inductive ConfigFault where
  | unknownTriggers (names : List String)
  | maxEntries
  | throttle
  deriving DecidableEq

def ConfigFault.message : ConfigFault → String
  | unknownTriggers names => "Unknown autosave trigger(s): " ++ ", ".intercalate names
  | maxEntries => "max_entries must be a positive integer"
  | throttle => "throttle_seconds must not be negative"

instance : Failing ConfigFault := .simple .wrongValue ConfigFault.message

def Wishes.changed (w : Wishes) (changes : Entries Value) : Wishes :=
  { enabled := changes.boolOr "enabled" w.enabled
    triggers := (changes.texts? "triggers").getD w.triggers
    maxEntries := changes.intOr "max_entries" w.maxEntries
    throttle := (changes.number? "throttle_seconds").getD w.throttle
    describes := changes.boolOr "include_metadata" w.describes
    pattern := changes.textOr "name_pattern" w.pattern }

namespace Config

def make (w : Wishes) : Except ConfigFault Config :=
  let unknown := w.triggers.filter fun n => (Trigger.ofName? n).isNone
  if !unknown.isEmpty then .error (.unknownTriggers (Text.asSet unknown))
  else if hn : 0 < w.maxEntries then
    if ht : w.throttle.less (.int 0) = false then
      .ok { enabled := w.enabled, triggers := (Text.asSet w.triggers).filterMap Trigger.ofName?
            maxEntries := w.maxEntries.toNat, throttle := w.throttle, describes := w.describes
            pattern := w.pattern, entries_pos := by omega, throttle_nonneg := ht }
    else .error .throttle
  else .error .maxEntries

def wishes (c : Config) : Wishes :=
  { enabled := c.enabled, triggers := c.triggers.map Trigger.name, maxEntries := c.maxEntries
    throttle := c.throttle, describes := c.describes, pattern := c.pattern }

def payload (c : Config) : Value :=
  .record [("enabled", .bool c.enabled),
    ("triggers", .texts (Text.inOrder (c.triggers.map Trigger.name))),
    ("max_entries", .int c.maxEntries), ("throttle_seconds", .number c.throttle),
    ("include_metadata", .bool c.describes), ("name_pattern", .text c.pattern)]

end Config
end Storyline.Autosave
