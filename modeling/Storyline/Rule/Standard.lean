import Storyline.Rule.Verdict
import Storyline.Condition.Coercion
import Storyline.Time.Iso

namespace Storyline.Rule

def checkExists (c : Choice) (x : RuleContext) : Except RuleFault Verdict :=
  if x.node.choices.any (·.looksLike c) then .ok (.passed [])
  else .ok (.failed ("Choice \"" ++ c.text ++ "\" is not available from current node")
    ["choice-not-found"] x.node.choices [])

inductive Unmet where
  | missing (shown : String)
  | conflicting (name : String)

/-- A flag required to be true must be set and true, one required to be false must not be true,
and any other value must be equal. -/
def unmet? (flags : Entries Value) (name : String) (required : Value) :
    Except RuleFault (Option Unmet) := do
  let current := flags.get? name
  let truth : Except RuleFault Bool := match current with
    | some v => v.truthy.mapError .number
    | none => .ok false
  match required with
  | .bool true => return if ← truth then none else some (.missing name)
  | .bool false => return if ← truth then some (.conflicting name) else none
  | v =>
    if current.any (·.strictEquals v) then return none
    return some (.missing (name ++ "=" ++ (← v.toText.mapError .number)))

def unmet (flags : Entries Value) : Entries Value → Except RuleFault (List Unmet)
  | [] => .ok []
  | (name, required) :: rest => do
    let found ← unmet? flags name required
    return found.toList ++ (← unmet flags rest)

def checkFlags (c : Choice) (x : RuleContext) : Except RuleFault Verdict := do
  let found ← unmet x.state.flags c.requirements
  let missing := found.filterMap fun | .missing s => some s | _ => none
  let conflicting := found.filterMap fun | .conflicting s => some s | _ => none
  if found.isEmpty then return .passed []
  let reasons :=
    (if missing.isEmpty then [] else ["Missing required flags: " ++ ", ".intercalate missing]) ++
    (if conflicting.isEmpty then [] else ["Conflicting flags: " ++ ", ".intercalate conflicting])
  return .failed ("Flag conditions not met: " ++ "; ".intercalate reasons)
    (missing ++ conflicting) []
    [("missingFlags", .texts missing), ("conflictingFlags", .texts conflicting)]

def checkEnabled (c : Choice) (_ : RuleContext) : Except RuleFault Verdict :=
  if c.enabled == some false then
    .ok (.failed ("Choice \"" ++ c.text ++ "\" is currently disabled") ["choice-disabled"] [] [])
  else .ok (.passed [])

def windowFailures (w : TimeWindow) (now : Number) : List String :=
  let after := w.availableAfter.toList.flatMap fun date =>
    match Time.readMilliseconds? date with
    | none => ["invalid availableAfter date " ++ date]
    | some t => if now.less (.double t) then ["not available until " ++ date] else []
  let before := w.availableBefore.toList.flatMap fun date =>
    match Time.readMilliseconds? date with
    | none => ["invalid availableBefore date " ++ date]
    | some t => if (Number.double t).less now then ["no longer available after " ++ date] else []
  let min := w.minTime.toList.flatMap fun t =>
    if now.less t then ["minimum time not reached"] else []
  let max := w.maxTime.toList.flatMap fun t =>
    if t.less now then ["maximum time exceeded"] else []
  after ++ before ++ min ++ max

def checkTime (c : Choice) (x : RuleContext) : Except RuleFault Verdict :=
  match c.window with
  | none => .ok (.passed [])
  | some w =>
    let failures := windowFailures w x.time
    if failures.isEmpty then .ok (.passed [])
    else .ok (.failed ("Time conditions not met: " ++ ", ".intercalate failures) failures []
      [("currentTime", .number x.time), ("timeRequirements", w.payload)])

/-- How many of an item an inventory holds; what is not a number counts as nothing. -/
def held (inventory : Entries Value) (item : String) : Number :=
  match inventory.get? item with
  | some (.number n) => if n.isZero then .int 0 else n
  | _ => .int 0

def lacking (inventory : Entries Value) : Entries Value → Except RuleFault (List String)
  | [] => .ok []
  | (item, required) :: rest => do
    let count := held inventory item
    match required.quantity? with
    | some need =>
      let more := lacking inventory rest
      if count.less need then
        let need ← required.toText.mapError .number
        let count ← (Value.number count).toText.mapError .number
        return (item ++ " (need " ++ need ++ ", have " ++ count ++ ")") :: (← more)
      else more
    | none => .error (.notComparable (Value.number count).kind required.kind)

def inventoryOf (flags : Entries Value) : Entries Value :=
  match flags.get? "inventory" with
  | some (.record fields) => fields
  | _ => []

def checkInventory (c : Choice) (x : RuleContext) : Except RuleFault Verdict := do
  let inventory := inventoryOf x.state.flags
  let missing ← lacking inventory c.inventory
  if missing.isEmpty then return .passed []
  return .failed ("Insufficient inventory: " ++ ", ".intercalate missing) missing []
    [("currentInventory", .record inventory), ("requirements", .record c.inventory)]

def choiceExists : Rule := ⟨"choice-exists", 1, checkExists⟩

def flagConditions : Rule := ⟨"flag-conditions", 2, checkFlags⟩

def choiceEnabled : Rule := ⟨"choice-enabled", 3, checkEnabled⟩

def timeConditions : Rule := ⟨"time-conditions", 4, checkTime⟩

def inventoryConditions : Rule := ⟨"inventory-conditions", 5, checkInventory⟩

def standard : List Rule :=
  [choiceExists, flagConditions, choiceEnabled, timeConditions, inventoryConditions]

end Storyline.Rule
