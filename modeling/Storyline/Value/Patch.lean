import Storyline.Value

namespace Storyline

inductive PathStep where
  | field (name : String)
  | item (index : Nat)
  deriving DecidableEq

/-- The part at a path gets a new value, or is taken away. -/
structure Change where
  path : List PathStep
  value : Option Value

namespace Value

/-- The value with one change. Nothing changes if the way to the part is not there. -/
def changeAt (change : Option Value) : List PathStep → Value → Value
  | [], v => change.getD v
  | [.field k], .record fields =>
    match change with
    | some v => .record (Entries.put fields k v)
    | none => .record (Entries.erase fields k)
  | .field k :: rest, .record fields =>
    match Entries.get? fields k with
    | some v => .record (Entries.put fields k (changeAt change rest v))
    | none => .record fields
  | [.item i], .list items =>
    match change with
    | some v => .list (items.set i v)
    | none => .list (items.eraseIdx i)
  | .item i :: rest, .list items => .list (items.modify i (changeAt change rest))
  | _, v => v

def patched (changes : List Change) (v : Value) : Value :=
  changes.foldl (fun v c => v.changeAt c.value c.path) v

end Value
end Storyline
