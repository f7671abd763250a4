import Storyline.Save.Load
import Storyline.Value.Patch

namespace Storyline.Save

def unchanged : Migration := .ok

def patching (changes : List Change) : Migration := fun fields =>
  match (Value.record fields).patched changes with
  | .record fields => .ok fields
  | v => .error ("'" ++ v.kind ++ "' object is not iterable")

def recordAt (fields : Entries Value) (key : String) : Except String (Entries Value) :=
  match fields.get? key with
  | some (.record r) => .ok r
  | _ => .error (Text.quoted key)

def renamingFlag (source target : String) : Migration := fun fields => do
  let state ← recordAt fields "state"
  let flags ← recordAt state "flags"
  let some v := flags.get? source | .error (Text.quoted source)
  let flags := (flags.erase source).put target v
  return fields.put "state" (.record (state.put "flags" (.record flags)))

end Storyline.Save
