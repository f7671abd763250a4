import Storyline.Storage.Basic

namespace Storyline.Storage

inductive FolderItem where
  | file (text : String)
  | folder

/-- Why a text did not get into a file, and what is in the file then. -/
structure WriteFault where
  reason : String
  left : String

/-- What goes wrong when a text is written to the file of a name, which was emptied before. -/
abbrev Disk := String → String → Option WriteFault

namespace Disk

def sound : Disk := fun _ _ => none

def Takes (disk : Disk) : Prop := ∀ name text, disk name text = none

end Disk

/-- Saves as files of a folder, one for each key. Others may put files and folders there too. -/
structure Folder where
  path : String
  items : Entries FolderItem

namespace Folder

def fileSuffix : String := ".json"

/-- A key that is also a file name: it starts with a letter or digit, and goes on with those,
points, underscores and dashes. -/
def isFileKey : List Char → Bool
  | [] => false
  | c :: rest =>
    c.isAlphanum && rest.all fun c => c.isAlphanum || c == '.' || c == '_' || c == '-'

def maxNameBytes : Nat := 255

def pathOf (f : Folder) (name : String) : String := f.path ++ "/" ++ name

def entryOf (v : Value) : Except Fault (String × String) := do
  let key ← keyOf v
  if isFileKey key.toList then return (key, key ++ fileSuffix) else .error (.keyCharacters key)

def look (f : Folder) (name : String) : Except Fault (Option FolderItem) :=
  if maxNameBytes < name.utf8ByteSize then .error (.nameTooLong (f.pathOf name))
  else .ok (f.items.get? name)

def writeFault? (f : Folder) (name : String) : Option Fault :=
  match f.look name with
  | .error fault => some fault
  | .ok (some .folder) => some (.isDirectory (f.pathOf name))
  | .ok _ => none

def notWritten (f : Folder) (key name reason : String) : Receipt :=
  .refused key (some ("Failed to write '" ++ f.pathOf name ++ "': " ++ reason))

def save (f : Folder) (disk : Disk) (key envelope : Value) : Except Fault (Receipt × Folder) := do
  let (key, name) ← entryOf key
  match Json.write .indented envelope with
  | .error fault => return (.refused key (some (notSerializable fault)), f)
  | .ok text =>
    match f.writeFault? name with
    | some fault => return (f.notWritten key name fault.message, f)
    | none =>
      match disk name text with
      | some fault =>
        return (f.notWritten key name fault.reason,
          { f with items := f.items.put name (.file fault.left) })
      | none =>
        return (.stored key text.utf8ByteSize, { f with items := f.items.put name (.file text) })

def load (f : Folder) (key : Value) : Except Fault (Option Value) := do
  let (_, name) ← entryOf key
  match ← f.look name with
  | some (.file text) =>
    match Json.read text with
    | .ok (.record fields) => return some (.record fields)
    | .error (.number fault) => .error (.number fault)
    | _ => return none
  | _ => return none

def delete (f : Folder) (key : Value) : Except Fault (Bool × Folder) := do
  let (_, name) ← entryOf key
  match ← f.look name with
  | none => return (false, f)
  | some .folder => .error (.isDirectory (f.pathOf name))
  | some (.file _) => return (true, { f with items := f.items.erase name })

def holds (f : Folder) (key : Value) : Except Fault Bool := do
  let (_, name) ← entryOf key
  match ← f.look name with
  | some (.file _) => return true
  | _ => return false

def saves (f : Folder) : Entries String :=
  f.items.filterMap fun (name, item) =>
    match item with
    | .file text => if name.endsWith fileSuffix then some (name, text) else none
    | .folder => none

/-- A file name without its suffix; a name that is only the suffix stays. -/
def stem (name : String) : String :=
  let short := name.toList.take (name.length - fileSuffix.length)
  if short.isEmpty then name else String.ofList short

def clear (f : Folder) : Folder :=
  { f with items := f.items.filter fun e => !f.saves.any (·.1 == e.1) }

end Folder
end Storyline.Storage
