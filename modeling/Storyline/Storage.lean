import Storyline.Storage.Folder
import Storyline.Text.Order

namespace Storyline

/-- A store in memory, in a folder, or of the embedding application, which may fail or refuse to
write. -/
inductive Storage where
  | memory (texts : Entries String)
  | folder (folder : Storage.Folder)
  /-- A folder on a disk that may fail while it writes. -/
  | onDisk (disk : Storage.Disk) (folder : Storage.Folder)
  | unavailable (reason : String)
  | refusing (reason : Option String)

namespace Storage

def ofKind? (kind path : String) : Option Storage :=
  match kind with
  | "memory" => some (.memory [])
  | "file" => some (.folder ⟨path, []⟩)
  | _ => none

def unknownKind (kind : String) : String := "Unknown storage adapter type: " ++ kind

def save (s : Storage) (key envelope : Value) : Except Fault (Receipt × Storage) :=
  match s with
  | .memory texts => do
    let key ← keyOf key
    match Json.write .oneLine envelope with
    | .error fault => return (.refused key (some (notSerializable fault)), s)
    | .ok text => return (.stored key text.utf8ByteSize, .memory (texts.put key text))
  | .folder f => do
    let (receipt, f) ← f.save .sound key envelope
    return (receipt, .folder f)
  | .onDisk disk f => do
    let (receipt, f) ← f.save disk key envelope
    return (receipt, .onDisk disk f)
  | .unavailable reason => .error (.unavailable reason)
  | .refusing reason => .ok (.refused (key.asText?.getD "") reason, s)

def load (s : Storage) (key : Value) : Except Fault (Option Value) :=
  match s with
  | .memory texts => do
    match texts.get? (← keyOf key) with
    | none => return none
    | some text =>
      match Json.read text with
      | .ok v => return some v
      | .error (.number fault) => .error (.number fault)
      | .error fault => .error (.malformed fault.message)
  | .folder f | .onDisk _ f => f.load key
  | .unavailable reason => .error (.unavailable reason)
  | .refusing _ => (keyOf key).map fun _ => none

def delete (s : Storage) (key : Value) : Except Fault (Bool × Storage) :=
  match s with
  | .memory texts => do
    let key ← keyOf key
    return (texts.has key, .memory (texts.erase key))
  | .folder f => do
    let (found, f) ← f.delete key
    return (found, .folder f)
  | .onDisk disk f => do
    let (found, f) ← f.delete key
    return (found, .onDisk disk f)
  | s => (keyOf key).map fun _ => (false, s)

def holds (s : Storage) (key : Value) : Except Fault Bool :=
  match s with
  | .memory texts => (keyOf key).map texts.has
  | .folder f | .onDisk _ f => f.holds key
  | _ => (keyOf key).map fun _ => false

def clear : Storage → Storage
  | .memory _ => .memory []
  | .folder f => .folder f.clear
  | .onDisk disk f => .onDisk disk f.clear
  | s => s

def texts : Storage → Entries String
  | .memory texts => texts
  | .folder f | .onDisk _ f => f.saves.map fun (name, text) => (Folder.stem name, text)
  | _ => []

def keys (s : Storage) : List String := Text.inOrder (s.texts.map (·.1))

def statistics (s : Storage) : Entries Value :=
  let size := s.texts.foldl (fun size e => size + e.2.utf8ByteSize) 0
  [("totalSize", .int size), ("keyCount", .int s.texts.length)] ++
    match s with
    | .folder f | .onDisk _ f => [("backend", .text "file"), ("directory", .text f.path)]
    | _ => [("backend", .text "memory")]

end Storage
end Storyline
