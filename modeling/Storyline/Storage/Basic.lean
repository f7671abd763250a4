import Storyline.Json.Read
import Storyline.Json.Write

namespace Storyline.Storage

inductive Fault where
  | keyNotText
  | keyBlank
  | keyCharacters (key : String)
  | nameTooLong (path : String)
  | isDirectory (path : String)
  | number (fault : NumberFault)
  | malformed (reason : String)
  | unavailable (reason : String)
  deriving DecidableEq

def Fault.message : Fault → String
  | keyNotText => "storage key must be a string"
  | keyBlank => "storage key must be a non-empty string"
  | keyCharacters key =>
    "Storage key '" ++ key ++ "' may only contain letters, digits, '.', '_' and '-'"
  | nameTooLong path => "[Errno 36] File name too long: " ++ Text.quoted path
  | isDirectory path => "[Errno 21] Is a directory: " ++ Text.quoted path
  | number fault => fault.message
  | malformed reason => reason
  | unavailable reason => reason

instance : Failing Fault :=
  .sorted (fun
    | .keyNotText => .wrongKind
    | .nameTooLong _ => .system
    | .isDirectory _ => .directory
    | .unavailable _ => .unavailable
    | _ => .wrongValue) Fault.message

/-- The outcome of a write: under which key, how many bytes, or why not. -/
structure Receipt where
  key : String
  size : Nat
  error : Option String
  success : Bool

def Receipt.payload (r : Receipt) : Value :=
  .record [("success", .bool r.success), ("key", .text r.key), ("size", .int r.size),
    ("error", Value.ofText? r.error)]

def Receipt.stored (key : String) (size : Nat) : Receipt := ⟨key, size, none, true⟩

def Receipt.refused (key : String) (error : Option String) : Receipt := ⟨key, 0, error, false⟩

def notSerializable (f : Json.WriteFault) : String :=
  "Envelope is not serializable: " ++ f.message

def keyOf : Value → Except Fault String
  | .text s =>
    let key := Text.trim s
    if key.isEmpty then .error .keyBlank else .ok key
  | _ => .error .keyNotText

end Storyline.Storage
