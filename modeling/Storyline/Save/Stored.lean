import Storyline.Save.Result
import Storyline.Storage

namespace Storyline.Save

/-- A value that has no fields was asked for one. -/
structure NoFields where
  kind : String
  deriving DecidableEq

def NoFields.message (f : NoFields) : String :=
  "'" ++ f.kind ++ "' object has no attribute 'get'"

instance : Failing NoFields := .simple .noMember NoFields.message

def noStorage : String := "No storage adapter configured"

def storageError (f : Storage.Fault) : String := "Storage error: " ++ f.message

def carriedChecksum (envelope : Value) : Except NoFields Value :=
  match envelope with
  | .record fields =>
    match (Entries.get? fields "metadata").getD .null with
    | .record metadata => .ok ((Entries.get? metadata "checksum").getD .null)
    | v => if v.isHollow then .ok .null else .error ⟨v.kind⟩
  | v => .error ⟨v.kind⟩

def saveTo (storage : Option Storage) (key envelope : Value) :
    Except NoFields Result × Option Storage :=
  match storage with
  | none => (.ok (.failure noStorage []), none)
  | some s =>
    match s.save key envelope with
    | .error fault => (.ok (.failure (storageError fault) []), some s)
    | .ok (receipt, s) =>
      if receipt.success then
        ((carriedChecksum envelope).map fun checksum =>
          .ok [("key", .text receipt.key), ("size", .int receipt.size), ("checksum", checksum),
            ("duration", noTime)] [], some s)
      else
        let reason := receipt.error.getD ""
        (.ok (.failure (if reason.isEmpty then "Storage error" else reason) []), some s)

def fetchFrom (storage : Option Storage) (key : Value) : Except String Value :=
  match storage with
  | none => .error noStorage
  | some s =>
    match s.load key with
    | .error fault => .error (storageError fault)
    | .ok none =>
      .error ("No saved state found for key '" ++ key.plainText.toOption.getD "" ++ "'")
    | .ok (some v) =>
      if v.isNull then
        .error ("No saved state found for key '" ++ key.plainText.toOption.getD "" ++ "'")
      else .ok v

end Storyline.Save
