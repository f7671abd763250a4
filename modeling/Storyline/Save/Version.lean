import Storyline.Number.Reading
import Storyline.Text.Pieces

namespace Storyline.Save

structure Version where
  major : Int
  minor : Int
  patch : Int
  deriving DecidableEq

namespace Version

def current : Version := ⟨1, 0, 0⟩

def currentText : String := "1.0.0"

/-- One to three whole numbers with points between them; missing ones are zero. -/
def read? (s : String) : Option Version := do
  let parts := Text.pieces '.' (Text.trimChars s.toList)
  if 3 < parts.length then none
  let numbers ← parts.mapM fun cs => (Reading.integer (String.ofList cs)).toOption
  return ⟨numbers.getD 0 0, numbers.getD 1 0, numbers.getD 2 0⟩

end Version

inductive VersionFault where
  | unrecognised (saved : String)
  | newer (saved : String)
  | older (saved : String)
  deriving DecidableEq

def VersionFault.message : VersionFault → String
  | unrecognised saved => "Unrecognised engine version '" ++ saved ++ "'"
  | newer saved =>
    "State was saved by a newer engine version (" ++ saved ++ "); current version is " ++
      Version.currentText
  | older saved =>
    "State was saved by an incompatible older engine version (" ++ saved ++
      "); migration required"

inductive Warning where
  | noStory
  | migrated (saved : String)
  | newerMinor (saved : String)
  deriving DecidableEq

def Warning.message : Warning → String
  | noStory => "Serialized state has no story identifier; skipping story check"
  | migrated saved =>
    "State was saved by engine version " ++ saved ++ "; relying on the supplied migration function"
  | newerMinor saved =>
    "State was saved by a newer minor engine version (" ++ saved ++ "); some data may be ignored"

/-- The warnings under which a saved version loads, or why it does not. -/
def checkVersion (saved : String) (hasMigration : Bool) : Except VersionFault (List Warning) :=
  match Version.read? saved with
  | none => .error (.unrecognised saved)
  | some v =>
    if Version.current.major < v.major then .error (.newer saved)
    else if v.major < Version.current.major then
      if hasMigration then .ok [.migrated saved] else .error (.older saved)
    else if Version.current.minor < v.minor then .ok [.newerMinor saved]
    else .ok []

end Storyline.Save
