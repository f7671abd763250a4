import Storyline.Failing
import Storyline.Number.Reading
import Storyline.Settings.Location
import Storyline.Text.LetterCase
import Storyline.Time.Iso
import Storyline.Value.Field

namespace Storyline

structure Settings where
  storyPath : Option String := none
  saveFolder : Option String := none
  maxUndo : Int := 50
  maxRedo : Int := 50
  maxCheckpoints : Int := 50
  autosaves : Bool := false
  /-- The least time between two automatic saves, in seconds. -/
  throttle : Number := .double (Time.seconds 100)
  maxAutosaves : Int := 10
  cacheSize : Int := 100
  logLevel : String := "INFO"

inductive SettingsFault where
  | noHome
  | notInteger (name : String)
  | notPositive (name : String)
  | notSeconds (name : String)
  | negative (name : String)
  | notBool (name : String)
  deriving DecidableEq

def SettingsFault.message : SettingsFault → String
  | noHome => "Could not determine home directory."
  | notInteger name => name ++ " must be a positive integer."
  | notPositive name => name ++ " must be greater than zero."
  | notSeconds name => name ++ " must be a number of seconds."
  | negative name => name ++ " must not be negative."
  | notBool name => name ++ " must be a boolean (true/false)."

instance : Failing SettingsFault :=
  .sorted (fun
    | .noHome => .unavailable
    | _ => .wrongValue) SettingsFault.message

/-- The environment: texts under the names of variables, and the home folder. -/
structure Environment where
  home : Location
  texts : Entries String

namespace Environment

def get? (e : Environment) (name : String) : Option String :=
  ((e.texts.get? name).map Text.trim).filter fun s => !s.isEmpty

def path (e : Environment) (name : String) : Except SettingsFault (Option String) :=
  match e.get? name with
  | none => .ok none
  | some s =>
    match (Location.ofText s).expand? e.home with
    | some l => .ok (some l.text)
    | none => .error .noHome

def positive (e : Environment) (name : String) (default : Int) : Except SettingsFault Int :=
  match e.get? name with
  | none => .ok default
  | some s =>
    match Reading.integer s with
    | .error _ => .error (.notInteger name)
    | .ok n => if n < 1 then .error (.notPositive name) else .ok n

def seconds (e : Environment) (name : String) (default : Number) : Except SettingsFault Number :=
  match e.get? name with
  | none => .ok default
  | some s =>
    match Reading.double? s with
    | none => .error (.notSeconds name)
    | some d => if (Number.double d).less (.int 0) then .error (.negative name) else .ok (.double d)

def bool (e : Environment) (name : String) (default : Bool) : Except SettingsFault Bool :=
  match (e.get? name).map Text.lower with
  | none => .ok default
  | some s =>
    if ["1", "true", "yes", "on"].contains s then .ok true
    else if ["0", "false", "no", "off"].contains s then .ok false
    else .error (.notBool name)

end Environment

namespace Settings

def ofEnvironment (e : Environment) : Except SettingsFault Settings := do
  let standard : Settings := {}
  return {
    storyPath := ← e.path "TALEWEAVER_STORY_PATH"
    saveFolder := ← e.path "TALEWEAVER_SAVE_DIR"
    maxUndo := ← e.positive "TALEWEAVER_MAX_UNDO_ENTRIES" standard.maxUndo
    maxRedo := ← e.positive "TALEWEAVER_MAX_REDO_ENTRIES" standard.maxRedo
    maxCheckpoints := ← e.positive "TALEWEAVER_MAX_CHECKPOINTS" standard.maxCheckpoints
    autosaves := ← e.bool "TALEWEAVER_AUTOSAVE_ENABLED" standard.autosaves
    throttle := ← e.seconds "TALEWEAVER_AUTOSAVE_THROTTLE_SECONDS" standard.throttle
    maxAutosaves := ← e.positive "TALEWEAVER_AUTOSAVE_MAX_ENTRIES" standard.maxAutosaves
    cacheSize := ← e.positive "TALEWEAVER_CONDITION_CACHE_SIZE" standard.cacheSize
    logLevel := Text.upper ((e.get? "TALEWEAVER_LOG_LEVEL").getD standard.logLevel) }

def ofFields (r : Entries Value) : Settings :=
  let standard : Settings := {}
  { storyPath := r.text? "story_path"
    saveFolder := r.text? "save_dir"
    maxUndo := r.intOr "max_undo_entries" standard.maxUndo
    maxRedo := r.intOr "max_redo_entries" standard.maxRedo
    maxCheckpoints := r.intOr "max_checkpoints" standard.maxCheckpoints
    autosaves := r.boolOr "autosave_enabled" standard.autosaves
    throttle := (r.number? "autosave_throttle_seconds").getD standard.throttle
    maxAutosaves := r.intOr "autosave_max_entries" standard.maxAutosaves
    cacheSize := r.intOr "condition_cache_size" standard.cacheSize
    logLevel := r.textOr "log_level" standard.logLevel }

def payload (s : Settings) : Value :=
  .record [("story_path", Value.ofText? s.storyPath), ("save_dir", Value.ofText? s.saveFolder),
    ("max_undo_entries", .int s.maxUndo), ("max_redo_entries", .int s.maxRedo),
    ("max_checkpoints", .int s.maxCheckpoints), ("autosave_enabled", .bool s.autosaves),
    ("autosave_throttle_seconds", .number s.throttle),
    ("autosave_max_entries", .int s.maxAutosaves), ("condition_cache_size", .int s.cacheSize),
    ("log_level", .text s.logLevel)]

end Settings
end Storyline
