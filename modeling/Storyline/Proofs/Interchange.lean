import Storyline.Proofs.Json.Canonical
import Storyline.Storage

namespace Storyline

namespace Entries
variable {α β : Type} {f : String → String} {g : α → β}

def rekey (f : String → String) (g : α → β) (es : Entries α) : Entries β :=
  List.map (Prod.map f g) es

end Entries

namespace Json
open Value

def fate {ε α : Type} (x : Except ε α) : Except ε Unit := x.map fun _ => ()

theorem fate_bind_pure {ε α β : Type} (x : Except ε α) (f : α → β) :
    fate (x >>= fun a => pure (f a)) = fate x := by
  cases x <;> rfl

theorem fate_bind_bind_pure {ε α β γ : Type} (x : Except ε α) (y : Except ε β) (f : α → β → γ) :
    fate (x >>= fun a => y >>= fun b => pure (f a b)) = fate x >>= fun _ => fate y := by
  cases x <;> cases y <;> rfl

mutual

/-- Layouts that treat host values alike fail on the same values, with the same faults. -/
theorem writeAt_fate {l l' : Layout} (h : l.showHosts = l'.showHosts) :
    ∀ (depth depth' : Nat) (v : Value), fate (writeAt l depth v) = fate (writeAt l' depth' v)
  | _, _, .null | _, _, .bool _ | _, _, .number _ => by simp only [writeAt]
  | _, _, .text _ => rfl
  | _, _, .undefined | _, _, .host _ => by
    unfold writeAt
    rw [h]
    split <;> rfl
  | _, _, .list [] | _, _, .record [] => rfl
  | depth, depth', .list (v :: rest) => by
    simp only [writeAt, fate_bind_pure]
    exact writeItems_fate h (depth + 1) (depth' + 1) (v :: rest)
  | depth, depth', .record (e :: rest) => by
    simp only [writeAt, fate_bind_pure]
    exact writeFields_fate h (depth + 1) (depth' + 1) (e :: rest)

theorem writeItems_fate {l l' : Layout} (h : l.showHosts = l'.showHosts) :
    ∀ (depth depth' : Nat) (vs : List Value),
      fate (writeItems l depth vs) = fate (writeItems l' depth' vs)
  | _, _, [] => rfl
  | depth, depth', v :: rest => by
    simp only [writeItems, fate_bind_bind_pure, writeAt_fate h depth depth' v,
      writeItems_fate h depth depth' rest]

theorem writeFields_fate {l l' : Layout} (h : l.showHosts = l'.showHosts) :
    ∀ (depth depth' : Nat) (fields : Entries Value),
      fate (writeFields l depth fields) = fate (writeFields l' depth' fields)
  | _, _, [] => rfl
  | depth, depth', (k, v) :: rest => by
    simp only [writeFields, fate_bind_bind_pure, writeAt_fate h depth depth' v,
      writeFields_fate h depth depth' rest]

end

def textIn (l : Layout) (envelope : Entries Value) : String :=
  (write l (.record envelope)).toOption.getD ""

end Json

namespace Storage
open Folder (fileSuffix isFileKey maxNameBytes)

inductive Call where
  | save (key : String) (envelope : Entries Value)
  | load (key : String)
  | delete (key : String)
  | holds (key : String)
  | keys
  | statistics
  | clear

/-- What a store tells, but for sizes and for what kind of store it is. -/
inductive Told where
  | written (key : String) (success : Bool) (error : Option String)
  | found (envelope : Option Value)
  | answer (yes : Bool)
  | keys (keys : List String)
  | count (number : Option Value)
  | cleared

def tell (s : Storage) : Call → Except Fault (Told × Storage)
  | .save key envelope =>
    (s.save (.text key) (.record envelope)).map fun (receipt, s) =>
      (.written receipt.key receipt.success receipt.error, s)
  | .load key => (s.load (.text key)).map fun envelope => (.found envelope, s)
  | .delete key => (s.delete (.text key)).map fun (found, s) => (.answer found, s)
  | .holds key => (s.holds (.text key)).map fun found => (.answer found, s)
  | .keys => .ok (.keys s.keys, s)
  | .statistics => .ok (.count (Entries.get? s.statistics "keyCount"), s)
  | .clear => .ok (.cleared, s.clear)

/-- All that is told in calls one after the other, and the store after them. -/
def run (s : Storage) : List Call → Except Fault (List Told × Storage)
  | [] => .ok ([], s)
  | c :: rest => do
    let (told, s) ← s.tell c
    let (more, s) ← s.run rest
    return (told :: more, s)

def Takes : Storage → Prop
  | .onDisk disk _ => disk.Takes
  | _ => True

/-- The ways to store in a folder while the disk takes what is written to it. -/
inductive Mount : (Folder → Storage) → Prop
  | folder : Mount .folder
  | onDisk {disk : Disk} : disk.Takes → Mount (.onDisk disk)

namespace Mount
variable {mount : Folder → Storage} {f : Folder}

theorem save (h : Mount mount) (key envelope : Value) : (mount f).save key envelope =
    (f.save .sound key envelope).map fun (receipt, f) => (receipt, mount f) := by
  have hboth : ∀ {g : Receipt × Folder → Receipt × Storage} (x : Except Fault (Receipt × Folder)),
      (x >>= fun r => pure (g r)) = x.map g := by
    intro g x
    cases x <;> rfl
  cases h with
  | folder => exact hboth _
  | @onDisk disk hd =>
    obtain rfl : disk = .sound := funext fun name => funext (hd name)
    exact hboth _

theorem load (h : Mount mount) (key : Value) : (mount f).load key = f.load key := by
  cases h <;> rfl

theorem delete (h : Mount mount) (key : Value) : (mount f).delete key =
    (f.delete key).map fun (found, f) => (found, mount f) := by
  cases h <;> cases hd : f.delete key <;> simp [Storage.delete, hd]

theorem holds (h : Mount mount) (key : Value) : (mount f).holds key = f.holds key := by
  cases h <;> rfl

theorem clear (h : Mount mount) : (mount f).clear = mount f.clear := by
  cases h <;> rfl

theorem texts (h : Mount mount) : (mount f).texts = (Storage.folder f).texts := by
  cases h <;> rfl

theorem takes (h : Mount mount) : (mount f).Takes := by
  cases h with
  | folder => trivial
  | onDisk hd => exact hd

theorem count (h : Mount mount) : Entries.get? (mount f).statistics "keyCount" =
    some (.int (Storage.folder f).texts.length) := by
  cases h <;> rfl

end Mount
end Storage

/-- A finite map from trimmed keys to records. -/
abbrev Catalogue := Entries (Entries Value)

namespace Catalogue
open Storage
open Folder (fileSuffix)

def tell (m : Catalogue) : Call → Told × Catalogue
  | .save key envelope =>
    match Json.write .oneLine (.record envelope) with
    | .ok _ => (.written (Text.trim key) true none, m.put (Text.trim key) envelope)
    | .error fault => (.written (Text.trim key) false (some (notSerializable fault)), m)
  | .load key => (.found ((m.get? (Text.trim key)).map .record), m)
  | .delete key => (.answer (m.has (Text.trim key)), m.erase (Text.trim key))
  | .holds key => (.answer (m.has (Text.trim key)), m)
  | .keys => (.keys (Text.inOrder m.keys), m)
  | .statistics => (.count (some (.int m.length)), m)
  | .clear => (.cleared, [])

/-- All that is told in calls one after the other, and the store after them. -/
def run (m : Catalogue) : List Call → List Told × Catalogue
  | [] => ([], m)
  | c :: rest => ((m.tell c).1 :: (run (m.tell c).2 rest).1, (run (m.tell c).2 rest).2)

/-- Every key is in the map once and is not empty, and the records can be read from their texts. -/
structure Sound (m : Catalogue) : Prop where
  distinct : m.keys.Nodup
  named : ∀ e ∈ m, e.1 ≠ ""
  oneLine : ∀ e ∈ m, Json.read (Json.textIn .oneLine e.2) = .ok (.record e.2)
  indented : ∀ e ∈ m, Json.read (Json.textIn .indented e.2) = .ok (.record e.2)

def files (m : Catalogue) : Entries FolderItem :=
  m.rekey (· ++ fileSuffix) fun envelope => .file (Json.textIn .indented envelope)

variable {m : Catalogue} {key path : String} {envelope : Entries Value} {call : Call}

variable {mount : Folder → Storage}

end Catalogue

namespace Storage

variable {s s' : Storage} {receipt : Receipt}

/-- What a save that fails may do to a store: nothing, or a disk fails while it writes the file of
one key. -/
structure Survives (s s' : Storage) : Prop where
  whole : s.Takes → s' = s
  others : ∃ key, ∀ other, Text.trim other ≠ Text.trim key →
    s'.load (.text other) = s.load (.text other)

theorem Survives.refl (s : Storage) : s.Survives s := ⟨fun _ => rfl, "", fun _ _ => rfl⟩

end Storage
end Storyline
