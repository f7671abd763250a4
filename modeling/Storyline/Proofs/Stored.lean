import Storyline.Proofs.Json.Value
import Storyline.Save.Stored

namespace Storyline

namespace Storage
open Json
variable {key : Value} {fields : Entries Value} {receipt : Receipt}

theorem Folder.load_saved {f f' : Folder} {disk : Disk}
    (hp : (Value.record fields).isPlain = true) (hd : (Value.record fields).isProper = true)
    (h : f.save disk key (.record fields) = .ok (receipt, f')) (hr : receipt.success = true) :
    f'.load key = .ok (some (.record fields)) := by
  obtain ⟨⟨short, name⟩, he, h⟩ := bind_eq_ok.mp h
  dsimp only at h
  split at h
  · cases h
    cases hr
  · rename_i text hw
    have hread := read_write Layout.indented_legible hp hd hw
    split at h
    · cases h
      cases hr
    · rename_i hf
      split at h
      · cases h
        cases hr
      · cases h
        have hlook : ({ f with items := f.items.put name (.file text) } : Folder).look name =
            .ok (some (.file text)) := by
          unfold Folder.writeFault? Folder.look at hf
          unfold Folder.look
          split at hf
          · cases hf
          · cases hf
          · split
            · rename_i hlong
              simp [hlong] at *
            · simp [Entries.get?_put_self]
        simp [Folder.load, he, hlook, hread]

theorem load_saved {s s' : Storage} (hp : (Value.record fields).isPlain = true)
    (hd : (Value.record fields).isProper = true)
    (h : s.save key (.record fields) = .ok (receipt, s')) (hr : receipt.success = true) :
    s'.load key = .ok (some (.record fields)) := by
  cases s with
  | memory texts =>
    obtain ⟨short, he, h⟩ := bind_eq_ok.mp h
    split at h
    · cases h
      cases hr
    · rename_i text hw
      cases h
      have hread := read_write Layout.oneLine_legible hp hd hw
      simp [load, he, Entries.get?_put_self, hread]
  | folder f | onDisk disk f =>
    obtain ⟨⟨receipt', f'⟩, hf, h⟩ := bind_eq_ok.mp h
    cases h
    exact Folder.load_saved hp hd hf hr
  | unavailable reason => cases h
  | refusing reason =>
    cases h
    cases hr

end Storage

namespace Save
variable {storage storage' : Option Storage} {key : Value} {fields : Entries Value} {r : Result}

theorem fetchFrom_saved (hp : (Value.record fields).isPlain = true)
    (hd : (Value.record fields).isProper = true)
    (h : saveTo storage key (.record fields) = (.ok r, storage')) (hr : r.success = true) :
    fetchFrom storage' key = .ok (.record fields) := by
  unfold saveTo at h
  split at h
  · cases h
    cases hr
  · split at h
    · cases h
      cases hr
    · rename_i s receipt s' hs
      split at h
      · rename_i hsuccess
        have hl := Storage.load_saved hp hd hs hsuccess
        obtain rfl : some s' = storage' := congrArg Prod.snd h
        simp [fetchFrom, hl, Value.isNull]
      · cases h
        cases hr

end Save
end Storyline
