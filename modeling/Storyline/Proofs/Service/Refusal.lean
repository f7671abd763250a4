import Mathlib.Data.List.Forall2
import Storyline.Proofs.Failure
import Storyline.Proofs.Interchange
import Storyline.Proofs.Service.Offering

namespace Storyline

namespace Entries
variable {α : Type} {es : Entries α} {key : String} {v w : α}

end Entries

namespace Engine
variable {e e' : Engine} {f : EngineFault}

/-- The second engine is the first, but for the conditions that it can read. -/
def Relearnt (e e' : Engine) : Prop := ∃ evaluator, e' = { e with evaluator }

theorem Relearnt.refl (e : Engine) : e.Relearnt e := ⟨e.evaluator, rfl⟩

end Engine

namespace Service
open Engine
variable {s : Service} {e e' : Engine} {id : String} {α : Type}

/-- A session before and after: state, trail, timeline, checkpoints and all else that is its own are
the same. It may have learnt to read conditions, and been lent other surroundings. -/
structure SameSession (before after : String × Engine) : Prop where
  id : after.1 = before.1
  engine : ∃ evaluator ambient storage, after.2 = { before.2 with evaluator, ambient, storage }

/-- A service before and after: the same sessions, in the same order, and the same saves, unless a
disk failed while it wrote one of them. -/
structure Unchanged (s s' : Service) : Prop where
  story : s'.story = s.story
  settings : s'.settings = s.settings
  storage : s.storage.Survives s'.storage
  ambient : s'.ambient = s.ambient
  sessions : List.Forall₂ SameSession s.sessions s'.sessions

theorem SameSession.refl (entry : String × Engine) : SameSession entry entry :=
  ⟨rfl, entry.2.evaluator, entry.2.ambient, entry.2.storage, rfl⟩

theorem Unchanged.refl (s : Service) : s.Unchanged s :=
  ⟨rfl, rfl, .refl s.storage, rfl, List.forall₂_same.mpr fun entry _ => .refl entry⟩

end Service
end Storyline
