import Storyline.Engine.Choosing
import Storyline.Engine.Moving
import Storyline.Engine.Saving
import Storyline.Proofs.Story

namespace Storyline

namespace Engine

/-- What can be done with an engine. Meanwhile time passes, ids are given out elsewhere, and others
write to the store. -/
inductive Operation where
  | look (customData : Entries Value)
  | offer (time : Option Number) (customData : Entries Value)
  | askComplete
  | consider (choice : Choice) (time : Option Number)
  | choose (index : Value) (time : Option Number)
  | select (choice : Choice) (time : Option Number)
  | goTo (id : String)
  | setFlag (name value : Value)
  | reset
  | loadState (state : NarrativeState) (tracked : Bool)
  | loadPayload (payload : Value) (tracked : Bool)
  | setEvaluator (custom : Condition.CustomEvaluator)
  | clearEvaluator
  | addRule (rule : Rule)
  | removeRule (name : String)
  | load (options : Save.LoadOptions) (data : Value)
  | saveTo (key : Value) (options : Save.SaveOptions)
  | loadFrom (key : Value) (options : Save.LoadOptions)
  | createCheckpoint (name : Option String) (options : CheckpointOptions) (tags : List String)
  | deleteCheckpoint (id : String)
  | cleanup (options : CheckpointOptions)
  | importCheckpoint (data : Value)
  | restore (id : String)
  | travel (direction : Timeline.Direction)
  | clearTimeline
  | configureTimeline (changes : Entries Value)
  | configureAutosave (changes : Entries Value)
  | triggerAutosave (trigger : String) (metadata : Entries Value)
  | saveNow (metadata : Entries Value)
  | wait (clock : Int) (issued : Nat)
  | replaceStore (storage : Option Storage)

def returned {α : Type} (o : Outcome α) : Bool × Engine := (o.1.isOk, o.2)

def succeeded (o : Outcome Save.Result) : Bool × Engine :=
  (match o.1 with
    | .ok r => r.success
    | .error _ => false, o.2)

/-- Does an operation: whether it succeeded, and the engine afterwards. -/
def attempt (e : Engine) : Operation → Bool × Engine
  | .look customData => returned (e.visible customData)
  | .offer time customData => returned (e.available time customData)
  | .askComplete => returned e.isComplete
  | .consider c time => returned (e.verdict c time)
  | .choose index time => returned (e.choose index time)
  | .select c time => returned (e.select c time)
  | .goTo id => returned (e.goTo id)
  | .setFlag name value => returned (e.setFlag name value)
  | .reset => returned e.reset
  | .loadState s tracked => returned (e.loadState s tracked)
  | .loadPayload payload tracked => returned (e.loadPayload payload tracked)
  | .setEvaluator custom => (true, e.setEvaluator custom)
  | .clearEvaluator => (true, e.clearEvaluator)
  | .addRule rule => (true, e.addRule rule)
  | .removeRule name => e.removeRule name
  | .load o data => succeeded (e.load o data)
  | .saveTo key o => succeeded (e.saveTo key o)
  | .loadFrom key o => succeeded (e.loadFrom key o)
  | .createCheckpoint name o tags => returned (e.createCheckpoint name o tags)
  | .deleteCheckpoint id => e.deleteCheckpoint id
  | .cleanup o => returned (e.cleanup o)
  | .importCheckpoint data => returned (e.importCheckpoint data)
  | .restore id => succeeded (e.restore id)
  | .travel d => ((e.travel d).1.success, (e.travel d).2)
  | .clearTimeline => (true, e.clearTimeline)
  | .configureTimeline changes => returned (e.configureTimeline changes)
  | .configureAutosave changes => returned (e.configureAutosave changes)
  | .triggerAutosave trigger metadata => returned (e.triggerAutosave trigger metadata)
  | .saveNow metadata => returned (e.saveNow metadata)
  | .wait clock issued => (true, { e with ambient := ⟨clock, e.ambient.issued + issued⟩ })
  | .replaceStore storage => (true, { e with storage })

/-- The engines that come about: one is made for a story, and anything is done with it, whether it
succeeds or not. -/
inductive Reachable : Engine → Prop
  | made {story : Story} {ambient : Ambient} {setup : Setup} {e : Engine} :
    story.Made → make story ambient setup = .ok e → Reachable e
  | next {e : Engine} (op : Operation) : Reachable e → Reachable (e.attempt op).2

/-- A new engine with some automatic saves, a timeline of fifty steps, and standard settings for the
rest. -/
def fresh (story : Story) (ambient : Ambient) (autosaves : Autosave.Config) : Engine where
  story
  state := .start story.initial
  evaluator := .new 100
  rules := .standard
  shelf := ⟨50, .timestamp, [], 0, 0⟩
  storage := none
  timeline := .empty .standard
  autosave := .start autosaves
  events := []
  performance := .idle
  branching := .straight
  ambient

theorem fresh_reachable {story : Story} (h : story.Made) (ambient : Ambient)
    (autosaves : Autosave.Config) : (fresh story ambient autosaves).Reachable := by
  have hm : make story ambient { timeline := some .standard, autosave := some autosaves } =
      .ok (fresh story ambient autosaves) := rfl
  exact .made h hm

end Engine

def Story.hallway : Story :=
  ⟨"gate", [⟨"gate", "A gate.", [⟨"Enter", "hall", [], [], none, [], none, none⟩]⟩,
    ⟨"hall", "A hall.", []⟩]⟩

theorem Story.hallway_made : hallway.Made := by
  have hm : make "gate" hallway.nodes = .ok hallway := rfl
  refine .built ?_ hm
  intro n hn
  simp only [hallway, List.mem_cons, List.not_mem_nil, or_false] at hn
  rcases hn with rfl | rfl
  · exact ⟨.text "gate", .text "A gate.", _, by rfl⟩
  · exact ⟨.text "hall", .text "A hall.", _, by rfl⟩

def Autosave.Config.off : Autosave.Config where
  enabled := false
  triggers := []
  maxEntries := 10
  throttle := .int 0
  describes := true
  pattern := ""
  entries_pos := by decide
  throttle_nonneg := by decide

namespace Engine

/-- Does operations one after the other, whether they succeed or not. -/
def after (e : Engine) (ops : List Operation) : Engine := ops.foldl (fun e op => (e.attempt op).2) e

def atGate : Engine := fresh .hallway ⟨0, 0⟩ .off

theorem atGate_reachable : atGate.Reachable := fresh_reachable Story.hallway_made _ _

end Engine
end Storyline
