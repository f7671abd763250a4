import Storyline.Story.Basic

namespace Storyline.Story

def way (text target : String) (flags : List (String × Bool)) : Choice where
  text := text
  target := target
  effects := flags.map fun (name, b) => (name, .bool b)
  requirements := []
  window := none
  inventory := []
  enabled := none
  condition := none

def demo : Story where
  initial := "start"
  nodes := [
    ⟨"start",
     "You stand at a crossroads. Do you go left or right?",
     [way "Left" "river" [("wentLeft", true)],
      way "Right" "mountain" [("wentLeft", false)]]⟩,
    ⟨"river",
     "You encounter a river. Do you swim or build a raft?",
     [way "Swim" "swim" [("gotWet", true)],
      way "Build a raft" "raft" [("gotWet", false)]]⟩,
    ⟨"mountain",
     "You find a mountain. Do you climb or go around?",
     [way "Climb" "climb" [("climbed", true)],
      way "Go around" "village" [("climbed", false)]]⟩,
    ⟨"swim",
     "You swim across and reach the other side, but you are soaked and cold. Ahead, you " ++
     "see a cave and a campfire.",
     [way "Warm up by the campfire" "campfire" [("warmedUp", true)],
      way "Explore the cave" "cave" [("exploredCave", true)]]⟩,
    ⟨"raft",
     "You build a raft and float safely. On the far bank, a merchant greets you.",
     [way "Trade with the merchant" "merchant" [("metMerchant", true)],
      way "Ignore and continue" "forest" [("metMerchant", false)]]⟩,
    ⟨"climb",
     "You climb and see a vast land. The wind is strong. Do you signal for help or descend?",
     [way "Signal for help" "signal" [("signaled", true)],
      way "Descend" "forest" [("signaled", false)]]⟩,
    ⟨"village",
     "You go around and find a village. The villagers are wary. Do you introduce " ++
     "yourself or sneak past?",
     [way "Introduce yourself" "welcome" [("welcomed", true)],
      way "Sneak past" "forest" [("welcomed", false)]]⟩,
    ⟨"campfire",
     "You warm up by the fire. A traveler offers you advice. (Success!)",
     []⟩,
    ⟨"cave",
     "Inside the cave, you find ancient markings. Suddenly, you slip and must return to " ++
     "the river bank. (Loop)",
     [way "Return to river" "river" [("slipped", true)]]⟩,
    ⟨"merchant",
     "The merchant gives you a mysterious key. (Reward!)",
     [way "Head into the forest" "forest" [("hasKey", true)]]⟩,
    ⟨"forest",
     "You enter a dense forest. If you met the merchant, you can unlock a shortcut.",
     [{ way "Use the key" "shortcut" [("usedKey", true)] with
       requirements := [("hasKey", .bool true)]
       condition := some "flags.metMerchant === true" },
      way "Push through the forest" "lost" [("usedKey", false)]]⟩,
    ⟨"signal",
     "Your signal is seen! A rescue party arrives. (Success!)",
     []⟩,
    ⟨"welcome",
     "The villagers welcome you and offer food. (Success!)",
     []⟩,
    ⟨"shortcut",
     "You use the key to unlock a hidden path and escape the forest. (Success!)",
     []⟩,
    ⟨"lost",
     "You get lost in the forest. (Failure/Loop)",
     [way "Try to find your way back" "forest" [("triedAgain", true)]]⟩]

end Storyline.Story
