import BranchingStory.Settings
import BranchingStory.Story

/-!
# The city tour

A small story to try things with: a visitor is shown around a city, buys bread or does not, and
climbs a tower that asks for a throw of the die.
-/

namespace BranchingStory.Tour

def arrival : Scene where
  id := "intro"
  title := "Arrival"
  description := some "The guide meets the visitor at the station."
  dialogues :=
    [ { speaker := "Guide", text := "Welcome to the city!" },
      { id := some "ask", speaker := "Guide", text := "Where shall we start?",
        choices :=
          [ { id := some "to-market", text := "The old market",
              effects := [.add "Kindness" 10], target := { scene := some "market" } },
            { id := some "to-tower", text := "The clock tower",
              effects := [.add "Courage" 10], target := { scene := some "tower" } },
            { id := some "to-garden", text := "The secret garden",
              conditions :=
                [{ name := "Courage", comparison := .greaterOrEqual, threshold := 80 }],
              target := { scene := some "garden" } } ] } ]

def market : Scene where
  id := "market"
  title := "The Old Market"
  dialogues :=
    [ { speaker := "Vendor", text := "Fresh bread, still warm!",
        directions := some "The vendor holds up a loaf.",
        choices :=
          [ { text := "Buy a loaf for the guide", effects := [.add "Kindness" 15],
              target := { dialogue := some "thanks" } },
            { text := "Walk on", target := { scene := some "tower" } } ] },
      { speaker := "Vendor", text := "Suit yourself." },
      { id := some "thanks", speaker := "Guide", text := "How thoughtful of you.",
        conditions := [{ name := "Kindness", comparison := .greater, threshold := 60 }] },
      { speaker := "Guide", text := "Shall we climb the tower?",
        choices := [{ text := "Yes", target := { scene := some "tower" } }] } ]

def tower : Scene where
  id := "tower"
  title := "The Clock Tower"
  dialogues :=
    [ { speaker := "Guide", text := "The stairs are steep and narrow.",
        choices :=
          [ { id := some "race", text := "Race to the top", effects := [.add "Courage" 5],
              check := some
                { stat := some "Courage", difficulty := some 4,
                  success := some { dialogue := some "summit" },
                  failure := some { dialogue := some "stumble" } } },
            { id := some "slow", text := "Take it slow",
              target := { dialogue := some "summit" } } ] },
      { id := some "stumble", speaker := "Guide",
        text := "Careful! You slipped on the worn steps.",
        choices :=
          [{ text := "Catch your breath", target := { dialogue := some "summit" } }] },
      { id := some "summit", speaker := "Guide", text := "What a view of the whole city.",
        choices := [{ text := "Head back down", target := { scene := some "farewell" } }] } ]

def garden : Scene where
  id := "garden"
  title := "The Secret Garden"
  dialogues :=
    [ { speaker := "Gardener", text := "Few visitors are brave enough to find this place." },
      { speaker := "Guide", text := "Let's not keep the city waiting.",
        choices := [{ text := "Leave quietly", target := { scene := some "farewell" } }] } ]

def farewell : Scene where
  id := "farewell"
  title := "Farewell"
  dialogues :=
    [ { speaker := "Guide", text := "Thank you for touring with me." },
      { speaker := "Guide", text := "Come back soon!",
        directions := some "The guide waves." } ]

def story : Story where
  scenes := [arrival, market, tower, garden, farewell]
  unambiguous := by decide

def settings : Settings where
  tracked := ["Courage", "Kindness"]
  initial := .ofList [("Courage", 50), ("Kindness", 50)]
  startScene := some "intro"
  dice := { sides := 6, difficulty := 4, penalty := { amount := 10, scope := .checkedStat } }
  endings :=
    [ { minScore := 70, title := "Honorary citizen",
        message := "The whole city knows your name.", grade := "A" },
      { minScore := 50, title := "Welcome back anytime", message := "A pleasant day out.",
        grade := "B" },
      { minScore := 0, title := "Tourist", message := "Maybe next time, off the beaten path.",
        grade := "C" } ]

end BranchingStory.Tour
