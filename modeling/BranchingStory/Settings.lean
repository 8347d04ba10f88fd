import BranchingStory.Variables

/-!
# Settings

The settings of a playthrough: which variables count for the score, where they start, how dice are
thrown and which endings a score earns.  `Settings.validate` refuses settings with which playback
would be meaningless.
-/

namespace BranchingStory

/-- Which variables a failed dice check costs. -/
inductive PenaltyScope where
  /-- Every tracked variable. -/
  | allTracked
  /-- The stat of the check, or every tracked variable when it has none. -/
  | checkedStat
deriving DecidableEq

/-- What a failed dice check costs. -/
structure Penalty where
  amount : Binary64 := 5
  scope : PenaltyScope := .allTracked
deriving DecidableEq

structure DiceSettings where
  sides : UInt32 := 6
  /-- The difficulty of checks that set none. -/
  difficulty : UInt32 := 4
  penalty : Penalty := {}
deriving DecidableEq

/-- An ending that scores from a threshold on earn. -/
structure Ending where
  minScore : Binary64
  title : String
  message : String
  grade : String
deriving DecidableEq

def Ending.standard : List Ending :=
  [ { minScore := 80, title := "Outstanding journey!",
      message := "You showed an exemplary command of every skill.", grade := "A+" },
    { minScore := 60, title := "Good journey!",
      message := "You handled most situations well.", grade := "B" },
    { minScore := 40, title := "Average journey",
      message := "Some skills still need work.", grade := "C" },
    { minScore := 0, title := "Difficult journey",
      message := "A few approaches deserve another look.", grade := "D" } ]

structure Settings where
  /-- The variables that are averaged into the score. -/
  tracked : List String := ["Empathy", "Autonomy", "Confidence"]
  /-- Where a tracked variable starts that has no initial value of its own. -/
  trackedStart : Binary64 := 50
  initial : Variables := .empty
  /-- The scene to start with; the first one when unset. -/
  startScene : Option String := none
  seed : Option UInt64 := none
  dice : DiceSettings := {}
  endings : List Ending := Ending.standard
  /-- Whether playback ends as soon as a tracked variable is not positive. -/
  endOnDepletedStat : Bool := false
deriving DecidableEq

/-- Why settings are refused. -/
inductive SettingsError where
  | noSides
  | endlessPenalty
  | endlessStart
  | noEnding
  | endlessThreshold (title : String)
deriving DecidableEq

def SettingsError.message (error : SettingsError) : String :=
  "invalid configuration: " ++
    match error with
    | noSides => "dice must have at least one side"
    | endlessPenalty => "dice penalty must be finite"
    | endlessStart => "tracked_start must be finite"
    | noEnding => "at least one ending band is required"
    | endlessThreshold title => "ending band '" ++ title ++ "' has a non-finite threshold"

namespace Settings

/-- The first fault of the settings, as an error. -/
def validate (settings : Settings) : Except SettingsError Unit :=
  if settings.dice.sides = 0 then .error .noSides
  else if !settings.dice.penalty.amount.isFinite then .error .endlessPenalty
  else if !settings.trackedStart.isFinite then .error .endlessStart
  else if settings.endings.isEmpty then .error .noEnding
  else
    match settings.endings.find? fun ending => !ending.minScore.isFinite with
    | some ending => .error (.endlessThreshold ending.title)
    | none => .ok ()

/-- The variables before the first scene: every tracked one at the common start, and the initial
values over them. -/
def startingValues (settings : Settings) : Variables :=
  let tracked := Variables.ofList (settings.tracked.map fun name => (name, settings.trackedStart))
  tracked.setAll settings.initial.toList

/-- The endings from the highest threshold down; endings with one threshold keep their order. -/
def sortedEndings (settings : Settings) : List Ending :=
  settings.endings.mergeSort fun left right => !left.minScore.comesBefore right.minScore

end Settings

end BranchingStory
