import BranchingStory.Cursor
import BranchingStory.Progress
import BranchingStory.Settings

/-!
# Playthroughs

A playthrough is one run through a story under fixed settings.  It knows nothing of who listens: its
steps emit events, and the events do not come back.  Once it has ended every step does nothing.

When the settings ask for it, a playthrough ends as soon as a tracked variable is not positive; that
is looked at before each step and again after the effects and the dice of a choice.
-/

namespace BranchingStory

/-- What stays the same during a playthrough. -/
structure Script where
  story : Story
  settings : Settings
  /-- The variables a playthrough starts with. -/
  initial : Variables

structure Playthrough where
  stage : Stage
  progress : Progress := {}
deriving DecidableEq

namespace Script

/-- The random source of a new playthrough: the seed of the settings, or else the given one. -/
def generator (script : Script) (unseeded : Generator) : Generator :=
  match script.settings.seed with
  | some seed => Generator.ofSeed seed
  | none => unseeded

/-- A playthrough before its first scene. -/
def fresh (script : Script) (unseeded : Generator) : Playthrough :=
  { stage := { store := script.initial, generator := script.generator unseeded } }

/-- Whether the policy on depleted stats ends a playthrough with these variables. -/
def depletes (script : Script) (store : Variables) : Bool :=
  script.settings.endOnDepletedStat &&
    script.settings.tracked.any fun name => (store.get name).atMost 0

end Script

namespace Playthrough

/-! ## Parts of a step -/

/-- A step on the stage of a playthrough. -/
def onStage {Value : Type} (step : Playing Stage Value) : Playing Playthrough Value :=
  Playing.onPart stage (fun playthrough stage => { playthrough with stage }) step

/-- A move of the cursor. -/
def move (moveCursor : Variables → Cursor → Reply Cursor Unit) : Playing Playthrough Unit :=
  onStage (Stage.move moveCursor)

/-- Takes the dialogue off the screen. -/
def clearScreen : Playing Playthrough Unit :=
  Playing.update fun playthrough =>
    { playthrough with
      stage := { playthrough.stage with cursor := playthrough.stage.cursor.finish } }

/-- Ends the playthrough; one that has ended already stays as it is. -/
def finish (reason : EndReason) : Playing Playthrough Unit :=
  fun playthrough =>
    if playthrough.progress.ended then { result := .ok (), state := playthrough, events := [] }
    else
      { result := .ok (),
        state := { playthrough with progress := playthrough.progress.finish reason },
        events := [.playbackEnded reason] }

/-- Notes the place of the cursor, and ends the playthrough when the scene is over. -/
def follow : Playing Playthrough Unit := do
  Playing.update fun playthrough =>
    let cursor := playthrough.stage.cursor
    { playthrough with
      progress :=
        { playthrough.progress with
          dialogueIndex := cursor.index, dialogueId := cursor.dialogue?.bind Dialogue.id } }
  let playthrough ← Playing.current
  if playthrough.stage.cursor.isEnded then finish .scenarioComplete else pure ()

/-- Ends the playthrough when a stat is depleted; tells whether it did. -/
def endIfDepleted (script : Script) : Playing Playthrough Bool := do
  let playthrough ← Playing.current
  if script.depletes playthrough.stage.store then
    clearScreen
    finish .statDepleted
    pure true
  else pure false

/-- Runs a step unless the playthrough has ended or ends now for a depleted stat. -/
def unlessOver (script : Script) (step : Playing Playthrough Unit) : Playing Playthrough Unit := do
  let playthrough ← Playing.current
  if playthrough.progress.ended then pure ()
  else
    let depleted ← endIfDepleted script
    if depleted then pure () else step

/-! ## Scenes -/

/-- Switches to a scene and shows its first visible dialogue.  A scene that does not exist ends the
playthrough. -/
def loadScene (script : Script) (id : String) : Playing Playthrough Unit :=
  unlessOver script do
    match script.story.scene? id with
    | none =>
        clearScreen
        Playing.emit (.diagnostic (.ofError .fatal (.missingScene id)))
        finish .referenceFailure
    | some scene =>
        Playing.update fun playthrough =>
          { playthrough with progress := { playthrough.progress with scene := some scene.id } }
        Playing.emit (.sceneChanged scene.id)
        move (Cursor.load scene)
        follow

/-- Loads the scene to start with.  A story without scenes is over at once. -/
def start (script : Script) : Playing Playthrough Unit :=
  unlessOver script do
    let first := script.story.firstScene?.map Scene.id
    match script.settings.startScene <|> first with
    | some id => loadScene script id
    | none => finish .scenarioComplete

/-- Moves past a dialogue that offers no choices. -/
def advance (script : Script) : Playing Playthrough Unit :=
  unlessOver script do
    move Cursor.advance
    follow

/-! ## Dice -/

/-- The variables that a failed check costs. -/
def penaltyTargets (script : Script) (check : DiceCheck) : List String :=
  match script.settings.dice.penalty.scope, check.stat with
  | .checkedStat, some stat => [stat]
  | _, _ => script.settings.tracked

/-- Subtracts an amount from variables, one after the other, and reports the changes. -/
def subtractFrom (amount : Binary64) : List String → Variables → List Change × Variables
  | [], store => ([], store)
  | name :: rest, store =>
      let before := store.get name
      let (value, store) := store.modify name (-amount)
      let change : Change := { name, operation := .add, delta := value - before, value }
      let (others, store) := subtractFrom amount rest store
      (change :: others, store)

/-- Takes the penalty of a failed check and publishes it. -/
def penalize (script : Script) (check : DiceCheck) : Playing Stage Unit :=
  fun stage =>
    match penaltyTargets script check with
    | [] => { result := .ok (), state := stage, events := [] }
    | targets =>
        let (changes, store) :=
          subtractFrom script.settings.dice.penalty.amount targets stage.store
        { result := .ok (), state := { stage with store },
          events := Stage.changeEvents changes store }

/-- The sides of the die of a check; a die has at least one. -/
def sidesOf (script : Script) (check : DiceCheck) : UInt32 :=
  max (check.sides.getD script.settings.dice.sides) 1

def difficultyOf (script : Script) (check : DiceCheck) : UInt32 :=
  check.difficulty.getD script.settings.dice.difficulty

/-- Throws the die of a check, reports it and takes the penalty of a failure. -/
def throwDie (script : Script) (check : DiceCheck) : Playing Stage DiceOutcome := do
  let stage ← Playing.current
  let sides := sidesOf script check
  let difficulty := difficultyOf script check
  let (face, generator) := stage.generator.roll sides
  Playing.update fun stage => { stage with generator }
  let outcome := if difficulty ≤ face then DiceOutcome.success else .failure
  Playing.emit (.diceRolled { face, sides, difficulty, outcome, stat := check.stat })
  match outcome with
  | .failure => penalize script check
  | .success => pure ()
  pure outcome

/-! ## Choices -/

/-- The target of a choice after its dice check: the branch of the outcome when it names one, and
the target of the choice itself otherwise. -/
def targetAfter (choice : Choice) (outcome : Option DiceOutcome) : Target :=
  let branch :=
    match outcome with
    | some .success => choice.check.bind DiceCheck.success
    | some .failure => choice.check.bind DiceCheck.failure
    | none => none
  (branch.filter fun target => !target.isEmpty).getD choice.target

/-- Follows a target: a dialogue of the current scene first, then a scene, then the next dialogue.
A dialogue that the scene does not have is reported, and the next one is shown. -/
def navigate (script : Script) (target : Target) : Playing Playthrough Unit := do
  let playthrough ← Playing.current
  let cursor := playthrough.stage.cursor
  match target.dialogue, target.scene with
  | some dialogue, _ =>
      match cursor.position? dialogue with
      | some index => move (Cursor.jump index)
      | none =>
          let error := ReferenceError.missingDialogue (cursor.sceneId.getD "") dialogue
          Playing.emit (.diagnostic (.ofError .warning error))
          move Cursor.step
  | none, some scene => loadScene script scene
  | none, none => move Cursor.step

/-- Records a choice with what is on screen. -/
def recordChoice (time : Timestamp) (choice : Choice) : Playing Playthrough Unit :=
  Playing.update fun playthrough =>
    let cursor := playthrough.stage.cursor
    let taken : TakenChoice :=
      { scene := cursor.sceneId, dialogue := cursor.dialogue?, choice, time }
    { playthrough with progress := playthrough.progress.record taken }

/-- Throws the die of a choice, if it has one. -/
def throwDieOf (script : Script) (choice : Choice) : Playing Playthrough (Option DiceOutcome) :=
  match choice.check with
  | some check => some <$> onStage (throwDie script check)
  | none => pure none

/-- Takes a choice: its effects, its dice check, then its target.  Before a scene is loaded nothing
happens, and a choice with a defective effect is refused before it is recorded. -/
def makeChoice (script : Script) (time : Timestamp) (choice : Choice) :
    Playing Playthrough Unit :=
  unlessOver script do
    let playthrough ← Playing.current
    if playthrough.stage.cursor.phase = .idle then pure ()
    else
      match Effect.validate choice.effects with
      | .error error => Playing.stop (.effect error)
      | .ok () =>
          recordChoice time choice
          let _ ← onStage (Stage.applyEffects choice.effects)
          let outcome ← throwDieOf script choice
          let depleted ← endIfDepleted script
          if depleted then pure ()
          else
            navigate script (targetAfter choice outcome)
            follow

/-- Takes the offered choice at a place; tells whether there is one. -/
def choose (script : Script) (time : Timestamp) (place : Nat) : Playing Playthrough Bool := do
  let playthrough ← Playing.current
  match playthrough.stage.cursor.offered[place]? with
  | none => pure false
  | some choice =>
      makeChoice script time choice
      pure true

/-! ## Score -/

/-- The rounded mean of the tracked variables; zero when none is tracked. -/
def score (script : Script) (playthrough : Playthrough) : Binary64 :=
  let tracked := script.settings.tracked
  if tracked.isEmpty then 0
  else
    let sum := tracked.foldl (fun sum name => sum + playthrough.stage.store.get name) (-0)
    (sum / Binary64.ofNat tracked.length).roundToWhole

/-- The ending that the score earns: the one with the highest threshold that it reaches. -/
def ending? (script : Script) (playthrough : Playthrough) : Option Ending :=
  let reached := playthrough.score script
  script.settings.sortedEndings.find? fun ending => ending.minScore.atMost reached

end Playthrough

end BranchingStory
