import BranchingStory.Proofs.Placing
import BranchingStory.Proofs.Settling
import BranchingStory.Proofs.Departure

/-!
# Checked operations

Some operations of playback are not defined everywhere: a place is looked up in a list, a number is
drawn from a range, and a place or an id is counted up in 64 bits.  In this module they look at
their operands and stop with a fault where they leave their domain, and the steps of playback are
put together from them once more, next to the parts that need no check.

Each step is then compared with the one that looks at nothing.  A die has a side, because the number
of sides is never taken below one.  The bounds of a random effect are refused when they are the
wrong way round.  The places that the index of a story holds are those of its scenes.  All that is
left to ask for is that a scene has fewer than `2 ^ 64` dialogues and that a cursor which is told to
go on stands in front of the end of its scene.  A cursor that is used by itself always does.
-/

namespace BranchingStory

/-! ## Operations with a domain -/

/-- Where an operation has left its domain. -/
inductive Fault where
  | outOfBounds (place length : Nat)
  | emptyRange (least greatest : Int)
  /-- The next number does not fit 64 bits. -/
  | overflow (number : Nat)
  /-- A handler has crashed and was not caught. -/
  | crash (message : Option String)
deriving DecidableEq

/-- A value, unless an operation has left its domain on the way. -/
abbrev Guarded (Value : Type) : Type := Except Fault Value

/-- The places of scenes, by their ids; the first scene is at `place`. -/
def Story.places (place : Nat) : List Scene → List (String × Nat)
  | [] => []
  | scene :: rest => (scene.id, place) :: places (place + 1) rest

namespace Guarded

/-- The value at a place. -/
def element {Value : Type} (values : List Value) (place : Nat) : Guarded Value :=
  match values[place]? with
  | some value => .ok value
  | none => .error (.outOfBounds place values.length)

/-- The next number of 64 bits. -/
def successor (number : Nat) : Guarded Nat :=
  if number + 1 < UInt64.size then .ok (number + 1) else .error (.overflow number)

/-- A throw of a die, which must have a side. -/
def roll (sides : UInt32) (generator : Generator) : Guarded (UInt32 × Generator) :=
  if 1 ≤ sides then .ok (generator.roll sides) else .error (.emptyRange 1 sides.toNat)

/-- A draw from a range, which must not be empty. -/
def between (least greatest : Int) (generator : Generator) : Guarded (Int × Generator) :=
  if least ≤ greatest then .ok (generator.between least greatest)
  else .error (.emptyRange least greatest)

/-- The scene with an id, at the place that the index of the story has for it. -/
def scene? (story : Story) (id : String) : Guarded (Option Scene) :=
  match (Story.places 0 story.scenes).lookup id with
  | none => .ok none
  | some place => (element story.scenes place).map some

theorem ok_bind {Value Other : Type} (value : Value) (next : Value → Guarded Other) :
    (Except.ok value : Guarded Value) >>= next = next value := rfl

theorem element_eq {Value : Type} {values : List Value} {place : Nat} {value : Value}
    (hvalue : values[place]? = some value) : element values place = .ok value := by
  rw [element, hvalue]

theorem successor_eq {number : Nat} (hroom : number + 1 < UInt64.size) :
    successor number = .ok (number + 1) := if_pos hroom

theorem between_eq {least greatest : Int} (hrange : least ≤ greatest) (generator : Generator) :
    between least greatest generator = .ok (generator.between least greatest) := if_pos hrange

/-- The index has the place of the first scene with an id. -/
theorem lookup_places (place : Nat) (scenes : List Scene) (id : String) :
    (Story.places place scenes).lookup id =
      (scenes.findIdx? fun scene => scene.id == id).map (place + ·) := by
  induction scenes generalizing place with
  | nil => rfl
  | cons scene rest ih =>
      rw [Story.places, List.lookup_cons, List.findIdx?_cons, ih]
      by_cases hid : scene.id = id
      · simp [hid]
      · have hother : (id == scene.id) = false := beq_false_of_ne (Ne.symm hid)
        simp only [hother, beq_false_of_ne hid, Bool.false_eq_true, if_false, Option.map_map]
        congr 1
        funext later
        exact Nat.succ_add_eq_add_succ place later

/-- The index leads to no place behind the scenes. -/
theorem scene?_eq (story : Story) (id : String) : scene? story id = .ok (story.scene? id) := by
  have hlookup := lookup_places 0 story.scenes id
  simp only [Nat.zero_add, Option.map_id'] at hlookup
  rw [scene?, hlookup, Story.scene?, List.find?_eq_bind_findIdx?_getElem?]
  cases hplace : story.scenes.findIdx? fun scene => scene.id == id with
  | none => rfl
  | some place =>
      obtain ⟨hbelow, -⟩ := List.findIdx?_eq_some_iff_getElem.mp hplace
      have hscene := List.getElem?_eq_getElem hbelow
      simp only [element_eq hscene, Option.bind_some, hscene]
      rfl

theorem roll_eq {sides : UInt32} (hsides : 1 ≤ sides) (generator : Generator) :
    roll sides generator = .ok (generator.roll sides) := if_pos hsides

/-! ## Cursors -/

/-- Searches dialogues like a cursor that counts their places. -/
def search (store : Variables) (index : Nat) :
    List Dialogue → Guarded (Except GateError Cursor.Sight)
  | [] => .ok (.ok { index, dialogue := none })
  | dialogue :: rest =>
      match Gate.isOpen store dialogue.conditions with
      | .error error => .ok (.error error)
      | .ok false => do
          let next ← successor index
          search store next rest
      | .ok true =>
          match Cursor.openChoices store dialogue.choices with
          | .error error => .ok (.error error)
          | .ok choices => .ok (.ok { index, dialogue := some (dialogue, choices) })

/-- What comes of a search from the place of a cursor. -/
def rest (cursor : Cursor) (scene : Scene) : Except GateError Cursor.Sight → Reply Cursor Unit
  | .error error => { result := .error (.gate error), state := cursor.withdrawn, events := [] }
  | .ok { index, dialogue := none } =>
      { result := .ok (), state := cursor.pastEnd index, events := [.sceneComplete scene.id] }
  | .ok { index, dialogue := some (dialogue, choices) } =>
      { result := .ok (), state := cursor.offering index choices,
        events := Cursor.announce scene dialogue choices }

/-- Shows the first visible dialogue at or after the place of a cursor. -/
def present (store : Variables) (cursor : Cursor) : Guarded (Reply Cursor Unit) :=
  match cursor.scene with
  | none =>
      .ok { result := .ok (), state := { cursor with offered := [], phase := .idle }, events := [] }
  | some scene => do
      let found ← search store cursor.index (scene.dialogues.drop cursor.index)
      return rest cursor scene found

def load (scene : Scene) (store : Variables) (cursor : Cursor) : Guarded (Reply Cursor Unit) :=
  present store { cursor with scene := some scene, index := 0, phase := .showing }

def jump (index : Nat) (store : Variables) (cursor : Cursor) : Guarded (Reply Cursor Unit) :=
  if cursor.phase.isActive then present store { cursor with index }
  else .ok { result := .ok (), state := cursor, events := [] }

def step (store : Variables) (cursor : Cursor) : Guarded (Reply Cursor Unit) := do
  let next ← successor cursor.index
  jump next store cursor

def advance (store : Variables) (cursor : Cursor) : Guarded (Reply Cursor Unit) :=
  match cursor.phase with
  | .showing => step store cursor
  | _ => .ok { result := .ok (), state := cursor, events := [] }

/-- The place where a choice leads within the scene. -/
def placeAfter (choice : Choice) (cursor : Cursor) : Guarded Nat :=
  match choice.target.dialogue.bind cursor.position? with
  | some place => .ok place
  | none => successor cursor.index

/-- A search counts no place behind the dialogues. -/
theorem search_eq (store : Variables) {index : Nat} {dialogues : List Dialogue}
    (hroom : index + dialogues.length < UInt64.size) :
    search store index dialogues = .ok (Cursor.search store index dialogues) := by
  induction dialogues generalizing index with
  | nil => rfl
  | cons dialogue rest ih =>
      rw [List.length_cons, ← Nat.add_assoc, Nat.add_right_comm] at hroom
      have hnext : index + 1 < UInt64.size := Nat.lt_of_le_of_lt (Nat.le_add_right _ _) hroom
      rw [search, Cursor.search]
      cases Gate.isOpen store dialogue.conditions with
      | error error => rfl
      | ok isOpen =>
          cases isOpen with
          | false =>
              simp only [successor_eq hnext]
              exact ih hroom
          | true =>
              simp only
              cases Cursor.openChoices store dialogue.choices <;> rfl

/-- A cursor that is in no scene or in one whose places fit 64 bits. -/
def Fits (cursor : Cursor) : Prop :=
  ∀ scene, cursor.scene = some scene → scene.dialogues.length < UInt64.size

/-- An active cursor can be counted up. -/
theorem next_of_placed {cursor : Cursor} (hplaced : cursor.Placed) (hfits : Fits cursor)
    (hactive : cursor.phase.isActive = true) : cursor.index + 1 < UInt64.size := by
  obtain ⟨scene, hscene, hinside⟩ := hplaced.inside hactive
  exact Nat.lt_of_le_of_lt hinside (hfits scene hscene)

theorem present_eq (store : Variables) {cursor : Cursor} (hfits : Fits cursor) :
    present store cursor = .ok (Cursor.present store cursor) := by
  obtain ⟨loaded, index, phase, offered⟩ := cursor
  cases loaded with
  | none => rfl
  | some scene =>
      have hroom : scene.dialogues.length < UInt64.size := hfits scene rfl
      have hfound : search store index (scene.dialogues.drop index) =
          .ok (Cursor.search store index (scene.dialogues.drop index)) := by
        by_cases hinside : index < scene.dialogues.length
        · apply search_eq
          rwa [List.length_drop, Nat.add_sub_cancel' (Nat.le_of_lt hinside)]
        · rw [List.drop_eq_nil_of_le (Nat.le_of_not_lt hinside)]
          rfl
      simp only [present, Cursor.present, hfound, ok_bind]
      cases Cursor.search store index (scene.dialogues.drop index) with
      | error error => rfl
      | ok sight =>
          obtain ⟨place, dialogue⟩ := sight
          cases dialogue with
          | none => rfl
          | some found => rfl

theorem load_eq {scene : Scene} (hscene : scene.dialogues.length < UInt64.size)
    (store : Variables) (cursor : Cursor) :
    load scene store cursor = .ok (Cursor.load scene store cursor) := by
  apply present_eq
  rintro other ⟨⟩
  exact hscene

theorem jump_eq {cursor : Cursor} (hfits : Fits cursor) (index : Nat) (store : Variables) :
    jump index store cursor = .ok (Cursor.jump index store cursor) := by
  rw [jump, Cursor.jump]
  split
  · exact present_eq store hfits
  · rfl

theorem step_eq {cursor : Cursor} (hfits : Fits cursor)
    (hnext : cursor.index + 1 < UInt64.size) (store : Variables) :
    step store cursor = .ok (Cursor.step store cursor) := by
  rw [step, successor_eq hnext]
  exact jump_eq hfits _ store

theorem advance_eq {cursor : Cursor} (hfits : Fits cursor)
    (hnext : cursor.phase.isActive = true → cursor.index + 1 < UInt64.size) (store : Variables) :
    advance store cursor = .ok (Cursor.advance store cursor) := by
  rw [advance, Cursor.advance]
  cases hphase : cursor.phase with
  | showing => exact step_eq hfits (hnext (by rw [hphase]; rfl)) store
  | idle | awaitingChoice | ended => rfl

theorem placeAfter_eq {cursor : Cursor} (hnext : cursor.index + 1 < UInt64.size)
    (choice : Choice) :
    placeAfter choice cursor =
      .ok ((choice.target.dialogue.bind cursor.position?).getD (cursor.index + 1)) := by
  rw [placeAfter]
  cases choice.target.dialogue.bind cursor.position? with
  | none => exact successor_eq hnext
  | some place => rfl

/-! ## Effects -/

def newValue (effect : Effect) (store : Variables) (generator : Generator) :
    Guarded (Except EffectError (Binary64 × Generator)) :=
  match effect.operation with
  | .random =>
      match effect.bounds with
      | .error error => .ok (.error error)
      | .ok (least, greatest) => do
          let (drawn, generator) ← between least greatest generator
          return .ok (Variables.clamp (Binary64.ofInt drawn), generator)
  | _ => .ok (effect.newValue store generator)

def apply (effect : Effect) (store : Variables) (generator : Generator) :
    Guarded (Except EffectError (Effect.Outcome Change)) := do
  let before := store.get effect.name
  let computed ← newValue effect store generator
  return do
    let (value, generator) ← computed
    let report : Change :=
      { name := effect.name, operation := effect.operation, delta := value - before, value }
    return { report, store := store.set effect.name value, generator }

def applyInOrder : List Effect → Variables → Generator →
    Guarded (Except EffectError (Effect.Outcome (List Change)))
  | [], store, generator => .ok (.ok { report := [], store, generator })
  | effect :: rest, store, generator => do
      match ← apply effect store generator with
      | .error error => return .error error
      | .ok first =>
          let others ← applyInOrder rest first.store first.generator
          return do
            let others ← others
            return { others with report := first.report :: others.report }

def applyAll (effects : List Effect) (store : Variables) (generator : Generator) :
    Guarded (Except EffectError (Effect.Outcome (List Change))) :=
  match Effect.validate effects with
  | .error error => .ok (.error error)
  | .ok () => applyInOrder effects store generator

/-- Bounds that are not refused are the right way round. -/
theorem le_of_bounds {effect : Effect} {least greatest : Int}
    (hbounds : effect.bounds = .ok (least, greatest)) : least ≤ greatest := by
  simp only [Effect.bounds] at hbounds
  split at hbounds
  · cases hbounds
  · next hle =>
      cases hbounds
      exact Int.not_lt.mp hle

theorem newValue_eq (effect : Effect) (store : Variables) (generator : Generator) :
    newValue effect store generator = .ok (effect.newValue store generator) := by
  rw [newValue]
  cases hoperation : effect.operation with
  | set | add | multiply | unrecognized written => rfl
  | random =>
      simp only [Effect.newValue, hoperation]
      cases hbounds : effect.bounds with
      | error error => rfl
      | ok bounds =>
          obtain ⟨least, greatest⟩ := bounds
          simp only [between_eq (le_of_bounds hbounds)]
          rfl

theorem apply_eq (effect : Effect) (store : Variables) (generator : Generator) :
    apply effect store generator = .ok (effect.apply store generator) := by
  rw [apply, newValue_eq]
  rfl

theorem applyInOrder_eq (effects : List Effect) (store : Variables) (generator : Generator) :
    applyInOrder effects store generator = .ok (Effect.applyInOrder effects store generator) := by
  induction effects generalizing store generator with
  | nil => rfl
  | cons effect rest ih =>
      rw [applyInOrder, apply_eq, Effect.applyInOrder]
      cases effect.apply store generator with
      | error error => rfl
      | ok first =>
          simp only [ok_bind, ih]
          rfl

theorem applyAll_eq (effects : List Effect) (store : Variables) (generator : Generator) :
    applyAll effects store generator = .ok (Effect.applyAll effects store generator) := by
  rw [applyAll, Effect.applyAll]
  cases Effect.validate effects with
  | error error => rfl
  | ok valid => exact applyInOrder_eq effects store generator

end Guarded

/-! ## Steps with checks -/

/-- A step of playback that may run into a fault. -/
def Checked (State Value : Type) : Type := State → Guarded (Reply State Value)

namespace Checked

variable {State Part Value Other : Type}

def run (step : Checked State Value) (state : State) : Guarded (Reply State Value) := step state

def done (value : Value) : Checked State Value :=
  fun state => .ok { result := .ok value, state, events := [] }

/-- One step and, unless it stops, another one; a fault of either is a fault of both. -/
def andThen (first : Checked State Value) (next : Value → Checked State Other) :
    Checked State Other :=
  fun state => do
    let reply ← first state
    match reply.result with
    | .error error =>
        return { result := .error error, state := reply.state, events := reply.events }
    | .ok value =>
        let later ← next value reply.state
        return { later with events := reply.events ++ later.events }

instance : Monad (Checked State) where
  pure := done
  bind := andThen

/-- A step without an operation that needs a check. -/
def free (step : Playing State Value) : Checked State Value := fun state => .ok (step.run state)

/-- An operation with a check as a step. -/
def operation (guarded : Guarded Value) : Checked State Value :=
  fun state => guarded.map fun value => { result := .ok value, state, events := [] }

/-- A step on a part of the state. -/
def onPart (read : State → Part) (write : State → Part → State) (step : Checked Part Value) :
    Checked State Value :=
  fun state => do
    let reply ← step (read state)
    return { result := reply.result, state := write state reply.state, events := reply.events }

/-- In a state a checked step runs into no fault, and does what the step without checks does. -/
def Meets (checked : Checked State Value) (step : Playing State Value) (state : State) : Prop :=
  checked.run state = .ok (step.run state)

section Meets

variable {checked : Checked State Value} {step : Playing State Value} {state : State}

theorem meets_free (step : Playing State Value) (state : State) : Meets (free step) step state :=
  rfl

theorem meets_pure (value : Value) (state : State) :
    Meets (pure value : Checked State Value) (pure value) state := rfl

theorem Meets.bind {continued : Value → Checked State Other} {next : Value → Playing State Other}
    (hfirst : Meets checked step state)
    (hnext : ∀ value, (step.run state).result = .ok value →
      Meets (continued value) (next value) (step.run state).state) :
    Meets (checked >>= continued) (step >>= next) state := by
  change andThen checked continued state = .ok ((step >>= next).run state)
  simp only [Meets, run] at hfirst hnext
  simp only [andThen, hfirst, Playing.run_bind]
  cases hresult : (step.run state).result with
  | error error =>
      simp only [Guarded.ok_bind, hresult]
      rfl
  | ok value =>
      simp only [Guarded.ok_bind, hresult, hnext value hresult]
      rfl

/-- Steps that meet, where the second one only needs what the first one keeps. -/
theorem Meets.bind_of_kept {kept : State → Prop} {continued : Value → Checked State Other}
    {next : Value → Playing State Other} (hfirst : Meets checked step state)
    (hkept : kept (step.run state).state)
    (hnext : ∀ value reached, kept reached → Meets (continued value) (next value) reached) :
    Meets (checked >>= continued) (step >>= next) state :=
  hfirst.bind fun value _ => hnext value _ hkept

theorem Meets.map (hmeets : Meets checked step state) (change : Value → Other) :
    Meets (change <$> checked) (change <$> step) state :=
  hmeets.bind fun value _ => meets_pure (change value) _

/-- An operation within its domain is no step of its own. -/
theorem operation_bind {guarded : Guarded Value} {value : Value} (hvalue : guarded = .ok value)
    (next : Value → Checked State Other) : operation guarded >>= next = next value := by
  funext state
  change andThen (operation guarded) next state = next value state
  simp only [andThen, operation, hvalue, Except.map, Guarded.ok_bind, List.nil_append]
  cases next value state <;> rfl

theorem Meets.onPart {read : State → Part} {write : State → Part → State}
    {checked : Checked Part Value} {step : Playing Part Value} {state : State}
    (hpart : Meets checked step (read state)) :
    Meets (onPart read write checked) (Playing.onPart read write step) state := by
  simp only [Meets, run] at hpart
  simp only [Meets, run, Checked.onPart, hpart]
  rfl

end Meets

/-! ## Stages -/

/-- What comes of effects that were applied as a whole. -/
def publish (stage : Stage) :
    Except EffectError (Effect.Outcome (List Change)) → Reply Stage (List Change)
  | .error error => { result := .error (.effect error), state := stage, events := [] }
  | .ok outcome =>
      { result := .ok outcome.report,
        state := { stage with store := outcome.store, generator := outcome.generator },
        events := Stage.changeEvents outcome.report outcome.store }

def applyEffects (effects : List Effect) : Checked Stage (List Change) :=
  fun stage => do
    let applied ← Guarded.applyAll effects stage.store stage.generator
    return publish stage applied

/-- A move of the cursor of a stage. -/
def move (moveCursor : Variables → Cursor → Guarded (Reply Cursor Unit)) : Checked Stage Unit :=
  fun stage => do
    let reply ← moveCursor stage.store stage.cursor
    return { result := reply.result, state := { stage with cursor := reply.state },
             events := reply.events }

def handleChoice (choice : Choice) : Checked Stage Unit := do
  let stage ← free Playing.current
  if stage.cursor.phase.isActive then
    let _ ← applyEffects choice.effects
    let target ← operation (Guarded.placeAfter choice stage.cursor)
    move (Guarded.jump target)
  else pure ()

/-- The step of a command to a cursor. -/
def command : Cursor.Command → Checked Stage Unit
  | .load scene => move (Guarded.load scene)
  | .advance => move Guarded.advance
  | .handle choice => handleChoice choice
  | .jump index => move (Guarded.jump index)
  | .finish => free (Cursor.Command.step .finish)

def throwDie (script : Script) (check : DiceCheck) : Checked Stage DiceOutcome := do
  let stage ← free Playing.current
  let sides := Playthrough.sidesOf script check
  let difficulty := Playthrough.difficultyOf script check
  let (face, generator) ← operation (Guarded.roll sides stage.generator)
  free (Playing.update fun stage => { stage with generator })
  let outcome := if difficulty ≤ face then DiceOutcome.success else .failure
  free (Playing.emit (.diceRolled { face, sides, difficulty, outcome, stat := check.stat }))
  match outcome with
  | .failure => free (Playthrough.penalize script check)
  | .success => pure ()
  pure outcome

theorem meets_applyEffects (effects : List Effect) (stage : Stage) :
    Meets (applyEffects effects) (Stage.applyEffects effects) stage := by
  simp only [Meets, run, applyEffects, Guarded.applyAll_eq, Guarded.ok_bind, Playing.run,
    Stage.applyEffects]
  cases Effect.applyAll effects stage.store stage.generator with
  | error error => rfl
  | ok applied => rfl

theorem meets_move {checked : Variables → Cursor → Guarded (Reply Cursor Unit)}
    {plain : Variables → Cursor → Reply Cursor Unit} {stage : Stage}
    (hmoves : checked stage.store stage.cursor = .ok (plain stage.store stage.cursor)) :
    Meets (move checked) (Stage.move plain) stage := by
  simp only [Meets, run, move, hmoves, Guarded.ok_bind]
  rfl

/-- Effects leave the cursor alone. -/
theorem cursor_applyEffects (effects : List Effect) (stage : Stage) :
    ((Stage.applyEffects effects).run stage).state.cursor = stage.cursor := by
  simp only [Playing.run, Stage.applyEffects]
  cases Effect.applyAll effects stage.store stage.generator <;> rfl

theorem meets_handleChoice {stage : Stage} (hplaced : stage.cursor.Placed)
    (hfits : Guarded.Fits stage.cursor) (choice : Choice) :
    Meets (handleChoice choice) (Stage.handleChoice choice) stage := by
  refine (meets_free _ stage).bind fun current hcurrent => ?_
  obtain rfl : stage = current := Except.ok.inj hcurrent
  simp only [Playing.run_current]
  split
  · next hactive =>
      have hnext := Guarded.next_of_placed hplaced hfits hactive
      refine (meets_applyEffects choice.effects stage).bind fun _ _ => ?_
      rw [operation_bind (Guarded.placeAfter_eq hnext choice)]
      apply meets_move
      apply Guarded.jump_eq
      rw [cursor_applyEffects]
      exact hfits
  · exact meets_pure _ _

/-- A command is within its domain when the places of the scene fit 64 bits. -/
theorem meets_command {stage : Stage} (hplaced : stage.cursor.Placed)
    (hfits : Guarded.Fits stage.cursor) {made : Cursor.Command}
    (hroomy : ∀ scene, made.scene? = some scene → scene.dialogues.length < UInt64.size) :
    Meets (command made) made.step stage := by
  cases made with
  | load scene => exact meets_move (Guarded.load_eq (hroomy scene rfl) _ _)
  | advance =>
      exact meets_move (Guarded.advance_eq hfits (Guarded.next_of_placed hplaced hfits) _)
  | handle choice => exact meets_handleChoice hplaced hfits choice
  | jump index => exact meets_move (Guarded.jump_eq hfits index _)
  | finish => exact meets_free _ _

/-- Whatever was done with a cursor by itself, the next command is within its domain. -/
theorem meets_command_after {World : Type}
    (history : List (Cursor.Command × Surroundings World)) (made : Cursor.Command)
    (hroomy : ∀ told ∈ made :: history.map Prod.fst, ∀ scene, told.scene? = some scene →
      scene.dialogues.length < UInt64.size) (store : Variables) (generator : Generator) :
    Meets (command made) made.step { cursor := Cursor.after {} history, store, generator } := by
  rw [List.forall_mem_cons] at hroomy
  apply meets_command
  · exact Cursor.placed_new.after history
  · intro scene hscene
    obtain ⟨told, htold, hloaded⟩ := Cursor.loaded_of_scene_after hscene nofun
    exact hroomy.2 told htold scene hloaded
  · exact hroomy.1

/-- A die that is thrown has a side, whatever the settings and the check say. -/
theorem one_le_sidesOf (script : Script) (check : DiceCheck) :
    1 ≤ Playthrough.sidesOf script check := by
  simp only [Playthrough.sidesOf, max]
  split
  · exact UInt32.le_refl 1
  · next hmany => exact UInt32.le_of_lt (UInt32.not_le.mp hmany)

theorem meets_throwDie (script : Script) (check : DiceCheck) (stage : Stage) :
    Meets (throwDie script check) (Playthrough.throwDie script check) stage := by
  rw [throwDie, Playthrough.throwDie]
  refine (meets_free _ stage).bind fun reached hreached => ?_
  simp only
  rw [operation_bind (Guarded.roll_eq (one_le_sidesOf script check) reached.generator)]
  cases hroll : reached.generator.roll (Playthrough.sidesOf script check) with
  | mk face generator =>
      refine (meets_free _ _).bind fun _ _ => (meets_free _ _).bind fun _ _ => ?_
      generalize (if Playthrough.difficultyOf script check ≤ face then DiceOutcome.success
        else DiceOutcome.failure) = outcome
      cases outcome with
      | success => exact (meets_pure () _).bind fun _ _ => meets_pure _ _
      | failure => exact (meets_free _ _).bind fun _ _ => meets_pure _ _

end Checked

end BranchingStory
