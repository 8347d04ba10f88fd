import BranchingStory.Proofs.Checking
import BranchingStory.Proofs.Listening
import BranchingStory.Proofs.Placing
import BranchingStory.Proofs.Restarting
import BranchingStory.Proofs.Subscribing

/-!
# Playback without faults

A host calls a director, resets it, takes its failures and uses its channel, in any order and with
any arguments.  With all operations checked, the whole of it runs into no fault and comes to what it
comes to without checks.

A call only counts a place up from an active cursor, and an active cursor stands at a dialogue of a
scene of the story.  Every turn keeps it so, also one that fails at a gate.  A handler that crashes
is caught where it was run.  What remains to be counted are the subscriptions.
-/

namespace BranchingStory

open Checked (Meets meets_free meets_pure)

/-! ## Placed cursors -/

namespace Playthrough

variable {script : Script} {playthrough : Playthrough}

/-- Also an arrival that gets stuck leaves the cursor at a dialogue or inactive. -/
theorem Arrival.placed {scene : Scene} {start : Cursor} {reply : Reply Playthrough Unit}
    (harrival : Arrival playthrough scene start reply) (hscene : start.scene = some scene) :
    reply.state.stage.cursor.Placed := by
  cases harrival with
  | stuck error hsearch => exact (Cursor.Presentation.stuck error hsearch).placed hscene
  | past index hsearch => exact (Cursor.Presentation.past index hsearch).placed hscene
  | shown index dialogue choices hsearch =>
      exact (Cursor.Presentation.shown index dialogue choices hsearch).placed hscene

theorem Departure.placed {target : Target} {reply : Reply Playthrough Unit}
    (hdeparture : Departure script playthrough target reply) :
    reply.state.stage.cursor.Placed := by
  cases hdeparture with
  | depleted hdepleted => exact Cursor.placed_finish _
  | moved hlively hstays scene hscene reply harrival => exact harrival.placed hscene
  | entered hlively hleaves id htarget scene hknown reply harrival => exact harrival.placed rfl
  | lost hlively hleaves id htarget hunknown => exact Cursor.placed_finish _

theorem Turn.placed {reply : Reply Playthrough Unit} (hturn : Turn script playthrough reply)
    (hplaced : playthrough.stage.cursor.Placed) : reply.state.stage.cursor.Placed := by
  cases hturn with
  | ignored | refused error | exhausted hopen hlively hempty | waited hopen hlively hphase =>
      exact hplaced
  | depleted hopen hdepleted | lost hopen hlively id hunknown => exact Cursor.placed_finish _
  | advanced hopen hlively hphase scene hscene reply harrival => exact harrival.placed hscene
  | entered hopen hlively id scene hknown reply harrival => exact harrival.placed rfl
  | took hopen hlively hactive scene hscene time choice hvalid outcome store generator events
      hsettled hsettling reply hdeparture hsettle => exact hdeparture.placed

end Playthrough

/-! ## Checked calls -/

namespace Checked

/-- A step on the stage of a playthrough. -/
def onStage {Value : Type} (step : Checked Stage Value) : Checked Playthrough Value :=
  onPart Playthrough.stage (fun playthrough stage => { playthrough with stage }) step

/-- A move of the cursor of a playthrough. -/
def moveOn (move : Variables → Cursor → Guarded (Reply Cursor Unit)) : Checked Playthrough Unit :=
  onStage (Checked.move move)

def unlessOver (script : Script) (step : Checked Playthrough Unit) : Checked Playthrough Unit := do
  let playthrough ← free Playing.current
  if playthrough.progress.ended then pure ()
  else
    let depleted ← free (Playthrough.endIfDepleted script)
    if depleted then pure () else step

def loadScene (script : Script) (id : String) : Checked Playthrough Unit :=
  unlessOver script do
    let found ← operation (Guarded.scene? script.story id)
    match found with
    | none =>
        free Playthrough.clearScreen
        free (Playing.emit (.diagnostic (.ofError .fatal (.missingScene id))))
        free (Playthrough.finish .referenceFailure)
    | some scene =>
        free <| Playing.update fun playthrough =>
          { playthrough with progress := { playthrough.progress with scene := some scene.id } }
        free (Playing.emit (.sceneChanged scene.id))
        moveOn (Guarded.load scene)
        free Playthrough.follow

def start (script : Script) : Checked Playthrough Unit :=
  unlessOver script do
    let first := script.story.firstScene?.map Scene.id
    match script.settings.startScene <|> first with
    | some id => loadScene script id
    | none => free (Playthrough.finish .scenarioComplete)

def advance (script : Script) : Checked Playthrough Unit :=
  unlessOver script do
    moveOn Guarded.advance
    free Playthrough.follow

def navigate (script : Script) (target : Target) : Checked Playthrough Unit := do
  let playthrough ← free Playing.current
  let cursor := playthrough.stage.cursor
  match target.dialogue, target.scene with
  | some dialogue, _ =>
      match cursor.position? dialogue with
      | some index => moveOn (Guarded.jump index)
      | none =>
          let error := ReferenceError.missingDialogue (cursor.sceneId.getD "") dialogue
          free (Playing.emit (.diagnostic (.ofError .warning error)))
          moveOn Guarded.step
  | none, some scene => loadScene script scene
  | none, none => moveOn Guarded.step

def throwDieOf (script : Script) (choice : Choice) : Checked Playthrough (Option DiceOutcome) :=
  match choice.check with
  | some check => some <$> onStage (throwDie script check)
  | none => pure none

def makeChoice (script : Script) (time : Timestamp) (choice : Choice) :
    Checked Playthrough Unit :=
  unlessOver script do
    let playthrough ← free Playing.current
    if playthrough.stage.cursor.phase = .idle then pure ()
    else
      match Effect.validate choice.effects with
      | .error error => free (Playing.stop (.effect error))
      | .ok () =>
          free (Playthrough.recordChoice time choice)
          let _ ← onStage (applyEffects choice.effects)
          let outcome ← throwDieOf script choice
          let depleted ← free (Playthrough.endIfDepleted script)
          if depleted then pure ()
          else
            navigate script (Playthrough.targetAfter choice outcome)
            free Playthrough.follow

def choose (script : Script) (time : Timestamp) (place : Nat) : Checked Playthrough Bool := do
  let playthrough ← free Playing.current
  match playthrough.stage.cursor.offered[place]? with
  | none => pure false
  | some choice =>
      makeChoice script time choice
      pure true

/-- The step of a call, with its answer. -/
def answered (script : Script) : Call → Checked Playthrough (Option Bool)
  | .start => (fun _ => none) <$> start script
  | .loadScene id => (fun _ => none) <$> loadScene script id
  | .advance => (fun _ => none) <$> advance script
  | .makeChoice time choice => (fun _ => none) <$> makeChoice script time choice
  | .choose time place => some <$> choose script time place

/-! ## Calls within their domain -/

/-- A story of which every scene has places that fit 64 bits, as those of a list in memory do. -/
def Roomy (story : Story) : Prop :=
  ∀ scene ∈ story.scenes, scene.dialogues.length < UInt64.size

section Calls

variable {script : Script} {playthrough : Playthrough}

theorem fits_of_roomy (hroomy : Roomy script.story)
    (hcoherent : Playthrough.Coherent script playthrough) :
    Guarded.Fits playthrough.stage.cursor := fun scene hscene =>
  hroomy scene (Playthrough.mem_of_scene? (hcoherent.cursor.known scene hscene))

theorem meets_onStage {Value : Type} {checked : Checked Stage Value} {step : Playing Stage Value}
    (hstage : Meets checked step playthrough.stage) :
    Meets (onStage checked) (Playthrough.onStage step) playthrough := by
  unfold onStage Playthrough.onStage
  exact hstage.onPart

theorem meets_moveOn {checked : Variables → Cursor → Guarded (Reply Cursor Unit)}
    {plain : Variables → Cursor → Reply Cursor Unit}
    (hmoves : checked playthrough.stage.store playthrough.stage.cursor =
      .ok (plain playthrough.stage.store playthrough.stage.cursor)) :
    Meets (moveOn checked) (Playthrough.move plain) playthrough :=
  meets_onStage (meets_move hmoves)

/-- What is not over for a depleted stat goes on as it was. -/
theorem state_endIfDepleted
    (hlively : ((Playthrough.endIfDepleted script).run playthrough).result = .ok false) :
    ((Playthrough.endIfDepleted script).run playthrough).state = playthrough := by
  cases hdepletes : script.depletes playthrough.stage.store with
  | false => rw [Playthrough.run_endIfDepleted_of_lively hdepletes]
  | true =>
      rw [Playthrough.endIfDepleted, Playing.run_bind_of_silent (Playing.run_current _),
        if_pos hdepletes, Playing.run_bind_of_silent (Playthrough.run_clearScreen _)] at hlively
      have hover : ∀ cleared : Playthrough,
          ((Playthrough.finish .statDepleted >>= fun _ => pure true).run cleared).result =
            .ok true := by
        intro cleared
        cases hended : cleared.progress.ended with
        | true =>
            rw [Playing.run_bind_of_silent (Playthrough.run_finish_of_ended _ hended)]
            rfl
        | false =>
            rw [Playing.run_bind_of_ok (Playthrough.run_finish_of_open _ hended)]
            rfl
      rw [hover] at hlively
      cases hlively

theorem meets_unlessOver {checked : Checked Playthrough Unit} {step : Playing Playthrough Unit}
    (hstep : playthrough.progress.ended = false → Meets checked step playthrough) :
    Meets (unlessOver script checked) (Playthrough.unlessOver script step) playthrough := by
  refine (meets_free _ playthrough).bind fun current hcurrent => ?_
  obtain rfl : playthrough = current := Except.ok.inj hcurrent
  cases hended : playthrough.progress.ended with
  | true => rfl
  | false =>
      simp only [Bool.false_eq_true, if_false]
      refine (meets_free _ _).bind fun depleted hdepleted => ?_
      cases depleted with
      | true => rfl
      | false =>
          have hsame : ((Playthrough.endIfDepleted script).run playthrough).state = playthrough :=
            state_endIfDepleted hdepleted
          simp only [Playing.run_current, hsame, Bool.false_eq_true, if_false]
          exact hstep hended

theorem meets_loadScene (hroomy : Roomy script.story) (id : String) :
    Meets (loadScene script id) (Playthrough.loadScene script id) playthrough := by
  apply meets_unlessOver
  intro hopen
  rw [operation_bind (Guarded.scene?_eq script.story id)]
  cases hknown : script.story.scene? id with
  | none => exact (meets_free _ _).bind fun _ _ => (meets_free _ _).bind fun _ _ => meets_free _ _
  | some scene =>
      have hscene := hroomy scene (Playthrough.mem_of_scene? hknown)
      refine (meets_free _ _).bind fun _ _ => (meets_free _ _).bind fun _ _ => ?_
      refine (meets_moveOn (Guarded.load_eq hscene _ _)).bind fun _ _ => meets_free _ _

theorem meets_start (hroomy : Roomy script.story) :
    Meets (start script) (Playthrough.start script) playthrough := by
  apply meets_unlessOver
  intro hopen
  simp only
  cases script.settings.startScene <|> script.story.firstScene?.map Scene.id with
  | none => exact meets_free _ _
  | some id => exact meets_loadScene hroomy id

theorem meets_advance (hfits : Guarded.Fits playthrough.stage.cursor)
    (hplaced : playthrough.stage.cursor.Placed) :
    Meets (advance script) (Playthrough.advance script) playthrough := by
  apply meets_unlessOver
  intro hopen
  have hnext := Guarded.next_of_placed hplaced hfits
  exact (meets_moveOn (Guarded.advance_eq hfits hnext _)).bind fun _ _ => meets_free _ _

theorem meets_navigate (hroomy : Roomy script.story)
    (hfits : Guarded.Fits playthrough.stage.cursor)
    (hnext : playthrough.stage.cursor.index + 1 < UInt64.size) (target : Target) :
    Meets (navigate script target) (Playthrough.navigate script target) playthrough := by
  refine (meets_free _ playthrough).bind fun current hcurrent => ?_
  obtain rfl : playthrough = current := Except.ok.inj hcurrent
  simp only [Playing.run_current]
  cases target.dialogue with
  | some dialogue =>
      simp only
      cases playthrough.stage.cursor.position? dialogue with
      | some index => exact meets_moveOn (Guarded.jump_eq hfits index _)
      | none =>
          refine (meets_free _ _).bind fun _ _ => ?_
          exact meets_moveOn (Guarded.step_eq hfits hnext _)
  | none =>
      cases target.scene with
      | some scene => exact meets_loadScene hroomy scene
      | none => exact meets_moveOn (Guarded.step_eq hfits hnext _)

theorem meets_throwDieOf (choice : Choice) :
    Meets (throwDieOf script choice) (Playthrough.throwDieOf script choice) playthrough := by
  rw [throwDieOf, Playthrough.throwDieOf]
  cases choice.check with
  | none => exact meets_pure _ _
  | some check => exact (meets_onStage (meets_throwDie script check _)).map some

/-- The die of a choice leaves the cursor alone. -/
theorem cursor_throwDieOf (choice : Choice) :
    ((Playthrough.throwDieOf script choice).run playthrough).state.stage.cursor =
      playthrough.stage.cursor := by
  rw [Playthrough.throwDieOf]
  cases choice.check with
  | none => rfl
  | some check =>
      simp only [Playing.run_map, Playthrough.onStage, Playing.run_onPart,
        Playthrough.run_throwDie]

theorem meets_makeChoice (hroomy : Roomy script.story)
    (hcoherent : Playthrough.Coherent script playthrough)
    (hplaced : playthrough.stage.cursor.Placed) (time : Timestamp) (choice : Choice) :
    Meets (makeChoice script time choice) (Playthrough.makeChoice script time choice)
      playthrough := by
  apply meets_unlessOver
  intro hopen
  refine (meets_free _ playthrough).bind fun current hcurrent => ?_
  obtain rfl : playthrough = current := Except.ok.inj hcurrent
  by_cases hidle : playthrough.stage.cursor.phase = .idle
  · simp only [if_pos hidle]
    exact meets_pure _ _
  · simp only [if_neg hidle]
    cases Effect.validate choice.effects with
    | error error => exact meets_free _ _
    | ok valid =>
        have hfits := fits_of_roomy hroomy hcoherent
        have hnext := Guarded.next_of_placed hplaced hfits (hcoherent.isActive hopen hidle)
        -- The cursor that is counted up is the one before the choice was settled.
        let kept : Playthrough → Prop := fun reached =>
          reached.stage.cursor = playthrough.stage.cursor
        have hrecords : kept ((Playthrough.recordChoice time choice).run playthrough).state := rfl
        refine Meets.bind_of_kept (meets_free _ _) hrecords fun _ recorded hrecorded => ?_
        have happlies :
            kept ((Playthrough.onStage (Stage.applyEffects choice.effects)).run recorded).state :=
          (cursor_applyEffects choice.effects recorded.stage).trans hrecorded
        refine Meets.bind_of_kept (meets_onStage (meets_applyEffects _ _)) happlies
          fun _ applied happlied => ?_
        have hthrows : kept ((Playthrough.throwDieOf script choice).run applied).state :=
          (cursor_throwDieOf choice).trans happlied
        refine Meets.bind_of_kept (meets_throwDieOf choice) hthrows
          fun outcome settled hsettled => ?_
        refine (meets_free _ _).bind fun depleted hdepleted => ?_
        cases depleted with
        | true => exact meets_pure _ _
        | false =>
            have hcursor : settled.stage.cursor = playthrough.stage.cursor := hsettled
            rw [state_endIfDepleted hdepleted]
            rw [← hcursor] at hfits hnext
            exact (meets_navigate hroomy hfits hnext _).bind fun _ _ => meets_free _ _

/-- Every call is within its domain. -/
theorem meets_answered (hroomy : Roomy script.story)
    (hcoherent : Playthrough.Coherent script playthrough)
    (hplaced : playthrough.stage.cursor.Placed) (call : Call) :
    Meets (answered script call) (call.answered script) playthrough := by
  have hmade : ∀ time choice, Meets (makeChoice script time choice)
      (Playthrough.makeChoice script time choice) playthrough :=
    meets_makeChoice hroomy hcoherent hplaced
  cases call with
  | start => exact (meets_start hroomy).map _
  | loadScene id => exact (meets_loadScene hroomy id).map _
  | advance => exact (meets_advance (fits_of_roomy hroomy hcoherent) hplaced).map _
  | makeChoice time choice => exact (hmade time choice).map _
  | choose time place =>
      refine Meets.map ?_ some
      refine (meets_free _ playthrough).bind fun current hcurrent => ?_
      obtain rfl : playthrough = current := Except.ok.inj hcurrent
      simp only [Playing.run_current]
      cases playthrough.stage.cursor.offered[place]? with
      | none => exact meets_pure _ _
      | some choice => exact (hmade time choice).map _

end Calls

/-! ## Checked delivery -/

section Delivery

variable {World : Type}

/-- A run of a handler.  A crash is a fault of the run, behind what the handler did to the world. -/
def handle (subscription : Subscription World) (event : Event) (world : World) :
    Guarded (Option String) × World :=
  match subscription.handler event world with
  | (.handled, world) => (.ok none, world)
  | (.failed reason, world) => (.ok (some reason), world)
  | (.crashed message, world) => (.error (.crash message), world)

/-- The reason why a run did not succeed; only the crash of a handler is caught. -/
def caught : Guarded (Option String) → Guarded (Option String)
  | .ok reason => .ok reason
  | .error (.crash message) => .ok (HandlerResult.crashed message).reason?
  | .error fault => .error fault

def notify (event : Event) : List (Subscription World) → World → Guarded (Report × World)
  | [], world => .ok ({}, world)
  | subscription :: rest, world =>
      if subscription.receives event.kind then do
        let run := handle subscription event world
        let reason ← caught run.1
        let (report, world) ← notify event rest run.2
        match reason with
        | none =>
            let delivered ← Guarded.successor report.delivered
            return ({ report with delivered }, world)
        | some reason =>
            let failure : HandlerFailure :=
              { subscription := subscription.id, event := event.kind, reason }
            return ({ report with failures := failure :: report.failures }, world)
      else notify event rest world

def emit (channel : Channel World) (event : Event) (world : World) :
    Guarded (Report × Channel World × World) := do
  let (report, world) ← notify event channel.subscriptions world
  let kept := channel.subscriptions.filter fun subscription =>
    !(subscription.once && subscription.receives event.kind)
  return (report, { channel with subscriptions := kept }, world)

def emitAll (audience : Audience World) :
    List Event → World → Guarded (Audience World × World)
  | [], world => .ok (audience, world)
  | event :: rest, world => do
      let (report, channel, world) ← emit audience.channel event world
      emitAll { channel, failures := audience.failures ++ report.failures } rest world

def add (channel : Channel World) (filter : Option EventKind) (once : Bool)
    (handler : Handler World) : Guarded (Channel World) := do
  let nextId ← Guarded.successor channel.nextId
  let subscription : Subscription World := { id := channel.nextId, filter, once, handler }
  return { subscriptions := channel.subscriptions ++ [subscription], nextId }

def serve (channel : Channel World) (world : World) :
    Channel.Request World → Guarded (Channel World × World)
  | .subscribe kind handler => do return (← add channel (some kind) false handler, world)
  | .subscribeAll handler => do return (← add channel none false handler, world)
  | .once kind handler => do return (← add channel (some kind) true handler, world)
  | .unsubscribe id => .ok ((channel.unsubscribe id).2, world)
  | .clear kind => .ok (channel.clear kind, world)
  | .emit event => do
      let (_, channel, world) ← emit channel event world
      return (channel, world)
  | .elapse change => .ok (channel, change world)

/-- A channel that has numbers left for as many more subscriptions. -/
structure HasRoom (channel : Channel World) (more : Nat) : Prop where
  counted : channel.subscriptions.length ≤ channel.nextId
  below : channel.nextId + more < UInt64.size

theorem caught_handle (subscription : Subscription World) (event : Event) (world : World) :
    caught (handle subscription event world).1 =
        .ok (subscription.handler event world).1.reason? ∧
      (handle subscription event world).2 = (subscription.handler event world).2 := by
  rw [handle]
  cases subscription.handler event world with
  | mk result later => cases result <;> exact ⟨rfl, rfl⟩

/-- Whatever the handlers do, all of them are run and counted. -/
theorem notify_eq (event : Event) {subscriptions : List (Subscription World)}
    (hroom : subscriptions.length < UInt64.size) (world : World) :
    notify event subscriptions world = .ok (Channel.notify event subscriptions world) ∧
      (Channel.notify event subscriptions world).1.delivered ≤ subscriptions.length := by
  induction subscriptions generalizing world with
  | nil => exact ⟨rfl, Nat.le_refl 0⟩
  | cons subscription rest ih =>
      have hrest : rest.length < UInt64.size := Nat.lt_of_succ_lt hroom
      rw [notify, Channel.notify]
      split
      · obtain ⟨hcaught, hworld⟩ := caught_handle subscription event world
        obtain ⟨hnotified, hdelivered⟩ := ih hrest (subscription.handler event world).2
        simp only [hcaught, hworld, hnotified, Guarded.ok_bind]
        cases (subscription.handler event world).1.reason? with
        | none =>
            have hnext := Nat.lt_of_le_of_lt (Nat.succ_le_succ hdelivered) hroom
            exact ⟨by simp only [Guarded.successor_eq hnext]; rfl, Nat.succ_le_succ hdelivered⟩
        | some reason => exact ⟨rfl, Nat.le_succ_of_le hdelivered⟩
      · obtain ⟨hnotified, hdelivered⟩ := ih hrest world
        exact ⟨hnotified, Nat.le_succ_of_le hdelivered⟩

section Room

variable {channel : Channel World} {more : Nat}

theorem HasRoom.length_lt (hroom : HasRoom channel more) :
    channel.subscriptions.length < UInt64.size :=
  Nat.lt_of_le_of_lt hroom.counted (Nat.lt_of_le_of_lt (Nat.le_add_right _ _) hroom.below)

/-- Subscriptions that end leave room. -/
theorem HasRoom.filter (hroom : HasRoom channel more) (keep : Subscription World → Bool) :
    HasRoom { channel with subscriptions := channel.subscriptions.filter keep } more where
  counted := Nat.le_trans (List.length_filter_le keep _) hroom.counted
  below := hroom.below

theorem emit_eq (hroom : HasRoom channel more) (event : Event) (world : World) :
    emit channel event world = .ok (channel.emit event world) := by
  rw [emit, (notify_eq event hroom.length_lt world).1]
  rfl

theorem HasRoom.emit (hroom : HasRoom channel more) (event : Event) (world : World) :
    HasRoom (channel.emit event world).2.1 more :=
  hroom.filter _

theorem emitAll_eq {audience : Audience World} (hroom : HasRoom audience.channel more)
    (events : List Event) (world : World) :
    emitAll audience events world = .ok (audience.emitAll events world) ∧
      HasRoom (audience.emitAll events world).1.channel more := by
  induction events generalizing audience world with
  | nil => exact ⟨rfl, hroom⟩
  | cons event rest ih =>
      rw [emitAll, emit_eq hroom]
      exact ih (hroom.emit event world) _

theorem add_eq (hroom : HasRoom channel (more + 1)) (filter : Option EventKind) (once : Bool)
    (handler : Handler World) :
    add channel filter once handler = .ok (channel.add filter once handler).2 ∧
      HasRoom (channel.add filter once handler).2 more := by
  obtain ⟨hcounted, hbelow⟩ := hroom
  rw [Nat.add_comm more, ← Nat.add_assoc] at hbelow
  have hnext : channel.nextId + 1 < UInt64.size := Nat.lt_of_le_of_lt (Nat.le_add_right _ _) hbelow
  refine ⟨?_, ?_, hbelow⟩
  · rw [add, Guarded.successor_eq hnext]
    rfl
  · simp only [Channel.add, List.length_append, List.length_singleton]
    exact Nat.succ_le_succ hcounted

/-- A request to a channel is within its domain as long as there is room for what it opens. -/
theorem serve_eq {request : Channel.Request World}
    (hroom : HasRoom channel (more + if request.opens then 1 else 0)) (world : World) :
    serve channel world request = .ok (channel.serve world request) ∧
      HasRoom (channel.serve world request).1 more := by
  cases request with
  | subscribe kind handler =>
      obtain ⟨hadded, hleft⟩ := add_eq hroom (some kind) false handler
      exact ⟨by rw [serve, hadded]; rfl, hleft⟩
  | subscribeAll handler =>
      obtain ⟨hadded, hleft⟩ := add_eq hroom none false handler
      exact ⟨by rw [serve, hadded]; rfl, hleft⟩
  | once kind handler =>
      obtain ⟨hadded, hleft⟩ := add_eq hroom (some kind) true handler
      exact ⟨by rw [serve, hadded]; rfl, hleft⟩
  | unsubscribe id => exact ⟨rfl, hroom.filter _⟩
  | clear kind =>
      cases kind with
      | none => exact ⟨rfl, Nat.zero_le _, hroom.below⟩
      | some kind => exact ⟨rfl, hroom.filter _⟩
  | emit event => exact ⟨by rw [serve, emit_eq hroom]; rfl, hroom.emit event world⟩
  | elapse change => exact ⟨rfl, hroom⟩

end Room

end Delivery

end Checked

/-! ## Visits -/

/-- What a host does with a director and its channel. -/
inductive Deed (World : Type) where
  | call (call : Call)
  | reset (unseeded : Generator)
  | takeFailures
  | request (request : Channel.Request World)

namespace Deed

variable {World : Type}

def action : Deed World → Action World
  | call made => .call made
  | reset unseeded => .reset unseeded
  | takeFailures => .takeFailures
  | request asked => .rewire fun channel world => channel.serve world asked

/-- Whether a subscription is opened. -/
def opens : Deed World → Bool
  | request asked => asked.opens
  | call _ | reset _ | takeFailures => false

end Deed

namespace Checked

variable {World : Type}

def act (visit : Visit World) : Deed World → Guarded (Visit World)
  | .call call => do
      let reply ← (answered visit.director.script call).run visit.director.playthrough
      let (audience, world) ← emitAll visit.director.audience reply.events visit.world
      let director := { visit.director with playthrough := reply.state, audience }
      return { director, world, answers := visit.answers ++ [reply.result],
               events := visit.events ++ reply.events }
  | .reset unseeded => .ok { visit with director := visit.director.reset unseeded }
  | .takeFailures =>
      let audience := visit.director.audience.takeFailures.2
      .ok { visit with director := { visit.director with audience } }
  | .request request => do
      let (channel, world) ← serve visit.director.audience.channel visit.world request
      return { visit with director := visit.director.withChannel channel, world }

def actAll (visit : Visit World) (deeds : List (Deed World)) : Guarded (Visit World) :=
  deeds.foldlM act visit

/-- What keeps the deeds of a host within their domain. -/
structure Ready (script : Script) (visit : Visit World) (more : Nat) : Prop where
  script_eq : visit.director.script = script
  coherent : Playthrough.Coherent script visit.director.playthrough
  placed : visit.director.cursor.Placed
  room : HasRoom visit.director.audience.channel more

section Act

variable {script : Script} {visit : Visit World} {more : Nat}

theorem act_call_eq (hready : Ready script visit more) (hroomy : Roomy script.story)
    (call : Call) :
    act visit (.call call) = .ok (visit.act (.call call)) ∧
      Ready script (visit.act (.call call)) more := by
  obtain ⟨hscript, hcoherent, hplaced, hroom⟩ := hready
  subst hscript
  have hreply : (answered visit.director.script call).run visit.director.playthrough =
      .ok ((call.answered visit.director.script).run visit.director.playthrough) :=
    meets_answered hroomy hcoherent hplaced call
  obtain ⟨hemitted, hleft⟩ := emitAll_eq hroom (visit.director.emitted call) visit.world
  obtain ⟨result, hturn⟩ := Visit.turn_ask hcoherent call visit.world
  have htold := Director.told_ask visit.director call visit.world
  constructor
  · rw [Director.emitted] at hemitted
    simp only [act, hreply, hemitted, Guarded.ok_bind, Visit.act, Director.ask_eq_perform,
      Director.perform, Director.emitted]
    rfl
  · constructor
    · exact visit.script_act (.call call)
    · exact hturn.coherent hcoherent
    · exact hturn.placed hplaced
    · rw [← htold] at hleft
      exact hleft

/-- A deed is within its domain as long as there is room for what it opens. -/
theorem act_eq {deed : Deed World}
    (hready : Ready script visit (more + if deed.opens then 1 else 0))
    (hroomy : Roomy script.story) :
    act visit deed = .ok (visit.act deed.action) ∧
      Ready script (visit.act deed.action) more := by
  cases deed with
  | call call => exact act_call_eq hready hroomy call
  | reset unseeded =>
      obtain ⟨hscript, -, -, hroom⟩ := hready
      subst hscript
      refine ⟨rfl, rfl, ?_, Cursor.placed_new, hroom⟩
      exact Playthrough.coherent_fresh visit.director.script unseeded
  | takeFailures => exact ⟨rfl, hready.script_eq, hready.coherent, hready.placed, hready.room⟩
  | request request =>
      obtain ⟨hserved, hleft⟩ := serve_eq hready.room visit.world
      refine ⟨?_, hready.script_eq, hready.coherent, hready.placed, hleft⟩
      rw [act, hserved]
      rfl

theorem actAll_eq {deeds : List (Deed World)}
    (hready : Ready script visit (deeds.countP Deed.opens)) (hroomy : Roomy script.story) :
    actAll visit deeds = .ok (visit.actAll (deeds.map Deed.action)) := by
  induction deeds generalizing visit with
  | nil => rfl
  | cons deed rest ih =>
      rw [List.countP_cons] at hready
      obtain ⟨hacted, hnext⟩ := act_eq hready hroomy
      rw [actAll, List.foldlM_cons, hacted]
      exact ih hnext

end Act

end Checked

namespace Director

variable {World : Type}

/-- Whatever a host does with a director and its channel, no operation leaves its domain, and with
all of them checked it comes to the same.  The story may be any one of which the places fit 64 bits,
the settings any that are accepted, the handlers may fail and crash, and the choices, scenes and
subscriptions that are given to a call need not exist; there are fewer than `2 ^ 64` subscriptions
in all.  A cursor that goes through scenes of the story by itself stays within its domain as well,
whatever it was told before and in whatever surroundings. -/
theorem never_faults {story : Story} {settings : Settings} {seed : Option UInt64}
    {store : List (String × Binary64)} {channel : Channel World} {unseeded : Generator}
    {director : Director World}
    (hbuilt : build story settings seed store channel unseeded = .ok director)
    (hroomy : Checked.Roomy story) {deeds : List (Deed World)}
    (hroom : Checked.HasRoom channel (deeds.countP Deed.opens)) (world : World) :
    Checked.actAll { director, world } deeds =
        .ok (Visit.actAll { director, world } (deeds.map Deed.action)) ∧
      ∀ (history : List (Cursor.Command × Surroundings World)) (made : Cursor.Command),
        (∀ told ∈ made :: history.map Prod.fst, ∀ scene, told.scene? = some scene →
          scene ∈ story.scenes) →
        ∀ store generator, Checked.Meets (Checked.command made) made.step
          { cursor := Cursor.after {} history, store, generator } := by
  obtain ⟨-, rfl⟩ := made_of_build hbuilt
  have hready : Checked.Ready (made story settings seed store channel unseeded).script
      { director := made story settings seed store channel unseeded, world }
      (deeds.countP Deed.opens) :=
    ⟨rfl, Playthrough.coherent_fresh _ unseeded, Cursor.placed_new, hroom⟩
  refine ⟨Checked.actAll_eq hready hroomy, fun history made hknown store generator => ?_⟩
  apply Checked.meets_command_after
  intro told htold scene hscene
  exact hroomy scene (hknown told htold scene hscene)

/-- A choice that no story offers.  It draws from all numbers there are, throws a die without sides
and leads nowhere. -/
def defiance : Choice where
  text := "Storm the gate"
  effects := [.random "Luck" .nan (.infinite false),
    .random "Luck" (.infinite true) (.infinite false)]
  check := some { stat := some "Courage", sides := some 0, difficulty := some 4294967295 }
  target := { dialogue := some "nowhere" }

/-- A host that asks for what does not exist, with one more handler that crashes. -/
def besieging : List (Deed (List Event)) :=
  [.request (.subscribeAll crashing), .call .start,
    .call (.makeChoice { seconds := 0, nanoseconds := 0 } defiance),
    .request (.emit (.sceneChanged "nowhere")), .request (.unsubscribe 99),
    .call (.choose { seconds := 1, nanoseconds := 0 } 8), .call .advance,
    .reset (Generator.ofSeed 2), .call (.loadScene "nowhere")]

/-- A cursor that has shown the guard, among variables that are no numbers. -/
def onGuard : List (Cursor.Command × Surroundings (List Event)) :=
  [(.load guardScene,
    { store := .ofList [("Courage", .nan)], generator := Generator.ofSeed 4,
      audience := { channel := noisy }, world := [] })]

/-- The guard is stormed without a fault, though a handler crashes at everything, and also when a
cursor alone is told to. -/
theorem hired_never_faults :
    let visit := Visit.actAll { director := hired, world := [] } (besieging.map Deed.action)
    build guardStory kindly (some 7) [("Courage", 4)] noisy (Generator.ofSeed 1) = .ok hired ∧
      Checked.Roomy guardStory ∧ Checked.HasRoom noisy (besieging.countP Deed.opens) ∧
      Checked.actAll { director := hired, world := [] } besieging = .ok visit ∧
      visit.director.audience.failures ≠ [] ∧
      (Cursor.after {} onGuard).phase = .awaitingChoice ∧
      ∀ store generator,
        Checked.Meets (Checked.command (.handle defiance)) (Cursor.Command.handle defiance).step
          { cursor := Cursor.after {} onGuard, store, generator } := by
  have hbuilt : build guardStory kindly (some 7) [("Courage", 4)] noisy (Generator.ofSeed 1) =
      .ok hired := build_eq_made (by decide +kernel)
  have hroomy : Checked.Roomy guardStory := by
    intro scene hscene
    rw [List.mem_singleton.mp hscene]
    decide
  have hroom : Checked.HasRoom noisy (besieging.countP Deed.opens) :=
    ⟨by decide, by decide⟩
  obtain ⟨hvisit, hcursor⟩ := never_faults hbuilt hroomy hroom []
  refine ⟨hbuilt, hroomy, hroom, hvisit, by decide +kernel, by decide +kernel, ?_⟩
  apply hcursor
  intro told htold scene hscene
  obtain rfl | rfl : told = .handle defiance ∨ told = .load guardScene := by
    simpa [onGuard] using htold
  · cases hscene
  · cases hscene
    exact List.mem_singleton_self guardScene

end Director

end BranchingStory
