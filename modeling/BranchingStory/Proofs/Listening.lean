import BranchingStory.Proofs.Timeless

/-!
# Listening without influence

The handlers of a channel may do what they like with an event: succeed, fail, crash, change the
world that they share or be gone after the first one.  A step of playback gets nothing back from
them.  It makes no difference either whether its events are delivered behind it or one by one where
it emits them, since what follows in the step does not look at the audience: what comes of a step
that is told on the way, as `Director.Tells` has it, is what comes of performing it.

A host makes calls, resets its director, subscribes handlers and ends subscriptions.  What playback
is concerned with are its moves, the calls without their times and the resets.  What comes of a
visit is a fold over its moves alone, so that two hosts who make the same moves see the same story,
whoever listens to them.
-/

namespace BranchingStory

namespace Director

variable {World Value Other : Type}

/-! ## Delivery on the way -/

/-- An event reaches the audience where the step emits it. -/
theorem perform_emit (director : Director World) (event : Event) (world : World) :
    director.perform (Playing.emit event) world =
      let (_, audience, world) := director.audience.emit event world
      (.ok (), { director with audience }, world) := rfl

/-- The audience of a step has heard the events of its first part before the second one begins. -/
theorem perform_bind (director : Director World) (first : Playing Playthrough Value)
    (next : Value → Playing Playthrough Other) (world : World) :
    director.perform (first >>= next) world =
      match director.perform first world with
      | (.error error, reached, world) => (.error error, reached, world)
      | (.ok value, reached, world) => reached.perform (next value) world := by
  simp only [perform, Playing.run_bind]
  cases (first.run director.playthrough).result with
  | error error => rfl
  | ok value => simp only [Audience.emitAll_append]

/-- What comes of a step of which each event is delivered where the step emits it.  The handlers have
run, and have changed their world, before the step goes on. -/
inductive Tells : {Value : Type} → Playing Playthrough Value → Director World → World →
    Answer World Value → Prop where
  /-- A part that emits nothing leaves the audience and the world alone. -/
  | silent {Value : Type} (step : Playing Playthrough Value) (director : Director World)
      (world : World) (hsilent : (step.run director.playthrough).events = []) :
      Tells step director world
        ((step.run director.playthrough).result,
          { director with playthrough := (step.run director.playthrough).state }, world)
  | emit (event : Event) (director : Director World) (world : World) :
      Tells (Playing.emit event) director world
        (.ok (), { director with audience := (director.audience.emit event world).2.1 },
          (director.audience.emit event world).2.2)
  /-- A part that stops has told what it emitted before. -/
  | stop {Value Other : Type} {first : Playing Playthrough Value}
      (next : Value → Playing Playthrough Other) {director reached : Director World}
      {world later : World} {error : PlaybackError}
      (hfirst : Tells first director world (.error error, reached, later)) :
      Tells (first >>= next) director world (.error error, reached, later)
  | goOn {Value Other : Type} {first : Playing Playthrough Value}
      {next : Value → Playing Playthrough Other} {director reached : Director World}
      {world later : World} {value : Value} {answer : Answer World Other}
      (hfirst : Tells first director world (.ok value, reached, later))
      (hnext : Tells (next value) reached later answer) :
      Tells (first >>= next) director world answer

/-- It makes no difference whether the events of a step are delivered on the way or behind it. -/
theorem Tells.eq_perform {step : Playing Playthrough Value} {director : Director World}
    {world : World} {answer : Answer World Value} (htells : Tells step director world answer) :
    answer = director.perform step world := by
  induction htells with
  | silent step director world hsilent =>
      rw [perform, hsilent]
      rfl
  | emit event director world => exact (director.perform_emit event world).symm
  | stop next hfirst ih => rw [perform_bind, ← ih]
  | goOn hfirst hnext ihfirst ihnext => rw [perform_bind, ← ihfirst, ihnext]

theorem tells_emitAll (events : List Event) (director : Director World) (world : World) :
    Tells (Playing.emitAll events) director world
      (.ok (), { director with audience := (director.audience.emitAll events world).1 },
        (director.audience.emitAll events world).2) := by
  induction events generalizing director world with
  | nil => exact .silent (Playing.emitAll []) director world rfl
  | cons event rest ih =>
      have hfirst : (Playing.emitAll (event :: rest) : Playing Playthrough Unit) =
          Playing.emit event >>= fun _ => Playing.emitAll rest := rfl
      rw [hfirst]
      exact .goOn (.emit event director world) (ih _ _)

/-- Every step can be told on the way: it may make its changes and then emit one event after the
other. -/
theorem tells_perform (step : Playing Playthrough Value) (director : Director World)
    (world : World) : Tells step director world (director.perform step world) := by
  have htells : Tells
      (step.quietly >>= fun made => Playing.emitAll made.2 >>= fun _ => Playing.answer made.1)
      director world (director.perform step world) :=
    .goOn (.silent step.quietly director world rfl)
      (.goOn (tells_emitAll _ _ _) (.silent (Playing.answer _) _ _ rfl))
  rwa [step.quietly_emitAll] at htells

/-! ## Calls and their answers -/

/-- One call with its answer, which tells something only for choosing. -/
def ask (director : Director World) : Call → World → Answer World (Option Bool)
  | .start, world =>
      let (result, director, world) := director.start world
      (result.map fun _ => none, director, world)
  | .loadScene id, world =>
      let (result, director, world) := director.loadScene id world
      (result.map fun _ => none, director, world)
  | .advance, world =>
      let (result, director, world) := director.advance world
      (result.map fun _ => none, director, world)
  | .makeChoice time choice, world =>
      let (result, director, world) := director.makeChoice time choice world
      (result.map fun _ => none, director, world)
  | .choose time place, world =>
      let (result, director, world) := director.choose time place world
      (result.map some, director, world)

/-- The events that a call emits. -/
def emitted (director : Director World) (call : Call) : List Event :=
  ((call.answered director.script).run director.playthrough).events

theorem ask_eq_perform (director : Director World) (call : Call) (world : World) :
    director.ask call world = director.perform (call.answered director.script) world := by
  cases call with
  | start => simp only [ask, start, perform, Call.answered, Playing.run_map]
  | loadScene id => simp only [ask, loadScene, perform, Call.answered, Playing.run_map]
  | advance => simp only [ask, advance, perform, Call.answered, Playing.run_map]
  | makeChoice time choice => simp only [ask, makeChoice, perform, Call.answered, Playing.run_map]
  | choose time place => simp only [ask, choose, perform, Call.answered, Playing.run_map]

/-- The audience of a call hears what the call emits, and nothing else. -/
theorem told_ask (director : Director World) (call : Call) (world : World) :
    ((director.ask call world).2.1.audience, (director.ask call world).2.2) =
      director.audience.emitAll (director.emitted call) world := by
  rw [ask_eq_perform]
  rfl

end Director

/-! ## Visits -/

/-- What a host does with a director. -/
inductive Action (World : Type) where
  | call (call : Call)
  | reset (unseeded : Generator)
  /-- Handlers are subscribed or subscriptions end, and the world of the handlers may change. -/
  | rewire (change : Channel World → World → Channel World × World)
  | takeFailures

/-- What playback is concerned with. -/
inductive Move where
  | call (call : Call)
  | restart (generator : Generator)

/-- What an action is to playback.  The time of a call does not matter, and with a seed the random
source of a reset does not either. -/
def Action.move? {World : Type} (script : Script) : Action World → Option Move
  | call made => some (.call made.timeless)
  | reset unseeded => some (.restart (script.generator unseeded))
  | rewire _ | takeFailures => none

/-- A director in the hands of a host, with the answers and the events that it has given so far. -/
structure Visit (World : Type) where
  director : Director World
  world : World
  answers : List (Except PlaybackError (Option Bool)) := []
  events : List Event := []

/-- What is left of a visit without the audience and the times. -/
structure Record where
  playthrough : Playthrough
  answers : List (Except PlaybackError (Option Bool))
  events : List Event

namespace Record

/-- The record with one more move. -/
def make (script : Script) (record : Record) : Move → Record
  | .call call =>
      let reply := (call.answered script).run record.playthrough
      { playthrough := reply.state, answers := record.answers ++ [reply.result],
        events := record.events ++ reply.events }
  | .restart generator =>
      { record with playthrough := { stage := { store := script.initial, generator } } }

end Record

namespace Visit

variable {World : Type}

def act (visit : Visit World) : Action World → Visit World
  | .call call =>
      let (answer, director, world) := visit.director.ask call visit.world
      { director, world, answers := visit.answers ++ [answer],
        events := visit.events ++ visit.director.emitted call }
  | .reset unseeded => { visit with director := visit.director.reset unseeded }
  | .rewire change =>
      let (channel, world) := change visit.director.audience.channel visit.world
      { visit with director := visit.director.withChannel channel, world }
  | .takeFailures =>
      let audience := visit.director.audience.takeFailures.2
      { visit with director := { visit.director with audience } }

def actAll (visit : Visit World) (actions : List (Action World)) : Visit World :=
  actions.foldl act visit

def record (visit : Visit World) : Record :=
  { playthrough := visit.director.playthrough.timeless, answers := visit.answers,
    events := visit.events }

theorem script_act (visit : Visit World) (action : Action World) :
    (visit.act action).director.script = visit.director.script := by
  cases action with
  | call call =>
      simp only [act, Director.ask_eq_perform]
      rfl
  | reset unseeded | rewire change | takeFailures => rfl

theorem script_actAll (visit : Visit World) (actions : List (Action World)) :
    (visit.actAll actions).director.script = visit.director.script := by
  induction actions generalizing visit with
  | nil => rfl
  | cons action rest ih => exact (ih (visit.act action)).trans (visit.script_act action)

/-- What telling the answer adds to a call changes neither where it leads nor what it emits. -/
theorem run_answered (script : Script) (call : Call) (playthrough : Playthrough) :
    ((call.answered script).run playthrough).state =
        ((call.step script).run playthrough).state ∧
      ((call.answered script).run playthrough).events =
        ((call.step script).run playthrough).events := by
  cases call with
  | start | loadScene id | advance | makeChoice time choice | choose time place =>
      simp only [Call.answered, Call.step, Playing.run_map, and_self]

/-- A call whose answer is told leads where a turn leads, and emits what the turn emits. -/
theorem turn_ask {director : Director World}
    (hcoherent : Playthrough.Coherent director.script director.playthrough)
    (call : Call) (world : World) :
    ∃ result, Playthrough.Turn director.script director.playthrough
      { result, state := (director.ask call world).2.1.playthrough,
        events := director.emitted call } := by
  obtain ⟨hstate, hevents⟩ := run_answered director.script call director.playthrough
  refine ⟨((call.step director.script).run director.playthrough).result, ?_⟩
  rw [Director.ask_eq_perform, Director.perform, Director.emitted]
  simp only [hstate, hevents]
  exact turn_step hcoherent call

/-- What a fresh start and every turn preserve holds through a whole visit. -/
theorem actAll_induction {script : Script} {motive : Playthrough → List Event → Prop}
    (hfresh : ∀ unseeded playthrough events, motive playthrough events →
      motive (script.fresh unseeded) events)
    (hturn : ∀ playthrough events reply, Playthrough.Turn script playthrough reply →
      motive playthrough events → motive reply.state (events ++ reply.events))
    {visit : Visit World} (hscript : visit.director.script = script)
    (hcoherent : Playthrough.Coherent script visit.director.playthrough)
    (hstart : motive visit.director.playthrough visit.events) (actions : List (Action World)) :
    motive (visit.actAll actions).director.playthrough (visit.actAll actions).events := by
  induction actions generalizing visit with
  | nil => exact hstart
  | cons action rest ih =>
      have hnext : (visit.act action).director.script = script :=
        (visit.script_act action).trans hscript
      cases action with
      | call call =>
          subst hscript
          obtain ⟨result, hcalled⟩ := turn_ask hcoherent call visit.world
          exact ih hnext (hcalled.coherent hcoherent) (hturn _ _ _ hcalled hstart)
      | reset unseeded =>
          subst hscript
          apply ih hnext
          · exact Playthrough.coherent_fresh visit.director.script unseeded
          · exact hfresh unseeded _ _ hstart
      | rewire change | takeFailures => exact ih hnext hcoherent hstart

/-- A visit after a call that came to an answer. -/
def called (visit : Visit World) (call : Call) (answer : Answer World (Option Bool)) :
    Visit World :=
  { director := answer.2.1, world := answer.2.2, answers := visit.answers ++ [answer.1],
    events := visit.events ++ visit.director.emitted call }

/-- A call of which the events are delivered on the way is recorded like the call without its time
and without an audience. -/
theorem record_called {visit : Visit World} {call : Call} {answer : Answer World (Option Bool)}
    (htells : Director.Tells (call.answered visit.director.script) visit.director visit.world
      answer) :
    (visit.called call answer).record =
      visit.record.make visit.director.script (.call call.timeless) := by
  have hforgets :
      (call.timeless.answered visit.director.script).run visit.director.playthrough.timeless =
        Playthrough.forget
          ((call.answered visit.director.script).run visit.director.playthrough) :=
    Playthrough.forgets_answered visit.director.script call visit.director.playthrough
  rw [htells.eq_perform]
  simp only [called, record, Record.make, hforgets]
  rfl

theorem record_call (visit : Visit World) (call : Call) :
    (visit.act (.call call)).record =
      visit.record.make visit.director.script (.call call.timeless) := by
  have htells := Director.tells_perform (call.answered visit.director.script) visit.director
    visit.world
  rw [← Director.ask_eq_perform] at htells
  exact record_called htells

/-- An action adds its move to the record, if it is one, and leaves the record alone otherwise. -/
theorem record_act (visit : Visit World) (action : Action World) :
    (visit.act action).record =
      match action.move? visit.director.script with
      | some move => visit.record.make visit.director.script move
      | none => visit.record := by
  cases action with
  | call call => exact visit.record_call call
  | reset unseeded | rewire change | takeFailures => rfl

/-- The record of a visit is a fold over its moves. -/
theorem record_actAll (visit : Visit World) (actions : List (Action World)) :
    (visit.actAll actions).record =
      (actions.filterMap (Action.move? visit.director.script)).foldl
        (Record.make visit.director.script) visit.record := by
  induction actions generalizing visit with
  | nil => rfl
  | cons action rest ih =>
      have hrest := ih (visit.act action)
      rw [script_act, record_act] at hrest
      rw [actAll, List.foldl_cons, ← actAll, hrest]
      cases hmove : action.move? visit.director.script with
      | none => rw [List.filterMap_cons_none hmove]
      | some move => rw [List.filterMap_cons_some hmove, List.foldl_cons]

end Visit

/-! ## Two audiences -/

/-- Two visits that came to the same, the audience and the times aside. -/
structure PlayedAlike {World Other : Type} (left : Visit World) (right : Visit Other) : Prop where
  answers : right.answers = left.answers
  events : right.events = left.events
  store : right.director.store = left.director.store
  generator : right.director.playthrough.stage.generator =
    left.director.playthrough.stage.generator
  cursor : right.director.cursor = left.director.cursor
  progress : right.director.progress.timeless = left.director.progress.timeless

theorem playedAlike_of_record {World Other : Type} {left : Visit World} {right : Visit Other}
    (hrecord : right.record = left.record) : PlayedAlike left right where
  answers := congrArg Record.answers hrecord
  events := congrArg Record.events hrecord
  store := congrArg (fun record : Record => record.playthrough.stage.store) hrecord
  generator := congrArg (fun record : Record => record.playthrough.stage.generator) hrecord
  cursor := congrArg (fun record : Record => record.playthrough.stage.cursor) hrecord
  progress := congrArg (fun record : Record => record.playthrough.progress) hrecord

namespace Director

variable {World Other : Type} {first : Director World} {second : Director Other}

/-- Directors that were just begun differ in the script and the random source only. -/
theorem Begun.playthrough_eq_of (hfirst : first.Begun) (hsecond : second.Begun)
    (hscript : second.script = first.script)
    (hgenerator : second.playthrough.stage.generator = first.playthrough.stage.generator) :
    second.playthrough = first.playthrough := by
  obtain ⟨unseeded, hfresh⟩ := hfirst.playthrough_eq
  obtain ⟨other, hother⟩ := hsecond.playthrough_eq
  rw [hfresh, hother, hscript] at hgenerator
  rw [hfresh, hother, hscript, Script.fresh, Script.fresh]
  have hsource : first.script.generator other = first.script.generator unseeded := hgenerator
  rw [hsource]

/-- The script, the playthrough and the moves are all that play depends on. -/
theorem playedAlike_of_playthrough (hscript : second.script = first.script)
    (hplaythrough : second.playthrough = first.playthrough) {actions : List (Action World)}
    {others : List (Action Other)}
    (hmoves : others.filterMap (Action.move? first.script) =
      actions.filterMap (Action.move? first.script))
    (world : World) (elsewhere : Other) :
    PlayedAlike (Visit.actAll { director := first, world } actions)
      (Visit.actAll { director := second, world := elsewhere } others) := by
  have hleft := Visit.record_actAll { director := first, world } actions
  have hright := Visit.record_actAll { director := second, world := elsewhere } others
  apply playedAlike_of_record
  rw [hright, hleft, hscript, hmoves, Visit.record, Visit.record, hplaythrough]

/-- Who listens has no influence: two directors with one script and one random source, each with its
own handlers and subscriptions, come to the same when the same moves are made. -/
theorem listeners_without_influence (hfirst : first.Begun) (hsecond : second.Begun)
    (hscript : second.script = first.script)
    (hgenerator : second.playthrough.stage.generator = first.playthrough.stage.generator)
    {actions : List (Action World)} {others : List (Action Other)}
    (hmoves : others.filterMap (Action.move? first.script) =
      actions.filterMap (Action.move? first.script))
    (world : World) (elsewhere : Other) :
    PlayedAlike (Visit.actAll { director := first, world } actions)
      (Visit.actAll { director := second, world := elsewhere } others) := by
  have hplaythrough : second.playthrough = first.playthrough :=
    hfirst.playthrough_eq_of hsecond hscript hgenerator
  exact playedAlike_of_playthrough hscript hplaythrough hmoves world elsewhere

/-- A handler that crashes. -/
def crashing : Handler (List Event) := fun _ heard => (.crashed (some "out of cheese"), heard)

/-- A handler that fails once, one that crashes at every dialogue and one that writes down what it
hears. -/
def noisy : Channel (List Event) :=
  let failing : Channel (List Event) :=
    (Channel.once {} .dialogueShow fun _ heard => (.failed "too early", heard)).2
  (failing.subscribe .dialogueShow crashing).2.record fun event heard => heard ++ [event]

/-- The story of the guard before an audience. -/
def watched : Director (List Event) := opened guardStory {} noisy (Generator.ofSeed 1)

theorem begun_watched : watched.Begun :=
  begun_opened guardStory noisy (Generator.ofSeed 1) (by decide +kernel)

/-- The bribe, a new start and the bribe once more, with nobody listening. -/
def bribingAlone : List (Action Unit) :=
  [.call .start, .call (.choose { seconds := 0, nanoseconds := 0 } 0),
    .reset (Generator.ofSeed 2), .call .start,
    .call (.choose { seconds := 1, nanoseconds := 0 } 0)]

/-- The same at other times, before an audience of which the first row is thrown out. -/
def bribingWatched : List (Action (List Event)) :=
  [.call .start, .takeFailures, .call (.choose { seconds := 5, nanoseconds := 0 } 0),
    .reset (Generator.ofSeed 2), .call .start,
    .rewire fun channel heard => (channel.clear (some .dialogueShow), heard),
    .call (.choose { seconds := 7, nanoseconds := 0 } 0)]

/-- The guard plays before nobody as before an audience that fails. -/
theorem guarded_watched_alike :
    let alone := Visit.actAll { director := guarded, world := () } bribingAlone
    let seen := Visit.actAll { director := watched, world := [] } bribingWatched
    PlayedAlike alone seen ∧ seen.director.audience.failures ≠ alone.director.audience.failures :=
  ⟨listeners_without_influence begun_guarded begun_watched rfl rfl rfl () [], by decide +kernel⟩

end Director

end BranchingStory
