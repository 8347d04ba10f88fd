import BranchingStory.Event
import BranchingStory.Gate

/-!
# Playing

A step of playback changes a state, emits events and may stop with an error.  What it did before an
error stays, both in the state and in the events.  Steps are put together by a monad; the events of
a sequence of steps are those of its parts, one after the other.
-/

namespace BranchingStory

/-- Why a step of playback stopped. -/
inductive PlaybackError where
  | gate (error : GateError)
  | effect (error : EffectError)
deriving DecidableEq

def PlaybackError.message : PlaybackError → String
  | gate error => "condition error: " ++ error.message
  | effect error => "effect error: " ++ error.message

/-- What a step of playback did. -/
structure Reply (State Value : Type) where
  result : Except PlaybackError Value
  state : State
  events : List Event

/-- A step of playback. -/
def Playing (State Value : Type) : Type := State → Reply State Value

namespace Playing

variable {State Value Other : Type}

/-- What a step does in a state. -/
def run (step : Playing State Value) (state : State) : Reply State Value := step state

def done (value : Value) : Playing State Value :=
  fun state => { result := .ok value, state, events := [] }

/-- One step and, unless it stops, another one that depends on its value. -/
def andThen (first : Playing State Value) (next : Value → Playing State Other) :
    Playing State Other :=
  fun state =>
    let reply := first state
    match reply.result with
    | .error error => { result := .error error, state := reply.state, events := reply.events }
    | .ok value =>
        let later := next value reply.state
        { later with events := reply.events ++ later.events }

instance : Monad (Playing State) where
  pure := done
  bind := andThen

/-- Reads the state. -/
def current : Playing State State := fun state => { result := .ok state, state, events := [] }

/-- Changes the state. -/
def update (change : State → State) : Playing State Unit :=
  fun state => { result := .ok (), state := change state, events := [] }

def emit (event : Event) : Playing State Unit :=
  fun state => { result := .ok (), state, events := [event] }

def emitAll (events : List Event) : Playing State Unit :=
  fun state => { result := .ok (), state, events }

/-- Stops with an error. -/
def stop (error : PlaybackError) : Playing State Value :=
  fun state => { result := .error error, state, events := [] }

/-- A step on a part of the state. -/
def onPart {Part : Type} (read : State → Part) (write : State → Part → State)
    (step : Playing Part Value) : Playing State Value :=
  fun state =>
    let reply := step (read state)
    { result := reply.result, state := write state reply.state, events := reply.events }

@[simp]
theorem run_pure (value : Value) (state : State) :
    (pure value : Playing State Value).run state =
      { result := .ok value, state, events := [] } := rfl

theorem run_bind (first : Playing State Value) (next : Value → Playing State Other)
    (state : State) :
    (first >>= next).run state =
      match (first.run state).result with
      | .error error =>
          { result := .error error, state := (first.run state).state,
            events := (first.run state).events }
      | .ok value =>
          { (next value).run (first.run state).state with
            events :=
              (first.run state).events ++ ((next value).run (first.run state).state).events } :=
  rfl

end Playing

end BranchingStory
