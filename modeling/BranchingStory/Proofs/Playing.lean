import BranchingStory.Playing

/-!
# Laws of steps

Steps of playback form a lawful monad, so that a long sequence of steps may be cut into parts and
each part be looked at alone.  The elementary steps have one equation each.  A step on a part of a
state follows the same laws as soon as writing a part and reading it back fit together.
-/

namespace BranchingStory.Playing

variable {State Part Value Other Last : Type}

private theorem id_map_step (step : Playing State Value) : id <$> step = step := by
  funext state
  change andThen step (fun value => done (id value)) state = step state
  simp only [andThen, done]
  cases hreply : step state with
  | mk result last events => cases result <;> simp

private theorem pure_bind_step (value : Value) (next : Value → Playing State Other) :
    pure value >>= next = next value := by
  funext state
  change andThen (done value) next state = next value state
  simp [andThen, done]

private theorem bind_assoc_step (step : Playing State Value) (next : Value → Playing State Other)
    (last : Other → Playing State Last) :
    step >>= next >>= last = step >>= fun value => next value >>= last := by
  funext state
  change andThen (andThen step next) last state =
    andThen step (fun value => andThen (next value) last) state
  simp only [andThen]
  cases hfirst : step state with
  | mk result middle events =>
      cases result with
      | error error => rfl
      | ok value =>
          cases hsecond : next value middle with
          | mk result final others => cases result <;> simp [hsecond]

instance : LawfulMonad (Playing State) :=
  LawfulMonad.mk' (Playing State) id_map_step pure_bind_step bind_assoc_step

/-! ## Elementary steps -/

@[simp]
theorem run_current (state : State) :
    (current : Playing State State).run state =
      { result := .ok state, state, events := [] } := rfl

@[simp]
theorem run_update (change : State → State) (state : State) :
    (update change).run state = { result := .ok (), state := change state, events := [] } := rfl

@[simp]
theorem run_emit (event : Event) (state : State) :
    (emit event).run state = { result := .ok (), state, events := [event] } := rfl

@[simp]
theorem run_stop (error : PlaybackError) (state : State) :
    (stop error : Playing State Value).run state =
      { result := .error error, state, events := [] } := rfl

theorem run_map (change : Value → Other) (step : Playing State Value) (state : State) :
    (change <$> step).run state =
      { result := (step.run state).result.map change, state := (step.run state).state,
        events := (step.run state).events } := by
  change andThen step (fun value => done (change value)) state = _
  simp only [andThen, done, run]
  cases hreply : step state with
  | mk result last events => cases result <;> simp [Except.map]

/-- A step after one that succeeds. -/
theorem run_bind_of_ok {first : Playing State Value} {next : Value → Playing State Other}
    {state middle : State} {value : Value} {events : List Event}
    (hfirst : first.run state = { result := .ok value, state := middle, events }) :
    (first >>= next).run state =
      { result := ((next value).run middle).result, state := ((next value).run middle).state,
        events := events ++ ((next value).run middle).events } := by
  rw [run_bind, hfirst]

/-- A step after one that succeeds without an event. -/
theorem run_bind_of_silent {first : Playing State Value} {next : Value → Playing State Other}
    {state middle : State} {value : Value}
    (hfirst : first.run state = { result := .ok value, state := middle, events := [] }) :
    (first >>= next).run state = (next value).run middle := by
  rw [run_bind_of_ok hfirst]
  rfl

/-- Nothing comes after a step that fails. -/
theorem run_bind_of_error {first : Playing State Value} {next : Value → Playing State Other}
    {state last : State} {error : PlaybackError} {events : List Event}
    (hfirst : first.run state = { result := .error error, state := last, events }) :
    (first >>= next).run state = { result := .error error, state := last, events } := by
  rw [run_bind, hfirst]

/-! ## Steps on a part of the state -/

section OnPart

variable {read : State → Part} {write : State → Part → State}

theorem run_onPart (step : Playing Part Value) (state : State) :
    (onPart read write step).run state =
      { result := (step.run (read state)).result,
        state := write state (step.run (read state)).state,
        events := (step.run (read state)).events } := rfl

theorem onPart_bind (hread : ∀ state part, read (write state part) = part)
    (hwrite : ∀ state part other, write (write state part) other = write state other)
    (first : Playing Part Value) (next : Value → Playing Part Other) :
    onPart read write (first >>= next) =
      onPart read write first >>= fun value => onPart read write (next value) := by
  funext state
  change (onPart read write (first >>= next)).run state =
    (onPart read write first >>= fun value => onPart read write (next value)).run state
  rw [run_bind, run_onPart, run_onPart, run_bind]
  cases hreply : first.run (read state) with
  | mk result middle events =>
      cases result with
      | error error => rfl
      | ok value => simp [run_onPart, hread, hwrite]

end OnPart

/-! ## Events behind the changes -/

/-- A step without its events, which are told with its result instead. -/
def quietly (step : Playing State Value) :
    Playing State (Except PlaybackError Value × List Event) :=
  fun state =>
    let reply := step.run state
    { result := .ok (reply.result, reply.events), state := reply.state, events := [] }

/-- A step that has nothing left but its result. -/
def answer (result : Except PlaybackError Value) : Playing State Value :=
  fun state => { result, state, events := [] }

/-- A step may make its changes first, then emit its events and stop or go on at last. -/
theorem quietly_emitAll (step : Playing State Value) :
    (step.quietly >>= fun made => emitAll made.2 >>= fun _ => answer made.1) = step := by
  funext state
  let reply := step.run state
  have hmade : step.quietly.run state =
      { result := .ok (reply.result, reply.events), state := reply.state, events := [] } := rfl
  have htold : (emitAll reply.events).run reply.state =
      { result := .ok (), state := reply.state, events := reply.events } := rfl
  change (step.quietly >>= fun made => emitAll made.2 >>= fun _ => answer made.1).run state = reply
  rw [run_bind_of_silent hmade, run_bind_of_ok htold]
  simp only [run, answer, List.append_nil]

end BranchingStory.Playing
