import BranchingStory.Proofs.Run

/-!
# Endings

A playthrough can end in four ways: its scene runs out, its story has no scene, a scene is missing,
or a stat is depleted.  Each of them is told once, with the reason that the progress keeps, and what
was told is the last event of the run.  From then on a director is inert: no call fails, and none
changes anything, because the end leaves no choice on offer behind.
-/

namespace BranchingStory

/-- The reason of an event that tells the end. -/
def Event.endReason? : Event → Option EndReason
  | playbackEnded reason => some reason
  | _ => none

/-- Events that do not tell the end. -/
def Untold (events : List Event) : Prop := ∀ event ∈ events, event.endReason? = none

/-- The end of a playthrough as its events tell it: not at all, or once and at last. -/
inductive EndTold : List Event → Option EndReason → Prop where
  | untold (events : List Event) (huntold : Untold events) : EndTold events none
  | told (before : List Event) (reason : EndReason) (huntold : Untold before) :
      EndTold (before ++ [.playbackEnded reason]) (some reason)

theorem Untold.append {events later : List Event} (hevents : Untold events)
    (hlater : Untold later) : Untold (events ++ later) := by
  intro event hmem
  rcases List.mem_append.mp hmem with hfirst | hsecond
  · exact hevents event hfirst
  · exact hlater event hsecond

theorem untold_of_isSettling {events : List Event}
    (hsettling : ∀ event ∈ events, event.isSettling = true) : Untold events := by
  intro event hmem
  have hevent := hsettling event hmem
  cases event <;> first | rfl | simp [Event.isSettling] at hevent

theorem untold_announce (scene : Scene) (dialogue : Dialogue) (choices : List Choice) :
    Untold (Cursor.announce scene dialogue choices) := by
  apply Cursor.forall_mem_announce
  · intro shown
    rfl
  · rfl

namespace EndTold

/-- Events before the end may be put in front. -/
theorem append {events later : List Event} {reason : Option EndReason} (huntold : Untold events)
    (htold : EndTold later reason) : EndTold (events ++ later) reason := by
  cases htold with
  | untold later hlater => exact .untold _ (huntold.append hlater)
  | told before reason hbefore =>
      rw [← List.append_assoc]
      exact .told _ reason (huntold.append hbefore)

theorem cons {event : Event} {later : List Event} {reason : Option EndReason}
    (huntold : event.endReason? = none) (htold : EndTold later reason) :
    EndTold (event :: later) reason := by
  have hsingle : Untold [event] := by simpa [Untold] using huntold
  exact append hsingle htold

theorem nil : EndTold [] none := .untold [] (by simp [Untold])

theorem single (reason : EndReason) : EndTold [.playbackEnded reason] (some reason) :=
  .told [] reason (by simp [Untold])

theorem untold_of_none {events : List Event} (htold : EndTold events none) : Untold events := by
  cases htold with
  | untold events huntold => exact huntold

/-- The reasons that are told are the reason of the end. -/
theorem mem_iff {events : List Event} {known : Option EndReason} (htold : EndTold events known)
    (reason : EndReason) : .playbackEnded reason ∈ events ↔ known = some reason := by
  cases htold with
  | untold events huntold =>
      constructor
      · intro hmem
        simpa [Event.endReason?] using huntold _ hmem
      · intro hnone
        cases hnone
  | told before told huntold =>
      rw [List.mem_append, List.mem_singleton, Option.some.injEq]
      constructor
      · rintro (hmem | htold)
        · simpa [Event.endReason?] using huntold _ hmem
        · cases htold
          rfl
      · rintro rfl
        exact .inr rfl

/-- Nothing comes after the end is told; so it is told only once. -/
theorem last {events : List Event} {known : Option EndReason} (htold : EndTold events known)
    {before after : List Event} {reason : EndReason}
    (hevents : events = before ++ .playbackEnded reason :: after) :
    Untold before ∧ after = [] := by
  cases htold with
  | untold events huntold =>
      have hmem : Event.playbackEnded reason ∈ events := by simp [hevents]
      simpa [Event.endReason?] using huntold _ hmem
  | told first told huntold =>
      rcases List.eq_nil_or_concat after with rfl | ⟨init, final, rfl⟩
      · obtain ⟨rfl, _⟩ := List.append_inj' hevents rfl
        exact ⟨huntold, rfl⟩
      · -- The end would be told among the events before it is.
        rw [List.concat_eq_append, ← List.cons_append, ← List.append_assoc] at hevents
        obtain ⟨rfl, _⟩ := List.append_inj' hevents rfl
        simpa [Event.endReason?] using huntold (.playbackEnded reason) (by simp)

end EndTold

/-! ## Every turn tells the end that it makes -/

namespace Playthrough

variable {script : Script} {playthrough : Playthrough}

theorem endReason_finished (hopen : playthrough.progress.ended = false) (reason : EndReason) :
    (playthrough.finished reason).progress.endReason = some reason := by
  simp [finished, Progress.finish, hopen]

theorem endReason_cutShort (hopen : playthrough.progress.ended = false) (reason : EndReason) :
    (playthrough.cutShort reason).progress.endReason = some reason :=
  endReason_finished hopen reason

/-- The reason that a playthrough keeps when its scene runs out. -/
theorem endReason_pastEnd (hopen : playthrough.progress.ended = false) (placed : Cursor)
    (index : Nat) :
    ((playthrough.withCursor (placed.pastEnd index)).noted.finished
      .scenarioComplete).progress.endReason = some .scenarioComplete := by
  apply endReason_finished
  exact hopen

theorem Arrival.told {scene : Scene} {placed : Cursor} {reply : Reply Playthrough Unit}
    (harrival : Arrival playthrough scene placed reply)
    (hopen : playthrough.progress.ended = false)
    (hreason : playthrough.progress.endReason = none) :
    EndTold reply.events reply.state.progress.endReason := by
  cases harrival with
  | stuck error hsearch =>
      rw [withCursor_progress, hreason]
      exact .nil
  | past index hsearch =>
      rw [endReason_pastEnd hopen]
      exact .cons rfl (.single .scenarioComplete)
  | shown index dialogue choices hsearch =>
      rw [noted_endReason, withCursor_progress, hreason]
      exact .untold _ (untold_announce scene dialogue choices)

theorem untold_placeFor (cursor : Cursor) (target : Target) :
    Untold (placeFor cursor target).2 := by
  apply forall_mem_placeFor
  intro diagnostic
  rfl

theorem Departure.told {target : Target} {reply : Reply Playthrough Unit}
    (hdeparture : Departure script playthrough target reply)
    (hopen : playthrough.progress.ended = false)
    (hreason : playthrough.progress.endReason = none) :
    EndTold reply.events reply.state.progress.endReason := by
  cases hdeparture with
  | depleted hdepleted =>
      rw [endReason_cutShort hopen]
      exact .single .statDepleted
  | moved hlively hstays scene hscene reply harrival =>
      exact .append (untold_placeFor _ _) (harrival.told hopen hreason)
  | entered hlively hleaves id htarget scene hknown reply harrival =>
      exact .cons rfl (harrival.told hopen hreason)
  | lost hlively hleaves id htarget hunknown =>
      rw [noted_endReason, endReason_cutShort hopen]
      exact .cons rfl (.single .referenceFailure)

/-- A turn of a playthrough that goes on tells the end, if it makes one. -/
theorem Turn.told {reply : Reply Playthrough Unit} (hturn : Turn script playthrough reply)
    (hreason : playthrough.progress.endReason = none) :
    EndTold reply.events reply.state.progress.endReason := by
  cases hturn with
  | ignored | refused error =>
      rw [hreason]
      exact .nil
  | depleted hopen hdepleted =>
      rw [endReason_cutShort hopen]
      exact .single .statDepleted
  | exhausted hopen hlively hempty =>
      rw [endReason_finished hopen]
      exact .single .scenarioComplete
  | waited hopen hlively hphase =>
      rw [noted_endReason, hreason]
      exact .nil
  | advanced hopen hlively hphase scene hscene reply harrival =>
      exact harrival.told hopen hreason
  | entered hopen hlively id scene hknown reply harrival =>
      exact .cons rfl (harrival.told hopen hreason)
  | lost hopen hlively id hunknown =>
      rw [endReason_cutShort hopen]
      exact .cons rfl (.single .referenceFailure)
  | took hopen hlively hactive scene hscene time choice hvalid outcome store generator events
      hsettled hsettling reply hdeparture =>
      exact .append (untold_of_isSettling hsettling) (hdeparture.told hopen hreason)

/-- A turn after the end changes nothing and emits nothing. -/
theorem Turn.quiet {reply : Reply Playthrough Unit} (hturn : Turn script playthrough reply)
    (hended : playthrough.progress.ended = true) :
    reply.state = playthrough ∧ reply.events = [] := by
  cases hturn with
  | ignored | refused error => exact ⟨rfl, rfl⟩
  | depleted hopen | exhausted hopen | waited hopen | advanced hopen | entered hopen
  | lost hopen | took hopen => simp [hopen] at hended

end Playthrough

namespace Director

variable {World : Type} {director : Director World}

/-- The events of a run tell the end that the progress has come to. -/
theorem Begun.told (hbegun : director.Begun) (calls : List Call) :
    EndTold (director.chronicle calls).events
      (director.chronicle calls).playthrough.progress.endReason := by
  apply hbegun.induction (motive := fun chronicle =>
    EndTold chronicle.events chronicle.playthrough.progress.endReason)
  · intro unseeded
    exact .nil
  · intro chronicle reply hcoherent hturn htold
    cases hreason : chronicle.playthrough.progress.endReason with
    | none =>
        rw [hreason] at htold
        exact .append htold.untold_of_none (hturn.told hreason)
    | some reason =>
        have hended : chronicle.playthrough.progress.ended = true := by
          rw [hcoherent.reason, hreason]
          rfl
        obtain ⟨hstate, hevents⟩ := hturn.quiet hended
        simp only [Chronicle.add, hstate, hevents, List.append_nil]
        exact htold

/-! ## After the end -/

/-- A director that no call changes any more: every call succeeds, and neither the director nor
the world of its handlers notices it. -/
structure Inert (director : Director World) : Prop where
  start : ∀ world, director.start world = (.ok (), director, world)
  loadScene : ∀ id world, director.loadScene id world = (.ok (), director, world)
  advance : ∀ world, director.advance world = (.ok (), director, world)
  makeChoice : ∀ time choice world,
    director.makeChoice time choice world = (.ok (), director, world)
  choose : ∀ time place world, director.choose time place world = (.ok false, director, world)

/-- A guarded call of a director whose playthrough has ended. -/
theorem perform_unlessOver_of_ended (hended : director.isEnded = true)
    (step : Playing Playthrough Unit) (world : World) :
    director.perform (Playthrough.unlessOver director.script step) world =
      (.ok (), director, world) := by
  have hrun : (Playthrough.unlessOver director.script step).run director.playthrough =
      { result := .ok (), state := director.playthrough, events := [] } :=
    Playthrough.run_unlessOver_of_ended hended
  simp only [perform, hrun, Audience.emitAll]

theorem inert_of_ended (hcoherent : Playthrough.Coherent director.script director.playthrough)
    (hended : director.isEnded = true) : director.Inert where
  start := perform_unlessOver_of_ended hended _
  loadScene := fun id => perform_unlessOver_of_ended hended _
  advance := perform_unlessOver_of_ended hended _
  makeChoice := fun time choice => perform_unlessOver_of_ended hended _
  choose := by
    intro time place world
    -- A cursor that awaits a choice is active, and none is after the end.
    have hoffered : director.cursor.offered = [] := by
      by_cases hoffered : director.playthrough.stage.cursor.offered = []
      · exact hoffered
      · have hquiet := hcoherent.quiet hended
        simp [hcoherent.cursor.awaiting hoffered, Phase.isActive] at hquiet
    exact choose_of_missing (by simp [hoffered]) time world

theorem Inert.call (hinert : director.Inert) (call : Call) (world : World) :
    director.call call world = (.ok (), director, world) := by
  cases call with
  | start => exact hinert.start world
  | loadScene id => exact hinert.loadScene id world
  | advance => exact hinert.advance world
  | makeChoice time choice => exact hinert.makeChoice time choice world
  | choose time place =>
      simp only [Director.call, hinert.choose]
      rfl

theorem Inert.play (hinert : director.Inert) (calls : List Call) (world : World) :
    director.play calls world = (calls.map fun _ => .ok (), director, world) := by
  induction calls with
  | nil => rfl
  | cons call rest ih => simp [Director.play, hinert.call, ih]

theorem Begun.isEnded_play (hbegun : director.Begun) (calls : List Call) (world : World) :
    (director.play calls world).2.1.isEnded =
      (director.play calls world).2.1.progress.endReason.isSome := by
  rw [play_eq]
  exact (hbegun.coherent_chronicle calls).reason

theorem Begun.inert_play (hbegun : director.Begun) (calls : List Call) (world : World)
    (hended : (director.play calls world).2.1.isEnded = true) :
    (director.play calls world).2.1.Inert := by
  refine inert_of_ended ?_ hended
  rw [play_eq]
  exact hbegun.coherent_chronicle calls

/-- The end of a run is told once and at last, with the reason that the progress keeps, and the
director is inert from then on. -/
theorem end_told_once (hbegun : director.Begun) (calls : List Call) (world : World) :
    let events := (director.chronicle calls).events
    let reached := (director.play calls world).2.1
    (reached.audience, (director.play calls world).2.2) =
        director.audience.emitAll events world ∧
      (∀ before reason after, events = before ++ .playbackEnded reason :: after →
        (∀ other, .playbackEnded other ∉ before) ∧ after = []) ∧
      (reached.isEnded = true ↔ ∃ reason, .playbackEnded reason ∈ events) ∧
      (∀ reason, .playbackEnded reason ∈ events ↔ reached.progress.endReason = some reason) ∧
      (reached.isEnded = true →
        reached.Inert ∧
          ∀ later world, (reached.play later world).2.1.progress.endReason =
            reached.progress.endReason) := by
  intro events reached
  have htold : EndTold events reached.progress.endReason := by
    simp only [reached, play_eq]
    exact hbegun.told calls
  refine ⟨?_, ?_, ?_, htold.mem_iff, ?_⟩
  · simp only [reached, play_eq]
    rfl
  · intro before reason after hevents
    obtain ⟨huntold, hafter⟩ := htold.last hevents
    refine ⟨?_, hafter⟩
    intro other hmem
    simpa [Event.endReason?] using huntold _ hmem
  · rw [hbegun.isEnded_play, Option.isSome_iff_exists]
    exact exists_congr fun reason => (htold.mem_iff reason).symm
  · intro hended
    have hinert : reached.Inert := hbegun.inert_play calls world hended
    refine ⟨hinert, ?_⟩
    intro later world
    rw [hinert.play]

/-- A guard without the scene that is called for ends at once. -/
theorem guarded_end_told_once :
    let reached := (guarded.play [.start, .loadScene "cellar"] ()).2.1
    reached.progress.endReason = some .referenceFailure ∧ reached.Inert :=
  have htold := end_told_once begun_guarded [.start, .loadScene "cellar"] ()
  ⟨(htold.2.2.2.1 .referenceFailure).mp (by decide +kernel),
    (htold.2.2.2.2 (by decide +kernel)).1⟩

end Director

end BranchingStory
