import BranchingStory.Proofs.Run

/-!
# Taking a choice

A choice that is accepted is taken as a whole before the cursor moves: it enters the history, its
effects and its die change the variables and the random source.  What the navigation then meets
takes none of it back.  A call that fails at a gate has therefore taken its choice, once and for
good, and the same call again takes it a second time.
-/

namespace BranchingStory

namespace Playthrough

/-- A choice that a playthrough accepts. -/
structure Accepts (script : Script) (playthrough : Playthrough) (choice : Choice) : Prop where
  unfinished : playthrough.progress.ended = false
  lively : script.depletes playthrough.stage.store = false
  active : playthrough.stage.cursor.phase.isActive = true
  valid : Effect.validate choice.effects = .ok ()

/-- What is left of a choice that was taken: one more entry in the history, and the variables and
the random source as its effects, its die and its penalty leave them. -/
structure Took (script : Script) (playthrough reached : Playthrough) (time : Timestamp)
    (choice : Choice) : Prop where
  recorded : reached.progress.history =
    playthrough.progress.history ++ [playthrough.entry time choice]
  settled : Playthrough.settled script choice playthrough.stage.store playthrough.stage.generator =
    .ok (reached.stage.store, reached.stage.generator)

/-! ## Moving takes nothing back -/

/-- Two playthroughs with the same variables, random source and history. -/
structure SameTaken (playthrough reached : Playthrough) : Prop where
  store : reached.stage.store = playthrough.stage.store
  generator : reached.stage.generator = playthrough.stage.generator
  history : reached.progress.history = playthrough.progress.history

section Moving

variable {script : Script} {playthrough : Playthrough}

theorem history_finish (progress : Progress) (reason : EndReason) :
    (progress.finish reason).history = progress.history := by
  rw [Progress.finish]
  split <;> rfl

theorem sameTaken_cutShort (playthrough : Playthrough) (reason : EndReason) :
    SameTaken playthrough (playthrough.cutShort reason) :=
  ⟨rfl, rfl, history_finish _ reason⟩

theorem Arrival.sameTaken {scene : Scene} {placed : Cursor} {reply : Reply Playthrough Unit}
    (harrival : Arrival playthrough scene placed reply) : SameTaken playthrough reply.state := by
  cases harrival with
  | stuck error hsearch => exact ⟨rfl, rfl, rfl⟩
  | past index hsearch => exact ⟨rfl, rfl, history_finish _ .scenarioComplete⟩
  | shown index dialogue choices hsearch => exact ⟨rfl, rfl, rfl⟩

theorem Departure.sameTaken {target : Target} {reply : Reply Playthrough Unit}
    (hdeparture : Departure script playthrough target reply) :
    SameTaken playthrough reply.state := by
  cases hdeparture with
  | depleted hdepleted => exact sameTaken_cutShort playthrough .statDepleted
  | moved hlively hstays scene hscene reply harrival => exact harrival.sameTaken
  | entered hlively hleaves id htarget scene hknown reply harrival =>
      have hentered := harrival.sameTaken
      exact ⟨hentered.store, hentered.generator, hentered.history⟩
  | lost hlively hleaves id htarget hunknown =>
      have hcut := sameTaken_cutShort playthrough .referenceFailure
      exact ⟨hcut.store, hcut.generator, hcut.history⟩

theorem isSettling_announce (scene : Scene) (dialogue : Dialogue) (choices : List Choice) :
    ∀ event ∈ Cursor.announce scene dialogue choices, event.isSettling = false := by
  apply Cursor.forall_mem_announce
  · intro shown
    rfl
  · rfl

/-- Arriving settles nothing. -/
theorem Arrival.isSettling_eq_false {scene : Scene} {placed : Cursor}
    {reply : Reply Playthrough Unit} (harrival : Arrival playthrough scene placed reply) :
    ∀ event ∈ reply.events, event.isSettling = false := by
  cases harrival with
  | stuck error hsearch => simp
  | past index hsearch => simp [Event.isSettling]
  | shown index dialogue choices hsearch => exact isSettling_announce scene dialogue choices

theorem isSettling_placeFor (cursor : Cursor) (target : Target) :
    ∀ event ∈ (placeFor cursor target).2, event.isSettling = false := by
  apply forall_mem_placeFor
  intro diagnostic
  rfl

/-- Departing settles nothing. -/
theorem Departure.isSettling_eq_false {target : Target} {reply : Reply Playthrough Unit}
    (hdeparture : Departure script playthrough target reply) :
    ∀ event ∈ reply.events, event.isSettling = false := by
  cases hdeparture with
  | depleted hdepleted | lost hlively hleaves id htarget hunknown => simp [Event.isSettling]
  | moved hlively hstays scene hscene reply harrival =>
      intro event hmem
      rcases List.mem_append.mp hmem with hwarning | harrived
      · exact isSettling_placeFor _ target event hwarning
      · exact harrival.isSettling_eq_false event harrived
  | entered hlively hleaves id htarget scene hknown reply harrival =>
      exact List.forall_mem_cons.mpr ⟨rfl, harrival.isSettling_eq_false⟩

/-- What a turn takes: nothing, or one choice, which it settles before anything else. -/
inductive Taking (script : Script) (playthrough : Playthrough) : Reply Playthrough Unit → Prop where
  | nothing (reply : Reply Playthrough Unit) (hsame : SameTaken playthrough reply.state)
      (hunsettling : ∀ event ∈ reply.events, event.isSettling = false) :
      Taking script playthrough reply
  | choice (time : Timestamp) (choice : Choice) (outcome : Option DiceOutcome) (stage : Stage)
      (events : List Event)
      (hsettle : (settle script choice).run playthrough.stage =
        { result := .ok outcome, state := stage, events })
      (reply : Reply Playthrough Unit)
      (hsame : SameTaken (playthrough.taken time choice stage) reply.state)
      (hunsettling : ∀ event ∈ reply.events, event.isSettling = false) :
      Taking script playthrough { reply with events := events ++ reply.events }

theorem Turn.taking {reply : Reply Playthrough Unit} (hturn : Turn script playthrough reply) :
    Taking script playthrough reply := by
  cases hturn with
  | ignored | refused error | waited hopen hlively hphase =>
      exact .nothing _ ⟨rfl, rfl, rfl⟩ (by simp)
  | depleted hopen hdepleted =>
      exact .nothing _ (sameTaken_cutShort playthrough .statDepleted) (by simp [Event.isSettling])
  | exhausted hopen hlively hempty =>
      exact .nothing _ ⟨rfl, rfl, history_finish _ .scenarioComplete⟩ (by simp [Event.isSettling])
  | advanced hopen hlively hphase scene hscene reply harrival =>
      exact .nothing _ harrival.sameTaken harrival.isSettling_eq_false
  | entered hopen hlively id scene hknown reply harrival =>
      obtain ⟨hstore, hgenerator, hhistory⟩ := harrival.sameTaken
      exact .nothing _ ⟨hstore, hgenerator, hhistory⟩
        (List.forall_mem_cons.mpr ⟨rfl, harrival.isSettling_eq_false⟩)
  | lost hopen hlively id hunknown =>
      exact .nothing _ (sameTaken_cutShort playthrough .referenceFailure)
        (by simp [Event.isSettling])
  | took hopen hlively hactive scene hscene time choice hvalid outcome store generator events
      hsettled hsettling reply hdeparture hsettle =>
      exact .choice time choice outcome _ events hsettle reply hdeparture.sameTaken
        hdeparture.isSettling_eq_false

/-! ## After a gate that cannot be judged -/

/-- An arrival that fails leaves the playthrough going on where the cursor was put. -/
theorem Arrival.goesOn {scene : Scene} {placed : Cursor} {reply : Reply Playthrough Unit}
    (harrival : Arrival playthrough scene placed reply) {error : PlaybackError}
    (hfailed : reply.result = .error error) :
    reply.state.progress.ended = playthrough.progress.ended ∧
      reply.state.stage.cursor.phase = placed.phase := by
  cases harrival with
  | stuck error hsearch => exact ⟨rfl, rfl⟩
  | past index hsearch | shown index dialogue choices hsearch => simp at hfailed

/-- A departure that fails leaves the playthrough as ready for a choice as before. -/
theorem Departure.accepts {target : Target} {reply : Reply Playthrough Unit}
    (hdeparture : Departure script playthrough target reply)
    (hopen : playthrough.progress.ended = false)
    (hactive : playthrough.stage.cursor.phase.isActive = true) {error : PlaybackError}
    (hfailed : reply.result = .error error) {choice : Choice}
    (hvalid : Effect.validate choice.effects = .ok ()) : Accepts script reply.state choice := by
  have hstore := hdeparture.sameTaken.store
  cases hdeparture with
  | depleted hdepleted | lost hlively hleaves id htarget hunknown => simp at hfailed
  | moved hlively hstays scene hscene reply harrival =>
      obtain ⟨hended, hphase⟩ := harrival.goesOn hfailed
      constructor
      · exact hended.trans hopen
      · rw [hstore]
        exact hlively
      · exact hphase ▸ hactive
      · exact hvalid
  | entered hlively hleaves id htarget scene hknown reply harrival =>
      obtain ⟨hended, hphase⟩ := harrival.goesOn hfailed
      constructor
      · exact hended.trans hopen
      · rw [hstore]
        exact hlively
      · simp [hphase, Phase.isActive]
      · exact hvalid

end Moving

/-! ## Taking -/

section Taking

variable {script : Script} {playthrough : Playthrough} {time : Timestamp} {choice : Choice}

/-- An accepted choice is recorded and settled before it departs. -/
theorem Accepts.departs (haccepts : Accepts script playthrough choice)
    (hcoherent : Coherent script playthrough) (time : Timestamp) :
    ∃ outcome store generator events reply,
      settled script choice playthrough.stage.store playthrough.stage.generator =
        .ok (store, generator) ∧
      Departure script
        (playthrough.taken time choice { playthrough.stage with store, generator })
        (targetAfter choice outcome) reply ∧
      (makeChoice script time choice).run playthrough =
        { reply with events := events ++ reply.events } := by
  obtain ⟨hopen, hlively, hactive, hvalid⟩ := haccepts
  obtain ⟨scene, hscene⟩ := hcoherent.cursor.loaded hactive
  have hphase : playthrough.stage.cursor.phase ≠ .idle := Phase.ne_idle_of_isActive hactive
  obtain ⟨outcome, store, generator, events, hsettled, _, _, hrun⟩ :=
    run_makeChoice_of_valid time hopen hlively hphase hvalid
  exact ⟨outcome, store, generator, events, _, hsettled,
    departure_depart hopen hactive hscene, hrun⟩

/-- An accepted choice is taken, whatever becomes of the call. -/
theorem Accepts.took (haccepts : Accepts script playthrough choice)
    (hcoherent : Coherent script playthrough) (time : Timestamp) :
    Took script playthrough ((makeChoice script time choice).run playthrough).state time
      choice := by
  obtain ⟨outcome, store, generator, events, reply, hsettled, hdeparture, hrun⟩ :=
    haccepts.departs hcoherent time
  have hsame := hdeparture.sameTaken
  rw [hrun]
  constructor
  · exact hsame.history
  · rw [hsettled, hsame.store, hsame.generator]
    rfl

/-- After a call that failed an accepted choice is accepted again. -/
theorem Accepts.again (haccepts : Accepts script playthrough choice)
    (hcoherent : Coherent script playthrough) {error : PlaybackError}
    (hfailed : ((makeChoice script time choice).run playthrough).result = .error error) :
    Accepts script ((makeChoice script time choice).run playthrough).state choice := by
  obtain ⟨outcome, store, generator, events, reply, _, hdeparture, hrun⟩ :=
    haccepts.departs hcoherent time
  rw [hrun] at hfailed ⊢
  exact hdeparture.accepts haccepts.unfinished haccepts.active hfailed haccepts.valid

/-- A call that fails at a gate is one with an accepted choice. -/
theorem accepts_of_gate_error (hcoherent : Coherent script playthrough) {error : GateError}
    (hfailed : ((makeChoice script time choice).run playthrough).result = .error (.gate error)) :
    Accepts script playthrough choice := by
  obtain ⟨hopen, hlively, hphase⟩ := goesOn_of_failed hfailed
  cases hvalid : Effect.validate choice.effects with
  | error refused =>
      rw [run_makeChoice_of_refused time hopen hlively hphase hvalid] at hfailed
      cases hfailed
  | ok valid => exact ⟨hopen, hlively, hcoherent.isActive hopen hphase, hvalid⟩

end Taking

/-! ## Calls that take nothing -/

section Idling

variable {script : Script} {playthrough : Playthrough}

/-- A guarded call takes nothing when its step takes nothing. -/
theorem sameTaken_unlessOver {step : Playing Playthrough Unit}
    (hstep : playthrough.progress.ended = false →
      script.depletes playthrough.stage.store = false →
        SameTaken playthrough (step.run playthrough).state) :
    SameTaken playthrough ((unlessOver script step).run playthrough).state :=
  unlessOver_cases (motive := fun reply => SameTaken playthrough reply.state)
    (fun _ => ⟨rfl, rfl, rfl⟩) (fun _ _ => sameTaken_cutShort playthrough .statDepleted) hstep

theorem sameTaken_loadScene (id : String) :
    SameTaken playthrough ((loadScene script id).run playthrough).state := by
  rw [loadScene]
  refine sameTaken_unlessOver fun hopen hlively => ?_
  rw [← run_unlessOver_of_lively hopen hlively, ← loadScene]
  cases hstory : script.story.scene? id with
  | none =>
      rw [run_loadScene_of_unknown hopen hlively hstory]
      exact sameTaken_cutShort playthrough .referenceFailure
  | some scene =>
      obtain ⟨reply, harrival, hrun⟩ := run_loadScene_of_known hopen hlively hstory
      obtain ⟨hstore, hgenerator, hhistory⟩ := harrival.sameTaken
      rw [hrun]
      exact ⟨hstore, hgenerator, hhistory⟩

theorem sameTaken_start : SameTaken playthrough ((start script).run playthrough).state := by
  rw [start]
  refine sameTaken_unlessOver fun hopen hlively => ?_
  simp only
  cases (script.settings.startScene <|> script.story.firstScene?.map Scene.id) with
  | some id => exact sameTaken_loadScene id
  | none =>
      simp only
      rw [run_finish_of_open _ hopen]
      exact ⟨rfl, rfl, history_finish _ .scenarioComplete⟩

theorem sameTaken_advance (hcoherent : Coherent script playthrough) :
    SameTaken playthrough ((advance script).run playthrough).state := by
  rw [advance]
  refine sameTaken_unlessOver fun hopen hlively => ?_
  rw [← run_unlessOver_of_lively hopen hlively, ← advance]
  by_cases hphase : playthrough.stage.cursor.phase = .showing
  · obtain ⟨scene, hscene⟩ := hcoherent.cursor.loaded (by simp [hphase, Phase.isActive])
    exact (arrival_advance hopen hlively hphase hscene).sameTaken
  · have hgoing : playthrough.stage.cursor.phase ≠ .ended := by
      intro hdone
      simp [hcoherent.ending hdone] at hopen
    rw [run_advance_of_waiting hopen hlively hphase hgoing]
    exact ⟨rfl, rfl, rfl⟩

theorem sameTaken_makeChoice_of_rejected (hcoherent : Coherent script playthrough)
    {choice : Choice} (hrejected : ¬ Accepts script playthrough choice) (time : Timestamp) :
    SameTaken playthrough ((makeChoice script time choice).run playthrough).state := by
  rw [makeChoice]
  refine sameTaken_unlessOver fun hopen hlively => ?_
  rw [← run_unlessOver_of_lively hopen hlively, ← makeChoice]
  by_cases hphase : playthrough.stage.cursor.phase = .idle
  · rw [run_makeChoice_of_idle time choice hopen hlively hphase]
    exact ⟨rfl, rfl, rfl⟩
  · cases hvalid : Effect.validate choice.effects with
    | error error =>
        rw [run_makeChoice_of_refused time hopen hlively hphase hvalid]
        exact ⟨rfl, rfl, rfl⟩
    | ok valid =>
        exact absurd ⟨hopen, hlively, hcoherent.isActive hopen hphase, hvalid⟩ hrejected

end Idling

end Playthrough

namespace Director

variable {World : Type} {director : Director World}

/-- A choice that two calls of `makeChoice` take twice. -/
structure TakenForGood (director reached : Director World) (time : Timestamp) (choice : Choice) :
    Prop where
  once : Playthrough.Took director.script director.playthrough reached.playthrough time choice
  unfinished : reached.isEnded = false
  twice : ∀ later world,
    Playthrough.Took director.script reached.playthrough
      (reached.makeChoice later choice world).2.1.playthrough later choice

theorem takenForGood_of_gate_error (hreachable : director.Reachable) {time : Timestamp}
    {choice : Choice} {world : World} {error : GateError}
    (hfailed : (director.makeChoice time choice world).1 = .error (.gate error)) :
    TakenForGood director (director.makeChoice time choice world).2.1 time choice := by
  have hcoherent := hreachable.coherent
  have haccepts := Playthrough.accepts_of_gate_error hcoherent hfailed
  have hagain := haccepts.again hcoherent hfailed
  constructor
  · exact haccepts.took hcoherent time
  · exact hagain.unfinished
  · intro later world
    have hlater := (Playthrough.turn_makeChoice hcoherent time choice).coherent hcoherent
    exact hagain.took hlater later

/-- A call with a choice that fails at a gate has taken the choice, and takes it once more when it
is repeated. -/
theorem taken_of_gate_error (hreachable : director.Reachable) (time : Timestamp) (world : World)
    (error : GateError) :
    (∀ choice, (director.makeChoice time choice world).1 = .error (.gate error) →
      TakenForGood director (director.makeChoice time choice world).2.1 time choice) ∧
    (∀ place, (director.choose time place world).1 = .error (.gate error) →
      ∃ choice, director.cursor.offered[place]? = some choice ∧
        TakenForGood director (director.choose time place world).2.1 time choice) := by
  constructor
  · intro choice hfailed
    exact takenForGood_of_gate_error hreachable hfailed
  · intro place hfailed
    cases hoffered : director.cursor.offered[place]? with
    | none => simp [choose_of_missing hoffered] at hfailed
    | some choice =>
        rw [choose_of_offered hoffered] at hfailed ⊢
        have htaken : (director.makeChoice time choice world).1 = .error (.gate error) := by
          cases hresult : (director.makeChoice time choice world).1 with
          | ok value => simp [hresult, Except.map] at hfailed
          | error other => simpa [hresult, Except.map] using hfailed
        exact ⟨choice, rfl, takenForGood_of_gate_error hreachable htaken⟩

/-- The guard after the start. -/
def challenged : Director Unit := (guarded.call .start ()).2.1

theorem reachable_challenged : challenged.Reachable :=
  .called guarded (.begun guarded begun_guarded) .start ()

/-- The bribe fails at a gate and is paid all the same. -/
theorem challenged_pays :
    let reached := (challenged.choose { seconds := 0, nanoseconds := 0 } 0 ()).2.1
    (∃ error, (challenged.choose { seconds := 0, nanoseconds := 0 } 0 ()).1 =
      .error (.gate error)) ∧
    reached.store ≠ challenged.store ∧ reached.progress.history ≠ challenged.progress.history := by
  refine ⟨?_, by decide +kernel, by decide +kernel⟩
  exact failedAtGate_iff.mp (by decide +kernel)

/-- The bribe is paid twice when the player tries again. -/
theorem challenged_taken_for_good :
    ∃ choice, challenged.cursor.offered[0]? = some choice ∧
      TakenForGood challenged (challenged.choose { seconds := 0, nanoseconds := 0 } 0 ()).2.1
        { seconds := 0, nanoseconds := 0 } choice := by
  have hfailed : ∃ error, (challenged.choose { seconds := 0, nanoseconds := 0 } 0 ()).1 =
      .error (.gate error) := failedAtGate_iff.mp (by decide +kernel)
  obtain ⟨error, hfailed⟩ := hfailed
  exact (taken_of_gate_error reachable_challenged { seconds := 0, nanoseconds := 0 } ()
    error).2 0 hfailed

end Director

end BranchingStory
