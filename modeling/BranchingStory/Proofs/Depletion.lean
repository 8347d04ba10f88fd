import BranchingStory.Proofs.Ending
import BranchingStory.Proofs.Sourcing

/-!
# Depleted stats

When the settings ask for it, a playthrough ends as soon as a tracked variable is not positive.  The
policy is looked at in front of every call and again behind the settling of a choice, and between
these places no variable is written.  So nothing comes on screen while a stat is depleted, a call
leaves no playthrough with a depleted stat going on, and a playthrough that has ended for another
reason has none: its variables were looked at before it ended, and no one has written them since.

What is on screen is told by events, and the variables at an event are those that the events before
it have made of the starting values.
-/

namespace BranchingStory

/-- Whether a tracked variable is not positive. -/
def Script.StatDepleted (script : Script) (store : Variables) : Prop :=
  ∃ name ∈ script.settings.tracked, (store.get name).atMost 0 = true

theorem Script.depletes_iff {script : Script} {store : Variables} :
    script.depletes store = true ↔
      script.settings.endOnDepletedStat = true ∧ script.StatDepleted store := by
  rw [depletes, Bool.and_eq_true, List.any_eq_true]
  rfl

/-- The events that put something on screen. -/
def Event.fillsScreen : Event → Bool
  | sceneChanged _ | dialogueShow _ | choicesShow _ => true
  | _ => false

/-- The policy ends no playthrough with the variables that stand when the events fill the screen. -/
def ShownAlive (script : Script) (store : Variables) : List Event → Prop
  | [] => True
  | event :: rest =>
      (event.fillsScreen = true → script.depletes store = false) ∧
        ShownAlive script (store.after event) rest

namespace ShownAlive

variable {script : Script} {store : Variables} {events later : List Event}

theorem append (hevents : ShownAlive script store events)
    (hlater : ShownAlive script (store.replay events) later) :
    ShownAlive script store (events ++ later) := by
  induction events generalizing store with
  | nil => exact hlater
  | cons event rest ih => exact ⟨hevents.1, ih hevents.2 hlater⟩

theorem at_event (halive : ShownAlive script store events) {before after : List Event}
    {event : Event} (hevents : events = before ++ event :: after)
    (hfills : event.fillsScreen = true) : script.depletes (store.replay before) = false := by
  subst hevents
  induction before generalizing store with
  | nil => exact halive.1 hfills
  | cons first rest ih => exact ih halive.2

/-- Events that fill no screen. -/
theorem of_dark (hdark : ∀ event ∈ events, event.fillsScreen = false) (store : Variables) :
    ShownAlive script store events := by
  induction events generalizing store with
  | nil => trivial
  | cons event rest ih =>
      obtain ⟨hevent, hrest⟩ := List.forall_mem_cons.mp hdark
      exact ⟨fun hfills => by simp [hevent] at hfills, ih hrest _⟩

/-- Events that settle nothing, while no stat is depleted. -/
theorem of_lively (hlively : script.depletes store = false)
    (hunsettling : ∀ event ∈ events, event.isSettling = false) :
    ShownAlive script store events := by
  induction events with
  | nil => trivial
  | cons event rest ih =>
      obtain ⟨hevent, hrest⟩ := List.forall_mem_cons.mp hunsettling
      have haside := Event.isVariables_of_isSettling hevent
      refine ⟨fun _ => hlively, ?_⟩
      rw [Variables.after_of_aside haside]
      exact ih hrest

end ShownAlive

theorem Event.fillsScreen_of_isSettling {event : Event} (hsettling : event.isSettling = true) :
    event.fillsScreen = false := by
  cases event with
  | variablesDelta changes | variablesUpdated snapshot | diceRolled roll => rfl
  | _ => simp [isSettling] at hsettling

namespace Playthrough

variable {script : Script} {playthrough : Playthrough}

/-! ## Nothing comes on screen with a depleted stat -/

theorem Departure.shownAlive {target : Target} {reply : Reply Playthrough Unit}
    (hdeparture : Departure script playthrough target reply) :
    ShownAlive script playthrough.stage.store reply.events := by
  have hunsettling := hdeparture.isSettling_eq_false
  cases hdeparture with
  | depleted hdepleted => exact .of_dark (by simp [Event.fillsScreen]) _
  | moved hlively hstays scene hscene reply harrival => exact .of_lively hlively hunsettling
  | entered hlively hleaves id htarget scene hknown reply harrival =>
      exact .of_lively hlively hunsettling
  | lost hlively hleaves id htarget hunknown => exact .of_lively hlively hunsettling

theorem Turn.shownAlive {reply : Reply Playthrough Unit} (hturn : Turn script playthrough reply) :
    ShownAlive script playthrough.stage.store reply.events := by
  cases hturn with
  | ignored | refused error | waited hopen hlively hphase => trivial
  | depleted hopen hdepleted | exhausted hopen hlively hempty | lost hopen hlively id hunknown =>
      exact .of_dark (by simp [Event.fillsScreen]) _
  | advanced hopen hlively hphase scene hscene reply harrival =>
      exact .of_lively hlively harrival.isSettling_eq_false
  | entered hopen hlively id scene hknown reply harrival =>
      exact .of_lively hlively (List.forall_mem_cons.mpr ⟨rfl, harrival.isSettling_eq_false⟩)
  | took hopen hlively hactive scene hscene time choice hvalid outcome store generator events
      hsettled hsettling reply hdeparture hsettle =>
      have hdark : ∀ event ∈ events, event.fillsScreen = false := by
        intro event hmem
        exact Event.fillsScreen_of_isSettling (hsettling event hmem)
      apply ShownAlive.append (.of_dark hdark _)
      -- The departure begins with the variables that the settling has told.
      rw [(sourced_settle hsettle).replay_eq]
      exact hdeparture.shownAlive

/-! ## A depleted stat is an end, and the reason for it -/

/-- If the playthrough has ended, it is for a depleted stat just when the policy asks for it. -/
def EndedForDepletion (script : Script) (playthrough : Playthrough) : Prop :=
  playthrough.progress.ended = true →
    (playthrough.progress.endReason = some .statDepleted ↔
      script.depletes playthrough.stage.store = true)

theorem EndedForDepletion.of_open (hopen : playthrough.progress.ended = false) :
    EndedForDepletion script playthrough := by
  intro hended
  simp [hopen] at hended

theorem EndedForDepletion.of_reason {reason : EndReason}
    (hreason : playthrough.progress.endReason = some reason)
    (hdepletes : reason = .statDepleted ↔ script.depletes playthrough.stage.store = true) :
    EndedForDepletion script playthrough := by
  intro _
  rw [hreason, Option.some.injEq]
  exact hdepletes

theorem endedForDepletion_of_lively {reason : EndReason}
    (hlively : script.depletes playthrough.stage.store = false)
    (hreason : playthrough.progress.endReason = some reason) (hother : reason ≠ .statDepleted) :
    EndedForDepletion script playthrough := by
  apply EndedForDepletion.of_reason hreason
  simp [hlively, hother]

theorem endedForDepletion_cutShort (hopen : playthrough.progress.ended = false)
    (hdepleted : script.depletes playthrough.stage.store = true) :
    EndedForDepletion script (playthrough.cutShort .statDepleted) := by
  apply EndedForDepletion.of_reason (endReason_cutShort hopen .statDepleted)
  exact iff_of_true rfl hdepleted

theorem Arrival.endedForDepletion {scene : Scene} {placed : Cursor}
    {reply : Reply Playthrough Unit} (harrival : Arrival playthrough scene placed reply)
    (hopen : playthrough.progress.ended = false)
    (hlively : script.depletes playthrough.stage.store = false) :
    EndedForDepletion script reply.state := by
  cases harrival with
  | stuck error hsearch | shown index dialogue choices hsearch => exact .of_open hopen
  | past index hsearch =>
      exact endedForDepletion_of_lively hlively (endReason_pastEnd hopen placed index) (by simp)

theorem Departure.endedForDepletion {target : Target} {reply : Reply Playthrough Unit}
    (hdeparture : Departure script playthrough target reply)
    (hopen : playthrough.progress.ended = false) : EndedForDepletion script reply.state := by
  cases hdeparture with
  | depleted hdepleted => exact endedForDepletion_cutShort hopen hdepleted
  | moved hlively hstays scene hscene reply harrival =>
      exact harrival.endedForDepletion hopen hlively
  | entered hlively hleaves id htarget scene hknown reply harrival =>
      exact harrival.endedForDepletion hopen hlively
  | lost hlively hleaves id htarget hunknown =>
      exact endedForDepletion_of_lively hlively (endReason_cutShort hopen .referenceFailure)
        (by simp)

theorem Turn.endedForDepletion {reply : Reply Playthrough Unit}
    (hturn : Turn script playthrough reply) (hbefore : EndedForDepletion script playthrough) :
    EndedForDepletion script reply.state := by
  cases hturn with
  | ignored | refused error => exact hbefore
  | depleted hopen hdepleted => exact endedForDepletion_cutShort hopen hdepleted
  | exhausted hopen hlively hempty =>
      exact endedForDepletion_of_lively hlively (endReason_finished hopen .scenarioComplete)
        (by simp)
  | waited hopen hlively hphase => exact .of_open hopen
  | advanced hopen hlively hphase scene hscene reply harrival =>
      exact harrival.endedForDepletion hopen hlively
  | entered hopen hlively id scene hknown reply harrival =>
      exact harrival.endedForDepletion hopen hlively
  | lost hopen hlively id hunknown =>
      exact endedForDepletion_of_lively hlively (endReason_cutShort hopen .referenceFailure)
        (by simp)
  | took hopen hlively hactive scene hscene time choice hvalid outcome store generator events
      hsettled hsettling reply hdeparture => exact hdeparture.endedForDepletion hopen

/-- A departure that leaves a depleted stat has ended the playthrough. -/
theorem Departure.ended_of_depletes {target : Target} {reply : Reply Playthrough Unit}
    (hdeparture : Departure script playthrough target reply)
    (hdepletes : script.depletes reply.state.stage.store = true) :
    reply.state.progress.ended = true := by
  rw [hdeparture.sameTaken.store] at hdepletes
  cases hdeparture with
  | depleted hdepleted => exact ended_cutShort playthrough .statDepleted
  | moved hlively | entered hlively | lost hlively => simp [hlively] at hdepletes

/-- A turn that begins without a depleted stat and leaves one has ended the playthrough. -/
theorem Turn.ended_of_depletes {reply : Reply Playthrough Unit}
    (hturn : Turn script playthrough reply)
    (hlively : script.depletes playthrough.stage.store = false)
    (hdepletes : script.depletes reply.state.stage.store = true) :
    reply.state.progress.ended = true := by
  cases hturn with
  | ignored | refused error | waited | exhausted | lost | depleted =>
      exact absurd hdepletes (Bool.eq_false_iff.mp hlively)
  | advanced hopen hlively hphase scene hscene reply harrival =>
      rw [harrival.sameTaken.store] at hdepletes
      exact absurd hdepletes (Bool.eq_false_iff.mp hlively)
  | entered hopen hlively id scene hknown reply harrival =>
      simp only [harrival.sameTaken.store] at hdepletes
      exact absurd hdepletes (Bool.eq_false_iff.mp hlively)
  | took hopen hlively hactive scene hscene time choice hvalid outcome store generator events
      hsettled hsettling reply hdeparture => exact hdeparture.ended_of_depletes hdepletes

/-- A guarded call leaves no playthrough with a depleted stat going on. -/
theorem ended_of_unlessOver {step : Playing Playthrough Unit}
    (hturn : Turn script playthrough ((unlessOver script step).run playthrough))
    (hdepletes : script.depletes
      ((unlessOver script step).run playthrough).state.stage.store = true) :
    ((unlessOver script step).run playthrough).state.progress.ended = true := by
  cases hended : playthrough.progress.ended with
  | true =>
      rw [run_unlessOver_of_ended hended]
      exact hended
  | false =>
      cases hbefore : script.depletes playthrough.stage.store with
      | true =>
          rw [run_unlessOver_of_depleted hended hbefore]
          exact ended_cutShort playthrough .statDepleted
      | false => exact hturn.ended_of_depletes hbefore hdepletes

end Playthrough

/-! ## Runs -/

/-- Whether a call chooses from what is offered.  Where nothing is, it does not look at the
stats. -/
def Call.isChoosing : Call → Bool
  | choose _ _ => true
  | start | loadScene _ | advance | makeChoice _ _ => false

theorem Call.step_eq_unlessOver {call : Call} (hdirect : call.isChoosing = false)
    (script : Script) : ∃ step, call.step script = Playthrough.unlessOver script step := by
  cases call with
  | choose time place => simp [isChoosing] at hdirect
  | start | loadScene id | advance | makeChoice time choice => exact ⟨_, rfl⟩

/-- What the policy on depleted stats comes to in a run with these events, in the director that the
run has reached. -/
structure EndsOnDepletion {World : Type} (events : List Event) (reached : Director World) :
    Prop where
  /-- Nothing comes on screen while a stat is depleted. -/
  shown : ∀ before event after, events = before ++ event :: after → event.fillsScreen = true →
    ¬ reached.script.StatDepleted (reached.script.initial.replay before)
  /-- A further call, whatever it gives back, leaves a depleted stat only behind the end. -/
  ended : ∀ call world, call.isChoosing = false →
    reached.script.StatDepleted (reached.call call world).2.1.store →
      (reached.call call world).2.1.isEnded = true
  /-- At the end a stat is depleted just when that was the reason. -/
  reason : reached.isEnded = true →
    (reached.progress.endReason = some .statDepleted ↔
      reached.script.StatDepleted reached.store)

namespace Director

variable {World : Type} {director : Director World}

theorem Begun.shownAlive (hbegun : director.Begun) (calls : List Call) :
    ShownAlive director.script director.script.initial (director.chronicle calls).events := by
  have hboth := hbegun.induction (motive := fun chronicle =>
    ShownAlive director.script director.script.initial chronicle.events ∧
      Sourced director.script.initial chronicle.events chronicle.playthrough.stage.store)
  refine (hboth ?_ ?_ calls).1
  · intro unseeded
    exact ⟨trivial, .still _⟩
  · intro chronicle reply hcoherent hturn ⟨halive, hsourced⟩
    refine ⟨halive.append ?_, hsourced.append hturn.sourced⟩
    rw [hsourced.replay_eq]
    exact hturn.shownAlive

theorem Begun.endedForDepletion (hbegun : director.Begun) (calls : List Call) :
    Playthrough.EndedForDepletion director.script (director.chronicle calls).playthrough := by
  apply hbegun.induction (motive := fun chronicle =>
    Playthrough.EndedForDepletion director.script chronicle.playthrough)
  · intro unseeded
    exact .of_open rfl
  · intro chronicle reply hcoherent hturn hbefore
    exact hturn.endedForDepletion hbefore

/-- A call of a coherent director that does not choose. -/
theorem isEnded_of_depletes
    (hcoherent : Playthrough.Coherent director.script director.playthrough) {call : Call}
    (hdirect : call.isChoosing = false) {world : World}
    (hdepletes : director.script.depletes (director.call call world).2.1.store = true) :
    (director.call call world).2.1.isEnded = true := by
  have hturn := turn_step hcoherent call
  obtain ⟨step, hstep⟩ := call.step_eq_unlessOver hdirect director.script
  rw [call_eq_perform] at hdepletes ⊢
  rw [hstep] at hturn hdepletes ⊢
  exact Playthrough.ended_of_unlessOver hturn hdepletes

/-- Every run under the policy keeps to it. -/
theorem Begun.endsOnDepletion (hbegun : director.Begun)
    (hpolicy : director.script.settings.endOnDepletedStat = true) (calls : List Call)
    (world : World) :
    EndsOnDepletion (director.chronicle calls).events (director.play calls world).2.1 := by
  have hdepletes : ∀ store, director.script.depletes store = true ↔
      director.script.StatDepleted store := by
    intro store
    rw [Script.depletes_iff]
    exact and_iff_right hpolicy
  constructor
  · intro before event after hevents hfills
    rw [script_play, ← hdepletes, Bool.not_eq_true]
    exact (hbegun.shownAlive calls).at_event hevents hfills
  · intro call elsewhere hdirect hdepleted
    have hcoherent : Playthrough.Coherent (director.play calls world).2.1.script
        (director.play calls world).2.1.playthrough := by
      rw [script_play, playthrough_play]
      exact hbegun.coherent_chronicle calls
    apply isEnded_of_depletes hcoherent hdirect
    rw [script_play] at hdepleted ⊢
    exact (hdepletes _).mpr hdepleted
  · intro hended
    rw [isEnded, progress, playthrough_play] at hended
    rw [script_play, ← hdepletes, progress, store, playthrough_play]
    exact hbegun.endedForDepletion calls hended

/-- No run without the policy ends for a depleted stat. -/
theorem Begun.endReason_ne_statDepleted (hbegun : director.Begun)
    (hpolicy : director.script.settings.endOnDepletedStat = false) (calls : List Call) :
    (director.chronicle calls).playthrough.progress.endReason ≠ some .statDepleted := by
  intro hdepleted
  have hended : (director.chronicle calls).playthrough.progress.ended = true := by
    rw [(hbegun.coherent_chronicle calls).reason, hdepleted]
    rfl
  have hdepletes := (hbegun.endedForDepletion calls hended).mp hdepleted
  simp [Script.depletes, hpolicy] at hdepletes

/-- Under the policy on depleted stats nothing comes on screen while one is depleted, every call
ends a playthrough that it leaves with one, and the reason of the end tells whether there is one.
Without the policy this reason is never given. -/
theorem depleted_stat_policy (hbegun : director.Begun) (calls : List Call) (world : World) :
    let events := (director.chronicle calls).events
    let reached := (director.play calls world).2.1
    (director.script.settings.endOnDepletedStat = true → EndsOnDepletion events reached) ∧
      (director.script.settings.endOnDepletedStat = false →
        reached.progress.endReason ≠ some .statDepleted ∧
          .playbackEnded .statDepleted ∉ events) := by
  intro events reached
  refine ⟨fun hpolicy => hbegun.endsOnDepletion hpolicy calls world, ?_⟩
  intro hpolicy
  have hnever := hbegun.endReason_ne_statDepleted hpolicy calls
  constructor
  · simp only [reached, progress, playthrough_play]
    exact hnever
  · intro htold
    exact hnever (((hbegun.told calls).mem_iff .statDepleted).mp htold)

end Director

/-- A ledge from which one jumps at the cost of all confidence. -/
def ledgeScene : Scene where
  id := "ledge"
  dialogues :=
    [{ speaker := "Narrator", text := "It is a long way down.",
       choices := [{ text := "Jump", effects := [.set "Confidence" 0] }] },
      { speaker := "Narrator", text := "You are down." }]

def ledgeStory : Story where
  scenes := [ledgeScene]
  unambiguous := by decide

namespace Director

/-- The story of the ledge, which ends with the confidence. -/
def jumper : Director Unit :=
  opened ledgeStory { endOnDepletedStat := true } {} (Generator.ofSeed 1)

theorem begun_jumper : jumper.Begun :=
  begun_opened ledgeStory {} (Generator.ofSeed 1) (by decide +kernel)

/-- The calls of a player who jumps. -/
def jumping : List Call := [.start, .choose { seconds := 0, nanoseconds := 0 } 0]

/-- The jump ends the playthrough for want of confidence, before the line behind it is shown.  A
bribe without the policy ends nothing. -/
theorem jumper_depleted :
    let reached := (jumper.play jumping ()).2.1
    EndsOnDepletion (jumper.chronicle jumping).events reached ∧ reached.isEnded = true ∧
      reached.script.StatDepleted reached.store ∧
      .playbackEnded .statDepleted ∉ (guarded.chronicle bribing).events :=
  have hpolicy := (depleted_stat_policy begun_jumper jumping ()).1 rfl
  have hended : (jumper.play jumping ()).2.1.isEnded = true := by decide +kernel
  ⟨hpolicy, hended, (hpolicy.reason hended).mp (by decide +kernel),
    ((depleted_stat_policy begun_guarded bribing ()).2 rfl).2⟩

end Director

end BranchingStory
