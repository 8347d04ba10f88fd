import BranchingStory.Proofs.Taking

/-!
# Variables from events

What a playthrough does to its variables can be read off its events.  Every list of changes is
published as soon as it is made, with the difference that each change makes, and all variables
follow it.  So a listener who performs the reported changes from the starting values on has the
variables of the playthrough, after any run and whatever its calls gave back.

`Sourced` is this relation between the variables before some events, the events, and the variables
after them.  It holds of the settling of a choice, and what comes before or after the settling
leaves the variables alone.
-/

namespace BranchingStory

namespace Variables

/-! ## Performing reported changes -/

/-- Writes the values that changes report, one after the other. -/
def perform (store : Variables) : List Change → Variables
  | [] => store
  | change :: rest => perform (store.set change.name change.value) rest

/-- The variables after an event; only changes write. -/
def after (store : Variables) : Event → Variables
  | .variablesDelta changes => store.perform changes
  | _ => store

/-- The variables after events, as the events tell them. -/
def replay (store : Variables) : List Event → Variables
  | [] => store
  | event :: rest => replay (store.after event) rest

/-- Each change tells its value minus the one that its variable has just before it. -/
def Measured (store : Variables) : List Change → Prop
  | [] => True
  | change :: rest =>
      change.delta = change.value - store.get change.name ∧
        Measured (store.set change.name change.value) rest

theorem Measured.delta_eq {store : Variables} {earlier later : List Change} {change : Change}
    (hmeasured : store.Measured (earlier ++ change :: later)) :
    change.delta = change.value - (store.perform earlier).get change.name := by
  induction earlier generalizing store with
  | nil => exact hmeasured.1
  | cons first rest ih => exact ih hmeasured.2

end Variables

/-! ## Every change that is made is reported -/

namespace Effect

/-- An effect writes what it reports. -/
theorem apply_reports {effect : Effect} {store : Variables} {generator : Generator}
    {outcome : Outcome Change} (happlied : effect.apply store generator = .ok outcome) :
    outcome.report.delta = outcome.report.value - store.get outcome.report.name ∧
      outcome.store = store.set outcome.report.name outcome.report.value := by
  obtain ⟨computed, hvalue, rfl⟩ := apply_iff.mp happlied
  exact ⟨rfl, rfl⟩

/-- A list of effects writes what it reports, in the order of the report. -/
theorem applyInOrder_reports {effects : List Effect} {store : Variables} {generator : Generator}
    {outcome : Outcome (List Change)}
    (happlied : applyInOrder effects store generator = .ok outcome) :
    store.Measured outcome.report ∧ outcome.store = store.perform outcome.report := by
  induction effects generalizing store generator outcome with
  | nil =>
      cases happlied
      exact ⟨trivial, rfl⟩
  | cons effect rest ih =>
      obtain ⟨first, others, hfirst, hothers, rfl⟩ := applyInOrder_cons_iff.mp happlied
      obtain ⟨hdelta, hwritten⟩ := apply_reports hfirst
      obtain ⟨hmeasured, hperformed⟩ := ih hothers
      rw [hwritten] at hmeasured hperformed
      exact ⟨⟨hdelta, hmeasured⟩, hperformed⟩

theorem applyAll_reports {effects : List Effect} {store : Variables} {generator : Generator}
    {outcome : Outcome (List Change)}
    (happlied : applyAll effects store generator = .ok outcome) :
    store.Measured outcome.report ∧ outcome.store = store.perform outcome.report := by
  exact applyInOrder_reports (applyInOrder_of_applyAll happlied)

end Effect

namespace Playthrough

/-- Subtracting writes what it reports. -/
theorem subtractFrom_reports (amount : Binary64) (names : List String) (store : Variables) :
    store.Measured (subtractFrom amount names store).1 ∧
      (subtractFrom amount names store).2 =
        store.perform (subtractFrom amount names store).1 := by
  induction names generalizing store with
  | nil => exact ⟨trivial, rfl⟩
  | cons name rest ih =>
      obtain ⟨hmeasured, hperformed⟩ := ih (store.modify name (-amount)).2
      exact ⟨⟨rfl, hmeasured⟩, hperformed⟩

/-- A penalty writes what it reports. -/
theorem penalty_reports (script : Script) (check : DiceCheck) (outcome : DiceOutcome)
    (store : Variables) :
    store.Measured (penalty script check outcome store).1 ∧
      (penalty script check outcome store).2 =
        store.perform (penalty script check outcome store).1 := by
  cases outcome with
  | success => exact ⟨trivial, rfl⟩
  | failure => exact subtractFrom_reports _ _ store

end Playthrough

/-! ## Events that tell the variables -/

/-- The events that have to do with the variables. -/
def Event.isVariables : Event → Bool
  | variablesDelta _ | variablesUpdated _ => true
  | _ => false

/-- The events lead from some variables to others: each list of changes leads on from the variables
before it, and all variables are told right behind it. -/
inductive Sourced : Variables → List Event → Variables → Prop where
  | still (store : Variables) : Sourced store [] store
  | aside {start reached : Variables} {event : Event} {rest : List Event}
      (haside : event.isVariables = false) (hrest : Sourced start rest reached) :
      Sourced start (event :: rest) reached
  | changed {start reached : Variables} {changes : List Change} {rest : List Event}
      (hmeasured : start.Measured changes)
      (hrest : Sourced (start.perform changes) rest reached) :
      Sourced start
        (.variablesDelta changes :: .variablesUpdated (start.perform changes) :: rest) reached

def Event.snapshot? : Event → Option Variables
  | variablesUpdated snapshot => some snapshot
  | _ => none

/-- The variables that were told last. -/
def lastSnapshot (events : List Event) : Option Variables :=
  (events.filterMap Event.snapshot?).getLast?

theorem Event.isVariables_of_isSettling {event : Event} (hsettling : event.isSettling = false) :
    event.isVariables = false := by
  cases event with
  | variablesDelta changes | variablesUpdated snapshot => simp [isSettling] at hsettling
  | _ => rfl

/-- Only a report of changes changes what the events tell. -/
theorem Variables.after_of_aside {event : Event} (haside : event.isVariables = false)
    (store : Variables) : store.after event = store := by
  cases event with
  | variablesDelta changes => simp [Event.isVariables] at haside
  | _ => rfl

theorem lastSnapshot_cons_of_aside {event : Event} (haside : event.isVariables = false)
    (rest : List Event) : lastSnapshot (event :: rest) = lastSnapshot rest := by
  cases event with
  | variablesUpdated snapshot => simp [Event.isVariables] at haside
  | _ => rfl

theorem lastSnapshot_changed (changes : List Change) (snapshot : Variables)
    (rest : List Event) :
    lastSnapshot (.variablesDelta changes :: .variablesUpdated snapshot :: rest) =
      some ((lastSnapshot rest).getD snapshot) :=
  List.getLast?_cons

namespace Sourced

variable {start middle reached : Variables} {events later : List Event}

theorem append (hevents : Sourced start events middle) (hlater : Sourced middle later reached) :
    Sourced start (events ++ later) reached := by
  induction hevents with
  | still store => exact hlater
  | aside haside hrest ih => exact .aside haside (ih hlater)
  | changed hmeasured hrest ih => exact .changed hmeasured (ih hlater)

/-- Events that have nothing to do with the variables leave them alone. -/
theorem of_aside (haside : ∀ event ∈ events, event.isVariables = false) (store : Variables) :
    Sourced store events store := by
  induction events with
  | nil => exact .still store
  | cons event rest ih =>
      obtain ⟨hevent, hrest⟩ := List.forall_mem_cons.mp haside
      exact .aside hevent (ih hrest)

/-- Changes that are published as they are made. -/
theorem changeEvents {changes : List Change} (hmeasured : start.Measured changes)
    (hreached : reached = start.perform changes) :
    Sourced start (Stage.changeEvents changes reached) reached := by
  subst hreached
  exact .changed hmeasured (.still _)

theorem replay_eq (hsourced : Sourced start events reached) : start.replay events = reached := by
  induction hsourced with
  | still store => rfl
  | aside haside hrest ih =>
      rw [Variables.replay, Variables.after_of_aside haside]
      exact ih
  | changed hmeasured hrest ih => exact ih

/-- What a report of changes tells, and what comes behind it. -/
theorem at_delta (hsourced : Sourced start events reached) {before after : List Event}
    {changes : List Change} (hevents : events = before ++ .variablesDelta changes :: after) :
    (start.replay before).Measured changes ∧
      ∃ rest, after =
        .variablesUpdated (start.replay (before ++ [.variablesDelta changes])) :: rest := by
  induction hsourced generalizing before with
  | still store => simp at hevents
  | @aside start reached event rest haside hrest ih =>
      cases before with
      | nil =>
          obtain ⟨rfl, _⟩ := List.cons.inj hevents
          simp [Event.isVariables] at haside
      | cons first others =>
          obtain ⟨rfl, hothers⟩ := List.cons.inj hevents
          have htail := ih hothers
          rw [List.cons_append, Variables.replay, Variables.replay,
            Variables.after_of_aside haside]
          exact htail
  | @changed start reached reported rest hmeasured hrest ih =>
      cases before with
      | nil =>
          obtain ⟨hreported, hrest⟩ := List.cons.inj hevents
          cases hreported
          exact ⟨hmeasured, rest, hrest.symm⟩
      | cons first others =>
          obtain ⟨rfl, hothers⟩ := List.cons.inj hevents
          cases others with
          | nil => cases (List.cons.inj hothers).1
          | cons second later =>
              obtain ⟨rfl, hlater⟩ := List.cons.inj hothers
              have htail := ih hlater
              exact htail

/-- The variables that were told last are those that were reached, and when none were told they
are still those of the start. -/
theorem lastSnapshot_getD_eq (hsourced : Sourced start events reached) :
    (lastSnapshot events).getD start = reached := by
  induction hsourced with
  | still store => rfl
  | aside haside hrest ih =>
      rw [lastSnapshot_cons_of_aside haside]
      exact ih
  | changed hmeasured hrest ih =>
      rw [lastSnapshot_changed]
      exact ih

end Sourced

/-! ## Every turn tells what it does to the variables -/

namespace Playthrough

variable {script : Script} {playthrough : Playthrough}

theorem sourced_penaltyEvents {start reached : Variables} {changes : List Change}
    (hmeasured : start.Measured changes) (hreached : reached = start.perform changes) :
    Sourced start (penaltyEvents changes reached) reached := by
  rw [penaltyEvents]
  cases changes with
  | nil =>
      subst hreached
      exact .still _
  | cons change rest => exact .changeEvents hmeasured hreached

/-- Settling a choice tells the variables that it leaves. -/
theorem sourced_settle {choice : Choice} {stage reached : Stage} {outcome : Option DiceOutcome}
    {events : List Event}
    (hsettle : (settle script choice).run stage =
      { result := .ok outcome, state := reached, events }) :
    Sourced stage.store events reached.store := by
  cases settlement_of_settle hsettle with
  | unchecked applied happlied hcheck =>
      obtain ⟨hmeasured, hperformed⟩ := Effect.applyAll_reports happlied
      exact .changeEvents hmeasured hperformed
  | checked applied happlied check hcheck roll generator hthrown =>
      obtain ⟨hmeasured, hperformed⟩ := Effect.applyAll_reports happlied
      obtain ⟨hcosts, hpaid⟩ := penalty_reports script check roll.outcome applied.store
      have heffects : Sourced stage.store
          (Stage.changeEvents applied.report applied.store) applied.store :=
        .changeEvents hmeasured hperformed
      have hthrow : Sourced applied.store [.diceRolled roll] applied.store :=
        .aside rfl (.still _)
      exact (heffects.append hthrow).append (sourced_penaltyEvents hcosts hpaid)

/-- A move that settles nothing tells that the variables stay. -/
theorem SameTaken.sourced {reply : Reply Playthrough Unit}
    (hsame : SameTaken playthrough reply.state)
    (hunsettling : ∀ event ∈ reply.events, event.isSettling = false) :
    Sourced playthrough.stage.store reply.events reply.state.stage.store := by
  rw [hsame.store]
  apply Sourced.of_aside
  intro event hmem
  exact Event.isVariables_of_isSettling (hunsettling event hmem)

theorem Turn.sourced {reply : Reply Playthrough Unit} (hturn : Turn script playthrough reply) :
    Sourced playthrough.stage.store reply.events reply.state.stage.store := by
  cases hturn.taking with
  | nothing reply hsame hunsettling => exact hsame.sourced hunsettling
  | choice time choice outcome stage events hsettle reply hsame hunsettling =>
      exact (sourced_settle hsettle).append (hsame.sourced hunsettling)

end Playthrough

/-! ## Runs -/

/-- Events that tell everything that became of the variables. -/
structure EventSourced (start : Variables) (events : List Event) (reached : Variables) : Prop where
  /-- The reported changes, performed in their order, give the variables that were reached. -/
  performed : start.replay events = reached
  /-- A change tells its value minus the one that its variable had just before it. -/
  measured : ∀ before earlier change later after,
    events = before ++ .variablesDelta (earlier ++ change :: later) :: after →
      change.delta =
        change.value - ((start.replay before).perform earlier).get change.name
  /-- All variables are told right behind a report of changes, as they are then. -/
  followed : ∀ before changes after, events = before ++ .variablesDelta changes :: after →
    ∃ rest, after =
      .variablesUpdated (start.replay (before ++ [.variablesDelta changes])) :: rest
  /-- The variables that were told last are those that were reached. -/
  latest : ∀ snapshot, lastSnapshot events = some snapshot → snapshot = reached

theorem Sourced.eventSourced {start reached : Variables} {events : List Event}
    (hsourced : Sourced start events reached) : EventSourced start events reached where
  performed := hsourced.replay_eq
  measured := by
    intro before earlier change later after hevents
    exact (hsourced.at_delta hevents).1.delta_eq
  followed := fun _ _ _ hevents => (hsourced.at_delta hevents).2
  latest := by
    intro snapshot hlast
    have hreached := hsourced.lastSnapshot_getD_eq
    rwa [hlast] at hreached

namespace Director

variable {World : Type} {director : Director World}

theorem Begun.sourced (hbegun : director.Begun) (calls : List Call) :
    Sourced director.script.initial (director.chronicle calls).events
      (director.chronicle calls).playthrough.stage.store := by
  apply hbegun.induction (motive := fun chronicle =>
    Sourced director.script.initial chronicle.events chronicle.playthrough.stage.store)
  · intro unseeded
    exact .still _
  · intro chronicle reply hcoherent hturn hsourced
    exact hsourced.append hturn.sourced

/-- The variables of a run, whatever its calls gave back, are what its events make of the starting
values. -/
theorem variables_event_sourced (hbegun : director.Begun) (calls : List Call) (world : World) :
    EventSourced director.script.initial (director.chronicle calls).events
      (director.play calls world).2.1.store := by
  rw [play_eq]
  exact (hbegun.sourced calls).eventSourced

/-- The gold of the bribe is told although the call failed. -/
theorem guarded_event_sourced :
    EventSourced guarded.script.initial (guarded.chronicle bribing).events
        (guarded.play bribing ()).2.1.store ∧
      guarded.script.initial.contains "Gold" = false ∧
      (guarded.script.initial.replay (guarded.chronicle bribing).events).get "Gold" = 3 :=
  ⟨variables_event_sourced begun_guarded bribing (), by decide +kernel, by decide +kernel⟩

end Director

end BranchingStory
