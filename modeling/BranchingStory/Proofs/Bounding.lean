import BranchingStory.Proofs.Range
import BranchingStory.Proofs.Sourcing

/-!
# Bounded variables

Starting values may lie anywhere, but whatever a choice writes lies between 0 and 100.  The names
that a run has written are known from its history, whose choices have their effects, and from the
failed throws among its events, which cost their penalty.  Each turn writes exactly those, so that a
variable of a run is either untouched or within the range, and one that has come into the range does
not leave it.
-/

namespace BranchingStory

/-- The variables that the effects of taken choices write. -/
def affected (history : List TakenChoice) : List String :=
  history.flatMap fun taken => taken.choice.effects.map Effect.name

/-- The variables that a throw costs: a failed one takes the penalty. -/
def Event.penalized (script : Script) : Event → List String
  | diceRolled roll =>
      match roll.outcome with
      | .success => []
      | .failure => Playthrough.penaltyTargets script { stat := roll.stat }
  | _ => []

/-- The variables that the failed throws among events cost. -/
def penalized (script : Script) (events : List Event) : List String :=
  events.flatMap (Event.penalized script)

/-- The variables that calls have written. -/
def Chronicle.written (script : Script) (chronicle : Chronicle) : List String :=
  affected chronicle.playthrough.progress.history ++ penalized script chronicle.events

theorem affected_append (history later : List TakenChoice) :
    affected (history ++ later) = affected history ++ affected later :=
  List.flatMap_append

theorem penalized_append (script : Script) (events later : List Event) :
    penalized script (events ++ later) = penalized script events ++ penalized script later :=
  List.flatMap_append

theorem penalized_single (script : Script) (event : Event) :
    penalized script [event] = event.penalized script :=
  List.append_nil _

theorem penalized_of_unsettling {script : Script} {events : List Event}
    (hunsettling : ∀ event ∈ events, event.isSettling = false) : penalized script events = [] := by
  apply List.flatMap_eq_nil_iff.mpr
  intro event hmem
  have hevent := hunsettling event hmem
  cases event with
  | diceRolled roll => cases hevent
  | _ => rfl

theorem penalized_changeEvents (script : Script) (changes : List Change) (store : Variables) :
    penalized script (Stage.changeEvents changes store) = [] := rfl

namespace Playthrough

/-! ## Every turn writes within the range -/

variable {script : Script} {playthrough : Playthrough}

theorem penalized_penaltyEvents (script : Script) (changes : List Change) (store : Variables) :
    penalized script (penaltyEvents changes store) = [] := by
  rw [penaltyEvents]
  split <;> rfl

/-- The penalty after a throw writes what the throw costs. -/
theorem penalty_rewrites (hpenalty : script.settings.dice.penalty.amount.isFinite = true)
    {store : Variables} (hfinite : store.Finite) {check : DiceCheck} {roll : DiceRoll}
    (hstat : roll.stat = check.stat) :
    Variables.Rewritten ((Event.diceRolled roll).penalized script) store
      (penalty script check roll.outcome store).2 := by
  cases houtcome : roll.outcome with
  | success =>
      simp only [Event.penalized, penalty, houtcome]
      exact Variables.rewritten_nil store
  | failure =>
      have htargets : penaltyTargets script { stat := roll.stat } =
          penaltyTargets script check := by
        rw [hstat]
        rfl
      simp only [Event.penalized, penalty, houtcome, htargets]
      exact subtractFrom_rewrites hfinite hpenalty _

/-- Settling a choice writes what its effects name and what its failed check costs. -/
theorem settle_rewrites (hpenalty : script.settings.dice.penalty.amount.isFinite = true)
    {choice : Choice} {stage reached : Stage} {outcome : Option DiceOutcome} {events : List Event}
    (hfinite : stage.store.Finite)
    (hsettle : (settle script choice).run stage =
      { result := .ok outcome, state := reached, events }) :
    Variables.Rewritten (choice.effects.map Effect.name ++ penalized script events) stage.store
      reached.store := by
  cases settlement_of_settle hsettle with
  | unchecked applied happlied hcheck =>
      rw [penalized_changeEvents, List.append_nil]
      exact Effect.applyAll_rewrites hfinite happlied
  | checked applied happlied check hcheck roll generator hthrown =>
      have heffects := Effect.applyAll_rewrites hfinite happlied
      have hstat : roll.stat = check.stat := (congrArg (fun thrown => thrown.1.stat) hthrown).symm
      have hpaid := penalty_rewrites hpenalty (heffects.finite hfinite) hstat
      rw [penalized_append, penalized_append, penalized_changeEvents, List.nil_append,
        penalized_penaltyEvents, List.append_nil, penalized_single]
      exact heffects.trans hpaid

/-- The choices that are taken between two playthroughs, and what is written there: what their
effects name and what the failed throws cost. -/
def Writes (script : Script) (playthrough : Playthrough) (events : List Event)
    (reached : Playthrough) : Prop :=
  ∃ taken, reached.progress.history = playthrough.progress.history ++ taken ∧
    Variables.Rewritten (affected taken ++ penalized script events) playthrough.stage.store
      reached.stage.store

/-- A move that takes nothing writes nothing. -/
theorem SameTaken.writes {reached : Playthrough} {events : List Event}
    (hsame : SameTaken playthrough reached)
    (hunsettling : ∀ event ∈ events, event.isSettling = false) :
    Writes script playthrough events reached := by
  refine ⟨[], ?_, ?_⟩
  · rw [hsame.history, List.append_nil]
  · rw [penalized_of_unsettling hunsettling, hsame.store]
    exact Variables.rewritten_nil _

theorem Turn.writes {reply : Reply Playthrough Unit} (hturn : Turn script playthrough reply)
    (hpenalty : script.settings.dice.penalty.amount.isFinite = true)
    (hfinite : playthrough.stage.store.Finite) :
    Writes script playthrough reply.events reply.state := by
  cases hturn.taking with
  | nothing reply hsame hunsettling => exact hsame.writes hunsettling
  | choice time choice outcome stage events hsettle reply hsame hunsettling =>
      have hwritten := settle_rewrites hpenalty hfinite hsettle
      have hnamed : affected [playthrough.entry time choice] = choice.effects.map Effect.name :=
        List.append_nil _
      refine ⟨[playthrough.entry time choice], hsame.history, ?_⟩
      rw [hsame.store, penalized_append, penalized_of_unsettling hunsettling, List.append_nil,
        hnamed]
      exact hwritten

end Playthrough

/-! ## Runs -/

namespace Chronicle

variable {script : Script} {chronicle : Chronicle}

theorem written_add {reply : Reply Playthrough Unit} {initial : Variables}
    (hwritten : Variables.Rewritten (chronicle.written script) initial
      chronicle.playthrough.stage.store)
    (hwrites : Playthrough.Writes script chronicle.playthrough reply.events reply.state) :
    Variables.Rewritten ((chronicle.add reply).written script) initial
      (chronicle.add reply).playthrough.stage.store := by
  obtain ⟨taken, hhistory, hrewritten⟩ := hwrites
  apply (hwritten.trans hrewritten).congr
  intro name
  simp only [written, add, hhistory, affected_append, penalized_append, List.mem_append]
  exact or_or_or_comm

/-- A value in the range stays there, whatever is called. -/
theorem bounded_extendAll (hpenalty : script.settings.dice.penalty.amount.isFinite = true)
    (hcoherent : Playthrough.Coherent script chronicle.playthrough)
    (hfinite : chronicle.playthrough.stage.store.Finite) {name : String}
    (hbounded : chronicle.playthrough.stage.store.Bounded name) (calls : List Call) :
    (chronicle.extendAll script calls).playthrough.stage.store.Bounded name := by
  have hkept : (chronicle.extendAll script calls).playthrough.stage.store.Finite ∧
      (chronicle.extendAll script calls).playthrough.stage.store.Bounded name := by
    apply extendAll_induction (motive := fun chronicle =>
      chronicle.playthrough.stage.store.Finite ∧ chronicle.playthrough.stage.store.Bounded name)
    · rintro chronicle reply _ hturn ⟨hfinite, hbounded⟩
      obtain ⟨taken, -, hrewritten⟩ := hturn.writes hpenalty hfinite
      exact ⟨hrewritten.finite hfinite, hrewritten.bounded_of_bounded hbounded⟩
    · exact hcoherent
    · exact ⟨hfinite, hbounded⟩
  exact hkept.2

end Chronicle

namespace Director

variable {World : Type} {director : Director World}

/-- What was built from finite values plays valid settings from finite starting values. -/
theorem finite_initial_of_build {story : Story} {settings : Settings} {seed : Option UInt64}
    {store : List (String × Binary64)} {channel : Channel World} {unseeded : Generator}
    (hbuilt : build story settings seed store channel unseeded = .ok director)
    (hsettings : ∀ entry ∈ settings.initial.toList, entry.2.isFinite = true)
    (hstore : ∀ entry ∈ store, entry.2.isFinite = true) :
    director.script.settings.validate = .ok () ∧ director.script.initial.Finite := by
  simp only [build] at hbuilt
  split at hbuilt
  · cases hbuilt
  · next hvalid =>
      cases hbuilt
      have hfinite := Settings.finite_startingValues hvalid hsettings
      exact ⟨hvalid, hfinite.setAll hstore⟩

/-- A run rewrites its starting values in what its choices and failed throws name. -/
theorem Begun.rewritten (hbegun : director.Begun)
    (hpenalty : director.script.settings.dice.penalty.amount.isFinite = true)
    (hinitial : director.script.initial.Finite) (calls : List Call) :
    Variables.Rewritten ((director.chronicle calls).written director.script)
      director.script.initial (director.chronicle calls).playthrough.stage.store := by
  apply hbegun.induction (motive := fun chronicle =>
    Variables.Rewritten (chronicle.written director.script) director.script.initial
      chronicle.playthrough.stage.store)
  · intro unseeded
    exact Variables.rewritten_nil _
  · intro chronicle reply hcoherent hturn hwritten
    exact Chronicle.written_add hwritten (hturn.writes hpenalty (hwritten.finite hinitial))

/-- Under valid settings and from finite starting values, a variable of a run has its starting value
unless an effect or a penalty has written it, and lies in the range if one has.  None is ever a
not-a-number, and one that lies in the range stays there, whatever is called. -/
theorem variables_bounded (hbegun : director.Begun)
    (hvalid : director.script.settings.validate = .ok ())
    (hinitial : director.script.initial.Finite) (calls : List Call) (world : World) :
    let reached := (director.play calls world).2.1
    let written := (director.chronicle calls).written director.script
    (∀ name, name ∉ written →
        reached.store.find? name = director.script.initial.find? name) ∧
      (∀ name ∈ written, reached.store.Bounded name) ∧
      (∀ name, (reached.store.get name).isNan = false) ∧
      (∀ name, reached.store.Bounded name →
        ∀ later world, (reached.play later world).2.1.store.Bounded name) := by
  intro reached written
  obtain ⟨hpenalty, -⟩ := Settings.finite_of_valid hvalid
  have hrewritten : Variables.Rewritten written director.script.initial reached.store := by
    simp only [reached, store, playthrough_play]
    exact hbegun.rewritten hpenalty hinitial calls
  have hfinite : reached.store.Finite := hrewritten.finite hinitial
  refine ⟨hrewritten.kept, hrewritten.bounded, ?_, ?_⟩
  · intro name
    exact Binary64.isNan_of_isFinite (hfinite.get name)
  · intro name hbounded later world
    have hscript : reached.script = director.script := script_play director calls _
    have hcoherent : Playthrough.Coherent reached.script reached.playthrough := by
      simp only [reached, script_play, playthrough_play]
      exact hbegun.coherent_chronicle calls
    simp only [store, playthrough_play]
    rw [← hscript] at hpenalty
    exact Chronicle.bounded_extendAll hpenalty hcoherent hfinite hbounded later

end Director

/-- A market with a single offer, which depends on a die that never falls well. -/
def marketScene : Scene where
  id := "market"
  dialogues :=
    [{ speaker := "Trader", text := "A fine lamp, and almost new.",
       choices :=
        [{ text := "Haggle", effects := [.add "Gold" 5],
           check := some { stat := some "Charm", sides := some 1, difficulty := some 2 } }] },
      { speaker := "Trader", text := "As you like." }]

def marketStory : Story where
  scenes := [marketScene]
  unambiguous := by decide

namespace Director

/-- Settings that start far outside of the range. -/
def indebted : Settings where
  initial := .ofList [("Debt", 1000), ("Gold", 250)]
  dice := { penalty := { scope := .checkedStat } }

/-- The story of the market for a customer in debt. -/
def customer : Director Unit := opened marketStory indebted {} (Generator.ofSeed 1)

/-- The calls of a customer who haggles. -/
def haggling : List Call := [.start, .choose { seconds := 0, nanoseconds := 0 } 0]

/-- The customer keeps the debt that no one touched, while the gold and the charm of a failed
attempt come into the range. -/
theorem customer_bounded :
    let reached := (customer.play haggling ()).2.1
    ¬ Variables.InRange (customer.store.get "Gold") ∧ reached.store.find? "Debt" = some 1000 ∧
      reached.store.Bounded "Gold" ∧ reached.store.Bounded "Charm" ∧
      (reached.play [.advance] ()).2.1.store.Bounded "Gold" := by
  have hbuilt : build marketStory indebted none [] {} (Generator.ofSeed 1) = .ok customer :=
    build_eq_opened marketStory {} (Generator.ofSeed 1) (by decide +kernel)
  obtain ⟨hvalid, hinitial⟩ :=
    finite_initial_of_build hbuilt (by decide +kernel) (List.forall_mem_nil _)
  have hwritten : (customer.chronicle haggling).written customer.script = ["Gold", "Charm"] := by
    decide +kernel
  obtain ⟨hkept, hbounded, -, hstays⟩ :=
    variables_bounded (.built _ _ _ _ _ _ _ hbuilt) hvalid hinitial haggling ()
  simp only [hwritten] at hkept hbounded
  have hgold := hbounded "Gold" (by decide)
  refine ⟨by decide +kernel, ?_, hgold, ?_, hstays "Gold" hgold [.advance] ()⟩
  · exact (hkept "Debt" (by decide)).trans (by decide +kernel)
  · exact hbounded "Charm" (by decide)

end Director

end BranchingStory
