import BranchingStory.Proofs.Checking
import BranchingStory.Proofs.Navigating
import BranchingStory.Proofs.Penalizing
import BranchingStory.Proofs.Refusing
import BranchingStory.Proofs.Reordering

/-!
# Dice that are thrown as they are told

A choice with a check throws one die, between its effects and its way on.  Whatever the random
source holds, the face lies on the die, the events tell the throw as it was made, its failure is
paid at once, and the choice goes on by the branch of the outcome that was told.

The random source of a seeded playthrough is worth something only if nothing draws from it on the
side.  A choice that is accepted draws for its random effects, in their order, and then for its die;
gates, penalties and moves draw nothing, and neither does a call that takes no choice.
-/

namespace BranchingStory

/-! ## Faces -/

namespace Generator

theorem next32_lt (generator : Generator) : generator.next32.1 < Nat.pow 2 32 :=
  UInt32.toNat_lt _

/-- A draw stays below its range: it is the high half of a product with it. -/
theorem below_lt {width range : Nat} {next : Generator → Nat × Generator}
    (hrange : 0 < range) (hnext : ∀ generator, (next generator).1 < Nat.pow 2 width)
    (attempts : Nat) (generator : Generator) :
    (below width range next attempts generator).1 < range := by
  induction attempts generalizing generator with
  | zero => exact hrange
  | succ attempts ih =>
      simp only [below]
      split
      · apply Nat.div_lt_of_lt_mul
        exact Nat.mul_lt_mul_of_pos_right (hnext generator) hrange
      · exact ih _

/-- A die shows one of its faces. -/
theorem roll_bounds {sides : UInt32} (hsides : 1 ≤ sides) (generator : Generator) :
    1 ≤ (generator.roll sides).1 ∧ (generator.roll sides).1 ≤ sides := by
  have hrange : 0 < sides.toNat := UInt32.le_iff_toNat_le.mp hsides
  have hface := below_lt hrange next32_lt maxAttempts generator
  have hsize := sides.toNat_lt
  simp only [roll, UInt32.le_iff_toNat_le, UInt32.toNat_ofNat', UInt32.toNat_one]
  rw [Nat.mod_eq_of_lt (by omega)]
  omega

end Generator

/-! ## A ledger of draws -/

/-- A draw from the random source. -/
inductive Draw where
  | integer (least greatest : Int)
  | die (sides : UInt32)

/-- The random source after a draw. -/
def Generator.drawn (generator : Generator) : Draw → Generator
  | .integer least greatest => (generator.between least greatest).2
  | .die sides => (generator.roll sides).2

/-- The random source after draws, from the first to the last. -/
def Generator.drawnAll (generator : Generator) (draws : List Draw) : Generator :=
  draws.foldl drawn generator

namespace Generator

variable (generator : Generator)

@[simp]
theorem drawnAll_nil : generator.drawnAll [] = generator := rfl

@[simp]
theorem drawnAll_cons (draw : Draw) (rest : List Draw) :
    generator.drawnAll (draw :: rest) = (generator.drawn draw).drawnAll rest := rfl

theorem drawnAll_append (draws later : List Draw) :
    generator.drawnAll (draws ++ later) = (generator.drawnAll draws).drawnAll later :=
  List.foldl_append

end Generator

/-- What an effect draws: an integer between its bounds if it is a random one. -/
def Effect.draw? (effect : Effect) : Option Draw :=
  match effect.operation, effect.bounds with
  | .random, .ok (least, greatest) => some (.integer least greatest)
  | _, _ => none

/-- What a choice draws: for its random effects, and for the die of its check. -/
def Choice.draws (script : Script) (choice : Choice) : List Draw :=
  choice.effects.filterMap Effect.draw? ++
    (choice.check.map fun check => .die (Playthrough.sidesOf script check)).toList

namespace Effect

theorem draw?_of_drawless {effect : Effect} (hdrawless : effect.operation ≠ .random) :
    effect.draw? = none := by
  cases hoperation : effect.operation with
  | random => exact absurd hoperation hdrawless
  | set | add | multiply | unrecognized written => simp only [draw?, hoperation]

theorem generator_of_apply {effect : Effect} {store : Variables} {generator : Generator}
    {outcome : Outcome Change} (happlied : effect.apply store generator = .ok outcome) :
    outcome.generator = generator.drawnAll effect.draw?.toList := by
  obtain ⟨⟨value, later⟩, hvalue, rfl⟩ := apply_iff.mp happlied
  by_cases hdraws : effect.operation = .random
  · simp only [newValue, hdraws] at hvalue
    obtain ⟨⟨least, greatest⟩, hbounds, hdrawn⟩ := exists_ok_of_bind hvalue
    have hlater : (generator.between least greatest).2 = later :=
      congrArg Prod.snd (Except.ok.inj hdrawn)
    simp only [draw?, hdraws, hbounds, written, ← hlater]
    rfl
  · rw [draw?_of_drawless hdraws]
    exact (newValue_of_drawless hdraws hvalue).1

/-- Effects draw for the random ones among them, in their order. -/
theorem generator_of_applyInOrder {effects : List Effect} {store : Variables}
    {generator : Generator} {outcome : Outcome (List Change)}
    (happlied : applyInOrder effects store generator = .ok outcome) :
    outcome.generator = generator.drawnAll (effects.filterMap draw?) := by
  induction effects generalizing store generator outcome with
  | nil =>
      cases happlied
      rfl
  | cons effect rest ih =>
      obtain ⟨first, others, hfirst, hothers, rfl⟩ := applyInOrder_cons_iff.mp happlied
      have hdrawn := ih hothers
      rw [generator_of_apply hfirst] at hdrawn
      rw [List.filterMap_cons]
      cases hdraw : effect.draw? with
      | none => simpa [hdraw] using hdrawn
      | some draw => simpa [hdraw] using hdrawn

end Effect

/-- The throw that an event tells. -/
def Event.rolled? : Event → Option DiceRoll
  | diceRolled roll => some roll
  | _ => none

theorem filterMap_rolled?_of_unsettling {events : List Event}
    (hunsettling : ∀ event ∈ events, event.isSettling = false) :
    events.filterMap Event.rolled? = [] := by
  apply List.filterMap_eq_nil_iff.mpr
  intro event hmem
  have hunsettled := hunsettling event hmem
  cases event with
  | diceRolled roll => simp [Event.isSettling] at hunsettled
  | _ => rfl

namespace Playthrough

/-! ## A throw and what it costs -/

/-- A throw that is told as it was made, with the random source as it was. -/
structure Fair (script : Script) (check : DiceCheck) (generator : Generator) (roll : DiceRoll) :
    Prop where
  sides : roll.sides = max (check.sides.getD script.settings.dice.sides) 1
  face : roll.face = (generator.roll roll.sides).1
  least : 1 ≤ roll.face
  greatest : roll.face ≤ roll.sides
  difficulty : roll.difficulty = check.difficulty.getD script.settings.dice.difficulty
  outcome : roll.outcome = .success ↔ roll.difficulty ≤ roll.face
  stat : roll.stat = check.stat

/-- What is paid for the outcome of a throw.  A failure with a target takes the penalty and
publishes it: each target is charged for each time that it is one, with one change for each charge,
and the other variables are left alone.  Otherwise nothing is taken and nothing published. -/
structure Pays (script : Script) (check : DiceCheck) (outcome : DiceOutcome)
    (before after : Variables) (told : List Event) : Prop where
  takes : outcome = .failure → (∃ name, Costs script check name) →
    ∃ changes,
      subtractFrom script.settings.dice.penalty.amount (penaltyTargets script check) before =
        (changes, after) ∧
      Charges script.settings.dice.penalty.amount (penaltyTargets script check) before after
        changes ∧
      told = [.variablesDelta changes, .variablesUpdated after]
  free : (outcome = .success ∨ ∀ name, ¬ Costs script check name) → after = before ∧ told = []

section Throws

variable {script : Script} {playthrough : Playthrough}

theorem fair_thrown {check : DiceCheck} {generator later : Generator} {roll : DiceRoll}
    (hthrown : thrown script check generator = (roll, later)) :
    Fair script check generator roll ∧ later = (generator.roll roll.sides).2 := by
  have hbounds := Generator.roll_bounds (Checked.one_le_sidesOf script check) generator
  simp only [thrown] at hthrown
  cases hroll : generator.roll (sidesOf script check) with
  | mk face reached =>
      simp only [hroll, Prod.mk.injEq] at hthrown hbounds
      obtain ⟨rfl, rfl⟩ := hthrown
      refine ⟨⟨rfl, by rw [hroll], hbounds.1, hbounds.2, rfl, ?_, rfl⟩, by rw [hroll]⟩
      simp only
      split <;> simp_all

theorem pays_penalty (script : Script) (check : DiceCheck) (outcome : DiceOutcome)
    (store : Variables) :
    let paid := penalty script check outcome store
    Pays script check outcome store paid.2 (penaltyEvents paid.1 paid.2) := by
  intro paid
  cases outcome with
  | success => exact ⟨nofun, fun _ => ⟨rfl, rfl⟩⟩
  | failure =>
      constructor
      · rintro - ⟨name, hcosts⟩
        exact ⟨paid.1, rfl, charges_subtractFrom _ _ _, penaltyEvents_of_target hcosts⟩
      · rintro (hsuccess | hfree)
        · cases hsuccess
        · refine ⟨?_, penaltyEvents_of_free hfree⟩
          apply Variables.eq_of_find?
          intro name
          exact (charges_subtractFrom _ _ _).kept name fun hmem =>
            hfree name (mem_penaltyTargets.mp hmem)

theorem filterMap_rolled?_of_pays {check : DiceCheck} {outcome : DiceOutcome}
    {before after : Variables} {told : List Event}
    (hpays : Pays script check outcome before after told) :
    told.filterMap Event.rolled? = [] := by
  by_cases htarget : ∃ name, Costs script check name
  · cases outcome with
    | success => rw [(hpays.free (.inl rfl)).2]; rfl
    | failure =>
        obtain ⟨changes, -, -, rfl⟩ := hpays.takes rfl htarget
        rfl
  · rw [(hpays.free (.inr (not_exists.mp htarget))).2]
    rfl

/-! ## Choices that are played -/

/-- How a settled choice goes on: the playthrough ends for a depleted stat, or it is led to the
target that decides for the outcome. -/
inductive GoesOn (script : Script) (choice : Choice) (outcome : Option DiceOutcome)
    (settled : Playthrough) : Reply Playthrough Unit → Prop where
  | depleted (hdepleted : script.depletes settled.stage.store = true) :
      GoesOn script choice outcome settled
        { result := .ok (), state := settled.cutShort .statDepleted,
          events := [.playbackEnded .statDepleted] }
  | led (hlively : script.depletes settled.stage.store = false) (scene : Scene)
      (hscene : settled.stage.cursor.scene = some scene) (target : Target)
      (hdecides : choice.Decides outcome target) :
      GoesOn script choice outcome settled (led script settled scene target)

theorem goesOn_depart {choice : Choice} {outcome : Option DiceOutcome} {settled : Playthrough}
    {scene : Scene} (hopen : settled.progress.ended = false)
    (hactive : settled.stage.cursor.phase.isActive = true)
    (hscene : settled.stage.cursor.scene = some scene) :
    GoesOn script choice outcome settled
      ((depart script (targetAfter choice outcome)).run settled) := by
  cases hdepletes : script.depletes settled.stage.store with
  | true =>
      rw [depart, Playing.run_bind_of_ok (run_endIfDepleted_of_depleted hopen hdepletes)]
      exact .depleted hdepletes
  | false =>
      rw [run_depart_eq_led hopen hdepletes hactive hscene]
      exact .led hdepletes scene hscene _ (decides_targetAfter choice outcome)

/-- A choice with a check that was played as its events tell: its effects, one throw, what the
throw costs, and the way on for the outcome of the throw. -/
structure PlayedChecked (script : Script) (playthrough : Playthrough) (time : Timestamp)
    (choice : Choice) (check : DiceCheck) (applied : Effect.Outcome (List Change))
    (roll : DiceRoll) (paid : Variables) (told : List Event) (left reply : Reply Playthrough Unit) :
    Prop where
  applies : Effect.applyAll choice.effects playthrough.stage.store playthrough.stage.generator =
    .ok applied
  fair : Fair script check applied.generator roll
  pays : Pays script check roll.outcome applied.store paid told
  goesOn : GoesOn script choice (some roll.outcome)
    (playthrough.taken time choice
      { playthrough.stage with
        store := paid, generator := (applied.generator.roll roll.sides).2 }) left
  reply_eq : reply =
    { left with
      events := [.variablesDelta applied.report, .variablesUpdated applied.store] ++
        .diceRolled roll :: (told ++ left.events) }
  moves : ∀ event ∈ left.events, event.isSettling = false
  once : reply.events.filterMap Event.rolled? = [roll]

/-- A choice without a check: its effects and the way on, and neither a throw nor a penalty. -/
structure PlayedPlainly (script : Script) (playthrough : Playthrough) (time : Timestamp)
    (choice : Choice) (applied : Effect.Outcome (List Change))
    (left reply : Reply Playthrough Unit) : Prop where
  applies : Effect.applyAll choice.effects playthrough.stage.store playthrough.stage.generator =
    .ok applied
  goesOn : GoesOn script choice none
    (playthrough.taken time choice
      { playthrough.stage with store := applied.store, generator := applied.generator }) left
  reply_eq : reply =
    { left with
      events := [.variablesDelta applied.report, .variablesUpdated applied.store] ++
        left.events }
  moves : ∀ event ∈ left.events, event.isSettling = false
  never : reply.events.filterMap Event.rolled? = []

/-- An accepted choice settles and departs from a scene. -/
theorem Accepts.run_of_settle {choice : Choice} (haccepts : Accepts script playthrough choice)
    (hcoherent : Coherent script playthrough) (time : Timestamp) {outcome : Option DiceOutcome}
    {store : Variables} {generator : Generator} {events : List Event}
    (hsettle : (settle script choice).run playthrough.stage =
      { result := .ok outcome, state := { playthrough.stage with store, generator }, events }) :
    let settled := playthrough.taken time choice { playthrough.stage with store, generator }
    ∃ left, GoesOn script choice outcome settled left ∧
      (∀ event ∈ left.events, event.isSettling = false) ∧
      (makeChoice script time choice).run playthrough =
        { left with events := events ++ left.events } := by
  intro settled
  obtain ⟨scene, hscene⟩ := hcoherent.cursor.loaded haccepts.active
  have hphase : playthrough.stage.cursor.phase ≠ .idle := Phase.ne_idle_of_isActive haccepts.active
  refine ⟨(depart script (targetAfter choice outcome)).run settled,
    goesOn_depart haccepts.unfinished haccepts.active hscene, ?_,
    run_makeChoice_of_settle time haccepts.unfinished haccepts.lively hphase haccepts.valid
      hsettle⟩
  have hdeparture : Departure script settled (targetAfter choice outcome) _ :=
    departure_depart haccepts.unfinished haccepts.active hscene
  exact hdeparture.isSettling_eq_false

theorem Accepts.playedChecked {choice : Choice} (haccepts : Accepts script playthrough choice)
    (hcoherent : Coherent script playthrough) (time : Timestamp) {check : DiceCheck}
    (hcheck : choice.check = some check) :
    ∃ applied roll paid told left,
      PlayedChecked script playthrough time choice check applied roll paid told left
        ((makeChoice script time choice).run playthrough) := by
  obtain ⟨applied, happlied⟩ := Effect.applyAll_of_valid haccepts.valid playthrough.stage.store
    playthrough.stage.generator
  have hsettle := run_settle_of_checked script happlied hcheck
  rcases hthrown : thrown script check applied.generator with ⟨roll, later⟩
  obtain ⟨hfair, rfl⟩ := fair_thrown hthrown
  rw [hthrown] at hsettle
  have hpays := pays_penalty script check roll.outcome applied.store
  simp only at hsettle hpays
  generalize penalty script check roll.outcome applied.store = paid at hsettle hpays
  obtain ⟨left, hgoesOn, hmoves, hrun⟩ := haccepts.run_of_settle hcoherent time hsettle
  refine ⟨applied, roll, paid.2, _, left, happlied, hfair, hpays, hgoesOn, ?_, hmoves, ?_⟩
  · rw [hrun, List.append_assoc]
    rfl
  · rw [hrun]
    simp only [List.filterMap_append, List.filterMap_cons, Event.rolled?,
      filterMap_rolled?_of_pays hpays, filterMap_rolled?_of_unsettling hmoves]
    rfl

theorem Accepts.playedPlainly {choice : Choice} (haccepts : Accepts script playthrough choice)
    (hcoherent : Coherent script playthrough) (time : Timestamp) (hcheck : choice.check = none) :
    ∃ applied left,
      PlayedPlainly script playthrough time choice applied left
        ((makeChoice script time choice).run playthrough) := by
  obtain ⟨applied, happlied⟩ := Effect.applyAll_of_valid haccepts.valid playthrough.stage.store
    playthrough.stage.generator
  have hsettle : (settle script choice).run playthrough.stage = _ :=
    run_settle_of_unchecked happlied hcheck
  obtain ⟨left, hgoesOn, hmoves, hrun⟩ := haccepts.run_of_settle hcoherent time hsettle
  refine ⟨applied, left, happlied, hgoesOn, hrun, hmoves, ?_⟩
  rw [hrun, List.filterMap_append, filterMap_rolled?_of_unsettling hmoves]
  rfl

/-! ## What calls draw -/

/-- Settling draws for the effects and then for the die. -/
theorem generator_of_settled {choice : Choice} {store reached : Variables}
    {generator later : Generator}
    (hsettled : settled script choice store generator = .ok (reached, later)) :
    later = generator.drawnAll (choice.draws script) := by
  rw [settled] at hsettled
  cases happlied : Effect.applyAll choice.effects store generator with
  | error error => simp [happlied] at hsettled
  | ok applied =>
      have heffects :=
        Effect.generator_of_applyInOrder (Effect.applyInOrder_of_applyAll happlied)
      rw [Choice.draws, Generator.drawnAll_append, ← heffects]
      cases hcheck : choice.check with
      | none =>
          simp only [happlied, hcheck, Except.ok.injEq, Prod.mk.injEq] at hsettled
          exact hsettled.2.symm
      | some check =>
          simp only [happlied, hcheck, Except.ok.injEq, Prod.mk.injEq] at hsettled
          exact hsettled.2.symm

theorem Accepts.generator_eq {choice : Choice} (haccepts : Accepts script playthrough choice)
    (hcoherent : Coherent script playthrough) (time : Timestamp) :
    ((makeChoice script time choice).run playthrough).state.stage.generator =
      playthrough.stage.generator.drawnAll (choice.draws script) :=
  generator_of_settled (haccepts.took hcoherent time).settled

end Throws

end Playthrough

/-- The choice that a call is about. -/
def Call.made? (cursor : Cursor) : Call → Option Choice
  | makeChoice _ choice => some choice
  | choose _ place => cursor.offered[place]?
  | start | loadScene _ | advance => none

section Calls

variable {script : Script} {playthrough : Playthrough} {call : Call}

theorem state_step_of_made (script : Script) {choice : Choice}
    (hmade : call.made? playthrough.stage.cursor = some choice) :
    ∃ time, ((call.step script).run playthrough).state =
      ((Playthrough.makeChoice script time choice).run playthrough).state := by
  cases call with
  | start | loadScene id | advance => cases hmade
  | makeChoice time made =>
      cases hmade
      exact ⟨time, rfl⟩
  | choose time place =>
      rw [Call.made?] at hmade
      refine ⟨time, ?_⟩
      rw [Call.step, Playing.run_map, Playthrough.run_choose, hmade]

theorem sameTaken_step_of_unmade (hcoherent : Playthrough.Coherent script playthrough)
    (hunmade : call.made? playthrough.stage.cursor = none) :
    Playthrough.SameTaken playthrough ((call.step script).run playthrough).state := by
  cases call with
  | start => exact Playthrough.sameTaken_start
  | loadScene id => exact Playthrough.sameTaken_loadScene id
  | advance => exact Playthrough.sameTaken_advance hcoherent
  | makeChoice time choice => cases hunmade
  | choose time place =>
      rw [Call.made?] at hunmade
      rw [Call.step, Playing.run_map, Playthrough.run_choose, hunmade]
      exact ⟨rfl, rfl, rfl⟩

/-- A call draws what the choice draws that it takes, and a call that takes none draws nothing. -/
theorem generator_step (hcoherent : Playthrough.Coherent script playthrough) (call : Call) :
    let reached := ((call.step script).run playthrough).state.stage.generator
    (∀ choice, call.made? playthrough.stage.cursor = some choice →
      Playthrough.Accepts script playthrough choice →
        reached = playthrough.stage.generator.drawnAll (choice.draws script)) ∧
    ((∀ choice, call.made? playthrough.stage.cursor = some choice →
      ¬ Playthrough.Accepts script playthrough choice) →
        reached = playthrough.stage.generator) := by
  intro reached
  constructor
  · intro choice hmade haccepts
    obtain ⟨time, hstate⟩ := state_step_of_made script hmade
    simp only [reached, hstate]
    exact haccepts.generator_eq hcoherent time
  · intro hrejected
    cases hmade : call.made? playthrough.stage.cursor with
    | none => exact (sameTaken_step_of_unmade hcoherent hmade).generator
    | some choice =>
        obtain ⟨time, hstate⟩ := state_step_of_made script hmade
        simp only [reached, hstate]
        exact (Playthrough.sameTaken_makeChoice_of_rejected hcoherent (hrejected choice hmade)
          time).generator

end Calls

namespace Director

variable {World : Type} {director : Director World}

/-- A director whose random source is at another place, or another one. -/
def drawingFrom (director : Director World) (generator : Generator) : Director World :=
  { director with
    playthrough :=
      { director.playthrough with stage := { director.playthrough.stage with generator } } }

theorem Reachable.coherent_drawingFrom (hreachable : director.Reachable)
    (generator : Generator) :
    Playthrough.Coherent (director.drawingFrom generator).script
      (director.drawingFrom generator).playthrough :=
  have hcoherent := hreachable.coherent
  ⟨hcoherent.cursor, hcoherent.ending, hcoherent.quiet, hcoherent.reason⟩

/-- Wherever a host may be and whatever the random source holds: an accepted choice with a check is
played as its events tell, one without a check throws nothing and costs nothing, and calls draw for
the random effects and the die of the choice they take, and for nothing else. -/
theorem check_played_as_told (hreachable : director.Reachable) (generator : Generator)
    (world : World) :
    let drawing := director.drawingFrom generator
    (∀ time choice check,
      Playthrough.Accepts drawing.script drawing.playthrough choice →
      choice.check = some check →
        ∃ reply applied roll paid told left,
          drawing.makeChoice time choice world = drawing.deliver reply world ∧
          drawing.emitted (.makeChoice time choice) = reply.events ∧
          Playthrough.PlayedChecked drawing.script drawing.playthrough time choice check applied
            roll paid told left reply) ∧
    (∀ time choice,
      Playthrough.Accepts drawing.script drawing.playthrough choice →
      choice.check = none →
        ∃ reply applied left,
          drawing.makeChoice time choice world = drawing.deliver reply world ∧
          drawing.emitted (.makeChoice time choice) = reply.events ∧
          Playthrough.PlayedPlainly drawing.script drawing.playthrough time choice applied left
            reply) ∧
    ∀ call : Call,
      let reached := (drawing.call call world).2.1.playthrough.stage.generator
      (∀ choice, call.made? drawing.cursor = some choice →
        Playthrough.Accepts drawing.script drawing.playthrough choice →
          reached = generator.drawnAll (choice.draws drawing.script)) ∧
      ((∀ choice, call.made? drawing.cursor = some choice →
        ¬ Playthrough.Accepts drawing.script drawing.playthrough choice) →
          reached = generator) := by
  intro drawing
  have hcoherent : Playthrough.Coherent drawing.script drawing.playthrough :=
    hreachable.coherent_drawingFrom generator
  refine ⟨?_, ?_, ?_⟩
  · intro time choice check haccepts hcheck
    obtain ⟨applied, roll, paid, told, left, hplayed⟩ :=
      haccepts.playedChecked hcoherent time hcheck
    exact ⟨_, applied, roll, paid, told, left, rfl, emitted_makeChoice drawing time choice,
      hplayed⟩
  · intro time choice haccepts hcheck
    obtain ⟨applied, left, hplayed⟩ := haccepts.playedPlainly hcoherent time hcheck
    exact ⟨_, applied, left, rfl, emitted_makeChoice drawing time choice, hplayed⟩
  · intro call
    have hstep := generator_step hcoherent call
    rw [call_eq_perform]
    exact hstep

/-- A throw at the table of the tavern. -/
def gamble : Choice where
  text := "Throw"
  check := some sevens

/-- The drinker at the table, under the usual settings. -/
def seated : Director Unit := ((drinker {}).call .start ()).2.1

theorem reachable_seated : seated.Reachable :=
  .called (drinker {})
    (.begun (drinker {}) (begun_opened tavernStory {} (Generator.ofSeed 1) (by decide +kernel)))
    .start ()

/-- The gamble is lost with a five, and played as it is told. -/
theorem seated_gamble_told :
    let time : Timestamp := { seconds := 0, nanoseconds := 0 }
    let drawing := seated.drawingFrom (Generator.ofSeed 1)
    Playthrough.Accepts drawing.script drawing.playthrough gamble ∧
      (drawing.emitted (.makeChoice time gamble)).filterMap Event.rolled? =
        [{ face := 5, sides := 6, difficulty := 7, outcome := .failure, stat := none }] ∧
      ∃ reply applied roll paid told left,
        drawing.emitted (.makeChoice time gamble) = reply.events ∧
        Playthrough.PlayedChecked drawing.script drawing.playthrough time gamble sevens applied
          roll paid told left reply := by
  intro time drawing
  have haccepts : Playthrough.Accepts drawing.script drawing.playthrough gamble :=
    ⟨by decide +kernel, by decide +kernel, by decide +kernel, rfl⟩
  obtain ⟨hchecked, -, -⟩ := check_played_as_told reachable_seated (Generator.ofSeed 1) ()
  obtain ⟨reply, applied, roll, paid, told, left, -, hemitted, hplayed⟩ :=
    hchecked time gamble sevens haccepts rfl
  exact ⟨haccepts, by decide +kernel, reply, applied, roll, paid, told, left, hemitted, hplayed⟩

end Director

end BranchingStory
