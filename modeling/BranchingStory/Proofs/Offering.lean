import BranchingStory.Proofs.Navigating
import BranchingStory.Proofs.Refusing
import BranchingStory.Proofs.Screen

/-!
# What is offered can be taken

A host sees the choices that a cursor offers, and takes one of them by its place.  The offer would
be false if the playthrough had ended meanwhile, if the screen had changed under it or if the
variables had: then the choice would be ignored, or recorded with a dialogue it does not belong to.
Nothing of this happens, also not after calls that failed.  A playthrough that offers choices goes
on, and what it offers are the open choices of the dialogue on screen.

`Director.choose_takes_offered` puts this together with the history, which grows by the one choice
that is taken and is never rewritten.
-/

namespace BranchingStory

/-- A stage with a dialogue of a scene on screen, which offers its open choices. -/
structure Stage.Presents (stage : Stage) (scene : Scene) (dialogue : Dialogue) : Prop where
  loaded : stage.cursor.scene = some scene
  current : stage.cursor.dialogue? = some dialogue
  offered : stage.cursor.offered =
    dialogue.choices.filter fun choice => Gate.holds stage.store choice.conditions

/-- Whatever is offered is offered by the dialogue on screen. -/
def Stage.OffersOnScreen (stage : Stage) : Prop :=
  stage.cursor.offered ≠ [] → ∃ scene dialogue, stage.Presents scene dialogue

theorem Stage.offersOnScreen_of_nothing {stage : Stage} (hnothing : stage.cursor.offered = []) :
    stage.OffersOnScreen :=
  fun hoffered => absurd hnothing hoffered

namespace Playthrough

/-! ## Every turn keeps the offer true -/

section Turns

variable {script : Script} {playthrough : Playthrough}

/-- An arrival withdraws what was offered, and offers what it finds. -/
theorem Arrival.offersOnScreen {scene : Scene} {placed : Cursor} {reply : Reply Playthrough Unit}
    (harrival : Arrival playthrough scene placed reply) (hscene : placed.scene = some scene) :
    reply.state.stage.OffersOnScreen := by
  cases harrival with
  | stuck error hsearch | past index hsearch => exact Stage.offersOnScreen_of_nothing rfl
  | shown index dialogue choices hsearch =>
      intro _
      have hvisible := Cursor.searchScene_visible hsearch
      have hdialogue : (placed.offering index choices).dialogue? = some dialogue :=
        (Cursor.dialogue?_offering hscene index choices).trans hvisible.at_index
      exact ⟨scene, dialogue, hscene, hdialogue, hvisible.choices_eq⟩

/-- A choice changes the variables before it departs, and departing puts the screen right. -/
theorem Departure.offersOnScreen {target : Target} {reply : Reply Playthrough Unit}
    (hdeparture : Departure script playthrough target reply) :
    reply.state.stage.OffersOnScreen := by
  cases hdeparture with
  | depleted hdepleted | lost hlively hleaves id htarget hunknown =>
      exact Stage.offersOnScreen_of_nothing rfl
  | moved hlively hstays scene hscene reply harrival => exact harrival.offersOnScreen hscene
  | entered hlively hleaves id htarget scene hknown reply harrival =>
      exact harrival.offersOnScreen rfl

theorem Turn.offersOnScreen {reply : Reply Playthrough Unit}
    (hturn : Turn script playthrough reply) (honScreen : playthrough.stage.OffersOnScreen) :
    reply.state.stage.OffersOnScreen := by
  cases hturn with
  | ignored | refused error | exhausted hopen hlively hempty | waited hopen hlively hphase =>
      exact honScreen
  | depleted hopen hdepleted | lost hopen hlively id hunknown =>
      exact Stage.offersOnScreen_of_nothing rfl
  | advanced hopen hlively hphase scene hscene reply harrival =>
      exact harrival.offersOnScreen hscene
  | entered hopen hlively id scene hknown reply harrival => exact harrival.offersOnScreen rfl
  | took hopen hlively hactive scene hscene time choice hvalid outcome store generator events
      hsettled hsettling reply hdeparture hsettle => exact hdeparture.offersOnScreen

/-- A turn leaves the history as it is or appends to it. -/
theorem Turn.history_prefix {reply : Reply Playthrough Unit}
    (hturn : Turn script playthrough reply) :
    playthrough.progress.history <+: reply.state.progress.history := by
  cases hturn.taking with
  | nothing reply hsame hunsettling =>
      exact hsame.history ▸ List.prefix_rfl
  | choice time choice outcome stage events hsettle reply hsame hunsettling =>
      rw [hsame.history]
      exact List.prefix_append _ _

end Turns

/-- While something is offered the playthrough goes on with a scene. -/
theorem Coherent.goesOn_of_offered {script : Script} {playthrough : Playthrough}
    (hcoherent : Coherent script playthrough)
    (hoffered : playthrough.stage.cursor.offered ≠ []) :
    playthrough.progress.ended = false ∧ playthrough.stage.cursor.phase.isActive = true := by
  have hphase := hcoherent.cursor.awaiting hoffered
  have hactive : playthrough.stage.cursor.phase.isActive = true := by
    simp [hphase, Phase.isActive]
  refine ⟨?_, hactive⟩
  cases hended : playthrough.progress.ended with
  | false => rfl
  | true => exact absurd hactive (by simp [hcoherent.quiet hended])

end Playthrough

namespace Director

variable {World : Type} {director : Director World}

theorem Reachable.offersOnScreen (hreachable : director.Reachable) :
    director.playthrough.stage.OffersOnScreen := by
  apply hreachable.induction (motive := fun _ playthrough => playthrough.stage.OffersOnScreen)
  · intro script unseeded
    exact Stage.offersOnScreen_of_nothing rfl
  · intro script playthrough reply hturn honScreen
    exact hturn.offersOnScreen honScreen

/-- Calls only append to the history. -/
theorem Reachable.history_prefix_play (hreachable : director.Reachable) (calls : List Call)
    (world : World) :
    director.progress.history <+: (director.play calls world).2.1.progress.history := by
  simp only [progress, playthrough_play]
  apply Chronicle.extendAll_induction (motive := fun chronicle =>
    director.playthrough.progress.history <+: chronicle.playthrough.progress.history)
  · intro chronicle reply hcoherent hturn hgrown
    exact hgrown.trans hturn.history_prefix
  · exact hreachable.coherent
  · exact List.prefix_rfl

/-! ## Taking what is offered -/

/-- A choice that is taken from the screen.  No guard swallows the call.  The choice is one of the
dialogue on screen and its conditions hold; unless it is refused for an effect, it is the one entry
that the history gets, under this dialogue and its scene. -/
structure TakenFromScreen (director : Director World) (time : Timestamp) (choice : Choice)
    (world : World) (scene : Scene) (dialogue : Dialogue) : Prop where
  unfinished : director.isEnded = false
  lively : director.script.depletes director.store = false
  started : director.cursor.phase ≠ .idle
  loaded : director.cursor.scene = some scene
  current : director.cursor.dialogue? = some dialogue
  authored : choice ∈ dialogue.choices
  holds : ∀ condition ∈ choice.conditions, condition.check director.store = .ok true
  recorded : (∀ error, (director.makeChoice time choice world).1 ≠ .error (.effect error)) →
    (director.makeChoice time choice world).2.1.progress.history =
      director.progress.history ++
        [{ scene := some scene.id, dialogue := some dialogue, choice, time }]

theorem Reachable.takenFromScreen (hreachable : director.Reachable) {choice : Choice}
    (hoffered : choice ∈ director.cursor.offered) (time : Timestamp) (world : World) :
    ∃ scene dialogue, TakenFromScreen director time choice world scene dialogue := by
  have hcoherent := hreachable.coherent
  have hsome : director.cursor.offered ≠ [] := List.ne_nil_of_mem hoffered
  obtain ⟨scene, dialogue, hpresents⟩ := hreachable.offersOnScreen hsome
  obtain ⟨hopen, hactive⟩ := hcoherent.goesOn_of_offered hsome
  have hphase : director.cursor.phase ≠ .idle := Phase.ne_idle_of_isActive hactive
  have hlively := hreachable.lively hopen (by simp [hpresents.loaded])
  rw [cursor, hpresents.offered] at hoffered
  obtain ⟨hauthored, hholds⟩ := List.mem_filter.mp hoffered
  refine ⟨scene, dialogue, hopen, hlively, hphase, hpresents.loaded, hpresents.current,
    hauthored, ?_, ?_⟩
  · intro condition hmem
    exact Condition.holds_iff.mp (List.all_eq_true.mp hholds condition hmem)
  · intro hnotRefused
    have hvalid : Effect.validate choice.effects = .ok () := by
      cases hvalid : Effect.validate choice.effects with
      | ok valid => rfl
      | error error =>
          have hloaded : director.cursor.scene ≠ none := by simp [cursor, hpresents.loaded]
          exact absurd ((refused_whole_iff hreachable time choice world error).1.mpr
            ⟨hopen, hlively, hloaded, hvalid⟩) (hnotRefused error)
    have haccepts : Playthrough.Accepts director.script director.playthrough choice :=
      ⟨hopen, hlively, hactive, hvalid⟩
    have hrecorded := (haccepts.took hcoherent time).recorded
    rw [Playthrough.entry, Cursor.sceneId, hpresents.loaded, hpresents.current] at hrecorded
    exact hrecorded

theorem emitted_choose_of_missing {place : Nat}
    (hmissing : director.cursor.offered[place]? = none) (time : Timestamp) :
    director.emitted (.choose time place) = [] := by
  rw [cursor] at hmissing
  simp only [emitted, Call.answered, Playing.run_map, Playthrough.run_choose, hmissing]

theorem emitted_choose_of_offered {place : Nat} {choice : Choice}
    (hoffered : director.cursor.offered[place]? = some choice) (time : Timestamp) :
    director.emitted (.choose time place) = director.emitted (.makeChoice time choice) := by
  rw [cursor] at hoffered
  rw [emitted_makeChoice]
  simp only [emitted, Call.answered, Playing.run_map, Playthrough.run_choose, hoffered]

/-- Choosing takes exactly what is offered.  It takes nothing just where nothing is offered, and
then nothing happens.  Else it is making the choice that is offered at the place, which is taken
from the screen.  And calls only ever append to the history. -/
theorem choose_takes_offered (hreachable : director.Reachable) (time : Timestamp) (place : Nat)
    (world : World) :
    ((director.choose time place world).1 = .ok false ↔
      director.cursor.offered.length ≤ place) ∧
    (director.cursor.offered.length ≤ place →
      director.choose time place world = (.ok false, director, world) ∧
        director.emitted (.choose time place) = []) ∧
    (∀ choice, director.cursor.offered[place]? = some choice →
      (director.choose time place world =
        let (result, reached, world) := director.makeChoice time choice world
        (result.map fun _ => true, reached, world)) ∧
      director.emitted (.choose time place) = director.emitted (.makeChoice time choice) ∧
      ∃ scene dialogue, TakenFromScreen director time choice world scene dialogue) ∧
    ∀ calls, director.progress.history <+: (director.play calls world).2.1.progress.history := by
  refine ⟨?_, ?_, ?_, fun calls => hreachable.history_prefix_play calls world⟩
  · rw [← List.getElem?_eq_none_iff]
    cases hoffered : director.cursor.offered[place]? with
    | none => simp [choose_of_missing hoffered]
    | some choice =>
        rw [choose_of_offered hoffered]
        cases hresult : (director.makeChoice time choice world).1 with
        | ok value => simp [hresult, Except.map]
        | error error => simp [hresult, Except.map]
  · intro hbeyond
    have hmissing := List.getElem?_eq_none hbeyond
    exact ⟨choose_of_missing hmissing time world, emitted_choose_of_missing hmissing time⟩
  · intro choice hoffered
    exact ⟨choose_of_offered hoffered time world, emitted_choose_of_offered hoffered time,
      hreachable.takenFromScreen (List.mem_of_getElem? hoffered) time world⟩

/-- The bribe is taken from the screen of the guard. -/
theorem challenged_takes_bribe :
    ∃ choice scene dialogue, challenged.cursor.offered[0]? = some choice ∧
      TakenFromScreen challenged { seconds := 0, nanoseconds := 0 } choice () scene dialogue := by
  have hsome : challenged.cursor.offered[0]?.isSome = true := by decide +kernel
  obtain ⟨choice, hoffered⟩ := Option.isSome_iff_exists.mp hsome
  obtain ⟨-, -, htaken, -⟩ := choose_takes_offered reachable_challenged
    { seconds := 0, nanoseconds := 0 } 0 ()
  obtain ⟨-, -, scene, dialogue, htakenFromScreen⟩ := htaken choice hoffered
  exact ⟨choice, scene, dialogue, hoffered, htakenFromScreen⟩

end Director

end BranchingStory
