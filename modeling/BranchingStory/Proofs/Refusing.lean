import BranchingStory.Proofs.Listening
import BranchingStory.Proofs.Taking

/-!
# Choices that are refused

A choice with a defective effect is refused before anything is done with it.  Its effects are looked
at a second time when they are applied, and by then the choice is in the history, so that a refusal
there would leave an entry without a choice that was made.  It never comes to that, since what
passes the first look passes the second, and navigation fails at gates only.

`Director.refused_whole_iff` says when a call is refused, and that nothing at all is left of it.
-/

namespace BranchingStory

namespace Playthrough

variable {script : Script} {playthrough : Playthrough}

/-- An arrival that fails has met a gate. -/
theorem Arrival.result_ne_effect {scene : Scene} {placed : Cursor} {reply : Reply Playthrough Unit}
    (harrival : Arrival playthrough scene placed reply) (error : EffectError) :
    reply.result ≠ .error (.effect error) := by
  cases harrival <;> simp

/-- A departure that fails has met a gate. -/
theorem Departure.result_ne_effect {target : Target} {reply : Reply Playthrough Unit}
    (hdeparture : Departure script playthrough target reply) (error : EffectError) :
    reply.result ≠ .error (.effect error) := by
  cases hdeparture with
  | depleted hdepleted | lost hlively hleaves id htarget hunknown => simp
  | moved hlively hstays scene hscene reply harrival => exact harrival.result_ne_effect error
  | entered hlively hleaves id htarget scene hknown reply harrival =>
      exact harrival.result_ne_effect error

/-- While a playthrough goes on, its cursor is idle exactly before the first scene. -/
theorem Coherent.ne_idle_iff (hcoherent : Coherent script playthrough)
    (hopen : playthrough.progress.ended = false) :
    playthrough.stage.cursor.phase ≠ .idle ↔ playthrough.stage.cursor.scene ≠ none := by
  constructor
  · intro hphase
    obtain ⟨scene, hscene⟩ := hcoherent.cursor.loaded (hcoherent.isActive hopen hphase)
    simp [hscene]
  · intro hloaded hidle
    exact hloaded (hcoherent.cursor.unloaded hidle)

/-- A choice is refused for an effect exactly when this effect is the first defective one and the
playthrough goes on with a scene. -/
theorem makeChoice_refused_iff (hcoherent : Coherent script playthrough) (time : Timestamp)
    (choice : Choice) (error : EffectError) :
    ((makeChoice script time choice).run playthrough).result = .error (.effect error) ↔
      playthrough.progress.ended = false ∧ script.depletes playthrough.stage.store = false ∧
        playthrough.stage.cursor.scene ≠ none ∧
        Effect.validate choice.effects = .error error := by
  constructor
  · intro hrefused
    obtain ⟨hopen, hlively, hphase⟩ := goesOn_of_failed hrefused
    refine ⟨hopen, hlively, (hcoherent.ne_idle_iff hopen).mp hphase, ?_⟩
    cases hvalid : Effect.validate choice.effects with
    | error found =>
        rw [run_makeChoice_of_refused time hopen hlively hphase hvalid] at hrefused
        cases hrefused
        rfl
    | ok valid =>
        -- The second look at the effects passes as the first one did.
        have haccepts : Accepts script playthrough choice :=
          ⟨hopen, hlively, hcoherent.isActive hopen hphase, hvalid⟩
        obtain ⟨outcome, store, generator, events, reply, -, hdeparture, hrun⟩ :=
          haccepts.departs hcoherent time
        rw [hrun] at hrefused
        exact absurd hrefused (hdeparture.result_ne_effect error)
  · rintro ⟨hopen, hlively, hloaded, hrefused⟩
    have hphase := (hcoherent.ne_idle_iff hopen).mpr hloaded
    rw [run_makeChoice_of_refused time hopen hlively hphase hrefused]

end Playthrough

namespace Director

variable {World : Type} {director : Director World}

/-- The events that making a choice emits. -/
theorem emitted_makeChoice (director : Director World) (time : Timestamp) (choice : Choice) :
    director.emitted (.makeChoice time choice) =
      ((Playthrough.makeChoice director.script time choice).run director.playthrough).events := by
  simp only [emitted, Call.answered, Playing.run_map]

/-- A choice is refused for an effect exactly when the playthrough goes on, no stat is depleted, a
scene is loaded and validation refuses the effects; then the director is as before, its audience and
its world included, and nothing was emitted. -/
theorem refused_whole_iff (hreachable : director.Reachable) (time : Timestamp) (choice : Choice)
    (world : World) (error : EffectError) :
    ((director.makeChoice time choice world).1 = .error (.effect error) ↔
      director.isEnded = false ∧ director.script.depletes director.store = false ∧
        director.cursor.scene ≠ none ∧ Effect.validate choice.effects = .error error) ∧
    ((director.makeChoice time choice world).1 = .error (.effect error) →
      (director.makeChoice time choice world).2 = (director, world) ∧
        director.emitted (.makeChoice time choice) = []) := by
  have hcoherent := hreachable.coherent
  have hiff := Playthrough.makeChoice_refused_iff hcoherent time choice error
  refine ⟨hiff, fun hrefused => ?_⟩
  obtain ⟨hopen, hlively, hloaded, hinvalid⟩ := hiff.mp hrefused
  have hphase := (hcoherent.ne_idle_iff hopen).mpr hloaded
  have hrun := Playthrough.run_makeChoice_of_refused time hopen hlively hphase hinvalid
  rw [emitted_makeChoice, makeChoice, perform, hrun]
  exact ⟨rfl, rfl⟩

/-- A bribe and a division, which no one knows. -/
def haggle : Choice where
  text := "Haggle"
  effects :=
    [.set "Gold" 3, { name := "Gold", operation := .unrecognized "divide", operand := some 2 }]

theorem validate_haggle :
    Effect.validate haggle.effects = .error (.unknownOperation "Gold" "divide") := by
  have hfinite : (3 : Binary64).isFinite = true := by decide +kernel
  simp [haggle, Effect.validate, Effect.defect?, Effect.finiteOperand, Effect.set, hfinite]

/-- The guard does not take half of the bribe. -/
theorem challenged_refuses_haggle :
    let time : Timestamp := { seconds := 0, nanoseconds := 0 }
    (challenged.makeChoice time haggle ()).1 =
        .error (.effect (.unknownOperation "Gold" "divide")) ∧
      (challenged.makeChoice time haggle ()).2 = (challenged, ()) ∧
      challenged.emitted (.makeChoice time haggle) = [] :=
  have hwhole := refused_whole_iff reachable_challenged { seconds := 0, nanoseconds := 0 } haggle ()
    (.unknownOperation "Gold" "divide")
  have hrefused := hwhole.1.mpr
    ⟨by decide +kernel, by decide +kernel, by decide +kernel, validate_haggle⟩
  ⟨hrefused, hwhole.2 hrefused⟩

end Director

end BranchingStory
