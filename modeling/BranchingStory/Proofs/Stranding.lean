import BranchingStory.Proofs.Run

/-!
# Stranding

A player can go on when there is a choice to take or a plain dialogue to advance from.  A cursor is
stranded when it awaits a choice and offers none.  One kind of call does that: a choice that is
taken while one is awaited, stays in its scene and meets a gate that cannot be judged.  The choices
are withdrawn by then, and the phase is still the one before.  Entering a scene does not strand,
since it sets the phase before it searches.  A stranded cursor stays so until it is moved.
-/

namespace BranchingStory

/-- A cursor that awaits a choice and offers none. -/
def Cursor.Stranded (cursor : Cursor) : Prop :=
  cursor.phase = .awaitingChoice ∧ cursor.offered = []

/-- A call that succeeds without any event. -/
def Call.Ignored (script : Script) (playthrough : Playthrough) (call : Call) : Prop :=
  ((call.step script).run playthrough).result = .ok () ∧
    ((call.step script).run playthrough).events = []

theorem not_stranded_offering (cursor : Cursor) (index : Nat) (choices : List Choice) :
    ¬ (cursor.offering index choices).Stranded := by
  rintro ⟨hphase, hoffered⟩
  have hchoices : choices = [] := hoffered
  simp [Cursor.offering, hchoices] at hphase

namespace Playthrough

/-- A call that strands: a choice was awaited, a gate could not be judged, and no scene was
entered. -/
structure Strands (playthrough : Playthrough) (reply : Reply Playthrough Unit) : Prop where
  awaited : playthrough.stage.cursor.phase = .awaitingChoice
  failed : ∃ error, reply.result = .error (.gate error)
  stayed : ∀ id, .sceneChanged id ∉ reply.events

section Turns

variable {script : Script} {playthrough : Playthrough}

/-! ## Which turns strand -/

/-- A cursor that was put at a place while it awaits a choice is stranded there by a gate that
cannot be judged, and by nothing else. -/
theorem Arrival.stranded_iff {scene : Scene} {placed : Cursor} {reply : Reply Playthrough Unit}
    (harrival : Arrival playthrough scene placed reply) :
    reply.state.stage.cursor.Stranded ↔
      placed.phase = .awaitingChoice ∧ ∃ error, reply.result = .error (.gate error) := by
  cases harrival with
  | stuck error hsearch => simp [Cursor.Stranded, Cursor.withdrawn]
  | past index hsearch => simp [Cursor.Stranded, Cursor.pastEnd]
  | shown index dialogue choices hsearch =>
      constructor
      · intro hstranded
        exact absurd hstranded (not_stranded_offering placed index choices)
      · rintro ⟨_, error, hresult⟩
        simp at hresult

/-- An arrival that fails emits nothing. -/
theorem Arrival.silent {scene : Scene} {placed : Cursor} {reply : Reply Playthrough Unit}
    (harrival : Arrival playthrough scene placed reply) {error : PlaybackError}
    (hfailed : reply.result = .error error) : reply.events = [] := by
  cases harrival with
  | stuck error hsearch => rfl
  | past index hsearch | shown index dialogue choices hsearch => simp at hfailed

/-- An arrival that succeeds emits something. -/
theorem Arrival.heard {scene : Scene} {placed : Cursor} {reply : Reply Playthrough Unit}
    (harrival : Arrival playthrough scene placed reply) (hok : reply.result = .ok ()) :
    reply.events ≠ [] := by
  cases harrival with
  | stuck error hsearch => simp at hok
  | past index hsearch => simp
  | shown index dialogue choices hsearch =>
      simp only [Cursor.announce]
      split <;> simp

/-- A cursor that was put at a place without awaiting a choice is not stranded there. -/
theorem Arrival.not_stranded {scene : Scene} {placed : Cursor} {reply : Reply Playthrough Unit}
    (harrival : Arrival playthrough scene placed reply) (hphase : placed.phase = .showing) :
    ¬ reply.state.stage.cursor.Stranded := by
  rw [harrival.stranded_iff, hphase]
  simp

theorem not_stranded_cutShort (reason : EndReason) :
    ¬ (playthrough.cutShort reason).stage.cursor.Stranded := by
  simp [Cursor.Stranded, Cursor.finish]

theorem placeFor_stays (cursor : Cursor) (target : Target) (id : String) :
    .sceneChanged id ∉ (placeFor cursor target).2 := by
  intro hmem
  have hother : ∀ event ∈ (placeFor cursor target).2, event ≠ .sceneChanged id := by
    apply forall_mem_placeFor
    intro diagnostic
    simp
  exact hother _ hmem rfl

/-- A departure strands the cursor just when a choice was awaited, a gate could not be judged and
no scene was entered. -/
theorem Departure.stranded_iff {target : Target} {reply : Reply Playthrough Unit}
    (hdeparture : Departure script playthrough target reply) :
    reply.state.stage.cursor.Stranded ↔ Strands playthrough reply := by
  cases hdeparture with
  | depleted hdepleted =>
      refine iff_of_false (not_stranded_cutShort .statDepleted) ?_
      rintro ⟨_, ⟨error, hfailed⟩, _⟩
      simp at hfailed
  | moved hlively hstays scene hscene reply harrival =>
      rw [harrival.stranded_iff]
      constructor
      · rintro ⟨hphase, error, hfailed⟩
        refine ⟨hphase, ⟨error, hfailed⟩, ?_⟩
        intro id
        simpa [harrival.silent hfailed] using placeFor_stays _ target id
      · rintro ⟨hphase, hfailed, _⟩
        exact ⟨hphase, hfailed⟩
  | entered hlively hleaves id htarget scene hknown reply harrival =>
      have hentered : ¬ reply.state.stage.cursor.Stranded := harrival.not_stranded rfl
      refine iff_of_false hentered ?_
      rintro ⟨_, _, hstayed⟩
      exact hstayed scene.id (by simp)
  | lost hlively hleaves id htarget hunknown =>
      refine iff_of_false (not_stranded_cutShort .referenceFailure) ?_
      rintro ⟨_, ⟨error, hfailed⟩, _⟩
      simp at hfailed

theorem not_strands_of_ok {reply : Reply Playthrough Unit} (hok : reply.result = .ok ()) :
    ¬ Strands playthrough reply := by
  rintro ⟨_, ⟨error, hfailed⟩, _⟩
  simp [hok] at hfailed

/-- A turn leaves a stranded cursor behind when it strands it, or when it leaves a stranded cursor
where it is. -/
theorem Turn.stranded_iff {reply : Reply Playthrough Unit} (hturn : Turn script playthrough reply) :
    reply.state.stage.cursor.Stranded ↔
      Strands playthrough reply ∨
        (playthrough.stage.cursor.Stranded ∧
          reply.state.stage.cursor = playthrough.stage.cursor) := by
  constructor
  · intro hstranded
    cases hturn with
    | ignored | refused error | exhausted hopen hlively hempty | waited hopen hlively hphase =>
        exact .inr ⟨hstranded, rfl⟩
    | depleted hopen hdepleted => exact absurd hstranded (not_stranded_cutShort .statDepleted)
    | advanced hopen hlively hphase scene hscene reply harrival =>
        exact absurd hstranded (harrival.not_stranded hphase)
    | entered hopen hlively id scene hknown reply harrival =>
        exact absurd hstranded (harrival.not_stranded rfl)
    | lost hopen hlively id hunknown =>
        exact absurd hstranded (not_stranded_cutShort .referenceFailure)
    | took hopen hlively hactive scene hscene time choice hvalid outcome store generator events
        hsettled hsettling reply hdeparture =>
        obtain ⟨hawaited, hfailed, hstayed⟩ := hdeparture.stranded_iff.mp hstranded
        refine .inl ⟨hawaited, hfailed, ?_⟩
        intro id hmem
        rcases List.mem_append.mp hmem with hsettle | hdepart
        · simpa [Event.isSettling] using hsettling _ hsettle
        · exact hstayed id hdepart
  · rintro (hstrands | ⟨hstranded, hcursor⟩)
    · cases hturn with
      | ignored | depleted | exhausted | waited | lost =>
          exact absurd hstrands (not_strands_of_ok rfl)
      | refused error =>
          obtain ⟨other, hfailed⟩ := hstrands.failed
          simp at hfailed
      | advanced hopen hlively hphase scene hscene reply harrival =>
          simpa [hphase] using hstrands.awaited
      | entered hopen hlively id scene hknown reply harrival =>
          exact absurd (by simp) (hstrands.stayed scene.id)
      | took hopen hlively hactive scene hscene time choice hvalid outcome store generator events
          hsettled hsettling reply hdeparture =>
          refine hdeparture.stranded_iff.mpr ⟨hstrands.awaited, hstrands.failed, ?_⟩
          intro id hmem
          exact hstrands.stayed id (List.mem_append_right events hmem)
    · rw [hcursor]
      exact hstranded

/-! ## Advancing from a plain dialogue -/

/-- A playthrough that shows a plain dialogue does not ignore that it is told to advance. -/
theorem not_ignored_advance {scene : Scene} (hopen : playthrough.progress.ended = false)
    (hphase : playthrough.stage.cursor.phase = .showing)
    (hscene : playthrough.stage.cursor.scene = some scene) :
    ¬ Call.advance.Ignored script playthrough := by
  rintro ⟨hok, hsilent⟩
  simp only [Call.step] at hok hsilent
  cases hdepletes : script.depletes playthrough.stage.store with
  | true =>
      rw [advance, run_unlessOver_of_depleted hopen hdepletes] at hsilent
      simp at hsilent
  | false => exact (arrival_advance hopen hdepletes hphase hscene).heard hok hsilent

end Turns

end Playthrough

/-! ## Which runs strand -/

/-- The calls have a last one that strands, and the cursor was not moved since. -/
def Chronicle.StrandedBy (script : Script) (chronicle : Chronicle) (calls : List Call) : Prop :=
  ∃ before call rest, calls = before ++ call :: rest ∧
    let met := (chronicle.extendAll script before).playthrough
    let reply := (call.step script).run met
    Playthrough.Strands met reply ∧
      (chronicle.extendAll script calls).playthrough.stage.cursor = reply.state.stage.cursor

theorem Chronicle.stranded_extendAll {script : Script} {chronicle : Chronicle}
    (hcoherent : Playthrough.Coherent script chronicle.playthrough) (calls : List Call)
    (hstranded : (chronicle.extendAll script calls).playthrough.stage.cursor.Stranded) :
    chronicle.StrandedBy script calls ∨
      (chronicle.playthrough.stage.cursor.Stranded ∧
        (chronicle.extendAll script calls).playthrough.stage.cursor =
          chronicle.playthrough.stage.cursor) := by
  induction calls generalizing chronicle with
  | nil => exact .inr ⟨hstranded, rfl⟩
  | cons call rest ih =>
      have hturn := turn_step hcoherent call
      rcases ih (hturn.coherent hcoherent) hstranded with
        ⟨before, later, others, rfl, hlater⟩ | ⟨hnext, hrest⟩
      · exact .inl ⟨call :: before, later, others, rfl, hlater⟩
      · rcases hturn.stranded_iff.mp hnext with hstrands | ⟨hbefore, hcursor⟩
        · exact .inl ⟨[], call, rest, rfl, hstrands, hrest⟩
        · exact .inr ⟨hbefore, hrest.trans hcursor⟩

namespace Director

variable {World : Type} {director : Director World}

/-- A run strands the cursor just when one of its calls does and the cursor was not moved since. -/
theorem Begun.stranded_iff (hbegun : director.Begun) (calls : List Call) :
    (director.chronicle calls).playthrough.stage.cursor.Stranded ↔
      Chronicle.StrandedBy director.script { playthrough := director.playthrough } calls := by
  constructor
  · intro hstranded
    rcases Chronicle.stranded_extendAll hbegun.coherent calls hstranded with
      hrun | ⟨hstart, _⟩
    · exact hrun
    · obtain ⟨unseeded, hfresh⟩ := hbegun.playthrough_eq
      simp [hfresh, Script.fresh, Cursor.Stranded] at hstart
  · rintro ⟨before, call, rest, rfl, hstrands, hcursor⟩
    have hmet := hbegun.coherent_chronicle before
    rw [chronicle, hcursor]
    exact (turn_step hmet call).stranded_iff.mpr (.inl hstrands)

/-- A player can go on: a cursor that awaits a choice offers one, and without a choice it shows a
dialogue that advancing does something about. -/
structure GoesOn (director : Director World) : Prop where
  awaiting : director.cursor.phase = .awaitingChoice → director.cursor.offered ≠ []
  moving : director.cursor.offered ≠ [] ∨
    (director.cursor.phase = .showing ∧
      ¬ Call.advance.Ignored director.script director.playthrough)

/-- In a run that has not ended and has a scene, whatever its calls gave back, a player can go on
unless a call has stranded the cursor. -/
theorem goesOn_iff_not_stranded (hbegun : director.Begun) (calls : List Call) (world : World)
    (hopen : (director.play calls world).2.1.isEnded = false) (scene : Scene)
    (hscene : (director.play calls world).2.1.cursor.scene = some scene) :
    (director.play calls world).2.1.GoesOn ↔
      ¬ Chronicle.StrandedBy director.script { playthrough := director.playthrough } calls := by
  rw [← hbegun.stranded_iff]
  have hcoherent := hbegun.coherent_chronicle calls
  simp only [play_eq] at hopen hscene ⊢
  generalize (director.chronicle calls).playthrough = reached at hcoherent hopen hscene ⊢
  constructor
  · rintro ⟨hawaiting, _⟩ ⟨hphase, hoffered⟩
    exact hawaiting hphase hoffered
  · intro hmoved
    have hactive : reached.stage.cursor.phase.isActive = true := by
      apply hcoherent.isActive hopen
      intro hidle
      have hunloaded := hcoherent.cursor.unloaded hidle
      simp [cursor, hunloaded] at hscene
    have hawaiting : reached.stage.cursor.phase = .awaitingChoice →
        reached.stage.cursor.offered ≠ [] := by
      intro hphase hoffered
      exact hmoved ⟨hphase, hoffered⟩
    refine ⟨hawaiting, ?_⟩
    cases hphase : reached.stage.cursor.phase with
    | idle | ended => simp [hphase, Phase.isActive] at hactive
    | awaitingChoice => exact .inl (hawaiting hphase)
    | showing =>
        exact .inr ⟨hphase, Playthrough.not_ignored_advance hopen hphase hscene⟩

/-- The bribe strands the player. -/
theorem guarded_strandedBy_bribing :
    Chronicle.StrandedBy guarded.script { playthrough := guarded.playthrough } bribing := by
  have hiff := goesOn_iff_not_stranded begun_guarded bribing () (by decide +kernel) guardScene
    (by decide +kernel)
  cases Classical.em (Chronicle.StrandedBy guarded.script { playthrough := guarded.playthrough }
    bribing) with
  | inl hstranded => exact hstranded
  | inr hmoved => exact absurd (by decide +kernel) ((hiff.mpr hmoved).awaiting (by decide +kernel))

/-- After the bribe a choice is awaited that is not there, and advancing is ignored. -/
theorem guarded_locked :
    let reached := (guarded.play bribing ()).2.1
    reached.isEnded = false ∧ reached.cursor.scene = some guardScene ∧
      reached.cursor.phase = .awaitingChoice ∧ reached.cursor.offered = [] ∧
      Call.advance.Ignored reached.script reached.playthrough := by
  refine ⟨by decide +kernel, by decide +kernel, by decide +kernel, by decide +kernel, ?_, ?_⟩
  · exact isOk_iff.mp (by decide +kernel)
  · decide +kernel

end Director

end BranchingStory
