import BranchingStory.Proofs.Run

/-!
# What is on screen

As long as no call fails, the screen that the events describe and the cursor agree: the dialogue
that was shown last is the one the cursor stands at, its gate is open, and what it offers are its
open choices.  Effects and penalties change the variables only when a choice is taken, and then the
screen is filled anew, so that gates and choices are those of the present variables.
-/

namespace BranchingStory

/-! ## The latest screen of a run -/

def Event.shown? : Event → Option DialogueShown
  | dialogueShow shown => some shown
  | _ => none

def Event.choices? : Event → Option (List Choice)
  | choicesShow choices => some choices
  | _ => none

/-- The dialogue that was shown last. -/
def lastShown (events : List Event) : Option DialogueShown :=
  (events.filterMap Event.shown?).getLast?

/-- The choices that were shown last. -/
def lastChoices (events : List Event) : Option (List Choice) :=
  (events.filterMap Event.choices?).getLast?

theorem lastShown_append (events later : List Event) :
    lastShown (events ++ later) = (lastShown later).or (lastShown events) := by
  simp [lastShown, List.getLast?_append]

theorem lastChoices_append (events later : List Event) :
    lastChoices (events ++ later) = (lastChoices later).or (lastChoices events) := by
  simp [lastChoices, List.getLast?_append]

theorem lastShown_announce (before : List Event) (scene : Scene) (dialogue : Dialogue)
    (choices : List Choice) :
    lastShown (before ++ Cursor.announce scene dialogue choices) =
      some
        { scene := scene.id, dialogue := dialogue.id, speaker := dialogue.speaker,
          text := dialogue.text, directions := dialogue.directions, choices } := by
  rw [lastShown_append]
  cases choices with
  | nil => rfl
  | cons choice rest => rfl

theorem lastChoices_announce (before : List Event) (scene : Scene) (dialogue : Dialogue)
    {choices : List Choice} (hchoices : choices ≠ []) :
    lastChoices (before ++ Cursor.announce scene dialogue choices) = some choices := by
  rw [lastChoices_append]
  cases choices with
  | nil => exact absurd rfl hchoices
  | cons choice rest => rfl

namespace Playthrough

/-! ## Agreement -/

/-- A playthrough with a dialogue of a scene on screen, and events that agree with it. -/
structure OnScreen (playthrough : Playthrough) (events : List Event) (scene : Scene)
    (dialogue : Dialogue) : Prop where
  /-- The cursor stands at the dialogue. -/
  current : playthrough.stage.cursor.dialogue? = some dialogue
  /-- The dialogue was shown last, with the choices that are offered. -/
  shown : lastShown events =
    some
      { scene := scene.id, dialogue := dialogue.id, speaker := dialogue.speaker,
        text := dialogue.text, directions := dialogue.directions,
        choices := playthrough.stage.cursor.offered }
  /-- All its conditions hold. -/
  holds : ∀ condition ∈ dialogue.conditions, condition.check playthrough.stage.store = .ok true
  /-- The offered choices are those whose conditions all hold, in their order. -/
  offered : playthrough.stage.cursor.offered =
    dialogue.choices.filter fun choice =>
      choice.conditions.all fun condition => condition.holds playthrough.stage.store
  awaiting : playthrough.stage.cursor.phase = .awaitingChoice ↔
    playthrough.stage.cursor.offered ≠ []
  showing : playthrough.stage.cursor.offered = [] → playthrough.stage.cursor.phase = .showing
  choicesShown : playthrough.stage.cursor.offered ≠ [] →
    lastChoices events = some playthrough.stage.cursor.offered
  /-- The progress has noted the place. -/
  sceneNoted : playthrough.progress.scene = some scene.id
  indexNoted : playthrough.progress.dialogueIndex = playthrough.stage.cursor.index
  idNoted : playthrough.progress.dialogueId = dialogue.id

/-- Whenever a playthrough that goes on has a scene, it has a dialogue of it on screen. -/
def ScreenAgrees (playthrough : Playthrough) (events : List Event) : Prop :=
  playthrough.progress.ended = false → ∀ scene, playthrough.stage.cursor.scene = some scene →
    ∃ dialogue, OnScreen playthrough events scene dialogue

theorem screenAgrees_of_ended {playthrough : Playthrough}
    (hended : playthrough.progress.ended = true) (events : List Event) :
    ScreenAgrees playthrough events := by
  intro hopen
  simp [hended] at hopen

/-! ## Arriving fills the screen -/

theorem onScreen_noted {playthrough : Playthrough} {scene : Scene} {placed : Cursor} {index : Nat}
    {dialogue : Dialogue} {choices : List Choice} (hscene : placed.scene = some scene)
    (hvisible : Cursor.Visible playthrough.stage.store scene index dialogue choices)
    (hnoted : playthrough.progress.scene = some scene.id) (before : List Event) :
    OnScreen (playthrough.withCursor (placed.offering index choices)).noted
      (before ++ Cursor.announce scene dialogue choices) scene dialogue := by
  have hdialogue : (placed.offering index choices).dialogue? = some dialogue :=
    (Cursor.dialogue?_offering hscene index choices).trans hvisible.at_index
  constructor
  · exact hdialogue
  · exact lastShown_announce before scene dialogue choices
  · intro condition hmem
    have hholds := List.all_eq_true.mp hvisible.holds condition hmem
    exact Condition.holds_iff.mp hholds
  · exact hvisible.choices_eq
  · cases choices with
    | nil => simp [Cursor.offering]
    | cons choice rest => simp [Cursor.offering]
  · intro hnone
    have hchoices : choices = [] := hnone
    simp [Cursor.offering, hchoices]
  · intro hsome
    exact lastChoices_announce before scene dialogue hsome
  · exact hnoted
  · rfl
  · simp [noted, hdialogue]

theorem Arrival.screenAgrees {playthrough : Playthrough} {scene : Scene} {placed : Cursor}
    {reply : Reply Playthrough Unit} (harrival : Arrival playthrough scene placed reply)
    (hok : reply.result = .ok ()) (hscene : placed.scene = some scene)
    (hnoted : playthrough.progress.scene = some scene.id) (before : List Event) :
    ScreenAgrees reply.state (before ++ reply.events) := by
  cases harrival with
  | stuck error hsearch => simp at hok
  | past index hsearch => exact screenAgrees_of_ended (ended_finished _ _) _
  | shown index dialogue choices hsearch =>
      intro _ other hother
      have hsame : other = scene := Option.some.inj (hother.symm.trans hscene)
      rw [hsame]
      exact ⟨dialogue,
        onScreen_noted hscene (Cursor.searchScene_visible hsearch) hnoted before⟩

/-! ## Every turn keeps the agreement -/

section Turns

variable {script : Script} {playthrough : Playthrough} {events : List Event}

theorem OnScreen.noted {scene : Scene} {dialogue : Dialogue}
    (hscreen : OnScreen playthrough events scene dialogue) :
    OnScreen playthrough.noted events scene dialogue := by
  refine { hscreen with indexNoted := rfl, idNoted := ?_ }
  simp [Playthrough.noted, hscreen.current]

theorem Departure.screenAgrees {target : Target} {reply : Reply Playthrough Unit}
    (hdeparture : Departure script playthrough target reply) (hok : reply.result = .ok ())
    (hnoted : ∀ scene, playthrough.stage.cursor.scene = some scene →
      playthrough.progress.scene = some scene.id) (before : List Event) :
    ScreenAgrees reply.state (before ++ reply.events) := by
  cases hdeparture with
  | depleted hdepleted => exact screenAgrees_of_ended (ended_cutShort _ _) _
  | moved hlively hstays scene hscene reply harrival =>
      rw [← List.append_assoc]
      exact harrival.screenAgrees hok hscene (hnoted scene hscene) _
  | entered hlively hleaves id htarget scene hknown reply harrival =>
      rw [List.append_cons]
      exact harrival.screenAgrees hok rfl rfl _
  | lost hlively hleaves id htarget hunknown =>
      have hended : (playthrough.cutShort .referenceFailure).noted.progress.ended = true :=
        ended_cutShort playthrough .referenceFailure
      exact screenAgrees_of_ended hended _

theorem Turn.screenAgrees {reply : Reply Playthrough Unit} (hturn : Turn script playthrough reply)
    (hok : reply.result = .ok ()) (hagrees : ScreenAgrees playthrough events) :
    ScreenAgrees reply.state (events ++ reply.events) := by
  have hnoted : playthrough.progress.ended = false →
      ∀ scene, playthrough.stage.cursor.scene = some scene →
        playthrough.progress.scene = some scene.id := by
    intro hopen scene hscene
    obtain ⟨dialogue, hscreen⟩ := hagrees hopen scene hscene
    exact hscreen.sceneNoted
  cases hturn with
  | ignored =>
      rw [List.append_nil]
      exact hagrees
  | refused error => simp at hok
  | depleted hopen hdepleted => exact screenAgrees_of_ended (ended_cutShort _ _) _
  | exhausted hopen hlively hempty => exact screenAgrees_of_ended (ended_finished _ _) _
  | waited hopen hlively hphase =>
      rw [List.append_nil]
      intro _ scene hscene
      obtain ⟨dialogue, hscreen⟩ := hagrees hopen scene hscene
      exact ⟨dialogue, hscreen.noted⟩
  | advanced hopen hlively hphase scene hscene reply harrival =>
      exact harrival.screenAgrees hok hscene (hnoted hopen scene hscene) events
  | entered hopen hlively id scene hknown reply harrival =>
      rw [List.append_cons]
      exact harrival.screenAgrees hok rfl rfl _
  | lost hopen hlively id hunknown => exact screenAgrees_of_ended (ended_cutShort _ _) _
  | took hopen hlively hactive scene hscene time choice hvalid outcome store generator settling
      hsettled hsettling reply hdeparture =>
      rw [← List.append_assoc]
      exact hdeparture.screenAgrees hok (hnoted hopen) _

end Turns

end Playthrough

namespace Director

variable {World : Type} {director : Director World}

theorem Begun.screenAgrees (hbegun : director.Begun) (calls : List Call) :
    (director.chronicle calls).allOk →
      Playthrough.ScreenAgrees (director.chronicle calls).playthrough
        (director.chronicle calls).events := by
  apply hbegun.induction (motive := fun chronicle =>
    chronicle.allOk → Playthrough.ScreenAgrees chronicle.playthrough chronicle.events)
  · intro unseeded _ _ scene hscene
    simp [Script.fresh] at hscene
  · intro chronicle reply hcoherent hturn hagrees hok
    rw [Chronicle.allOk_add] at hok
    exact hturn.screenAgrees hok.2 (hagrees hok.1)

/-- In a run without a failed call, a director that goes on and has a scene has a dialogue of it on
screen, as the events say and as the progress has noted. -/
theorem screen_agrees (hbegun : director.Begun) (calls : List Call) (world : World)
    (hok : ∀ result ∈ (director.play calls world).1, result = .ok ())
    (hopen : (director.play calls world).2.1.isEnded = false) (scene : Scene)
    (hscene : (director.play calls world).2.1.cursor.scene = some scene) :
    ∃ dialogue,
      Playthrough.OnScreen (director.play calls world).2.1.playthrough
        (director.chronicle calls).events scene dialogue := by
  simp only [play_eq] at hok hopen hscene ⊢
  exact hbegun.screenAgrees calls hok hopen scene hscene

/-- The guard is on screen, also after he was told to go on. -/
theorem guarded_screen_agrees :
    ∃ dialogue,
      Playthrough.OnScreen (guarded.play [.start, .advance] ()).2.1.playthrough
        (guarded.chronicle [.start, .advance]).events guardScene dialogue := by
  have hok : ∀ result ∈ (guarded.play [.start, .advance] ()).1, result.isOk = true := by
    decide +kernel
  exact screen_agrees begun_guarded [.start, .advance] ()
    (fun result hmem => isOk_iff.mp (hok result hmem)) (by decide +kernel) guardScene
    (by decide +kernel)

end Director

end BranchingStory
