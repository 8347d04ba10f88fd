import Mathlib.Algebra.GroupWithZero.Nat
import BranchingStory.Proofs.Run
import BranchingStory.Tour.Run

/-!
# Finishing

A story leads forward only when no choice, whatever its die shows, can lead back: a dialogue that it
names comes later in the scene, and a scene that it names comes later in the story.  The dialogues
of a story, counted through all its scenes, number the places where a playthrough can stand.  In a
story that leads forward only, a choice that is taken and an advance where nothing is offered both
end the playthrough or bring it to a later place, so that it ends after as many of them as the story
has dialogues.
-/

namespace BranchingStory

/-! ## Stories that lead forward only -/

/-- A target leads forward from a place of a scene with its number: a dialogue of the scene that it
names comes later in the scene, and a scene that it names comes later in the story. -/
def Target.Forward (story : Story) (scene : Scene × Nat) (index : Nat) (target : Target) : Prop :=
  (∀ id ∈ target.dialogue, ∀ place ∈ scene.1.position? id, index < place) ∧
    ∀ id ∈ target.scene, ∀ other ∈ story.scenes.zipIdx, other.1.id = id → scene.2 < other.2

/-- The targets that a choice may lead to, its own and those of its die. -/
def Choice.targets (choice : Choice) : List Target :=
  choice.target :: (choice.check.bind DiceCheck.success).toList ++
    (choice.check.bind DiceCheck.failure).toList

namespace Story

def ForwardOnly (story : Story) : Prop :=
  ∀ scene ∈ story.scenes.zipIdx, ∀ dialogue ∈ scene.1.dialogues.zipIdx,
    ∀ choice ∈ dialogue.1.choices, ∀ target ∈ choice.targets,
      target.Forward story scene dialogue.2

/-! ## Places -/

/-- The place of a dialogue, counted through the scenes before its own. -/
def place (story : Story) (number index : Nat) : Nat :=
  ((story.scenes.take number).map fun scene => scene.dialogues.length).sum + index

/-- How many dialogues a story has in all its scenes. -/
def dialogueCount (story : Story) : Nat :=
  (story.scenes.map fun scene => scene.dialogues.length).sum

variable {story : Story} {number : Nat} {scene : Scene}

/-- A scene ends before a later one begins. -/
theorem place_lt_of_later (hscene : story.scenes[number]? = some scene) {index later : Nat}
    (hindex : index < scene.dialogues.length) (hlater : number < later) (start : Nat) :
    story.place number index < story.place later start := by
  obtain ⟨rest, hrest⟩ := List.take_prefix_take_left (l := story.scenes) (Nat.succ_le_of_lt hlater)
  have htake : story.scenes.take (number + 1) = story.scenes.take number ++ [scene] := by
    rw [List.take_add_one, hscene]
    rfl
  rw [place, place, ← hrest, htake]
  simp only [List.map_append, List.sum_append, List.map_singleton, List.sum_singleton]
  omega

theorem place_lt_dialogueCount (hscene : story.scenes[number]? = some scene) {index : Nat}
    (hindex : index < scene.dialogues.length) : story.place number index < story.dialogueCount := by
  obtain ⟨hnumber, -⟩ := List.getElem?_eq_some_iff.mp hscene
  have hlast := place_lt_of_later hscene hindex hnumber 0
  rwa [place, place, List.take_length] at hlast

/-- A scene that is found has a number. -/
theorem exists_number {id : String} (hknown : story.scene? id = some scene) :
    ∃ number : Nat, story.scenes[number]? = some scene ∧ scene.id = id := by
  obtain ⟨number, hscene⟩ := List.getElem?_of_mem (List.mem_of_find?_eq_some hknown)
  exact ⟨number, hscene, Playthrough.id_of_scene? hknown⟩

end Story

namespace Playthrough

/-! ## Standing at a place -/

/-- A playthrough that goes on with a dialogue on screen, in the scene with a number. -/
structure StandsAt (story : Story) (playthrough : Playthrough) (number : Nat) (scene : Scene)
    (dialogue : Dialogue) : Prop where
  unfinished : playthrough.progress.ended = false
  numbered : story.scenes[number]? = some scene
  loaded : playthrough.stage.cursor.scene = some scene
  current : scene.dialogues[playthrough.stage.cursor.index]? = some dialogue
  active : playthrough.stage.cursor.phase.isActive = true
  showing : playthrough.stage.cursor.offered = [] → playthrough.stage.cursor.phase = .showing
  authored : ∀ choice ∈ playthrough.stage.cursor.offered, choice ∈ dialogue.choices

/-- The playthrough has ended or stands at a place that is not before the bound. -/
def Beyond (story : Story) (bound : Nat) (playthrough : Playthrough) : Prop :=
  playthrough.progress.ended = true ∨
    ∃ number scene dialogue, StandsAt story playthrough number scene dialogue ∧
      bound ≤ story.place number playthrough.stage.cursor.index

theorem Beyond.of_ended {story : Story} {playthrough : Playthrough}
    (hended : playthrough.progress.ended = true) (bound : Nat) : Beyond story bound playthrough :=
  .inl hended

theorem Beyond.of_le {story : Story} {bound later : Nat} {playthrough : Playthrough}
    (hbeyond : Beyond story later playthrough) (hle : bound ≤ later) :
    Beyond story bound playthrough := by
  rcases hbeyond with hended | ⟨number, scene, dialogue, hstands, hplace⟩
  · exact .inl hended
  · exact .inr ⟨number, scene, dialogue, hstands, Nat.le_trans hle hplace⟩

/-- There is no place behind the last dialogue. -/
theorem Beyond.ended_of_le {story : Story} {bound : Nat} {playthrough : Playthrough}
    (hbeyond : Beyond story bound playthrough) (hbound : story.dialogueCount ≤ bound) :
    playthrough.progress.ended = true := by
  rcases hbeyond with hended | ⟨number, scene, dialogue, hstands, hplace⟩
  · exact hended
  · obtain ⟨hindex, -⟩ := List.getElem?_eq_some_iff.mp hstands.current
    have hlast := Story.place_lt_dialogueCount hstands.numbered hindex
    omega

section Steps

variable {script : Script} {playthrough : Playthrough} {number bound : Nat} {scene : Scene}
  {dialogue : Dialogue} {reply : Reply Playthrough Unit}

/-- Arriving shows a dialogue at the place or behind it. -/
theorem Arrival.beyond {placed : Cursor} (harrival : Arrival playthrough scene placed reply)
    (hok : reply.result = .ok ()) (hopen : playthrough.progress.ended = false)
    (hplaced : placed.scene = some scene) {story : Story}
    (hnumbered : story.scenes[number]? = some scene)
    (hbound : bound ≤ story.place number placed.index) : Beyond story bound reply.state := by
  cases harrival with
  | stuck error hsearch => simp at hok
  | past index hsearch => exact .of_ended (ended_finished _ _) bound
  | shown index dialogue choices hsearch =>
      have hfrom : placed.index ≤ index := (Cursor.search_found hsearch).1
      have hvisible := Cursor.searchScene_visible hsearch
      refine .inr ⟨number, scene, dialogue, ?_, Nat.le_trans hbound (Nat.add_le_add_left hfrom _)⟩
      constructor
      · exact hopen
      · exact hnumbered
      · exact hplaced
      · exact hvisible.at_index
      · exact Cursor.isActive_offering placed index choices
      · intro hnone
        have hchoices : choices = [] := hnone
        simp [Cursor.offering, hchoices]
      · intro choice hmem
        have hoffered : choice ∈ choices := hmem
        rw [hvisible.choices_eq] at hoffered
        exact (List.mem_filter.mp hoffered).1

theorem beyond_loadScene (hopen : playthrough.progress.ended = false)
    (hlively : script.depletes playthrough.stage.store = false) (id : String)
    (hok : ((loadScene script id).run playthrough).result = .ok ()) :
    Beyond script.story 0 ((loadScene script id).run playthrough).state := by
  cases hstory : script.story.scene? id with
  | none =>
      rw [run_loadScene_of_unknown hopen hlively hstory]
      exact .of_ended (ended_cutShort playthrough .referenceFailure) 0
  | some scene =>
      obtain ⟨reply, harrival, hrun⟩ := run_loadScene_of_known hopen hlively hstory
      obtain ⟨number, hnumbered, -⟩ := Story.exists_number hstory
      rw [hrun] at hok ⊢
      exact harrival.beyond hok hopen rfl hnumbered (Nat.zero_le _)

/-- A start that succeeds shows a dialogue or ends the playthrough. -/
theorem beyond_start (hopen : playthrough.progress.ended = false)
    (hok : ((start script).run playthrough).result = .ok ()) :
    Beyond script.story 0 ((start script).run playthrough).state := by
  rw [start] at hok ⊢
  cases hdepletes : script.depletes playthrough.stage.store with
  | true =>
      rw [run_unlessOver_of_depleted hopen hdepletes]
      exact .of_ended (ended_cutShort playthrough .statDepleted) 0
  | false =>
      rw [run_unlessOver_of_lively hopen hdepletes] at hok ⊢
      simp only at hok ⊢
      cases hfirst : (script.settings.startScene <|> script.story.firstScene?.map Scene.id) with
      | some id =>
          rw [hfirst] at hok
          exact beyond_loadScene hopen hdepletes id hok
      | none =>
          simp only
          rw [run_finish_of_open _ hopen]
          exact .of_ended (ended_finished playthrough .scenarioComplete) 0

/-- Without an offered choice, advancing leads to a later place. -/
theorem StandsAt.beyond_advance (hstands : StandsAt script.story playthrough number scene dialogue)
    (hoffered : playthrough.stage.cursor.offered = [])
    (hok : ((advance script).run playthrough).result = .ok ()) :
    Beyond script.story (script.story.place number playthrough.stage.cursor.index + 1)
      ((advance script).run playthrough).state := by
  cases hdepletes : script.depletes playthrough.stage.store with
  | true =>
      rw [advance, run_unlessOver_of_depleted hstands.unfinished hdepletes]
      exact .of_ended (ended_cutShort playthrough .statDepleted) _
  | false =>
      exact (arrival_advance hstands.unfinished hdepletes (hstands.showing hoffered)
        hstands.loaded).beyond hok hstands.unfinished hstands.loaded hstands.numbered
          (Nat.le_refl _)

/-- The place for a target that leads forward lies ahead. -/
theorem lt_placeFor {cursor : Cursor} {target : Target} {story : Story}
    (hloaded : cursor.scene = some scene)
    (hforward : target.Forward story (scene, number) cursor.index) :
    cursor.index < (placeFor cursor target).1 := by
  rw [placeFor]
  cases hdialogue : target.dialogue with
  | none => exact Nat.lt_succ_self _
  | some id =>
      simp only
      cases hposition : cursor.position? id with
      | none => exact Nat.lt_succ_self _
      | some place =>
          rw [Cursor.position?, hloaded, Option.bind_some] at hposition
          exact hforward.1 id hdialogue place hposition

/-- A departure for a target that leads forward comes to a later place. -/
theorem Departure.beyond {target : Target}
    (hdeparture : Departure script playthrough target reply) (hok : reply.result = .ok ())
    (hopen : playthrough.progress.ended = false)
    (hnumbered : script.story.scenes[number]? = some scene)
    (hloaded : playthrough.stage.cursor.scene = some scene)
    (hcurrent : playthrough.stage.cursor.index < scene.dialogues.length)
    (hforward : target.Forward script.story (scene, number) playthrough.stage.cursor.index) :
    Beyond script.story (script.story.place number playthrough.stage.cursor.index + 1)
      reply.state := by
  cases hdeparture with
  | depleted hdepleted => exact .of_ended (ended_cutShort playthrough .statDepleted) _
  | moved hlively hstays other hother reply harrival =>
      obtain rfl : other = scene := Option.some.inj (hother.symm.trans hloaded)
      have hahead := lt_placeFor hloaded hforward
      refine harrival.beyond hok hopen hother hnumbered ?_
      simp only [Story.place]
      omega
  | entered hlively hleaves id htarget entered hknown reply harrival =>
      obtain ⟨later, hlater, hid⟩ := Story.exists_number hknown
      have hahead : number < later :=
        hforward.2 id htarget (entered, later) (List.mem_zipIdx_iff_getElem?.mpr hlater) hid
      exact harrival.beyond hok hopen rfl hlater
        (Story.place_lt_of_later hnumbered hcurrent hahead 0)
  | lost hlively hleaves id htarget hunknown =>
      have hended : (playthrough.cutShort .referenceFailure).noted.progress.ended = true :=
        ended_cutShort playthrough .referenceFailure
      exact .of_ended hended _

/-- The target after the die of a choice is one of its targets. -/
theorem targetAfter_mem (choice : Choice) (outcome : Option DiceOutcome) :
    targetAfter choice outcome ∈ choice.targets := by
  have hbranch : ∀ branch : Option Target, (∀ target ∈ branch, target ∈ choice.targets) →
      (branch.filter fun target => !target.isEmpty).getD choice.target ∈ choice.targets := by
    intro branch hmem
    cases hfilter : branch.filter fun target => !target.isEmpty with
    | none => exact List.mem_cons_self
    | some target => exact hmem target (Option.filter_eq_some_iff.mp hfilter).1
  match outcome with
  | none => exact hbranch none (by simp)
  | some .success =>
      exact hbranch (choice.check.bind DiceCheck.success) fun target htarget =>
        List.mem_append_left _ (List.mem_cons_of_mem _ (Option.mem_toList.mpr htarget))
  | some .failure =>
      exact hbranch (choice.check.bind DiceCheck.failure) fun target htarget =>
        List.mem_append_right _ (Option.mem_toList.mpr htarget)

/-- An offered choice that is taken leads to a later place. -/
theorem StandsAt.beyond_makeChoice
    (hstands : StandsAt script.story playthrough number scene dialogue)
    (hforward : script.story.ForwardOnly) {choice : Choice}
    (hoffered : choice ∈ playthrough.stage.cursor.offered) (time : Timestamp)
    (hok : ((makeChoice script time choice).run playthrough).result = .ok ()) :
    Beyond script.story (script.story.place number playthrough.stage.cursor.index + 1)
      ((makeChoice script time choice).run playthrough).state := by
  have hopen := hstands.unfinished
  cases hdepletes : script.depletes playthrough.stage.store with
  | true =>
      rw [makeChoice, run_unlessOver_of_depleted hopen hdepletes]
      exact .of_ended (ended_cutShort playthrough .statDepleted) _
  | false =>
      have hphase : playthrough.stage.cursor.phase ≠ .idle :=
        Phase.ne_idle_of_isActive hstands.active
      cases hvalid : Effect.validate choice.effects with
      | error error =>
          rw [run_makeChoice_of_refused time hopen hdepletes hphase hvalid] at hok
          cases hok
      | ok valid =>
          obtain ⟨outcome, store, generator, events, -, -, -, hrun⟩ :=
            run_makeChoice_of_valid time hopen hdepletes hphase hvalid
          obtain ⟨hindex, -⟩ := List.getElem?_eq_some_iff.mp hstands.current
          have hahead : (targetAfter choice outcome).Forward script.story (scene, number)
              playthrough.stage.cursor.index :=
            hforward (scene, number) (List.mem_zipIdx_iff_getElem?.mpr hstands.numbered)
              (dialogue, playthrough.stage.cursor.index)
              (List.mem_zipIdx_iff_getElem?.mpr hstands.current) choice
              (hstands.authored choice hoffered) _ (targetAfter_mem choice outcome)
          have hdeparture : Departure script
              (playthrough.taken time choice { playthrough.stage with store, generator })
              (targetAfter choice outcome) _ :=
            departure_depart hopen hstands.active hstands.loaded
          rw [hrun] at hok ⊢
          exact hdeparture.beyond hok hopen hstands.numbered hstands.loaded hindex hahead

theorem Beyond.advance (hbeyond : Beyond script.story bound playthrough)
    (hoffered : playthrough.stage.cursor.offered = [])
    (hok : ((advance script).run playthrough).result = .ok ()) :
    Beyond script.story (bound + 1) ((advance script).run playthrough).state := by
  rcases hbeyond with hended | ⟨number, scene, dialogue, hstands, hplace⟩
  · rw [Playthrough.advance, run_unlessOver_of_ended hended]
    exact .of_ended hended _
  · exact (hstands.beyond_advance hoffered hok).of_le (Nat.succ_le_succ hplace)

theorem Beyond.makeChoice (hbeyond : Beyond script.story bound playthrough)
    (hforward : script.story.ForwardOnly) {choice : Choice}
    (hoffered : choice ∈ playthrough.stage.cursor.offered) (time : Timestamp)
    (hok : ((makeChoice script time choice).run playthrough).result = .ok ()) :
    Beyond script.story (bound + 1) ((makeChoice script time choice).run playthrough).state := by
  rcases hbeyond with hended | ⟨number, scene, dialogue, hstands, hplace⟩
  · rw [Playthrough.makeChoice, run_unlessOver_of_ended hended]
    exact .of_ended hended _
  · exact (hstands.beyond_makeChoice hforward hoffered time hok).of_le (Nat.succ_le_succ hplace)

theorem Beyond.choose (hbeyond : Beyond script.story bound playthrough)
    (hforward : script.story.ForwardOnly) (time : Timestamp) (place : Nat)
    (hchosen : ((choose script time place).run playthrough).result = .ok true) :
    Beyond script.story (bound + 1) ((choose script time place).run playthrough).state := by
  rw [run_choose] at hchosen ⊢
  cases hoffered : playthrough.stage.cursor.offered[place]? with
  | none => simp [hoffered] at hchosen
  | some choice =>
      simp only [hoffered] at hchosen ⊢
      refine hbeyond.makeChoice hforward (List.mem_of_getElem? hoffered) time ?_
      cases hresult : ((Playthrough.makeChoice script time choice).run playthrough).result with
      | error error => simp [hresult, Except.map] at hchosen
      | ok value => rfl

end Steps

end Playthrough

/-! ## Playing to the end -/

namespace Director

variable {World : Type} {director reached next : Director World}

/-- The steps of a player who meets no error: an offered choice is taken, and where none is offered
the director advances.  The world of the handlers is any at each step. -/
inductive Walk : Nat → Director World → Director World → Prop where
  | stay (director : Director World) : Walk 0 director director
  | choose (steps : Nat) (director reached next : Director World)
      (hwalk : Walk steps director reached) (time : Timestamp) (place : Nat) (world later : World)
      (hchosen : reached.choose time place world = (.ok true, next, later)) :
      Walk (steps + 1) director next
  | advance (steps : Nat) (director reached next : Director World)
      (hwalk : Walk steps director reached) (world later : World)
      (hoffered : reached.cursor.offered = [])
      (hadvanced : reached.advance world = (.ok (), next, later)) :
      Walk (steps + 1) director next

/-- The director has ended or stands at a place that is not before the bound. -/
def Beyond (bound : Nat) (director : Director World) : Prop :=
  director.playthrough.Beyond director.script.story bound

theorem of_perform {Value : Type} {step : Playing Playthrough Value} {world later : World}
    {result : Except PlaybackError Value}
    (hperformed : director.perform step world = (result, next, later)) :
    (step.run director.playthrough).result = result ∧
      next.playthrough = (step.run director.playthrough).state ∧
        next.script = director.script := by
  simp only [perform, Prod.mk.injEq] at hperformed
  obtain ⟨hresult, rfl, -⟩ := hperformed
  exact ⟨hresult, rfl, rfl⟩

section Rounds

variable {bound limit : Nat} {world later : World} {time : Timestamp}

theorem Beyond.choose (hbeyond : director.Beyond bound)
    (hforward : director.script.story.ForwardOnly) {place : Nat}
    (hchosen : director.choose time place world = (.ok true, next, later)) :
    next.Beyond (bound + 1) ∧ next.script = director.script := by
  obtain ⟨hresult, hstate, hscript⟩ := of_perform hchosen
  rw [Director.Beyond, hstate, hscript]
  exact ⟨Playthrough.Beyond.choose hbeyond hforward time place hresult, rfl⟩

theorem Beyond.advance (hbeyond : director.Beyond bound) (hoffered : director.cursor.offered = [])
    (hadvanced : director.advance world = (.ok (), next, later)) :
    next.Beyond (bound + 1) ∧ next.script = director.script := by
  obtain ⟨hresult, hstate, hscript⟩ := of_perform hadvanced
  rw [Director.Beyond, hstate, hscript]
  exact ⟨Playthrough.Beyond.advance hbeyond hoffered hresult, rfl⟩

/-- Every step of a walk comes to a later place. -/
theorem Walk.beyond {steps : Nat} (hwalk : Walk steps director reached)
    (hforward : director.script.story.ForwardOnly) (hbeyond : director.Beyond bound) :
    reached.Beyond (bound + steps) ∧ reached.script = director.script := by
  induction hwalk with
  | stay director => exact ⟨hbeyond, rfl⟩
  | choose steps director reached next hwalk time place world later hchosen ih =>
      obtain ⟨hreached, hscript⟩ := ih hforward hbeyond
      rw [← hscript] at hforward ⊢
      exact hreached.choose hforward hchosen
  | advance steps director reached next hwalk world later hoffered hadvanced ih =>
      obtain ⟨hreached, hscript⟩ := ih hforward hbeyond
      rw [← hscript]
      exact hreached.advance hoffered hadvanced

/-- A round that takes the first choice, if there is one, comes to a later place. -/
theorem Beyond.playRound (hbeyond : director.Beyond bound)
    (hforward : director.script.story.ForwardOnly)
    (hplayed : director.playRound time 0 world = (.ok (), next, later)) :
    next.Beyond (bound + 1) ∧ next.script = director.script := by
  cases hoffered : director.cursor.offered with
  | nil =>
      rw [Director.playRound, choose_of_missing (by simp [hoffered])] at hplayed
      exact hbeyond.advance hoffered hplayed
  | cons choice rest =>
      have hfirst : director.cursor.offered[0]? = some choice := by
        rw [hoffered]
        rfl
      have hmade := choose_of_offered hfirst time world
      rcases hmake : director.makeChoice time choice world with ⟨result, reached, left⟩
      rw [hmake] at hmade
      cases result with
      | error error => simp [Director.playRound, hmade, Except.map] at hplayed
      | ok value =>
          have hchosen : director.choose time 0 world = (.ok true, reached, left) := hmade
          rw [Director.playRound, hchosen] at hplayed
          cases hplayed
          exact hbeyond.choose hforward hchosen

/-- With as many rounds as there are dialogues at the bound and behind it, playing on without a
player fails or comes to the end. -/
theorem Beyond.autoplay (hbeyond : director.Beyond bound)
    (hforward : director.script.story.ForwardOnly)
    (henough : director.script.story.dialogueCount ≤ bound + limit) {rounds : Nat}
    (hplayed : autoplay time 0 limit director world = (.ok rounds, reached, later)) :
    rounds ≤ limit ∧ reached.isEnded = true := by
  induction limit generalizing director world bound rounds later with
  | zero =>
      cases hplayed
      exact ⟨Nat.le_refl 0, hbeyond.ended_of_le henough⟩
  | succ limit ih =>
      rw [Director.autoplay] at hplayed
      cases hended : director.isEnded with
      | true =>
          simp only [hended, if_true] at hplayed
          cases hplayed
          exact ⟨Nat.zero_le _, hended⟩
      | false =>
          simp only [hended, Bool.false_eq_true, if_false] at hplayed
          rcases hround : director.playRound time 0 world with ⟨result, next, left⟩
          rw [hround] at hplayed
          cases result with
          | error error => simp at hplayed
          | ok value =>
              obtain ⟨hnext, hscript⟩ := hbeyond.playRound hforward hround
              rw [← hscript] at hforward henough
              rcases hrest : Director.autoplay time 0 limit next left with ⟨rest, last, final⟩
              simp only [hrest] at hplayed
              cases rest with
              | error error => simp [Except.map] at hplayed
              | ok played =>
                  cases hplayed
                  obtain ⟨hplayed, hlast⟩ := ih hnext hforward (by omega) hrest
                  exact ⟨Nat.succ_le_succ hplayed, hlast⟩

/-- More rounds than there are dialogues make no difference. -/
theorem Beyond.autoplay_eq (hbeyond : director.Beyond bound)
    (hforward : director.script.story.ForwardOnly)
    (henough : director.script.story.dialogueCount ≤ bound + limit) (more : Nat) :
    Director.autoplay time 0 (limit + more) director world =
      Director.autoplay time 0 limit director world := by
  induction limit generalizing director world bound with
  | zero =>
      have hended : director.isEnded = true := hbeyond.ended_of_le henough
      cases more with
      | zero => rfl
      | succ more => simp [Director.autoplay, hended]
  | succ limit ih =>
      rw [Nat.add_right_comm, Director.autoplay, Director.autoplay]
      cases hended : director.isEnded with
      | true => rfl
      | false =>
          rcases hround : director.playRound time 0 world with ⟨result, next, left⟩
          cases result with
          | error error => rfl
          | ok value =>
              obtain ⟨hnext, hscript⟩ := hbeyond.playRound hforward hround
              rw [← hscript] at hforward henough
              simp only [Bool.false_eq_true, if_false, ih hnext hforward (by omega)]

end Rounds

/-- A story that leads forward only comes to its end.  After a start that succeeds, the director has
ended as soon as as many steps were made as the story has dialogues, each of them an offered choice
taken or an advance where nothing is offered.  Playing on without a player needs no more rounds
either, if it does not fail. -/
theorem ends_of_forwardOnly (hbegun : director.Begun)
    (hforward : director.script.story.ForwardOnly) {world later : World}
    (hstarted : director.start world = (.ok (), reached, later)) :
    let count := director.script.story.dialogueCount
    (∀ steps last, Walk steps reached last → count ≤ steps → last.isEnded = true) ∧
    ∀ time,
      (∀ world rounds last left, autoplay time 0 count reached world = (.ok rounds, last, left) →
        rounds ≤ count ∧ last.isEnded = true) ∧
      ∀ limit world, count ≤ limit →
        autoplay time 0 limit reached world = autoplay time 0 count reached world := by
  intro count
  obtain ⟨hresult, hstate, hscript⟩ := of_perform hstarted
  obtain ⟨unseeded, hfresh⟩ := hbegun.playthrough_eq
  have hopen : director.playthrough.progress.ended = false := by
    rw [hfresh]
    rfl
  have hbeyond : reached.Beyond 0 := by
    rw [Beyond, hstate, hscript]
    exact Playthrough.beyond_start hopen hresult
  have hcount : reached.script.story.dialogueCount = count := by rw [hscript]
  rw [← hscript] at hforward
  refine ⟨fun steps last hwalk hlong => ?_, fun time => ⟨fun world rounds last left hplayed => ?_,
    fun limit world hlimit => ?_⟩⟩
  · obtain ⟨hlast, hsame⟩ := hwalk.beyond hforward hbeyond
    refine hlast.ended_of_le ?_
    rw [hsame, hcount]
    omega
  · exact hbeyond.autoplay hforward (by omega) hplayed
  · obtain ⟨more, rfl⟩ := Nat.exists_eq_add_of_le hlimit
    exact hbeyond.autoplay_eq hforward (by omega) more

/-- The director of the city tour. -/
def toured : Director (List String) :=
  opened Tour.story { Tour.settings with seed := some Tour.seed } Tour.channel (.ofSeed Tour.seed)

/-- The city tour leads forward only, and the limit of its rounds cuts nothing off. -/
theorem toured_ends :
    Tour.story.ForwardOnly ∧ (toured.start []).1.isOk = true ∧
      let started := (toured.start []).2.1
      (∀ steps last, Walk steps started last → 13 ≤ steps → last.isEnded = true) ∧
        ∀ time world, autoplay time 0 Tour.roundLimit started world =
          autoplay time 0 13 started world := by
  have hbegun : toured.Begun := begun_opened Tour.story Tour.channel _ (by decide +kernel)
  have hforward : Tour.story.ForwardOnly := by
    unfold Story.ForwardOnly Target.Forward
    decide +kernel
  have hok : (toured.start []).1.isOk = true := by decide +kernel
  have hstarted : toured.start [] = (.ok (), (toured.start []).2.1, (toured.start []).2.2) :=
    Prod.ext (isOk_iff.mp hok) rfl
  have hends := ends_of_forwardOnly hbegun hforward hstarted
  refine ⟨hforward, hok, hends.1, fun time world => (hends.2 time).2 Tour.roundLimit world ?_⟩
  decide +kernel

end Director

end BranchingStory
