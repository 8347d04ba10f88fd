import BranchingStory.Proofs.Ending
import BranchingStory.Proofs.Taking

/-!
# Following the cursor

The progress notes where the cursor stands: its scene, its index and the id of the dialogue on
screen.  Calls that succeed keep the scene and the index in step with the cursor.  The id is left
behind by one kind of call: one that ends the playthrough for a depleted stat, or for a missing
scene to which no choice led, while a dialogue with an id is on screen.  Such a call takes the
dialogue off the screen and notes nothing.  A choice that leads to a missing scene does note it.
-/

namespace BranchingStory

/-- The id of the dialogue on screen, if there is one and it has an id. -/
def Cursor.shownId (cursor : Cursor) : Option String := cursor.dialogue?.bind Dialogue.id

namespace Playthrough

/-- The progress says where the cursor stands. -/
structure Followed (playthrough : Playthrough) : Prop where
  scene : playthrough.progress.scene = playthrough.stage.cursor.sceneId
  index : playthrough.progress.dialogueIndex = playthrough.stage.cursor.index
  id : playthrough.progress.dialogueId = playthrough.stage.cursor.shownId

/-- The screen was cleared and the progress says what it said before. -/
structure Unnoted (playthrough reached : Playthrough) : Prop where
  cursor : reached.stage.cursor = playthrough.stage.cursor.finish
  scene : reached.progress.scene = playthrough.progress.scene
  index : reached.progress.dialogueIndex = playthrough.progress.dialogueIndex
  id : reached.progress.dialogueId = playthrough.progress.dialogueId

/-- A call that ends a playthrough for a depleted stat, or for a missing scene without taking a
choice. -/
structure CutsShort (playthrough : Playthrough) (reply : Reply Playthrough Unit) : Prop where
  unfinished : playthrough.progress.ended = false
  reason : reply.state.progress.endReason = some .statDepleted ∨
    (reply.state.progress.endReason = some .referenceFailure ∧
      reply.state.progress.history = playthrough.progress.history)

section Notes

variable {playthrough : Playthrough}

theorem followed_noted (hscene : playthrough.progress.scene = playthrough.stage.cursor.sceneId) :
    Followed playthrough.noted where
  scene := hscene
  index := rfl
  id := rfl

/-- The end of a playthrough does not touch the place that was noted. -/
theorem place_finish (progress : Progress) (reason : EndReason) :
    (progress.finish reason).scene = progress.scene ∧
      (progress.finish reason).dialogueIndex = progress.dialogueIndex ∧
      (progress.finish reason).dialogueId = progress.dialogueId := by
  rw [Progress.finish]
  split
  · exact ⟨rfl, rfl, rfl⟩
  · exact ⟨rfl, rfl, rfl⟩

theorem Followed.finished (hfollowed : Followed playthrough) (reason : EndReason) :
    Followed (playthrough.finished reason) := by
  obtain ⟨hscene, hindex, hid⟩ := place_finish playthrough.progress reason
  exact ⟨hscene.trans hfollowed.scene, hindex.trans hfollowed.index, hid.trans hfollowed.id⟩

theorem unnoted_cutShort (playthrough : Playthrough) (reason : EndReason) :
    Unnoted playthrough (playthrough.cutShort reason) := by
  obtain ⟨hscene, hindex, hid⟩ := place_finish playthrough.progress reason
  exact ⟨rfl, hscene, hindex, hid⟩

theorem shownId_finish (cursor : Cursor) : cursor.finish.shownId = none := rfl

theorem CutsShort.ended {reply : Reply Playthrough Unit} (hcuts : CutsShort playthrough reply)
    (hreason : reply.state.progress.ended = reply.state.progress.endReason.isSome) :
    reply.state.progress.ended = true := by
  rw [hreason]
  rcases hcuts.reason with hdepleted | ⟨hlost, _⟩
  · rw [hdepleted]
    rfl
  · rw [hlost]
    rfl

/-- Notes about a cleared screen are right unless they have kept the id of a dialogue. -/
theorem Unnoted.id_iff {reached : Playthrough} (hunnoted : Unnoted playthrough reached)
    (hfollowed : Followed playthrough) :
    reached.progress.dialogueId = reached.stage.cursor.shownId ↔
      playthrough.stage.cursor.shownId = none := by
  rw [hunnoted.cursor, shownId_finish, hunnoted.id, hfollowed.id]

end Notes

/-! ## Which turns are noted -/

section Turns

variable {script : Script} {playthrough : Playthrough}

theorem not_cutsShort_of_reason {reply : Reply Playthrough Unit}
    (hreason : reply.state.progress.endReason = none ∨
      reply.state.progress.endReason = some .scenarioComplete) :
    ¬ CutsShort playthrough reply := by
  rintro ⟨_, hdepleted | ⟨hlost, _⟩⟩
  · simp [hdepleted] at hreason
  · simp [hlost] at hreason

theorem ne_statDepleted {reason : Option EndReason}
    (hreason : reason = none ∨ reason = some .scenarioComplete) : reason ≠ some .statDepleted := by
  rcases hreason with rfl | rfl <;> simp

/-- An arrival that succeeds is noted; it may end the playthrough with its scene. -/
theorem Arrival.followed {scene : Scene} {placed : Cursor} {reply : Reply Playthrough Unit}
    (harrival : Arrival playthrough scene placed reply) (hok : reply.result = .ok ())
    (hopen : playthrough.progress.ended = false)
    (hreason : playthrough.progress.endReason = none)
    (hnoted : playthrough.progress.scene = placed.sceneId) :
    Followed reply.state ∧
      (reply.state.progress.endReason = none ∨
        reply.state.progress.endReason = some .scenarioComplete) := by
  cases harrival with
  | stuck error hsearch => simp at hok
  | past index hsearch =>
      refine ⟨?_, .inr (endReason_pastEnd hopen placed index)⟩
      apply Followed.finished
      exact followed_noted hnoted
  | shown index dialogue choices hsearch => exact ⟨followed_noted hnoted, .inl hreason⟩

/-- A departure that succeeds is noted, except that of a choice that depletes a stat. -/
theorem Departure.followed_or_depleted {target : Target} {reply : Reply Playthrough Unit}
    (hdeparture : Departure script playthrough target reply) (hok : reply.result = .ok ())
    (hopen : playthrough.progress.ended = false)
    (hreason : playthrough.progress.endReason = none)
    (hnoted : playthrough.progress.scene = playthrough.stage.cursor.sceneId) :
    (Followed reply.state ∧ reply.state.progress.endReason ≠ some .statDepleted) ∨
      (Unnoted playthrough reply.state ∧
        reply.state.progress.endReason = some .statDepleted) := by
  cases hdeparture with
  | depleted hdepleted =>
      exact .inr ⟨unnoted_cutShort playthrough .statDepleted,
        endReason_cutShort hopen .statDepleted⟩
  | moved hlively hstays scene hscene reply harrival =>
      obtain ⟨hfollowed, hended⟩ := harrival.followed hok hopen hreason hnoted
      exact .inl ⟨hfollowed, ne_statDepleted hended⟩
  | entered hlively hleaves id htarget scene hknown reply harrival =>
      obtain ⟨hfollowed, hended⟩ := harrival.followed hok hopen hreason rfl
      exact .inl ⟨hfollowed, ne_statDepleted hended⟩
  | lost hlively hleaves id htarget hunknown =>
      have hcut := unnoted_cutShort playthrough .referenceFailure
      refine .inl ⟨followed_noted ?_, ?_⟩
      · rw [hcut.scene, hnoted, hcut.cursor]
        rfl
      · rw [noted_endReason, endReason_cutShort hopen]
        simp

/-- A turn that succeeds is noted, or it cuts the playthrough short. -/
theorem Turn.followed_or_cutsShort {reply : Reply Playthrough Unit}
    (hturn : Turn script playthrough reply) (hok : reply.result = .ok ())
    (hcoherent : Coherent script playthrough) (hfollowed : Followed playthrough) :
    (Followed reply.state ∧ ¬ CutsShort playthrough reply) ∨
      (Unnoted playthrough reply.state ∧ CutsShort playthrough reply) := by
  have hnone : playthrough.progress.ended = false → playthrough.progress.endReason = none := by
    intro hopen
    simpa [hopen] using hcoherent.reason
  cases hturn with
  | ignored =>
      refine .inl ⟨hfollowed, ?_⟩
      intro hcuts
      exact not_cutsShort_of_reason (.inl (hnone hcuts.unfinished)) hcuts
  | refused error => simp at hok
  | depleted hopen hdepleted =>
      exact .inr ⟨unnoted_cutShort playthrough .statDepleted, hopen,
        .inl (endReason_cutShort hopen .statDepleted)⟩
  | exhausted hopen hlively hempty =>
      refine .inl ⟨hfollowed.finished .scenarioComplete, ?_⟩
      exact not_cutsShort_of_reason (.inr (endReason_finished hopen .scenarioComplete))
  | waited hopen hlively hphase =>
      exact .inl ⟨followed_noted hfollowed.scene, not_cutsShort_of_reason (.inl (hnone hopen))⟩
  | advanced hopen hlively hphase scene hscene reply harrival =>
      obtain ⟨harrived, hreason⟩ := harrival.followed hok hopen (hnone hopen) hfollowed.scene
      exact .inl ⟨harrived, not_cutsShort_of_reason hreason⟩
  | entered hopen hlively id scene hknown reply harrival =>
      obtain ⟨harrived, hreason⟩ := harrival.followed hok hopen (hnone hopen) rfl
      exact .inl ⟨harrived, not_cutsShort_of_reason hreason⟩
  | lost hopen hlively id hunknown =>
      exact .inr ⟨unnoted_cutShort playthrough .referenceFailure, hopen,
        .inr ⟨endReason_cutShort hopen .referenceFailure,
          history_finish playthrough.progress .referenceFailure⟩⟩
  | took hopen hlively hactive scene hscene time choice hvalid outcome store generator events
      hsettled hsettling reply hdeparture =>
      have hrecorded := hdeparture.sameTaken.history
      rcases hdeparture.followed_or_depleted hok hopen (hnone hopen) hfollowed.scene with
        ⟨hdeparted, hreason⟩ | ⟨hunnoted, hreason⟩
      · refine .inl ⟨hdeparted, ?_⟩
        rintro ⟨_, hdepleted | ⟨_, hhistory⟩⟩
        · exact hreason hdepleted
        · -- A choice was taken, so the history has grown.
          rw [hrecorded] at hhistory
          simp [taken, Progress.record] at hhistory
      · exact .inr ⟨⟨hunnoted.cursor, hunnoted.scene, hunnoted.index, hunnoted.id⟩, hopen,
          .inl hreason⟩

end Turns

end Playthrough

/-! ## Which runs are noted -/

/-- A call that takes a dialogue off the screen and keeps its id in the progress. -/
structure Playthrough.Overlooks (playthrough : Playthrough) (reply : Reply Playthrough Unit) :
    Prop where
  cut : CutsShort playthrough reply
  shown : playthrough.stage.cursor.shownId ≠ none

theorem Playthrough.overlooks_iff {playthrough : Playthrough} {reply : Reply Playthrough Unit}
    (hcuts : CutsShort playthrough reply) :
    playthrough.Overlooks reply ↔ playthrough.stage.cursor.shownId ≠ none :=
  ⟨Overlooks.shown, fun hshown => ⟨hcuts, hshown⟩⟩

/-- One of the calls overlooks the dialogue that it takes off the screen. -/
def OverlookedBy (script : Script) (playthrough : Playthrough) (calls : List Call) : Prop :=
  ∃ before call rest, calls = before ++ call :: rest ∧
    let met := (Chronicle.extendAll script { playthrough } before).playthrough
    met.Overlooks ((call.step script).run met)

namespace Chronicle

variable {script : Script} {playthrough : Playthrough}

/-- The first call overlooks what is on screen, or a later one does. -/
theorem overlookedBy_cons {call : Call} {rest : List Call} :
    OverlookedBy script playthrough (call :: rest) ↔
      playthrough.Overlooks ((call.step script).run playthrough) ∨
        OverlookedBy script ((call.step script).run playthrough).state rest := by
  constructor
  · rintro ⟨before, other, after, hcalls, hoverlooks⟩
    cases before with
    | nil =>
        obtain ⟨rfl, rfl⟩ := List.cons.inj hcalls
        exact .inl hoverlooks
    | cons first others =>
        obtain ⟨rfl, rfl⟩ := List.cons.inj hcalls
        rw [extendAll_first] at hoverlooks
        exact .inr ⟨others, other, after, rfl, hoverlooks⟩
  · rintro (hoverlooks | ⟨before, other, after, rfl, hoverlooks⟩)
    · exact ⟨[], call, rest, rfl, hoverlooks⟩
    · refine ⟨call :: before, other, after, rfl, ?_⟩
      rw [extendAll_first]
      exact hoverlooks

/-- After the end calls lead nowhere. -/
theorem playthrough_extendAll_of_ended (hcoherent : Playthrough.Coherent script playthrough)
    (hended : playthrough.progress.ended = true) (calls : List Call) :
    (extendAll script { playthrough } calls).playthrough = playthrough := by
  apply extendAll_induction (motive := fun later => later.playthrough = playthrough)
  · intro later reply _ hturn hsame
    rw [hsame] at hturn
    exact (hturn.quiet hended).1
  · exact hcoherent
  · rfl

theorem not_overlookedBy_of_ended (hcoherent : Playthrough.Coherent script playthrough)
    (hended : playthrough.progress.ended = true) (calls : List Call) :
    ¬ OverlookedBy script playthrough calls := by
  rintro ⟨before, call, rest, rfl, hoverlooks⟩
  have hunfinished := hoverlooks.cut.unfinished
  rw [playthrough_extendAll_of_ended hcoherent hended before, hended] at hunfinished
  cases hunfinished

/-- Calls that succeed keep the scene and the index in step with the cursor, and the id too unless
one of them overlooks a dialogue. -/
theorem followed_iff_extendAll (hcoherent : Playthrough.Coherent script playthrough)
    (hfollowed : playthrough.Followed) {calls : List Call}
    (hok : (extendAll script { playthrough } calls).allOk) :
    let reached := (extendAll script { playthrough } calls).playthrough
    reached.progress.scene = reached.stage.cursor.sceneId ∧
      reached.progress.dialogueIndex = reached.stage.cursor.index ∧
      (reached.progress.dialogueId = reached.stage.cursor.shownId ↔
        ¬ OverlookedBy script playthrough calls) := by
  induction calls generalizing playthrough with
  | nil =>
      have hnone : ¬ OverlookedBy script playthrough [] := by
        rintro ⟨before, call, rest, hcalls, _⟩
        simp at hcalls
      exact ⟨hfollowed.scene, hfollowed.index, iff_of_true hfollowed.id hnone⟩
  | cons call rest ih =>
      have hturn := turn_step hcoherent call
      have hlater := hturn.coherent hcoherent
      rw [extendAll_first] at hok
      obtain ⟨hfirst, hrest⟩ := List.forall_mem_cons.mp hok
      rw [overlookedBy_cons, extendAll_first]
      rcases hturn.followed_or_cutsShort hfirst hcoherent hfollowed with
        ⟨hnext, hgoing⟩ | ⟨hunnoted, hcuts⟩
      · obtain ⟨hscene, hindex, hid⟩ := ih hlater hnext hrest
        refine ⟨hscene, hindex, hid.trans (not_congr ?_)⟩
        exact (or_iff_right fun hoverlooks => hgoing hoverlooks.cut).symm
      · have hended := hcuts.ended hlater.reason
        have hnothing := not_overlookedBy_of_ended hlater hended rest
        simp only [playthrough_extendAll_of_ended hlater hended rest]
        refine ⟨?_, ?_, ?_⟩
        · rw [hunnoted.scene, hunnoted.cursor, hfollowed.scene]
          rfl
        · rw [hunnoted.index, hunnoted.cursor, hfollowed.index]
          rfl
        · rw [hunnoted.id_iff hfollowed, or_iff_left hnothing, Playthrough.overlooks_iff hcuts,
            ne_eq, Classical.not_not]

end Chronicle

namespace Director

variable {World : Type} {director : Director World}

/-- In a run without a failed call the progress tells the scene and the index of the cursor, also
behind the end, and it tells the id of the dialogue on screen just when no call has overlooked the
dialogue that it took off the screen. -/
theorem progress_follows_iff (hbegun : director.Begun) (calls : List Call) (world : World)
    (hok : ∀ result ∈ (director.play calls world).1, result = .ok ()) :
    let reached := (director.play calls world).2.1
    reached.progress.scene = reached.cursor.sceneId ∧
      reached.progress.dialogueIndex = reached.cursor.index ∧
      (reached.progress.dialogueId = reached.cursor.dialogue?.bind Dialogue.id ↔
        ¬ OverlookedBy director.script director.playthrough calls) := by
  intro reached
  have hfollowed : director.playthrough.Followed := by
    obtain ⟨unseeded, hfresh⟩ := hbegun.playthrough_eq
    rw [hfresh]
    exact ⟨rfl, rfl, rfl⟩
  simp only [play_eq] at hok
  simp only [reached, progress, cursor, playthrough_play]
  exact Chronicle.followed_iff_extendAll hbegun.coherent hfollowed hok

end Director

/-- A guide who asks for the way.  One answer leads to a scene that does not exist. -/
def porchScene : Scene where
  id := "porch"
  dialogues :=
    [{ id := some "ask", speaker := "Guide", text := "Where to?",
       choices := [{ text := "Into the void", target := { scene := some "void" } }] }]

def porchStory : Story where
  scenes := [porchScene]
  unambiguous := by decide

namespace Director

/-- The story of the guide, with nobody listening. -/
def guided : Director Unit := opened porchStory {} {} (Generator.ofSeed 1)

theorem begun_guided : guided.Begun :=
  begun_opened porchStory {} (Generator.ofSeed 1) (by decide +kernel)

/-- The calls of a host who goes for the missing scene while the guide asks. -/
def vanishing : List Call := [.start, .loadScene "void"]

/-- After the end no dialogue is on screen, and the progress keeps the id of one. -/
theorem guided_vanishing_unnoted :
    let reached := (guided.play vanishing ()).2.1
    (guided.play vanishing ()).1.all Except.isOk = true ∧ reached.isEnded = true ∧
      reached.cursor.dialogue? = none ∧ reached.progress.dialogueId = some "ask" := by
  decide +kernel

/-- Going for the missing scene overlooks the question; the answer that leads there does not. -/
theorem guided_overlooked_by_vanishing :
    OverlookedBy guided.script guided.playthrough vanishing ∧
      ¬ OverlookedBy guided.script guided.playthrough
        [.start, .choose { seconds := 0, nanoseconds := 0 } 0] := by
  have hok : ∀ calls, (guided.play calls ()).1.all Except.isOk = true →
      ∀ result ∈ (guided.play calls ()).1, result = .ok () := by
    intro calls hall result hmem
    exact isOk_iff.mp (List.all_eq_true.mp hall result hmem)
  have hvanishing := (progress_follows_iff begun_guided vanishing ()
    (hok vanishing (by decide +kernel))).2.2
  have hanswering := (progress_follows_iff begun_guided
    [.start, .choose { seconds := 0, nanoseconds := 0 } 0] () (hok _ (by decide +kernel))).2.2
  refine ⟨?_, hanswering.mp (by decide +kernel)⟩
  apply Classical.not_not.mp
  intro hnever
  exact absurd (hvanishing.mpr hnever) (by decide +kernel)

end Director

end BranchingStory
