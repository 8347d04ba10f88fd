import BranchingStory.Proofs.Depletion

/-!
# Where a choice leads

A settled choice goes by the branch of its check for the outcome that was thrown, if this branch
names anything, and by its own target otherwise.  Of the two things that a target may name, the
dialogue counts first: if the scene on screen has it the cursor goes there, and if it does not there
is a warning and the cursor goes to the next place, without a look at the scene that is named as
well.  A scene that is named alone is loaded, and a target that names nothing leads to the next
place.

`Playthrough.led` says this once as a function, with all that each case leaves behind.  Making a
choice, spread over the effects, the die, the search and the notes about the place, comes to the
same.
-/

namespace BranchingStory

/-- The branch of a check for an outcome. -/
def DiceCheck.branch? (check : DiceCheck) : DiceOutcome → Option Target
  | .success => check.success
  | .failure => check.failure

/-- Which target decides where a settled choice leads.  Both things that it may name come from one
place, the branch of the outcome or the choice itself. -/
inductive Choice.Decides (choice : Choice) : Option DiceOutcome → Target → Prop where
  | branch (check : DiceCheck) (hcheck : choice.check = some check) (outcome : DiceOutcome)
      (target : Target) (hbranch : check.branch? outcome = some target)
      (hnamed : target.dialogue ≠ none ∨ target.scene ≠ none) : Decides choice (some outcome) target
  | own (outcome : Option DiceOutcome)
      (hbranches : ∀ check thrown target, choice.check = some check → outcome = some thrown →
        check.branch? thrown = some target → target.dialogue = none ∧ target.scene = none) :
      Decides choice outcome choice.target

theorem Target.isEmpty_iff {target : Target} :
    target.isEmpty = true ↔ target.dialogue = none ∧ target.scene = none := by
  rw [isEmpty, Bool.and_eq_true, Option.isNone_iff_eq_none, Option.isNone_iff_eq_none, and_comm]

theorem Target.named_of_not_isEmpty {target : Target} (hnamed : target.isEmpty = false) :
    target.dialogue ≠ none ∨ target.scene ≠ none := by
  by_cases hdialogue : target.dialogue = none
  · right
    intro hscene
    have hempty := isEmpty_iff.mpr ⟨hdialogue, hscene⟩
    simp [hnamed] at hempty
  · exact .inl hdialogue

namespace Playthrough

theorem targetAfter_eq (choice : Choice) (outcome : Option DiceOutcome) :
    targetAfter choice outcome =
      (((outcome.bind fun thrown => choice.check.bind fun check => check.branch? thrown).filter
        fun target => !target.isEmpty).getD choice.target) := by
  cases outcome with
  | none => rfl
  | some thrown => cases thrown <;> rfl

theorem decides_targetAfter (choice : Choice) (outcome : Option DiceOutcome) :
    choice.Decides outcome (targetAfter choice outcome) := by
  rw [targetAfter_eq]
  cases hbranch : outcome.bind fun thrown =>
      choice.check.bind fun check => check.branch? thrown with
  | none =>
      apply Choice.Decides.own
      intro check thrown target hcheck houtcome htarget
      simp [hcheck, houtcome, htarget] at hbranch
  | some target =>
      cases hempty : target.isEmpty with
      | true =>
          rw [Option.filter_some, if_neg (by simp [hempty])]
          apply Choice.Decides.own
          intro check thrown named hcheck houtcome hnamed
          -- The outcome has this branch only, and it is empty.
          simp only [houtcome, hcheck, Option.bind_some, hnamed, Option.some.injEq] at hbranch
          rw [hbranch]
          exact Target.isEmpty_iff.mp hempty
      | false =>
          obtain ⟨thrown, rfl, hthrown⟩ := Option.bind_eq_some_iff.mp hbranch
          obtain ⟨check, hcheck, htarget⟩ := Option.bind_eq_some_iff.mp hthrown
          rw [Option.filter_some, if_pos (by simp [hempty])]
          apply Choice.Decides.branch check hcheck thrown target htarget
          exact Target.named_of_not_isEmpty hempty

/-! ## The case of a target -/

/-- What comes of looking through a scene from a place on and following the cursor to where the
search comes to rest. -/
def scanned (playthrough : Playthrough) (scene : Scene) (start : Nat) : Reply Playthrough Unit :=
  let cursor := playthrough.stage.cursor
  match Cursor.searchScene playthrough.stage.store scene start with
  | .error error =>
      { result := .error (.gate error),
        state := playthrough.withCursor { cursor with index := start, offered := [] },
        events := [] }
  | .ok { index, dialogue := none } =>
      { result := .ok (),
        state := (playthrough.withCursor (cursor.pastEnd index)).noted.finished .scenarioComplete,
        events := [.sceneComplete scene.id, .playbackEnded .scenarioComplete] }
  | .ok { index, dialogue := some (dialogue, choices) } =>
      { result := .ok (),
        state := (playthrough.withCursor (cursor.offering index choices)).noted,
        events := Cursor.announce scene dialogue choices }

/-- What comes of following a target from a scene on screen.  A scene to be loaded is loaded as by a
call, and if the story does not have it the place behind the end is noted as well. -/
def led (script : Script) (playthrough : Playthrough) (scene : Scene) (target : Target) :
    Reply Playthrough Unit :=
  let next := playthrough.stage.cursor.index + 1
  match target.dialogue, target.scene with
  | some dialogue, _ =>
      match scene.position? dialogue with
      | some index => scanned playthrough scene index
      | none =>
          let warning : Diagnostic := .ofError .warning (.missingDialogue scene.id dialogue)
          let reply := scanned playthrough scene next
          { reply with events := .diagnostic warning :: reply.events }
  | none, some id =>
      match script.story.scene? id with
      | some _ => (loadScene script id).run playthrough
      | none =>
          { result := .ok (), state := (playthrough.cutShort .referenceFailure).noted,
            events :=
              [.diagnostic (.ofError .fatal (.missingScene id)),
                .playbackEnded .referenceFailure] }
  | none, none => scanned playthrough scene next

section Following

variable {script : Script} {playthrough : Playthrough} {scene : Scene} {target : Target}

theorem Arrival.eq_scanned {start : Nat} {reply : Reply Playthrough Unit}
    (harrival : Arrival playthrough scene { playthrough.stage.cursor with index := start } reply) :
    reply = scanned playthrough scene start := by
  cases harrival with
  | stuck error hsearch | past index hsearch | shown index dialogue choices hsearch =>
      simp only [scanned, hsearch]
      rfl

/-- Where a target stays in the scene, the cursor is led to the place for it. -/
theorem led_of_stays (script : Script) (hscene : playthrough.stage.cursor.scene = some scene)
    (hstays : target.dialogue ≠ none ∨ target.scene = none) :
    let place := placeFor playthrough.stage.cursor target
    let reply := scanned playthrough scene place.1
    led script playthrough scene target = { reply with events := place.2 ++ reply.events } := by
  simp only [led, placeFor, Cursor.position?, Cursor.sceneId, hscene]
  cases hdialogue : target.dialogue with
  | some dialogue =>
      cases hposition : scene.position? dialogue with
      | some index => simp [hposition]
      | none => simp [hposition]
  | none =>
      cases htarget : target.scene with
      | some id => simp [hdialogue, htarget] at hstays
      | none => rfl

/-- Loading a scene of the story notes its place already. -/
theorem run_loadScene_follow {id : String} {entered : Scene}
    (hopen : playthrough.progress.ended = false)
    (hlively : script.depletes playthrough.stage.store = false)
    (hknown : script.story.scene? id = some entered) :
    (loadScene script id >>= fun _ => follow).run playthrough =
      (loadScene script id).run playthrough := by
  obtain ⟨reply, harrival, hrun⟩ := run_loadScene_of_known hopen hlively hknown
  cases hresult : reply.result with
  | error error =>
      rw [hresult] at hrun
      rw [Playing.run_bind_of_error hrun, hrun]
  | ok value =>
      rw [hresult] at hrun
      rw [Playing.run_bind_of_ok hrun, run_follow_of_arrival harrival hopen hresult, hrun,
        List.append_nil]

/-- Unless a stat is depleted, a settled choice comes to what the case of its target says. -/
theorem run_depart_eq_led (hopen : playthrough.progress.ended = false)
    (hlively : script.depletes playthrough.stage.store = false)
    (hactive : playthrough.stage.cursor.phase.isActive = true)
    (hscene : playthrough.stage.cursor.scene = some scene) :
    (depart script target).run playthrough = led script playthrough scene target := by
  rw [run_depart_of_lively hlively]
  by_cases hstays : target.dialogue ≠ none ∨ target.scene = none
  · obtain ⟨reply, harrival, hrun⟩ :=
      run_navigate_of_stays script hopen hactive hscene hstays
    rw [hrun, led_of_stays script hscene hstays, harrival.eq_scanned]
  · obtain ⟨hleaves, htarget⟩ := not_or.mp hstays
    rw [Classical.not_not] at hleaves
    obtain ⟨id, htarget⟩ := Option.ne_none_iff_exists'.mp htarget
    rw [navigate, bind_assoc, Playing.run_bind_of_silent (Playing.run_current _)]
    simp only [led, hleaves, htarget]
    cases hstory : script.story.scene? id with
    | some entered => exact run_loadScene_follow hopen hlively hstory
    | none =>
        have hfollow : follow.run (playthrough.cutShort .referenceFailure) = _ :=
          run_follow_of_ended (ended_cutShort playthrough .referenceFailure)
        rw [Playing.run_bind_of_ok (run_loadScene_of_unknown hopen hlively hstory), hfollow]
        rfl

end Following

/-! ## No depleted stat with a scene on screen -/

/-- While a scene is loaded and the playthrough goes on, no stat is depleted. -/
def Lively (script : Script) (playthrough : Playthrough) : Prop :=
  playthrough.progress.ended = false → playthrough.stage.cursor.scene ≠ none →
    script.depletes playthrough.stage.store = false

theorem Turn.lively {script : Script} {playthrough : Playthrough} {reply : Reply Playthrough Unit}
    (hturn : Turn script playthrough reply) (hbefore : Lively script playthrough) :
    Lively script reply.state := by
  have hkept : script.depletes playthrough.stage.store = false → Lively script reply.state := by
    intro hlively hopen _
    rw [Bool.eq_false_iff]
    intro hdepletes
    exact absurd (hturn.ended_of_depletes hlively hdepletes) (by simp [hopen])
  cases hturn with
  | ignored | refused error => exact hbefore
  | depleted hopen hdepleted =>
      intro hgoing
      simp at hgoing
  | exhausted hopen hlively | waited hopen hlively | advanced hopen hlively
  | entered hopen hlively | lost hopen hlively | took hopen hlively => exact hkept hlively

end Playthrough

namespace Director

variable {World Value : Type} {director : Director World}

theorem Reachable.lively (hreachable : director.Reachable) :
    Playthrough.Lively director.script director.playthrough := by
  apply hreachable.induction
  · intro script unseeded _ hscene
    exact absurd rfl hscene
  · intro script playthrough reply hturn hlively
    exact hturn.lively hlively

/-- The answer of a director to which a reply is left: it takes over the playthrough, and its
audience hears the events. -/
def deliver (director : Director World) (reply : Reply Playthrough Value) (world : World) :
    Answer World Value :=
  let (audience, world) := director.audience.emitAll reply.events world
  (reply.result, { director with playthrough := reply.state, audience }, world)

/-- A choice settles, and unless a stat is depleted then, making it comes to the case of the target
that decides. -/
def LeadsOn (director : Director World) (scene : Scene) (time : Timestamp) (choice : Choice)
    (world : World) : Prop :=
  ∃ outcome target stage told,
    Playthrough.Settlement director.script choice director.playthrough.stage outcome stage told ∧
    choice.Decides outcome target ∧
    (director.script.depletes stage.store = false →
      let settled := director.playthrough.taken time choice stage
      let reply := Playthrough.led director.script settled scene target
      director.makeChoice time choice world =
        director.deliver { reply with events := told ++ reply.events } world)

/-- Every director with a scene on screen leads on by the target that decides: first by its
dialogue, then by its scene, and to the next place if it names neither. -/
theorem choice_leads_by_priority (hreachable : director.Reachable)
    (hopen : director.isEnded = false) {scene : Scene} (hscene : director.cursor.scene = some scene)
    {choice : Choice} (hvalid : Effect.validate choice.effects = .ok ()) (time : Timestamp)
    (world : World) : director.LeadsOn scene time choice world := by
  have hcoherent := hreachable.coherent
  have hloaded : director.playthrough.stage.cursor.scene ≠ none :=
    Option.ne_none_iff_exists'.mpr ⟨scene, hscene⟩
  have hphase : director.playthrough.stage.cursor.phase ≠ .idle := by
    intro hidle
    exact hloaded (hcoherent.cursor.unloaded hidle)
  have hlively := hreachable.lively hopen hloaded
  obtain ⟨outcome, store, generator, told, -, -, hsettle, hrun⟩ :=
    Playthrough.run_makeChoice_of_valid time hopen hlively hphase hvalid
  refine ⟨outcome, Playthrough.targetAfter choice outcome, _, told,
    Playthrough.settlement_of_settle hsettle, Playthrough.decides_targetAfter choice outcome, ?_⟩
  intro hgoing settled reply
  have hactive : settled.stage.cursor.phase.isActive = true := hcoherent.isActive hopen hphase
  have hled : (Playthrough.depart director.script (Playthrough.targetAfter choice outcome)).run
      settled = reply :=
    Playthrough.run_depart_eq_led hopen hgoing hactive hscene
  rw [makeChoice, perform, hrun]
  simp only [hled, settled]
  rfl

/-- A stumble off the ledge.  Its check cannot fail, and the branch names a dialogue that the ledge
does not have, and a scene. -/
def stumble : Choice where
  text := "Stumble"
  target := { scene := some "valley" }
  check := some
    { difficulty := some 1, success := some { scene := some "ledge", dialogue := some "bottom" } }

/-- The player on the ledge. -/
def onLedge : Director Unit := (jumper.call .start ()).2.1

/-- The stumble leads to the next line, after a warning about the dialogue and regardless of the
scenes. -/
theorem onLedge_stumble :
    let time : Timestamp := { seconds := 0, nanoseconds := 0 }
    let fallen := onLedge.chronicle [.makeChoice time stumble]
    onLedge.LeadsOn ledgeScene time stumble () ∧
      onLedge.script.depletes fallen.playthrough.stage.store = false ∧
      fallen.playthrough.stage.cursor.scene = some ledgeScene ∧
      fallen.playthrough.stage.cursor.index = 1 ∧
      .diagnostic (.ofError .warning (.missingDialogue "ledge" "bottom")) ∈ fallen.events :=
  have hreachable : onLedge.Reachable := .called jumper (.begun jumper begun_jumper) .start ()
  ⟨choice_leads_by_priority hreachable (by decide +kernel) (by decide +kernel) rfl
      { seconds := 0, nanoseconds := 0 } (),
    by decide +kernel⟩

end Director

end BranchingStory
