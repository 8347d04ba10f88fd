import BranchingStory.Proofs.Sourcing

/-!
# Repeating a history

Under a seed the choices of a playthrough determine what becomes of its variables.  Whoever makes
the recorded choices again, in a new playthrough and without advancing in between, gets the same
variables, the same draws and the same score.

Advances are not recorded, so the repetition stands elsewhere: it trails the playthrough that it
repeats.  It has the same variables and the same random source, and as long as the other one goes
on it is in the same scene, at no later place.  A search that begins no later comes to rest no
later.  So the repetition does not run out of dialogues first; and where it meets a gate that cannot
be judged, it stays in the scene with its choice taken.
-/

namespace BranchingStory

/-! ## Searching from an earlier place -/

namespace Cursor

variable {store : Variables} {scene : Scene}

/-- A search looks at the dialogue at its place first. -/
theorem searchScene_eq (store : Variables) (scene : Scene) (start : Nat) :
    searchScene store scene start =
      match scene.dialogues[start]? with
      | none => .ok { index := start, dialogue := none }
      | some dialogue =>
          match Gate.isOpen store dialogue.conditions with
          | .error error => .error error
          | .ok false => searchScene store scene (start + 1)
          | .ok true =>
              match openChoices store dialogue.choices with
              | .error error => .error error
              | .ok choices => .ok { index := start, dialogue := some (dialogue, choices) } := by
  cases hat : scene.dialogues[start]? with
  | none =>
      have hbehind := List.drop_eq_nil_of_le (List.getElem?_eq_none_iff.mp hat)
      rw [searchScene, hbehind, search]
  | some dialogue =>
      obtain ⟨hstart, hdialogue⟩ := List.getElem?_eq_some_iff.mp hat
      rw [searchScene, List.drop_eq_getElem_cons hstart, hdialogue, search]
      rfl

/-- Where a search finds a dialogue, one from an earlier place finds one no later, if it does not
fail. -/
theorem searchScene_le {start later index : Nat} {found : Dialogue × List Choice} {sight : Sight}
    (hle : start ≤ later)
    (hlater : searchScene store scene later = .ok { index, dialogue := some found })
    (hsight : searchScene store scene start = .ok sight) :
    sight.index ≤ index ∧ sight.dialogue ≠ none := by
  obtain ⟨gap, rfl⟩ := Nat.exists_eq_add_of_le hle
  induction gap generalizing start with
  | zero =>
      have hsame : sight = { index, dialogue := some found } :=
        Except.ok.inj (hsight.symm.trans hlater)
      rw [hsame]
      exact ⟨Nat.le_refl index, by simp⟩
  | succ gap ih =>
      have hfrom : start + (gap + 1) ≤ index := (search_found hlater).1
      rw [searchScene_eq] at hsight
      cases hat : scene.dialogues[start]? with
      | none =>
          -- Behind the end of the scene nothing is found.
          have hend : scene.dialogues[start + (gap + 1)]? = none := by
            rw [List.getElem?_eq_none_iff] at hat ⊢
            omega
          rw [searchScene_eq, hend] at hlater
          simp at hlater
      | some dialogue =>
          rw [hat] at hsight
          cases hgate : Gate.isOpen store dialogue.conditions with
          | error error => simp [hgate] at hsight
          | ok isOpen =>
              cases isOpen with
              | false =>
                  refine ih ?_ (Nat.le_add_right (start + 1) gap) ?_
                  · simpa [hgate] using hsight
                  · rw [show start + 1 + gap = start + (gap + 1) by omega]
                    exact hlater
              | true =>
                  cases hopen : openChoices store dialogue.choices with
                  | error error => simp [hgate, hopen] at hsight
                  | ok choices =>
                      simp only [hgate, hopen, Except.ok.injEq] at hsight
                      rw [← hsight]
                      exact ⟨by simp only; omega, by simp⟩

end Cursor

namespace Playthrough

/-! ## Trailing -/

/-- Two playthroughs go on in one scene, and the one behind is at no later place than the one
ahead. -/
structure Trails (behind ahead : Playthrough) (scene : Scene) : Prop where
  unfinished : behind.progress.ended = false
  active : behind.stage.cursor.phase.isActive = true
  loaded : behind.stage.cursor.scene = some scene
  activeAhead : ahead.stage.cursor.phase.isActive = true
  loadedAhead : ahead.stage.cursor.scene = some scene
  notLater : behind.stage.cursor.index ≤ ahead.stage.cursor.index

/-- A playthrough has the variables and the random source of another one, and trails it until that
one ends. -/
structure Echoes (behind ahead : Playthrough) : Prop where
  store : behind.stage.store = ahead.stage.store
  generator : behind.stage.generator = ahead.stage.generator
  trails : ahead.progress.ended = false → ∃ scene, Trails behind ahead scene

section Moves

variable {script : Script} {behind ahead : Playthrough} {scene : Scene}

/-- When both cursors have been put somewhere in the scene, the one behind at no later place, it
also arrives at no later place, or fails and stays. -/
theorem Arrival.trails {other placed : Cursor} {trailing reply : Reply Playthrough Unit}
    (harrival : Arrival ahead scene placed reply)
    (htrailing : Arrival behind scene other trailing)
    (hplaced : Trails (behind.withCursor other) (ahead.withCursor placed) scene)
    (hstore : behind.stage.store = ahead.stage.store) (hok : reply.result = .ok ())
    (hgoing : reply.state.progress.ended = false) :
    Trails trailing.state reply.state scene := by
  have hle : other.index ≤ placed.index := hplaced.notLater
  cases harrival with
  | stuck error hsearch => simp at hok
  | past index hsearch => simp at hgoing
  | shown index dialogue choices hsearch =>
      have hfound : placed.index ≤ index := (Cursor.search_found hsearch).1
      have hoffering := Cursor.isActive_offering placed index choices
      cases htrailing with
      | stuck error hother =>
          exact
            { unfinished := hplaced.unfinished
              active := hplaced.active
              loaded := hplaced.loaded
              activeAhead := hoffering
              loadedAhead := hplaced.loadedAhead
              notLater := Nat.le_trans hle hfound }
      | past earlier hother =>
          rw [hstore] at hother
          exact absurd rfl (Cursor.searchScene_le hle hsearch hother).2
      | shown earlier shown offered hother =>
          rw [hstore] at hother
          exact
            { unfinished := hplaced.unfinished
              active := Cursor.isActive_offering other earlier offered
              loaded := hplaced.loaded
              activeAhead := hoffering
              loadedAhead := hplaced.loadedAhead
              notLater := (Cursor.searchScene_le hle hsearch hother).1 }

/-- When only the one ahead has been put further on, it arrives further on. -/
theorem Arrival.leaves_behind {placed : Cursor} {reply : Reply Playthrough Unit}
    (harrival : Arrival ahead scene placed reply)
    (hplaced : Trails behind (ahead.withCursor placed) scene) (hok : reply.result = .ok ())
    (hgoing : reply.state.progress.ended = false) : Trails behind reply.state scene := by
  cases harrival with
  | stuck error hsearch => simp at hok
  | past index hsearch => simp at hgoing
  | shown index dialogue choices hsearch =>
      have hfound : placed.index ≤ index := (Cursor.search_found hsearch).1
      exact
        { hplaced with
          activeAhead := Cursor.isActive_offering placed index choices
          notLater := Nat.le_trans hplaced.notLater hfound }

theorem placeFor_le {other cursor : Cursor} (hscene : other.scene = cursor.scene)
    (hle : other.index ≤ cursor.index) (target : Target) :
    (placeFor other target).1 ≤ (placeFor cursor target).1 := by
  have hposition : ∀ dialogue, other.position? dialogue = cursor.position? dialogue := by
    intro dialogue
    rw [Cursor.position?, Cursor.position?, hscene]
  rw [placeFor, placeFor]
  cases target.dialogue with
  | none => exact Nat.succ_le_succ hle
  | some dialogue =>
      simp only [hposition]
      cases cursor.position? dialogue with
      | none => exact Nat.succ_le_succ hle
      | some index => exact Nat.le_refl index

/-- A departure for a place of the scene is an arrival there. -/
theorem Departure.stays {target : Target} {reply : Reply Playthrough Unit}
    (hdeparture : Departure script behind target reply)
    (hlively : script.depletes behind.stage.store = false)
    (hstays : target.dialogue ≠ none ∨ target.scene = none)
    (hscene : behind.stage.cursor.scene = some scene) :
    ∃ arrived, Arrival behind scene
        { behind.stage.cursor with index := (placeFor behind.stage.cursor target).1 } arrived ∧
      reply.state = arrived.state := by
  cases hdeparture with
  | depleted hdepleted => simp [hdepleted] at hlively
  | moved hlively hstays other hother arrived harrival =>
      have hsame : other = scene := Option.some.inj (hother.symm.trans hscene)
      rw [hsame] at harrival
      exact ⟨arrived, harrival, rfl⟩
  | entered hlively hleaves id htarget | lost hlively hleaves id htarget =>
      simp [hleaves, htarget] at hstays

/-- A departure for another scene of the story is an arrival at its beginning. -/
theorem Departure.enters {target : Target} {reply : Reply Playthrough Unit} {id : String}
    (hdeparture : Departure script behind target reply)
    (hlively : script.depletes behind.stage.store = false) (hleaves : target.dialogue = none)
    (htarget : target.scene = some id) (hknown : script.story.scene? id = some scene) :
    ∃ arrived, Arrival (behind.inScene scene) scene
        { behind.stage.cursor with scene := some scene, index := 0, phase := .showing } arrived ∧
      reply.state = arrived.state := by
  cases hdeparture with
  | depleted hdepleted => simp [hdepleted] at hlively
  | moved hlively hstays => simp [hleaves, htarget] at hstays
  | entered hlively hleaves other hother entered hentered arrived harrival =>
      have hid : other = id := Option.some.inj (hother.symm.trans htarget)
      rw [hid, hknown] at hentered
      cases hentered
      exact ⟨arrived, harrival, rfl⟩
  | lost hlively hleaves other hother hunknown =>
      have hid : other = id := Option.some.inj (hother.symm.trans htarget)
      simp [hid, hknown] at hunknown

/-- Departing for the same target the one behind goes on to trail. -/
theorem Departure.trails {target : Target} {trailing reply : Reply Playthrough Unit}
    (hdeparture : Departure script ahead target reply)
    (htrailing : Departure script behind target trailing) (htrails : Trails behind ahead scene)
    (hstore : behind.stage.store = ahead.stage.store) (hok : reply.result = .ok ())
    (hgoing : reply.state.progress.ended = false) :
    ∃ scene, Trails trailing.state reply.state scene := by
  cases hdeparture with
  | depleted hdepleted => simp at hgoing
  | lost hlively hleaves id htarget hunknown => simp at hgoing
  | moved hlively hstays other hother arrived harrival =>
      have hsame : other = scene := Option.some.inj (hother.symm.trans htrails.loadedAhead)
      rw [hsame] at harrival
      rw [← hstore] at hlively
      obtain ⟨later, hlater, hstate⟩ := htrailing.stays hlively hstays htrails.loaded
      have hscene : behind.stage.cursor.scene = ahead.stage.cursor.scene :=
        htrails.loaded.trans htrails.loadedAhead.symm
      have hplace := placeFor_le hscene htrails.notLater target
      rw [hstate]
      exact ⟨scene, harrival.trails hlater { htrails with notLater := hplace } hstore hok hgoing⟩
  | entered hlively hleaves id htarget entered hknown arrived harrival =>
      rw [← hstore] at hlively
      obtain ⟨later, hlater, hstate⟩ := htrailing.enters hlively hleaves htarget hknown
      rw [hstate]
      refine ⟨entered, harrival.trails hlater ?_ hstore hok hgoing⟩
      exact
        { unfinished := htrails.unfinished
          active := rfl
          loaded := rfl
          activeAhead := rfl
          loadedAhead := rfl
          notLater := Nat.le_refl 0 }

/-- After a departure for the same target the one behind has the same variables and random source
still, and trails if the one ahead goes on. -/
theorem Departure.echoes {target : Target} {trailing reply : Reply Playthrough Unit}
    (hdeparture : Departure script ahead target reply)
    (htrailing : Departure script behind target trailing) (htrails : Trails behind ahead scene)
    (hstore : behind.stage.store = ahead.stage.store)
    (hgenerator : behind.stage.generator = ahead.stage.generator)
    (hok : reply.result = .ok ()) : Echoes trailing.state reply.state := by
  have hsame := hdeparture.sameTaken
  have hsameBehind := htrailing.sameTaken
  constructor
  · rw [hsameBehind.store, hsame.store, hstore]
  · rw [hsameBehind.generator, hsame.generator, hgenerator]
  · exact hdeparture.trails htrailing htrails hstore hok

end Moves

/-! ## Calls of the one ahead -/

/-- A reply that takes no choice: the one behind need not do anything to keep up. -/
structure Passed (behind ahead : Playthrough) (reply : Reply Playthrough Unit) : Prop where
  same : SameTaken ahead reply.state
  echoes : Echoes behind reply.state
  unsettling : ∀ event ∈ reply.events, event.isSettling = false

/-- Two replies that have settled the same, with the one behind still trailing. -/
structure SettledAlike (trailing reply : Reply Playthrough Unit) : Prop where
  echoes : Echoes trailing.state reply.state
  settling : trailing.events.filter Event.isSettling = reply.events.filter Event.isSettling

/-- What a call of the one ahead asks of the one behind: nothing, or the choice that was
recorded. -/
inductive Repeatable (script : Script) (behind ahead : Playthrough)
    (reply : Reply Playthrough Unit) : Prop where
  | passed (hpassed : Passed behind ahead reply)
  | taken (entry : TakenChoice)
      (hrecorded : reply.state.progress.history = ahead.progress.history ++ [entry])
      (halike : ∀ time,
        SettledAlike ((makeChoice script time entry.choice).run behind) reply)

section Calls

variable {script : Script} {behind ahead : Playthrough}

theorem Echoes.stage_eq (hechoes : Echoes behind ahead) :
    behind.stage = { ahead.stage with cursor := behind.stage.cursor } := by
  have hstore := hechoes.store
  have hgenerator := hechoes.generator
  cases hstage : behind.stage with
  | mk cursor store generator =>
      rw [hstage] at hstore hgenerator
      change Stage.mk cursor store generator =
        Stage.mk cursor ahead.stage.store ahead.stage.generator
      rw [← hstore, ← hgenerator]

/-- Nothing happens, or the playthrough ahead ends without taking a choice. -/
theorem Echoes.passed_of_ended (hechoes : Echoes behind ahead) {reply : Reply Playthrough Unit}
    (hsame : SameTaken ahead reply.state) (hended : reply.state.progress.ended = true)
    (hunsettling : ∀ event ∈ reply.events, event.isSettling = false) :
    Passed behind ahead reply where
  same := hsame
  echoes :=
    { store := hechoes.store.trans hsame.store.symm
      generator := hechoes.generator.trans hsame.generator.symm
      trails := fun hgoing => by simp [hended] at hgoing }
  unsettling := hunsettling

/-- A guarded call of a playthrough that has ended, or ends for a depleted stat. -/
theorem Echoes.passed_unlessOver (hechoes : Echoes behind ahead)
    (step : Playing Playthrough Unit)
    (hover : ahead.progress.ended = true ∨ script.depletes ahead.stage.store = true) :
    Passed behind ahead ((unlessOver script step).run ahead) := by
  cases hended : ahead.progress.ended with
  | true =>
      rw [run_unlessOver_of_ended hended]
      exact hechoes.passed_of_ended ⟨rfl, rfl, rfl⟩ hended (by simp)
  | false =>
      have hdepleted : script.depletes ahead.stage.store = true := by
        simpa [hended] using hover
      rw [run_unlessOver_of_depleted hended hdepleted]
      exact hechoes.passed_of_ended (sameTaken_cutShort ahead .statDepleted)
        (ended_cutShort ahead .statDepleted) (by simp [Event.isSettling])

theorem Echoes.passed_advance (hechoes : Echoes behind ahead)
    (hok : ((advance script).run ahead).result = .ok ()) :
    Passed behind ahead ((advance script).run ahead) := by
  by_cases hover : ahead.progress.ended = true ∨ script.depletes ahead.stage.store = true
  · exact hechoes.passed_unlessOver _ hover
  · obtain ⟨hopen, hlively⟩ := not_or.mp hover
    rw [Bool.not_eq_true] at hopen hlively
    obtain ⟨scene, htrails⟩ := hechoes.trails hopen
    cases hphase : ahead.stage.cursor.phase with
    | idle | ended =>
        have hactive := htrails.activeAhead
        simp [hphase, Phase.isActive] at hactive
    | awaitingChoice =>
        rw [run_advance_of_waiting hopen hlively (by simp [hphase]) (by simp [hphase])]
        exact
          { same := ⟨rfl, rfl, rfl⟩
            echoes := ⟨hechoes.store, hechoes.generator, fun _ => ⟨scene, { htrails with }⟩⟩
            unsettling := by simp }
    | showing =>
        have harrival := arrival_advance hopen hlively hphase htrails.loadedAhead
        have hsame := harrival.sameTaken
        have hmoved := harrival.leaves_behind
          { htrails with notLater := Nat.le_succ_of_le htrails.notLater } hok
        exact
          { same := hsame
            echoes :=
              { store := hechoes.store.trans hsame.store.symm
                generator := hechoes.generator.trans hsame.generator.symm
                trails := fun hgoing => ⟨scene, hmoved hgoing⟩ }
            unsettling := harrival.isSettling_eq_false }

/-- A choice settles behind as it does ahead. -/
theorem Echoes.run_settle (hechoes : Echoes behind ahead) {choice : Choice}
    {outcome : Option DiceOutcome} {store : Variables} {generator : Generator}
    {events : List Event}
    (hsettle : (settle script choice).run ahead.stage =
      { result := .ok outcome, state := { ahead.stage with store, generator }, events }) :
    (settle script choice).run behind.stage =
      { result := .ok outcome, state := { behind.stage with store, generator }, events } := by
  -- The stages differ in the cursor only, and settling does not look at it.
  have hstage : behind.stage = { ahead.stage with cursor := behind.stage.cursor } :=
    hechoes.stage_eq
  rw [hstage, run_settle_withCursor, hsettle]

/-- Recording and settling a choice moves no cursor. -/
theorem Trails.taken {scene : Scene} (htrails : Trails behind ahead scene)
    (time later : Timestamp) (choice : Choice) (store : Variables) (generator : Generator) :
    Trails (behind.taken later choice { behind.stage with store, generator })
      (ahead.taken time choice { ahead.stage with store, generator }) scene :=
  ⟨htrails.unfinished, htrails.active, htrails.loaded, htrails.activeAhead,
    htrails.loadedAhead, htrails.notLater⟩

/-- A choice that is accepted ahead settles behind as well, and departs for the same target. -/
theorem Echoes.settledAlike_makeChoice (hechoes : Echoes behind ahead) {choice : Choice}
    (hopen : ahead.progress.ended = false)
    (hlively : script.depletes ahead.stage.store = false)
    (hvalid : Effect.validate choice.effects = .ok ()) (time later : Timestamp)
    (hok : ((makeChoice script time choice).run ahead).result = .ok ()) :
    SettledAlike ((makeChoice script later choice).run behind)
      ((makeChoice script time choice).run ahead) := by
  obtain ⟨scene, htrails⟩ := hechoes.trails hopen
  obtain ⟨outcome, store, generator, events, _, _, hsettle, hrun⟩ :=
    run_makeChoice_of_valid time hopen hlively (Phase.ne_idle_of_isActive htrails.activeAhead)
      hvalid
  have hlivelyBehind : script.depletes behind.stage.store = false := by
    rw [hechoes.store]
    exact hlively
  have hrunBehind := run_makeChoice_of_settle later htrails.unfinished hlivelyBehind
    (Phase.ne_idle_of_isActive htrails.active) hvalid (hechoes.run_settle hsettle)
  have hdeparture : Departure script
      (ahead.taken time choice { ahead.stage with store, generator })
      (targetAfter choice outcome) _ :=
    departure_depart hopen htrails.activeAhead htrails.loadedAhead
  have htrailing : Departure script
      (behind.taken later choice { behind.stage with store, generator })
      (targetAfter choice outcome) _ :=
    departure_depart htrails.unfinished htrails.active htrails.loaded
  rw [hrun] at hok ⊢
  have hechoing := hdeparture.echoes htrailing (htrails.taken time later choice store generator)
    rfl rfl hok
  rw [hrunBehind]
  constructor
  · exact hechoing
  · rw [List.filter_append, List.filter_append,
      filter_isSettling_eq_nil hdeparture.isSettling_eq_false,
      filter_isSettling_eq_nil htrailing.isSettling_eq_false]

theorem Echoes.repeatable_makeChoice (hechoes : Echoes behind ahead) (time : Timestamp)
    (choice : Choice) (hok : ((makeChoice script time choice).run ahead).result = .ok ()) :
    Repeatable script behind ahead ((makeChoice script time choice).run ahead) := by
  by_cases hover : ahead.progress.ended = true ∨ script.depletes ahead.stage.store = true
  · exact .passed (hechoes.passed_unlessOver _ hover)
  · obtain ⟨hopen, hlively⟩ := not_or.mp hover
    rw [Bool.not_eq_true] at hopen hlively
    obtain ⟨scene, htrails⟩ := hechoes.trails hopen
    have hphase := Phase.ne_idle_of_isActive htrails.activeAhead
    cases hvalid : Effect.validate choice.effects with
    | error error =>
        rw [run_makeChoice_of_refused time hopen hlively hphase hvalid] at hok
        cases hok
    | ok valid =>
        have halike := fun later =>
          hechoes.settledAlike_makeChoice hopen hlively hvalid time later hok
        have hrecorded : ((makeChoice script time choice).run ahead).state.progress.history =
            ahead.progress.history ++ [ahead.entry time choice] := by
          obtain ⟨outcome, store, generator, events, _, _, _, hrun⟩ :=
            run_makeChoice_of_valid time hopen hlively hphase hvalid
          have hdeparture : Departure script
              (ahead.taken time choice { ahead.stage with store, generator })
              (targetAfter choice outcome) _ :=
            departure_depart hopen htrails.activeAhead htrails.loadedAhead
          rw [hrun]
          exact hdeparture.sameTaken.history
        exact .taken (ahead.entry time choice) hrecorded halike

end Calls

end Playthrough

/-! ## Runs -/

/-- Whether a call goes on from where a story was started. -/
def Call.continues : Call → Bool
  | advance | makeChoice _ _ | choose _ _ => true
  | start | loadScene _ => false

/-- The choice that a call makes without looking at what is offered. -/
def Call.choice? : Call → Option Choice
  | makeChoice _ choice => some choice
  | _ => none

theorem Call.eq_makeChoice {call : Call} {choice : Choice} (hmade : call.choice? = some choice) :
    ∃ time, call = .makeChoice time choice := by
  cases call with
  | makeChoice time made => exact ⟨time, by rw [Option.some.inj hmade]⟩
  | start | loadScene id | advance | choose time place => simp [Call.choice?] at hmade

open Playthrough in
theorem repeatable_step {script : Script} {behind ahead : Playthrough}
    (hechoes : Echoes behind ahead) {call : Call} (hcontinues : call.continues = true)
    (hok : ((call.step script).run ahead).result = .ok ()) :
    Repeatable script behind ahead ((call.step script).run ahead) := by
  cases call with
  | start | loadScene id => simp [Call.continues] at hcontinues
  | advance => exact .passed (hechoes.passed_advance hok)
  | makeChoice time choice => exact hechoes.repeatable_makeChoice time choice hok
  | choose time place =>
      simp only [Call.step, Playing.run_map, run_choose] at hok ⊢
      cases hoffered : ahead.stage.cursor.offered[place]? with
      | none =>
          exact .passed { same := ⟨rfl, rfl, rfl⟩, echoes := hechoes, unsettling := by simp }
      | some choice =>
          simp only [hoffered] at hok ⊢
          have hmade : ((makeChoice script time choice).run ahead).result = .ok () := by
            cases hresult : ((makeChoice script time choice).run ahead).result with
            | ok value => rfl
            | error error => simp [hresult, Except.map] at hok
          have hrepeatable := hechoes.repeatable_makeChoice time choice hmade
          cases hrepeatable with
          | passed hpassed => exact .passed ⟨hpassed.same, hpassed.echoes, hpassed.unsettling⟩
          | taken entry hrecorded halike =>
              exact .taken entry hrecorded fun later =>
                ⟨(halike later).echoes, (halike later).settling⟩

namespace Chronicle

variable {script : Script}

/-- Calls that succeed ahead add entries to the history, and who makes the choices of these entries
behind settles the same. -/
theorem extendAll_repeated {behind ahead : Playthrough} (hechoes : behind.Echoes ahead)
    {calls : List Call} (hcontinue : ∀ call ∈ calls, call.continues = true)
    (hok : (extendAll script { playthrough := ahead } calls).allOk) :
    ∃ entries,
      (extendAll script { playthrough := ahead } calls).playthrough.progress.history =
        ahead.progress.history ++ entries ∧
      ∀ repeated : List Call,
        repeated.map Call.choice? = entries.map (fun entry => some entry.choice) →
          let reached := extendAll script { playthrough := ahead } calls
          let again := extendAll script { playthrough := behind } repeated
          again.playthrough.Echoes reached.playthrough ∧
            again.events.filter Event.isSettling = reached.events.filter Event.isSettling := by
  induction calls generalizing behind ahead with
  | nil =>
      refine ⟨[], by simp, ?_⟩
      intro repeated hrepeated
      rw [List.map_eq_nil_iff.mp hrepeated]
      exact ⟨hechoes, rfl⟩
  | cons call rest ih =>
      obtain ⟨hcall, hrest⟩ := List.forall_mem_cons.mp hcontinue
      rw [extendAll_first] at hok ⊢
      obtain ⟨hfirst, hlater⟩ := List.forall_mem_cons.mp hok
      have hstep := repeatable_step hechoes hcall hfirst
      cases hstep with
      | passed hpassed =>
          obtain ⟨entries, hhistory, hagain⟩ := ih hpassed.echoes hrest hlater
          refine ⟨entries, hhistory.trans (by rw [hpassed.same.history]), ?_⟩
          intro repeated hrepeated
          obtain ⟨hechoing, hsettling⟩ := hagain repeated hrepeated
          refine ⟨hechoing, ?_⟩
          rw [List.filter_append, filter_isSettling_eq_nil hpassed.unsettling]
          exact hsettling
      | taken entry hrecorded halike =>
          have halike : ∀ time, Playthrough.SettledAlike
              (((Call.makeChoice time entry.choice).step script).run behind)
              ((call.step script).run ahead) := halike
          have hnext := fun time => ih (halike time).echoes hrest hlater
          obtain ⟨entries, hhistory, _⟩ := hnext { seconds := 0, nanoseconds := 0 }
          refine ⟨entry :: entries, hhistory.trans (by rw [hrecorded]; simp), ?_⟩
          intro repeated hrepeated
          obtain ⟨made, others, rfl, hmade, hothers⟩ := List.map_eq_cons_iff.mp hrepeated
          obtain ⟨time, rfl⟩ := Call.eq_makeChoice hmade
          -- At any time the repetition records the same entries, since the history has them.
          obtain ⟨same, hsame, hagain⟩ := hnext time
          have hentries : same = entries := List.append_cancel_left (hsame.symm.trans hhistory)
          rw [hentries] at hagain
          obtain ⟨hechoing, hsettling⟩ := hagain others hothers
          rw [extendAll_first]
          refine ⟨hechoing, ?_⟩
          rw [List.filter_append, List.filter_append, hsettling]
          exact congrArg (· ++ _) (halike time).settling

end Chronicle

namespace Playthrough

/-! ## The start -/

/-- What a call leaves that takes no choice and, if it succeeds and the playthrough goes on, puts a
dialogue on screen. -/
structure Enters (playthrough : Playthrough) (reply : Reply Playthrough Unit) : Prop where
  same : SameTaken playthrough reply.state
  trails : reply.result = .ok () → reply.state.progress.ended = false →
    ∃ scene, Trails reply.state reply.state scene

section Start

variable {script : Script} {playthrough : Playthrough}

theorem Enters.of_ended {reply : Reply Playthrough Unit}
    (hsame : SameTaken playthrough reply.state) (hended : reply.state.progress.ended = true) :
    Enters playthrough reply where
  same := hsame
  trails := fun _ hgoing => by simp [hended] at hgoing

/-- An arrival that succeeds has its scene on screen, unless it is over. -/
theorem Arrival.trails_self {scene : Scene} {placed : Cursor} {reply : Reply Playthrough Unit}
    (harrival : Arrival playthrough scene placed reply) (hscene : placed.scene = some scene)
    (hok : reply.result = .ok ()) (hgoing : reply.state.progress.ended = false) :
    Trails reply.state reply.state scene := by
  cases harrival with
  | stuck error hsearch => simp at hok
  | past index hsearch => simp at hgoing
  | shown index dialogue choices hsearch =>
      have hoffering := Cursor.isActive_offering placed index choices
      exact ⟨hgoing, hoffering, hscene, hoffering, hscene, Nat.le_refl _⟩

theorem enters_loadScene (hopen : playthrough.progress.ended = false)
    (hlively : script.depletes playthrough.stage.store = false) (id : String) :
    Enters playthrough ((loadScene script id).run playthrough) := by
  cases hstory : script.story.scene? id with
  | none =>
      rw [run_loadScene_of_unknown hopen hlively hstory]
      exact .of_ended (sameTaken_cutShort playthrough .referenceFailure)
        (ended_cutShort playthrough .referenceFailure)
  | some scene =>
      obtain ⟨reply, harrival, hrun⟩ := run_loadScene_of_known hopen hlively hstory
      have hsame := harrival.sameTaken
      rw [hrun]
      constructor
      · exact ⟨hsame.store, hsame.generator, hsame.history⟩
      · intro hok hgoing
        exact ⟨scene, harrival.trails_self rfl hok hgoing⟩

theorem enters_start (hopen : playthrough.progress.ended = false) :
    Enters playthrough ((start script).run playthrough) := by
  rw [start]
  cases hdepletes : script.depletes playthrough.stage.store with
  | true =>
      rw [run_unlessOver_of_depleted hopen hdepletes]
      exact .of_ended (sameTaken_cutShort playthrough .statDepleted)
        (ended_cutShort playthrough .statDepleted)
  | false =>
      rw [run_unlessOver_of_lively hopen hdepletes]
      simp only
      cases script.settings.startScene <|> script.story.firstScene?.map Scene.id with
      | some id => exact enters_loadScene hopen hdepletes id
      | none =>
          simp only
          rw [run_finish_of_open _ hopen]
          have hhistory := history_finish playthrough.progress .scenarioComplete
          exact .of_ended ⟨rfl, rfl, hhistory⟩ (ended_finished playthrough .scenarioComplete)

end Start

/-! ## What the variables determine -/

theorem Echoes.score_eq {behind ahead : Playthrough} (hechoes : Echoes behind ahead)
    (script : Script) : behind.score script = ahead.score script := by
  simp only [score, hechoes.store]

theorem Echoes.ending?_eq {behind ahead : Playthrough} (hechoes : Echoes behind ahead)
    (script : Script) : behind.ending? script = ahead.ending? script := by
  simp only [ending?, hechoes.score_eq]

end Playthrough

namespace Chronicle

/-- Who starts the story again and makes the choices of the history settles the same. -/
theorem extendAll_replayed (script : Script) (unseeded : Generator) {calls repeated : List Call}
    (hcontinue : ∀ call ∈ calls, call.continues = true)
    (hok : (extendAll script { playthrough := script.fresh unseeded } (.start :: calls)).allOk)
    (hrepeated : repeated.map Call.choice? =
      (extendAll script { playthrough := script.fresh unseeded }
        (.start :: calls)).playthrough.progress.history.map fun entry => some entry.choice) :
    let reached := extendAll script { playthrough := script.fresh unseeded } (.start :: calls)
    let again := extendAll script { playthrough := script.fresh unseeded } (.start :: repeated)
    again.playthrough.Echoes reached.playthrough ∧
      again.events.filter Event.isSettling = reached.events.filter Event.isSettling := by
  have henters : Playthrough.Enters (script.fresh unseeded)
      ((Call.start.step script).run (script.fresh unseeded)) :=
    Playthrough.enters_start rfl
  rw [extendAll_first] at hok hrepeated ⊢
  rw [extendAll_first]
  obtain ⟨hstart, hlater⟩ := List.forall_mem_cons.mp hok
  have hechoes : Playthrough.Echoes ((Call.start.step script).run (script.fresh unseeded)).state
      ((Call.start.step script).run (script.fresh unseeded)).state :=
    ⟨rfl, rfl, henters.trails hstart⟩
  obtain ⟨entries, hhistory, hagain⟩ := extendAll_repeated hechoes hcontinue hlater
  -- Nothing was taken before the start.
  rw [henters.same.history, Script.fresh, List.nil_append] at hhistory
  obtain ⟨hechoing, hsettling⟩ := hagain repeated (hrepeated.trans (by rw [← hhistory]; rfl))
  refine ⟨hechoing, ?_⟩
  rw [List.filter_append, List.filter_append, hsettling]

end Chronicle

namespace Director

variable {World Other : Type} {director : Director World} {replayer : Director Other}

/-- Under a seed, who starts a story anew and makes the choices of the history of a run, without
advancing in between, gets the variables, the score and the ending of the run, and sees the same
changes and the same dice. -/
theorem replay_from_history (hbegun : director.Begun) (hreplayer : replayer.Begun)
    (hscript : replayer.script = director.script)
    (hseeded : director.script.settings.seed.isSome = true) {calls : List Call}
    (hcontinue : ∀ call ∈ calls, call.continues = true) (world : World)
    (hok : ∀ result ∈ (director.play (.start :: calls) world).1, result = .ok ())
    {repeated : List Call}
    (hrepeated : repeated.map Call.choice? =
      (director.play (.start :: calls) world).2.1.progress.history.map
        fun entry => some entry.choice) (elsewhere : Other) :
    let reached := (director.play (.start :: calls) world).2.1
    let again := (replayer.play (.start :: repeated) elsewhere).2.1
    again.store = reached.store ∧ again.score = reached.score ∧
      again.ending? = reached.ending? ∧
      (replayer.chronicle (.start :: repeated)).events.filter Event.isSettling =
        (director.chronicle (.start :: calls)).events.filter Event.isSettling := by
  obtain ⟨unseeded, hfresh⟩ := hbegun.playthrough_eq
  obtain ⟨other, hother⟩ := hreplayer.playthrough_eq
  rw [hscript, fresh_of_seeded hseeded other unseeded, ← hfresh] at hother
  simp only [play_eq] at hok hrepeated
  rw [chronicle, hfresh] at hok hrepeated
  obtain ⟨hechoes, hsettling⟩ :=
    Chronicle.extendAll_replayed director.script unseeded hcontinue hok hrepeated
  have hagain : replayer.chronicle (.start :: repeated) =
      Chronicle.extendAll director.script { playthrough := director.script.fresh unseeded }
        (.start :: repeated) := by
    rw [chronicle, hscript, hother, hfresh]
  have hreached : director.chronicle (.start :: calls) =
      Chronicle.extendAll director.script { playthrough := director.script.fresh unseeded }
        (.start :: calls) := by
    rw [chronicle, hfresh]
  intro reached again
  simp only [reached, again, play_eq, store, score, ending?, hagain, hreached, hscript]
  exact ⟨hechoes.store, hechoes.score_eq _, hechoes.ending?_eq _, hsettling⟩

end Director

/-- A cliff with two choices, the first of them left to chance, and a plain line before each. -/
def cliffScene : Scene where
  id := "cliff"
  dialogues :=
    [{ speaker := "Narrator", text := "The cliff is steep." },
      { speaker := "Narrator", text := "There is a rope.",
        choices :=
          [{ text := "Climb", check := some { stat := some "Confidence", difficulty := some 6 } }] },
      { speaker := "Narrator", text := "You stand on a ledge." },
      { speaker := "Narrator", text := "It is a long way down.",
        choices := [{ text := "Jump", effects := [.set "Confidence" 60] }] },
      { speaker := "Narrator", text := "You are down again." }]

def cliffStory : Story where
  scenes := [cliffScene]
  unambiguous := by decide

namespace Director

/-- The story of the cliff under a seed. -/
def climber (unseeded : Generator) : Director Unit :=
  opened cliffStory { seed := some 7 } {} unseeded

theorem begun_climber (unseeded : Generator) : (climber unseeded).Begun :=
  begun_opened cliffStory {} unseeded (by decide +kernel)

/-- The calls of a player who reads every line of the cliff and takes both choices. -/
def climbing : List Call :=
  [.advance, .choose { seconds := 0, nanoseconds := 0 } 0, .advance,
    .choose { seconds := 0, nanoseconds := 0 } 0]

/-- The calls of a player who takes the choices of a director again. -/
def repeating (director : Director Unit) : List Call :=
  director.progress.history.map fun entry => .makeChoice { seconds := 1, nanoseconds := 0 }
    entry.choice

/-- Both choices at the cliff are taken again from earlier lines, with the same luck. -/
theorem climber_replay_from_history :
    let reached := ((climber (.ofSeed 1)).play (.start :: climbing) ()).2.1
    let again := ((climber (.ofSeed 2)).play (.start :: repeating reached) ()).2.1
    again.store = reached.store ∧ again.cursor.index < reached.cursor.index :=
  have hok : ((climber (.ofSeed 1)).play (.start :: climbing) ()).1.all Except.isOk = true := by
    decide +kernel
  ⟨(replay_from_history (begun_climber (.ofSeed 1)) (begun_climber (.ofSeed 2)) rfl (by decide)
      (by decide) () (fun result hmem => isOk_iff.mp (List.all_eq_true.mp hok result hmem))
      (by simp [repeating, Call.choice?]) ()).1,
    by decide +kernel⟩

end Director

end BranchingStory
