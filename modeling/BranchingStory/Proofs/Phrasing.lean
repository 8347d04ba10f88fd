import BranchingStory.Proofs.Run

/-!
# Phrases

The events of a run are not in any order: they come in phrases.  A dialogue comes with its choices,
changes come with all variables, and a die is thrown after them; a scene that runs out ends the
playthrough, and so does a missing one.  Which phrases can come next depends on where the events
have led, before the first scene, into a scene or past the end.

Each turn speaks in phrases, so a run does, also across calls that fail.  What can stand next to an
event is then read from the phrase that it stands in.
-/

namespace BranchingStory

/-- Where events have led. -/
inductive Stand where
  | unopened
  | within (scene : String)
  | ended
deriving DecidableEq

/-- Events that come together, with where the events before them and they themselves have led. -/
inductive Phrase (story : Story) : Stand → List Event → Stand → Prop where
  | entered (stand : Stand) (hgoing : stand ≠ .ended) (scene : String) :
      Phrase story stand [.sceneChanged scene] (.within scene)
  /-- A dialogue without choices. -/
  | shown (shown : DialogueShown) (hplain : shown.choices = []) :
      Phrase story (.within shown.scene) [.dialogueShow shown] (.within shown.scene)
  | offered (shown : DialogueShown) (hchoices : shown.choices ≠ []) :
      Phrase story (.within shown.scene) [.dialogueShow shown, .choicesShow shown.choices]
        (.within shown.scene)
  | warned (scene dialogue : String) :
      Phrase story (.within scene)
        [.diagnostic (.ofError .warning (.missingDialogue scene dialogue))] (.within scene)
  | changed (scene : String) (changes : List Change) (snapshot : Variables) :
      Phrase story (.within scene) [.variablesDelta changes, .variablesUpdated snapshot]
        (.within scene)
  | rolled (scene : String) (changes : List Change) (snapshot : Variables) (roll : DiceRoll) :
      Phrase story (.within scene)
        [.variablesDelta changes, .variablesUpdated snapshot, .diceRolled roll] (.within scene)
  | completed (scene : String) :
      Phrase story (.within scene) [.sceneComplete scene, .playbackEnded .scenarioComplete] .ended
  | lost (stand : Stand) (hgoing : stand ≠ .ended) (missing : String) :
      Phrase story stand
        [.diagnostic (.ofError .fatal (.missingScene missing)), .playbackEnded .referenceFailure]
        .ended
  | depleted (stand : Stand) (hgoing : stand ≠ .ended) :
      Phrase story stand [.playbackEnded .statDepleted] .ended
  /-- A story without scenes was started. -/
  | exhausted (hempty : story.scenes = []) :
      Phrase story .unopened [.playbackEnded .scenarioComplete] .ended

/-- Events that are phrases, one after the other. -/
inductive Phrased (story : Story) : Stand → List Event → Stand → Prop where
  | nil (stand : Stand) : Phrased story stand [] stand
  | cons {stand next reached : Stand} {phrase later : List Event}
      (hphrase : Phrase story stand phrase next) (hlater : Phrased story next later reached) :
      Phrased story stand (phrase ++ later) reached

/-- An event in its phrase, between the events of the phrase that come before it and after it. -/
inductive Slot (story : Story) : Stand → List Event → Event → List Event → Stand → Prop where
  | entered (stand : Stand) (scene : String) :
      Slot story stand [] (.sceneChanged scene) [] (.within scene)
  | shown (shown : DialogueShown) (hplain : shown.choices = []) :
      Slot story (.within shown.scene) [] (.dialogueShow shown) [] (.within shown.scene)
  | offering (shown : DialogueShown) :
      Slot story (.within shown.scene) [] (.dialogueShow shown) [.choicesShow shown.choices]
        (.within shown.scene)
  | offered (shown : DialogueShown) (hchoices : shown.choices ≠ []) :
      Slot story (.within shown.scene) [.dialogueShow shown] (.choicesShow shown.choices) []
        (.within shown.scene)
  | warned (scene dialogue : String) :
      Slot story (.within scene) []
        (.diagnostic (.ofError .warning (.missingDialogue scene dialogue))) [] (.within scene)
  | changing (scene : String) (changes : List Change) (snapshot : Variables)
      (right : List Event) :
      Slot story (.within scene) [] (.variablesDelta changes) (.variablesUpdated snapshot :: right)
        (.within scene)
  | changed (scene : String) (changes : List Change) (snapshot : Variables) (right : List Event) :
      Slot story (.within scene) [.variablesDelta changes] (.variablesUpdated snapshot) right
        (.within scene)
  | rolled (scene : String) (changes : List Change) (snapshot : Variables) (roll : DiceRoll) :
      Slot story (.within scene) [.variablesDelta changes, .variablesUpdated snapshot]
        (.diceRolled roll) [] (.within scene)
  | completing (scene : String) :
      Slot story (.within scene) [] (.sceneComplete scene) [.playbackEnded .scenarioComplete] .ended
  | completed (scene : String) :
      Slot story (.within scene) [.sceneComplete scene] (.playbackEnded .scenarioComplete) [] .ended
  | losing (stand : Stand) (missing : String) :
      Slot story stand [] (.diagnostic (.ofError .fatal (.missingScene missing)))
        [.playbackEnded .referenceFailure] .ended
  | lost (stand : Stand) (missing : String) :
      Slot story stand [.diagnostic (.ofError .fatal (.missingScene missing))]
        (.playbackEnded .referenceFailure) [] .ended
  | depleted (stand : Stand) : Slot story stand [] (.playbackEnded .statDepleted) [] .ended
  | exhausted (hempty : story.scenes = []) :
      Slot story .unopened [] (.playbackEnded .scenarioComplete) [] .ended

/-- An event of a run in its slot, among what is told before its phrase and after it. -/
inductive Slotted (story : Story) (start : Stand) :
    List Event → Event → List Event → Stand → Prop where
  | mk {stand next reached : Stand} {earlier left right later : List Event} {event : Event}
      (hearlier : Phrased story start earlier stand)
      (hslot : Slot story stand left event right next)
      (hlater : Phrased story next later reached) :
      Slotted story start (earlier ++ left) event (right ++ later) reached

section Grammar

variable {story : Story} {start stand middle next reached : Stand}
  {events later before after left right rest phrase : List Event} {event first second : Event}

/-- An event of a list is its first one, or one of the others. -/
theorem split_cons (hwhole : left ++ event :: right = first :: rest) :
    (left = [] ∧ event = first ∧ right = rest) ∨
      ∃ tail, left = first :: tail ∧ tail ++ event :: right = rest := by
  cases left with
  | nil =>
      obtain ⟨hevent, hright⟩ := List.cons.inj hwhole
      exact .inl ⟨rfl, hevent, hright⟩
  | cons head tail =>
      obtain ⟨rfl, htail⟩ := List.cons.inj hwhole
      exact .inr ⟨tail, rfl, htail⟩

theorem split_single (hwhole : left ++ event :: right = [first]) :
    left = [] ∧ event = first ∧ right = [] := by
  obtain hfirst | ⟨tail, rfl, htail⟩ := split_cons hwhole
  · exact hfirst
  · simp at htail

theorem split_pair (hwhole : left ++ event :: right = [first, second]) :
    (left = [] ∧ event = first ∧ right = [second]) ∨
      (left = [first] ∧ event = second ∧ right = []) := by
  obtain hfirst | ⟨tail, rfl, htail⟩ := split_cons hwhole
  · exact .inl hfirst
  · obtain ⟨rfl, hsecond⟩ := split_single htail
    exact .inr ⟨rfl, hsecond⟩

theorem Phrase.slot (hphrase : Phrase story stand (left ++ event :: right) next) :
    Slot story stand left event right next := by
  generalize hwhole : left ++ event :: right = phrase at hphrase
  cases hphrase with
  | entered stand hgoing scene =>
      obtain ⟨rfl, rfl, rfl⟩ := split_single hwhole
      exact .entered stand scene
  | shown shown hplain =>
      obtain ⟨rfl, rfl, rfl⟩ := split_single hwhole
      exact .shown shown hplain
  | offered shown hchoices =>
      obtain ⟨rfl, rfl, rfl⟩ | ⟨rfl, rfl, rfl⟩ := split_pair hwhole
      · exact .offering shown
      · exact .offered shown hchoices
  | warned scene dialogue =>
      obtain ⟨rfl, rfl, rfl⟩ := split_single hwhole
      exact .warned scene dialogue
  | changed scene changes snapshot =>
      obtain ⟨rfl, rfl, rfl⟩ | ⟨rfl, rfl, rfl⟩ := split_pair hwhole
      · exact .changing scene changes snapshot []
      · exact .changed scene changes snapshot []
  | rolled scene changes snapshot roll =>
      obtain ⟨rfl, rfl, rfl⟩ | ⟨tail, rfl, htail⟩ := split_cons hwhole
      · exact .changing scene changes snapshot [.diceRolled roll]
      · obtain ⟨rfl, rfl, rfl⟩ | ⟨rfl, rfl, rfl⟩ := split_pair htail
        · exact .changed scene changes snapshot [.diceRolled roll]
        · exact .rolled scene changes snapshot roll
  | completed scene =>
      obtain ⟨rfl, rfl, rfl⟩ | ⟨rfl, rfl, rfl⟩ := split_pair hwhole
      · exact .completing scene
      · exact .completed scene
  | lost stand hgoing missing =>
      obtain ⟨rfl, rfl, rfl⟩ | ⟨rfl, rfl, rfl⟩ := split_pair hwhole
      · exact .losing stand missing
      · exact .lost stand missing
  | depleted stand hgoing =>
      obtain ⟨rfl, rfl, rfl⟩ := split_single hwhole
      exact .depleted stand
  | exhausted hempty =>
      obtain ⟨rfl, rfl, rfl⟩ := split_single hwhole
      exact .exhausted hempty

theorem Phrase.phrased (hphrase : Phrase story stand phrase next) :
    Phrased story stand phrase next := by
  simpa using Phrased.cons hphrase (.nil next)

theorem Slotted.cons (hphrase : Phrase story stand phrase next)
    (hslotted : Slotted story next before event after reached) :
    Slotted story stand (phrase ++ before) event after reached := by
  cases hslotted with
  | mk hearlier hslot hlater =>
      rw [← List.append_assoc]
      exact .mk (.cons hphrase hearlier) hslot hlater

namespace Phrased

theorem append (hevents : Phrased story start events middle)
    (hlater : Phrased story middle later reached) :
    Phrased story start (events ++ later) reached := by
  induction hevents with
  | nil stand => exact hlater
  | cons hphrase hrest ih =>
      rw [List.append_assoc]
      exact .cons hphrase (ih hlater)

/-- Nothing is told past the end. -/
theorem eq_nil_of_ended (hphrased : Phrased story .ended events reached) : events = [] := by
  cases hphrased with
  | nil stand => rfl
  | cons hphrase hlater =>
      cases hphrase with
      | entered stand hgoing | lost stand hgoing | depleted stand hgoing => exact absurd rfl hgoing

/-- As long as no scene was opened nothing was told. -/
theorem eq_nil_of_unopened (hphrased : Phrased story start events reached)
    (hreached : reached = .unopened) : start = .unopened ∧ events = [] := by
  induction hphrased with
  | nil stand => exact ⟨hreached, rfl⟩
  | cons hphrase hlater ih =>
      obtain ⟨hnext, -⟩ := ih hreached
      cases hphrase <;> cases hnext

/-- Each event of a run stands in a phrase. -/
theorem slotted (hphrased : Phrased story start (before ++ event :: after) reached) :
    Slotted story start before event after reached := by
  generalize hevents : before ++ event :: after = events at hphrased
  induction hphrased generalizing before with
  | nil stand => simp at hevents
  | @cons stand next reached phrase later hphrase hlater ih =>
      obtain ⟨inside, hwhole, hrest⟩ | ⟨rest, rfl, hrest⟩ := List.append_eq_append_iff.mp hevents
      · cases inside with
        | nil =>
            -- The phrase ends right before the event.
            rw [List.append_nil] at hwhole
            rw [← hwhole, ← List.append_nil phrase]
            exact .cons hphrase (ih hrest)
        | cons first right =>
            obtain ⟨rfl, rfl⟩ := List.cons.inj hrest
            rw [hwhole] at hphrase
            exact .mk (.nil _) hphrase.slot hlater
      · -- The event comes in a later phrase.
        exact .cons hphrase (ih hrest.symm)

end Phrased

end Grammar

/-! ## What stands next to an event -/

def Event.changedScene? : Event → Option String
  | sceneChanged scene => some scene
  | _ => none

/-- The scene that was changed to last. -/
def lastScene (events : List Event) : Option String :=
  (events.filterMap Event.changedScene?).getLast?

/-- Whether an event may come before the first scene, or opens it. -/
def Event.mayOpen : Event → Bool
  | sceneChanged _ | playbackEnded _ => true
  | diagnostic reported => reported.severity = .fatal
  | _ => false

/-- The order that presentations can rely on. -/
structure Orderly (story : Story) (events : List Event) : Prop where
  /-- Before the first scene there is nothing but a fatal diagnostic or the end. -/
  opening : ∀ before event after, events = before ++ event :: after →
    (∀ scene, .sceneChanged scene ∉ before) → event.mayOpen = true
  /-- A dialogue, the end of a scene and a warning belong to the latest scene. -/
  shown : ∀ before shown after, events = before ++ .dialogueShow shown :: after →
    lastScene before = some shown.scene
  completed : ∀ before scene after, events = before ++ .sceneComplete scene :: after →
    lastScene before = some scene
  warned : ∀ before diagnostic after, events = before ++ .diagnostic diagnostic :: after →
    diagnostic.severity = .warning →
      ∃ scene dialogue, diagnostic = .ofError .warning (.missingDialogue scene dialogue) ∧
        lastScene before = some scene
  /-- A dialogue is followed by its choices, and choices come with their dialogue. -/
  choicesFollow : ∀ before shown after, events = before ++ .dialogueShow shown :: after →
    shown.choices ≠ [] → ∃ later, after = .choicesShow shown.choices :: later
  choicesLead : ∀ before choices after, events = before ++ .choicesShow choices :: after →
    choices ≠ [] ∧
      ∃ earlier shown, before = earlier ++ [.dialogueShow shown] ∧ shown.choices = choices
  /-- Changes are followed by all variables, which come with their changes. -/
  updateFollows : ∀ before changes after, events = before ++ .variablesDelta changes :: after →
    ∃ snapshot later, after = .variablesUpdated snapshot :: later
  deltaLeads : ∀ before snapshot after, events = before ++ .variablesUpdated snapshot :: after →
    ∃ earlier changes, before = earlier ++ [.variablesDelta changes]
  /-- A die is thrown after the variables were told. -/
  updateLeads : ∀ before roll after, events = before ++ .diceRolled roll :: after →
    ∃ earlier snapshot, before = earlier ++ [.variablesUpdated snapshot]
  /-- The end of a scene and a failure end the playthrough, and nothing is told after that. -/
  completionEnds : ∀ before scene after, events = before ++ .sceneComplete scene :: after →
    after = [.playbackEnded .scenarioComplete]
  failureEnds : ∀ before diagnostic after, events = before ++ .diagnostic diagnostic :: after →
    diagnostic.severity = .fatal → after = [.playbackEnded .referenceFailure]
  /-- The playthrough ends with a failure only for a scene that is missing. -/
  failureLeads : ∀ before after, events = before ++ .playbackEnded .referenceFailure :: after →
    ∃ earlier missing,
      before = earlier ++ [.diagnostic (.ofError .fatal (.missingScene missing))]
  /-- The playthrough is complete at the end of a scene, or at once without any scene. -/
  completionLeads : ∀ before after, events = before ++ .playbackEnded .scenarioComplete :: after →
    (∃ earlier scene, before = earlier ++ [.sceneComplete scene]) ∨
      (story.scenes = [] ∧ before = [])

/-- What a stand says about the latest scene. -/
def Stand.Agrees (latest : Option String) : Stand → Prop
  | unopened => latest = none
  | within scene => latest = some scene
  | ended => True

theorem lastScene_append (events later : List Event) :
    lastScene (events ++ later) = (lastScene later).or (lastScene events) := by
  simp [lastScene, List.getLast?_append]

theorem mem_of_lastScene {events : List Event} {scene : String}
    (hlatest : lastScene events = some scene) : .sceneChanged scene ∈ events := by
  obtain ⟨event, hmem, hevent⟩ := List.mem_filterMap.mp (List.mem_of_getLast? hlatest)
  cases event <;> simp [Event.changedScene?] at hevent
  rwa [← hevent]

section Order

variable {story : Story} {start stand next reached : Stand}
  {events before after phrase left right : List Event} {event : Event}

theorem Phrase.agrees (hphrase : Phrase story stand phrase next)
    (hstand : stand.Agrees (lastScene before)) :
    next.Agrees (lastScene (before ++ phrase)) := by
  rw [lastScene_append]
  cases hphrase with
  | entered stand hgoing scene => rfl
  | completed | lost | depleted | exhausted => trivial
  | shown | offered | warned | changed | rolled => exact hstand

theorem Phrased.agrees (hphrased : Phrased story start events reached)
    (hstart : start.Agrees (lastScene before)) :
    reached.Agrees (lastScene (before ++ events)) := by
  induction hphrased generalizing before with
  | nil stand => rwa [List.append_nil]
  | cons hphrase hlater ih =>
      rw [← List.append_assoc]
      exact ih (hphrase.agrees hstart)

/-- The scene that a run from its beginning is in was changed to last. -/
theorem Phrased.lastScene_eq {scene : String}
    (hphrased : Phrased story .unopened events (.within scene)) :
    lastScene events = some scene := by
  have hagrees : (Stand.within scene).Agrees (lastScene ([] ++ events)) := hphrased.agrees rfl
  exact hagrees

theorem Slot.mayOpen (hslot : Slot story stand left event right next)
    (hunopened : ∀ scene, stand ≠ .within scene) : event.mayOpen = true := by
  cases hslot with
  | entered | losing | lost | depleted | exhausted => rfl
  | _ => exact absurd rfl (hunopened _)

theorem Phrased.orderly (hphrased : Phrased story .unopened events reached) :
    Orderly story events where
  opening := by
    rintro before event after rfl hbefore
    obtain ⟨hearlier, hslot, hlater⟩ := hphrased.slotted
    apply hslot.mayOpen
    rintro scene rfl
    have hentered := mem_of_lastScene hearlier.lastScene_eq
    exact hbefore scene (List.mem_append_left _ hentered)
  shown := by
    rintro before shown after rfl
    obtain ⟨hearlier, hslot, hlater⟩ := hphrased.slotted
    cases hslot with
    | shown | offering => simpa using hearlier.lastScene_eq
  completed := by
    rintro before scene after rfl
    obtain ⟨hearlier, hslot, hlater⟩ := hphrased.slotted
    cases hslot with
    | completing => simpa using hearlier.lastScene_eq
  warned := by
    rintro before diagnostic after rfl hwarning
    obtain ⟨hearlier, hslot, hlater⟩ := hphrased.slotted
    cases hslot with
    | warned scene dialogue =>
        exact ⟨scene, dialogue, rfl, by simpa using hearlier.lastScene_eq⟩
    | losing stand missing => cases hwarning
  choicesFollow := by
    rintro before shown after rfl hchoices
    obtain ⟨hearlier, hslot, hlater⟩ := hphrased.slotted
    cases hslot with
    | shown shown hplain => exact absurd hplain hchoices
    | offering => exact ⟨_, rfl⟩
  choicesLead := by
    rintro before choices after rfl
    obtain ⟨hearlier, hslot, hlater⟩ := hphrased.slotted
    cases hslot with
    | offered shown hchoices => exact ⟨hchoices, _, shown, rfl, rfl⟩
  updateFollows := by
    rintro before changes after rfl
    obtain ⟨hearlier, hslot, hlater⟩ := hphrased.slotted
    cases hslot with
    | changing scene changes snapshot right => exact ⟨snapshot, _, rfl⟩
  deltaLeads := by
    rintro before snapshot after rfl
    obtain ⟨hearlier, hslot, hlater⟩ := hphrased.slotted
    cases hslot with
    | changed scene changes snapshot right => exact ⟨_, changes, rfl⟩
  updateLeads := by
    rintro before roll after rfl
    cases hphrased.slotted with
    | @mk stand next reached earlier left right later event hearlier hslot hlater =>
        cases hslot with
        | rolled scene changes snapshot roll =>
            exact ⟨earlier ++ [.variablesDelta changes], snapshot, by simp⟩
  completionEnds := by
    rintro before scene after rfl
    obtain ⟨hearlier, hslot, hlater⟩ := hphrased.slotted
    cases hslot with
    | completing => rw [hlater.eq_nil_of_ended, List.append_nil]
  failureEnds := by
    rintro before diagnostic after rfl hfatal
    obtain ⟨hearlier, hslot, hlater⟩ := hphrased.slotted
    cases hslot with
    | warned scene dialogue => cases hfatal
    | losing stand missing => rw [hlater.eq_nil_of_ended, List.append_nil]
  failureLeads := by
    rintro before after rfl
    obtain ⟨hearlier, hslot, hlater⟩ := hphrased.slotted
    cases hslot with
    | lost stand missing => exact ⟨_, missing, rfl⟩
  completionLeads := by
    rintro before after rfl
    obtain ⟨hearlier, hslot, hlater⟩ := hphrased.slotted
    cases hslot with
    | completed scene => exact .inl ⟨_, scene, rfl⟩
    | exhausted hempty =>
        obtain ⟨-, rfl⟩ := hearlier.eq_nil_of_unopened rfl
        exact .inr ⟨hempty, rfl⟩

end Order

/-! ## Every turn speaks in phrases -/

namespace Playthrough

/-- Where a playthrough stands. -/
def stand (playthrough : Playthrough) : Stand :=
  if playthrough.progress.ended then .ended
  else
    match playthrough.stage.cursor.scene with
    | none => .unopened
    | some scene => .within scene.id

section Turns

variable {script : Script} {playthrough : Playthrough} {story : Story} {scene : Scene}

theorem stand_of_ended (hended : playthrough.progress.ended = true) : playthrough.stand = .ended :=
  if_pos hended

theorem stand_ne_ended (hopen : playthrough.progress.ended = false) :
    playthrough.stand ≠ .ended := by
  rw [stand, hopen, if_neg Bool.false_ne_true]
  split <;> simp

theorem stand_of_scene (hopen : playthrough.progress.ended = false)
    (hscene : playthrough.stage.cursor.scene = some scene) :
    playthrough.stand = .within scene.id := by
  rw [stand, hopen, if_neg Bool.false_ne_true, hscene]

theorem phrase_shown (shown : DialogueShown) :
    Phrase story (.within shown.scene)
      (if shown.choices.isEmpty then [.dialogueShow shown]
        else [.dialogueShow shown, .choicesShow shown.choices]) (.within shown.scene) := by
  split
  · next hempty => exact .shown shown (List.isEmpty_iff.mp hempty)
  · next hchoices => exact .offered shown (mt List.isEmpty_iff.mpr hchoices)

theorem phrased_announce (scene : Scene) (dialogue : Dialogue) (choices : List Choice) :
    Phrased story (.within scene.id) (Cursor.announce scene dialogue choices) (.within scene.id) :=
  (phrase_shown
    { scene := scene.id, dialogue := dialogue.id, speaker := dialogue.speaker,
      text := dialogue.text, directions := dialogue.directions, choices }).phrased

theorem Arrival.phrased {placed : Cursor} {reply : Reply Playthrough Unit}
    (harrival : Arrival playthrough scene placed reply) (hscene : placed.scene = some scene)
    (hopen : playthrough.progress.ended = false) :
    Phrased story (.within scene.id) reply.events reply.state.stand := by
  cases harrival with
  | stuck error hsearch =>
      have hstand : (playthrough.withCursor placed.withdrawn).stand = .within scene.id :=
        stand_of_scene hopen hscene
      rw [hstand]
      exact .nil _
  | past index hsearch =>
      rw [stand_of_ended (ended_finished _ _)]
      exact (Phrase.completed scene.id).phrased
  | shown index dialogue choices hsearch =>
      have hstand : (playthrough.withCursor (placed.offering index choices)).noted.stand =
          .within scene.id := stand_of_scene hopen hscene
      rw [hstand]
      exact phrased_announce scene dialogue choices

theorem phrased_placeFor {cursor : Cursor} (hscene : cursor.scene = some scene)
    (target : Target) :
    Phrased story (.within scene.id) (placeFor cursor target).2 (.within scene.id) := by
  have hid : cursor.sceneId.getD "" = scene.id := by simp [Cursor.sceneId, hscene]
  rw [placeFor, hid]
  split
  · split
    · exact .nil _
    · exact (Phrase.warned scene.id _).phrased
  · exact .nil _

theorem Departure.phrased {target : Target} {reply : Reply Playthrough Unit}
    (hdeparture : Departure script playthrough target reply)
    (hopen : playthrough.progress.ended = false)
    (hscene : playthrough.stage.cursor.scene = some scene) :
    Phrased story (.within scene.id) reply.events reply.state.stand := by
  have hgoing : Stand.within scene.id ≠ .ended := by simp
  cases hdeparture with
  | depleted hdepleted =>
      rw [stand_of_ended (ended_cutShort _ _)]
      exact (Phrase.depleted _ hgoing).phrased
  | moved hlively hstays other hother reply harrival =>
      obtain rfl : other = scene := Option.some.inj (hother.symm.trans hscene)
      exact (phrased_placeFor hscene target).append (harrival.phrased hscene hopen)
  | entered hlively hleaves id htarget next hknown reply harrival =>
      exact .cons (.entered _ hgoing next.id) (harrival.phrased rfl hopen)
  | lost hlively hleaves id htarget hunknown =>
      have hended : (playthrough.cutShort .referenceFailure).noted.progress.ended = true :=
        ended_cutShort _ _
      rw [stand_of_ended hended]
      exact (Phrase.lost _ hgoing id).phrased

theorem phrased_penaltyEvents (scene : String) (changes : List Change) (store : Variables) :
    Phrased story (.within scene) (penaltyEvents changes store) (.within scene) := by
  rw [penaltyEvents]
  split
  · exact .nil _
  · exact (Phrase.changed scene changes store).phrased

theorem phrased_settle (scene : String) {choice : Choice} {stage reached : Stage}
    {outcome : Option DiceOutcome} {events : List Event}
    (hsettle : (settle script choice).run stage =
      { result := .ok outcome, state := reached, events }) :
    Phrased story (.within scene) events (.within scene) := by
  cases settlement_of_settle hsettle with
  | unchecked applied happlied hcheck => exact (Phrase.changed scene _ _).phrased
  | checked applied happlied check hcheck roll generator hthrown =>
      exact (Phrase.rolled scene applied.report applied.store roll).phrased.append
        (phrased_penaltyEvents scene _ _)

theorem Turn.phrased {reply : Reply Playthrough Unit} (hturn : Turn script playthrough reply)
    (hcoherent : Coherent script playthrough) :
    Phrased script.story playthrough.stand reply.events reply.state.stand := by
  cases hturn with
  | ignored | refused error | waited => exact .nil _
  | depleted hopen hdepleted =>
      rw [stand_of_ended (ended_cutShort _ _)]
      exact (Phrase.depleted _ (stand_ne_ended hopen)).phrased
  | exhausted hopen hlively hempty =>
      have hunopened : playthrough.stand = .unopened := by
        rw [stand, hopen, if_neg Bool.false_ne_true, hcoherent.cursor.scene_eq_none hempty]
      rw [hunopened, stand_of_ended (ended_finished _ _)]
      exact (Phrase.exhausted hempty).phrased
  | advanced hopen hlively hphase scene hscene reply harrival =>
      rw [stand_of_scene hopen hscene]
      exact harrival.phrased hscene hopen
  | entered hopen hlively id scene hknown reply harrival =>
      exact .cons (.entered _ (stand_ne_ended hopen) scene.id) (harrival.phrased rfl hopen)
  | lost hopen hlively id hunknown =>
      rw [stand_of_ended (ended_cutShort _ _)]
      exact (Phrase.lost _ (stand_ne_ended hopen) id).phrased
  | took hopen hlively hactive scene hscene time choice hvalid outcome store generator events
      hsettled hsettling reply hdeparture hsettle =>
      rw [stand_of_scene hopen hscene]
      exact (phrased_settle scene.id hsettle).append (hdeparture.phrased hopen hscene)

end Turns

end Playthrough

namespace Director

variable {World : Type} {director : Director World}

/-- A run speaks in phrases, and they lead to where the playthrough stands. -/
theorem Begun.phrased (hbegun : director.Begun) (calls : List Call) :
    Phrased director.script.story .unopened (director.chronicle calls).events
      (director.chronicle calls).playthrough.stand := by
  apply hbegun.induction (motive := fun chronicle =>
    Phrased director.script.story .unopened chronicle.events chronicle.playthrough.stand)
  · intro unseeded
    exact .nil _
  · intro chronicle reply hcoherent hturn hphrased
    exact hphrased.append (hturn.phrased hcoherent)

/-- The events that the audience of a run receives are orderly, whatever the calls gave back. -/
theorem events_orderly (hbegun : director.Begun) (calls : List Call) (world : World) :
    let events := (director.chronicle calls).events
    ((director.play calls world).2.1.audience, (director.play calls world).2.2) =
        director.audience.emitAll events world ∧
      Orderly director.script.story events := by
  refine ⟨?_, (hbegun.phrased calls).orderly⟩
  simp only [play_eq]

/-- The guard is bribed, and the failure behind the bribe leaves the order of the events alone. -/
theorem guarded_events_orderly :
    let events := (guarded.chronicle bribing).events
    events.map Event.kind =
        [.sceneChanged, .dialogueShow, .choicesShow, .variablesDelta, .variablesUpdated] ∧
      Orderly guardStory events :=
  ⟨by decide +kernel, (events_orderly begun_guarded bribing ()).2⟩

end Director

end BranchingStory
