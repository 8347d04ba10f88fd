import BranchingStory.Cursor

/-!
# What a search finds

A gate is open when each of its conditions holds.  A search through a scene comes to rest at a
dialogue with an open gate, together with exactly those of its choices whose gates are open, or
behind the scene.  A cursor that presents what the search has found has three outcomes, which
`Cursor.Presentation` lists with all that each of them leaves behind.
-/

namespace BranchingStory

theorem Phase.ne_idle_of_isActive {phase : Phase} (hactive : phase.isActive = true) :
    phase ≠ .idle := by
  rintro rfl
  simp [isActive] at hactive

theorem Phase.ne_ended_of_isActive {phase : Phase} (hactive : phase.isActive = true) :
    phase ≠ .ended := by
  rintro rfl
  simp [isActive] at hactive

/-- Whether a condition is judged to hold; one that cannot be judged does not. -/
def Condition.holds (store : Variables) (condition : Condition) : Bool :=
  match condition.check store with
  | .ok judged => judged
  | .error _ => false

theorem Condition.holds_iff {store : Variables} {condition : Condition} :
    condition.holds store = true ↔ condition.check store = .ok true := by
  rw [holds]
  cases condition.check store with
  | error error => simp
  | ok judged => simp

/-- Whether all the conditions of a gate hold. -/
def Gate.holds (store : Variables) (conditions : List Condition) : Bool :=
  conditions.all fun condition => condition.holds store

namespace Gate

theorem holds_cons (store : Variables) (condition : Condition) (rest : List Condition) :
    holds store (condition :: rest) = (condition.holds store && holds store rest) := rfl

/-- Judging the conditions one after the other gives the conjunction of the judgements. -/
theorem allHold_eq_holds {store : Variables} {conditions : List Condition} {isOpen : Bool}
    (hjudged : allHold store conditions = .ok isOpen) : isOpen = holds store conditions := by
  induction conditions with
  | nil =>
      simp only [allHold, Except.ok.injEq] at hjudged
      exact hjudged.symm
  | cons condition rest ih =>
      rw [holds_cons, Condition.holds]
      simp only [allHold] at hjudged
      cases hcheck : condition.check store with
      | error error => simp [hcheck] at hjudged
      | ok judged =>
          cases judged with
          | true => simpa using ih (by simpa [hcheck] using hjudged)
          | false =>
              simp only [hcheck, Except.ok.injEq] at hjudged
              simp [← hjudged]

theorem isOpen_eq_holds {store : Variables} {conditions : List Condition} {isOpen : Bool}
    (hjudged : Gate.isOpen store conditions = .ok isOpen) : isOpen = holds store conditions := by
  simp only [Gate.isOpen] at hjudged
  cases hvalid : validate conditions with
  | error error => simp [hvalid] at hjudged
  | ok valid => exact allHold_eq_holds (by simpa [hvalid] using hjudged)

end Gate

namespace Cursor

/-- The choices that are found open are the ones whose conditions hold, in the authored order. -/
theorem openChoices_eq_filter {store : Variables} {choices found : List Choice}
    (hfound : openChoices store choices = .ok found) :
    found = choices.filter fun choice => Gate.holds store choice.conditions := by
  induction choices generalizing found with
  | nil => simpa [openChoices] using hfound.symm
  | cons choice rest ih =>
      simp only [openChoices] at hfound
      cases hgate : Gate.isOpen store choice.conditions with
      | error error => simp [hgate] at hfound
      | ok isOpen =>
          cases hrest : openChoices store rest with
          | error error => simp [hgate, hrest] at hfound
          | ok others =>
              simp only [hgate, hrest, Except.ok.injEq] at hfound
              rw [← hfound, List.filter_cons, ← ih hrest, ← Gate.isOpen_eq_holds hgate]

/-- Where a search has found a dialogue: the dialogue stands at that place, its gate is open, and
the choices are the open ones. -/
theorem search_found {store : Variables} {start index : Nat} {dialogues : List Dialogue}
    {dialogue : Dialogue} {choices : List Choice}
    (hfound : search store start dialogues = .ok { index, dialogue := some (dialogue, choices) }) :
    start ≤ index ∧ dialogues[index - start]? = some dialogue ∧
      Gate.holds store dialogue.conditions = true ∧
      choices = dialogue.choices.filter fun choice => Gate.holds store choice.conditions := by
  induction dialogues generalizing start with
  | nil => simp [search] at hfound
  | cons head tail ih =>
      simp only [search] at hfound
      cases hgate : Gate.isOpen store head.conditions with
      | error error => simp [hgate] at hfound
      | ok isOpen =>
          cases isOpen with
          | false =>
              obtain ⟨hle, hat, hholds, hchoices⟩ := ih (by simpa [hgate] using hfound)
              refine ⟨by omega, ?_, hholds, hchoices⟩
              rw [show index - start = (index - (start + 1)) + 1 by omega]
              simpa using hat
          | true =>
              cases hopen : openChoices store head.choices with
              | error error => simp [hgate, hopen] at hfound
              | ok others =>
                  simp only [hgate, hopen, Except.ok.injEq, Sight.mk.injEq, Option.some.injEq,
                    Prod.mk.injEq] at hfound
                  obtain ⟨rfl, rfl, rfl⟩ := hfound
                  exact ⟨Nat.le_refl _, by simp, (Gate.isOpen_eq_holds hgate).symm,
                    openChoices_eq_filter hopen⟩

/-- The search of a scene from a place on. -/
def searchScene (store : Variables) (scene : Scene) (start : Nat) : Except GateError Sight :=
  search store start (scene.dialogues.drop start)

/-- A dialogue with open gate, at its place in a scene, with its open choices. -/
structure Visible (store : Variables) (scene : Scene) (index : Nat) (dialogue : Dialogue)
    (choices : List Choice) : Prop where
  at_index : scene.dialogues[index]? = some dialogue
  holds : Gate.holds store dialogue.conditions = true
  choices_eq : choices = dialogue.choices.filter fun choice => Gate.holds store choice.conditions

theorem searchScene_visible {store : Variables} {scene : Scene} {start index : Nat}
    {dialogue : Dialogue} {choices : List Choice}
    (hfound : searchScene store scene start =
      .ok { index, dialogue := some (dialogue, choices) }) :
    Visible store scene index dialogue choices := by
  obtain ⟨hle, hat, hholds, hchoices⟩ := search_found hfound
  rw [List.getElem?_drop, Nat.add_sub_cancel' hle] at hat
  exact ⟨hat, hholds, hchoices⟩

/-- Only a dialogue can keep a search from an outcome: it starts inside the scene. -/
theorem lt_length_of_stuck {store : Variables} {scene : Scene} {start : Nat} {error : GateError}
    (hstuck : searchScene store scene start = .error error) : start < scene.dialogues.length := by
  apply Nat.lt_of_not_le
  intro hbehind
  rw [searchScene, List.drop_eq_nil_of_le hbehind] at hstuck
  simp [search] at hstuck

/-! ## The outcomes of a presentation -/

/-- A cursor whose choices are withdrawn. -/
def withdrawn (cursor : Cursor) : Cursor := { cursor with offered := [] }

/-- A cursor at the end of its scene. -/
def pastEnd (cursor : Cursor) (index : Nat) : Cursor :=
  { cursor with index, phase := .ended, offered := [] }

/-- A cursor at a dialogue that offers choices, possibly none. -/
def offering (cursor : Cursor) (index : Nat) (choices : List Choice) : Cursor :=
  { cursor with
    index, phase := if choices.isEmpty then .showing else .awaitingChoice, offered := choices }

theorem isActive_offering (cursor : Cursor) (index : Nat) (choices : List Choice) :
    (cursor.offering index choices).phase.isActive = true := by
  cases choices with
  | nil => rfl
  | cons choice rest => rfl

theorem awaiting_offering (cursor : Cursor) (index : Nat) (choices : List Choice) :
    (cursor.offering index choices).offered ≠ [] →
      (cursor.offering index choices).phase = .awaitingChoice := by
  cases choices with
  | nil => simp [offering]
  | cons choice rest => simp [offering]

theorem dialogue?_offering {cursor : Cursor} {scene : Scene} (hscene : cursor.scene = some scene)
    (index : Nat) (choices : List Choice) :
    (cursor.offering index choices).dialogue? = scene.dialogues[index]? := by
  have hscene' : (cursor.offering index choices).scene = some scene := hscene
  rw [dialogue?, if_pos (isActive_offering cursor index choices), hscene']
  rfl

/-- What comes of presenting a scene from the place where a cursor was put. -/
inductive Presentation (store : Variables) (scene : Scene) (placed : Cursor) :
    Reply Cursor Unit → Prop where
  | stuck (error : GateError) (hsearch : searchScene store scene placed.index = .error error) :
      Presentation store scene placed
        { result := .error (.gate error), state := placed.withdrawn, events := [] }
  | past (index : Nat)
      (hsearch : searchScene store scene placed.index = .ok { index, dialogue := none }) :
      Presentation store scene placed
        { result := .ok (), state := placed.pastEnd index, events := [.sceneComplete scene.id] }
  | shown (index : Nat) (dialogue : Dialogue) (choices : List Choice)
      (hsearch : searchScene store scene placed.index =
        .ok { index, dialogue := some (dialogue, choices) }) :
      Presentation store scene placed
        { result := .ok (), state := placed.offering index choices,
          events := announce scene dialogue choices }

theorem presentation_present {store : Variables} {scene : Scene} {placed : Cursor}
    (hscene : placed.scene = some scene) :
    Presentation store scene placed (present store placed) := by
  obtain ⟨loaded, start, phase, offered⟩ := placed
  cases hscene
  simp only [present]
  cases hsearch : search store start (scene.dialogues.drop start) with
  | error error => exact .stuck error hsearch
  | ok sight =>
      obtain ⟨index, dialogue⟩ := sight
      cases dialogue with
      | none => exact .past index hsearch
      | some found => exact .shown index found.1 found.2 hsearch

theorem presentation_load (store : Variables) (scene : Scene) (cursor : Cursor) :
    Presentation store scene { cursor with scene := some scene, index := 0, phase := .showing }
      (load scene store cursor) :=
  presentation_present rfl

theorem presentation_jump {store : Variables} {scene : Scene} {cursor : Cursor} {index : Nat}
    (hactive : cursor.phase.isActive = true) (hscene : cursor.scene = some scene) :
    Presentation store scene { cursor with index } (jump index store cursor) := by
  rw [jump, if_pos hactive]
  exact presentation_present hscene

/-- What holds of the events that show something holds of those of a dialogue that comes on
screen. -/
theorem forall_mem_announce {motive : Event → Prop} (scene : Scene) (dialogue : Dialogue)
    (choices : List Choice) (hdialogue : ∀ shown, motive (.dialogueShow shown))
    (hchoices : motive (.choicesShow choices)) :
    ∀ event ∈ announce scene dialogue choices, motive event := by
  intro event hmem
  simp only [announce] at hmem
  split at hmem
  · rw [List.mem_singleton.mp hmem]
    exact hdialogue _
  · simp only [List.mem_cons, List.not_mem_nil, or_false] at hmem
    rcases hmem with rfl | rfl
    · exact hdialogue _
    · exact hchoices

end Cursor

end BranchingStory
