import Mathlib.Data.Nat.Find
import BranchingStory.Proofs.Placing

/-!
# Scans of a scene

To jump, to advance and to load are one thing for a cursor: it is put at a place of a scene and
scans the dialogues from there on.  A dialogue stops the scan when all its conditions hold, and also
when one of its operators is unknown, even behind a condition that is false.  Every other dialogue
is hidden.

`Cursor.Scan` says what comes of it by the first dialogue that stops the scan.  If there is none the
scene is complete.  If any condition of that dialogue or of its choices has an unknown operator, the
first of them in the authored order is the error and nothing is told.  Else the dialogue is shown
with its open choices.  What stands behind it, and what a hidden dialogue offers, has no influence.
-/

namespace BranchingStory

/-! ## Unknown operators -/

/-- What is wrong with a condition whose operator is unknown. -/
def Condition.fault? (condition : Condition) : Option GateError :=
  match condition.comparison with
  | .unrecognized written => some (.unknownOperator condition.name written)
  | _ => none

theorem Condition.fault?_eq_none_iff {condition : Condition} :
    condition.fault? = none ↔ condition.comparison.isRecognized = true := by
  rw [fault?]
  cases condition.comparison <;> simp [Comparison.isRecognized]

/-- A condition without a fault is judged. -/
theorem Condition.check_eq {condition : Condition} (hsound : condition.fault? = none)
    (store : Variables) : condition.check store = .ok (condition.holds store) := by
  rw [holds]
  simp only [fault?] at hsound
  simp only [check]
  cases hcomparison : condition.comparison with
  | unrecognized written => simp [hcomparison] at hsound
  | greater | greaterOrEqual | less | lessOrEqual | equal | notEqual => rfl

namespace Gate

/-- A gate is malformed when any of its operators is unknown. -/
def Malformed (conditions : List Condition) : Prop :=
  ∃ condition ∈ conditions, condition.comparison.isRecognized = false

/-- The fault of the first condition that has one. -/
def fault? (conditions : List Condition) : Option GateError :=
  conditions.findSome? Condition.fault?

theorem fault?_eq_none_iff {conditions : List Condition} :
    fault? conditions = none ↔ ¬ Malformed conditions := by
  simp [fault?, Malformed, List.findSome?_eq_none_iff, Condition.fault?_eq_none_iff]

theorem fault?_append (conditions others : List Condition) :
    fault? (conditions ++ others) = (fault? conditions).or (fault? others) :=
  List.findSome?_append

theorem validate_eq (conditions : List Condition) :
    validate conditions = (fault? conditions).elim (.ok ()) .error := by
  induction conditions with
  | nil => rfl
  | cons condition rest ih =>
      rw [validate, fault?, List.findSome?_cons, Condition.fault?]
      cases condition.comparison with
      | unrecognized written => rfl
      | greater | greaterOrEqual | less | lessOrEqual | equal | notEqual => exact ih

theorem allHold_eq {conditions : List Condition} (hsound : fault? conditions = none)
    (store : Variables) : allHold store conditions = .ok (holds store conditions) := by
  induction conditions with
  | nil => rfl
  | cons condition rest ih =>
      rw [fault?, List.findSome?_eq_none_iff, List.forall_mem_cons] at hsound
      rw [allHold, Condition.check_eq hsound.1, holds_cons]
      cases condition.holds store with
      | false => rfl
      | true => exact ih (List.findSome?_eq_none_iff.mpr hsound.2)

/-- A gate is judged by its first fault, and else by all its conditions. -/
theorem isOpen_eq (store : Variables) (conditions : List Condition) :
    isOpen store conditions = (fault? conditions).elim (.ok (holds store conditions)) .error := by
  rw [isOpen, validate_eq]
  cases hfault : fault? conditions with
  | none => exact allHold_eq hfault store
  | some error => rfl

end Gate

namespace Dialogue

/-- A dialogue stops a scan when its gate is malformed or holds. -/
def Stops (store : Variables) (dialogue : Dialogue) : Prop :=
  Gate.Malformed dialogue.conditions ∨ Gate.holds store dialogue.conditions = true

/-- All conditions of a dialogue in the authored order: its own, then those of its choices. -/
def authored (dialogue : Dialogue) : List Condition :=
  dialogue.conditions ++ dialogue.choices.flatMap Choice.conditions

/-- The choices whose conditions hold, in the authored order. -/
def openChoices (store : Variables) (dialogue : Dialogue) : List Choice :=
  dialogue.choices.filter fun choice => Gate.holds store choice.conditions

theorem isOpen_of_not_stops {store : Variables} {dialogue : Dialogue}
    (hhidden : ¬ dialogue.Stops store) : Gate.isOpen store dialogue.conditions = .ok false := by
  obtain ⟨hsound, hshut⟩ := not_or.mp hhidden
  rw [Gate.isOpen_eq, Gate.fault?_eq_none_iff.mpr hsound, Bool.eq_false_iff.mpr hshut]
  rfl

end Dialogue

namespace Cursor

/-! ## Searching -/

theorem openChoices_eq (store : Variables) (choices : List Choice) :
    openChoices store choices =
      (Gate.fault? (choices.flatMap Choice.conditions)).elim
        (.ok (choices.filter fun choice => Gate.holds store choice.conditions)) .error := by
  induction choices with
  | nil => rfl
  | cons choice rest ih =>
      rw [openChoices, Gate.isOpen_eq, ih, List.flatMap_cons, Gate.fault?_append, List.filter_cons]
      cases Gate.fault? choice.conditions with
      | some error => rfl
      | none =>
          cases Gate.fault? (rest.flatMap Choice.conditions) with
          | some error => rfl
          | none => rfl

/-- A search passes over hidden dialogues. -/
theorem search_append {store : Variables} {hidden : List Dialogue}
    (hhidden : ∀ dialogue ∈ hidden, ¬ dialogue.Stops store) (index : Nat)
    (rest : List Dialogue) :
    search store index (hidden ++ rest) = search store (index + hidden.length) rest := by
  induction hidden generalizing index with
  | nil => rfl
  | cons dialogue others ih =>
      obtain ⟨hfirst, hothers⟩ := List.forall_mem_cons.mp hhidden
      rw [List.cons_append, search, Dialogue.isOpen_of_not_stops hfirst]
      simp only
      rw [ih hothers, List.length_cons, Nat.add_right_comm, Nat.add_assoc]

/-- A search ends with the first dialogue that stops it. -/
theorem search_cons {store : Variables} {dialogue : Dialogue} (hstops : dialogue.Stops store)
    (index : Nat) (rest : List Dialogue) :
    search store index (dialogue :: rest) =
      (Gate.fault? dialogue.authored).elim
        (.ok { index, dialogue := some (dialogue, dialogue.openChoices store) }) .error := by
  rw [search, Gate.isOpen_eq, Dialogue.authored, Gate.fault?_append]
  cases hfault : Gate.fault? dialogue.conditions with
  | some error => rfl
  | none =>
      have hholds : Gate.holds store dialogue.conditions = true :=
        hstops.resolve_left (Gate.fault?_eq_none_iff.mp hfault)
      simp only [Option.elim_none, hholds, openChoices_eq, Option.none_or]
      cases Gate.fault? (dialogue.choices.flatMap Choice.conditions) with
      | some error => rfl
      | none => rfl

/-! ## The first dialogue that stops a scan -/

/-- A scan from `start` gets to a place: every dialogue before it is hidden. -/
structure Reaches (store : Variables) (scene : Scene) (start index : Nat) : Prop where
  from_start : start ≤ index
  hidden : ∀ place dialogue, start ≤ place → place < index →
    scene.dialogues[place]? = some dialogue → ¬ dialogue.Stops store

/-- The dialogue at the least place from `start` on that stops a scan. -/
structure FirstStop (store : Variables) (scene : Scene) (start index : Nat) (dialogue : Dialogue) :
    Prop where
  reaches : Reaches store scene start index
  at_index : scene.dialogues[index]? = some dialogue
  stops : dialogue.Stops store

/-- No dialogue from `start` on stops a scan. -/
def Unstopped (store : Variables) (scene : Scene) (start : Nat) : Prop :=
  ∀ index, start ≤ index → Reaches store scene start index

section Scenes

variable {store : Variables} {scene : Scene} {start : Nat}

/-- The dialogues that a scan passes over on its way to a place. -/
theorem Reaches.not_stops {index : Nat} (hreaches : Reaches store scene start index) :
    ∀ dialogue ∈ (scene.dialogues.drop start).take (index - start), ¬ dialogue.Stops store := by
  intro dialogue hmem
  obtain ⟨offset, hoffset⟩ := List.mem_iff_getElem?.mp hmem
  rw [List.getElem?_take] at hoffset
  split at hoffset
  · next hlt =>
      rw [List.getElem?_drop] at hoffset
      exact hreaches.hidden (start + offset) dialogue (by omega) (by omega) hoffset
  · cases hoffset

theorem FirstStop.searchScene_eq {index : Nat} {dialogue : Dialogue}
    (hfirst : FirstStop store scene start index dialogue) :
    searchScene store scene start =
      (Gate.fault? dialogue.authored).elim
        (.ok { index, dialogue := some (dialogue, dialogue.openChoices store) }) .error := by
  have hstart := hfirst.reaches.from_start
  obtain ⟨hinside, hdialogue⟩ := List.getElem?_eq_some_iff.mp hfirst.at_index
  have hsplit : scene.dialogues.drop start =
      (scene.dialogues.drop start).take (index - start) ++
        dialogue :: scene.dialogues.drop (index + 1) := by
    have hcut := List.take_append_drop (index - start) (scene.dialogues.drop start)
    rw [List.drop_drop, Nat.add_sub_cancel' hstart, List.drop_eq_getElem_cons hinside,
      hdialogue] at hcut
    exact hcut.symm
  have hpassed : ((scene.dialogues.drop start).take (index - start)).length = index - start := by
    rw [List.length_take, List.length_drop]
    omega
  rw [searchScene, hsplit, search_append hfirst.reaches.not_stops, search_cons hfirst.stops,
    hpassed, Nat.add_sub_cancel' hstart]

theorem Unstopped.searchScene_eq (hunstopped : Unstopped store scene start) :
    searchScene store scene start =
      .ok { index := max start scene.dialogues.length, dialogue := none } := by
  have hreaches := hunstopped (max start scene.dialogues.length) (Nat.le_max_left _ _)
  have hall : (scene.dialogues.drop start).take (max start scene.dialogues.length - start) =
      scene.dialogues.drop start := by
    apply List.take_of_length_le
    rw [List.length_drop]
    omega
  have hhidden := hreaches.not_stops
  rw [hall] at hhidden
  have hsearch := search_append hhidden start []
  rw [List.append_nil, List.length_drop] at hsearch
  rw [searchScene, hsearch, show start + (scene.dialogues.length - start) =
    max start scene.dialogues.length by omega]
  rfl

/-- Either some dialogue is the first to stop a scan or none stops it. -/
theorem unstopped_or_firstStop (store : Variables) (scene : Scene) (start : Nat) :
    Unstopped store scene start ∨
      ∃ index dialogue, FirstStop store scene start index dialogue := by
  classical
  by_cases hstop : ∃ index, ∃ dialogue, start ≤ index ∧
      scene.dialogues[index]? = some dialogue ∧ dialogue.Stops store
  · obtain ⟨dialogue, hfrom, hat, hstops⟩ := Nat.find_spec hstop
    refine .inr ⟨Nat.find hstop, dialogue, ⟨hfrom, ?_⟩, hat, hstops⟩
    intro place other hplace hbefore hother hstopped
    exact Nat.find_min hstop hbefore ⟨other, hplace, hother, hstopped⟩
  · refine .inl fun index hfrom => ⟨hfrom, ?_⟩
    intro place other hplace _ hother hstopped
    exact hstop ⟨place, other, hplace, hother, hstopped⟩

end Scenes

/-! ## What a scan depends on -/

/-- Two scenes that a scan from a place on cannot tell apart: as far as it gets, their dialogues
have the same conditions, and the dialogue that stops it is the same. -/
structure SameToScan (store : Variables) (start : Nat) (scene other : Scene) : Prop where
  id_eq : other.id = scene.id
  conditions_eq : ∀ index, Reaches store scene start index →
    other.dialogues[index]?.map Dialogue.conditions =
      scene.dialogues[index]?.map Dialogue.conditions
  stop_eq : ∀ index dialogue, FirstStop store scene start index dialogue →
    other.dialogues[index]? = some dialogue

section SameToScan

variable {store : Variables} {start : Nat} {scene other : Scene}

theorem Reaches.of_le {index place : Nat} (hreaches : Reaches store scene start index)
    (hstart : start ≤ place) (hplace : place ≤ index) : Reaches store scene start place :=
  ⟨hstart, fun earlier dialogue hfrom hbefore =>
    hreaches.hidden earlier dialogue hfrom (Nat.lt_of_lt_of_le hbefore hplace)⟩

theorem SameToScan.reaches (hsame : SameToScan store start scene other) {index : Nat}
    (hreaches : Reaches store scene start index) : Reaches store other start index := by
  refine ⟨hreaches.from_start, fun place dialogue hstart hbefore hdialogue => ?_⟩
  have hconditions :=
    hsame.conditions_eq place (hreaches.of_le hstart (Nat.le_of_lt hbefore))
  rw [hdialogue, Option.map_some] at hconditions
  obtain ⟨twin, htwin, htwins⟩ := Option.map_eq_some_iff.mp hconditions.symm
  have hhidden := hreaches.hidden place twin hstart hbefore htwin
  rwa [Dialogue.Stops, htwins] at hhidden

theorem SameToScan.length_eq (hsame : SameToScan store start scene other)
    (hunstopped : Unstopped store scene start) :
    max start other.dialogues.length = max start scene.dialogues.length := by
  have hbehind : ∀ index, start ≤ index →
      (other.dialogues.length ≤ index ↔ scene.dialogues.length ≤ index) := by
    intro index hfrom
    rw [← List.getElem?_eq_none_iff, ← List.getElem?_eq_none_iff,
      ← Option.map_eq_none_iff (f := Dialogue.conditions), hsame.conditions_eq index
        (hunstopped index hfrom), Option.map_eq_none_iff]
  have hother := hbehind (max start scene.dialogues.length) (Nat.le_max_left _ _)
  have hscene := hbehind (max start other.dialogues.length) (Nat.le_max_left _ _)
  omega

theorem SameToScan.searchScene_eq (hsame : SameToScan store start scene other) :
    searchScene store other start = searchScene store scene start := by
  rcases unstopped_or_firstStop store scene start with hunstopped | ⟨index, dialogue, hfirst⟩
  · have hother : Unstopped store other start := fun index hfrom =>
      hsame.reaches (hunstopped index hfrom)
    rw [hunstopped.searchScene_eq, hother.searchScene_eq, hsame.length_eq hunstopped]
  · have hother : FirstStop store other start index dialogue :=
      ⟨hsame.reaches hfirst.reaches, hsame.stop_eq index dialogue hfirst, hfirst.stops⟩
    rw [hfirst.searchScene_eq, hother.searchScene_eq]

end SameToScan

/-! ## Commands that scan -/

/-- Where a command puts a cursor in a scene, to scan the scene from there on. -/
inductive Scans (cursor : Cursor) : Command → Scene → Cursor → Prop where
  | jump (hactive : cursor.phase = .showing ∨ cursor.phase = .awaitingChoice) (scene : Scene)
      (hscene : cursor.scene = some scene) (index : Nat) :
      Scans cursor (.jump index) scene { cursor with index }
  | advance (hphase : cursor.phase = .showing) (scene : Scene)
      (hscene : cursor.scene = some scene) :
      Scans cursor .advance scene { cursor with index := cursor.index + 1 }
  | load (scene : Scene) :
      Scans cursor (.load scene) scene
        { cursor with scene := some scene, index := 0, phase := .showing }

/-- What comes of scanning a scene from the place where a cursor was put. -/
inductive Scan {World : Type} (store : Variables) (scene : Scene) (placed : Cursor)
    (outcome : Outcome World) : Prop where
  /-- No dialogue is visible, and the scene is over. -/
  | complete (hunstopped : Unstopped store scene placed.index)
      (hresult : outcome.result = .ok ())
      (hevents : outcome.events = [.sceneComplete scene.id])
      (hcursor : outcome.cursor =
        { scene := some scene, index := max placed.index scene.dialogues.length, phase := .ended,
          offered := [] })
  /-- The first dialogue that is not hidden has an unknown operator, in its own conditions or in
  those of its choices. -/
  | stuck (index : Nat) (dialogue : Dialogue)
      (hfirst : FirstStop store scene placed.index index dialogue) (error : GateError)
      (hfault : Gate.fault? dialogue.authored = some error)
      (hresult : outcome.result = .error (.gate error)) (hevents : outcome.events = [])
      (hcursor : outcome.cursor = { placed with offered := [] })
  /-- The first dialogue that is not hidden is shown with its open choices. -/
  | shown (index : Nat) (dialogue : Dialogue)
      (hfirst : FirstStop store scene placed.index index dialogue)
      (hsound : ¬ Gate.Malformed dialogue.authored) (choices : List Choice)
      (hchoices : choices =
        dialogue.choices.filter fun choice => Gate.holds store choice.conditions)
      (hresult : outcome.result = .ok ())
      (hevents : outcome.events =
        .dialogueShow
            { scene := scene.id, dialogue := dialogue.id, speaker := dialogue.speaker,
              text := dialogue.text, directions := dialogue.directions, choices } ::
          if choices = [] then [] else [.choicesShow choices])
      (hcursor : outcome.cursor =
        { scene := some scene, index,
          phase := if choices = [] then .showing else .awaitingChoice, offered := choices })

section Commands

variable {World : Type}

/-- A reply of a cursor whose events are delivered. -/
def Outcome.ofReply (surroundings : Surroundings World) (reply : Reply Cursor Unit) :
    Outcome World :=
  let (audience, world) := surroundings.audience.emitAll reply.events surroundings.world
  { result := reply.result, cursor := reply.state,
    surroundings := { surroundings with audience, world }, events := reply.events }

variable {cursor placed : Cursor} {command : Command} {scene : Scene}

theorem Scans.scene_eq (hscans : cursor.Scans command scene placed) :
    placed.scene = some scene := by
  cases hscans with
  | jump hactive scene hscene index => exact hscene
  | advance hphase scene hscene => exact hscene
  | load scene => rfl

/-- Every command that scans presents the scene from the place where it puts the cursor. -/
theorem Scans.perform_eq (hscans : cursor.Scans command scene placed)
    (surroundings : Surroundings World) :
    cursor.perform command surroundings =
      Outcome.ofReply surroundings (present surroundings.store placed) := by
  cases hscans with
  | jump hactive scene hscene index =>
      have hjump : Cursor.jump index surroundings.store cursor =
          present surroundings.store { cursor with index } :=
        if_pos (Phase.isActive_iff.mpr hactive)
      rw [← hjump]
      rfl
  | advance hphase scene hscene =>
      have hadvance : Cursor.advance surroundings.store cursor =
          Cursor.jump (cursor.index + 1) surroundings.store cursor := by
        simp only [Cursor.advance, hphase, step]
      have hjump : Cursor.jump (cursor.index + 1) surroundings.store cursor =
          present surroundings.store { cursor with index := cursor.index + 1 } :=
        if_pos (Phase.isActive_iff.mpr (.inl hphase))
      rw [← hjump, ← hadvance]
      rfl
  | load scene => rfl

theorem announce_eq (scene : Scene) (dialogue : Dialogue) (choices : List Choice) :
    announce scene dialogue choices =
      .dialogueShow
          { scene := scene.id, dialogue := dialogue.id, speaker := dialogue.speaker,
            text := dialogue.text, directions := dialogue.directions, choices } ::
        if choices = [] then [] else [.choicesShow choices] := by
  cases choices with
  | nil => rfl
  | cons choice rest => rfl

theorem offering_eq (hscene : placed.scene = some scene) (index : Nat) (choices : List Choice) :
    placed.offering index choices =
      { scene := some scene, index,
        phase := if choices = [] then .showing else .awaitingChoice, offered := choices } := by
  rw [← hscene]
  cases choices with
  | nil => rfl
  | cons choice rest => rfl

theorem scan_present (hscene : placed.scene = some scene) (surroundings : Surroundings World) :
    Scan surroundings.store scene placed
      (Outcome.ofReply surroundings (present surroundings.store placed)) := by
  have hpresentation : Presentation surroundings.store scene placed
      (present surroundings.store placed) := presentation_present hscene
  generalize present surroundings.store placed = reply at hpresentation
  rcases unstopped_or_firstStop surroundings.store scene placed.index with
    hunstopped | ⟨index, dialogue, hfirst⟩
  · have hsearch := hunstopped.searchScene_eq
    cases hpresentation with
    | past reached hreached =>
        cases hsearch.symm.trans hreached
        refine .complete hunstopped rfl rfl ?_
        rw [← hscene]
        rfl
    | stuck error hreached | shown reached other choices hreached =>
        cases hsearch.symm.trans hreached
  · have hsearch := hfirst.searchScene_eq
    cases hfault : Gate.fault? dialogue.authored with
    | some error =>
        rw [hfault] at hsearch
        cases hpresentation with
        | stuck reached hreached =>
            cases hsearch.symm.trans hreached
            exact .stuck index dialogue hfirst error hfault rfl rfl rfl
        | past reached hreached | shown reached other choices hreached =>
            cases hsearch.symm.trans hreached
    | none =>
        rw [hfault] at hsearch
        cases hpresentation with
        | shown reached other choices hreached =>
            cases hsearch.symm.trans hreached
            exact .shown index dialogue hfirst (Gate.fault?_eq_none_iff.mp hfault) _ rfl rfl
              (announce_eq scene dialogue _) (offering_eq hscene index _)
        | stuck error hreached | past reached hreached =>
            cases hsearch.symm.trans hreached

/-- A scene that a scan cannot tell from another one is presented like that one. -/
theorem SameToScan.present_eq {store : Variables} {other : Scene}
    (hsame : SameToScan store placed.index scene other) (hscene : placed.scene = some scene) :
    present store { placed with scene := some other } =
      let reply := present store placed
      { reply with state := { reply.state with scene := some other } } := by
  have hsearch := hsame.searchScene_eq
  simp only [searchScene] at hsearch
  simp only [present, hscene, hsearch]
  cases search store placed.index (scene.dialogues.drop placed.index) with
  | error error => rfl
  | ok sight =>
      obtain ⟨index, found⟩ := sight
      cases found with
      | none => simp only [hsame.id_eq]
      | some shown => simp only [announce, hsame.id_eq]

/-- A scan stops at the first dialogue that is not hidden, it only changes the cursor, and scenes
that it cannot tell apart make no difference. -/
theorem scan_stops_first (hscans : cursor.Scans command scene placed)
    (surroundings : Surroundings World) :
    let outcome := cursor.perform command surroundings
    Scan surroundings.store scene placed outcome ∧
      outcome.surroundings.store = surroundings.store ∧
      outcome.surroundings.generator = surroundings.generator ∧
      ∀ (other : Scene) (twin : Cursor) (twinCommand : Command),
        twin.Scans twinCommand other { placed with scene := some other } →
          SameToScan surroundings.store placed.index scene other →
            twin.perform twinCommand surroundings =
              { outcome with cursor := { outcome.cursor with scene := some other } } := by
  intro outcome
  have houtcome : outcome =
      Outcome.ofReply surroundings (present surroundings.store placed) :=
    hscans.perform_eq surroundings
  rw [houtcome]
  refine ⟨scan_present hscans.scene_eq surroundings, rfl, rfl, ?_⟩
  intro other twin twinCommand htwin hsame
  rw [htwin.perform_eq surroundings, hsame.present_eq hscans.scene_eq]
  rfl

end Commands

/-- An attic where a bat and a voice keep silent in the dark.  Both have an operator that no one
knows, the bat in a choice and the voice, which comes last, in its own conditions. -/
def atticScene : Scene where
  id := "attic"
  dialogues :=
    [{ speaker := "Bat", text := "Shoo!",
       conditions := [{ name := "Light", comparison := .greater, threshold := 0 }],
       choices :=
         [{ text := "Wave",
            conditions :=
              [{ name := "Courage", comparison := .unrecognized "=~", threshold := 1 }] }] },
      { speaker := "Narrator", text := "It is dark.",
        choices :=
          [{ text := "Strike a match",
             conditions := [{ name := "Matches", comparison := .greater, threshold := 0 }] },
            { text := "Go back" }] },
      { speaker := "Voice", text := "Who is there?",
        conditions := [{ name := "Courage", comparison := .unrecognized "=~", threshold := 1 }] }]

/-- Nobody listens, and no variable was written. -/
def bareSurroundings : Surroundings Unit where
  store := .empty
  generator := .ofSeed 1
  audience := {}
  world := ()

/-- Who comes into the attic is shown the second dialogue, with the one choice that is open.
Neither unknown operator is met. -/
theorem attic_shown :
    let outcome := Cursor.perform {} (.load atticScene) bareSurroundings
    Scan bareSurroundings.store atticScene { scene := some atticScene, phase := .showing } outcome ∧
      outcome.result.isOk = true ∧ outcome.cursor.index = 1 ∧
      outcome.cursor.offered.map Choice.text = ["Go back"] :=
  have hscans : Scans {} (.load atticScene) atticScene _ := .load atticScene
  ⟨(scan_stops_first hscans bareSurroundings).1, by decide +kernel⟩

end Cursor

end BranchingStory
