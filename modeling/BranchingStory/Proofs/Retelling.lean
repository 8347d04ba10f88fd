import BranchingStory.Proofs.Lookup
import BranchingStory.Proofs.Range
import BranchingStory.Proofs.Rereading
import BranchingStory.Wire.Event

/-!
# Events that are read again

An event that is written as JSON is read as the same event, on two conditions: the choices that it
offers are of the kind that a document gives, and the numbers that it tells are finite and come from
operations with a name.  Everything else about an event, its texts, its counts and its enumerations,
has a form that its reader takes back without a condition.
-/

namespace BranchingStory

open Json (Rereads Declares rereads_text rereads_natural32 rereads_double)

/-! ## Variables -/

namespace Variables

theorem insertEntry_last {name : String} (value : Binary64) {entries : List (String × Binary64)}
    (hlast : ∀ entry ∈ entries, entry.1 < name) :
    insertEntry name value entries = entries ++ [(name, value)] := by
  induction entries with
  | nil => rfl
  | cons head tail ih =>
      obtain ⟨key, old⟩ := head
      obtain ⟨hhead, htail⟩ := List.forall_mem_cons.mp hlast
      have hafter : ¬ name < key := String.lt_asymm hhead
      have hother : name ≠ key := by
        rintro rfl
        exact String.lt_irrefl name hhead
      rw [insertEntry, if_neg hafter, if_neg hother, ih htail, List.cons_append]

/-- Writing entries that come behind those of a store appends them. -/
theorem entries_setAll {rest : List (String × Binary64)} {store : Variables}
    (hordered : (store.entries ++ rest).Pairwise fun left right => left.1 < right.1) :
    (store.setAll rest).entries = store.entries ++ rest := by
  induction rest generalizing store with
  | nil => rw [List.append_nil]; rfl
  | cons entry rest ih =>
      have hlast : ∀ earlier ∈ store.entries, earlier.1 < entry.1 := fun earlier hmem =>
        (List.pairwise_append.mp hordered).2.2 earlier hmem entry List.mem_cons_self
      have hset : (store.set entry.1 entry.2).entries = store.entries ++ [entry] :=
        insertEntry_last entry.2 hlast
      have hrest := @ih (store.set entry.1 entry.2)
      rw [hset, List.append_assoc, List.singleton_append] at hrest
      exact hrest hordered

/-- A store is what its own entries are written to. -/
theorem ofList_toList (store : Variables) : ofList store.toList = store := by
  have hentries : (ofList store.toList).entries = store.entries :=
    @entries_setAll store.entries empty store.ordered
  obtain ⟨entries, ordered⟩ := store
  rw [toList] at hentries ⊢
  generalize ofList entries = written at hentries ⊢
  cases written
  cases hentries
  rfl

theorem Finite.of_mem {store : Variables} (hfinite : store.Finite) {entry : String × Binary64}
    (hmem : entry ∈ store.toList) : entry.2.isFinite = true := by
  apply hfinite entry.1
  rw [find?_eq_lookup]
  exact lookup_of_mem store.ordered hmem

theorem finite_of_toList {store : Variables}
    (hentries : store.toList.all (fun entry => entry.2.isFinite) = true) : store.Finite := by
  intro name value hvalue
  rw [find?_eq_lookup] at hvalue
  obtain ⟨earlier, later, hsplit, -⟩ := List.lookup_eq_some_iff.mp hvalue
  have hmem : (name, value) ∈ store.toList := by
    rw [hsplit]
    exact List.mem_append_right _ List.mem_cons_self
  exact List.all_eq_true.mp hentries _ hmem

/-- Finite variables are read again. -/
theorem Finite.rereads {store : Variables} (hfinite : store.Finite) :
    Rereads ofJson? toJson store := by
  have hvalue : ∀ entry ∈ store.toList, Rereads Json.double? Binary64.toJson entry.2 :=
    fun entry hmem => rereads_double (hfinite.of_mem hmem)
  have hentries : (store.toList.map fun entry => (entry.1, Binary64.toJson entry.2)).mapM
      (fun member => do
        let value ← Json.double? member.2
        return (member.1, value)) = some store.toList := by
    apply Json.mapM_map_eq_some
    intro entry hmem
    simp only [(hvalue entry hmem).again, Option.bind_eq_bind, Option.bind_some, Option.pure_def]
  refine ⟨.object _ fun member hmem => ?_, Json.noConfusion, ?_⟩
  · obtain ⟨entry, hentry, rfl⟩ := List.mem_map.mp hmem
    exact (hvalue entry hentry).writable
  · calc
      ofJson? (toJson store) = some (ofList store.toList) :=
        congrArg (Option.bind · fun entries => some (ofList entries)) hentries
      _ = some store := congrArg some (ofList_toList store)

end Variables

/-! ## Values of a few kinds -/

theorem Operation.rereads {operation : Operation} (hknown : operation.isRecognized = true) :
    Rereads ofJson? toJson operation := by
  refine ⟨.string _, Json.noConfusion, ?_⟩
  cases operation with
  | unrecognized written => cases hknown
  | _ => decide +kernel

theorem DiceOutcome.rereads (stored : Bool) (outcome : DiceOutcome) :
    Rereads (ofJson? stored) toJson outcome := by
  cases outcome with
  | success | failure => exact ⟨.string _, Json.noConfusion, rfl⟩

theorem Severity.rereads (stored : Bool) (severity : Severity) :
    Rereads (ofJson? stored) toJson severity := by
  cases severity with
  | warning | fatal => exact ⟨.string _, Json.noConfusion, rfl⟩

theorem EndReason.rereads (stored : Bool) (reason : EndReason) :
    Rereads (ofJson? stored) toJson reason := by
  cases reason with
  | scenarioComplete | referenceFailure | statDepleted =>
      exact ⟨.string _, Json.noConfusion, rfl⟩

/-! ## Records -/

namespace Json

variable {Value : Type} {read : Json → Option Value} {write : Value → Json} {value : Value}

theorem isWritable_ofText? (text : Option String) :
    ∀ json ∈ some (ofText? text), json.IsWritable := by
  rintro json ⟨⟩
  cases text with
  | none => exact .null
  | some text => exact .string text

/-- A text that is written as null when it is unset. -/
theorem Declares.nullableText {declared : List Field} {members : List (String × Option Json)}
    (hdeclares : Declares declared members) (name : String) (text : Option String)
    (hmem : (name, some (ofText? text)) ∈ members) :
    Fields.optional (presentMembers members) name text? = some text := by
  rw [Fields.optional, hdeclares.get? hmem]
  cases text with
  | none => rfl
  | some text => rfl

/-- A record with one field. -/
theorem onlyField?_object (name : String) (hreread : Rereads read write value) :
    Event.onlyField? name read (.object [(name, write value)]) = some value := by
  have hdeclares : Declares [⟨name, false⟩] [(name, some (write value))] := ⟨rfl, by simp⟩
  have hwritten : object [(name, write value)] = .ofMembers [(name, some (write value))] := rfl
  simp only [Event.onlyField?, hwritten, hdeclares.fields?,
    hdeclares.required name (by simp) hreread, Option.bind_eq_bind, Option.bind_some]

theorem Rereads.isWritable_object (name : String) (hreread : Rereads read write value) :
    (object [(name, write value)]).IsWritable := by
  refine .object _ fun member hmem => ?_
  rw [List.mem_singleton.mp hmem]
  exact hreread.writable

end Json

theorem DialogueShown.rereads {shown : DialogueShown}
    (hchoices : ∀ choice ∈ shown.choices, Rereads Choice.ofJson? Choice.toJson choice) :
    Rereads ofJson? toJson shown := by
  obtain ⟨scene, dialogue, speaker, text, directions, choices⟩ := shown
  have hlist := Json.rereads_list hchoices
  obtain ⟨members, hmembers⟩ : ∃ members : List (String × Option Json), members =
      [("sceneId", some (.string scene)), ("dialogueId", some (.ofText? dialogue)),
        ("speaker", some (.string speaker)), ("text", some (.string text)),
        ("stageDirections", some (.ofText? directions)),
        ("choices", some (.array (choices.map Choice.toJson)))] := ⟨_, rfl⟩
  have hdeclares : Declares
      [⟨"sceneId", false⟩, ⟨"dialogueId", false⟩, ⟨"speaker", false⟩, ⟨"text", false⟩,
        ⟨"stageDirections", false⟩, ⟨"choices", false⟩] members := hmembers ▸ ⟨rfl, by decide⟩
  have hwritten : toJson { scene, dialogue, speaker, text, directions, choices } =
      .ofMembers members := by
    rw [hmembers]
    rfl
  refine ⟨?_, Json.noConfusion, ?_⟩
  · rw [hwritten]
    apply Json.isWritable_ofMembers
    simp only [hmembers, List.forall_mem_cons]
    exact ⟨(rereads_text scene).isWritable_some, Json.isWritable_ofText? dialogue,
      (rereads_text speaker).isWritable_some, (rereads_text text).isWritable_some,
      Json.isWritable_ofText? directions, hlist.isWritable_some, List.forall_mem_nil _⟩
  · simp only [ofJson?, hwritten, hdeclares.fields?,
      hdeclares.required "sceneId" (by simp [hmembers]) (rereads_text scene),
      hdeclares.nullableText "dialogueId" dialogue (by simp [hmembers]),
      hdeclares.required "speaker" (by simp [hmembers]) (rereads_text speaker),
      hdeclares.required "text" (by simp [hmembers]) (rereads_text text),
      hdeclares.nullableText "stageDirections" directions (by simp [hmembers]),
      hdeclares.required "choices" (by simp [hmembers]) hlist, Option.bind_eq_bind,
      Option.bind_some, Option.pure_def]

theorem Change.rereads {change : Change} (hknown : change.operation.isRecognized = true)
    (hdelta : change.delta.isFinite = true) (hvalue : change.value.isFinite = true) :
    Rereads ofJson? toJson change := by
  obtain ⟨name, operation, delta, value⟩ := change
  replace hknown := Operation.rereads hknown
  replace hdelta := rereads_double hdelta
  replace hvalue := rereads_double hvalue
  obtain ⟨members, hmembers⟩ : ∃ members : List (String × Option Json), members =
      [("variable", some (.string name)), ("operation", some operation.toJson),
        ("delta", some delta.toJson), ("value", some value.toJson)] := ⟨_, rfl⟩
  have hdeclares : Declares
      [⟨"variable", false⟩, ⟨"operation", false⟩, ⟨"delta", false⟩, ⟨"value", false⟩] members :=
    hmembers ▸ ⟨rfl, by decide⟩
  have hwritten : toJson { name, operation, delta, value } = .ofMembers members := by
    rw [hmembers]
    rfl
  refine ⟨?_, Json.noConfusion, ?_⟩
  · rw [hwritten]
    apply Json.isWritable_ofMembers
    simp only [hmembers, List.forall_mem_cons]
    exact ⟨(rereads_text name).isWritable_some, hknown.isWritable_some, hdelta.isWritable_some,
      hvalue.isWritable_some, List.forall_mem_nil _⟩
  · simp only [ofJson?, hwritten, hdeclares.fields?,
      hdeclares.required "variable" (by simp [hmembers]) (rereads_text name),
      hdeclares.required "operation" (by simp [hmembers]) hknown,
      hdeclares.required "delta" (by simp [hmembers]) hdelta,
      hdeclares.required "value" (by simp [hmembers]) hvalue, Option.bind_eq_bind,
      Option.bind_some, Option.pure_def]

theorem DiceRoll.rereads (stored : Bool) (roll : DiceRoll) :
    Rereads (ofJson? stored) toJson roll := by
  obtain ⟨face, sides, difficulty, outcome, stat⟩ := roll
  have houtcome := outcome.rereads stored
  obtain ⟨members, hmembers⟩ : ∃ members : List (String × Option Json), members =
      [("roll", some (UInt32.toJson face)), ("sides", some (UInt32.toJson sides)),
        ("difficulty", some (UInt32.toJson difficulty)), ("outcome", some outcome.toJson),
        ("stat", some (.ofText? stat))] := ⟨_, rfl⟩
  have hdeclares : Declares
      [⟨"roll", false⟩, ⟨"sides", false⟩, ⟨"difficulty", false⟩, ⟨"outcome", false⟩,
        ⟨"stat", false⟩] members := hmembers ▸ ⟨rfl, by decide⟩
  have hwritten : toJson { face, sides, difficulty, outcome, stat } = .ofMembers members := by
    rw [hmembers]
    rfl
  refine ⟨?_, Json.noConfusion, ?_⟩
  · rw [hwritten]
    apply Json.isWritable_ofMembers
    simp only [hmembers, List.forall_mem_cons]
    exact ⟨(rereads_natural32 face).isWritable_some, (rereads_natural32 sides).isWritable_some,
      (rereads_natural32 difficulty).isWritable_some, houtcome.isWritable_some,
      Json.isWritable_ofText? stat, List.forall_mem_nil _⟩
  · simp only [ofJson?, hwritten, hdeclares.fields?,
      hdeclares.required "roll" (by simp [hmembers]) (rereads_natural32 face),
      hdeclares.required "sides" (by simp [hmembers]) (rereads_natural32 sides),
      hdeclares.required "difficulty" (by simp [hmembers]) (rereads_natural32 difficulty),
      hdeclares.required "outcome" (by simp [hmembers]) houtcome,
      hdeclares.nullableText "stat" stat (by simp [hmembers]), Option.bind_eq_bind,
      Option.bind_some, Option.pure_def]

/-- The kind of a reference error is one of the members of its object, and the others are the fields
of the kind. -/
theorem ReferenceError.rereads {levels : Nat} (hlevels : 2 ≤ levels) (stored : Bool)
    (error : ReferenceError) : Rereads (ofJson? levels stored) toJson error := by
  have hstorable : (toJson error).isStorable levels = true := by
    cases error <;> simp [toJson, Json.isStorable, Json.areStorableMembers, hlevels]
  cases error with
  | missingScene scene =>
      have hdeclares : Declares [⟨"scene_id", false⟩] [("scene_id", some (.string scene))] :=
        ⟨rfl, by decide⟩
      refine ⟨.object _ ?_, Json.noConfusion, ?_⟩
      · simp only [List.forall_mem_cons]
        exact ⟨.string _, .string _, List.forall_mem_nil _⟩
      · have hfield := hdeclares.required "scene_id" List.mem_cons_self (rereads_text scene)
        unfold ofJson?
        rw [hstorable]
        change ofKind? "missing_scene" (.ofMembers [("scene_id", some (.string scene))]) = _
        simp only [ofKind?, hdeclares.fields?, hfield, Option.bind_eq_bind, Option.bind_some,
          Option.pure_def]
  | missingDialogue scene dialogue =>
      have hdeclares : Declares [⟨"scene_id", false⟩, ⟨"dialogue_id", false⟩]
          [("scene_id", some (.string scene)), ("dialogue_id", some (.string dialogue))] :=
        ⟨rfl, by decide⟩
      refine ⟨.object _ ?_, Json.noConfusion, ?_⟩
      · simp only [List.forall_mem_cons]
        exact ⟨.string _, .string _, .string _, List.forall_mem_nil _⟩
      · have hscene := hdeclares.required "scene_id" (by simp) (rereads_text scene)
        have hdialogue := hdeclares.required "dialogue_id" (by simp) (rereads_text dialogue)
        unfold ofJson?
        rw [hstorable]
        change ofKind? "missing_dialogue" (.ofMembers
          [("scene_id", some (.string scene)), ("dialogue_id", some (.string dialogue))]) = _
        simp only [ofKind?, hdeclares.fields?, hscene, hdialogue, Option.bind_eq_bind,
          Option.bind_some, Option.pure_def]

theorem Diagnostic.rereads {levels : Nat} (hlevels : 3 ≤ levels) (stored : Bool)
    (diagnostic : Diagnostic) : Rereads (ofJson? levels stored) toJson diagnostic := by
  obtain ⟨severity, error, message⟩ := diagnostic
  have hseverity := severity.rereads stored
  have herror := ReferenceError.rereads (Nat.le_sub_one_of_lt hlevels) stored error
  obtain ⟨members, hmembers⟩ : ∃ members : List (String × Option Json), members =
      [("severity", some severity.toJson), ("error", some error.toJson),
        ("message", some (.string message))] := ⟨_, rfl⟩
  have hdeclares : Declares [⟨"severity", false⟩, ⟨"error", false⟩, ⟨"message", false⟩] members :=
    hmembers ▸ ⟨rfl, by decide⟩
  have hwritten : toJson { severity, error, message } = .ofMembers members := by
    rw [hmembers]
    rfl
  refine ⟨?_, Json.noConfusion, ?_⟩
  · rw [hwritten]
    apply Json.isWritable_ofMembers
    simp only [hmembers, List.forall_mem_cons]
    exact ⟨hseverity.isWritable_some, herror.isWritable_some,
      (rereads_text message).isWritable_some, List.forall_mem_nil _⟩
  · simp only [ofJson?, hwritten, hdeclares.fields?,
      hdeclares.required "severity" (by simp [hmembers]) hseverity,
      hdeclares.required "error" (by simp [hmembers]) herror,
      hdeclares.required "message" (by simp [hmembers]) (rereads_text message),
      Option.bind_eq_bind, Option.bind_some, Option.pure_def]

/-! ## Events -/

namespace Event

/-- What holds of the choices that an event offers. -/
def Offers (motive : Choice → Prop) : Event → Prop
  | dialogueShow shown => ∀ choice ∈ shown.choices, motive choice
  | choicesShow choices => ∀ choice ∈ choices, motive choice
  | _ => True

/-- The numbers of an event are finite, and its changes come from operations with a name. -/
def Plain : Event → Prop
  | variablesDelta changes =>
      ∀ change ∈ changes, change.operation.isRecognized = true ∧
        change.delta.isFinite = true ∧ change.value.isFinite = true
  | variablesUpdated snapshot => snapshot.Finite
  | _ => True

/-- The content of an event is read again behind its name. -/
theorem ofContent?_contentToJson {event : Event}
    (hoffers : event.Offers (Rereads Choice.ofJson? Choice.toJson)) (hplain : event.Plain)
    {levels : Nat} (hlevels : 3 ≤ levels) :
    event.contentToJson.IsWritable ∧
      ofContent? levels false event.name event.contentToJson = some event := by
  cases event with
  | dialogueShow shown =>
      have hshown := DialogueShown.rereads hoffers
      exact ⟨hshown.writable, congrArg (Option.map dialogueShow) hshown.again⟩
  | choicesShow choices =>
      have hchoices := Json.rereads_list hoffers
      exact ⟨hchoices.isWritable_object "choices",
        congrArg (Option.map choicesShow) (Json.onlyField?_object "choices" hchoices)⟩
  | variablesDelta changes =>
      have hchanges := Json.rereads_list fun change hmem =>
        Change.rereads (hplain change hmem).1 (hplain change hmem).2.1 (hplain change hmem).2.2
      exact ⟨hchanges.isWritable_object "deltas",
        congrArg (Option.map variablesDelta) (Json.onlyField?_object "deltas" hchanges)⟩
  | variablesUpdated snapshot =>
      have hsnapshot := Variables.Finite.rereads hplain
      exact ⟨hsnapshot.isWritable_object "snapshot",
        congrArg (Option.map variablesUpdated) (Json.onlyField?_object "snapshot" hsnapshot)⟩
  | sceneComplete scene =>
      have hscene := rereads_text scene
      exact ⟨hscene.isWritable_object "sceneId",
        congrArg (Option.map sceneComplete) (Json.onlyField?_object "sceneId" hscene)⟩
  | sceneChanged scene =>
      have hscene := rereads_text scene
      exact ⟨hscene.isWritable_object "sceneId",
        congrArg (Option.map sceneChanged) (Json.onlyField?_object "sceneId" hscene)⟩
  | diceRolled roll =>
      have hroll := roll.rereads false
      refine ⟨hroll.writable, ?_⟩
      change diceRolled <$> DiceRoll.ofJson? false roll.toJson = some (diceRolled roll)
      rw [hroll.again]
      rfl
  | diagnostic report =>
      have hreport := report.rereads hlevels false
      exact ⟨hreport.writable, congrArg (Option.map diagnostic) hreport.again⟩
  | playbackEnded reason =>
      have hreason := reason.rereads false
      exact ⟨hreason.isWritable_object "reason",
        congrArg (Option.map playbackEnded) (Json.onlyField?_object "reason" hreason)⟩

/-- An event that offers choices as they are read and tells plain numbers is read again. -/
theorem rereads {event : Event} (hoffers : event.Offers (Rereads Choice.ofJson? Choice.toJson))
    (hplain : event.Plain) {levels : Nat} (hlevels : 4 ≤ levels) :
    Rereads (ofJson? levels) toJson event := by
  have hleft : 3 ≤ levels - 1 := Nat.le_sub_one_of_lt hlevels
  obtain ⟨hwritable, hread⟩ := ofContent?_contentToJson hoffers hplain hleft
  refine ⟨.object _ ?_, Json.noConfusion, hread⟩
  simp only [List.forall_mem_cons]
  exact ⟨.string _, hwritable, List.forall_mem_nil _⟩

/-- Reads a list of events from a text. -/
def listOfText? (text : String) : Option (List Event) :=
  (Json.parse? text).bind (Json.list? (ofJson? (Json.storedLevels - 1)))

/-- A list of such events is read from the text that is written of it. -/
theorem listOfText?_render {events : List Event}
    (hoffers : ∀ event ∈ events, event.Offers (Rereads Choice.ofJson? Choice.toJson))
    (hplain : ∀ event ∈ events, event.Plain) :
    listOfText? (Json.render (.array (events.map toJson))) = some events := by
  have hlist : Rereads (Json.list? (ofJson? (Json.storedLevels - 1)))
      (fun events => .array (events.map toJson)) events :=
    Json.rereads_list fun event hmem =>
      rereads (hoffers event hmem) (hplain event hmem) (by decide)
  have hparsed := hlist.writable.parse?_render
  rw [listOfText?, hparsed]
  exact hlist.again

end Event

end BranchingStory
