import BranchingStory.Proofs.Finiteness
import BranchingStory.Proofs.Restarting
import BranchingStory.Proofs.Retelling
import BranchingStory.Session

/-!
# Draining

A session keeps the events of its director until a presentation drains them, and hands them out as
a text.  Nothing gets lost on the way.  The handler that keeps them never ends and never fails, a
drain takes all that is there, and the text of a drain is read as the very events: the choices that
they offer come from a document, and their numbers are finite as long as the variables start finite.
-/

namespace BranchingStory

open Json (Rereads)

/-! ## Numbers that are told -/

/-- Changes by the rules keep finite variables finite, and each of them tells finite numbers. -/
theorem Variables.Finite.changed {store : Variables} {changes : List Change}
    (hfinite : store.Finite) (hruled : store.Ruled changes) (hmeasured : store.Measured changes) :
    (store.perform changes).Finite ∧
      ∀ change ∈ changes, change.delta.isFinite = true ∧ change.value.isFinite = true := by
  induction changes generalizing store with
  | nil => exact ⟨hfinite, List.forall_mem_nil _⟩
  | cons change rest ih =>
      obtain ⟨hvalue, hrest⟩ := hruled
      obtain ⟨hdelta, hothers⟩ := hmeasured
      have hrange : Variables.InRange change.value := hvalue (hfinite.get change.name)
      have hset : (store.set change.name change.value).Finite :=
        (Variables.rewritten_set store change.name hrange).finite hfinite
      obtain ⟨hreached, hreports⟩ := ih hset hrest hothers
      refine ⟨hreached, List.forall_mem_cons.mpr ⟨⟨?_, hrange.isFinite⟩, hreports⟩⟩
      rw [hdelta]
      exact hrange.isFinite_sub (hfinite.get change.name)

/-- Finite variables stay finite, and the events about them are plain. -/
theorem upheld_finite : Upheld Variables.Finite Event.Plain where
  changed := by
    intro store changes hfinite hlawful
    obtain ⟨hreached, hreports⟩ := hfinite.changed hlawful.ruled hlawful.measured
    refine ⟨hreached, ?_⟩
    simp only [Stage.changeEvents, List.forall_mem_cons, List.not_mem_nil, false_implies,
      implies_true, and_true]
    exact ⟨fun change hmem => ⟨hlawful.named change hmem, hreports change hmem⟩, hreached⟩
  aside := by
    intro event haside
    cases event with
    | variablesDelta changes | variablesUpdated snapshot => simp [Event.isVariables] at haside
    | _ => trivial

/-! ## Choices that are offered -/

/-- A choice of some dialogue of a story. -/
def Story.HasChoice (story : Story) (choice : Choice) : Prop :=
  ∃ scene ∈ story.scenes, ∃ dialogue ∈ scene.dialogues, choice ∈ dialogue.choices

theorem Event.Offers.imp {motive other : Choice → Prop}
    (himp : ∀ choice, motive choice → other choice) {event : Event}
    (hoffers : event.Offers motive) : event.Offers other := by
  cases event with
  | dialogueShow shown => exact fun choice hmem => himp choice (hoffers choice hmem)
  | choicesShow choices => exact fun choice hmem => himp choice (hoffers choice hmem)
  | _ => trivial

theorem Event.offers_of_isSettling {motive : Choice → Prop} {event : Event}
    (hsettling : event.isSettling = true) : event.Offers motive := by
  cases event with
  | variablesDelta changes | variablesUpdated snapshot | diceRolled roll => trivial
  | _ => simp [isSettling] at hsettling

theorem Cursor.offers_announce {motive : Choice → Prop} (scene : Scene) (dialogue : Dialogue)
    {choices : List Choice} (hchoices : ∀ choice ∈ choices, motive choice) :
    ∀ event ∈ announce scene dialogue choices, event.Offers motive := by
  intro event hmem
  rw [announce] at hmem
  split at hmem
  · rw [List.mem_singleton.mp hmem]
    exact hchoices
  · simp only [List.mem_cons, List.not_mem_nil, or_false] at hmem
    rcases hmem with rfl | rfl
    · exact hchoices
    · exact hchoices

namespace Playthrough

variable {script : Script} {playthrough : Playthrough}

theorem Arrival.offers {story : Story} {scene : Scene} {placed : Cursor}
    {reply : Reply Playthrough Unit} (harrival : Arrival playthrough scene placed reply)
    (hscene : scene ∈ story.scenes) : ∀ event ∈ reply.events, event.Offers story.HasChoice := by
  cases harrival with
  | stuck error hsearch => simp
  | past index hsearch => simp [Event.Offers]
  | shown index dialogue choices hsearch =>
      have hvisible := Cursor.searchScene_visible hsearch
      apply Cursor.offers_announce
      intro choice hmem
      rw [hvisible.choices_eq] at hmem
      exact ⟨scene, hscene, dialogue, List.mem_of_getElem? hvisible.at_index,
        (List.mem_filter.mp hmem).1⟩

theorem Departure.offers {target : Target} {reply : Reply Playthrough Unit}
    (hdeparture : Departure script playthrough target reply)
    (hcursor : playthrough.stage.cursor.Coherent script.story) :
    ∀ event ∈ reply.events, event.Offers script.story.HasChoice := by
  cases hdeparture with
  | depleted hdepleted | lost hlively hleaves id htarget hunknown => simp [Event.Offers]
  | moved hlively hstays scene hscene reply harrival =>
      have hmem := mem_of_scene? (hcursor.known scene hscene)
      have hwarning : ∀ event ∈ (placeFor playthrough.stage.cursor target).2,
          event.Offers script.story.HasChoice :=
        forall_mem_placeFor _ _ fun diagnostic => trivial
      exact List.forall_mem_append.mpr ⟨hwarning, harrival.offers hmem⟩
  | entered hlively hleaves id htarget scene hknown reply harrival =>
      have hmem := mem_of_scene? hknown
      exact List.forall_mem_cons.mpr ⟨trivial, harrival.offers hmem⟩

/-- A turn offers choices of the story. -/
theorem Turn.offers {reply : Reply Playthrough Unit} (hturn : Turn script playthrough reply)
    (hcoherent : Coherent script playthrough) :
    ∀ event ∈ reply.events, event.Offers script.story.HasChoice := by
  cases hturn with
  | ignored | refused error | waited hopen hlively hphase => simp
  | depleted hopen hdepleted | exhausted hopen hlively hempty | lost hopen hlively id hunknown =>
      simp [Event.Offers]
  | advanced hopen hlively hphase scene hscene reply harrival =>
      exact harrival.offers (mem_of_scene? (hcoherent.cursor.known scene hscene))
  | entered hopen hlively id scene hknown reply harrival =>
      have hmem := mem_of_scene? hknown
      exact List.forall_mem_cons.mpr ⟨trivial, harrival.offers hmem⟩
  | took hopen hlively hactive scene hscene time choice hvalid outcome store generator events
      hsettled hsettling reply hdeparture hsettle =>
      have hevents : ∀ event ∈ events, event.Offers script.story.HasChoice := fun event hmem =>
        Event.offers_of_isSettling (hsettling event hmem)
      exact List.forall_mem_append.mpr ⟨hevents, hdeparture.offers hcoherent.cursor⟩

end Playthrough

/-! ## Choices of a document -/

namespace Json

variable {Value : Type} {read : Json → Option Value} {values : List Value}

theorem mem_of_list? {json : Json} (hread : list? read json = some values) :
    ∀ value ∈ values, ∃ item, read item = some value := by
  cases json with
  | array items => exact mem_of_mapM hread
  | null | boolean | integer | decimal | string | object | unreadable => cases hread

/-- Every member of a list that may be missing was read. -/
theorem mem_of_listOrNone {fields : Fields} {name : String}
    (hfield : fields.withDefault name [] (list? read) = some values) :
    ∀ value ∈ values, ∃ item, read item = some value := by
  rw [Fields.withDefault] at hfield
  split at hfield
  · exact mem_of_list? hfield
  · cases hfield
    exact List.forall_mem_nil _

end Json

theorem Dialogue.rereads_choice {json : Json} {dialogue : Dialogue}
    (hread : ofJson? json = some dialogue) :
    ∀ choice ∈ dialogue.choices, Rereads Choice.ofJson? Choice.toJson choice := by
  simp only [ofJson?, Option.bind_eq_bind, Option.pure_def, Option.bind_eq_some_iff,
    Option.some.injEq] at hread
  obtain ⟨fields, -, id, -, speaker, -, text, -, directions, -, conditions, -, choices, hchoices,
    rfl⟩ := hread
  intro choice hmem
  obtain ⟨item, hitem⟩ := Json.mem_of_listOrNone hchoices choice hmem
  exact Choice.settles item choice hitem

theorem Scene.exists_dialogue {json : Json} {scene : Scene} (hread : ofJson? json = some scene) :
    ∀ dialogue ∈ scene.dialogues, ∃ item, Dialogue.ofJson? item = some dialogue := by
  simp only [ofJson?, Option.bind_eq_bind, Option.pure_def, Option.bind_eq_some_iff,
    Option.some.injEq] at hread
  obtain ⟨fields, -, id, -, title, -, description, -, dialogues, hdialogues, rfl⟩ := hread
  exact Json.mem_of_listOrNone hdialogues

namespace Story

theorem exists_scene {text : String} {story : Story} (hread : ofText text = .ok story) :
    ∀ scene ∈ story.scenes, ∃ item, Scene.ofJson? item = some scene := by
  rw [ofText] at hread
  split at hread
  · cases hread
  · next scenes hscenes =>
      split at hread
      · next accepted haccepted =>
          obtain rfl : accepted = story := Except.ok.inj hread
          obtain ⟨json, -, hdocument⟩ := Option.bind_eq_some_iff.mp hscenes
          simp only [Scene.listOfDocument?, Option.bind_eq_bind, Option.bind_eq_some_iff]
            at hdocument
          obtain ⟨fields, -, hfield⟩ := hdocument
          obtain ⟨item, -, hlist⟩ := Option.bind_eq_some_iff.mp hfield
          rw [scenes_of_ofScenes haccepted]
          exact Json.mem_of_list? hlist
      · cases hread

/-- The choices of a story that was read from a text are read again. -/
theorem rereads_choice {text : String} {story : Story} (hread : ofText text = .ok story)
    {choice : Choice} (hchoice : story.HasChoice choice) :
    Rereads Choice.ofJson? Choice.toJson choice := by
  obtain ⟨scene, hscene, dialogue, hdialogue, hmem⟩ := hchoice
  obtain ⟨document, hdocument⟩ := exists_scene hread scene hscene
  obtain ⟨line, hline⟩ := Scene.exists_dialogue hdocument dialogue hdialogue
  exact Dialogue.rereads_choice hline choice hmem

end Story

/-! ## Sessions -/

namespace Session

/-- The handler of a session does not end, and it writes down every event. -/
theorem emitAll_channel {audience : Audience Recording} (hchannel : audience.channel = channel)
    (events recording : Recording) :
    (audience.emitAll events recording).1.channel = channel ∧
      (audience.emitAll events recording).2 = recording ++ events := by
  induction events generalizing audience recording with
  | nil => exact ⟨hchannel, (List.append_nil recording).symm⟩
  | cons event rest ih =>
      have hemitted : (audience.emit event recording).2.1.channel = channel ∧
          (audience.emit event recording).2.2 = recording ++ [event] := by
        rw [Audience.emit, hchannel]
        exact ⟨rfl, rfl⟩
      obtain ⟨hkept, hwritten⟩ := hemitted
      have hrest := ih hkept (recording ++ [event])
      rw [List.append_assoc, List.singleton_append, ← hwritten] at hrest
      exact hrest

/-- What a presentation does with a session. -/
inductive Request where
  | start
  | advance
  | choose (time : Timestamp) (place : Nat)
  | loadScene (id : String)
  | drain
  | reset (unseeded : Generator)

/-- A session with all that became of its events since it was opened or reset: the texts that were
drained, and what its director has emitted. -/
structure Ledger where
  session : Session
  drained : List String := []
  emitted : List Event := []

namespace Ledger

/-- The ledger behind a call that leads to a session. -/
def told (ledger : Ledger) (call : Call) (session : Session) : Ledger :=
  { ledger with session, emitted := ledger.emitted ++ ledger.session.director.emitted call }

def serve (ledger : Ledger) : Request → Ledger
  | .start => ledger.told .start ledger.session.start.2
  | .advance => ledger.told .advance ledger.session.advance.2
  | .choose time place => ledger.told (.choose time place) (ledger.session.choose time place).2
  | .loadScene id => ledger.told (.loadScene id) (ledger.session.loadScene id).2
  | .drain =>
      let (text, session) := ledger.session.drainEvents
      { ledger with session, drained := ledger.drained ++ [text] }
  | .reset unseeded => { session := ledger.session.reset unseeded }

/-- What holds of a ledger at any time: the session goes on with its channel and finite variables,
what was emitted can be read again, and it was drained in batches or else is still there. -/
structure Balanced (script : Script) (ledger : Ledger) : Prop where
  script_eq : ledger.session.director.script = script
  channel_eq : ledger.session.director.audience.channel = channel
  coherent : Playthrough.Coherent script ledger.session.director.playthrough
  finite : ledger.session.director.store.Finite
  offers : ∀ event ∈ ledger.emitted, event.Offers script.story.HasChoice
  plain : ∀ event ∈ ledger.emitted, event.Plain
  batches : ∃ batches : List (List Event),
    ledger.drained = batches.map (fun events => Json.render (.array (events.map Event.toJson))) ∧
      batches.flatten ++ ledger.session.events = ledger.emitted

section Balanced

variable {script : Script} {ledger : Ledger}

/-- A call emits events that can be read again, and the session keeps them. -/
theorem Balanced.told (hbalanced : ledger.Balanced script)
    (hpenalty : script.settings.dice.penalty.amount.isFinite = true) (call : Call)
    {session : Session}
    (hasked : (session.director, session.events) =
      (ledger.session.director.ask call ledger.session.events).2) :
    (ledger.told call session).Balanced script := by
  obtain ⟨hscript, hchannel, hcoherent, hfinite, hoffers, hplain, batches, hdrained, htotal⟩ :=
    hbalanced
  subst hscript
  obtain ⟨hdirector, hevents⟩ := Prod.mk.inj hasked
  obtain ⟨result, hturn⟩ := Visit.turn_ask hcoherent call ledger.session.events
  rw [← hdirector] at hturn
  obtain ⟨hreached, hsound⟩ := hturn.upholds upheld_finite hpenalty hfinite
  -- The recording goes on where it was, with the events of the call behind it.
  have htold := Director.told_ask ledger.session.director call ledger.session.events
  obtain ⟨haudience, hheard⟩ := Prod.mk.inj htold
  obtain ⟨hkept, hwritten⟩ := emitAll_channel hchannel
    (ledger.session.director.emitted call) ledger.session.events
  constructor
  · rw [Ledger.told, hdirector, Director.ask_eq_perform]
    rfl
  · rw [Ledger.told, hdirector, haudience]
    exact hkept
  · exact hturn.coherent hcoherent
  · exact hreached
  · exact List.forall_mem_append.mpr ⟨hoffers, hturn.offers hcoherent⟩
  · exact List.forall_mem_append.mpr ⟨hplain, hsound⟩
  · refine ⟨batches, hdrained, ?_⟩
    rw [Ledger.told, hevents, hheard, hwritten, ← List.append_assoc, htotal]

/-- A drain moves what is there into a batch of its own. -/
theorem Balanced.drain (hbalanced : ledger.Balanced script) :
    (ledger.serve .drain).Balanced script := by
  obtain ⟨batches, hdrained, htotal⟩ := hbalanced.batches
  refine { hbalanced with batches := ⟨batches ++ [ledger.session.events], ?_, ?_⟩ }
  · simp only [serve, drainEvents, hdrained, List.map_append, List.map_cons, List.map_nil]
  · simp only [serve, drainEvents, List.flatten_append, List.flatten_singleton, List.append_nil]
    exact htotal

/-- A session that begins anew owes nothing. -/
theorem balanced_fresh {session : Session} {unseeded : Generator}
    (hscript : session.director.script = script)
    (hchannel : session.director.audience.channel = channel)
    (hfresh : session.director.playthrough = script.fresh unseeded)
    (hinitial : script.initial.Finite) (hevents : session.events = []) :
    Balanced script { session } where
  script_eq := hscript
  channel_eq := hchannel
  coherent := by
    rw [hfresh]
    exact Playthrough.coherent_fresh script unseeded
  finite := by
    rw [Director.store, hfresh]
    exact hinitial
  offers := List.forall_mem_nil _
  plain := List.forall_mem_nil _
  batches := ⟨[], rfl, hevents⟩

theorem Balanced.serve (hbalanced : ledger.Balanced script)
    (hpenalty : script.settings.dice.penalty.amount.isFinite = true)
    (hinitial : script.initial.Finite) (request : Request) :
    (ledger.serve request).Balanced script := by
  cases request with
  | start => exact hbalanced.told hpenalty .start rfl
  | advance => exact hbalanced.told hpenalty .advance rfl
  | choose time place => exact hbalanced.told hpenalty (.choose time place) rfl
  | loadScene id => exact hbalanced.told hpenalty (.loadScene id) rfl
  | drain => exact hbalanced.drain
  | reset unseeded =>
      have hfresh : (ledger.session.reset unseeded).director.playthrough =
          script.fresh unseeded := by
        rw [← hbalanced.script_eq]
        rfl
      exact balanced_fresh hbalanced.script_eq hbalanced.channel_eq hfresh hinitial rfl

theorem Balanced.run (hbalanced : ledger.Balanced script)
    (hpenalty : script.settings.dice.penalty.amount.isFinite = true)
    (hinitial : script.initial.Finite) (requests : List Request) :
    (requests.foldl Ledger.serve ledger).Balanced script := by
  induction requests generalizing ledger with
  | nil => exact hbalanced
  | cons request rest ih => exact ih (hbalanced.serve hpenalty hinitial request)

/-- The drained texts of a balanced ledger are read as the batches that were drained. -/
theorem Balanced.read (hbalanced : ledger.Balanced script)
    (hstory : ∀ choice, script.story.HasChoice choice →
      Rereads Choice.ofJson? Choice.toJson choice) :
    ∃ batches, ledger.drained.mapM Event.listOfText? = some batches ∧
      batches.flatten ++ ledger.session.events = ledger.emitted := by
  obtain ⟨batches, hdrained, htotal⟩ := hbalanced.batches
  have hemitted : ∀ batch ∈ batches, ∀ event ∈ batch, event ∈ ledger.emitted := by
    intro batch hbatch event hevent
    rw [← htotal]
    exact List.mem_append_left _ (List.mem_flatten_of_mem hbatch hevent)
  refine ⟨batches, ?_, htotal⟩
  rw [hdrained]
  apply Json.mapM_map_eq_some
  intro batch hbatch
  apply Event.listOfText?_render
  · intro event hevent
    exact (hbalanced.offers event (hemitted batch hbatch event hevent)).imp hstory
  · intro event hevent
    exact hbalanced.plain event (hemitted batch hbatch event hevent)

end Balanced

end Ledger

/-- What a session over texts is made of. -/
theorem exists_made_of_ofTexts {text : String} {configuration : Option String}
    {seed : Option UInt64} {unseeded : Generator} {session : Session}
    (hopened : ofTexts text configuration seed unseeded = .ok session) :
    ∃ story settings, Story.ofText text = .ok story ∧
      (settings.under seed).validate = .ok () ∧
      session = { director := .made story settings seed [] channel unseeded } := by
  obtain ⟨story, hstory, hconfigured⟩ := exists_ok_of_bind hopened
  have hsettings : ∃ settings, ofStory story settings seed unseeded = .ok session := by
    cases configuration with
    | none | some text =>
        obtain ⟨settings, -, hbuilt⟩ := exists_ok_of_bind hconfigured
        exact ⟨settings, hbuilt⟩
  obtain ⟨settings, hbuilt⟩ := hsettings
  have hread : Story.ofText text = .ok story := by
    cases hresult : Story.ofText text with
    | error error =>
        rw [hresult] at hstory
        cases hstory
    | ok accepted =>
        rw [hresult] at hstory
        cases hstory
        rfl
  refine ⟨story, settings, hread, ?_⟩
  cases hdirector : Director.build story settings seed [] channel unseeded with
  | error error => simp [ofStory, hdirector] at hbuilt
  | ok director =>
      obtain ⟨hvalid, rfl⟩ := Director.made_of_build hdirector
      exact ⟨hvalid, by simpa [ofStory, hdirector] using hbuilt.symm⟩

/-- Without settings a session over a story has the usual ones. -/
theorem ofTexts_of_read {text : String} {story : Story} {seed : Option UInt64}
    {unseeded : Generator} (hread : Story.ofText text = .ok story)
    (hvalid : (Settings.under {} seed).validate.isOk = true) :
    ofTexts text none seed unseeded =
      .ok { director := .made story {} seed [] channel unseeded } := by
  have hbuilt : Director.build story {} seed [] channel unseeded =
      .ok (.made story {} seed [] channel unseeded) := Director.build_eq_made hvalid
  have hstory : (Story.ofText text).mapError SessionError.story = .ok story := by
    rw [hread]
    rfl
  simp only [ofTexts, hstory, bind, Except.bind, ofStory, hbuilt]

/-- Reading the drained texts of a session as events and putting these behind each other, followed
by the events that were not drained yet, gives what its director has emitted since the session was
opened or reset: no text is unreadable, and no event is lost, repeated, moved or changed. -/
theorem drained_are_emitted {text : String} {configuration : Option String}
    {seed : Option UInt64} {unseeded : Generator} {session : Session}
    (hopened : ofTexts text configuration seed unseeded = .ok session)
    (hfinite : session.director.store.Finite) (requests : List Request) :
    let ledger := requests.foldl Ledger.serve { session }
    ∃ batches, ledger.drained.mapM Event.listOfText? = some batches ∧
      batches.flatten ++ ledger.session.events = ledger.emitted := by
  intro ledger
  obtain ⟨story, settings, hread, hvalid, rfl⟩ := exists_made_of_ofTexts hopened
  obtain ⟨hpenalty, -⟩ := Settings.finite_of_valid hvalid
  let opened : Session := { director := .made story settings seed [] channel unseeded }
  have hbegun : Ledger.Balanced opened.director.script { session := opened } :=
    Ledger.balanced_fresh rfl rfl rfl hfinite rfl
  have hbalanced := hbegun.run hpenalty hfinite requests
  exact hbalanced.read fun choice hchoice => Story.rereads_choice hread hchoice

/-- A captain who wants to see someone row. -/
def quayScene : Scene where
  id := "quay"
  dialogues :=
    [{ speaker := "Captain", text := "Can you row?",
       choices :=
        [{ text := "Like a fish", effects := [.add "Gold" 3],
           target := { dialogue := some "ashore" },
           check := some { sides := some 1, difficulty := some 2 } }] },
      { speaker := "Captain", text := "Fish swim." }]

def quayStory : Story where
  scenes := [quayScene]
  unambiguous := by decide

/-- A session over the captain under a seed. -/
def moored : Session :=
  { director := .made quayStory {} (some 7) [] channel (Generator.ofSeed 1) }

theorem ofText_quay : Story.ofText (Story.toDocument [quayScene]).render = .ok quayStory := by
  have hdocument : Scene.listOfDocument? (Story.toDocument [quayScene]) = some [quayScene] := by
    decide +kernel
  have hsettled := Scene.settles_document _ _ hdocument
  rw [Story.ofText, hsettled.writable.parse?_render, Option.bind_some, hdocument]
  rfl

theorem ofTexts_quay :
    ofTexts (Story.toDocument [quayScene]).render none (some 7) (Generator.ofSeed 1) =
      .ok moored :=
  ofTexts_of_read ofText_quay (by decide +kernel)

/-- A presentation that drains the offer and what comes of it, but not the end. -/
def rowing : List Request :=
  [.start, .drain, .choose { seconds := 0, nanoseconds := 0 } 0, .drain, .advance]

/-- Two texts are drained, which hold ten events, and the two of the end are still there. -/
theorem moored_drained :
    ofTexts (Story.toDocument [quayScene]).render none (some 7) (Generator.ofSeed 1) =
        .ok moored ∧
      moored.director.store.Finite ∧
      let ledger := rowing.foldl Ledger.serve { session := moored }
      ledger.drained.length = 2 ∧ ledger.session.events.length = 2 ∧
        ledger.emitted.length = 12 ∧
        ∃ batches, ledger.drained.mapM Event.listOfText? = some batches ∧
          batches.flatten ++ ledger.session.events = ledger.emitted := by
  have hfinite : moored.director.store.Finite := Variables.finite_of_toList (by decide +kernel)
  exact ⟨ofTexts_quay, hfinite, by decide +kernel, by decide +kernel, by decide +kernel,
    drained_are_emitted ofTexts_quay hfinite rowing⟩

end Session

end BranchingStory
