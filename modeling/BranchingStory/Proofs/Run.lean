import BranchingStory.Director
import BranchingStory.Proofs.Turn

/-!
# Runs

A host builds a director or resets it, and makes calls from then on, whatever they give back.  The
chronicle of a list of calls keeps what they emitted, how they ended and the playthrough they led
to; the audience has no part in it, and receives exactly the events of the chronicle.

Each call of a run is a turn of a coherent playthrough.  `Director.Begun.induction` carries what
every turn preserves through a whole run, and the theorems about runs are instances of it.
-/

namespace BranchingStory

theorem isOk_iff {Error : Type} {result : Except Error Unit} :
    result.isOk = true ↔ result = .ok () := by
  cases result with
  | error error => simp [Except.isOk, Except.toBool]
  | ok value => simp [Except.isOk, Except.toBool]

/-- Results can be computed, but not compared; what they give can be. -/
theorem eq_ok_of_toOption {Error Value : Type} {result : Except Error Value} {value : Value}
    (hvalue : result.toOption = some value) : result = .ok value := by
  cases result with
  | error error => simp [Except.toOption] at hvalue
  | ok found => simpa [Except.toOption] using hvalue

/-- Whether a call met a gate that cannot be judged. -/
def failedAtGate {Value : Type} : Except PlaybackError Value → Bool
  | .error (.gate _) => true
  | .error (.effect _) | .ok _ => false

theorem failedAtGate_iff {Value : Type} {result : Except PlaybackError Value} :
    failedAtGate result = true ↔ ∃ error, result = .error (.gate error) := by
  cases result with
  | error error => cases error <;> simp [failedAtGate]
  | ok value => simp [failedAtGate]

/-- A call that a host makes. -/
inductive Call where
  | start
  | loadScene (id : String)
  | advance
  | makeChoice (time : Timestamp) (choice : Choice)
  | choose (time : Timestamp) (place : Nat)

/-- The step of a call, without what choosing tells. -/
def Call.step (script : Script) : Call → Playing Playthrough Unit
  | start => Playthrough.start script
  | loadScene id => Playthrough.loadScene script id
  | advance => Playthrough.advance script
  | makeChoice time choice => Playthrough.makeChoice script time choice
  | choose time place => (fun _ => ()) <$> Playthrough.choose script time place

theorem turn_step {script : Script} {playthrough : Playthrough}
    (hcoherent : Playthrough.Coherent script playthrough) (call : Call) :
    Playthrough.Turn script playthrough ((call.step script).run playthrough) := by
  cases call with
  | start => exact Playthrough.turn_start
  | loadScene id => exact Playthrough.turn_loadScene id
  | advance => exact Playthrough.turn_advance hcoherent
  | makeChoice time choice => exact Playthrough.turn_makeChoice hcoherent time choice
  | choose time place => exact Playthrough.turn_choose hcoherent time place

/-! ## Chronicles -/

/-- What calls have come to: the playthrough they led to, the events they emitted and the results
they gave back. -/
structure Chronicle where
  playthrough : Playthrough
  events : List Event := []
  results : List (Except PlaybackError Unit) := []

namespace Chronicle

def add (chronicle : Chronicle) (reply : Reply Playthrough Unit) : Chronicle :=
  { playthrough := reply.state, events := chronicle.events ++ reply.events,
    results := chronicle.results ++ [reply.result] }

/-- The chronicle with one more call. -/
def extend (script : Script) (chronicle : Chronicle) (call : Call) : Chronicle :=
  chronicle.add ((call.step script).run chronicle.playthrough)

/-- The chronicle with more calls. -/
def extendAll (script : Script) (chronicle : Chronicle) (calls : List Call) : Chronicle :=
  calls.foldl (extend script) chronicle

variable {script : Script} {chronicle : Chronicle}

@[simp]
theorem extendAll_nil : chronicle.extendAll script [] = chronicle := rfl

theorem extendAll_cons (call : Call) (rest : List Call) :
    chronicle.extendAll script (call :: rest) =
      (chronicle.extend script call).extendAll script rest := rfl

/-- Where the calls lead does not depend on what came before. -/
theorem extendAll_eq (chronicle : Chronicle) (calls : List Call) :
    chronicle.extendAll script calls =
      let later := extendAll script { playthrough := chronicle.playthrough } calls
      { playthrough := later.playthrough, events := chronicle.events ++ later.events,
        results := chronicle.results ++ later.results } := by
  induction calls generalizing chronicle with
  | nil => simp
  | cons call rest ih =>
      rw [extendAll_cons, extendAll_cons, ih, ih (extend _ _ _)]
      simp [extend, add]

/-- The chronicle of the calls that come after a first one. -/
theorem extendAll_first (playthrough : Playthrough) (call : Call) (rest : List Call) :
    let first := (call.step script).run playthrough
    let later := extendAll script { playthrough := first.state } rest
    extendAll script { playthrough } (call :: rest) =
      { playthrough := later.playthrough, events := first.events ++ later.events,
        results := first.result :: later.results } := by
  rw [extendAll_cons, extendAll_eq]
  rfl

/-- Whether every call succeeded. -/
def allOk (chronicle : Chronicle) : Prop := ∀ result ∈ chronicle.results, result = .ok ()

theorem allOk_add {reply : Reply Playthrough Unit} :
    (chronicle.add reply).allOk ↔ chronicle.allOk ∧ reply.result = .ok () := by
  simp [allOk, add, or_imp, forall_and]

/-- What every turn preserves holds after any calls. -/
theorem extendAll_induction {motive : Chronicle → Prop}
    (hturn : ∀ (chronicle : Chronicle) (reply : Reply Playthrough Unit),
      Playthrough.Coherent script chronicle.playthrough →
        Playthrough.Turn script chronicle.playthrough reply →
          motive chronicle → motive (chronicle.add reply))
    (hcoherent : Playthrough.Coherent script chronicle.playthrough) (hstart : motive chronicle)
    (calls : List Call) : motive (chronicle.extendAll script calls) := by
  induction calls generalizing chronicle with
  | nil => exact hstart
  | cons call rest ih =>
      have hstep := turn_step hcoherent call
      rw [extendAll_cons]
      apply ih
      · exact hstep.coherent hcoherent
      · exact hturn chronicle _ hcoherent hstep hstart

theorem coherent_extendAll (hcoherent : Playthrough.Coherent script chronicle.playthrough)
    (calls : List Call) :
    Playthrough.Coherent script (chronicle.extendAll script calls).playthrough := by
  apply extendAll_induction (motive := fun chronicle =>
    Playthrough.Coherent script chronicle.playthrough)
  · intro chronicle reply hcoherent hturn _
    exact hturn.coherent hcoherent
  · exact hcoherent
  · exact hcoherent

end Chronicle

/-! ## Directors that are called -/

theorem Audience.emitAll_append {World : Type} (audience : Audience World)
    (events later : List Event) (world : World) :
    audience.emitAll (events ++ later) world =
      (audience.emitAll events world).1.emitAll later (audience.emitAll events world).2 := by
  induction events generalizing audience world with
  | nil => rfl
  | cons event rest ih =>
      simp only [List.cons_append, emitAll]
      exact ih _ _

/-- With a seed every new playthrough has the same random source. -/
theorem fresh_of_seeded {script : Script} (hseeded : script.settings.seed.isSome = true)
    (unseeded other : Generator) : script.fresh unseeded = script.fresh other := by
  obtain ⟨seed, hseed⟩ := Option.isSome_iff_exists.mp hseeded
  simp only [Script.fresh, Script.generator, hseed]

namespace Director

variable {World : Type}

/-- One call, without what choosing tells. -/
def call (director : Director World) : Call → World → Answer World Unit
  | .start, world => director.start world
  | .loadScene id, world => director.loadScene id world
  | .advance, world => director.advance world
  | .makeChoice time choice, world => director.makeChoice time choice world
  | .choose time place, world =>
      let (result, director, world) := director.choose time place world
      (result.map fun _ => (), director, world)

/-- The calls of a host, one after the other, and all their results. -/
def play (director : Director World) :
    List Call → World → List (Except PlaybackError Unit) × Director World × World
  | [], world => ([], director, world)
  | call :: rest, world =>
      let (result, director, world) := director.call call world
      let (results, director, world) := director.play rest world
      (result :: results, director, world)

/-- The chronicle of calls of a director. -/
def chronicle (director : Director World) (calls : List Call) : Chronicle :=
  Chronicle.extendAll director.script { playthrough := director.playthrough } calls

theorem call_eq_perform (director : Director World) (call : Call) (world : World) :
    director.call call world = director.perform (call.step director.script) world := by
  cases call with
  | start | loadScene id | advance | makeChoice time choice => rfl
  | choose time place =>
      simp only [Director.call, Director.choose, perform, Call.step, Playing.run_map]

theorem choose_of_missing {director : Director World} {place : Nat}
    (hmissing : director.cursor.offered[place]? = none) (time : Timestamp) (world : World) :
    director.choose time place world = (.ok false, director, world) := by
  rw [cursor] at hmissing
  simp [Director.choose, perform, Playthrough.run_choose, hmissing, Audience.emitAll]

theorem choose_of_offered {director : Director World} {place : Nat} {choice : Choice}
    (hoffered : director.cursor.offered[place]? = some choice) (time : Timestamp)
    (world : World) :
    director.choose time place world =
      let (result, reached, world) := director.makeChoice time choice world
      (result.map fun _ => true, reached, world) := by
  rw [cursor] at hoffered
  simp only [Director.choose, Director.makeChoice, perform, Playthrough.run_choose, hoffered]

/-- A director that is called plays by the chronicle, and its audience receives the events of the
chronicle in their order. -/
theorem play_eq (director : Director World) (calls : List Call) (world : World) :
    director.play calls world =
      let told := director.audience.emitAll (director.chronicle calls).events world
      ((director.chronicle calls).results,
        { director with
          playthrough := (director.chronicle calls).playthrough, audience := told.1 },
        told.2) := by
  induction calls generalizing director world with
  | nil => rfl
  | cons call rest ih =>
      have hcall := call_eq_perform director call world
      simp only [perform] at hcall
      simp only [play, hcall, ih]
      simp only [chronicle, Chronicle.extendAll_cons]
      rw [Chronicle.extendAll_eq (Chronicle.extend _ _ _)]
      simp [Chronicle.extend, Chronicle.add, Audience.emitAll_append]

theorem script_play (director : Director World) (calls : List Call) (world : World) :
    (director.play calls world).2.1.script = director.script := by
  rw [play_eq]

theorem playthrough_play (director : Director World) (calls : List Call) (world : World) :
    (director.play calls world).2.1.playthrough = (director.chronicle calls).playthrough := by
  rw [play_eq]

/-! ## Where runs begin and lead -/

/-- A director before its first call: it was just built, or just reset. -/
inductive Begun : Director World → Prop where
  | built (story : Story) (settings : Settings) (seed : Option UInt64)
      (store : List (String × Binary64)) (channel : Channel World) (unseeded : Generator)
      (director : Director World)
      (hbuilt : build story settings seed store channel unseeded = .ok director) :
      Begun director
  | reset (director : Director World) (unseeded : Generator) : Begun (director.reset unseeded)

/-- A director that a host can have: one that was begun and called, whose channel was changed and
whose failures were taken in between. -/
inductive Reachable : Director World → Prop where
  | begun (director : Director World) (hbegun : director.Begun) : Reachable director
  | called (director : Director World) (hreachable : Reachable director) (call : Call)
      (world : World) : Reachable (director.call call world).2.1
  | rewired (director : Director World) (hreachable : Reachable director)
      (channel : Channel World) : Reachable (director.withChannel channel)
  | relieved (director : Director World) (hreachable : Reachable director) :
      Reachable { director with audience := director.audience.takeFailures.2 }

variable {director : Director World}

theorem Begun.playthrough_eq (hbegun : director.Begun) :
    ∃ unseeded, director.playthrough = director.script.fresh unseeded := by
  cases hbegun with
  | reset director unseeded => exact ⟨unseeded, rfl⟩
  | built story settings seed store channel unseeded director hbuilt =>
      simp only [build] at hbuilt
      split at hbuilt
      · cases hbuilt
      · cases hbuilt
        exact ⟨unseeded, rfl⟩

theorem Begun.coherent (hbegun : director.Begun) :
    Playthrough.Coherent director.script director.playthrough := by
  obtain ⟨unseeded, hfresh⟩ := hbegun.playthrough_eq
  rw [hfresh]
  exact Playthrough.coherent_fresh director.script unseeded

theorem Reachable.coherent (hreachable : director.Reachable) :
    Playthrough.Coherent director.script director.playthrough := by
  induction hreachable with
  | begun director hbegun => exact hbegun.coherent
  | called director hreachable call world ih =>
      rw [call_eq_perform]
      exact (turn_step ih call).coherent ih
  | rewired director hreachable channel ih => exact ih
  | relieved director hreachable ih => exact ih

/-- What holds of fresh playthroughs and what every turn preserves holds wherever a host may be. -/
theorem Reachable.induction {motive : Script → Playthrough → Prop}
    (hreachable : director.Reachable)
    (hfresh : ∀ script unseeded, motive script (script.fresh unseeded))
    (hturn : ∀ (script : Script) (playthrough : Playthrough) (reply : Reply Playthrough Unit),
      Playthrough.Turn script playthrough reply →
        motive script playthrough → motive script reply.state) :
    motive director.script director.playthrough := by
  induction hreachable with
  | begun director hbegun =>
      obtain ⟨unseeded, hplaythrough⟩ := hbegun.playthrough_eq
      rw [hplaythrough]
      exact hfresh director.script unseeded
  | called director hreachable call world ih =>
      rw [call_eq_perform]
      exact hturn _ _ _ (turn_step hreachable.coherent call) ih
  | rewired director hreachable channel ih => exact ih
  | relieved director hreachable ih => exact ih

/-- What holds before the first call and what every turn preserves holds in every run. -/
theorem Begun.induction {motive : Chronicle → Prop} (hbegun : director.Begun)
    (hstart : ∀ unseeded, motive { playthrough := director.script.fresh unseeded })
    (hturn : ∀ (chronicle : Chronicle) (reply : Reply Playthrough Unit),
      Playthrough.Coherent director.script chronicle.playthrough →
        Playthrough.Turn director.script chronicle.playthrough reply →
          motive chronicle → motive (chronicle.add reply))
    (calls : List Call) : motive (director.chronicle calls) := by
  obtain ⟨unseeded, hfresh⟩ := hbegun.playthrough_eq
  apply Chronicle.extendAll_induction hturn
  · exact hbegun.coherent
  · rw [hfresh]
    exact hstart unseeded

theorem Begun.coherent_chronicle (hbegun : director.Begun) (calls : List Call) :
    Playthrough.Coherent director.script (director.chronicle calls).playthrough :=
  Chronicle.coherent_extendAll hbegun.coherent calls

/-! ## Opening a story -/

/-- A director that plays a story under settings as they are. -/
def opened (story : Story) (settings : Settings) (channel : Channel World)
    (unseeded : Generator) : Director World :=
  let script : Script := { story, settings, initial := settings.startingValues }
  { script, playthrough := script.fresh unseeded, audience := { channel } }

theorem build_eq_opened (story : Story) {settings : Settings} (channel : Channel World)
    (unseeded : Generator) (hvalid : settings.validate.isOk = true) :
    build story settings none [] channel unseeded =
      .ok (opened story settings channel unseeded) := by
  simp only [build]
  split
  · next error hrefused => cases (isOk_iff.mp hvalid).symm.trans hrefused
  · rfl

theorem begun_opened (story : Story) {settings : Settings} (channel : Channel World)
    (unseeded : Generator) (hvalid : settings.validate.isOk = true) :
    (opened story settings channel unseeded).Begun :=
  .built story settings none [] channel unseeded _ (build_eq_opened story channel unseeded hvalid)

end Director

/-- A guard who can be bribed.  The line behind the bribe has a condition that no one can judge. -/
def guardScene : Scene where
  id := "gate"
  dialogues :=
    [{ speaker := "Guard", text := "Halt!",
       choices := [{ text := "Bribe", effects := [.set "Gold" 3] }] },
      { speaker := "Guard", text := "Pass.",
        conditions := [{ name := "Courage", comparison := .unrecognized "=~", threshold := 1 }] }]

def guardStory : Story where
  scenes := [guardScene]
  unambiguous := by decide

namespace Director

/-- The story of the guard, with nobody listening. -/
def guarded : Director Unit := opened guardStory {} {} (Generator.ofSeed 1)

theorem begun_guarded : guarded.Begun :=
  begun_opened guardStory {} (Generator.ofSeed 1) (by decide +kernel)

/-- The calls of a player who bribes the guard. -/
def bribing : List Call := [.start, .choose { seconds := 0, nanoseconds := 0 } 0]

end Director

end BranchingStory
