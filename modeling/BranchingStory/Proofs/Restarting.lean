import BranchingStory.Proofs.Listening
import BranchingStory.Proofs.Lookup

/-!
# Starting over

A director that is reset plays on like one that was just built.  Whatever its calls have done to the
variables, the random source, the cursor and the progress is made anew from the script, and no call
ever changes the script: the story, the settings with the seed that counts, and the starting values.
What a host has subscribed stays, and failures that were not taken are forgotten.
-/

namespace BranchingStory

/-- The value that a variable starts with: the one given to the builder last, or else the initial
value of the settings, or else the common start of the tracked variables. -/
def Settings.startOf (settings : Settings) (given : List (String × Binary64)) (name : String) :
    Option Binary64 :=
  (given.reverse.lookup name).or <|
    (settings.initial.find? name).or <|
      if name ∈ settings.tracked then some settings.trackedStart else none

/-- Settings under a seed that counts more than their own. -/
def Settings.under (settings : Settings) (seed : Option UInt64) : Settings :=
  { settings with seed := seed <|> settings.seed }

namespace Director

variable {World Other : Type}

/-! ## What is built -/

/-- The director that is built with settings that have no fault. -/
def made (story : Story) (settings : Settings) (seed : Option UInt64)
    (store : List (String × Binary64)) (channel : Channel World) (unseeded : Generator) :
    Director World :=
  let script : Script :=
    { story, settings := settings.under seed, initial := settings.startingValues.setAll store }
  { script, playthrough := script.fresh unseeded, audience := { channel } }

section Made

variable {story : Story} {settings : Settings} {seed : Option UInt64}
  {store : List (String × Binary64)} {channel : Channel World} {unseeded : Generator}

/-- Only a fault of the settings keeps a director from being built. -/
theorem build_eq_map :
    build story settings seed store channel unseeded =
      (settings.under seed).validate.map fun _ =>
        made story settings seed store channel unseeded := by
  cases hvalid : (settings.under seed).validate with
  | error error =>
      rw [Settings.under] at hvalid
      simp only [build, hvalid]
      rfl
  | ok valid =>
      rw [Settings.under] at hvalid
      simp only [build, hvalid]
      rfl

theorem build_eq_made (hvalid : (settings.under seed).validate.isOk = true) :
    build story settings seed store channel unseeded =
      .ok (made story settings seed store channel unseeded) := by
  rw [build_eq_map, isOk_iff.mp hvalid]
  rfl

/-- What was built has settings without a fault. -/
theorem made_of_build {director : Director World}
    (hbuilt : build story settings seed store channel unseeded = .ok director) :
    (settings.under seed).validate = .ok () ∧
      director = made story settings seed store channel unseeded := by
  rw [build_eq_map] at hbuilt
  cases hvalid : (settings.under seed).validate with
  | error error => simp [hvalid, Except.map] at hbuilt
  | ok valid => exact ⟨rfl, by simpa [hvalid, Except.map] using hbuilt.symm⟩

theorem find?_store_made (name : String) :
    (made story settings seed store channel unseeded).store.find? name =
      settings.startOf store name := by
  change (settings.startingValues.setAll store).find? name = _
  rw [Variables.find?_setAll, Settings.find?_startingValues, Settings.startOf]

end Made

/-! ## What is reset -/

/-- Two directors that come to the same from now on, whatever the moves are that both of them are
told to make. -/
structure PlaysLike (director : Director World) (other : Director Other) : Prop where
  script : other.script = director.script
  alike : ∀ world elsewhere actions others,
    others.filterMap (Action.move? director.script) =
      actions.filterMap (Action.move? director.script) →
    PlayedAlike (Visit.actAll { director, world } actions)
      (Visit.actAll { director := other, world := elsewhere } others)

theorem playsLike_of_playthrough {director : Director World} {other : Director Other}
    (hscript : other.script = director.script)
    (hplaythrough : other.playthrough = director.playthrough) : director.PlaysLike other where
  script := hscript
  alike := by
    intro world elsewhere actions others hmoves
    exact playedAlike_of_playthrough hscript hplaythrough hmoves world elsewhere

/-- After a reset, whatever was done before, a director with a seed comes to the same as one that is
just built from the same; both start with the values that the builder and the settings ask for.  The
reset keeps the subscriptions and forgets the failures. -/
theorem reset_starts_afresh {story : Story} {settings : Settings} {seed : Option UInt64}
    {store : List (String × Binary64)} {channel : Channel World} {unseeded : Generator}
    {director : Director World}
    (hbuilt : build story settings seed store channel unseeded = .ok director)
    (hseeded : (seed <|> settings.seed).isSome = true) (world : World)
    (before : List (Action World)) (dropped : Generator) (other : Channel Other)
    (undrawn : Generator) :
    let visit := Visit.actAll { director, world } before
    let restarted := visit.director.reset dropped
    ∃ anew : Director Other, build story settings seed store other undrawn = .ok anew ∧
      restarted.PlaysLike anew ∧
      (∀ name, restarted.store.find? name = settings.startOf store name ∧
        anew.store.find? name = settings.startOf store name) ∧
      restarted.audience.channel = visit.director.audience.channel ∧
      restarted.audience.failures = [] := by
  intro visit restarted
  rw [build_eq_map] at hbuilt
  cases hvalid : (settings.under seed).validate with
  | error error => simp [hvalid, Except.map] at hbuilt
  | ok valid =>
      have hmade : made story settings seed store channel unseeded = director := by
        simpa [hvalid, Except.map] using hbuilt
      let anew := made story settings seed store other undrawn
      -- No action has changed the script that both were built with.
      have hscript : anew.script = restarted.script := by
        simp only [restarted, reset, visit, Visit.script_actAll, ← hmade]
        rfl
      have hplaythrough : anew.playthrough = restarted.playthrough := by
        have hfresh : anew.playthrough = restarted.script.fresh undrawn := by
          rw [← hscript]
          rfl
        rw [hfresh]
        apply fresh_of_seeded
        rw [← hscript]
        exact hseeded
      refine ⟨anew, ?_, playsLike_of_playthrough hscript hplaythrough, ?_, rfl, rfl⟩
      · exact build_eq_made (isOk_iff.mpr hvalid)
      · intro name
        have hstart : anew.store.find? name = settings.startOf store name := find?_store_made name
        refine ⟨?_, hstart⟩
        rw [← hstart, Director.store, Director.store, hplaythrough]

/-- Settings that give the player more empathy than the other tracked stats. -/
def kindly : Settings := { initial := .ofList [("Empathy", 60)] }

/-- The story of the guard under a seed, before an audience, for a player with some courage. -/
def hired : Director (List Event) :=
  made guardStory kindly (some 7) [("Courage", 4)] noisy (Generator.ofSeed 1)

/-- The gold of the bribe and the failures of the audience are gone after a reset, and each of the
other variables starts where it did. -/
theorem hired_starts_afresh :
    let visit := Visit.actAll { director := hired, world := [] } bribingWatched
    let restarted := visit.director.reset (Generator.ofSeed 3)
    visit.director.store.contains "Gold" = true ∧ visit.director.audience.failures ≠ [] ∧
      (∃ anew : Director Unit,
        build guardStory kindly (some 7) [("Courage", 4)] {} (Generator.ofSeed 5) = .ok anew ∧
          restarted.PlaysLike anew) ∧
      restarted.store.find? "Gold" = none ∧ restarted.store.find? "Courage" = some 4 ∧
      restarted.store.find? "Empathy" = some 60 ∧ restarted.store.find? "Autonomy" = some 50 := by
  have hbuilt : build guardStory kindly (some 7) [("Courage", 4)] noisy (Generator.ofSeed 1) =
      .ok hired := build_eq_made (by decide +kernel)
  obtain ⟨anew, hanew, halike, hstart, _, _⟩ := reset_starts_afresh hbuilt (by decide) []
    bribingWatched (Generator.ofSeed 3) ({} : Channel Unit) (Generator.ofSeed 5)
  refine ⟨by decide +kernel, by decide +kernel, ⟨anew, hanew, halike⟩, ?_, ?_, ?_, ?_⟩
  · exact (hstart "Gold").1.trans (by decide +kernel)
  · exact (hstart "Courage").1.trans (by decide +kernel)
  · exact (hstart "Empathy").1.trans (by decide +kernel)
  · exact (hstart "Autonomy").1.trans (by decide +kernel)

end Director

end BranchingStory
