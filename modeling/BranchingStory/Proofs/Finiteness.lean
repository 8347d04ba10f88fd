import BranchingStory.Proofs.Listening
import BranchingStory.Proofs.Range
import BranchingStory.Proofs.Rounding
import BranchingStory.Proofs.Sourcing
import BranchingStory.Ron.Settings

/-!
# Finite variables

The rules of a playthrough make no infinite value and no not-a-number out of finite ones, and a
variable is changed by its own value alone.  Settings that are read from a text have a finite common
start, a finite penalty and finite thresholds, but nothing is asked of their initial values, and the
text of a number may be `NaN` or `inf`.  So a variable stays finite through everything that a host
does if and only if its initial value, where the text gives one, is finite.
-/

namespace BranchingStory

/-! ## Sums, differences and means of numbers -/

namespace Binary64

variable {left right : Binary64}

/-- Adding a finite double to a number gives a number, even where the sum has overflown before. -/
theorem isNan_add_of_number (hleft : left.isNan = false) (hright : right.isFinite = true) :
    (left + right).isNan = false := by
  cases left with
  | nan => cases hleft
  | infinite negative =>
      obtain ⟨_, _, _, rfl⟩ := exists_eq_finite hright
      rfl
  | finite negative magnitude fits => exact isNan_add rfl hright

/-- A number divided by a double that is neither infinite nor zero is a number. -/
theorem isNan_div (hleft : left.isNan = false) (negative : Bool) {magnitude : Nat}
    (fits : Fits magnitude) (hpositive : magnitude ≠ 0) :
    (left / finite negative magnitude fits).isNan = false := by
  cases left with
  | nan => cases hleft
  | infinite sign => rfl
  | finite sign units small =>
      simp only [HDiv.hDiv, Div.div, divide, if_neg hpositive, isNan_rounded]

/-- The double of a count is neither infinite nor zero. -/
theorem ofNat_of_count {count : Nat} (hpositive : 0 < count) (hcount : count < UInt64.size) :
    ∃ magnitude fits, ofNat count = finite false magnitude fits ∧ magnitude ≠ 0 := by
  have hbits : count < 2 ^ 64 := hcount
  have hfinite := nearest_whole_lt hbits (by decide)
  exact ⟨_, _, rounded_of_lt false hfinite, Nat.ne_of_gt (nearest_whole_pos hpositive)⟩

/-- The order of finite doubles is that of their units. -/
theorem signedUnits_le_of_atMost {negative sign : Bool} {magnitude units : Nat}
    {fits : Fits magnitude} {hfits : Fits units}
    (hle : (finite negative magnitude fits).atMost (finite sign units hfits) = true) :
    signedUnits negative magnitude ≤ signedUnits sign units := by
  simp only [atMost, equal, less, isNan, Bool.or_eq_true, Bool.and_eq_true, Bool.not_eq_true',
    decide_eq_true_eq, decide_eq_false_iff_not] at hle
  omega

/-- The difference of a small double and any finite one does not overflow. -/
theorem isFinite_sub_of_small {negative : Bool} {magnitude small : Nat} (fits : Fits magnitude)
    (hmagnitude : magnitude ≤ 2 ^ small) (hsmall : small < 2044) {right : Binary64}
    (hright : right.isFinite = true) : (finite negative magnitude fits - right).isFinite = true := by
  obtain ⟨sign, units, hfits, rfl⟩ := exists_eq_finite hright
  obtain ⟨power, hpower, hlarge⟩ : ∃ power, power + 54 = 2098 ∧ small < power := ⟨_, rfl, hsmall⟩
  have hover : overflowUnits = 2 ^ (power + 54) :=
    overflowUnits_eq.trans (congrArg (fun power => 2 ^ power) hpower.symm)
  have hlittle : magnitude < 2 ^ power := lt_of_le_two_pow rfl hmagnitude hlarge
  change (add (finite negative magnitude fits) (finite (!sign) units hfits)).isFinite = true
  simp only [add]
  have hsum : (signedUnits negative magnitude + signedUnits (!sign) units).natAbs ≤
      magnitude + units := by
    simp only [signedUnits]
    split <;> split <;> omega
  have hnearest := nearest_add_lt_two_pow hlittle hfits.2 (hover ▸ hfits.1) hsum
  rw [← hover] at hnearest
  rw [rounded_of_lt _ hnearest]
  rfl

end Binary64

namespace Variables

theorem lowest_eq : ∃ fits, lowest = .finite false 0 fits :=
  ⟨by decide +kernel, by decide +kernel⟩

theorem highest_eq : ∃ magnitude fits power,
    highest = .finite false magnitude fits ∧ magnitude ≤ 2 ^ power ∧ power < 2044 := by
  obtain ⟨magnitude, fits, hhighest, hmagnitude⟩ :=
    @Binary64.exists_ofNat_eq 100 7 (by decide) (by decide)
  exact ⟨magnitude, fits, _, hhighest, hmagnitude, by decide⟩

/-- A value in the range is a small double. -/
theorem InRange.exists_small {value : Binary64} (hrange : InRange value) :
    ∃ negative magnitude fits power,
      value = .finite negative magnitude fits ∧ magnitude ≤ 2 ^ power ∧ power < 2044 := by
  obtain ⟨negative, magnitude, fits, rfl⟩ := Binary64.exists_eq_finite hrange.isFinite
  obtain ⟨hlow, hhigh⟩ := hrange
  obtain ⟨_, hlowest⟩ := lowest_eq
  obtain ⟨greatest, _, power, hhighest, hgreatest, hpower⟩ := highest_eq
  rw [hlowest] at hlow
  rw [hhighest] at hhigh
  replace hlow := Binary64.signedUnits_le_of_atMost hlow
  replace hhigh := Binary64.signedUnits_le_of_atMost hhigh
  refine ⟨negative, magnitude, fits, power, rfl, ?_, hpower⟩
  have hmagnitude : magnitude ≤ greatest := by
    clear hgreatest
    cases negative with
    | true =>
        simp only [Binary64.signedUnits, if_true, Bool.false_eq_true, if_false] at hlow
        omega
    | false =>
        simp only [Binary64.signedUnits, Bool.false_eq_true, if_false] at hhigh
        omega
  exact Nat.le_trans hmagnitude hgreatest

/-- The difference of a value in the range and any finite double is finite. -/
theorem InRange.isFinite_sub {value before : Binary64} (hrange : InRange value)
    (hbefore : before.isFinite = true) : (value - before).isFinite = true := by
  obtain ⟨negative, magnitude, fits, power, rfl, hmagnitude, hpower⟩ := hrange.exists_small
  exact Binary64.isFinite_sub_of_small fits hmagnitude hpower hbefore

end Variables

/-- The score is a number as long as the tracked variables are finite. -/
theorem Playthrough.isNan_score {script : Script} {playthrough : Playthrough}
    (hfinite : ∀ name ∈ script.settings.tracked,
      (playthrough.stage.store.get name).isFinite = true)
    (hcount : script.settings.tracked.length < UInt64.size) :
    (playthrough.score script).isNan = false := by
  have hsum : ∀ sum : Binary64, sum.isNan = false →
      (script.settings.tracked.foldl (fun sum name => sum + playthrough.stage.store.get name)
        sum).isNan = false := by
    generalize script.settings.tracked = names at hfinite
    induction names with
    | nil =>
        intro sum hsum
        exact hsum
    | cons name rest ih =>
        obtain ⟨hname, hrest⟩ := List.forall_mem_cons.mp hfinite
        intro sum hsum
        exact ih hrest _ (Binary64.isNan_add_of_number hsum hname)
  rw [score]
  split
  · decide +kernel
  · next hsome =>
      have hpositive : 0 < script.settings.tracked.length := by
        apply List.length_pos_iff.mpr
        simpa using hsome
      obtain ⟨magnitude, fits, hlength, hmagnitude⟩ := Binary64.ofNat_of_count hpositive hcount
      rw [hlength]
      apply Binary64.isNan_roundToWhole
      exact Binary64.isNan_div (hsum _ (by decide +kernel)) false fits hmagnitude

/-! ## What rules make of one variable -/

namespace Variables

/-- A variable that reads as a finite double. -/
def FiniteAt (store : Variables) (name : String) : Prop := (store.get name).isFinite = true

/-- Each change writes a value in the range, provided that its variable was finite before it. -/
def Ruled (store : Variables) : List Change → Prop
  | [] => True
  | change :: rest =>
      (store.FiniteAt change.name → InRange change.value) ∧
        Ruled (store.set change.name change.value) rest

section Ruled

variable {store : Variables} {name : String}

/-- A write keeps a variable finite if it is another one or if the value is finite. -/
theorem FiniteAt.set (hfinite : store.FiniteAt name) {other : String} {value : Binary64}
    (hvalue : name = other → value.isFinite = true) : (store.set other value).FiniteAt name := by
  rw [FiniteAt, get_set]
  split
  · next hname => exact hvalue hname
  · exact hfinite

theorem FiniteAt.perform {changes : List Change} (hfinite : store.FiniteAt name)
    (hruled : store.Ruled changes) : (store.perform changes).FiniteAt name := by
  induction changes generalizing store with
  | nil => exact hfinite
  | cons change rest ih =>
      obtain ⟨hvalue, hrest⟩ := hruled
      refine ih (hfinite.set ?_) hrest
      rintro rfl
      exact (hvalue hfinite).isFinite

/-- What changes report of a finite variable is finite, up to the difference, which is a number. -/
theorem Ruled.reports {changes : List Change} (hruled : store.Ruled changes)
    (hmeasured : store.Measured changes) (hfinite : store.FiniteAt name) :
    ∀ change ∈ changes, change.name = name →
      change.value.isFinite = true ∧ change.delta.isNan = false := by
  induction changes generalizing store with
  | nil => simp
  | cons change rest ih =>
      obtain ⟨hvalue, hrest⟩ := hruled
      obtain ⟨hdelta, hothers⟩ := hmeasured
      have hsound : change.name = name →
          change.value.isFinite = true ∧ change.delta.isNan = false := by
        rintro rfl
        have hwritten := (hvalue hfinite).isFinite
        have hnegated : (-store.get change.name).isFinite = true := by
          rwa [Binary64.isFinite_neg]
        exact ⟨hwritten, hdelta ▸ Binary64.isNan_add hwritten hnegated⟩
      have hkept : (store.set change.name change.value).FiniteAt name :=
        hfinite.set fun hname => (hsound hname.symm).1
      exact List.forall_mem_cons.mpr ⟨hsound, ih hrest hothers hkept⟩

end Ruled

end Variables

/-- Changes as rules make them: each is measured, each comes from an operation with a name, and each
writes a value in the range unless it found one that was not finite. -/
structure Variables.Lawful (store : Variables) (changes : List Change) : Prop where
  ruled : store.Ruled changes
  measured : store.Measured changes
  named : ∀ change ∈ changes, change.operation.isRecognized = true

namespace Effect

theorem applyInOrder_ruled {effects : List Effect} {store : Variables} {generator : Generator}
    {outcome : Outcome (List Change)}
    (happlied : applyInOrder effects store generator = .ok outcome) :
    store.Ruled outcome.report := by
  induction effects generalizing store generator outcome with
  | nil =>
      cases happlied
      trivial
  | cons effect rest ih =>
      obtain ⟨first, others, hfirst, hothers, rfl⟩ := applyInOrder_cons_iff.mp happlied
      obtain ⟨-, hwritten⟩ := apply_reports hfirst
      obtain ⟨computed, hvalue, rfl⟩ := apply_iff.mp hfirst
      have hruled := ih hothers
      rw [hwritten] at hruled
      refine ⟨?_, hruled⟩
      intro hfinite
      exact newValue_inRange hfinite hvalue

/-- An effect with an unknown operation computes nothing. -/
theorem isRecognized_of_newValue {effect : Effect} {store : Variables} {generator : Generator}
    {computed : Binary64 × Generator} (hvalue : effect.newValue store generator = .ok computed) :
    effect.operation.isRecognized = true := by
  cases hoperation : effect.operation with
  | set | add | multiply | random => rfl
  | unrecognized written =>
      simp only [newValue, hoperation] at hvalue
      cases hvalue

theorem applyInOrder_named {effects : List Effect} {store : Variables} {generator : Generator}
    {outcome : Outcome (List Change)}
    (happlied : applyInOrder effects store generator = .ok outcome) :
    ∀ change ∈ outcome.report, change.operation.isRecognized = true := by
  induction effects generalizing store generator outcome with
  | nil =>
      cases happlied
      exact List.forall_mem_nil _
  | cons effect rest ih =>
      obtain ⟨first, others, hfirst, hothers, rfl⟩ := applyInOrder_cons_iff.mp happlied
      obtain ⟨computed, hvalue, rfl⟩ := apply_iff.mp hfirst
      exact List.forall_mem_cons.mpr ⟨isRecognized_of_newValue hvalue, ih hothers⟩

theorem applyAll_lawful {effects : List Effect} {store : Variables} {generator : Generator}
    {outcome : Outcome (List Change)}
    (happlied : applyAll effects store generator = .ok outcome) :
    store.Lawful outcome.report ∧ outcome.store = store.perform outcome.report := by
  obtain ⟨hmeasured, hperformed⟩ := applyAll_reports happlied
  have hinOrder := applyInOrder_of_applyAll happlied
  exact ⟨⟨applyInOrder_ruled hinOrder, hmeasured, applyInOrder_named hinOrder⟩, hperformed⟩

end Effect

namespace Playthrough

theorem subtractFrom_ruled {amount : Binary64} (hamount : amount.isFinite = true)
    (names : List String) (store : Variables) :
    store.Ruled (subtractFrom amount names store).1 := by
  induction names generalizing store with
  | nil => trivial
  | cons name rest ih =>
      refine ⟨fun hfinite => ?_, ih _⟩
      have hchange : (-amount).isFinite = true := by rwa [Binary64.isFinite_neg]
      exact Variables.inRange_clamp (Binary64.isNan_add hfinite hchange)

theorem subtractFrom_named (amount : Binary64) (names : List String) (store : Variables) :
    ∀ change ∈ (subtractFrom amount names store).1, change.operation.isRecognized = true := by
  induction names generalizing store with
  | nil => exact List.forall_mem_nil _
  | cons name rest ih => exact List.forall_mem_cons.mpr ⟨rfl, ih _⟩

theorem penalty_lawful {script : Script}
    (hpenalty : script.settings.dice.penalty.amount.isFinite = true) (check : DiceCheck)
    (outcome : DiceOutcome) (store : Variables) :
    store.Lawful (penalty script check outcome store).1 ∧
      (penalty script check outcome store).2 =
        store.perform (penalty script check outcome store).1 := by
  obtain ⟨hmeasured, hperformed⟩ := penalty_reports script check outcome store
  refine ⟨?_, hperformed⟩
  cases outcome with
  | success => exact ⟨trivial, hmeasured, List.forall_mem_nil _⟩
  | failure => exact ⟨subtractFrom_ruled hpenalty _ store, hmeasured, subtractFrom_named _ _ store⟩

end Playthrough

/-! ## What changes by the rules uphold -/

/-- What holds of a store and of the events about it, when changes by the rules preserve it and
other events have no part in it. -/
structure Upheld (motive : Variables → Prop) (told : Event → Prop) : Prop where
  changed : ∀ {store : Variables} {changes : List Change}, motive store → store.Lawful changes →
    motive (store.perform changes) ∧
      ∀ event ∈ Stage.changeEvents changes (store.perform changes), told event
  aside : ∀ {event : Event}, event.isVariables = false → told event

namespace Playthrough

variable {script : Script} {playthrough : Playthrough} {motive : Variables → Prop}
  {told : Event → Prop}

/-- Settling a choice makes changes by the rules. -/
theorem settle_upholds (hupheld : Upheld motive told)
    (hpenalty : script.settings.dice.penalty.amount.isFinite = true) {choice : Choice}
    {stage reached : Stage} {outcome : Option DiceOutcome} {events : List Event}
    (hstore : motive stage.store)
    (hsettle : (settle script choice).run stage =
      { result := .ok outcome, state := reached, events }) :
    motive reached.store ∧ ∀ event ∈ events, told event := by
  cases settlement_of_settle hsettle with
  | unchecked applied happlied hcheck =>
      obtain ⟨hlawful, hperformed⟩ := Effect.applyAll_lawful happlied
      simp only [hperformed]
      exact hupheld.changed hstore hlawful
  | checked applied happlied check hcheck roll generator hthrown =>
      obtain ⟨hlawful, hperformed⟩ := Effect.applyAll_lawful happlied
      obtain ⟨happly, hchanges⟩ := hupheld.changed hstore hlawful
      rw [← hperformed] at happly hchanges
      obtain ⟨hpaid, hpays⟩ := penalty_lawful hpenalty check roll.outcome applied.store
      obtain ⟨hreached, hpenalties⟩ := hupheld.changed happly hpaid
      rw [← hpays] at hreached hpenalties
      have htold : ∀ event ∈ penaltyEvents
          (penalty script check roll.outcome applied.store).1
          (penalty script check roll.outcome applied.store).2, told event := by
        rw [penaltyEvents]
        split
        · simp
        · exact hpenalties
      refine ⟨hreached, ?_⟩
      intro event hmem
      simp only [List.mem_append, List.mem_singleton] at hmem
      rcases hmem with (hchanged | rfl) | hpenalized
      · exact hchanges event hchanged
      · exact hupheld.aside rfl
      · exact htold event hpenalized

/-- A turn changes variables by settling a choice, and in no other way. -/
theorem Turn.upholds {reply : Reply Playthrough Unit} (hturn : Turn script playthrough reply)
    (hupheld : Upheld motive told)
    (hpenalty : script.settings.dice.penalty.amount.isFinite = true)
    (hstore : motive playthrough.stage.store) :
    motive reply.state.stage.store ∧ ∀ event ∈ reply.events, told event := by
  cases hturn.taking with
  | nothing reply hsame hunsettling =>
      rw [hsame.store]
      exact ⟨hstore, fun event hmem =>
        hupheld.aside (Event.isVariables_of_isSettling (hunsettling event hmem))⟩
  | choice time choice outcome stage events hsettle reply hsame hunsettling =>
      obtain ⟨hsettled, hevents⟩ := settle_upholds hupheld hpenalty hstore hsettle
      rw [hsame.store]
      refine ⟨hsettled, fun event hmem => ?_⟩
      rcases List.mem_append.mp hmem with hsettling | hmoving
      · exact hevents event hsettling
      · exact hupheld.aside (Event.isVariables_of_isSettling (hunsettling event hmoving))

end Playthrough

/-! ## Events about a finite variable -/

/-- What an event tells of a variable is finite, up to differences, which are numbers. -/
def Event.SoundAt (name : String) : Event → Prop
  | variablesDelta changes =>
      ∀ change ∈ changes, change.name = name →
        change.value.isFinite = true ∧ change.delta.isNan = false
  | variablesUpdated snapshot => snapshot.FiniteAt name
  | _ => True

/-- Changes by the rules keep a variable finite, and so do the events that publish them. -/
theorem upheld_finiteAt (name : String) :
    Upheld (fun store => store.FiniteAt name) (Event.SoundAt name) where
  changed := by
    intro store changes hfinite hlawful
    have hreached := hfinite.perform hlawful.ruled
    refine ⟨hreached, ?_⟩
    simp only [Stage.changeEvents, List.forall_mem_cons, List.not_mem_nil, false_implies,
      implies_true, and_true]
    exact ⟨hlawful.ruled.reports hlawful.measured hfinite, hreached⟩
  aside := by
    intro event haside
    cases event with
    | variablesDelta changes | variablesUpdated snapshot => simp [Event.isVariables] at haside
    | _ => trivial

/-! ## Whole visits under settings from a text -/

namespace Settings

theorem validate_of_ofText {text : String} {settings : Settings}
    (hread : ofText text = .ok settings) : settings.validate = .ok () := by
  rw [ofText] at hread
  split at hread
  · cases hread
  · split at hread
    · next hvalid =>
        cases hread
        exact hvalid
    · cases hread

/-- A variable of valid settings starts with a finite value unless its initial value is not. -/
theorem finiteAt_startingValues_iff {settings : Settings} (hvalid : settings.validate = .ok ())
    (name : String) :
    settings.startingValues.FiniteAt name ↔
      ∀ value, settings.initial.find? name = some value → value.isFinite = true := by
  obtain ⟨-, hstart⟩ := finite_of_valid hvalid
  rw [Variables.FiniteAt, Variables.get, find?_startingValues]
  cases settings.initial.find? name with
  | some value => simp
  | none =>
      simp only [Option.none_or, reduceCtorEq, false_implies, implies_true, iff_true]
      split
      · exact hstart
      · exact Variables.inRange_lowest.isFinite

end Settings

namespace Director

variable {World : Type}

/-- Settings that were read from a text are accepted with every story, and the playthrough begins
with their starting values. -/
theorem build_of_ofText {text : String} {settings : Settings}
    (hread : Settings.ofText text = .ok settings) (story : Story) (seed : Option UInt64)
    (channel : Channel World) (unseeded : Generator) :
    ∃ director, build story settings seed [] channel unseeded = .ok director ∧ director.Begun ∧
      director.script.settings.dice = settings.dice ∧
      director.script.settings.tracked = settings.tracked ∧
      director.script.initial = settings.startingValues := by
  have hvalid := Settings.validate_of_ofText hread
  have hbuilt : ∃ director, build story settings seed [] channel unseeded = .ok director ∧
      director.script.settings = { settings with seed := seed <|> settings.seed } ∧
      director.script.initial = settings.startingValues := by
    simp only [build]
    split
    · next error hrefused => cases hvalid.symm.trans hrefused
    · exact ⟨_, rfl, rfl, rfl⟩
  obtain ⟨director, hbuilt, hsettings, hinitial⟩ := hbuilt
  refine ⟨director, hbuilt, .built _ _ _ _ _ _ _ hbuilt, ?_, ?_, hinitial⟩
  · rw [hsettings]
  · rw [hsettings]

/-- A variable that starts finite stays finite, whatever a host does. -/
theorem Begun.finiteAt {director : Director World} (hbegun : director.Begun)
    (hpenalty : director.script.settings.dice.penalty.amount.isFinite = true) {name : String}
    (hinitial : director.script.initial.FiniteAt name) (world : World)
    (actions : List (Action World)) :
    let visit := Visit.actAll { director, world } actions
    visit.director.store.FiniteAt name ∧ ∀ event ∈ visit.events, event.SoundAt name := by
  refine Visit.actAll_induction (motive := fun playthrough events =>
    playthrough.stage.store.FiniteAt name ∧ ∀ event ∈ events, event.SoundAt name)
    ?_ ?_ rfl hbegun.coherent ?_ actions
  · rintro unseeded playthrough events ⟨-, hsound⟩
    exact ⟨hinitial, hsound⟩
  · rintro playthrough events reply hturn ⟨hfinite, hsound⟩
    obtain ⟨hreached, htold⟩ := hturn.upholds (upheld_finiteAt name) hpenalty hfinite
    refine ⟨hreached, fun event hmem => ?_⟩
    rcases List.mem_append.mp hmem with hearlier | hlater
    · exact hsound event hearlier
    · exact htold event hlater
  · obtain ⟨unseeded, hfresh⟩ := hbegun.playthrough_eq
    simp only [hfresh]
    exact ⟨hinitial, List.forall_mem_nil _⟩

/-- Under settings that were read from a text and without other initial values, a variable stays
finite through everything that a host does, in the store and in the events, if and only if the text
gives it no initial value that is not finite.  When this holds of the tracked variables, the score
is always a number. -/
theorem finite_iff_initial_finite {text : String} {settings : Settings}
    (hread : Settings.ofText text = .ok settings) (story : Story) (seed : Option UInt64)
    (channel : Channel World) (unseeded : Generator) (world : World) :
    ∃ director, build story settings seed [] channel unseeded = .ok director ∧
      (∀ name,
        (∀ actions, let visit := Visit.actAll { director, world } actions
          visit.director.store.FiniteAt name ∧ ∀ event ∈ visit.events, event.SoundAt name) ↔
        ∀ value, settings.initial.find? name = some value → value.isFinite = true) ∧
      ((∀ name ∈ settings.tracked, ∀ value,
          settings.initial.find? name = some value → value.isFinite = true) →
        settings.tracked.length < UInt64.size →
          ∀ actions,
            (Visit.actAll { director, world } actions).director.score.isNan = false) := by
  have hvalid := Settings.validate_of_ofText hread
  obtain ⟨director, hbuilt, hbegun, hdice, htracked, hinitial⟩ :=
    build_of_ofText hread story seed channel unseeded
  have hpenalty : director.script.settings.dice.penalty.amount.isFinite = true := by
    rw [hdice]
    exact (Settings.finite_of_valid hvalid).1
  have hkept : ∀ name,
      (∀ value, settings.initial.find? name = some value → value.isFinite = true) →
        ∀ actions, let visit := Visit.actAll { director, world } actions
          visit.director.store.FiniteAt name ∧ ∀ event ∈ visit.events, event.SoundAt name := by
    intro name hfinite
    apply hbegun.finiteAt hpenalty
    rw [hinitial]
    exact (Settings.finiteAt_startingValues_iff hvalid name).mpr hfinite
  refine ⟨director, hbuilt, fun name => ⟨fun halways => ?_, hkept name⟩, ?_⟩
  · obtain ⟨unseeded, hfresh⟩ := hbegun.playthrough_eq
    have hstore : director.store = settings.startingValues := by
      rw [store, hfresh, ← hinitial]
      rfl
    rw [← Settings.finiteAt_startingValues_iff hvalid, ← hstore]
    exact (halways []).1
  · intro hfinite hcount actions
    have hscript := Visit.script_actAll { director, world } actions
    apply Playthrough.isNan_score
    · rw [hscript, htracked]
      intro name hname
      exact (hkept name (hfinite name hname) actions).1
    · rw [hscript, htracked]
      exact hcount

end Director

/-- A sailor who bets on the luck of whoever comes along. -/
def dockScene : Scene where
  id := "dock"
  dialogues :=
    [{ speaker := "Sailor", text := "Feeling lucky?",
       choices := [{ text := "Always", effects := [.add "Luck" 5, .add "Gold" 5] }] },
      { speaker := "Sailor", text := "So you say." }]

def dockStory : Story where
  scenes := [dockScene]
  unambiguous := by decide

/-- The text of settings in which luck is not a number. -/
def unluckyText : String :=
  "(tracked_variables: [\"Luck\"], initial_variables: \x7b\"Luck\": NaN, \"Gold\": 5.0\x7d)"

def unlucky : Settings where
  tracked := ["Luck"]
  initial := .ofList [("Luck", .nan), ("Gold", 5)]

theorem ofText_unluckyText : Settings.ofText unluckyText = .ok unlucky :=
  eq_ok_of_toOption (by decide +kernel)

namespace Director

/-- The story of the sailor under these settings, with nobody listening. -/
def gambler : Director Unit := opened dockStory unlucky {} (Generator.ofSeed 1)

/-- The calls of a player who takes the bet. -/
def betting : List Call := [.start, .choose { seconds := 0, nanoseconds := 0 } 0]

/-- The settings are accepted, and neither luck nor what is told of it nor the score is ever a
number. -/
theorem unlucky_not_a_number :
    Settings.ofText unluckyText = .ok unlucky ∧
      build dockStory unlucky none [] {} (Generator.ofSeed 1) = .ok gambler ∧
      gambler.store.get "Luck" = .nan ∧
      let reached := (gambler.play betting ()).2.1
      reached.store.get "Luck" = .nan ∧ reached.score = .nan ∧
        Event.variablesDelta
            [{ name := "Luck", operation := .add, delta := .nan, value := .nan },
              { name := "Gold", operation := .add, delta := 5, value := 10 }] ∈
          (gambler.chronicle betting).events :=
  ⟨ofText_unluckyText,
    build_eq_opened dockStory {} (Generator.ofSeed 1) (by decide +kernel), by decide +kernel⟩

/-- Under these settings gold stays finite and luck does not. -/
theorem unlucky_finite_in_gold :
    Settings.ofText unluckyText = .ok unlucky ∧
      ∃ director, build dockStory unlucky none [] {} (Generator.ofSeed 1) = .ok director ∧
        (∀ actions,
          (Visit.actAll { director, world := () } actions).director.store.FiniteAt "Gold") ∧
        ¬ ∀ actions, let visit := Visit.actAll { director, world := () } actions
          visit.director.store.FiniteAt "Luck" ∧ ∀ event ∈ visit.events, event.SoundAt "Luck" := by
  obtain ⟨director, hbuilt, hfinite, -⟩ := finite_iff_initial_finite ofText_unluckyText dockStory
    none {} (Generator.ofSeed 1) ()
  refine ⟨ofText_unluckyText, director, hbuilt, ?_, ?_⟩
  · have hgold : ∀ value, unlucky.initial.find? "Gold" = some value → value.isFinite = true := by
      have hfound : unlucky.initial.find? "Gold" = some 5 := by decide +kernel
      intro value hvalue
      obtain rfl := Option.some.inj (hfound.symm.trans hvalue)
      decide +kernel
    exact fun actions => ((hfinite "Gold").mpr hgold actions).1
  · intro halways
    have hluck := (hfinite "Luck").mp halways .nan (by decide +kernel)
    cases hluck

end Director

end BranchingStory
