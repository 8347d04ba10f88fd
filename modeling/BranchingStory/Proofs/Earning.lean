import Mathlib.Data.List.Nodup
import BranchingStory.Proofs.Range
import BranchingStory.Proofs.Ranking
import BranchingStory.Proofs.Restarting

/-!
# Earning an ending

A score earns the ending with the highest threshold that it reaches.  The endings of the settings
may come in any order.  They are sorted by the total order of doubles, in which the two zeros differ,
and a score is held against their thresholds by the numeric order, in which they do not.  The first
ending of the sorted list that the score reaches is the right one all the same, and of endings with
one threshold it is the one that comes first in the settings, since sorting keeps their order.

The endings have no part in play.  They are only looked at when somebody asks for the ending, so
that directors whose endings differ are in the same state after the same actions.
-/

namespace BranchingStory

/-! ## Sorted endings -/

namespace Settings

variable {settings : Settings}

theorem comesFirst_iff {left right : Ending} :
    (!left.minScore.comesBefore right.minScore) = true ↔ right.minScore.rank ≤ left.minScore.rank := by
  rw [Bool.not_eq_true', ← Bool.not_eq_true, Binary64.comesBefore_iff, not_lt]

theorem comesFirst_trans (first second third : Ending)
    (hfirst : (!first.minScore.comesBefore second.minScore) = true)
    (hsecond : (!second.minScore.comesBefore third.minScore) = true) :
    (!first.minScore.comesBefore third.minScore) = true :=
  comesFirst_iff.mpr ((comesFirst_iff.mp hsecond).trans (comesFirst_iff.mp hfirst))

theorem comesFirst_total (left right : Ending) :
    (!left.minScore.comesBefore right.minScore || !right.minScore.comesBefore left.minScore) =
      true := by
  rw [Bool.or_eq_true, comesFirst_iff, comesFirst_iff]
  exact le_total _ _

/-- The endings are sorted from the highest threshold down. -/
theorem pairwise_sortedEndings (settings : Settings) :
    settings.sortedEndings.Pairwise fun higher lower =>
      lower.minScore.rank ≤ higher.minScore.rank :=
  (List.pairwise_mergeSort comesFirst_trans comesFirst_total settings.endings).imp
    comesFirst_iff.mp

theorem sortedEndings_perm (settings : Settings) :
    settings.sortedEndings.Perm settings.endings :=
  List.mergeSort_perm _ _

/-- Endings with one threshold stay in the order of the settings. -/
theorem filter_sortedEndings (settings : Settings) (threshold : Binary64) :
    (settings.sortedEndings.filter fun ending => ending.minScore = threshold) =
      settings.endings.filter fun ending => ending.minScore = threshold := by
  let tied := settings.endings.filter fun ending => ending.minScore = threshold
  have hthreshold : ∀ ending ∈ tied, ending.minScore = threshold :=
    fun ending hmem => of_decide_eq_true (List.mem_filter.mp hmem).2
  have hordered : tied.Pairwise fun left right =>
      (!left.minScore.comesBefore right.minScore) = true := by
    refine List.pairwise_of_forall_mem_list fun left hleft right hright => comesFirst_iff.mpr ?_
    rw [hthreshold left hleft, hthreshold right hright]
  -- What is in order already stays a sublist, and it is as long as what the sorted list has.
  have hkept : tied.Sublist settings.sortedEndings :=
    List.sublist_mergeSort comesFirst_trans comesFirst_total hordered List.filter_sublist
  have htied : tied.Sublist
      (settings.sortedEndings.filter fun ending => ending.minScore = threshold) := by
    simpa [tied] using hkept.filter fun ending => ending.minScore = threshold
  exact (htied.eq_of_length ((sortedEndings_perm settings).filter _).length_eq.symm).symm

/-- Endings with different thresholds are sorted the same from any order. -/
theorem sortedEndings_congr {other : Settings} (hperm : other.endings.Perm settings.endings)
    (hdistinct : (settings.endings.map Ending.minScore).Nodup) :
    other.sortedEndings = settings.sortedEndings := by
  have hsame : other.sortedEndings.Perm settings.sortedEndings :=
    (sortedEndings_perm other).trans (hperm.trans (sortedEndings_perm settings).symm)
  refine hsame.eq_of_pairwise ?_ (pairwise_sortedEndings other) (pairwise_sortedEndings settings)
  intro left right hleft hright hbelow habove
  have hleft := (sortedEndings_perm other).trans hperm |>.mem_iff.mp hleft
  have hright := (sortedEndings_perm settings).mem_iff.mp hright
  have htied := Binary64.rank_injective (le_antisymm habove hbelow)
  exact List.inj_on_of_nodup_map hdistinct hleft hright htied

/-- The order of the endings is no fault. -/
theorem valid_of_perm (hvalid : settings.validate = .ok ()) {endings : List Ending}
    (hperm : endings.Perm settings.endings) :
    ({ settings with endings } : Settings).validate = .ok () := by
  obtain ⟨hsides, hpenalty, hstart, hsome, hfinite⟩ := valid_iff.mp hvalid
  refine valid_iff.mpr ⟨hsides, hpenalty, hstart, fun hnone => hsome ?_, fun ending hmem => ?_⟩
  · exact List.Perm.eq_nil (hnone ▸ hperm.symm)
  · exact hfinite ending (hperm.mem_iff.mp hmem)

end Settings

/-! ## The best ending -/

/-- The ending at a place is the best one that a score earns.  The score reaches no ending with a
higher threshold, be it only for the sign of a zero, and of the endings with the same threshold it is
the first. -/
structure BestEarned (endings : List Ending) (score : Binary64) (place : Nat) (ending : Ending) :
    Prop where
  listed : endings[place]? = some ending
  earned : ending.minScore.atMost score = true
  highest : ∀ other ∈ endings, other.minScore.atMost score = true →
    ending.minScore.less other.minScore = false
  foremost : ∀ other ∈ endings, other.minScore.atMost score = true →
    ending.minScore.comesBefore other.minScore = false
  first : ∀ earlier < place, ∀ other, endings[earlier]? = some other →
    other.minScore ≠ ending.minScore

section Best

variable {settings : Settings} {endings : List Ending} {score : Binary64} {ending : Ending}

theorem rank_le_of_foremost {left right : Binary64} (hlast : left.comesBefore right = false) :
    right.rank ≤ left.rank := by
  rwa [← Bool.not_eq_true, Binary64.comesBefore_iff, not_lt] at hlast

/-- A score earns one ending as the best one. -/
theorem BestEarned.unique {place elsewhere : Nat} {other : Ending}
    (hbest : BestEarned endings score place ending)
    (hother : BestEarned endings score elsewhere other) : other = ending := by
  have habove := rank_le_of_foremost <|
    hbest.foremost other (List.mem_of_getElem? hother.listed) hother.earned
  have hbelow := rank_le_of_foremost <|
    hother.foremost ending (List.mem_of_getElem? hbest.listed) hbest.earned
  have hthreshold : other.minScore = ending.minScore :=
    Binary64.rank_injective (le_antisymm habove hbelow)
  have hplace : elsewhere = place := by
    rcases Nat.lt_trichotomy elsewhere place with hless | heq | hgreater
    · exact absurd hthreshold (hbest.first elsewhere hless other hother.listed)
    · exact heq
    · exact absurd hthreshold.symm (hother.first place hgreater ending hbest.listed)
  subst hplace
  exact Option.some.inj (hother.listed.symm.trans hbest.listed)

/-- The first sorted ending that a score reaches is the best one. -/
theorem exists_bestEarned
    (hfound : (settings.sortedEndings.find? fun ending => ending.minScore.atMost score) =
      some ending) : ∃ place, BestEarned settings.endings score place ending := by
  obtain ⟨hearned, front, back, hsplit, hfront⟩ := List.find?_eq_some_iff_append.mp hfound
  replace hfront : ∀ other ∈ front, other.minScore.atMost score = false := by simpa using hfront
  have hordered := settings.pairwise_sortedEndings
  rw [hsplit] at hordered
  obtain ⟨-, hback, -⟩ := List.pairwise_append.mp hordered
  have hrank : ∀ other ∈ settings.endings, other.minScore.atMost score = true →
      other.minScore.rank ≤ ending.minScore.rank := by
    intro other hmem hreached
    rw [← (Settings.sortedEndings_perm settings).mem_iff, hsplit, List.mem_append,
      List.mem_cons] at hmem
    rcases hmem with hmissed | rfl | hlater
    · exact absurd hreached (by simp [hfront other hmissed])
    · exact le_rfl
    · exact List.rel_of_pairwise_cons hback hlater
  -- Sorting has put no ending with the same threshold before this one.
  have hmissed : front.filter (fun other => other.minScore = ending.minScore) = [] := by
    rw [List.filter_eq_nil_iff]
    intro other hmem htied
    rw [← of_decide_eq_true htied, hfront other hmem] at hearned
    cases hearned
  have htied := settings.filter_sortedEndings ending.minScore
  simp only [hsplit, List.filter_append, hmissed, List.nil_append, List.filter_cons, decide_true,
    if_true] at htied
  obtain ⟨before, after, hlisted, hbefore, -⟩ := List.filter_eq_cons_iff.mp htied.symm
  refine ⟨before.length, ?_, hearned, fun other hmem hreached => ?_, fun other hmem hreached => ?_,
    fun earlier hearlier other hother => ?_⟩
  · simp [hlisted]
  · rw [← Bool.not_eq_true]
    exact fun hless => not_lt_of_ge (hrank other hmem hreached) (Binary64.rank_lt_of_less hless)
  · rw [← Bool.not_eq_true, Binary64.comesBefore_iff]
    exact not_lt_of_ge (hrank other hmem hreached)
  · rw [hlisted, List.getElem?_append_left hearlier] at hother
    simpa using hbefore other (List.mem_of_getElem? hother)

theorem find?_sortedEndings_iff :
    (settings.sortedEndings.find? fun ending => ending.minScore.atMost score) = some ending ↔
      ∃ place, BestEarned settings.endings score place ending := by
  refine ⟨exists_bestEarned, ?_⟩
  rintro ⟨place, hbest⟩
  cases hsearch : settings.sortedEndings.find? fun ending => ending.minScore.atMost score with
  | some other =>
      obtain ⟨elsewhere, hother⟩ := exists_bestEarned hsearch
      rw [hbest.unique hother]
  | none =>
      have hlisted := (Settings.sortedEndings_perm settings).mem_iff.mpr
        (List.mem_of_getElem? hbest.listed)
      exact absurd hbest.earned (List.find?_eq_none.mp hsearch ending hlisted)

/-- A score earns nothing when it is no number or below every threshold. -/
theorem find?_sortedEndings_eq_none_iff (hvalid : settings.validate = .ok ()) :
    (settings.sortedEndings.find? fun ending => ending.minScore.atMost score) = none ↔
      score.isNan = true ∨ ∀ ending ∈ settings.endings, score.less ending.minScore = true := by
  obtain ⟨-, -, -, -, hfinite⟩ := Settings.valid_iff.mp hvalid
  have hmissed : ∀ ending ∈ settings.endings, ¬ ending.minScore.atMost score = true ↔
      score.isNan = true ∨ score.less ending.minScore = true := by
    intro ending hmem
    rw [Bool.not_eq_true]
    exact Binary64.atMost_eq_false_iff (Binary64.isNan_of_isFinite (hfinite ending hmem))
  simp only [List.find?_eq_none, (Settings.sortedEndings_perm settings).mem_iff]
  rw [forall₂_congr hmissed]
  simp only [forall_or_left]

end Best

/-! ## Endings aside -/

/-- A script that rewards scores in another way. -/
def Script.rewarding (script : Script) (endings : List Ending) : Script :=
  { script with settings := { script.settings with endings } }

def Director.rewarding {World : Type} (director : Director World) (endings : List Ending) :
    Director World :=
  { director with script := director.script.rewarding endings }

namespace Visit

variable {World : Type}

def rewarding (visit : Visit World) (endings : List Ending) : Visit World :=
  { visit with director := visit.director.rewarding endings }

/-- No action looks at the endings. -/
theorem act_rewarding (visit : Visit World) (endings : List Ending) (action : Action World) :
    (visit.rewarding endings).act action = (visit.act action).rewarding endings := by
  cases action with
  | call call => cases call <;> rfl
  | reset unseeded | rewire change | takeFailures => rfl

theorem actAll_rewarding (visit : Visit World) (endings : List Ending)
    (actions : List (Action World)) :
    (visit.rewarding endings).actAll actions = (visit.actAll actions).rewarding endings := by
  induction actions generalizing visit with
  | nil => rfl
  | cons action rest ih =>
      have hnext := ih (visit.act action)
      rwa [← act_rewarding] at hnext

end Visit

namespace Director

variable {World : Type}

section Ending

variable {director : Director World} {ending : Ending}

theorem ending?_eq_some_iff :
    director.ending? = some ending ↔
      ∃ place, BestEarned director.script.settings.endings director.score place ending :=
  find?_sortedEndings_iff

theorem ending?_eq_none_iff (hvalid : director.script.settings.validate = .ok ()) :
    director.ending? = none ↔ director.score.isNan = true ∨
      ∀ ending ∈ director.script.settings.endings, director.score.less ending.minScore = true :=
  find?_sortedEndings_eq_none_iff hvalid

/-- A score that is at least as high earns an ending with a threshold that is at least as high. -/
theorem ending?_mono {other : Director World}
    (hendings : other.script.settings.endings = director.script.settings.endings)
    (hearned : director.ending? = some ending) (hscore : director.score.atMost other.score = true) :
    ∃ better, other.ending? = some better ∧ better.minScore.less ending.minScore = false := by
  obtain ⟨place, hbest⟩ := ending?_eq_some_iff.mp hearned
  have hlisted := List.mem_of_getElem? hbest.listed
  have hreached := Binary64.atMost_trans hbest.earned hscore
  rw [← hendings] at hlisted
  cases hother : other.ending? with
  | some better =>
      obtain ⟨elsewhere, hhigher⟩ := ending?_eq_some_iff.mp hother
      exact ⟨better, rfl, hhigher.highest ending hlisted hreached⟩
  | none =>
      have hnone := List.find?_eq_none.mp hother ending
      rw [(Settings.sortedEndings_perm _).mem_iff] at hnone
      exact absurd hreached (hnone hlisted)

/-- The order of endings with different thresholds does not matter. -/
theorem ending?_rewarding {endings : List Ending}
    (hperm : endings.Perm director.script.settings.endings)
    (hdistinct : (director.script.settings.endings.map Ending.minScore).Nodup) :
    (director.rewarding endings).ending? = director.ending? := by
  have hsorted : (director.rewarding endings).script.settings.sortedEndings =
      director.script.settings.sortedEndings := Settings.sortedEndings_congr hperm hdistinct
  rw [ending?, ending?, Playthrough.ending?, Playthrough.ending?, hsorted]
  rfl

end Ending

/-- Whatever a host has done, the ending is the best one that the score earns, and there is none
exactly when the score is no number or below all thresholds.  A score that is at least as high earns
no lower ending, and a director whose endings come in another order has the same one, as long as no
two of them share a threshold. -/
theorem ending_is_best_earned {story : Story} {settings : Settings} {seed : Option UInt64}
    {store : List (String × Binary64)} {channel : Channel World} {unseeded : Generator}
    {director : Director World}
    (hbuilt : build story settings seed store channel unseeded = .ok director) (world : World)
    (actions : List (Action World)) :
    let reached := (Visit.actAll { director, world } actions).director
    (reached.ending? = none ↔ reached.score.isNan = true ∨
      ∀ ending ∈ settings.endings, reached.score.less ending.minScore = true) ∧
    (∀ ending, reached.ending? = some ending ↔
      ∃ place, BestEarned settings.endings reached.score place ending) ∧
    (∀ elsewhere others ending,
      let other := (Visit.actAll { director, world := elsewhere } others).director
      reached.ending? = some ending → reached.score.atMost other.score = true →
        ∃ better, other.ending? = some better ∧ better.minScore.less ending.minScore = false) ∧
    ∀ endings : List Ending, endings.Perm settings.endings →
      (settings.endings.map Ending.minScore).Nodup →
        ∃ other, build story { settings with endings } seed store channel unseeded = .ok other ∧
          (Visit.actAll { director := other, world } actions).director.ending? =
            reached.ending? := by
  obtain ⟨hvalid, rfl⟩ := made_of_build hbuilt
  let director := made story settings seed store channel unseeded
  intro reached
  have hscript : reached.script = director.script :=
    Visit.script_actAll { director, world } actions
  have hendings : reached.script.settings.endings = settings.endings := by rw [hscript]; rfl
  refine ⟨?_, fun ending => ?_, ?_, ?_⟩
  · rw [← hendings]
    apply ending?_eq_none_iff
    rw [hscript]
    exact hvalid
  · rw [← hendings]
    exact ending?_eq_some_iff
  · intro elsewhere others ending other hearned hscore
    refine ending?_mono ?_ hearned hscore
    rw [hendings, Visit.script_actAll]
    rfl
  · intro endings hperm hdistinct
    have hother : (({ settings with endings } : Settings).under seed).validate = .ok () :=
      Settings.valid_of_perm hvalid hperm
    refine ⟨director.rewarding endings, build_eq_made (isOk_iff.mpr hother), ?_⟩
    have hsame := Visit.actAll_rewarding { director, world } endings actions
    calc (Visit.actAll { director := director.rewarding endings, world } actions).director.ending?
        = (reached.rewarding endings).ending? := congrArg (fun visit => visit.director.ending?) hsame
      _ = reached.ending? := by
          apply ending?_rewarding
          · rw [hendings]
            exact hperm
          · rw [hendings]
            exact hdistinct

/-- The ending of a player whose purse is empty. -/
def broke : Ending := { minScore := 0, title := "Broke", message := "Not a coin left.", grade := "D" }

/-- Settings that count the gold alone.  Their endings are unsorted, and two thresholds differ in the
sign of a zero only. -/
def miserly : Settings where
  tracked := ["Gold"]
  trackedStart := 0
  endings :=
    [{ minScore := -0, title := "In debt", message := "Less than nothing.", grade := "E" },
      { minScore := 80, title := "Rich", message := "A purse that is full.", grade := "A" }, broke]

/-- The story of the guard for someone without gold. -/
def beggar : Director Unit := made guardStory miserly none [] {} (Generator.ofSeed 1)

theorem bestEarned_broke : BestEarned miserly.endings 0 2 broke where
  listed := rfl
  earned := by decide +kernel
  highest := by decide +kernel
  foremost := by decide +kernel
  first := by
    have hbefore : ∀ other ∈ miserly.endings.take 2, other.minScore ≠ broke.minScore := by
      decide +kernel
    intro earlier hearlier other hother
    rw [← List.getElem?_take_of_lt hearlier] at hother
    exact hbefore other (List.mem_of_getElem? hother)

/-- A score of zero reaches both zeros and earns the upper one, also from the endings turned round. -/
theorem beggar_ends_broke :
    let reached := (Visit.actAll { director := beggar, world := () } [.call .start]).director
    build guardStory miserly none [] {} (Generator.ofSeed 1) = .ok beggar ∧
      reached.score = 0 ∧ reached.ending? = some broke ∧
      ∃ other : Director Unit,
        build guardStory { miserly with endings := miserly.endings.reverse } none [] {}
          (Generator.ofSeed 1) = .ok other ∧
        (Visit.actAll { director := other, world := () } [.call .start]).director.ending? =
          some broke := by
  intro reached
  have hbuilt : build guardStory miserly none [] {} (Generator.ofSeed 1) = .ok beggar :=
    build_eq_made (by decide +kernel)
  obtain ⟨-, hbest, -, hreordered⟩ := ending_is_best_earned hbuilt () [.call .start]
  have hscore : reached.score = 0 := by decide +kernel
  have hbroke : reached.ending? = some broke :=
    (hbest broke).mpr ⟨2, hscore.symm ▸ bestEarned_broke⟩
  obtain ⟨other, hother, hsame⟩ :=
    hreordered miserly.endings.reverse (List.reverse_perm _) (by decide +kernel)
  exact ⟨hbuilt, hscore, hbroke, other, hother, hsame.trans hbroke⟩

end Director

end BranchingStory
