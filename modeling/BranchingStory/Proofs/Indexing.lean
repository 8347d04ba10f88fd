import Mathlib.Data.List.Basic
import BranchingStory.Proofs.Lookup
import BranchingStory.Story

/-!
# Indexing

Ids name one thing each: no two scenes of a story have the same id, and no two dialogues of a scene,
where a dialogue need not have one.  Reading goes from the first scene to the last and through the
dialogues of each, and stops at the first place where an id has occurred before.  The scenes that are
read to the end are those whose ids are unambiguous, and an id then leads to the one place that has
it.

A story looks a scene up by going through its scenes.  Whoever fills an index of the places while
reading finds the same.
-/

namespace BranchingStory

/-! ## First places -/

/-- The first place at which something holds, and of what. -/
def FirstAt {Value : Type} (holds : Nat → Value → Prop) (place : Nat) (value : Value) : Prop :=
  holds place value ∧ ∀ earlier < place, ∀ other, ¬ holds earlier other

/-- Where the first place is known, nothing else holds first. -/
theorem exists_firstAt_iff {Value : Type} {holds : Nat → Value → Prop} {place : Nat}
    {value : Value} (hfirst : FirstAt holds place value)
    (hdetermined : ∀ other, holds place other → other = value) (other : Value) :
    (∃ found, FirstAt holds found other) ↔ other = value := by
  constructor
  · rintro ⟨found, hfound, hbefore⟩
    rcases Nat.lt_trichotomy found place with hless | rfl | hgreater
    · exact absurd hfound (hfirst.2 found hless other)
    · exact hdetermined other hfound
    · exact absurd hfirst.1 (hbefore place hgreater value)
  · rintro rfl
    exact ⟨place, hfirst⟩

/-- What holds somewhere holds somewhere first. -/
theorem exists_firstAt {Value : Type} {holds : Nat → Value → Prop} {place : Nat} {value : Value}
    (hholds : holds place value) : ∃ first found, FirstAt holds first found := by
  induction place using Nat.strongRecOn generalizing value with
  | ind place ih =>
      by_cases hbefore : ∃ earlier < place, ∃ other, holds earlier other
      · obtain ⟨earlier, hless, other, hother⟩ := hbefore
        exact ih earlier hless hother
      · refine ⟨place, value, hholds, fun earlier hless other hother => ?_⟩
        exact hbefore ⟨earlier, hless, other, hother⟩

/-! ## Ids in a list -/

/-- An id stands at a place. -/
def OccursAt (ids : List (Option String)) (place : Nat) (id : String) : Prop :=
  ids[place]? = some (some id)

/-- An id stands at a place and at an earlier one. -/
def RepeatsAt (ids : List (Option String)) (place : Nat) (id : String) : Prop :=
  OccursAt ids place id ∧ ∃ earlier < place, OccursAt ids earlier id

/-- No id stands at two places. -/
def Distinct (ids : List (Option String)) : Prop :=
  ∀ id first second, OccursAt ids first id → OccursAt ids second id → first = second

section Ids

variable {ids front rest : List (Option String)} {place : Nat} {id : String}

theorem distinct_iff : Distinct ids ↔ ∀ place id, ¬ RepeatsAt ids place id := by
  constructor
  · rintro hdistinct place id ⟨hlater, earlier, hless, hearlier⟩
    exact Nat.ne_of_lt hless (hdistinct id earlier place hearlier hlater)
  · intro hnone id first second hfirst hsecond
    rcases Nat.lt_trichotomy first second with hless | heq | hgreater
    · exact absurd ⟨hsecond, first, hless, hfirst⟩ (hnone second id)
    · exact heq
    · exact absurd ⟨hfirst, second, hgreater, hsecond⟩ (hnone first id)

theorem occursAt_append_of_lt (hplace : place < front.length) :
    OccursAt (front ++ rest) place id ↔ OccursAt front place id := by
  rw [OccursAt, OccursAt, List.getElem?_append_left hplace]

theorem occursAt_concat {name : String} :
    OccursAt (ids ++ [some name]) place id ↔
      OccursAt ids place id ∨ place = ids.length ∧ name = id := by
  rcases Nat.lt_trichotomy place ids.length with hless | rfl | hgreater
  · rw [occursAt_append_of_lt hless]
    exact (or_iff_left fun hlast => Nat.ne_of_lt hless hlast.1).symm
  · simp [OccursAt]
  · have hlength : (ids ++ [some name]).length ≤ place := by
      rw [List.length_append]
      exact hgreater
    rw [OccursAt, OccursAt, List.getElem?_eq_none hlength,
      List.getElem?_eq_none (Nat.le_of_lt hgreater)]
    simp [Nat.ne_of_gt hgreater]

theorem repeatsAt_append_of_lt (hplace : place < front.length) :
    RepeatsAt (front ++ rest) place id ↔ RepeatsAt front place id := by
  rw [RepeatsAt, RepeatsAt, occursAt_append_of_lt hplace]
  refine and_congr_right fun _ => exists_congr fun earlier => and_congr_right fun hearlier => ?_
  exact occursAt_append_of_lt (Nat.lt_trans hearlier hplace)

/-- The id behind a list repeats one of it, or none. -/
theorem repeatsAt_length {head : Option String} :
    RepeatsAt (front ++ head :: rest) front.length id ↔ head = some id ∧ some id ∈ front := by
  have hhead : OccursAt (front ++ head :: rest) front.length id ↔ head = some id := by
    simp [OccursAt]
  rw [RepeatsAt, hhead, List.mem_iff_getElem?]
  refine and_congr_right fun _ => exists_congr fun earlier => ?_
  constructor
  · rintro ⟨hless, hoccurs⟩
    exact (occursAt_append_of_lt hless).mp hoccurs
  · intro hoccurs
    have hless := (List.getElem?_eq_some_iff.mp hoccurs).1
    exact ⟨hless, (occursAt_append_of_lt hless).mpr hoccurs⟩

theorem not_repeatsAt_nil (place : Nat) (id : String) : ¬ RepeatsAt [] place id := by
  rintro ⟨hoccurs, -⟩
  simp [OccursAt] at hoccurs

theorem not_repeatsAt_concat {head : Option String} (hfront : ∀ place id, ¬ RepeatsAt front place id)
    (hnew : ∀ id, head = some id → some id ∉ front) (place : Nat) (id : String) :
    ¬ RepeatsAt (front ++ [head]) place id := by
  intro hrepeats
  have hplace := (List.getElem?_eq_some_iff.mp hrepeats.1).1
  rw [List.length_append, List.length_singleton] at hplace
  rcases Nat.lt_succ_iff_lt_or_eq.mp hplace with hless | rfl
  · exact hfront place id ((repeatsAt_append_of_lt hless).mp hrepeats)
  · obtain ⟨hhead, hmem⟩ := repeatsAt_length.mp hrepeats
    exact hnew id hhead hmem

/-- The first repetition behind a list without one.  The invariant of the search is that it has seen
the ids of that list. -/
theorem firstRepeated?_eq_some_iff (front : List (Option String)) {seen : List String}
    (hseen : ∀ id, id ∈ seen ↔ some id ∈ front) (hfront : ∀ place id, ¬ RepeatsAt front place id) :
    firstRepeated? seen (rest.filterMap fun id => id) = some id ↔
      ∃ place, FirstAt (RepeatsAt (front ++ rest)) place id := by
  induction rest generalizing front seen with
  | nil =>
      rw [List.append_nil]
      refine iff_of_false (by simp [firstRepeated?]) ?_
      rintro ⟨place, hrepeats, -⟩
      exact hfront place id hrepeats
  | cons head tail ih =>
      rw [List.append_cons]
      cases head with
      | none =>
          apply ih
          · intro id
            simp [hseen]
          · exact not_repeatsAt_concat hfront (by simp)
      | some name =>
          simp only [List.filterMap_cons, firstRepeated?]
          split
          · next hknown =>
              have hfirst : FirstAt (RepeatsAt (front ++ [some name] ++ tail)) front.length name := by
                rw [← List.append_cons]
                refine ⟨repeatsAt_length.mpr ⟨rfl, (hseen name).mp hknown⟩, ?_⟩
                intro earlier hless other hrepeats
                exact hfront earlier other ((repeatsAt_append_of_lt hless).mp hrepeats)
              rw [exists_firstAt_iff hfirst, Option.some_inj, eq_comm]
              intro other hother
              rw [← List.append_cons, repeatsAt_length] at hother
              exact (Option.some.inj hother.1).symm
          · next hnew =>
              apply ih
              · intro id
                simp [hseen, or_comm]
              · apply not_repeatsAt_concat hfront
                rintro id ⟨rfl⟩ hmem
                exact hnew ((hseen name).mpr hmem)

theorem Distinct.findIdx?_eq_some_iff (hdistinct : Distinct ids) :
    ids.findIdx? (· == some id) = some place ↔ OccursAt ids place id := by
  rw [List.findIdx?_eq_some_iff_getElem]
  constructor
  · rintro ⟨hless, hfound, -⟩
    rw [OccursAt, List.getElem?_eq_getElem hless, eq_of_beq hfound]
  · intro hoccurs
    obtain ⟨hless, hfound⟩ := List.getElem?_eq_some_iff.mp hoccurs
    refine ⟨hless, beq_iff_eq.mpr hfound, fun earlier hearlier hbefore => ?_⟩
    have hother : OccursAt ids earlier id := by
      rw [OccursAt, List.getElem?_eq_getElem (Nat.lt_trans hearlier hless), eq_of_beq hbefore]
    exact Nat.ne_of_lt hearlier (hdistinct id earlier place hother hoccurs)

end Ids

/-! ## Scenes -/

/-- The ids of the dialogues of a scene, at their places. -/
def Scene.ids (scene : Scene) : List (Option String) := scene.dialogues.map Dialogue.id

/-- The ids of scenes, at their places. -/
def sceneIds (scenes : List Scene) : List (Option String) := scenes.map fun scene => some scene.id

/-- Every scene has an id of its own, and so has every dialogue of a scene that has an id. -/
structure Unambiguous (scenes : List Scene) : Prop where
  distinct : Distinct (sceneIds scenes)
  dialogues : ∀ scene ∈ scenes, Distinct scene.ids

/-- What the scene at a place offends against.  That its own id has occurred before counts more than
an id that it repeats. -/
inductive Offends (scenes : List Scene) (place : Nat) : StoryError → Prop where
  | scene (id : String) (hrepeats : RepeatsAt (sceneIds scenes) place id) :
      Offends scenes place (.duplicateScene id)
  | dialogue (scene : Scene) (line : Nat) (id : String) (hscene : scenes[place]? = some scene)
      (hnew : ¬ RepeatsAt (sceneIds scenes) place scene.id)
      (hfirst : FirstAt (RepeatsAt scene.ids) line id) :
      Offends scenes place (.duplicateDialogue id scene.id)

theorem Scene.firstRepeated?_dialogueIds {scene : Scene} {id : String} :
    firstRepeated? [] scene.dialogueIds = some id ↔
      ∃ line, FirstAt (RepeatsAt scene.ids) line id := by
  have hids : scene.dialogueIds = scene.ids.filterMap fun id => id := by
    rw [dialogueIds, ids, List.filterMap_map]
    rfl
  rw [hids]
  exact firstRepeated?_eq_some_iff [] (by simp) not_repeatsAt_nil

section Scenes

variable {scenes front rest : List Scene} {scene : Scene} {place : Nat} {error : StoryError}

theorem sceneIds_append : sceneIds (front ++ rest) = sceneIds front ++ sceneIds rest :=
  List.map_append

theorem length_sceneIds : (sceneIds scenes).length = scenes.length := List.length_map ..

theorem mem_sceneIds {id : String} :
    some id ∈ sceneIds scenes ↔ ∃ scene ∈ scenes, scene.id = id := by
  simp [sceneIds]

theorem Offends.lt_length (hoffends : Offends scenes place error) : place < scenes.length := by
  cases hoffends with
  | scene id hrepeats =>
      rw [← length_sceneIds]
      exact (List.getElem?_eq_some_iff.mp hrepeats.1).1
  | dialogue scene line id hscene => exact (List.getElem?_eq_some_iff.mp hscene).1

/-- What comes behind a scene has no part in its offence. -/
theorem offends_append_of_lt (hplace : place < front.length) :
    Offends (front ++ rest) place error ↔ Offends front place error := by
  have hrepeats : ∀ id, RepeatsAt (sceneIds (front ++ rest)) place id ↔
      RepeatsAt (sceneIds front) place id := by
    intro id
    rw [sceneIds_append]
    exact repeatsAt_append_of_lt (length_sceneIds.symm ▸ hplace)
  have hfound : (front ++ rest)[place]? = front[place]? := List.getElem?_append_left hplace
  constructor
  · intro hoffends
    cases hoffends with
    | scene id hknown => exact .scene id ((hrepeats id).mp hknown)
    | dialogue scene line id hscene hnew hfirst =>
        exact .dialogue scene line id (hfound ▸ hscene) (mt (hrepeats scene.id).mpr hnew) hfirst
  · intro hoffends
    cases hoffends with
    | scene id hknown => exact .scene id ((hrepeats id).mpr hknown)
    | dialogue scene line id hscene hnew hfirst =>
        exact .dialogue scene line id (hfound.trans hscene) (mt (hrepeats scene.id).mp hnew) hfirst

theorem repeatsAt_scene_length {id : String} :
    RepeatsAt (sceneIds (front ++ scene :: rest)) front.length id ↔
      scene.id = id ∧ ∃ earlier ∈ front, earlier.id = id := by
  have hids : sceneIds (front ++ scene :: rest) =
      sceneIds front ++ some scene.id :: sceneIds rest := sceneIds_append
  rw [hids, ← length_sceneIds, repeatsAt_length, mem_sceneIds, Option.some_inj]

/-- The offence of the scene behind others. -/
theorem offends_length (front rest : List Scene) (scene : Scene) (error : StoryError) :
    Offends (front ++ scene :: rest) front.length error ↔
      if ∃ earlier ∈ front, earlier.id = scene.id then error = .duplicateScene scene.id
      else ∃ id, firstRepeated? [] scene.dialogueIds = some id ∧
        error = .duplicateDialogue id scene.id := by
  have hfound : (front ++ scene :: rest)[front.length]? = some scene := by simp
  split
  · next hknown =>
      constructor
      · intro hoffends
        cases hoffends with
        | scene id hrepeats => rw [(repeatsAt_scene_length.mp hrepeats).1]
        | dialogue other line id hother hnew =>
            obtain rfl : scene = other := Option.some.inj (hfound.symm.trans hother)
            exact absurd (repeatsAt_scene_length.mpr ⟨rfl, hknown⟩) hnew
      · rintro rfl
        exact .scene scene.id (repeatsAt_scene_length.mpr ⟨rfl, hknown⟩)
  · next hnew =>
      constructor
      · intro hoffends
        cases hoffends with
        | scene id hrepeats =>
            obtain ⟨rfl, hknown⟩ := repeatsAt_scene_length.mp hrepeats
            exact absurd hknown hnew
        | dialogue other line id hother hfresh hfirst =>
            obtain rfl : scene = other := Option.some.inj (hfound.symm.trans hother)
            exact ⟨id, Scene.firstRepeated?_dialogueIds.mpr ⟨line, hfirst⟩, rfl⟩
      · rintro ⟨id, hrepeated, rfl⟩
        obtain ⟨line, hfirst⟩ := Scene.firstRepeated?_dialogueIds.mp hrepeated
        refine .dialogue scene line id hfound (fun hrepeats => ?_) hfirst
        exact hnew (repeatsAt_scene_length.mp hrepeats).2

theorem firstAt_length (hfront : ∀ place error, ¬ Offends front place error)
    (hoffends : Offends (front ++ scene :: rest) front.length error) :
    FirstAt (Offends (front ++ scene :: rest)) front.length error := by
  refine ⟨hoffends, fun earlier hless other hother => ?_⟩
  exact hfront earlier other ((offends_append_of_lt hless).mp hother)

theorem not_offends_concat (hfront : ∀ place error, ¬ Offends front place error)
    (hscene : ∀ error, ¬ Offends (front ++ [scene]) front.length error) (place : Nat)
    (error : StoryError) : ¬ Offends (front ++ [scene]) place error := by
  intro hoffends
  have hplace := hoffends.lt_length
  rw [List.length_append, List.length_singleton] at hplace
  rcases Nat.lt_succ_iff_lt_or_eq.mp hplace with hless | rfl
  · exact hfront place error ((offends_append_of_lt hless).mp hoffends)
  · exact hscene error hoffends

/-- The first offence behind scenes without one.  As in a single scene, the search has seen the ids
of the scenes before. -/
theorem firstOffence?_eq_some_iff (front : List Scene) {seen : List String}
    (hseen : ∀ id, id ∈ seen ↔ ∃ scene ∈ front, scene.id = id)
    (hfront : ∀ place error, ¬ Offends front place error) :
    firstOffence? seen rest = some error ↔
      ∃ place, FirstAt (Offends (front ++ rest)) place error := by
  induction rest generalizing front seen with
  | nil =>
      rw [List.append_nil]
      refine iff_of_false (by simp [firstOffence?]) ?_
      rintro ⟨place, hoffends, -⟩
      exact hfront place error hoffends
  | cons scene tail ih =>
      have hhere := fun rest error => offends_length front rest scene error
      rw [firstOffence?]
      split
      · next hmem =>
          have hknown := (hseen scene.id).mp hmem
          simp only [if_pos hknown] at hhere
          have hfirst := firstAt_length hfront ((hhere tail _).mpr rfl)
          rw [exists_firstAt_iff hfirst fun other => (hhere tail other).mp, Option.some_inj, eq_comm]
      · next hnew =>
          simp only [if_neg (mt (hseen scene.id).mpr hnew)] at hhere
          split
          · next id hrepeated =>
              have hfirst := firstAt_length hfront ((hhere tail _).mpr ⟨id, hrepeated, rfl⟩)
              rw [exists_firstAt_iff hfirst, Option.some_inj, eq_comm]
              intro other hother
              obtain ⟨again, hagain, rfl⟩ := (hhere tail other).mp hother
              rw [Option.some.inj (hrepeated.symm.trans hagain)]
          · next hnone =>
              rw [List.append_cons]
              apply ih
              · intro id
                simp [hseen, or_comm, eq_comm]
              · apply not_offends_concat hfront
                intro error hoffends
                obtain ⟨id, hrepeated, -⟩ := (hhere [] error).mp hoffends
                cases hnone.symm.trans hrepeated

/-- Scenes without an offence are those with unambiguous ids. -/
theorem unambiguous_iff : Unambiguous scenes ↔ ∀ place error, ¬ Offends scenes place error := by
  constructor
  · rintro hunambiguous place error hoffends
    cases hoffends with
    | scene id hrepeats => exact distinct_iff.mp hunambiguous.distinct place id hrepeats
    | dialogue scene line id hscene hnew hfirst =>
        have hmem := List.mem_of_getElem? hscene
        exact distinct_iff.mp (hunambiguous.dialogues scene hmem) line id hfirst.1
  · intro hnone
    have hdistinct : ∀ place id, ¬ RepeatsAt (sceneIds scenes) place id :=
      fun place id hrepeats => hnone place _ (.scene id hrepeats)
    refine ⟨distinct_iff.mpr hdistinct, fun scene hmem => distinct_iff.mpr fun line id hrepeats => ?_⟩
    obtain ⟨place, hscene⟩ := List.mem_iff_getElem?.mp hmem
    obtain ⟨first, found, hfirst⟩ := exists_firstAt hrepeats
    exact hnone place _ (.dialogue scene first found hscene (hdistinct place scene.id) hfirst)

end Scenes

/-! ## Catalogues -/

/-- Scenes with an index of their places. -/
structure Catalogue where
  scenes : List Scene
  places : List (String × Nat)

namespace Catalogue

/-- Reads scenes, the first of which is at `place`, into an index, up to the first offence. -/
def fill (place : Nat) (places : List (String × Nat)) :
    List Scene → Except StoryError (List (String × Nat))
  | [] => .ok places
  | scene :: rest =>
      match places.lookup scene.id with
      | some _ => .error (.duplicateScene scene.id)
      | none =>
          match firstRepeated? [] scene.dialogueIds with
          | some dialogue => .error (.duplicateDialogue dialogue scene.id)
          | none => fill (place + 1) ((scene.id, place) :: places) rest

def ofScenes (scenes : List Scene) : Except StoryError Catalogue :=
  (fill 0 [] scenes).map fun places => { scenes, places }

/-- The scene at the place that the index has for an id. -/
def scene? (catalogue : Catalogue) (id : String) : Option Scene :=
  (catalogue.places.lookup id).bind fun place => catalogue.scenes[place]?

/-- An index leads from each id to the place that has it, and from no other id. -/
def Indexes (places : List (String × Nat)) (scenes : List Scene) : Prop :=
  ∀ id place, places.lookup id = some place ↔ OccursAt (sceneIds scenes) place id

variable {places : List (String × Nat)} {scenes front rest : List Scene} {scene : Scene}

/-- One more scene, with an id that is not indexed yet. -/
theorem Indexes.concat (hindexes : Indexes places front)
    (hnew : places.lookup scene.id = none) :
    Indexes ((scene.id, front.length) :: places) (front ++ [scene]) := by
  intro id place
  have hids : sceneIds (front ++ [scene]) = sceneIds front ++ [some scene.id] := sceneIds_append
  rw [hids, occursAt_concat, ← hindexes id place, length_sceneIds, Variables.lookup_cons_eq]
  by_cases hid : id = scene.id
  · subst hid
    simp [hnew, eq_comm]
  · simp [hid, Ne.symm hid]

/-- Reading into an index stops at the offence where reading without one stops. -/
theorem fill_eq_error_iff {seen : List String} {place : Nat} {error : StoryError}
    (hseen : ∀ id, places.lookup id = none ↔ id ∉ seen) :
    fill place places rest = .error error ↔ firstOffence? seen rest = some error := by
  induction rest generalizing place places seen with
  | nil => simp [fill, firstOffence?]
  | cons scene tail ih =>
      rw [fill, firstOffence?]
      cases hlookup : places.lookup scene.id with
      | some found =>
          have hmem : scene.id ∈ seen := by
            by_contra hnew
            cases hlookup.symm.trans ((hseen scene.id).mpr hnew)
          rw [if_pos hmem]
          simp
      | none =>
          rw [if_neg ((hseen scene.id).mp hlookup)]
          cases firstRepeated? [] scene.dialogueIds with
          | some dialogue => simp
          | none =>
              apply ih
              intro id
              rw [Variables.lookup_cons_eq]
              by_cases hid : id = scene.id
              · simp [hid]
              · simp [hid, hseen]

/-- What is read to the end is indexed. -/
theorem indexes_of_fill {filled : List (String × Nat)} (hindexes : Indexes places front)
    (hfilled : fill front.length places rest = .ok filled) : Indexes filled (front ++ rest) := by
  induction rest generalizing front places with
  | nil =>
      obtain rfl : places = filled := Except.ok.inj hfilled
      rwa [List.append_nil]
  | cons scene tail ih =>
      rw [fill] at hfilled
      split at hfilled
      · cases hfilled
      · next hnew =>
          split at hfilled
          · cases hfilled
          · rw [List.append_cons]
            apply ih (hindexes.concat hnew)
            rwa [List.length_append, List.length_singleton]

theorem indexes_of_ofScenes {catalogue : Catalogue} (hread : ofScenes scenes = .ok catalogue) :
    catalogue.scenes = scenes ∧ Indexes catalogue.places scenes := by
  rw [ofScenes] at hread
  cases hfilled : fill 0 [] scenes with
  | error error => simp [hfilled, Except.map] at hread
  | ok places =>
      obtain rfl : { scenes, places } = catalogue := by simpa [hfilled, Except.map] using hread
      have hnone : Indexes [] [] := fun id place => by simp [OccursAt, sceneIds]
      exact ⟨rfl, indexes_of_fill hnone hfilled⟩

end Catalogue

/-! ## Stories -/

theorem occursAt_sceneIds {scenes : List Scene} {scene : Scene} {place : Nat}
    (hscene : scenes[place]? = some scene) (id : String) :
    OccursAt (sceneIds scenes) place id ↔ scene.id = id := by
  simp [OccursAt, sceneIds, hscene]

namespace Story

variable {scenes : List Scene} {story : Story} {error : StoryError}

theorem ofScenes_eq_error_iff :
    ofScenes scenes = .error error ↔ firstOffence? [] scenes = some error := by
  rw [ofScenes]
  split
  · next hnone => simp [hnone]
  · next offence hoffence => simp [hoffence]

/-- A catalogue is refused for what a story is refused for. -/
theorem catalogue_eq_error_iff :
    Catalogue.ofScenes scenes = .error error ↔ ofScenes scenes = .error error := by
  rw [ofScenes_eq_error_iff, Catalogue.ofScenes]
  have hfill : Catalogue.fill 0 [] scenes = .error error ↔ firstOffence? [] scenes = some error :=
    Catalogue.fill_eq_error_iff (by simp)
  rw [← hfill]
  cases Catalogue.fill 0 [] scenes with
  | error refused => simp [Except.map]
  | ok filled => simp [Except.map]

/-- Scenes are refused for their first offence. -/
theorem ofScenes_eq_error_iff_offends :
    ofScenes scenes = .error error ↔ ∃ place, FirstAt (Offends scenes) place error := by
  rw [ofScenes_eq_error_iff]
  apply firstOffence?_eq_some_iff []
  · simp
  · intro place error hoffends
    exact Nat.not_lt_zero place hoffends.lt_length

theorem exists_ofScenes_iff : (∃ story, ofScenes scenes = .ok story) ↔ Unambiguous scenes := by
  have haccepted : (∃ story, ofScenes scenes = .ok story) ↔
      ∀ error, ofScenes scenes ≠ .error error := by
    cases ofScenes scenes with
    | ok story => simp
    | error error => simp
  rw [haccepted, unambiguous_iff]
  constructor
  · intro hnone place error hoffends
    obtain ⟨first, found, hfirst⟩ := exists_firstAt hoffends
    exact hnone found (ofScenes_eq_error_iff_offends.mpr ⟨first, hfirst⟩)
  · intro hnone error herror
    obtain ⟨place, hfirst⟩ := ofScenes_eq_error_iff_offends.mp herror
    exact hnone place error hfirst.1

/-- A scene is looked up by the first place that has the id. -/
theorem scene?_eq_bind (story : Story) (id : String) :
    story.scene? id =
      ((sceneIds story.scenes).findIdx? (· == some id)).bind fun place => story.scenes[place]? := by
  rw [scene?, List.find?_eq_bind_findIdx?_getElem?, sceneIds, List.findIdx?_map]
  rfl

/-- What a story gives for ids: the one scene that has an id, and the one place in a scene.  An index
that was filled while reading gives the same. -/
structure Finds (story : Story) (scenes : List Scene) : Prop where
  scenes_eq : story.scenes = scenes
  found : ∀ id scene, story.scene? id = some scene ↔ ∃ place, scenes[place]? = some scene ∧
    scene.id = id ∧ ∀ other, OccursAt (sceneIds scenes) other id → other = place
  missing : ∀ id, story.scene? id = none ↔ ∀ scene ∈ scenes, scene.id ≠ id
  position : ∀ scene ∈ scenes, ∀ id place,
    scene.position? id = some place ↔ OccursAt scene.ids place id
  indexed : ∃ catalogue, Catalogue.ofScenes scenes = .ok catalogue ∧
    ∀ id, catalogue.scene? id = story.scene? id

theorem finds_of_ofScenes (haccepted : ofScenes scenes = .ok story) : story.Finds scenes := by
  have hscenes := scenes_of_ofScenes haccepted
  subst hscenes
  obtain ⟨hdistinct, hdialogues⟩ := exists_ofScenes_iff.mp ⟨story, haccepted⟩
  have hplace : ∀ id place, (sceneIds story.scenes).findIdx? (· == some id) = some place ↔
      OccursAt (sceneIds story.scenes) place id := fun id place => hdistinct.findIdx?_eq_some_iff
  refine ⟨rfl, fun id scene => ?_, fun id => ?_, fun scene hmem id place => ?_, ?_⟩
  · rw [scene?_eq_bind, Option.bind_eq_some_iff]
    constructor
    · rintro ⟨place, hfound, hscene⟩
      have hoccurs := (hplace id place).mp hfound
      refine ⟨place, hscene, (occursAt_sceneIds hscene id).mp hoccurs, fun other hother => ?_⟩
      exact hdistinct id other place hother hoccurs
    · rintro ⟨place, hscene, hid, -⟩
      exact ⟨place, (hplace id place).mpr ((occursAt_sceneIds hscene id).mpr hid), hscene⟩
  · simp [scene?]
  · rw [← (hdialogues scene hmem).findIdx?_eq_some_iff, Scene.ids, List.findIdx?_map]
    rfl
  · cases hread : Catalogue.ofScenes story.scenes with
    | error error => cases haccepted.symm.trans (catalogue_eq_error_iff.mp hread)
    | ok catalogue =>
        obtain ⟨hscenes, hindexes⟩ := Catalogue.indexes_of_ofScenes hread
        refine ⟨catalogue, rfl, fun id => ?_⟩
        have hlookup : catalogue.places.lookup id =
            (sceneIds story.scenes).findIdx? (· == some id) := by
          ext place
          exact (hindexes id place).trans (hplace id place).symm
        rw [Catalogue.scene?, hlookup, hscenes, scene?_eq_bind]

/-- Scenes make a story exactly when their ids are unambiguous, and then every id leads to the one
place that has it.  Other scenes are refused for their first offence in reading order. -/
theorem accepts_unambiguous (scenes : List Scene) :
    ((∃ story, ofScenes scenes = .ok story) ↔ Unambiguous scenes) ∧
      (∀ story, ofScenes scenes = .ok story → story.Finds scenes) ∧
      ∀ error,
        (ofScenes scenes = .error error ↔ ∃ place, FirstAt (Offends scenes) place error) ∧
        (Catalogue.ofScenes scenes = .error error ↔ ofScenes scenes = .error error) :=
  ⟨exists_ofScenes_iff, fun _ haccepted => finds_of_ofScenes haccepted,
    fun _ => ⟨ofScenes_eq_error_iff_offends, catalogue_eq_error_iff⟩⟩

/-- The lines without an id do not count, and the scene that comes twice is not reached. -/
example :
    firstOffence? []
      [{ id := "gate", dialogues := [{ id := some "hail", speaker := "Guard", text := "Halt!" }] },
        { id := "yard",
          dialogues :=
            [{ speaker := "Guard", text := "Hm." }, { speaker := "Guard", text := "Hm." },
              { id := some "hail", speaker := "Guard", text := "You again?" },
              { id := some "hail", speaker := "Guard", text := "You!" }] },
        { id := "gate" }] = some (.duplicateDialogue "hail" "yard") := by
  decide

end Story

end BranchingStory
