import BranchingStory.Rule

/-!
# Stories

A story is a list of scenes, a scene a list of dialogues and a dialogue a line of text that may
offer choices.  Scenes are named by ids that occur once, and within a scene the dialogue ids that
are present occur once; `Story.ofScenes` refuses the first offence in reading order.
-/

namespace BranchingStory

/-- An option the player may take. -/
structure Choice where
  id : Option String := none
  text : String
  effects : List Effect := []
  /-- The choice is offered only when all of these hold. -/
  conditions : List Condition := []
  target : Target := {}
  check : Option DiceCheck := none
deriving DecidableEq

/-- An authored line. -/
structure Dialogue where
  id : Option String := none
  speaker : String
  text : String
  directions : Option String := none
  /-- The line is shown only when all of these hold. -/
  conditions : List Condition := []
  choices : List Choice := []
deriving DecidableEq

/-- A titled sequence of dialogues; their order is the default progression. -/
structure Scene where
  id : String
  title : String := ""
  description : Option String := none
  dialogues : List Dialogue := []
deriving DecidableEq

/-- The place of the dialogue with an id. -/
def Scene.position? (scene : Scene) (id : String) : Option Nat :=
  scene.dialogues.findIdx? fun dialogue => dialogue.id == some id

/-- Why a list of scenes is not a story. -/
inductive StoryError where
  | duplicateScene (id : String)
  | duplicateDialogue (dialogue scene : String)
deriving DecidableEq

def StoryError.message : StoryError → String
  | duplicateScene id => "duplicate scene id: " ++ id
  | duplicateDialogue dialogue scene =>
      "duplicate dialogue id " ++ dialogue ++ " in scene " ++ scene

/-- The first element that occurs earlier in a list or in `seen`. -/
def firstRepeated? (seen : List String) : List String → Option String
  | [] => none
  | head :: tail =>
      if head ∈ seen then some head else firstRepeated? (head :: seen) tail

/-- The ids that the dialogues of a scene have. -/
def Scene.dialogueIds (scene : Scene) : List String :=
  scene.dialogues.filterMap Dialogue.id

/-- The first offence of a list of scenes that follows scenes with the ids `seen`. -/
def firstOffence? (seen : List String) : List Scene → Option StoryError
  | [] => none
  | scene :: rest =>
      if scene.id ∈ seen then some (.duplicateScene scene.id)
      else
        match firstRepeated? [] scene.dialogueIds with
        | some dialogue => some (.duplicateDialogue dialogue scene.id)
        | none => firstOffence? (scene.id :: seen) rest

/-- Scenes without a repeated id. -/
structure Story where
  scenes : List Scene
  unambiguous : firstOffence? [] scenes = none

namespace Story

def empty : Story := { scenes := [], unambiguous := rfl }

instance : Inhabited Story := ⟨empty⟩

def ofScenes (scenes : List Scene) : Except StoryError Story :=
  match unambiguous : firstOffence? [] scenes with
  | none => .ok { scenes, unambiguous }
  | some offence => .error offence

theorem scenes_of_ofScenes {scenes : List Scene} {story : Story}
    (haccepted : ofScenes scenes = .ok story) : story.scenes = scenes := by
  rw [ofScenes] at haccepted
  split at haccepted
  · cases haccepted
    rfl
  · cases haccepted

/-- The scene with an id. -/
def scene? (story : Story) (id : String) : Option Scene :=
  story.scenes.find? fun scene => scene.id == id

def firstScene? (story : Story) : Option Scene := story.scenes.head?

def size (story : Story) : Nat := story.scenes.length

def isEmpty (story : Story) : Bool := story.scenes.isEmpty

end Story

end BranchingStory
