import BranchingStory.Proofs.Spelling
import BranchingStory.Wire.Story

/-!
# Rereading

A story that was read from a document can be written and read again, and is the same.  What a reader
has accepted is written in a way that the reader accepts and reads as the same value; of a field
this follows from its reader, and of a record from its fields, since the members that are written
have the declared names, each of them once.  Operators are kept as they were written unless they are
known, doubles are finite and have a numeral that reads back to them, and what is unset is left out.
-/

namespace BranchingStory

namespace Json

variable {Value : Type} {read : Json → Option Value} {write : Value → Json} {value : Value}

/-! ## Values that are written and read again -/

/-- A value that is written, not as null, and read again as itself. -/
structure Rereads (read : Json → Option Value) (write : Value → Json) (value : Value) : Prop where
  writable : (write value).IsWritable
  present : write value ≠ null
  again : read (write value) = some value

/-- Whatever is read can be written and read again. -/
def Settles (read : Json → Option Value) (write : Value → Json) : Prop :=
  ∀ json value, read json = some value → Rereads read write value

theorem rereads_text (value : String) : Rereads text? string value :=
  ⟨.string value, Json.noConfusion, rfl⟩

theorem rereads_double {value : Binary64} (hfinite : value.isFinite = true) :
    Rereads double? Binary64.toJson value := by
  cases value with
  | nan | infinite negative => cases hfinite
  | finite negative magnitude hfits =>
      have hnumeral := Binary64.ofDecimal_shortest Layout.document.tie negative hfits
      refine ⟨.decimal _ (Decimal.isNormal_shortest _ negative magnitude), Json.noConfusion, ?_⟩
      simp only [double?, Binary64.toJson, hnumeral]
      rfl

theorem settles_double : Settles double? Binary64.toJson := by
  intro json value hread
  exact rereads_double (Option.filter_eq_some_iff.mp hread).2

theorem rereads_natural32 (value : UInt32) : Rereads natural32? UInt32.toJson value := by
  refine ⟨.integer _, Json.noConfusion, ?_⟩
  have hbound : (0 : Int) ≤ value.toNat ∧ (value.toNat : Int) < UInt32.size :=
    ⟨Int.natCast_nonneg _, Int.ofNat_lt.mpr value.toNat_lt_size⟩
  have hbelow : below? UInt32.size (integer value.toNat) = some value.toNat := by
    rw [below?, if_pos hbound, Int.toNat_natCast]
  simp only [natural32?, UInt32.toJson, hbelow, Option.map_some, UInt32.ofNat_toNat]

theorem mem_of_mapM {items : List Json} {values : List Value}
    (hread : items.mapM read = some values) :
    ∀ value ∈ values, ∃ item, read item = some value := by
  induction items generalizing values with
  | nil =>
      obtain rfl : [] = values := Option.some.inj hread
      exact List.forall_mem_nil _
  | cons item rest ih =>
      simp only [List.mapM_cons, Option.bind_eq_bind, Option.pure_def, Option.bind_eq_some_iff,
        Option.some.injEq] at hread
      obtain ⟨first, hfirst, others, hothers, rfl⟩ := hread
      exact List.forall_mem_cons.mpr ⟨⟨item, hfirst⟩, ih hothers⟩

/-- What is read again one by one is read again as a list. -/
theorem mapM_map_eq_some {Source : Type} {read : Source → Option Value} {write : Value → Source}
    {values : List Value} (hagain : ∀ value ∈ values, read (write value) = some value) :
    (values.map write).mapM read = some values := by
  induction values with
  | nil => rfl
  | cons value rest ih =>
      obtain ⟨hvalue, hrest⟩ := List.forall_mem_cons.mp hagain
      simp [hvalue, ih hrest]

theorem rereads_list {values : List Value} (hvalues : ∀ value ∈ values, Rereads read write value) :
    Rereads (list? read) (fun values => array (values.map write)) values where
  writable := by
    refine .array _ fun item hmem => ?_
    obtain ⟨value, hvalue, rfl⟩ := List.mem_map.mp hmem
    exact (hvalues value hvalue).writable
  present := Json.noConfusion
  again := mapM_map_eq_some fun value hmem => (hvalues value hmem).again

theorem Settles.list (hsettles : Settles read write) :
    Settles (list? read) (fun values => array (values.map write)) := by
  intro json values hread
  cases json with
  | array items =>
      refine rereads_list fun value hmem => ?_
      obtain ⟨item, hitem⟩ := mem_of_mapM hread value hmem
      exact hsettles item value hitem
  | null | boolean | integer | decimal | string | object | unreadable => cases hread

/-! ## Fields -/

section Fields

variable {fields : Fields} {name : String}

theorem Settles.required (hsettles : Settles read write)
    (hfield : fields.required name read = some value) : Rereads read write value := by
  obtain ⟨json, -, hread⟩ := Option.bind_eq_some_iff.mp hfield
  exact hsettles json value hread

theorem Settles.optional (hsettles : Settles read write) {field : Option Value}
    (hfield : fields.optional name read = some field) :
    ∀ value ∈ field, Rereads read write value := by
  rintro value rfl
  simp only [Fields.optional] at hfield
  split at hfield
  · next json hget =>
      cases json with
      | null => simp [nullable?] at hfield
      | _ =>
          simp only [nullable?, Option.map_eq_map, Option.map_eq_some_iff, Option.some.injEq,
            exists_eq_right] at hfield
          exact hsettles _ value hfield
  · simp at hfield

theorem Settles.withDefault (hsettles : Settles read write) {default : Value}
    (hdefault : Rereads read write default)
    (hfield : fields.withDefault name default read = some value) : Rereads read write value := by
  rw [Fields.withDefault] at hfield
  split at hfield
  · exact hsettles _ value hfield
  · exact Option.some.inj hfield ▸ hdefault

theorem Settles.listOrNone (hsettles : Settles read write) {values : List Value}
    (hfield : fields.withDefault name [] (list? read) = some values) :
    Rereads (list? read) (fun values => array (values.map write)) values :=
  hsettles.list.withDefault (rereads_list (List.forall_mem_nil _)) hfield

end Fields

/-! ## Records -/

/-- The members of a record that have a value. -/
def presentMembers (members : List (String × Option Json)) : Fields :=
  members.filterMap fun (key, value) => value.map fun value => (key, value)

theorem mem_presentMembers {members : List (String × Option Json)} {key : String} {json : Json} :
    (key, json) ∈ presentMembers members ↔ (key, some json) ∈ members := by
  simp only [presentMembers, List.mem_filterMap, Option.map_eq_some_iff, Prod.mk.injEq]
  constructor
  · rintro ⟨⟨_, _⟩, hmember, _, rfl, rfl, rfl⟩
    exact hmember
  · intro hmember
    exact ⟨_, hmember, json, rfl, rfl, rfl⟩

/-- A key that no member has is not among those that are present. -/
theorem forall_key_ne {members : List (String × Option Json)} {key : String}
    (hkey : key ∉ members.map Prod.fst) : ∀ member ∈ presentMembers members, member.1 ≠ key := by
  rintro ⟨other, json⟩ hmem rfl
  exact hkey (List.mem_map_of_mem (mem_presentMembers.mp hmem))

/-- Under names that occur once, a member gives its value to its name. -/
theorem get?_presentMembers {members : List (String × Option Json)}
    (hdistinct : (members.map Prod.fst).Nodup) {name : String} {field : Option Json}
    (hmem : (name, field) ∈ members) : Fields.get? (presentMembers members) name = field := by
  induction members with
  | nil => cases hmem
  | cons member rest ih =>
      obtain ⟨key, value⟩ := member
      obtain ⟨hkey, hrest⟩ := List.nodup_cons.mp hdistinct
      rcases List.mem_cons.mp hmem with hhead | htail
      · cases hhead
        cases field with
        | none =>
            rw [Fields.get?, Option.map_eq_none_iff, List.find?_eq_none]
            exact fun member hmember => by simpa using forall_key_ne hkey member hmember
        | some json => simp [presentMembers, Fields.get?]
      · have hother : key ≠ name := by
          rintro rfl
          have hsame : key ∈ rest.map Prod.fst := List.mem_map_of_mem htail
          exact hkey hsame
        rw [← ih hrest htail]
        cases value with
        | none => rfl
        | some json => simp [presentMembers, Fields.get?, hother]

theorem distinctKeys_presentMembers {members : List (String × Option Json)}
    (hdistinct : (members.map Prod.fst).Nodup) : distinctKeys (presentMembers members) = true := by
  induction members with
  | nil => rfl
  | cons member rest ih =>
      obtain ⟨key, value⟩ := member
      obtain ⟨hkey, hrest⟩ := List.nodup_cons.mp hdistinct
      cases value with
      | none => exact ih hrest
      | some json =>
          have hnew : ((presentMembers rest).all fun member => member.1 != key) = true :=
            List.all_eq_true.mpr fun member hmem => bne_iff_ne.mpr (forall_key_ne hkey member hmem)
          exact Bool.and_eq_true_iff.mpr ⟨hnew, ih hrest⟩

/-- Members that stand for the declared fields, each of which is named once. -/
structure Declares (declared : List Field) (members : List (String × Option Json)) : Prop where
  names : members.map Prod.fst = declared.map Field.name
  distinct : (declared.map Field.name).Nodup

namespace Declares

variable {declared : List Field} {members : List (String × Option Json)}

theorem fields? (hdeclares : Declares declared members) :
    (ofMembers members).fields? declared = some (presentMembers members) := by
  have hknown : (presentMembers members).filter
      (fun member => declared.any fun field => field.name == member.1) =
        presentMembers members := by
    rw [List.filter_eq_self]
    rintro ⟨key, json⟩ hmem
    have hname : key ∈ members.map Prod.fst := List.mem_map_of_mem (mem_presentMembers.mp hmem)
    rw [hdeclares.names] at hname
    obtain ⟨field, hfield, rfl⟩ := List.mem_map.mp hname
    exact List.any_eq_true.mpr ⟨field, hfield, beq_self_eq_true _⟩
  have hkeys := distinctKeys_presentMembers (hdeclares.names ▸ hdeclares.distinct)
  change (object (presentMembers members)).fields? declared = _
  simp only [Json.fields?, hknown, hkeys, if_true]

theorem get? (hdeclares : Declares declared members) {name : String} {field : Option Json}
    (hmem : (name, field) ∈ members) : Fields.get? (presentMembers members) name = field :=
  get?_presentMembers (hdeclares.names ▸ hdeclares.distinct) hmem

theorem required (hdeclares : Declares declared members) (name : String)
    (hmem : (name, some (write value)) ∈ members) (hreread : Rereads read write value) :
    Fields.required (presentMembers members) name read = some value := by
  rw [Fields.required, hdeclares.get? hmem]
  exact hreread.again

theorem withDefault (hdeclares : Declares declared members) (name : String)
    (hmem : (name, some (write value)) ∈ members) (hreread : Rereads read write value)
    (default : Value) :
    Fields.withDefault (presentMembers members) name default read = some value := by
  rw [Fields.withDefault, hdeclares.get? hmem]
  exact hreread.again

theorem optional (hdeclares : Declares declared members) (name : String)
    {field : Option Value} (hmem : (name, field.map write) ∈ members)
    (hreread : ∀ value ∈ field, Rereads read write value) :
    Fields.optional (presentMembers members) name read = some field := by
  rw [Fields.optional, hdeclares.get? hmem]
  cases field with
  | none => rfl
  | some value =>
      obtain ⟨-, hpresent, hagain⟩ := hreread value rfl
      rw [Option.map_some]
      simp only
      rw [nullable?]
      · rw [hagain]
        rfl
      · exact hpresent

end Declares

theorem isWritable_ofMembers {members : List (String × Option Json)}
    (hmembers : ∀ member ∈ members, ∀ json ∈ member.2, json.IsWritable) :
    (ofMembers members).IsWritable := by
  refine .object _ fun member hmem => ?_
  exact hmembers _ (mem_presentMembers.mp hmem) member.2 rfl

theorem Rereads.isWritable_some (hreread : Rereads read write value) :
    ∀ json ∈ some (write value), json.IsWritable := by
  rintro json ⟨⟩
  exact hreread.writable

theorem isWritable_map {field : Option Value} (hreread : ∀ value ∈ field, Rereads read write value) :
    ∀ json ∈ field.map write, json.IsWritable := by
  intro json hmem
  obtain ⟨value, hvalue, rfl⟩ := Option.map_eq_some_iff.mp hmem
  exact (hreread value hvalue).writable

end Json

open Json (Settles Rereads Declares rereads_text rereads_natural32)

/-! ## Rules -/

theorem Comparison.ofText_symbol (text : String) :
    ofText (ofText text).symbol = ofText text := by
  cases hread : ofText text with
  | unrecognized written =>
      obtain rfl : written = text := by
        rw [ofText] at hread
        split at hread <;> cases hread
        rfl
      exact hread
  | _ => decide +kernel

theorem Operation.ofText_symbol (text : String) :
    ofText (ofText text).symbol = ofText text := by
  cases hread : ofText text with
  | unrecognized written =>
      obtain rfl : written = text := by
        rw [ofText] at hread
        split at hread <;> cases hread
        rfl
      exact hread
  | _ => decide +kernel

theorem Comparison.settles : Settles ofJson? toJson := by
  intro json comparison hread
  obtain ⟨text, -, rfl⟩ := Option.map_eq_some_iff.mp hread
  exact ⟨.string _, Json.noConfusion, congrArg some (ofText_symbol text)⟩

theorem Operation.settles : Settles ofJson? toJson := by
  intro json operation hread
  obtain ⟨text, -, rfl⟩ := Option.map_eq_some_iff.mp hread
  exact ⟨.string _, Json.noConfusion, congrArg some (ofText_symbol text)⟩

theorem Condition.settles : Settles ofJson? toJson := by
  intro json condition hread
  simp only [ofJson?, Option.bind_eq_bind, Option.pure_def, Option.bind_eq_some_iff,
    Option.some.injEq] at hread
  obtain ⟨fields, -, name, -, comparison, hcomparison, threshold, hthreshold, rfl⟩ := hread
  replace hcomparison := Comparison.settles.required hcomparison
  replace hthreshold := Json.settles_double.required hthreshold
  have hdeclares : Declares [⟨"variable", false⟩, ⟨"operator", false⟩, ⟨"value", false⟩]
      [("variable", some (.string name)), ("operator", some comparison.toJson),
        ("value", some threshold.toJson)] := ⟨rfl, by decide⟩
  have hwritten : toJson { name, comparison, threshold } = .ofMembers
      [("variable", some (.string name)), ("operator", some comparison.toJson),
        ("value", some threshold.toJson)] := rfl
  refine ⟨?_, Json.noConfusion, ?_⟩
  · rw [hwritten]
    apply Json.isWritable_ofMembers
    simp only [List.forall_mem_cons]
    exact ⟨(rereads_text name).isWritable_some, hcomparison.isWritable_some,
      hthreshold.isWritable_some, List.forall_mem_nil _⟩
  · simp only [ofJson?, hwritten, hdeclares.fields?,
      hdeclares.required "variable" (by simp) (rereads_text name),
      hdeclares.required "operator" (by simp) hcomparison,
      hdeclares.required "value" (by simp) hthreshold, Option.bind_eq_bind, Option.bind_some,
      Option.pure_def]

theorem Effect.settles : Settles ofJson? toJson := by
  intro json effect hread
  simp only [ofJson?, Option.bind_eq_bind, Option.pure_def, Option.bind_eq_some_iff,
    Option.some.injEq] at hread
  obtain ⟨fields, -, name, -, operation, hoperation, operand, hoperand, least, hleast, greatest,
    hgreatest, rfl⟩ := hread
  replace hoperation := Operation.settles.required hoperation
  replace hoperand := Json.settles_double.optional hoperand
  replace hleast := Json.settles_double.optional hleast
  replace hgreatest := Json.settles_double.optional hgreatest
  have hdeclares : Declares
      [⟨"variable", false⟩, ⟨"operation", false⟩, ⟨"value", true⟩, ⟨"min", true⟩, ⟨"max", true⟩]
      [("variable", some (.string name)), ("operation", some operation.toJson),
        ("value", operand.map Binary64.toJson), ("min", least.map Binary64.toJson),
        ("max", greatest.map Binary64.toJson)] := ⟨rfl, by decide⟩
  refine ⟨Json.isWritable_ofMembers ?_, Json.noConfusion, ?_⟩
  · simp only [List.forall_mem_cons]
    exact ⟨(rereads_text name).isWritable_some, hoperation.isWritable_some,
      Json.isWritable_map hoperand, Json.isWritable_map hleast, Json.isWritable_map hgreatest,
      List.forall_mem_nil _⟩
  · simp only [ofJson?, toJson, hdeclares.fields?,
      hdeclares.required "variable" (by simp) (rereads_text name),
      hdeclares.required "operation" (by simp) hoperation,
      hdeclares.optional "value" (by simp) hoperand, hdeclares.optional "min" (by simp) hleast,
      hdeclares.optional "max" (by simp) hgreatest, Option.bind_eq_bind, Option.bind_some,
      Option.pure_def]

/-- The fields of a target, also where they stand among those of a choice. -/
theorem Target.ofFields?_presentMembers (target : Target) {declared : List Json.Field}
    {members : List (String × Option Json)} (hdeclares : Declares declared members)
    (hmembers : target.toMembers ⊆ members) :
    ofFields? (Json.presentMembers members) = some target := by
  have hscene := hdeclares.optional "nextSceneId" (hmembers List.mem_cons_self)
    fun id _ => rereads_text id
  have hdialogue := hdeclares.optional "nextDialogueId"
    (hmembers (List.mem_cons_of_mem _ List.mem_cons_self)) fun id _ => rereads_text id
  simp only [ofFields?, hscene, hdialogue, Option.bind_eq_bind, Option.bind_some, Option.pure_def]

theorem Target.isWritable_toMembers (target : Target) :
    ∀ member ∈ target.toMembers, ∀ json ∈ member.2, json.IsWritable := by
  simp only [toMembers, List.forall_mem_cons]
  exact ⟨Json.isWritable_map fun id _ => rereads_text id,
    Json.isWritable_map fun id _ => rereads_text id, List.forall_mem_nil _⟩

theorem Target.rereads (target : Target) : Rereads ofJson? toJson target := by
  have hdeclares : Declares [⟨"nextSceneId", true⟩, ⟨"nextDialogueId", true⟩] target.toMembers :=
    ⟨rfl, by decide⟩
  refine ⟨Json.isWritable_ofMembers target.isWritable_toMembers, Json.noConfusion, ?_⟩
  simp only [ofJson?, toJson, hdeclares.fields?,
    target.ofFields?_presentMembers hdeclares (List.Subset.refl _), Option.bind_eq_bind,
    Option.bind_some]

theorem DiceCheck.rereads (check : DiceCheck) : Rereads ofJson? toJson check := by
  obtain ⟨stat, difficulty, sides, success, failure⟩ := check
  have htext : ∀ value ∈ stat, Rereads Json.text? Json.string value := fun value _ =>
    rereads_text value
  have hnatural : ∀ field : Option UInt32, ∀ value ∈ field,
      Rereads Json.natural32? UInt32.toJson value := fun _ value _ => rereads_natural32 value
  have htarget : ∀ branch : Option Target, ∀ value ∈ branch,
      Rereads Target.ofJson? Target.toJson value := fun _ value _ => value.rereads
  have hdeclares : Declares
      [⟨"stat", true⟩, ⟨"difficulty", true⟩, ⟨"sides", true⟩, ⟨"success", true⟩, ⟨"failure", true⟩]
      [("stat", stat.map Json.string), ("difficulty", difficulty.map UInt32.toJson),
        ("sides", sides.map UInt32.toJson), ("success", success.map Target.toJson),
        ("failure", failure.map Target.toJson)] := ⟨rfl, by decide⟩
  refine ⟨Json.isWritable_ofMembers ?_, Json.noConfusion, ?_⟩
  · simp only [List.forall_mem_cons]
    exact ⟨Json.isWritable_map htext, Json.isWritable_map (hnatural difficulty),
      Json.isWritable_map (hnatural sides), Json.isWritable_map (htarget success),
      Json.isWritable_map (htarget failure), List.forall_mem_nil _⟩
  · simp only [ofJson?, toJson, hdeclares.fields?, hdeclares.optional "stat" (by simp) htext,
      hdeclares.optional "difficulty" (by simp) (hnatural difficulty),
      hdeclares.optional "sides" (by simp) (hnatural sides),
      hdeclares.optional "success" (by simp) (htarget success),
      hdeclares.optional "failure" (by simp) (htarget failure), Option.bind_eq_bind,
      Option.bind_some, Option.pure_def]

/-! ## Stories -/

theorem Choice.settles : Settles ofJson? toJson := by
  intro json choice hread
  simp only [ofJson?, Option.bind_eq_bind, Option.pure_def, Option.bind_eq_some_iff,
    Option.some.injEq] at hread
  obtain ⟨fields, -, id, -, text, -, effects, heffects, conditions, hconditions, target, -, check, -,
    rfl⟩ := hread
  replace heffects := Effect.settles.listOrNone heffects
  replace hconditions := Condition.settles.listOrNone hconditions
  have hid : ∀ value ∈ id, Rereads Json.text? Json.string value := fun value _ =>
    rereads_text value
  have hcheck : ∀ value ∈ check, Rereads DiceCheck.ofJson? DiceCheck.toJson value :=
    fun value _ => value.rereads
  have hdeclares : Declares
      [⟨"id", true⟩, ⟨"text", false⟩, ⟨"effects", true⟩, ⟨"conditions", true⟩,
        ⟨"nextSceneId", true⟩, ⟨"nextDialogueId", true⟩, ⟨"diceCheck", true⟩]
      ([("id", id.map Json.string), ("text", some (.string text)),
        ("effects", some (.array (effects.map Effect.toJson))),
        ("conditions", some (.array (conditions.map Condition.toJson)))] ++
      target.toMembers ++ [("diceCheck", check.map DiceCheck.toJson)]) := ⟨rfl, by decide⟩
  refine ⟨Json.isWritable_ofMembers ?_, Json.noConfusion, ?_⟩
  · simp only [List.forall_mem_append, List.forall_mem_cons]
    exact ⟨⟨⟨Json.isWritable_map hid, (rereads_text text).isWritable_some,
      heffects.isWritable_some, hconditions.isWritable_some, List.forall_mem_nil _⟩,
      target.isWritable_toMembers⟩, Json.isWritable_map hcheck, List.forall_mem_nil _⟩
  · have htarget : target.toMembers ⊆ _ := fun member hmem =>
      List.mem_append_left [("diceCheck", check.map DiceCheck.toJson)]
        (List.mem_append_right
          [("id", id.map Json.string), ("text", some (.string text)),
            ("effects", some (.array (effects.map Effect.toJson))),
            ("conditions", some (.array (conditions.map Condition.toJson)))] hmem)
    simp only [ofJson?, toJson, hdeclares.fields?, hdeclares.optional "id" (by simp) hid,
      hdeclares.required "text" (by simp) (rereads_text text),
      hdeclares.withDefault "effects" (by simp) heffects,
      hdeclares.withDefault "conditions" (by simp) hconditions,
      target.ofFields?_presentMembers hdeclares htarget,
      hdeclares.optional "diceCheck" (by simp) hcheck, Option.bind_eq_bind, Option.bind_some,
      Option.pure_def]

theorem Dialogue.settles : Settles ofJson? toJson := by
  intro json dialogue hread
  simp only [ofJson?, Option.bind_eq_bind, Option.pure_def, Option.bind_eq_some_iff,
    Option.some.injEq] at hread
  obtain ⟨fields, -, id, -, speaker, -, text, -, directions, -, conditions, hconditions, choices,
    hchoices, rfl⟩ := hread
  replace hconditions := Condition.settles.listOrNone hconditions
  replace hchoices := Choice.settles.listOrNone hchoices
  have htext : ∀ field : Option String, ∀ value ∈ field, Rereads Json.text? Json.string value :=
    fun _ value _ => rereads_text value
  have hdeclares : Declares
      [⟨"id", true⟩, ⟨"speaker", false⟩, ⟨"text", false⟩, ⟨"stageDirections", true⟩,
        ⟨"conditions", true⟩, ⟨"choices", true⟩]
      [("id", id.map Json.string), ("speaker", some (.string speaker)),
        ("text", some (.string text)), ("stageDirections", directions.map Json.string),
        ("conditions", some (.array (conditions.map Condition.toJson))),
        ("choices", some (.array (choices.map Choice.toJson)))] := ⟨rfl, by decide⟩
  refine ⟨Json.isWritable_ofMembers ?_, Json.noConfusion, ?_⟩
  · simp only [List.forall_mem_cons]
    exact ⟨Json.isWritable_map (htext id), (rereads_text speaker).isWritable_some,
      (rereads_text text).isWritable_some, Json.isWritable_map (htext directions),
      hconditions.isWritable_some, hchoices.isWritable_some, List.forall_mem_nil _⟩
  · simp only [ofJson?, toJson, hdeclares.fields?, hdeclares.optional "id" (by simp) (htext id),
      hdeclares.required "speaker" (by simp) (rereads_text speaker),
      hdeclares.required "text" (by simp) (rereads_text text),
      hdeclares.optional "stageDirections" (by simp) (htext directions),
      hdeclares.withDefault "conditions" (by simp) hconditions,
      hdeclares.withDefault "choices" (by simp) hchoices, Option.bind_eq_bind, Option.bind_some,
      Option.pure_def]

theorem Scene.settles : Settles ofJson? toJson := by
  intro json scene hread
  simp only [ofJson?, Option.bind_eq_bind, Option.pure_def, Option.bind_eq_some_iff,
    Option.some.injEq] at hread
  obtain ⟨fields, -, id, -, title, -, description, -, dialogues, hdialogues, rfl⟩ := hread
  replace hdialogues := Dialogue.settles.listOrNone hdialogues
  have hdescription : ∀ value ∈ description, Rereads Json.text? Json.string value :=
    fun value _ => rereads_text value
  have hdeclares : Declares
      [⟨"id", false⟩, ⟨"title", true⟩, ⟨"description", true⟩, ⟨"dialogues", true⟩]
      [("id", some (.string id)), ("title", some (.string title)),
        ("description", description.map Json.string),
        ("dialogues", some (.array (dialogues.map Dialogue.toJson)))] := ⟨rfl, by decide⟩
  refine ⟨Json.isWritable_ofMembers ?_, Json.noConfusion, ?_⟩
  · simp only [List.forall_mem_cons]
    exact ⟨(rereads_text id).isWritable_some, (rereads_text title).isWritable_some,
      Json.isWritable_map hdescription, hdialogues.isWritable_some, List.forall_mem_nil _⟩
  · simp only [ofJson?, toJson, hdeclares.fields?,
      hdeclares.required "id" (by simp) (rereads_text id),
      hdeclares.withDefault "title" (by simp) (rereads_text title),
      hdeclares.optional "description" (by simp) hdescription,
      hdeclares.withDefault "dialogues" (by simp) hdialogues, Option.bind_eq_bind,
      Option.bind_some, Option.pure_def]

/-- The scenes of a document are those of the document that is written of them. -/
theorem Scene.settles_document : Settles listOfDocument? Story.toDocument := by
  intro json scenes hread
  simp only [listOfDocument?, Option.bind_eq_bind, Option.bind_eq_some_iff] at hread
  obtain ⟨fields, -, hscenes⟩ := hread
  replace hscenes := Scene.settles.list.required hscenes
  have hdeclares : Declares [⟨"scenes", false⟩]
      [("scenes", some (.array (scenes.map Scene.toJson)))] := ⟨rfl, by decide⟩
  have hwritten : Story.toDocument scenes = .ofMembers
      [("scenes", some (.array (scenes.map Scene.toJson)))] := rfl
  refine ⟨?_, Json.noConfusion, ?_⟩
  · rw [hwritten]
    apply Json.isWritable_ofMembers
    simp only [List.forall_mem_cons]
    exact ⟨hscenes.isWritable_some, List.forall_mem_nil _⟩
  · simp only [listOfDocument?, hwritten, hdeclares.fields?,
      hdeclares.required "scenes" (by simp) hscenes, Option.bind_eq_bind, Option.bind_some]

namespace Story

/-- A story that was read from a text can be written, and the text that is written of it is read as
the same story. -/
theorem ofText_render {text : String} {story : Story} (hread : ofText text = .ok story) :
    ofText (toDocument story.scenes).render = .ok story := by
  rw [ofText] at hread
  split at hread
  · cases hread
  · next scenes hscenes =>
      split at hread
      · next accepted haccepted =>
          obtain rfl : accepted = story := Except.ok.inj hread
          obtain ⟨json, -, hdocument⟩ := Option.bind_eq_some_iff.mp hscenes
          have hsettled := Scene.settles_document json scenes hdocument
          rw [scenes_of_ofScenes haccepted, ofText, hsettled.writable.parse?_render,
            Option.bind_some, hsettled.again]
          simp only [haccepted]
      · cases hread

end Story

/-- A guard who lets people jump, with a condition that no one can judge and a branch that leads
nowhere. -/
def moatScene : Scene where
  id := "moat"
  dialogues :=
    [{ speaker := "Guard", text := "Jump!",
       conditions := [{ name := "Courage", comparison := .unrecognized " =~ ", threshold := -0 }],
       choices := [{ text := "Over it", check := some { success := some {} } }] }]

/-- A document of this scene that leaves out lists and titles, and gives the condition as a row. -/
def moatText : String :=
  "\x7b\"scenes\": [\x7b\"id\": \"moat\", \"dialogues\": [\x7b" ++
  "\"speaker\": \"Guard\", \"text\": \"Jump!\", \"conditions\": [[\"Courage\", \" =~ \", -0.0]], " ++
  "\"choices\": [\x7b\"text\": \"Over it\", \"diceCheck\": \x7b\"success\": \x7b\x7d\x7d\x7d]" ++
  "\x7d]\x7d]\x7d"

namespace Story

/-- The scene is read from its document, and from what is written of it. -/
theorem moatText_rereads :
    ∃ story, ofText moatText = .ok story ∧ story.scenes = [moatScene] ∧
      ofText (toDocument [moatScene]).render = .ok story := by
  have hscenes : (ofText moatText).toOption.map Story.scenes = some [moatScene] := by
    decide +kernel
  cases hread : ofText moatText with
  | error error => simp [hread, Except.toOption] at hscenes
  | ok story =>
      have hsame : story.scenes = [moatScene] := by simpa [hread, Except.toOption] using hscenes
      exact ⟨story, rfl, hsame, hsame ▸ ofText_render hread⟩

end Story

end BranchingStory
