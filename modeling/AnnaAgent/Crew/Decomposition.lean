/-
Plans that a model emits and the projects they become
(`crew/app/decomposition.py`).

A plan is decoded JSON of any shape.  What raises on the way (a value without
fields, one that cannot be iterated or hashed, a field that the task's schema
refuses) makes the service fall back to the template.
-/

import AnnaAgent.Crew.SopTemplates
import AnnaAgent.Foundation.Json

namespace AnnaAgent.Crew

open Foundation

/-- The exceptions of the conversion; `invalid` is the schema's refusal of a
field. -/
inductive PlanError where
  | noAttribute
  | notIterable
  | unhashable
  | noSpec
  | invalid (field : String)

def truth (isZero : JsonNumber → Bool) : Json → Bool
  | .null => false
  | .bool value => value
  | .num value => !isZero value
  | .str value => decide (value ≠ "")
  | .arr items => !items.isEmpty
  | .obj fields => !fields.isEmpty

/-- What `for item in value` goes through. -/
def iterate : Json → Except PlanError (List Json)
  | .arr items => .ok items
  | .obj fields => .ok (fields.map (fun field => .str field.1))
  | .str text => .ok (text.toList.map (fun c => .str (String.singleton c)))
  | .null | .bool _ | .num _ => .error .notIterable

def hashable : Json → Bool
  | .arr _ | .obj _ => false
  | .null | .bool _ | .num _ | .str _ => true

/-- `spec.get(name, default)` of a value that has fields. -/
def fieldOr (spec : Json) (name : String) (default : Json) : Json :=
  (spec.get? name).getD default

def field (spec : Json) (name : String) : Json :=
  fieldOr spec name .null

def keyText (spec : Json) : Option String :=
  match field spec "key" with
  | .str key => some key
  | _ => none

section Conversion

variable (isZero : JsonNumber → Bool)

/-- The keys of `key_to_id` in their order.  A key that is neither false nor a
text is refused here, as the schema of its task refuses it later. -/
def keysFrom (keys : List String) : List Json → Except PlanError (List String)
  | [] => .ok keys
  | spec :: rest =>
    if spec.isRecord then
      if truth isZero (field spec "key") then
        match field spec "key" with
        | .str key => keysFrom (if key ∈ keys then keys else keys ++ [key]) rest
        | _ => if hashable (field spec "key") then .error (.invalid "key") else .error .unhashable
      else keysFrom keys rest
    else .error .noAttribute

/-- `next(s for s in task_specs if s.get("key") == key)`. -/
def specOf (specs : List Json) (key : String) : Except PlanError Json :=
  match specs.find? (fun spec => keyText spec = some key) with
  | some spec => .ok spec
  | none => .error .noSpec

/-- `spec.get("depends_on") or []`, gone through. -/
def rawDependencies (spec : Json) : Except PlanError (List Json) :=
  if truth isZero (field spec "depends_on") then iterate (field spec "depends_on") else .ok []

/-- `[key_to_id[dep] for dep in raw_deps if dep in key_to_id]`. -/
def dependencyIds (keyToId : String → Option TaskId) : List Json → Except PlanError (List TaskId)
  | [] => .ok []
  | dependency :: rest =>
    if hashable dependency then do
      let ids ← dependencyIds keyToId rest
      match dependency with
      | .str key => return (keyToId key).toList ++ ids
      | _ => return ids
    else .error .unhashable

/-- `spec.get("reviews") or None`. -/
def reviewsKey (spec : Json) : Option Json :=
  if truth isZero (field spec "reviews") then some (field spec "reviews") else none

def reviewsTaskId (keyToId : String → Option TaskId) :
    Option Json → Except PlanError (Option TaskId)
  | none => .ok none
  | some key =>
    if hashable key then
      match key with
      | .str text => .ok (keyToId text)
      | _ => .ok none
    else .error .unhashable

def textField (name : String) : Json → Except PlanError String
  | .str text => .ok text
  | _ => .error (.invalid name)

/-- `spec.get(name) or default`, as an optional text. -/
def orText (name : String) (value : Json) : Except PlanError (Option String) :=
  if truth isZero value then (textField name value).map some else .ok none

def planTask (projectId : ProjectId) (keyToId : String → Option TaskId) (taskId : TaskId)
    (key : String) (spec : Json) : Except PlanError CrewTask := do
  let rawDeps ← rawDependencies isZero spec
  let depIds ← dependencyIds keyToId rawDeps
  let reviewed ← reviewsTaskId keyToId (reviewsKey isZero spec)
  let title ← textField "title" (fieldOr spec "title" (.str ""))
  let description ← orText isZero "description" (field spec "description")
  let roleRequired ← textField "role_required" (fieldOr spec "role_required" (.str ""))
  let acceptanceCriteria ← orText isZero "acceptance_criteria" (field spec "acceptance_criteria")
  return { id := taskId
           projectId, key, title
           description := description.getD ""
           status := if depIds = [] then .todo else .blocked
           roleRequired
           assigneeMemberId := none
           dependsOn := depIds
           isGate := truth isZero (field spec "is_gate") &&
             !((reviewsKey isZero spec).isSome && reviewed.isNone)
           reviewsTaskId := reviewed
           acceptanceCriteria
           artifact := none
           artifactVersions := []
           reviewComment := none
           blocker := none
           runRef := none
           runStartedAt := none
           createdFromMessageId := none }

/-- `plan.get("tasks", [])`, gone through. -/
def planSpecs (plan : List (String × Json)) : Except PlanError (List Json) :=
  iterate ((plan.lookup "tasks").getD (.arr []))

def planToProject (plan : List (String × Json)) (projectId : ProjectId) (workspaceId : String)
    (ownerUserId : MemberId) (goalText templateId : String) (taskId : String → TaskId) :
    Except PlanError CrewProject := do
  let specs ← planSpecs plan
  let keys ← keysFrom isZero [] specs
  let keyToId := fun key => if key ∈ keys then some (taskId key) else none
  let tasks ← keys.mapM (fun key => do
    let spec ← specOf specs key
    planTask isZero projectId keyToId (taskId key) key spec)
  return { id := projectId, workspaceId, ownerUserId, goalText
           sopTemplateId := templateId
           tasks }

end Conversion

/-- The tool calls of the model's response by name and arguments; there is no
response when the model is not configured or fails. -/
abbrev ModelResponse := Option (List (String × List (String × Json)))

def emittedPlan (response : ModelResponse) : Option (List (String × Json)) := do
  let calls ← response
  let call ← calls.find? (fun call => call.1 = "crew.emit_project_plan")
  return call.2

/-- `templateIds` answer the calls of `task_id` that the fallback makes. -/
def decompose (isZero : JsonNumber → Bool) (response : ModelResponse) (projectId : ProjectId)
    (workspaceId : String) (ownerUserId : MemberId) (goalText : String) (template : SopTemplate)
    (taskId : String → TaskId) (templateIds : List TaskId) : Except LifecycleError CrewProject :=
  match emittedPlan response with
  | none => instantiateProject projectId workspaceId ownerUserId goalText template templateIds
  | some plan =>
    match planToProject isZero plan projectId workspaceId ownerUserId goalText template.id
        taskId with
    | .ok project => .ok project
    | .error _ => instantiateProject projectId workspaceId ownerUserId goalText template
        templateIds

namespace CrewProject

def DependsOn (project : CrewProject) (taskId dependency : TaskId) : Prop :=
  ∃ task ∈ project.tasks, task.id = taskId ∧ dependency ∈ task.dependsOn

structure Workable (project : CrewProject) : Prop where
  nonempty : project.tasks ≠ []
  known : ∀ task ∈ project.tasks, ∀ taskId ∈ task.dependsOn,
    ∃ upstream ∈ project.tasks, upstream.id = taskId
  acyclic : Acyclic project.DependsOn
  gates : ∀ gate ∈ project.tasks, gate.isGate = true → ∃ reviewed ∈ project.tasks,
    gate.reviewsTaskId = some reviewed.id ∧ reviewed.id ≠ gate.id ∧
      Relation.TransGen project.DependsOn gate.id reviewed.id
  ready : ∀ task ∈ project.tasks, task.status = .todo ↔ task.dependsOn = []

end CrewProject

def Kept (specs : List Json) (key : String) (spec : Json) : Prop :=
  key ≠ "" ∧ specs.find? (fun spec => keyText spec = some key) = some spec

def Lists (isZero : JsonNumber → Bool) (specs : List Json) (key dependency : String) : Prop :=
  ∃ spec listed upstream, Kept specs key spec ∧ rawDependencies isZero spec = .ok listed ∧
    Json.str dependency ∈ listed ∧ Kept specs dependency upstream

/-- What the schema of a task and the lookups of its keys demand of a spec. -/
structure ConvertibleSpec (isZero : JsonNumber → Bool) (spec : Json) : Prop where
  dependencies : ∃ listed, rawDependencies isZero spec = .ok listed ∧
    ∀ dependency ∈ listed, hashable dependency = true
  reviews : truth isZero (field spec "reviews") = true → hashable (field spec "reviews") = true
  title : ∃ text, fieldOr spec "title" (.str "") = .str text
  description : truth isZero (field spec "description") = true →
    ∃ text, field spec "description" = .str text
  roleRequired : ∃ text, fieldOr spec "role_required" (.str "") = .str text
  acceptanceCriteria : truth isZero (field spec "acceptance_criteria") = true →
    ∃ text, field spec "acceptance_criteria" = .str text

structure Convertible (isZero : JsonNumber → Bool) (specs : List Json) : Prop where
  records : ∀ spec ∈ specs, spec.isRecord = true
  keys : ∀ spec ∈ specs, truth isZero (field spec "key") = true →
    ∃ key, field spec "key" = .str key
  kept : ∀ key spec, Kept specs key spec → ConvertibleSpec isZero spec

/-- The plan has a task, its dependencies have no cycle, and a spec that asks for
a gate over no task or over a task of the plan reviews one it depends on. -/
structure Sound (isZero : JsonNumber → Bool) (specs : List Json) : Prop where
  nonempty : ∃ key spec, Kept specs key spec
  acyclic : Acyclic (Lists isZero specs)
  gates : ∀ key spec, Kept specs key spec → truth isZero (field spec "is_gate") = true →
    (truth isZero (field spec "reviews") = true →
      ∃ reviewed reviewedSpec, field spec "reviews" = .str reviewed ∧
        Kept specs reviewed reviewedSpec) →
    ∃ reviewed, field spec "reviews" = .str reviewed ∧
      Relation.TransGen (Lists isZero specs) key reviewed

variable {spec : Json} {key : String}

section Keys

variable {isZero : JsonNumber → Bool} {specs : List Json} {keys keys' : List String}

theorem keyText_eq : keyText spec = some key ↔ field spec "key" = .str key := by
  unfold keyText
  cases isKey : field spec "key" with
  | str text =>
    exact ⟨fun same => congrArg Json.str (Option.some.inj same), fun same => by cases same; rfl⟩
  | null | bool _ | num _ | arr _ | obj _ => exact ⟨nofun, nofun⟩

theorem keysFrom_ok (succeeded : keysFrom isZero keys specs = .ok keys') :
    (∀ spec ∈ specs, spec.isRecord = true ∧ (truth isZero (field spec "key") = true →
      ∃ key, field spec "key" = .str key)) ∧
    (keys.Nodup → keys'.Nodup) ∧
    ∀ key, key ∈ keys' ↔ key ∈ keys ∨ key ≠ "" ∧ ∃ spec ∈ specs, keyText spec = some key := by
  induction specs generalizing keys with
  | nil =>
    cases succeeded
    refine ⟨nofun, fun distinct => distinct, ?_⟩
    intro key
    refine ⟨Or.inl, ?_⟩
    intro listed
    rcases listed with member | ⟨_, _, impossible, _⟩
    · exact member
    · cases impossible
  | cons spec rest ih =>
    rw [keysFrom] at succeeded
    cases isRecord : spec.isRecord with
    | false =>
      rw [isRecord, if_neg Bool.false_ne_true] at succeeded
      cases succeeded
    | true =>
      rw [isRecord, if_pos rfl] at succeeded
      cases isTrue : truth isZero (field spec "key") with
      | false =>
        rw [isTrue, if_neg Bool.false_ne_true] at succeeded
        obtain ⟨shaped, distinct, members⟩ := ih succeeded
        refine ⟨?_, distinct, ?_⟩
        · intro other member
          rcases List.mem_cons.1 member with rfl | later
          · exact ⟨isRecord, fun holds => absurd (isTrue.symm.trans holds) Bool.noConfusion⟩
          · exact shaped other later
        · intro key
          rw [members key]
          refine or_congr_right (and_congr_right ?_)
          intro notEmpty
          constructor
          · intro listed
            obtain ⟨other, member, isKey⟩ := listed
            exact ⟨other, List.mem_cons_of_mem _ member, isKey⟩
          · intro listed
            obtain ⟨other, member, isKey⟩ := listed
            rcases List.mem_cons.1 member with rfl | later
            · rw [keyText_eq.1 isKey] at isTrue
              exact absurd (isTrue.symm.trans (decide_eq_true notEmpty)) Bool.noConfusion
            · exact ⟨other, later, isKey⟩
      | true =>
        rw [isTrue, if_pos rfl] at succeeded
        cases isKey : field spec "key" with
        | str text =>
          rw [isKey] at succeeded isTrue
          have notEmpty : text ≠ "" := of_decide_eq_true isTrue
          obtain ⟨shaped, distinct, members⟩ := ih succeeded
          refine ⟨?_, ?_, ?_⟩
          · intro other member
            rcases List.mem_cons.1 member with rfl | later
            · exact ⟨isRecord, fun _ => ⟨text, isKey⟩⟩
            · exact shaped other later
          · intro distinctKeys
            apply distinct
            split
            · exact distinctKeys
            · rename_i isNew
              rw [List.nodup_append]
              refine ⟨distinctKeys, List.nodup_singleton text, ?_⟩
              intro key member other isOther same
              rw [List.mem_singleton.1 isOther] at same
              exact isNew (same ▸ member)
          · intro key
            have added : key ∈ (if text ∈ keys then keys else keys ++ [text]) ↔
                key ∈ keys ∨ key = text := by
              split
              · rename_i isOld
                refine ⟨Or.inl, fun holds => holds.elim id ?_⟩
                intro same
                rw [same]
                exact isOld
              · rw [List.mem_append, List.mem_singleton]
            rw [members key, added, or_assoc]
            refine or_congr_right ?_
            constructor
            · intro listed
              rcases listed with rfl | ⟨isText, other, member, isOther⟩
              · exact ⟨notEmpty, spec, List.mem_cons_self, keyText_eq.2 isKey⟩
              · exact ⟨isText, other, List.mem_cons_of_mem _ member, isOther⟩
            · intro listed
              obtain ⟨isText, other, member, isOther⟩ := listed
              rcases List.mem_cons.1 member with rfl | later
              · left
                rw [keyText_eq.2 isKey] at isOther
                exact (Option.some.inj isOther).symm
              · exact Or.inr ⟨isText, other, later, isOther⟩
        | null | bool _ | num _ | arr _ | obj _ =>
          rw [isKey] at succeeded
          cases succeeded

theorem keysFrom_of (keys : List String) (records : ∀ spec ∈ specs, spec.isRecord = true)
    (texts : ∀ spec ∈ specs, truth isZero (field spec "key") = true →
      ∃ key, field spec "key" = .str key) : ∃ keys', keysFrom isZero keys specs = .ok keys' := by
  induction specs generalizing keys with
  | nil => exact ⟨keys, rfl⟩
  | cons spec rest ih =>
    have later : ∀ keys, ∃ keys', keysFrom isZero keys rest = .ok keys' :=
      fun keys => ih keys (fun other member => records other (List.mem_cons_of_mem _ member))
        (fun other member => texts other (List.mem_cons_of_mem _ member))
    rw [keysFrom, if_pos (records spec List.mem_cons_self)]
    cases isTrue : truth isZero (field spec "key") with
    | false => exact later keys
    | true =>
      obtain ⟨key, isKey⟩ := texts spec List.mem_cons_self isTrue
      rw [if_pos rfl, isKey]
      exact later _

theorem specOf_ok (notEmpty : key ≠ "") :
    specOf specs key = .ok spec ↔ Kept specs key spec := by
  unfold specOf Kept
  cases isSpec : specs.find? (fun spec => keyText spec = some key) with
  | none => exact ⟨nofun, fun kept => nomatch kept.2⟩
  | some other =>
    constructor
    · intro same
      cases same
      exact ⟨notEmpty, rfl⟩
    · intro kept
      cases kept.2
      rfl

theorem kept_iff : (∃ spec, Kept specs key spec) ↔
    key ≠ "" ∧ ∃ spec ∈ specs, keyText spec = some key := by
  constructor
  · intro kept
    obtain ⟨spec, notEmpty, isSpec⟩ := kept
    have matched := List.find?_some isSpec
    exact ⟨notEmpty, spec, List.mem_of_find?_eq_some isSpec, of_decide_eq_true matched⟩
  · intro listed
    obtain ⟨notEmpty, spec, member, isKey⟩ := listed
    have isFound : (specs.find? (fun spec => keyText spec = some key)).isSome = true :=
      List.find?_isSome.2 ⟨spec, member, decide_eq_true isKey⟩
    obtain ⟨first, isFirst⟩ := Option.isSome_iff_exists.1 isFound
    exact ⟨first, notEmpty, isFirst⟩

theorem Kept.unique {spec' : Json} (kept : Kept specs key spec) (kept' : Kept specs key spec') :
    spec = spec' :=
  Option.some.inj (kept.2.symm.trans kept'.2)

theorem mem_keys_iff (succeeded : keysFrom isZero [] specs = .ok keys) :
    key ∈ keys ↔ ∃ spec, Kept specs key spec := by
  rw [(keysFrom_ok succeeded).2.2 key, kept_iff]
  exact or_iff_right List.not_mem_nil

end Keys

/-! ### Tasks -/

section Tasks

variable {isZero : JsonNumber → Bool} {keyToId : String → Option TaskId}

theorem dependencyIds_ok {listed : List Json} {ids : List TaskId}
    (succeeded : dependencyIds keyToId listed = .ok ids) :
    (∀ dependency ∈ listed, hashable dependency = true) ∧
      ∀ taskId, taskId ∈ ids ↔ ∃ key, Json.str key ∈ listed ∧ keyToId key = some taskId := by
  induction listed generalizing ids with
  | nil =>
    cases succeeded
    refine ⟨nofun, ?_⟩
    intro taskId
    exact ⟨fun member => absurd member List.not_mem_nil,
      fun named => absurd named.choose_spec.1 List.not_mem_nil⟩
  | cons dependency rest ih =>
    rw [dependencyIds] at succeeded
    cases isHashable : hashable dependency with
    | false =>
      rw [isHashable, if_neg Bool.false_ne_true] at succeeded
      cases succeeded
    | true =>
      rw [isHashable, if_pos rfl] at succeeded
      obtain ⟨later, isLater, succeeded⟩ := bind_ok succeeded
      obtain ⟨hashables, members⟩ := ih isLater
      refine ⟨?_, ?_⟩
      · intro other member
        rcases List.mem_cons.1 member with rfl | further
        · exact isHashable
        · exact hashables other further
      · intro taskId
        cases dependency with
        | str key =>
          cases succeeded
          rw [List.mem_append, Option.mem_toList, members]
          constructor
          · intro named
            rcases named with isId | ⟨other, member, isId⟩
            · exact ⟨key, List.mem_cons_self, isId⟩
            · exact ⟨other, List.mem_cons_of_mem _ member, isId⟩
          · intro named
            obtain ⟨other, member, isId⟩ := named
            rcases List.mem_cons.1 member with same | further
            · cases same
              exact Or.inl isId
            · exact Or.inr ⟨other, further, isId⟩
        | null | bool _ | num _ | arr _ | obj _ =>
          cases succeeded
          rw [members]
          constructor
          · intro named
            obtain ⟨other, member, isId⟩ := named
            exact ⟨other, List.mem_cons_of_mem _ member, isId⟩
          · intro named
            obtain ⟨other, member, isId⟩ := named
            rcases List.mem_cons.1 member with same | further
            · cases same
            · exact ⟨other, further, isId⟩

theorem dependencyIds_of (keyToId : String → Option TaskId) {listed : List Json}
    (hashables : ∀ dependency ∈ listed, hashable dependency = true) :
    ∃ ids, dependencyIds keyToId listed = .ok ids := by
  induction listed with
  | nil => exact ⟨[], rfl⟩
  | cons dependency rest ih =>
    obtain ⟨ids, isRest⟩ := ih (fun other member => hashables other (List.mem_cons_of_mem _ member))
    rw [dependencyIds, if_pos (hashables dependency List.mem_cons_self), isRest]
    cases dependency with
    | str key | null | bool _ | num _ | arr _ | obj _ => exact ⟨_, rfl⟩

variable {value : Json}

theorem textField_ok {name text : String} (succeeded : textField name value = .ok text) :
    value = .str text := by
  cases value with
  | str other =>
    cases succeeded
    rfl
  | null | bool _ | num _ | arr _ | obj _ => cases succeeded

theorem orText_ok {name : String} {text : Option String}
    (succeeded : orText isZero name value = .ok text) :
    truth isZero value = true → ∃ text, value = .str text := by
  intro isTrue
  unfold orText at succeeded
  rw [isTrue, if_pos rfl] at succeeded
  cases isText : textField name value with
  | error error =>
    rw [isText] at succeeded
    cases succeeded
  | ok text => exact ⟨text, textField_ok isText⟩

theorem orText_of (name : String) (isText : truth isZero value = true → ∃ text, value = .str text) :
    ∃ text, orText isZero name value = .ok text := by
  unfold orText
  cases isTrue : truth isZero value with
  | false => exact ⟨none, rfl⟩
  | true =>
    obtain ⟨text, rfl⟩ := isText isTrue
    exact ⟨some text, rfl⟩

variable {taskId : TaskId}

theorem reviewsTaskId_iff {reviewed : Option TaskId}
    (succeeded : reviewsTaskId keyToId (reviewsKey isZero spec) = .ok reviewed)
    (emptyKey : keyToId "" = none) :
    reviewed = some taskId ↔ ∃ key, field spec "reviews" = .str key ∧ keyToId key = some taskId := by
  unfold reviewsKey at succeeded
  cases isTrue : truth isZero (field spec "reviews") with
  | false =>
    rw [isTrue, if_neg Bool.false_ne_true] at succeeded
    cases succeeded
    refine ⟨nofun, ?_⟩
    intro named
    obtain ⟨key, isKey, isId⟩ := named
    rw [isKey] at isTrue
    have isEmpty : key = "" := by
      by_contra notEmpty
      exact absurd (isTrue.symm.trans (decide_eq_true notEmpty)) Bool.noConfusion
    rw [isEmpty, emptyKey] at isId
    cases isId
  | true =>
    rw [isTrue, if_pos rfl] at succeeded
    cases isValue : field spec "reviews" with
    | str text =>
      rw [isValue] at succeeded
      cases succeeded
      constructor
      · intro isId
        exact ⟨text, rfl, isId⟩
      · intro named
        obtain ⟨key, isKey, isId⟩ := named
        cases isKey
        exact isId
    | null | bool _ | num _ =>
      rw [isValue] at succeeded
      cases succeeded
      exact ⟨nofun, fun named => nomatch named.choose_spec.1⟩
    | arr _ | obj _ =>
      rw [isValue] at succeeded
      cases succeeded

theorem reviewsTaskId_of (keyToId : String → Option TaskId)
    (isHashable : truth isZero (field spec "reviews") = true → hashable (field spec "reviews") =
      true) : ∃ reviewed, reviewsTaskId keyToId (reviewsKey isZero spec) = .ok reviewed := by
  unfold reviewsKey
  cases isTrue : truth isZero (field spec "reviews") with
  | false => exact ⟨none, rfl⟩
  | true =>
    rw [if_pos rfl]
    have hashes := isHashable isTrue
    cases isValue : field spec "reviews" with
    | str text => exact ⟨keyToId text, rfl⟩
    | null | bool _ | num _ => exact ⟨none, rfl⟩
    | arr _ | obj _ =>
      rw [isValue] at hashes
      cases hashes

/-- What a spec becomes. -/
structure Planned (isZero : JsonNumber → Bool) (keyToId : String → Option TaskId)
    (taskId : TaskId) (spec : Json) (task : CrewTask) : Prop where
  convertible : ConvertibleSpec isZero spec
  sameId : task.id = taskId
  dependencies : ∃ listed, rawDependencies isZero spec = .ok listed ∧
    ∀ id, id ∈ task.dependsOn ↔ ∃ key, Json.str key ∈ listed ∧ keyToId key = some id
  reviews : reviewsTaskId keyToId (reviewsKey isZero spec) = .ok task.reviewsTaskId
  gate : task.isGate = (truth isZero (field spec "is_gate") &&
    !((reviewsKey isZero spec).isSome && task.reviewsTaskId.isNone))
  status : task.status = if task.dependsOn = [] then .todo else .blocked

theorem planTask_ok {projectId : ProjectId} {task : CrewTask}
    (succeeded : planTask isZero projectId keyToId taskId key spec = .ok task) :
    Planned isZero keyToId taskId spec task := by
  unfold planTask at succeeded
  obtain ⟨listed, isListed, succeeded⟩ := bind_ok succeeded
  obtain ⟨ids, areIds, succeeded⟩ := bind_ok succeeded
  obtain ⟨reviewed, isReviewed, succeeded⟩ := bind_ok succeeded
  obtain ⟨title, isTitle, succeeded⟩ := bind_ok succeeded
  obtain ⟨description, isDescription, succeeded⟩ := bind_ok succeeded
  obtain ⟨roleRequired, isRole, succeeded⟩ := bind_ok succeeded
  obtain ⟨acceptanceCriteria, isAcceptance, succeeded⟩ := bind_ok succeeded
  cases succeeded
  obtain ⟨hashables, members⟩ := dependencyIds_ok areIds
  refine ⟨⟨⟨listed, isListed, hashables⟩, ?_, ⟨title, textField_ok isTitle⟩,
    orText_ok isDescription, ⟨roleRequired, textField_ok isRole⟩, orText_ok isAcceptance⟩, rfl,
    ⟨listed, isListed, members⟩, isReviewed, rfl, rfl⟩
  intro isTrue
  unfold reviewsKey at isReviewed
  rw [isTrue, if_pos rfl] at isReviewed
  cases isHashable : hashable (field spec "reviews") with
  | true => rfl
  | false =>
    dsimp only [reviewsTaskId] at isReviewed
    rw [isHashable, if_neg Bool.false_ne_true] at isReviewed
    cases isReviewed

theorem planTask_of {projectId : ProjectId} (convertible : ConvertibleSpec isZero spec) :
    ∃ task, planTask isZero projectId keyToId taskId key spec = .ok task := by
  obtain ⟨listed, isListed, hashables⟩ := convertible.dependencies
  obtain ⟨ids, areIds⟩ := dependencyIds_of keyToId hashables
  obtain ⟨reviewed, isReviewed⟩ := reviewsTaskId_of keyToId convertible.reviews
  obtain ⟨title, isTitle⟩ := convertible.title
  obtain ⟨description, isDescription⟩ := orText_of "description" convertible.description
  obtain ⟨roleRequired, isRole⟩ := convertible.roleRequired
  obtain ⟨acceptanceCriteria, isAcceptance⟩ :=
    orText_of "acceptance_criteria" convertible.acceptanceCriteria
  refine exists_bind_ok isListed (exists_bind_ok areIds (exists_bind_ok isReviewed ?_))
  refine exists_bind_ok (congrArg (textField "title") isTitle) (exists_bind_ok isDescription ?_)
  refine exists_bind_ok (congrArg (textField "role_required") isRole) ?_
  exact exists_bind_ok isAcceptance ⟨_, rfl⟩

end Tasks

/-! ### Projects of a plan -/

section Plans

variable {isZero : JsonNumber → Bool} {plan : List (String × Json)} {projectId : ProjectId}
  {workspaceId : String} {ownerUserId : MemberId} {goalText templateId : String}
  {taskId : String → TaskId} {specs : List Json} {project : CrewProject}

structure PlannedProject (isZero : JsonNumber → Bool) (specs : List Json)
    (taskId : String → TaskId) (project : CrewProject) : Prop where
  records : ∀ spec ∈ specs, spec.isRecord = true
  texts : ∀ spec ∈ specs, truth isZero (field spec "key") = true →
    ∃ key, field spec "key" = .str key
  planned : ∃ keyToId : String → Option TaskId,
    (∀ key id, keyToId key = some id ↔ (∃ spec, Kept specs key spec) ∧ id = taskId key) ∧
    (∀ task ∈ project.tasks, ∃ key spec, Kept specs key spec ∧
      Planned isZero keyToId (taskId key) spec task) ∧
    ∀ key spec, Kept specs key spec → ∃ task ∈ project.tasks,
      Planned isZero keyToId (taskId key) spec task

theorem planToProject_ok (succeeded : planToProject isZero plan projectId workspaceId ownerUserId
      goalText templateId taskId = .ok project) :
    ∃ specs, planSpecs plan = .ok specs ∧ PlannedProject isZero specs taskId project := by
  unfold planToProject at succeeded
  obtain ⟨specs, areSpecs, succeeded⟩ := bind_ok succeeded
  obtain ⟨keys, areKeys, succeeded⟩ := bind_ok succeeded
  obtain ⟨tasks, areTasks, succeeded⟩ := bind_ok succeeded
  cases succeeded
  have shaped := (keysFrom_ok areKeys).1
  have related := mapM_ok areTasks
  have notEmpty : ∀ {key}, key ∈ keys → key ≠ "" := by
    intro key member
    obtain ⟨_, isText, _⟩ := (mem_keys_iff areKeys).1 member
    exact isText
  refine ⟨specs, areSpecs, fun spec member => (shaped spec member).1,
    fun spec member => (shaped spec member).2,
    fun key => if key ∈ keys then some (taskId key) else none, ?_, ?_, ?_⟩
  · intro key id
    rw [← mem_keys_iff areKeys]
    constructor
    · intro isId
      dsimp only at isId
      split at isId
      · rename_i member
        exact ⟨member, (Option.some.inj isId).symm⟩
      · cases isId
    · intro named
      dsimp only
      rw [if_pos named.1, named.2]
  · intro task member
    obtain ⟨key, isKey, isTask⟩ := forall₂_mem_right related member
    obtain ⟨spec, isSpec, isTask⟩ := bind_ok isTask
    exact ⟨key, spec, (specOf_ok (notEmpty isKey)).1 isSpec, planTask_ok isTask⟩
  · intro key spec kept
    have isKey := (mem_keys_iff areKeys).2 ⟨spec, kept⟩
    obtain ⟨task, member, isTask⟩ := forall₂_mem_left related isKey
    obtain ⟨spec', isSpec, isTask⟩ := bind_ok isTask
    have same := kept.unique ((specOf_ok (notEmpty isKey)).1 isSpec)
    rw [← same] at isTask
    exact ⟨task, member, planTask_ok isTask⟩

theorem planToProject_of (areSpecs : planSpecs plan = .ok specs)
    (convertible : Convertible isZero specs) :
    ∃ project, planToProject isZero plan projectId workspaceId ownerUserId goalText templateId
      taskId = .ok project := by
  obtain ⟨keys, areKeys⟩ := keysFrom_of [] convertible.records convertible.keys
  refine exists_bind_ok areSpecs (exists_bind_ok areKeys ?_)
  have converts : ∀ key ∈ keys, ∃ task, (do
      let spec ← specOf specs key
      planTask isZero projectId (fun key => if key ∈ keys then some (taskId key) else none)
        (taskId key) key spec) = .ok task := by
    intro key member
    obtain ⟨spec, kept⟩ := (mem_keys_iff areKeys).1 member
    exact exists_bind_ok ((specOf_ok kept.1).2 kept) (planTask_of (convertible.kept key spec kept))
  obtain ⟨tasks, areTasks⟩ := exists_mapM_ok converts
  exact exists_bind_ok areTasks ⟨_, rfl⟩

theorem PlannedProject.convertible (planned : PlannedProject isZero specs taskId project) :
    Convertible isZero specs := by
  obtain ⟨_, _, _, ofKept⟩ := planned.planned
  refine ⟨planned.records, planned.texts, ?_⟩
  intro key spec kept
  obtain ⟨_, _, isPlanned⟩ := ofKept key spec kept
  exact isPlanned.convertible

variable {keyToId : String → Option TaskId}

theorem keyToId_empty
    (named : ∀ key id, keyToId key = some id ↔ (∃ spec, Kept specs key spec) ∧ id = taskId key) :
    keyToId "" = none := by
  cases isId : keyToId "" with
  | none => rfl
  | some id =>
    obtain ⟨⟨spec, kept⟩, _⟩ := (named "" id).1 isId
    exact absurd rfl kept.1

/-- A task of the plan asks for a gate that it keeps. -/
def AsksGate (isZero : JsonNumber → Bool) (specs : List Json) (spec : Json) : Prop :=
  truth isZero (field spec "is_gate") = true ∧ (truth isZero (field spec "reviews") = true →
    ∃ reviewed reviewedSpec, field spec "reviews" = .str reviewed ∧
      Kept specs reviewed reviewedSpec)

theorem Planned.isGate_iff {id : TaskId} {task : CrewTask}
    (planned : Planned isZero keyToId id spec task)
    (named : ∀ key id, keyToId key = some id ↔ (∃ spec, Kept specs key spec) ∧ id = taskId key) :
    task.isGate = true ↔ AsksGate isZero specs spec := by
  have emptyKey := keyToId_empty named
  have reviewed : ∀ id, task.reviewsTaskId = some id ↔
      ∃ key, field spec "reviews" = .str key ∧ keyToId key = some id :=
    fun id => reviewsTaskId_iff planned.reviews emptyKey
  rw [planned.gate, Bool.and_eq_true]
  refine and_congr_right (fun _ => ?_)
  rw [Bool.not_eq_true', Bool.and_eq_false_iff]
  have isSome : (reviewsKey isZero spec).isSome = truth isZero (field spec "reviews") := by
    unfold reviewsKey
    split
    · rename_i isTrue
      exact isTrue.symm
    · rename_i isFalse
      exact (Bool.not_eq_true _ ▸ isFalse).symm
  rw [isSome]
  constructor
  · intro resolved isTrue
    rcases resolved with isFalse | isReviewed
    · exact absurd (isFalse.symm.trans isTrue) Bool.noConfusion
    · cases isId : task.reviewsTaskId with
      | none =>
        rw [isId] at isReviewed
        cases isReviewed
      | some id =>
        obtain ⟨key, isKey, isNamed⟩ := (reviewed id).1 isId
        obtain ⟨⟨reviewedSpec, kept⟩, _⟩ := (named key id).1 isNamed
        exact ⟨key, reviewedSpec, isKey, kept⟩
  · intro resolves
    cases isTrue : truth isZero (field spec "reviews") with
    | false => exact Or.inl rfl
    | true =>
      right
      obtain ⟨key, reviewedSpec, isKey, kept⟩ := resolves isTrue
      rw [(reviewed (taskId key)).2 ⟨key, isKey, (named key _).2 ⟨⟨reviewedSpec, kept⟩, rfl⟩⟩]
      rfl

section

variable (planned : PlannedProject isZero specs taskId project)

include planned

theorem PlannedProject.dependsOn_iff {id dependency : TaskId} : project.DependsOn id dependency ↔
      ∃ key upstream, taskId key = id ∧ taskId upstream = dependency ∧
        Lists isZero specs key upstream := by
  obtain ⟨keyToId, named, ofTask, ofKept⟩ := planned.planned
  constructor
  · intro depends
    obtain ⟨task, member, rfl, isDependency⟩ := depends
    obtain ⟨key, spec, kept, isPlanned⟩ := ofTask task member
    obtain ⟨listed, isListed, members⟩ := isPlanned.dependencies
    obtain ⟨upstream, isUpstream, isId⟩ := (members dependency).1 isDependency
    obtain ⟨⟨upstreamSpec, upstreamKept⟩, rfl⟩ := (named upstream dependency).1 isId
    exact ⟨key, upstream, isPlanned.sameId.symm, rfl, spec, listed, upstreamSpec, kept, isListed,
      isUpstream, upstreamKept⟩
  · intro depends
    obtain ⟨key, upstream, rfl, rfl, spec, listed, upstreamSpec, kept, isListed, isUpstream,
      upstreamKept⟩ := depends
    obtain ⟨task, member, isPlanned⟩ := ofKept key spec kept
    obtain ⟨listed', isListed', members⟩ := isPlanned.dependencies
    rw [isListed] at isListed'
    cases isListed'
    refine ⟨task, member, isPlanned.sameId, (members _).2 ⟨upstream, isUpstream, ?_⟩⟩
    exact (named upstream _).2 ⟨⟨upstreamSpec, upstreamKept⟩, rfl⟩

theorem PlannedProject.acyclic_iff (injective : taskId.Injective) :
    Acyclic project.DependsOn ↔ Acyclic (Lists isZero specs) := by
  constructor
  · intro acyclic
    refine acyclic.of_named (fun id key => id = taskId key) ?_ ?_
    · intro id id' key isId isId'
      exact isId.trans isId'.symm
    · intro key upstream lists
      exact ⟨_, _, rfl, rfl, planned.dependsOn_iff.2 ⟨key, upstream, rfl, rfl, lists⟩⟩
  · intro acyclic
    refine acyclic.of_named (fun key id => taskId key = id) ?_ ?_
    · intro key key' id isId isId'
      exact injective (isId.trans isId'.symm)
    · intro id dependency depends
      exact planned.dependsOn_iff.1 depends

theorem PlannedProject.reaches_iff (injective : taskId.Injective) {reviewed : String} :
    Relation.TransGen project.DependsOn (taskId key) (taskId reviewed) ↔
      Relation.TransGen (Lists isZero specs) key reviewed := by
  constructor
  · intro path
    obtain ⟨key', reviewed', isKey, isReviewed, reached⟩ :=
      transGen_of_named (fun key id => taskId key = id)
        (fun _ _ _ isId isId' => injective (isId.trans isId'.symm))
        (fun _ _ depends => planned.dependsOn_iff.1 depends) path
    rw [← injective isKey, ← injective isReviewed]
    exact reached
  · intro path
    exact path.lift taskId (fun key upstream lists =>
      planned.dependsOn_iff.2 ⟨key, upstream, rfl, rfl, lists⟩)

end

theorem kept_of_reached {reviewed : String}
    (path : Relation.TransGen (Lists isZero specs) key reviewed) :
    ∃ spec, Kept specs reviewed spec := by
  cases path with
  | single lists | tail _ lists =>
    obtain ⟨_, _, upstream, _, _, _, kept⟩ := lists
    exact ⟨upstream, kept⟩

theorem PlannedProject.workable_iff (planned : PlannedProject isZero specs taskId project)
    (injective : taskId.Injective) : project.Workable ↔ Sound isZero specs := by
  obtain ⟨keyToId, named, ofTask, ofKept⟩ := planned.planned
  have emptyKey := keyToId_empty named
  constructor
  · intro workable
    refine ⟨?_, (planned.acyclic_iff injective).1 workable.acyclic, ?_⟩
    · obtain ⟨task, member⟩ := List.exists_mem_of_ne_nil _ workable.nonempty
      obtain ⟨key, spec, kept, _⟩ := ofTask task member
      exact ⟨key, spec, kept⟩
    · intro key spec kept isGate resolves
      obtain ⟨task, member, isPlanned⟩ := ofKept key spec kept
      obtain ⟨reviewed, _, isReviewed, _, path⟩ :=
        workable.gates task member ((isPlanned.isGate_iff named).2 ⟨isGate, resolves⟩)
      obtain ⟨reviewedKey, isKey, isId⟩ :=
        (reviewsTaskId_iff isPlanned.reviews emptyKey).1 isReviewed
      rw [((named reviewedKey reviewed.id).1 isId).2, isPlanned.sameId] at path
      exact ⟨reviewedKey, isKey, (planned.reaches_iff injective).1 path⟩
  · intro sound
    refine ⟨?_, ?_, (planned.acyclic_iff injective).2 sound.acyclic, ?_, ?_⟩
    · obtain ⟨key, spec, kept⟩ := sound.nonempty
      obtain ⟨task, member, _⟩ := ofKept key spec kept
      exact List.ne_nil_of_mem member
    · intro task member id depends
      obtain ⟨key, upstream, _, rfl, _, _, upstreamSpec, _, _, _, kept⟩ :=
        planned.dependsOn_iff.1 ⟨task, member, rfl, depends⟩
      obtain ⟨upstreamTask, isUpstream, isPlanned⟩ := ofKept upstream upstreamSpec kept
      exact ⟨upstreamTask, isUpstream, isPlanned.sameId⟩
    · intro gate member isGate
      obtain ⟨key, spec, kept, isPlanned⟩ := ofTask gate member
      obtain ⟨asks, resolves⟩ := (isPlanned.isGate_iff named).1 isGate
      obtain ⟨reviewed, isReviewed, path⟩ := sound.gates key spec kept asks resolves
      obtain ⟨reviewedSpec, reviewedKept⟩ := kept_of_reached path
      obtain ⟨task, isTask, taskPlanned⟩ := ofKept reviewed reviewedSpec reviewedKept
      have isPath := (planned.reaches_iff injective).2 path
      rw [← isPlanned.sameId, ← taskPlanned.sameId] at isPath
      refine ⟨task, isTask, ?_, ?_, isPath⟩
      · refine (reviewsTaskId_iff isPlanned.reviews emptyKey).2 ⟨reviewed, isReviewed, ?_⟩
        exact (named reviewed task.id).2 ⟨⟨reviewedSpec, reviewedKept⟩, taskPlanned.sameId⟩
      · intro same
        rw [same] at isPath
        exact (planned.acyclic_iff injective).2 sound.acyclic gate.id isPath
    · intro task member
      obtain ⟨_, _, _, isPlanned⟩ := ofTask task member
      rw [isPlanned.status]
      constructor
      · intro isTodo
        by_contra some_dependency
        rw [if_neg some_dependency] at isTodo
        cases isTodo
      · intro none_dependency
        exact if_pos none_dependency

end Plans

section Fallback

variable {projectId : ProjectId} {workspaceId : String} {ownerUserId : MemberId}
  {goalText : String} {template : SopTemplate} {taskIds : List TaskId} {project : CrewProject}

theorem lookupKey_of (count : template.tasks.length ≤ taskIds.length)
    (member : key ∈ template.tasks.map SopTaskSpec.key) :
    ∃ id, lookupKey (keyToId template taskIds) key = .ok id := by
  have zipped : ((template.tasks.map SopTaskSpec.key).zip taskIds).map Prod.fst =
      template.tasks.map SopTaskSpec.key :=
    List.map_fst_zip (by rw [List.length_map]; exact count)
  rw [← zipped] at member
  obtain ⟨entry, isEntry, isKey⟩ := List.mem_map.1 member
  have isFound : (((template.tasks.map SopTaskSpec.key).zip taskIds).reverse.find? (fun entry =>
      entry.1 = key)).isSome = true :=
    List.find?_isSome.2 ⟨entry, List.mem_reverse.2 isEntry, decide_eq_true isKey⟩
  obtain ⟨found, isFirst⟩ := Option.isSome_iff_exists.1 isFound
  refine ⟨found.2, ?_⟩
  unfold lookupKey keyToId
  rw [isFirst]
  rfl

theorem instantiateProject_of (staged : template.Staged)
    (count : template.tasks.length ≤ taskIds.length) :
    ∃ project, instantiateProject projectId workspaceId ownerUserId goalText template taskIds =
      .ok project := by
  obtain ⟨_, _, earlier, gates, plain, _⟩ := staged
  have instantiates : ∀ spec ∈ template.tasks,
      ∃ task, instantiateTask projectId (keyToId template taskIds) spec = .ok task := by
    intro spec member
    obtain ⟨id, isId⟩ := lookupKey_of count (List.mem_map_of_mem member)
    obtain ⟨ids, areIds⟩ := exists_mapM_ok (fun key depends =>
      lookupKey_of count (earlier spec member key depends).2)
    unfold instantiateTask
    refine exists_bind_ok isId (exists_bind_ok areIds ?_)
    cases isGate : spec.isGate with
    | false =>
      rw [plain spec member isGate]
      exact ⟨_, rfl⟩
    | true =>
      obtain ⟨key, depends, notEmpty, reviews⟩ := gates spec member isGate
      have isTruthy : truthy (some key) = true := decide_eq_true notEmpty
      obtain ⟨reviewed, isReviewed⟩ := lookupKey_of count (earlier spec member key depends).2
      rw [reviews, if_pos isTruthy, Option.getD_some, isReviewed]
      exact ⟨_, rfl⟩
  obtain ⟨tasks, areTasks⟩ := exists_mapM_ok instantiates
  exact exists_bind_ok areTasks ⟨_, rfl⟩

theorem instantiateProject_workable (staged : template.Staged) (distinctIds : taskIds.Nodup)
    (instantiated : instantiateProject projectId workspaceId ownerUserId goalText template
      taskIds = .ok project) : project.Workable := by
  have completable := instantiateProject_completable staged.completable distinctIds instantiated
  obtain ⟨nonempty, distinct, _, gates, _⟩ := staged
  have wellGated := instantiateProject_wellGated distinct distinctIds gates instantiated
  have related := instantiateProject_tasks instantiated
  have acyclic : Acyclic project.DependsOn := by
    refine completable.acyclic.of_named (fun id id' => id = id') ?_ ?_
    · intro id id' named isId isId'
      exact isId.trans isId'.symm
    · intro id dependency depends
      obtain ⟨task, member, rfl, isDependency⟩ := depends
      exact ⟨_, _, rfl, rfl, .dependency member isDependency⟩
  refine ⟨?_, completable.known, acyclic, ?_, ?_⟩
  · intro isEmpty
    rw [isEmpty, List.forall₂_nil_right_iff] at related
    rw [related] at nonempty
    cases nonempty
  · intro gate member isGate
    obtain ⟨reviewedId, depends, reviews⟩ := wellGated.depend gate member isGate
    obtain ⟨reviewed, isReviewed, rfl⟩ := completable.known gate member reviewedId depends
    have edge : project.DependsOn gate.id reviewed.id := ⟨gate, member, rfl, depends⟩
    refine ⟨reviewed, isReviewed, reviews, ?_, .single edge⟩
    intro same
    rw [same] at edge
    exact acyclic gate.id (.single edge)
  · intro task member
    obtain ⟨spec, _, isTask⟩ := forall₂_mem_right related member
    rw [(instantiateTask_ok isTask).2.2.2.2.1]
    constructor
    · intro isTodo
      by_contra some_dependency
      rw [if_neg some_dependency] at isTodo
      cases isTodo
    · intro none_dependency
      exact if_pos none_dependency

end Fallback

def Converts (isZero : JsonNumber → Bool) (response : ModelResponse) (specs : List Json) : Prop :=
  ∃ plan, emittedPlan response = some plan ∧ planSpecs plan = .ok specs ∧ Convertible isZero specs

/-- The project can be worked exactly when the plan that converts is sound.
Without such a plan it is the project of the template. -/
theorem decompose_workable_iff (isZero : JsonNumber → Bool) (response : ModelResponse)
    (projectId : ProjectId) (workspaceId : String) (ownerUserId : MemberId) (goalText : String)
    (template : SopTemplate) (taskId : String → TaskId) (templateIds : List TaskId)
    (shipped : template ∈ listTemplates) (injective : taskId.Injective)
    (count : templateIds.length = template.tasks.length) (distinctIds : templateIds.Nodup) :
    (∃ project, decompose isZero response projectId workspaceId ownerUserId goalText template
        taskId templateIds = .ok project ∧ project.Workable) ↔
      ∀ specs, Converts isZero response specs → Sound isZero specs := by
  have staged := listTemplates_staged template shipped
  obtain ⟨fallback, isFallback⟩ : ∃ project, instantiateProject projectId workspaceId ownerUserId
      goalText template templateIds = .ok project :=
    instantiateProject_of staged (Nat.le_of_eq count.symm)
  have fallbackWorkable := instantiateProject_workable staged distinctIds isFallback
  cases emitted : emittedPlan response with
  | none =>
    have result : decompose isZero response projectId workspaceId ownerUserId goalText template
        taskId templateIds = .ok fallback := by
      unfold decompose
      rw [emitted]
      exact isFallback
    refine iff_of_true ⟨fallback, result, fallbackWorkable⟩ ?_
    intro specs converts
    obtain ⟨plan, isPlan, _⟩ := converts
    rw [emitted] at isPlan
    cases isPlan
  | some plan =>
    cases converted : planToProject isZero plan projectId workspaceId ownerUserId goalText
        template.id taskId with
    | error error =>
      have result : decompose isZero response projectId workspaceId ownerUserId goalText
          template taskId templateIds = .ok fallback := by
        unfold decompose
        rw [emitted]
        dsimp only
        rw [converted]
        exact isFallback
      refine iff_of_true ⟨fallback, result, fallbackWorkable⟩ ?_
      intro specs converts
      obtain ⟨plan', isPlan, areSpecs, convertible⟩ := converts
      rw [emitted] at isPlan
      cases isPlan
      obtain ⟨project, isProject⟩ := planToProject_of areSpecs convertible
      rw [converted] at isProject
      cases isProject
    | ok project =>
      have result : decompose isZero response projectId workspaceId ownerUserId goalText
          template taskId templateIds = .ok project := by
        unfold decompose
        rw [emitted]
        dsimp only
        rw [converted]
      obtain ⟨specs, areSpecs, planned⟩ := planToProject_ok converted
      constructor
      · intro worked specs' converts
        obtain ⟨project', isProject, workable⟩ := worked
        obtain ⟨plan', isPlan, areSpecs', _⟩ := converts
        rw [emitted] at isPlan
        cases isPlan
        rw [areSpecs] at areSpecs'
        cases areSpecs'
        rw [result] at isProject
        cases isProject
        exact (planned.workable_iff injective).1 workable
      · intro sound
        refine ⟨project, result, (planned.workable_iff injective).2 (sound specs ?_)⟩
        exact ⟨plan, emitted, areSpecs, planned.convertible⟩

theorem marketingCollateral_shipped : marketingCollateral ∈ listTemplates :=
  List.mem_cons_of_mem _ (List.mem_singleton.2 rfl)

/-- A plan without tasks falls back to the template. -/
theorem decompose_workable_iff_null_tasks :
    ∃ project, decompose (fun _ => false)
        (some [("crew.emit_project_plan", [("tasks", .null)])]) "proj_1" "ws" "owner" "launch"
        marketingCollateral (fun key => "task_1_" ++ key)
        ["task_1", "task_2", "task_3", "task_4", "task_5", "task_6"] = .ok project ∧
      project.Workable := by
  have injective : Function.Injective (fun key => "task_1_" ++ key) := by
    intro key key' same
    have sameChars := congrArg String.toList same
    rw [String.toList_append, String.toList_append] at sameChars
    exact String.toList_inj.1 (List.append_cancel_left sameChars)
  refine (decompose_workable_iff (fun _ => false) _ "proj_1" "ws" "owner" "launch"
    marketingCollateral (fun key => "task_1_" ++ key) _ marketingCollateral_shipped injective rfl
    (by decide +kernel)).2 ?_
  intro specs converts
  obtain ⟨plan, isPlan, areSpecs, _⟩ := converts
  cases isPlan
  cases areSpecs

/-- Two tasks that wait for each other. -/
def mutualPlan : List (String × Json) :=
  [("goal", .str "launch"), ("summary", .str "two tasks"),
    ("tasks", .arr [
      .obj [("key", .str "copy"), ("title", .str "Copy"), ("role_required", .str "writer"),
        ("depends_on", .arr [.str "visual"])],
      .obj [("key", .str "visual"), ("title", .str "Visual"), ("role_required", .str "designer"),
        ("depends_on", .arr [.str "copy"])]])]

/-- The cycle of an emitted plan becomes a cycle of the project. -/
theorem decompose_keeps_cycle :
    ¬ ∀ (isZero : JsonNumber → Bool) (response : ModelResponse) (template : SopTemplate)
      (taskId : String → TaskId) (templateIds : List TaskId),
      template ∈ listTemplates → taskId.Injective →
      templateIds.length = template.tasks.length → templateIds.Nodup →
      ∃ project, decompose isZero response "proj_1" "ws" "owner" "launch" template taskId
        templateIds = .ok project ∧ project.Workable := by
  intro claimed
  obtain ⟨project, isProject, workable⟩ := claimed (fun _ => false)
    (some [("crew.emit_project_plan", mutualPlan)]) marketingCollateral (fun key => key)
    ["task_1", "task_2", "task_3", "task_4", "task_5", "task_6"] marketingCollateral_shipped
    (fun _ _ same => same) rfl (by decide +kernel)
  have isResult : ∃ converted, decompose (fun _ => false)
      (some [("crew.emit_project_plan", mutualPlan)]) "proj_1" "ws" "owner" "launch"
      marketingCollateral (fun key => key)
      ["task_1", "task_2", "task_3", "task_4", "task_5", "task_6"] = .ok converted ∧
      converted.tasks.map (fun task => (task.id, task.dependsOn)) =
        [("copy", ["visual"]), ("visual", ["copy"])] := ⟨_, rfl, rfl⟩
  obtain ⟨converted, isConverted, areEdges⟩ := isResult
  rw [isConverted] at isProject
  cases isProject
  have edge : ∀ key dependency, (key, [dependency]) ∈
      [("copy", ["visual"]), ("visual", ["copy"])] → project.DependsOn key dependency := by
    intro key dependency member
    rw [← areEdges] at member
    obtain ⟨task, isTask, isEdge⟩ := List.mem_map.1 member
    injection isEdge with sameId sameDependencies
    refine ⟨task, isTask, sameId, ?_⟩
    rw [sameDependencies]
    exact List.mem_singleton.2 rfl
  have onward := edge "copy" "visual" (by decide)
  have back := edge "visual" "copy" (by decide)
  exact workable.acyclic "copy" (.tail (.single onward) back)

end AnnaAgent.Crew
