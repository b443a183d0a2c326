/-
What the workbench routes make of a request body
(`harness-service/src/product-facade.ts`): the run record of a posted run.
-/

import AnnaAgent.Host.ProductSession

namespace AnnaAgent.Host

open Foundation
open EventStore (isSpace)

structure ProductHttpError where
  statusCode : Nat
  code : String

def trim (text : String) : String :=
  String.ofList ((text.toList.dropWhile isSpace).reverse.dropWhile isSpace).reverse

def requiredSettingString (value : Option Json) (name : String) :
    Except ProductHttpError String :=
  match value with
  | some (.str text) =>
    if isBlank text then .error ⟨400, "invalid_" ++ name⟩ else .ok (trim text)
  | _ => .error ⟨400, "invalid_" ++ name⟩

def optionalId (value : Option Json) (name : String) :
    Except ProductHttpError (Option String) :=
  match value with
  | none => .ok none
  | some .null => .ok none
  | some (.str text) =>
    if isBlank text then .error ⟨400, "invalid_" ++ name⟩ else .ok (some text)
  | some _ => .error ⟨400, "invalid_" ++ name⟩

def requiredSurface (value : Json) : Except ProductHttpError String :=
  match value with
  | .str text => if text ∈ productSurfaces then .ok text else .error ⟨400, "invalid_surface"⟩
  | _ => .error ⟨400, "invalid_surface"⟩

def requiredResourceRefs (value : Json) : Except ProductHttpError (List String) :=
  match value with
  | .arr items =>
    match items.mapM resourceRef? with
    | some refs => .ok refs
    | none => .error ⟨400, "invalid_resource_refs"⟩
  | _ => .error ⟨400, "invalid_resource_refs"⟩

def workdirResourcePrefix : String := "workdir:"

/-- The folder that a resource names; no error where nothing is named. -/
def workdirResourceId (refs : List String) : Except String (Option String) :=
  match refs with
  | [] => .ok none
  | [ref] =>
    if workdirResourcePrefix.toList <+: ref.toList then
      let id := trim (String.ofList (ref.toList.drop workdirResourcePrefix.length))
      if id = "" ∨ '/' ∈ id.toList ∨ '\\' ∈ id.toList then
        .error "workdir_resource_ref_not_supported"
      else .ok (some id)
    else .error "workdir_resource_ref_not_supported"
  | _ => .error "workdir_resource_refs_not_supported"

def requestedArtifactKind (value : Option Json) : Except ProductHttpError (Option String) := do
  let artifact ← optionalId value "requested_artifact"
  match artifact with
  | none => return none
  | some kind =>
    if kind ∈ ["skill", "prompt", "python_tool"] then return some kind
    else throw ⟨400, "invalid_requested_artifact"⟩

def requestedPermissionMode (value : Option Json) (refs : List String) :
    Except ProductHttpError GoalPermissionMode :=
  match value with
  | none => .ok .readonly
  | some mode =>
    if mode = .str "readonly" then .ok .readonly
    else if mode ≠ .str "contained-write" then .error ⟨400, "invalid_permission_mode"⟩
    else
      match refs with
      | [ref] =>
        if "workdir:".toList <+: ref.toList then .ok .containedWrite
        else .error ⟨422, "permission_requires_workdir"⟩
      | _ => .error ⟨422, "permission_requires_workdir"⟩

/-- A skill is named by its id, by its canonical name, or by that name with
hyphens. -/
def namesSkill (requested id : String) : Bool :=
  let canonical := String.ofList (id.toList.drop "skill:".length)
  decide (id = requested) || decide (canonical = requested) ||
    decide (String.ofList (canonical.toList.map (fun c => if c = '/' then '-' else c)) = requested)

/-- What the route asks the rest of the host for. -/
structure RunRoute where
  registeredSkills : List String
  modelProfiles : List String
  getRun : String → Option WorkbenchRunRecord

def RunRoute.skillId (route : RunRoute) (requested : Option String) :
    Except ProductHttpError (Option String) :=
  match requested with
  | none => .ok none
  | some name =>
    match route.registeredSkills.find? (namesSkill name) with
    | some id => .ok (some id)
    | none => .error ⟨409, "skill_not_registered"⟩

def RunRoute.checkProfile (route : RunRoute) (profile : Option String) :
    Except ProductHttpError Unit :=
  match profile with
  | none => .ok ()
  | some id =>
    if id = "default" ∨ id ∈ route.modelProfiles then .ok ()
    else .error ⟨409, "model_profile_unavailable"⟩

def RunRoute.checkParent (route : RunRoute) (sessionId : String) (parent : Option String) :
    Except ProductHttpError Unit :=
  match parent with
  | none => .ok ()
  | some id =>
    if (route.getRun id).any (fun run => run.sessionId = sessionId) then .ok ()
    else .error ⟨404, "parent_run_not_found"⟩

def runBodyKeys : List String :=
  ["prompt", "source_event_id", "surface", "parent_run_id", "resource_refs", "requested_artifact",
    "skill_id", "agent_id", "model_profile_id", "permission_mode"]

def assertAllowedKeys (body : Json) (allowed : List String) : Except ProductHttpError Unit :=
  match body with
  | .obj fields =>
    if fields.all (fun field => field.1 ∈ allowed) then .ok ()
    else .error ⟨400, "invalid_request"⟩
  | _ => .error ⟨400, "invalid_request"⟩

/-- `POST /api/workbench/sessions/:id/runs` up to the run record, under a fresh
run id and at a time. -/
def RunRoute.runFromBody (route : RunRoute) (session : WorkbenchSessionRecord)
    (workspaceId actorUserId runId timestamp : String) (body : Json) :
    Except ProductHttpError WorkbenchRunRecord := do
  assertAllowedKeys body runBodyKeys
  let prompt ← requiredSettingString (body.get? "prompt") "prompt"
  let sourceEventId ← requiredSettingString (body.get? "source_event_id") "source_event_id"
  let surface ← match body.get? "surface" with
    | none => Except.ok session.surface
    | some value => requiredSurface value
  let parentRunId ← optionalId (body.get? "parent_run_id") "parent_run_id"
  let resourceRefs ← match body.get? "resource_refs" with
    | none => Except.ok []
    | some value => requiredResourceRefs value
  match workdirResourceId resourceRefs with
  | .error _ => throw ⟨422, "resource_refs_not_supported"⟩
  | .ok _ => pure ()
  let requestedArtifact ← requestedArtifactKind (body.get? "requested_artifact")
  let permissionMode ← requestedPermissionMode (body.get? "permission_mode") resourceRefs
  let requestedSkillId ← optionalId (body.get? "skill_id") "skill_id"
  let agentId ← optionalId (body.get? "agent_id") "agent_id"
  let modelProfileId ← optionalId (body.get? "model_profile_id") "model_profile_id"
  let skillId ← route.skillId requestedSkillId
  route.checkProfile modelProfileId
  route.checkParent session.sessionId parentRunId
  return {
    runId
    sessionId := session.sessionId
    workspaceId
    actorUserId
    channelId := session.channelId
    projectId := session.projectId
    parentRunId
    surface
    prompt
    sourceEventId
    sourceEventDerived := none
    resourceRefs
    skillId
    agentId
    modelProfileId
    requestedArtifact
    conversationId := session.sessionId
    conversationSource := none
    createdAt := timestamp
    updatedAt := timestamp
    admissionStatus := some .pending
    admissionError := none
    permissionMode := if permissionMode = .containedWrite then some permissionMode else none
    goalId := none
    trigger := none }

end AnnaAgent.Host
