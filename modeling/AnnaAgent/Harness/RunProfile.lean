/-
Resolution of a run profile (`harness-v2/src/run-profile.ts`).

The inputs have their declared types, so the checks that remain are those of
texts, of empty arrays and of the policies against each other.  The parsers of
the three attached snapshots and the hash of the profile are parameters.
-/

import Mathlib.Algebra.Order.Ring.Rat
import AnnaAgent.EventStore.Contracts

namespace AnnaAgent.Harness

open Foundation EventStore

inductive Number where
  | finite (value : ℚ)
  | positiveInfinity
  | negativeInfinity
  | nan
  deriving DecidableEq

namespace Number

def le : Number → Number → Bool
  | nan, _ => false
  | _, nan => false
  | negativeInfinity, _ => true
  | _, positiveInfinity => true
  | finite left, finite right => decide (left ≤ right)
  | finite _, negativeInfinity => false
  | positiveInfinity, finite _ => false
  | positiveInfinity, negativeInfinity => false

/-- `Math.min(left, right)`. -/
def min (left right : Number) : Number :=
  if left = nan ∨ right = nan then nan else if left.le right then left else right

theorem le_refl_of {number : Number} (isNumber : number ≠ nan) : number.le number = true := by
  cases number with
  | finite value => exact decide_eq_true (le_refl value)
  | positiveInfinity => rfl
  | negativeInfinity => rfl
  | nan => exact absurd rfl isNumber

theorem min_le_right_iff (left right : Number) :
    (min left right).le right = true ↔ left ≠ nan ∧ right ≠ nan := by
  unfold min
  constructor
  · intro isLe
    rw [← not_or]
    intro someNan
    rw [if_pos someNan] at isLe
    exact Bool.false_ne_true isLe
  · intro areNumbers
    rw [if_neg (not_or.2 areNumbers)]
    split
    · rename_i isLe
      exact isLe
    · exact le_refl_of areNumbers.2

end Number

inductive ModelReasoning where
  | low | high
  deriving DecidableEq

structure ModelPolicy where
  provider : String
  name : String
  reasoning : ModelReasoning
  deriving DecidableEq

inductive MemoryReadMode where
  | none | channel
  deriving DecidableEq

inductive MemoryWriteMode where
  | disabled | propose
  deriving DecidableEq

structure RunProfileMemoryPolicy where
  read : MemoryReadMode
  write : MemoryWriteMode

inductive BudgetKey where
  | wallTimeMs | turns | inputTokens | outputTokens | cost | toolCalls | retryAttempts
  | concurrentChildLanes
  deriving DecidableEq

/-- The limit of each dimension that has one. -/
abbrev Budget := BudgetKey → Option Number

structure ChannelPolicy where
  allowedTools : List String
  allowedSkillIds : List String
  allowedModels : List ModelPolicy
  budgetLimits : Budget
  allowedReadModes : List MemoryReadMode
  allowedWriteModes : List MemoryWriteMode

inductive RunOutcomeStatus where
  | completed | awaitingInput | awaitingApproval | failed | timedOut | cancelled
  deriving DecidableEq

/-- `verification` has one value only. -/
structure ArtifactContract where
  kind : String
  requiredFor : List RunOutcomeStatus
  deriving DecidableEq

structure WorkerProfile where
  id : String
  version : String
  instructions : String
  allowedSkillIds : List String
  allowedTools : List String
  allowedModels : List ModelPolicy
  budgetDefaults : Budget
  artifactContract : ArtifactContract

inductive ContextPreservedField where
  | goal | constraints | pendingToolCalls | provenance
  deriving DecidableEq

/-- `kind` has one value only. -/
structure ContextTransform where
  preserve : List ContextPreservedField

inductive EvalContract where
  | disabled | required
  deriving DecidableEq

inductive EvalQuality where
  | disabled | humanOnRisk
  deriving DecidableEq

structure EvalPolicy where
  contract : EvalContract
  quality : EvalQuality

/-- `stopCondition` has one value only. -/
structure TerminalRules where
  allowedOutcomes : List RunOutcomeStatus

structure SkillProvenance where
  source : String
  uri : String

structure SkillCatalogEntry where
  id : String
  name : String
  version : String
  hash : String
  provenance : SkillProvenance
  content : String
  allowedTools : List String
  forbiddenTools : List String

/-- The snapshots that a profile may carry along. -/
structure Attachments where
  SkillCatalogSnapshot : Type
  CapabilityPolicySnapshot : Type
  KernelDescriptor : Type
  parseSkillCatalogSnapshot : SkillCatalogSnapshot → Except Thrown SkillCatalogSnapshot
  parseCapabilityPolicySnapshot : CapabilityPolicySnapshot → Except Thrown CapabilityPolicySnapshot
  parseKernelDescriptor : KernelDescriptor → Except Thrown KernelDescriptor

variable (attachments : Attachments)

structure RunProfile where
  id : String
  version : String
  model : ModelPolicy
  skillIds : List String
  contextTransforms : List ContextTransform
  allowedTools : List String
  budget : Budget
  memoryPolicy : RunProfileMemoryPolicy
  evalPolicy : EvalPolicy
  artifactContract : ArtifactContract
  terminalRules : TerminalRules
  skillCatalog : Option attachments.SkillCatalogSnapshot
  capabilityPolicy : Option attachments.CapabilityPolicySnapshot
  kernel : Option attachments.KernelDescriptor

structure ResolveRunProfileOptions where
  catalog : List SkillCatalogEntry
  channelPolicy : ChannelPolicy
  workerProfile : WorkerProfile
  runProfile : RunProfile attachments

structure WorkerProfileSummary where
  id : String
  version : String
  instructions : String

/-- A resolved profile without its `hash`. -/
structure ProfileSnapshot where
  id : String
  version : String
  workerProfileId : String
  workerProfile : WorkerProfileSummary
  model : ModelPolicy
  skills : List SkillCatalogEntry
  allowedTools : List String
  budget : Budget
  contextTransforms : List ContextTransform
  memoryPolicy : RunProfileMemoryPolicy
  evalPolicy : EvalPolicy
  artifactContract : ArtifactContract
  terminalRules : TerminalRules
  skillCatalog : Option attachments.SkillCatalogSnapshot
  capabilityPolicy : Option attachments.CapabilityPolicySnapshot
  kernel : Option attachments.KernelDescriptor

structure ResolvedRunProfile extends ProfileSnapshot attachments where
  hash : String

/-! ### Checks -/

def requireNonEmptyString (value name : String) : Except Thrown String :=
  if value.toList.all isSpace then .error (.error s!"{name} must be a non-empty string")
  else .ok value

def copyElements {α : Type} (check : α → String → Except Thrown α) (name : String) :
    Nat → List α → Except Thrown (List α)
  | _, [] => .ok []
  | index, value :: rest => do
      let first ← check value s!"{name}[{index}]"
      let others ← copyElements check name (index + 1) rest
      return first :: others

def copyArray {α : Type} (check : α → String → Except Thrown α) (values : List α) (name : String)
    (required : Bool) : Except Thrown (List α) :=
  if required = true ∧ values = [] then .error (.error s!"{name} must not be empty")
  else copyElements check name 0 values

def copyStringArray : List String → String → Bool → Except Thrown (List String) :=
  copyArray requireNonEmptyString

/-- A value of an enumeration is one of the allowed ones. -/
def copyEnumArray {α : Type} : List α → String → Bool → Except Thrown (List α) :=
  copyArray (fun value _ => .ok value)

def snapshotModel (model : ModelPolicy) (name : String) : Except Thrown ModelPolicy := do
  let provider ← requireNonEmptyString model.provider s!"{name}.provider"
  let modelName ← requireNonEmptyString model.name s!"{name}.name"
  return { provider, name := modelName, reasoning := model.reasoning }

def snapshotModels (models : List ModelPolicy) (name : String) :
    Except Thrown (List ModelPolicy) :=
  if models = [] then .error (.error s!"{name} must be a non-empty array")
  else copyElements snapshotModel name 0 models

def snapshotSkill (skill : SkillCatalogEntry) : Except Thrown SkillCatalogEntry := do
  let id ← requireNonEmptyString skill.id "Skill.id"
  let name ← requireNonEmptyString skill.name "Skill.name"
  let version ← requireNonEmptyString skill.version "Skill.version"
  let hash ← requireNonEmptyString skill.hash "Skill.hash"
  let source ← requireNonEmptyString skill.provenance.source "Skill.provenance.source"
  let uri ← requireNonEmptyString skill.provenance.uri "Skill.provenance.uri"
  let content ← requireNonEmptyString skill.content "Skill.content"
  let allowedTools ← copyStringArray skill.allowedTools "Skill.allowedTools" false
  let forbiddenTools ← copyStringArray skill.forbiddenTools "Skill.forbiddenTools" false
  return { id, name, version, hash, provenance := { source, uri }, content, allowedTools
           forbiddenTools }

def snapshotArtifactContract (contract : ArtifactContract) (name : String) :
    Except Thrown ArtifactContract := do
  let kind ← requireNonEmptyString contract.kind s!"{name}.kind"
  let requiredFor ← copyEnumArray contract.requiredFor s!"{name}.requiredFor" true
  return { kind, requiredFor }

def resolveBudget (workerDefaults runBudget channelLimits : Budget) : Budget :=
  fun key =>
    match (runBudget key).or (workerDefaults key), channelLimits key with
    | some requested, some limit => some (requested.min limit)
    | some requested, none => some requested
    | none, _ => none

def snapshotChannelPolicy (policy : ChannelPolicy) (hasCapabilityPolicy : Bool) :
    Except Thrown ChannelPolicy := do
  let allowedTools ←
    copyStringArray policy.allowedTools "ChannelPolicy.toolPolicy.allowedTools" true
  let allowedSkillIds ←
    copyStringArray policy.allowedSkillIds "ChannelPolicy.allowedSkillIds" (!hasCapabilityPolicy)
  let allowedModels ← snapshotModels policy.allowedModels "ChannelPolicy.allowedModels"
  let allowedReadModes ←
    copyEnumArray policy.allowedReadModes "ChannelPolicy.memoryPolicy.allowedReadModes" true
  let allowedWriteModes ←
    copyEnumArray policy.allowedWriteModes "ChannelPolicy.memoryPolicy.allowedWriteModes" true
  return { policy with
           allowedTools, allowedSkillIds, allowedModels, allowedReadModes, allowedWriteModes }

def snapshotWorkerProfile (profile : WorkerProfile) (hasCapabilityPolicy : Bool) :
    Except Thrown WorkerProfile := do
  let id ← requireNonEmptyString profile.id "WorkerProfile.id"
  let version ← requireNonEmptyString profile.version "WorkerProfile.version"
  let instructions ← requireNonEmptyString profile.instructions "WorkerProfile.instructions"
  let allowedSkillIds ←
    copyStringArray profile.allowedSkillIds "WorkerProfile.allowedSkillIds" (!hasCapabilityPolicy)
  let allowedTools ← copyStringArray profile.allowedTools "WorkerProfile.allowedTools" true
  let allowedModels ←
    snapshotModels profile.allowedModels "WorkerProfile.modelPolicy.allowedModels"
  let artifactContract ←
    snapshotArtifactContract profile.artifactContract "WorkerProfile.artifactContract"
  return { profile with
           id, version, instructions, allowedSkillIds, allowedTools, allowedModels
           artifactContract }

def parseAttached {α : Type} (parse : α → Except Thrown α) : Option α → Except Thrown (Option α)
  | none => .ok none
  | some value => (parse value).map some

def snapshotContextTransform (transform : ContextTransform) (name : String) :
    Except Thrown ContextTransform := do
  let preserve ← copyEnumArray transform.preserve s!"{name}.preserve" true
  return { preserve }

variable {attachments}

def snapshotRunProfile (profile : RunProfile attachments) :
    Except Thrown (RunProfile attachments) := do
  let id ← requireNonEmptyString profile.id "RunProfile.id"
  let version ← requireNonEmptyString profile.version "RunProfile.version"
  let capabilityPolicy ←
    parseAttached attachments.parseCapabilityPolicySnapshot profile.capabilityPolicy
  let model ← snapshotModel profile.model "RunProfile.model"
  let skillIds ←
    copyStringArray profile.skillIds "RunProfile.skillIds" profile.capabilityPolicy.isNone
  let allowedTools ←
    copyStringArray profile.allowedTools "RunProfile.toolPolicy.allowedTools" true
  if profile.contextTransforms = [] then
    .error (.error "RunProfile.contextTransforms must be a non-empty array")
  let contextTransforms ←
    copyElements snapshotContextTransform "RunProfile.contextTransforms" 0
      profile.contextTransforms
  let artifactContract ←
    snapshotArtifactContract profile.artifactContract "RunProfile.artifactContract"
  let allowedOutcomes ←
    copyEnumArray profile.terminalRules.allowedOutcomes "RunProfile.terminalRules.allowedOutcomes"
      true
  let kernel ← parseAttached attachments.parseKernelDescriptor profile.kernel
  let skillCatalog ← parseAttached attachments.parseSkillCatalogSnapshot profile.skillCatalog
  return { profile with
           id, version, capabilityPolicy, model, skillIds, allowedTools, contextTransforms
           artifactContract, terminalRules := { allowedOutcomes }, kernel, skillCatalog }

def checkPolicies (channel : ChannelPolicy) (worker : WorkerProfile)
    (profile : RunProfile attachments) : Except Thrown Unit :=
  if profile.model ∉ channel.allowedModels ∨ profile.model ∉ worker.allowedModels then
    .error (.error "RunProfile.model must be allowed by ChannelPolicy and WorkerProfile")
  else if profile.memoryPolicy.read ∉ channel.allowedReadModes then
    .error (.error "RunProfile.memoryPolicy.read is not allowed by ChannelPolicy")
  else if profile.memoryPolicy.write ∉ channel.allowedWriteModes then
    .error (.error "RunProfile.memoryPolicy.write is not allowed by ChannelPolicy")
  else if profile.artifactContract ≠ worker.artifactContract then
    .error (.error "RunProfile.artifactContract must match WorkerProfile.artifactContract")
  else .ok ()

def selectSkill (channel : ChannelPolicy) (worker : WorkerProfile)
    (catalog : List SkillCatalogEntry) (skillId name : String) :
    Except Thrown SkillCatalogEntry :=
  if skillId ∉ channel.allowedSkillIds ∨ skillId ∉ worker.allowedSkillIds then
    .error (.error s!"{name} must be allowed by ChannelPolicy and WorkerProfile")
  else
    match catalog.find? (fun candidate => candidate.id = skillId) with
    | none => .error (.error s!"{name} does not exist in the catalog")
    | some skill => snapshotSkill skill

def selectSkills (channel : ChannelPolicy) (worker : WorkerProfile)
    (catalog : List SkillCatalogEntry) :
    Nat → List String → Except Thrown (List SkillCatalogEntry)
  | _, [] => .ok []
  | index, skillId :: rest => do
      let skill ← selectSkill channel worker catalog skillId s!"RunProfile.skillIds[{index}]"
      let others ← selectSkills channel worker catalog (index + 1) rest
      return skill :: others

def capabilityHostTools : List String :=
  ["capabilities.search", "capabilities.load", "skills.load"]

/-- The filter of the tools of the channel. -/
def toolIsAllowed (worker : WorkerProfile) (profile : RunProfile attachments)
    (skills : List SkillCatalogEntry) (tool : String) : Bool :=
  ((profile.capabilityPolicy.isSome &&
      (skills.isEmpty || capabilityHostTools.contains tool)) ||
    (skills.flatMap SkillCatalogEntry.allowedTools).contains tool) &&
  worker.allowedTools.contains tool && profile.allowedTools.contains tool &&
  !(skills.flatMap SkillCatalogEntry.forbiddenTools).contains tool

def resolveRunProfile (profileHash : ProfileSnapshot attachments → String)
    (options : ResolveRunProfileOptions attachments) :
    Except Thrown (ResolvedRunProfile attachments) := do
  let hasCapabilityPolicy := options.runProfile.capabilityPolicy.isSome
  let channel ← snapshotChannelPolicy options.channelPolicy hasCapabilityPolicy
  let worker ← snapshotWorkerProfile options.workerProfile hasCapabilityPolicy
  let profile ← snapshotRunProfile options.runProfile
  let _ ← checkPolicies channel worker profile
  let skills ← selectSkills channel worker options.catalog 0 profile.skillIds
  let snapshot : ProfileSnapshot attachments :=
    { id := profile.id
      version := profile.version
      workerProfileId := worker.id
      workerProfile :=
        { id := worker.id, version := worker.version, instructions := worker.instructions }
      model := profile.model
      skills
      allowedTools := channel.allowedTools.filter (toolIsAllowed worker profile skills)
      budget := resolveBudget worker.budgetDefaults profile.budget channel.budgetLimits
      contextTransforms := profile.contextTransforms
      memoryPolicy := profile.memoryPolicy
      evalPolicy := profile.evalPolicy
      artifactContract := profile.artifactContract
      terminalRules := profile.terminalRules
      skillCatalog := profile.skillCatalog
      capabilityPolicy := profile.capabilityPolicy
      kernel := profile.kernel }
  return { snapshot with hash := profileHash snapshot }

end AnnaAgent.Harness
