/-
A resolved profile has no more authority than its inputs.

Snapshots copy what they check.  The one thing that the resolution may lose is
a limit of the channel in a dimension that nobody asked for.
-/

import AnnaAgent.Harness.RunProfile

namespace AnnaAgent.Harness

open Foundation EventStore

theorem requireNonEmptyString_ok {value name result : String}
    (succeeded : requireNonEmptyString value name = .ok result) : result = value := by
  unfold requireNonEmptyString at succeeded
  split at succeeded
  · cases succeeded
  · cases succeeded
    rfl

variable {required : Bool}

section Arrays

variable {α : Type} {check : α → String → Except Thrown α}

theorem copyElements_ok
    (copies : ∀ {value result name}, check value name = .ok result → result = value)
    {name : String} {index : Nat} {values results : List α}
    (succeeded : copyElements check name index values = .ok results) : results = values := by
  induction values generalizing index results with
  | nil =>
    cases succeeded
    rfl
  | cons value rest ih =>
    unfold copyElements at succeeded
    obtain ⟨first, isFirst, succeeded⟩ := bind_ok succeeded
    obtain ⟨others, areOthers, succeeded⟩ := bind_ok succeeded
    cases succeeded
    rw [copies isFirst, ih areOthers]

theorem copyArray_ok
    (copies : ∀ {value result name}, check value name = .ok result → result = value) {name : String}
    {values results : List α} (succeeded : copyArray check values name required = .ok results) :
    results = values := by
  unfold copyArray at succeeded
  split at succeeded
  · cases succeeded
  · exact copyElements_ok copies succeeded

end Arrays

variable {name : String} {channel : ChannelPolicy} {worker : WorkerProfile}

theorem copyStringArray_ok {values results : List String}
    (succeeded : copyStringArray values name required = .ok results) : results = values :=
  copyArray_ok requireNonEmptyString_ok succeeded

theorem copyEnumArray_ok {α : Type} {values results : List α}
    (succeeded : copyEnumArray values name required = .ok results) : results = values := by
  refine copyArray_ok ?_ succeeded
  intro value result name copied
  cases copied
  rfl

theorem snapshotModel_ok {model result : ModelPolicy}
    (succeeded : snapshotModel model name = .ok result) : result = model := by
  unfold snapshotModel at succeeded
  obtain ⟨provider, isProvider, succeeded⟩ := bind_ok succeeded
  obtain ⟨modelName, isName, succeeded⟩ := bind_ok succeeded
  cases succeeded
  rw [requireNonEmptyString_ok isProvider, requireNonEmptyString_ok isName]

theorem snapshotModels_ok {models results : List ModelPolicy}
    (succeeded : snapshotModels models name = .ok results) : results = models := by
  unfold snapshotModels at succeeded
  split at succeeded
  · cases succeeded
  · exact copyElements_ok snapshotModel_ok succeeded

variable {skill : SkillCatalogEntry}

theorem snapshotSkill_ok {result : SkillCatalogEntry} (succeeded : snapshotSkill skill = .ok result) :
    result = skill := by
  unfold snapshotSkill at succeeded
  obtain ⟨id, isId, succeeded⟩ := bind_ok succeeded
  obtain ⟨name, isName, succeeded⟩ := bind_ok succeeded
  obtain ⟨version, isVersion, succeeded⟩ := bind_ok succeeded
  obtain ⟨hash, isHash, succeeded⟩ := bind_ok succeeded
  obtain ⟨source, isSource, succeeded⟩ := bind_ok succeeded
  obtain ⟨uri, isUri, succeeded⟩ := bind_ok succeeded
  obtain ⟨content, isContent, succeeded⟩ := bind_ok succeeded
  obtain ⟨allowedTools, areAllowed, succeeded⟩ := bind_ok succeeded
  obtain ⟨forbiddenTools, areForbidden, succeeded⟩ := bind_ok succeeded
  cases succeeded
  rw [requireNonEmptyString_ok isId, requireNonEmptyString_ok isName,
    requireNonEmptyString_ok isVersion, requireNonEmptyString_ok isHash,
    requireNonEmptyString_ok isSource, requireNonEmptyString_ok isUri,
    requireNonEmptyString_ok isContent, copyStringArray_ok areAllowed,
    copyStringArray_ok areForbidden]

theorem snapshotArtifactContract_ok {contract result : ArtifactContract}
    (succeeded : snapshotArtifactContract contract name = .ok result) : result = contract := by
  unfold snapshotArtifactContract at succeeded
  obtain ⟨kind, isKind, succeeded⟩ := bind_ok succeeded
  obtain ⟨requiredFor, areOutcomes, succeeded⟩ := bind_ok succeeded
  cases succeeded
  rw [requireNonEmptyString_ok isKind, copyEnumArray_ok areOutcomes]

variable {hasCapabilityPolicy : Bool}

theorem snapshotChannelPolicy_ok {policy result : ChannelPolicy}
    (succeeded : snapshotChannelPolicy policy hasCapabilityPolicy = .ok result) :
    result = policy := by
  unfold snapshotChannelPolicy at succeeded
  obtain ⟨allowedTools, areTools, succeeded⟩ := bind_ok succeeded
  obtain ⟨allowedSkillIds, areSkills, succeeded⟩ := bind_ok succeeded
  obtain ⟨allowedModels, areModels, succeeded⟩ := bind_ok succeeded
  obtain ⟨allowedReadModes, areReadModes, succeeded⟩ := bind_ok succeeded
  obtain ⟨allowedWriteModes, areWriteModes, succeeded⟩ := bind_ok succeeded
  cases succeeded
  rw [copyStringArray_ok areTools, copyStringArray_ok areSkills, snapshotModels_ok areModels,
    copyEnumArray_ok areReadModes, copyEnumArray_ok areWriteModes]

theorem snapshotWorkerProfile_ok {profile result : WorkerProfile}
    (succeeded : snapshotWorkerProfile profile hasCapabilityPolicy = .ok result) :
    result = profile := by
  unfold snapshotWorkerProfile at succeeded
  obtain ⟨id, isId, succeeded⟩ := bind_ok succeeded
  obtain ⟨version, isVersion, succeeded⟩ := bind_ok succeeded
  obtain ⟨instructions, areInstructions, succeeded⟩ := bind_ok succeeded
  obtain ⟨allowedSkillIds, areSkills, succeeded⟩ := bind_ok succeeded
  obtain ⟨allowedTools, areTools, succeeded⟩ := bind_ok succeeded
  obtain ⟨allowedModels, areModels, succeeded⟩ := bind_ok succeeded
  obtain ⟨artifactContract, isContract, succeeded⟩ := bind_ok succeeded
  cases succeeded
  rw [requireNonEmptyString_ok isId, requireNonEmptyString_ok isVersion,
    requireNonEmptyString_ok areInstructions, copyStringArray_ok areSkills,
    copyStringArray_ok areTools, snapshotModels_ok areModels,
    snapshotArtifactContract_ok isContract]

variable {attachments : Attachments} {profile : RunProfile attachments}

theorem snapshotRunProfile_ok {result : RunProfile attachments}
    (succeeded : snapshotRunProfile profile = .ok result) :
    result.allowedTools = profile.allowedTools ∧ result.budget = profile.budget := by
  unfold snapshotRunProfile at succeeded
  obtain ⟨id, isId, succeeded⟩ := bind_ok succeeded
  obtain ⟨version, isVersion, succeeded⟩ := bind_ok succeeded
  obtain ⟨capabilityPolicy, isPolicy, succeeded⟩ := bind_ok succeeded
  obtain ⟨model, isModel, succeeded⟩ := bind_ok succeeded
  obtain ⟨skillIds, areSkills, succeeded⟩ := bind_ok succeeded
  obtain ⟨allowedTools, areTools, succeeded⟩ := bind_ok succeeded
  split at succeeded
  · cases succeeded
  · obtain ⟨contextTransforms, areTransforms, succeeded⟩ := bind_ok succeeded
    obtain ⟨artifactContract, isContract, succeeded⟩ := bind_ok succeeded
    obtain ⟨allowedOutcomes, areOutcomes, succeeded⟩ := bind_ok succeeded
    obtain ⟨kernel, isKernel, succeeded⟩ := bind_ok succeeded
    obtain ⟨skillCatalog, isCatalog, succeeded⟩ := bind_ok succeeded
    cases succeeded
    exact ⟨copyStringArray_ok areTools, rfl⟩

theorem checkPolicies_ok {answer : Unit}
    (succeeded : checkPolicies channel worker profile = .ok answer) :
    profile.model ∈ channel.allowedModels ∧ profile.model ∈ worker.allowedModels ∧
      profile.memoryPolicy.read ∈ channel.allowedReadModes ∧
      profile.memoryPolicy.write ∈ channel.allowedWriteModes := by
  unfold checkPolicies at succeeded
  by_cases models : profile.model ∉ channel.allowedModels ∨ profile.model ∉ worker.allowedModels
  · rw [if_pos models] at succeeded
    cases succeeded
  · rw [if_neg models] at succeeded
    rw [not_or, not_not, not_not] at models
    by_cases reads : profile.memoryPolicy.read ∈ channel.allowedReadModes
    · rw [if_neg (not_not.2 reads)] at succeeded
      by_cases writes : profile.memoryPolicy.write ∈ channel.allowedWriteModes
      · exact ⟨models.1, models.2, reads, writes⟩
      · rw [if_pos writes] at succeeded
        cases succeeded
    · rw [if_pos reads] at succeeded
      cases succeeded

variable {catalog : List SkillCatalogEntry}

theorem selectSkill_ok {skillId : String}
    (succeeded : selectSkill channel worker catalog skillId name = .ok skill) :
    skill ∈ catalog ∧ skill.id ∈ channel.allowedSkillIds ∧ skill.id ∈ worker.allowedSkillIds := by
  unfold selectSkill at succeeded
  by_cases refused : skillId ∉ channel.allowedSkillIds ∨ skillId ∉ worker.allowedSkillIds
  · rw [if_pos refused] at succeeded
    cases succeeded
  · rw [if_neg refused] at succeeded
    rw [not_or, not_not, not_not] at refused
    split at succeeded
    · cases succeeded
    · rename_i candidate found
      have isCandidate := snapshotSkill_ok succeeded
      have matched := List.find?_some found
      have sameId : candidate.id = skillId := of_decide_eq_true matched
      rw [isCandidate, sameId]
      exact ⟨List.mem_of_find?_eq_some found, refused⟩

variable {skills : List SkillCatalogEntry}

theorem selectSkills_ok {index : Nat} {skillIds : List String}
    (succeeded : selectSkills channel worker catalog index skillIds = .ok skills) :
    ∀ skill ∈ skills, skill ∈ catalog ∧ skill.id ∈ channel.allowedSkillIds ∧
      skill.id ∈ worker.allowedSkillIds := by
  induction skillIds generalizing index skills with
  | nil =>
    cases succeeded
    intro skill member
    cases member
  | cons skillId rest ih =>
    unfold selectSkills at succeeded
    obtain ⟨first, isFirst, succeeded⟩ := bind_ok succeeded
    obtain ⟨others, areOthers, succeeded⟩ := bind_ok succeeded
    cases succeeded
    intro skill member
    rcases List.mem_cons.1 member with rfl | later
    · exact selectSkill_ok isFirst
    · exact ih areOthers skill later

theorem toolIsAllowed_iff {tool : String}
    (allowed : toolIsAllowed worker profile skills tool = true) :
    tool ∈ worker.allowedTools ∧ tool ∈ profile.allowedTools ∧
      ∀ skill ∈ skills, tool ∉ skill.forbiddenTools := by
  unfold toolIsAllowed at allowed
  rw [Bool.and_eq_true, Bool.and_eq_true, Bool.and_eq_true] at allowed
  obtain ⟨⟨⟨_, byWorker⟩, byProfile⟩, notForbidden⟩ := allowed
  refine ⟨List.contains_iff_mem.1 byWorker, List.contains_iff_mem.1 byProfile, ?_⟩
  intro skill member forbids
  have isForbidden : (skills.flatMap SkillCatalogEntry.forbiddenTools).contains tool = true :=
    List.contains_iff_mem.2 (List.mem_flatMap.2 ⟨skill, member, forbids⟩)
  rw [isForbidden] at notForbidden
  cases notForbidden

/-! ### Authority -/

def RespectsLimits (budget limits : Budget) : Prop :=
  ∀ key limit, limits key = some limit → ∃ value, budget key = some value ∧ value.le limit = true

/-- Every dimension that the channel limits is asked for, by the run profile or
else the worker profile, in numbers. -/
def Requested (workerDefaults runBudget channelLimits : Budget) : Prop :=
  ∀ key limit, channelLimits key = some limit → limit ≠ .nan ∧
    ∃ value, (runBudget key).or (workerDefaults key) = some value ∧ value ≠ .nan

theorem resolveBudget_respects_iff (workerDefaults runBudget channelLimits : Budget) :
    RespectsLimits (resolveBudget workerDefaults runBudget channelLimits) channelLimits ↔
      Requested workerDefaults runBudget channelLimits := by
  unfold RespectsLimits Requested resolveBudget
  refine forall_congr' (fun key => forall_congr' (fun limit => imp_congr_right ?_))
  intro isLimit
  rw [isLimit]
  cases isRequested : (runBudget key).or (workerDefaults key) with
  | none =>
    constructor
    · intro respects
      obtain ⟨value, isValue, _⟩ := respects
      cases isValue
    · intro requested
      obtain ⟨_, value, isValue, _⟩ := requested
      cases isValue
  | some value =>
    constructor
    · intro respects
      obtain ⟨least, isLeast, isLe⟩ := respects
      cases isLeast
      have numbers := (Number.min_le_right_iff value limit).1 isLe
      exact ⟨numbers.2, value, rfl, numbers.1⟩
    · intro requested
      obtain ⟨limitIsNumber, other, isOther, isNumber⟩ := requested
      cases isOther
      exact ⟨_, rfl, (Number.min_le_right_iff value limit).2 ⟨isNumber, limitIsNumber⟩⟩

structure WithinAuthority (options : ResolveRunProfileOptions attachments)
    (resolved : ResolvedRunProfile attachments) : Prop where
  tools : ∀ tool ∈ resolved.allowedTools,
    tool ∈ options.channelPolicy.allowedTools ∧ tool ∈ options.workerProfile.allowedTools ∧
      tool ∈ options.runProfile.allowedTools ∧
      ∀ skill ∈ resolved.skills, tool ∉ skill.forbiddenTools
  model : resolved.model ∈ options.channelPolicy.allowedModels
  read : resolved.memoryPolicy.read ∈ options.channelPolicy.allowedReadModes
  write : resolved.memoryPolicy.write ∈ options.channelPolicy.allowedWriteModes
  skills : ∀ skill ∈ resolved.skills, skill ∈ options.catalog ∧
    skill.id ∈ options.channelPolicy.allowedSkillIds ∧
    skill.id ∈ options.workerProfile.allowedSkillIds
  budget : RespectsLimits resolved.budget options.channelPolicy.budgetLimits

/-- Resolution never widens authority, but for the limits of the channel in
dimensions that neither profile asked for. -/
theorem resolved_within_authority_iff {profileHash : ProfileSnapshot attachments → String}
    {options : ResolveRunProfileOptions attachments} {resolved : ResolvedRunProfile attachments}
    (succeeded : resolveRunProfile profileHash options = .ok resolved) :
    WithinAuthority options resolved ↔
      Requested options.workerProfile.budgetDefaults options.runProfile.budget
        options.channelPolicy.budgetLimits := by
  unfold resolveRunProfile at succeeded
  obtain ⟨channel, isChannel, succeeded⟩ := bind_ok succeeded
  obtain ⟨worker, isWorker, succeeded⟩ := bind_ok succeeded
  obtain ⟨profile, isProfile, succeeded⟩ := bind_ok succeeded
  obtain ⟨answer, checked, succeeded⟩ := bind_ok succeeded
  obtain ⟨skills, areSkills, succeeded⟩ := bind_ok succeeded
  cases succeeded
  have sameChannel := snapshotChannelPolicy_ok isChannel
  have sameWorker := snapshotWorkerProfile_ok isWorker
  subst sameChannel
  subst sameWorker
  obtain ⟨sameTools, sameBudget⟩ := snapshotRunProfile_ok isProfile
  obtain ⟨modelAllowed, _, readAllowed, writeAllowed⟩ := checkPolicies_ok checked
  have budgets := resolveBudget_respects_iff options.workerProfile.budgetDefaults profile.budget
    options.channelPolicy.budgetLimits
  rw [← sameBudget, ← budgets]
  constructor
  · intro within
    exact within.budget
  · intro respects
    refine ⟨?_, modelAllowed, readAllowed, writeAllowed, selectSkills_ok areSkills, respects⟩
    intro tool member
    obtain ⟨byChannel, allowed⟩ := List.mem_filter.1 member
    obtain ⟨byWorker, byProfile, notForbidden⟩ := toolIsAllowed_iff allowed
    rw [sameTools] at byProfile
    exact ⟨byChannel, byWorker, byProfile, notForbidden⟩

def noAttachments : Attachments where
  SkillCatalogSnapshot := Unit
  CapabilityPolicySnapshot := Unit
  KernelDescriptor := Unit
  parseSkillCatalogSnapshot := .ok
  parseCapabilityPolicySnapshot := .ok
  parseKernelDescriptor := .ok

/-- A review profile whose runs ask for the given budget in a channel that
limits the calls of tools. -/
def reviewOptions (runBudget : Budget) : ResolveRunProfileOptions noAttachments where
  catalog := [
    { id := "review", name := "Review", version := "1.0.0", hash := "sha256:5c5e7f4a"
      provenance := { source := "workspace", uri := "skills/review/SKILL.md" }
      content := "Review the evidence.", allowedTools := ["read_workspace"]
      forbiddenTools := ["shell"] }]
  channelPolicy :=
    { allowedTools := ["read_workspace", "shell"], allowedSkillIds := ["review"]
      allowedModels := [{ provider := "openai", name := "terra", reasoning := .high }]
      budgetLimits := fun key => if key = .toolCalls then some (.finite 3) else none
      allowedReadModes := [.channel], allowedWriteModes := [.propose] }
  workerProfile :=
    { id := "reviewer", version := "1.0.0", instructions := "Review."
      allowedSkillIds := ["review"], allowedTools := ["read_workspace", "shell"]
      allowedModels := [{ provider := "openai", name := "terra", reasoning := .high }]
      budgetDefaults := fun key => if key = .turns then some (.finite 4) else none
      artifactContract := { kind := "review", requiredFor := [.completed] } }
  runProfile :=
    { id := "review-run", version := "7"
      model := { provider := "openai", name := "terra", reasoning := .high }
      skillIds := ["review"]
      contextTransforms := [{ preserve := [.goal] }]
      allowedTools := ["read_workspace", "shell"], budget := runBudget
      memoryPolicy := { read := .channel, write := .propose }
      evalPolicy := { contract := .required, quality := .humanOnRisk }
      artifactContract := { kind := "review", requiredFor := [.completed] }
      terminalRules := { allowedOutcomes := [.completed, .failed] }
      skillCatalog := none, capabilityPolicy := none, kernel := none }

def manyToolCalls : Budget :=
  fun key => if key = .toolCalls then some (.finite 10) else none

theorem many_tool_calls_resolved_within_authority :
    ∃ resolved, resolveRunProfile (fun _ => "hash") (reviewOptions manyToolCalls) = .ok resolved ∧
      WithinAuthority (reviewOptions manyToolCalls) resolved := by
  have accepted : (resolveRunProfile (fun _ => "hash")
      (reviewOptions manyToolCalls)).toOption.isSome = true := by
    decide +kernel
  cases isResolved : resolveRunProfile (fun _ => "hash") (reviewOptions manyToolCalls) with
  | error thrown =>
    rw [isResolved] at accepted
    cases accepted
  | ok resolved =>
    refine ⟨resolved, rfl, (resolved_within_authority_iff isResolved).2 ?_⟩
    intro key limit isLimit
    by_cases isToolCalls : key = .toolCalls
    · subst isToolCalls
      cases isLimit
      exact ⟨by decide, .finite 10, rfl, by decide⟩
    · change (if key = .toolCalls then some (Number.finite 3) else none) = some limit at isLimit
      rw [if_neg isToolCalls] at isLimit
      cases isLimit

/-- The limit of the channel on the calls of tools is gone when neither profile
asks for one. -/
theorem channel_limit_may_be_lost :
    ¬ ∀ (options : ResolveRunProfileOptions noAttachments)
      (resolved : ResolvedRunProfile noAttachments),
      resolveRunProfile (fun _ => "hash") options = .ok resolved →
        WithinAuthority options resolved := by
  intro claimed
  have unlimited : (resolveRunProfile (fun _ => "hash")
      (reviewOptions (fun _ => none))).toOption.map (fun resolved => resolved.budget .toolCalls) =
        some none := by
    decide +kernel
  cases isResolved : resolveRunProfile (fun _ => "hash") (reviewOptions (fun _ => none)) with
  | error thrown =>
    rw [isResolved] at unlimited
    cases unlimited
  | ok resolved =>
    obtain ⟨value, isValue, _⟩ := (claimed _ resolved isResolved).budget .toolCalls _ rfl
    rw [isResolved] at unlimited
    change some (resolved.budget .toolCalls) = some none at unlimited
    rw [isValue] at unlimited
    cases unlimited

end AnnaAgent.Harness
