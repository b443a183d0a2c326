/-
The context of a run and its compaction (`harness-v2/src/run-context.ts`).

`buildRunContext` reads an unknown value field by field; a compaction writes the context
with one summary for its messages and reads it back.
-/

import AnnaAgent.Foundation.FailingLoops
import AnnaAgent.Foundation.JsonFields
import AnnaAgent.Tools.Events

namespace AnnaAgent.Harness

open Foundation EventStore Tools

structure RunContextProvenance where
  source : String
  sourceEventIds : List String
  deriving DecidableEq

structure RunContextText where
  content : String
  provenance : RunContextProvenance
  deriving DecidableEq

structure RunContextMessage extends RunContextText where
  role : String
  deriving DecidableEq

structure PendingToolCall extends ToolRequest where
  provenance : RunContextProvenance
  deriving DecidableEq

structure RunContextMemoryHit extends RunContextText where
  memoryId : String
  deriving DecidableEq

structure RunContextBinding extends ChannelScope where
  runId : RunId
  workerProfileId : WorkerProfileId
  deriving DecidableEq

structure RunContext extends RunContextBinding where
  goal : RunContextText
  constraints : List RunContextText
  transientMessages : List RunContextMessage
  pendingToolCalls : List PendingToolCall
  memoryHits : List RunContextMemoryHit
  deriving DecidableEq

/-- `expectRecord`; a missing field is `undefined`. -/
def expectRecord (input : Option Json) (name : String) : Except Thrown Json :=
  match input with
  | some (.obj fields) => .ok (.obj fields)
  | _ => .error (.schemaValidationError s!"{name} must be an object")

def expectArray (input : Option Json) (name : String) : Except Thrown (List Json) :=
  match input with
  | some (.arr items) => .ok items
  | _ => .error (.schemaValidationError s!"{name} must be an array")

/-- `expectNonEmptyString` of an unknown value. -/
def expectText (input : Option Json) (name : String) : Except Thrown String :=
  match input with
  | some (.str text) => expectNonEmptyString text name
  | _ => .error (.schemaValidationError s!"{name} must be a non-empty string")

def parseJsonValue (input : Option Json) (name : String) : Except Thrown Json :=
  match input with
  | some value => .ok value
  | none => .error (.schemaValidationError s!"{name} must contain only JSON values")

/-- `items.map((item, index) => parse(item, name[index]))`. -/
def parseItems {α : Type} (parse : Json → String → Except Thrown α) (name : String) :
    Nat → List Json → Except Thrown (List α)
  | _, [] => .ok []
  | index, item :: rest => do
      let first ← parse item s!"{name}[{index}]"
      let others ← parseItems parse name (index + 1) rest
      return first :: others

def parseProvenance (input : Option Json) (name : String) :
    Except Thrown RunContextProvenance := do
  let value ← expectRecord input name
  let sourceEventIds ← expectArray (value.get? "sourceEventIds") s!"{name}.sourceEventIds"
  if sourceEventIds.isEmpty then
    .error (.schemaValidationError s!"{name}.sourceEventIds must contain provenance")
  else do
    let source ← expectText (value.get? "source") s!"{name}.source"
    let sourceEventIds ← parseItems (fun eventId name => expectText (some eventId) name)
      s!"{name}.sourceEventIds" 0 sourceEventIds
    return { source, sourceEventIds }

def parseText (input : Option Json) (name : String) : Except Thrown RunContextText := do
  let value ← expectRecord input name
  let content ← expectText (value.get? "content") s!"{name}.content"
  let provenance ← parseProvenance (value.get? "provenance") s!"{name}.provenance"
  return { content, provenance }

def parseMessage (message : Json) (name : String) : Except Thrown RunContextMessage := do
  let value ← expectRecord (some message) name
  let role ← expectText (value.get? "role") s!"{name}.role"
  let content ← expectText (value.get? "content") s!"{name}.content"
  let provenance ← parseProvenance (value.get? "provenance") s!"{name}.provenance"
  return { role, content, provenance }

def parseMessages (input : Option Json) : Except Thrown (List RunContextMessage) := do
  let messages ← expectArray input "RunContext.transientMessages"
  parseItems parseMessage "RunContext.transientMessages" 0 messages

def parseOptionalText (input : Option Json) (name : String) : Except Thrown (Option String) :=
  match input with
  | none => .ok none
  | some value => do
      let text ← expectText (some value) name
      return some text

/-- One call of `parsePendingToolCalls`.  The parent and the lane of the request are not
read. -/
def parsePendingToolCall (binding : RunContextBinding) (toolCall : Json) (name : String) :
    Except Thrown PendingToolCall := do
  let value ← expectRecord (some toolCall) name
  let workspaceId ← expectText (value.get? "workspaceId") s!"{name}.workspaceId"
  let channelId ← expectText (value.get? "channelId") s!"{name}.channelId"
  let runId ← expectText (value.get? "runId") s!"{name}.runId"
  let workerProfileId ← expectText (value.get? "workerProfileId") s!"{name}.workerProfileId"
  let toolName ← expectText (value.get? "name") s!"{name}.name"
  let input ← parseJsonValue (value.get? "input") s!"{name}.input"
  let effectKey ← parseOptionalText (value.get? "effectKey") s!"{name}.effectKey"
  let toolCallId ← expectText (value.get? "toolCallId") s!"{name}.toolCallId"
  let provenance ← parseProvenance (value.get? "provenance") s!"{name}.provenance"
  if workspaceId ≠ binding.workspaceId ∨ channelId ≠ binding.channelId ∨ runId ≠ binding.runId ∨
      workerProfileId ≠ binding.workerProfileId then
    .error (.schemaValidationError
      "RunContext pending Tool call must match its bound scope, Run, and Worker")
  else
    return { workspaceId, channelId, runId, workerProfileId, name := toolName, input, effectKey,
             toolCallId, provenance, parentRunId := none, parentEventId := none, laneId := none }

def parsePendingToolCalls (input : Option Json) (binding : RunContextBinding) :
    Except Thrown (List PendingToolCall) := do
  let toolCalls ← expectArray input "RunContext.pendingToolCalls"
  parseItems (parsePendingToolCall binding) "RunContext.pendingToolCalls" 0 toolCalls

def parseMemoryHit (memoryHit : Json) (name : String) : Except Thrown RunContextMemoryHit := do
  let value ← expectRecord (some memoryHit) name
  let memoryId ← expectText (value.get? "memoryId") s!"{name}.memoryId"
  let content ← expectText (value.get? "content") s!"{name}.content"
  let provenance ← parseProvenance (value.get? "provenance") s!"{name}.provenance"
  return { memoryId, content, provenance }

def parseMemoryHits (input : Option Json) : Except Thrown (List RunContextMemoryHit) := do
  let memoryHits ← expectArray input "RunContext.memoryHits"
  parseItems parseMemoryHit "RunContext.memoryHits" 0 memoryHits

def buildRunContext (input : Json) : Except Thrown RunContext := do
  let value ← expectRecord (some input) "RunContext"
  let workspaceId ← expectText (value.get? "workspaceId") "RunContext.workspaceId"
  let channelId ← expectText (value.get? "channelId") "RunContext.channelId"
  let runId ← expectText (value.get? "runId") "RunContext.runId"
  let workerProfileId ← expectText (value.get? "workerProfileId") "RunContext.workerProfileId"
  let binding : RunContextBinding := { workspaceId, channelId, runId, workerProfileId }
  let goal ← parseText (value.get? "goal") "RunContext.goal"
  let constraints ← expectArray (value.get? "constraints") "RunContext.constraints"
  let constraints ← parseItems (fun constraint name => parseText (some constraint) name)
    "RunContext.constraints" 0 constraints
  let transientMessages ← parseMessages (value.get? "transientMessages")
  let pendingToolCalls ← parsePendingToolCalls (value.get? "pendingToolCalls") binding
  let memoryHits ← parseMemoryHits (value.get? "memoryHits")
  return { toRunContextBinding := binding, goal, constraints, transientMessages,
           pendingToolCalls, memoryHits }

def RunContextProvenance.value (provenance : RunContextProvenance) : Json :=
  .obj [("source", .str provenance.source), ("sourceEventIds", .strs provenance.sourceEventIds)]

def RunContextText.value (text : RunContextText) : Json :=
  .obj [("content", .str text.content), ("provenance", text.provenance.value)]

def RunContextMessage.value (message : RunContextMessage) : Json :=
  .obj [("role", .str message.role), ("content", .str message.content),
    ("provenance", message.provenance.value)]

def PendingToolCall.fields (call : PendingToolCall) : List (String × Option Json) :=
  [("workspaceId", some (.str call.workspaceId)),
    ("channelId", some (.str call.channelId)), ("runId", some (.str call.runId)),
    ("workerProfileId", some (.str call.workerProfileId)), ("name", some (.str call.name)),
    ("input", some call.input), ("effectKey", call.effectKey.map Json.str),
    ("toolCallId", some (.str call.toolCallId)), ("parentRunId", call.parentRunId.map Json.str),
    ("parentEventId", call.parentEventId.map Json.str), ("laneId", call.laneId.map Json.str),
    ("provenance", some call.provenance.value)]

def PendingToolCall.value (call : PendingToolCall) : Json :=
  .ofFields call.fields

def RunContextMemoryHit.value (hit : RunContextMemoryHit) : Json :=
  .obj [("memoryId", .str hit.memoryId), ("content", .str hit.content),
    ("provenance", hit.provenance.value)]

def RunContext.value (context : RunContext) : Json :=
  .obj [("workspaceId", .str context.workspaceId), ("channelId", .str context.channelId),
    ("runId", .str context.runId), ("workerProfileId", .str context.workerProfileId),
    ("goal", context.goal.value), ("constraints", .arr (context.constraints.map (·.value))),
    ("transientMessages", .arr (context.transientMessages.map (·.value))),
    ("pendingToolCalls", .arr (context.pendingToolCalls.map (·.value))),
    ("memoryHits", .arr (context.memoryHits.map (·.value)))]

/-- `[...new Set(items)]`. -/
def uniqueStrings (items : List String) : List String :=
  items.foldl (fun seen item => if item ∈ seen then seen else seen ++ [item]) []

def RunContext.allSourceEventIds (context : RunContext) : List String :=
  context.goal.provenance.sourceEventIds ++
    context.constraints.flatMap (fun constraint => constraint.provenance.sourceEventIds) ++
    context.transientMessages.flatMap (fun message => message.provenance.sourceEventIds) ++
    context.pendingToolCalls.flatMap (fun toolCall => toolCall.provenance.sourceEventIds) ++
    context.memoryHits.flatMap (fun memoryHit => memoryHit.provenance.sourceEventIds)

def summaryMessage (sourceEventIds : List String) (summary : String) : RunContextMessage :=
  { role := "summary", content := summary
    provenance := { source := "compaction", sourceEventIds } }

def compactRunContext (context : RunContext) (summary : String) : Except Thrown RunContext := do
  let content ← expectNonEmptyString summary "RunContextSummary.summary"
  buildRunContext ({ context with
    transientMessages := [summaryMessage (uniqueStrings context.allSourceEventIds) content] }
      : RunContext).value

/-! ### What is read back -/

def NotBlank (text : String) : Prop :=
  text.toList.all isSpace = false

instance (text : String) : Decidable (NotBlank text) :=
  inferInstanceAs (Decidable (text.toList.all isSpace = false))

variable {name summary : String} {context : RunContext}

theorem expectNonEmptyString_ok {text result : String} :
    expectNonEmptyString text name = .ok result ↔ NotBlank text ∧ result = text := by
  constructor
  · intro parsed
    exact ⟨notBlank_of_parsed parsed, expectNonEmptyString_eq parsed⟩
  · rintro ⟨notBlank, same⟩
    rw [same]
    exact parsed_of_notBlank name notBlank

theorem expectText_ok {text result : String} :
    expectText (some (.str text)) name = .ok result ↔ NotBlank text ∧ result = text :=
  expectNonEmptyString_ok

theorem bind_reads {α β : Type} {step : Except Thrown α} {rest : α → Except Thrown β}
    {sound : Prop} {read : α} {result : β}
    (reads : ∀ {value}, step = .ok value ↔ sound ∧ value = read) :
    step >>= rest = .ok result ↔ sound ∧ rest read = .ok result := by
  rw [bind_ok_iff]
  constructor
  · rintro ⟨value, isRead, done⟩
    rcases reads.mp isRead with ⟨isSound, same⟩
    rw [same] at done
    exact ⟨isSound, done⟩
  · rintro ⟨isSound, done⟩
    exact ⟨read, reads.mpr ⟨isSound, rfl⟩, done⟩

theorem parseItems_ok {α β : Type} {parse : Json → String → Except Thrown β} {write : α → Json}
    {Sound : α → Prop} {read : α → β}
    (parses : ∀ item name result,
      parse (write item) name = .ok result ↔ Sound item ∧ result = read item)
    (name : String) (index : Nat) (items : List α) {results : List β} :
    parseItems parse name index (items.map write) = .ok results ↔
      (∀ item ∈ items, Sound item) ∧ results = items.map read := by
  induction items generalizing index results with
  | nil =>
    constructor
    · intro parsed
      cases parsed
      exact ⟨nofun, rfl⟩
    · rintro ⟨_, same⟩
      rw [same]
      rfl
  | cons item rest ih =>
    rw [List.map_cons, parseItems, bind_reads (parses _ _ _), bind_reads (ih _),
      List.forall_mem_cons, and_assoc]
    refine and_congr_right (fun _ => and_congr_right (fun _ => ?_))
    constructor
    · intro same
      cases same
      rfl
    · intro same
      rw [same]
      rfl

structure RunContextProvenance.Sound (provenance : RunContextProvenance) : Prop where
  source : NotBlank provenance.source
  nonempty : provenance.sourceEventIds ≠ []
  ids : ∀ eventId ∈ provenance.sourceEventIds, NotBlank eventId

structure RunContextText.Sound (text : RunContextText) : Prop where
  content : NotBlank text.content
  provenance : text.provenance.Sound

structure RunContextMessage.Sound (message : RunContextMessage) : Prop where
  role : NotBlank message.role
  text : message.toRunContextText.Sound

structure RunContextMemoryHit.Sound (hit : RunContextMemoryHit) : Prop where
  memoryId : NotBlank hit.memoryId
  text : hit.toRunContextText.Sound

structure PendingToolCall.Sound (binding : RunContextBinding) (call : PendingToolCall) : Prop where
  workspaceId : NotBlank call.workspaceId ∧ call.workspaceId = binding.workspaceId
  channelId : NotBlank call.channelId ∧ call.channelId = binding.channelId
  runId : NotBlank call.runId ∧ call.runId = binding.runId
  workerProfileId : NotBlank call.workerProfileId ∧ call.workerProfileId = binding.workerProfileId
  name : NotBlank call.name
  effectKey : ∀ key, call.effectKey = some key → NotBlank key
  toolCallId : NotBlank call.toolCallId
  provenance : call.provenance.Sound

/-- A call without the attribution of its request. -/
def PendingToolCall.unattributed (call : PendingToolCall) : PendingToolCall :=
  { call with parentRunId := none, parentEventId := none, laneId := none }

theorem parseProvenance_ok {provenance : RunContextProvenance} {result : RunContextProvenance} :
    parseProvenance (some provenance.value) name = .ok result ↔
      provenance.Sound ∧ result = provenance := by
  have ids : ∀ eventId name result,
      (fun eventId name => expectText (some eventId) name) (Json.str eventId) name = .ok result ↔
        NotBlank eventId ∧ result = id eventId :=
    fun _ _ _ => expectText_ok
  change (if (provenance.sourceEventIds.map Json.str).isEmpty = true then _ else _) = _ ↔ _
  by_cases empty : provenance.sourceEventIds = []
  · rw [empty]
    change Except.error _ = _ ↔ _
    constructor
    · intro impossible
      cases impossible
    · rintro ⟨sound, _⟩
      exact absurd empty sound.nonempty
  · rw [if_neg (by simp [empty])]
    change (expectText (some (.str provenance.source)) _ >>= _) = _ ↔ _
    rw [bind_reads expectText_ok, bind_reads (parseItems_ok ids _ _ _), List.map_id]
    constructor
    · rintro ⟨source, sounds, same⟩
      cases same
      exact ⟨⟨source, empty, sounds⟩, rfl⟩
    · rintro ⟨sound, same⟩
      rw [same]
      exact ⟨sound.source, sound.ids, rfl⟩

theorem parseText_ok {text : RunContextText} {result : RunContextText} :
    parseText (some text.value) name = .ok result ↔ text.Sound ∧ result = text := by
  change (expectText (some (.str text.content)) _ >>= _) = _ ↔ _
  rw [bind_reads expectText_ok]
  change _ ∧ (parseProvenance (some text.provenance.value) _ >>= _) = _ ↔ _
  rw [bind_reads parseProvenance_ok]
  constructor
  · rintro ⟨content, provenance, same⟩
    cases same
    exact ⟨⟨content, provenance⟩, rfl⟩
  · rintro ⟨sound, same⟩
    rw [same]
    exact ⟨sound.content, sound.provenance, rfl⟩

theorem parseMessage_ok (message : RunContextMessage) (name : String) (result : RunContextMessage) :
    parseMessage message.value name = .ok result ↔ message.Sound ∧ result = id message := by
  change (expectText (some (.str message.role)) _ >>= _) = _ ↔ _
  rw [bind_reads expectText_ok]
  change _ ∧ (expectText (some (.str message.content)) _ >>= _) = _ ↔ _
  rw [bind_reads expectText_ok]
  change _ ∧ _ ∧ (parseProvenance (some message.provenance.value) _ >>= _) = _ ↔ _
  rw [bind_reads parseProvenance_ok]
  constructor
  · rintro ⟨role, content, provenance, same⟩
    cases same
    exact ⟨⟨role, content, provenance⟩, rfl⟩
  · rintro ⟨sound, same⟩
    rw [same]
    exact ⟨sound.role, sound.text.content, sound.text.provenance, rfl⟩

theorem parseMemoryHit_ok (hit : RunContextMemoryHit) (name : String)
    (result : RunContextMemoryHit) :
    parseMemoryHit hit.value name = .ok result ↔ hit.Sound ∧ result = id hit := by
  change (expectText (some (.str hit.memoryId)) _ >>= _) = _ ↔ _
  rw [bind_reads expectText_ok]
  change _ ∧ (expectText (some (.str hit.content)) _ >>= _) = _ ↔ _
  rw [bind_reads expectText_ok]
  change _ ∧ _ ∧ (parseProvenance (some hit.provenance.value) _ >>= _) = _ ↔ _
  rw [bind_reads parseProvenance_ok]
  constructor
  · rintro ⟨memoryId, content, provenance, same⟩
    cases same
    exact ⟨⟨memoryId, content, provenance⟩, rfl⟩
  · rintro ⟨sound, same⟩
    rw [same]
    exact ⟨sound.memoryId, sound.text.content, sound.text.provenance, rfl⟩

theorem parseOptionalText_ok {text : Option String} {result : Option String} :
    parseOptionalText (text.map Json.str) name = .ok result ↔
      (∀ value, text = some value → NotBlank value) ∧ result = text := by
  cases text with
  | none =>
    constructor
    · intro parsed
      cases parsed
      exact ⟨fun _ impossible => (by cases impossible), rfl⟩
    · rintro ⟨_, same⟩
      rw [same]
      rfl
  | some text =>
    constructor
    · intro parsed
      rcases bind_ok_iff.mp parsed with ⟨value, isValue, same⟩
      rcases expectText_ok.mp isValue with ⟨notBlank, isText⟩
      cases same
      rw [isText]
      refine ⟨?_, rfl⟩
      intro other isOther
      cases isOther
      exact notBlank
    · rintro ⟨notBlank, same⟩
      apply bind_ok_iff.mpr
      refine ⟨text, expectText_ok.mpr ⟨notBlank text rfl, rfl⟩, ?_⟩
      rw [same]
      rfl

theorem PendingToolCall.value_get? (call : PendingToolCall) :
    call.value.get? "workspaceId" = some (.str call.workspaceId) ∧
      call.value.get? "channelId" = some (.str call.channelId) ∧
      call.value.get? "runId" = some (.str call.runId) ∧
      call.value.get? "workerProfileId" = some (.str call.workerProfileId) ∧
      call.value.get? "name" = some (.str call.name) ∧
      call.value.get? "input" = some call.input ∧
      call.value.get? "effectKey" = call.effectKey.map Json.str ∧
      call.value.get? "toolCallId" = some (.str call.toolCallId) ∧
      call.value.get? "provenance" = some call.provenance.value := by
  have distinct : (call.fields.map Prod.fst).Nodup := by
    change ["workspaceId", "channelId", "runId", "workerProfileId", "name", "input", "effectKey",
      "toolCallId", "parentRunId", "parentEventId", "laneId", "provenance"].Nodup
    decide
  have read : ∀ key, call.value.get? key = (call.fields.lookup key).join :=
    Json.get?_ofFields distinct
  exact ⟨read _, read _, read _, read _, read _, read _, read _, read _, read _⟩

theorem parsePendingToolCall_ok (binding : RunContextBinding) (call : PendingToolCall)
    (name : String) (result : PendingToolCall) :
    parsePendingToolCall binding call.value name = .ok result ↔
      call.Sound binding ∧ result = call.unattributed := by
  rcases call.value_get? with ⟨getWorkspace, getChannel, getRun, getWorker, getName, getInput,
    getKey, getCall, getProvenance⟩
  have isRecord : expectRecord (some call.value) name = .ok call.value := rfl
  have isInput : ∀ {value}, parseJsonValue (some call.input) s!"{name}.input" = .ok value ↔
      True ∧ value = call.input := by
    intro value
    rw [true_and]
    exact ⟨fun same => (Except.ok.inj same).symm, fun same => congrArg Except.ok same.symm⟩
  unfold parsePendingToolCall
  rw [isRecord]
  change (expectText (call.value.get? "workspaceId") _ >>= _) = _ ↔ _
  rw [getWorkspace, getChannel, getRun, getWorker, getName, getInput, getKey, getCall,
    getProvenance, bind_reads expectText_ok, bind_reads expectText_ok, bind_reads expectText_ok,
    bind_reads expectText_ok, bind_reads expectText_ok, bind_reads isInput,
    bind_reads parseOptionalText_ok, bind_reads expectText_ok, bind_reads parseProvenance_ok]
  constructor
  · rintro ⟨workspaceId, channelId, runId, workerProfileId, named, _, effectKey, toolCallId,
      provenance, parsed⟩
    split at parsed
    · cases parsed
    · rename_i bound
      rw [not_or, not_or, not_or, not_not, not_not, not_not, not_not] at bound
      cases parsed
      exact ⟨⟨⟨workspaceId, bound.1⟩, ⟨channelId, bound.2.1⟩, ⟨runId, bound.2.2.1⟩,
        ⟨workerProfileId, bound.2.2.2⟩, named, effectKey, toolCallId, provenance⟩, rfl⟩
  · rintro ⟨sound, same⟩
    refine ⟨sound.workspaceId.1, sound.channelId.1, sound.runId.1, sound.workerProfileId.1,
      sound.name, trivial, sound.effectKey, sound.toolCallId, sound.provenance, ?_⟩
    rw [if_neg]
    · rw [same]
      rfl
    · rw [not_or, not_or, not_or, not_not, not_not, not_not, not_not]
      exact ⟨sound.workspaceId.2, sound.channelId.2, sound.runId.2, sound.workerProfileId.2⟩

structure RunContextBinding.Sound (binding : RunContextBinding) : Prop where
  workspaceId : NotBlank binding.workspaceId
  channelId : NotBlank binding.channelId
  runId : NotBlank binding.runId
  workerProfileId : NotBlank binding.workerProfileId

structure RunContext.Sound (context : RunContext) : Prop where
  binding : context.toRunContextBinding.Sound
  goal : context.goal.Sound
  constraints : ∀ constraint ∈ context.constraints, constraint.Sound
  messages : ∀ message ∈ context.transientMessages, message.Sound
  toolCalls : ∀ call ∈ context.pendingToolCalls, call.Sound context.toRunContextBinding
  memoryHits : ∀ hit ∈ context.memoryHits, hit.Sound

theorem buildRunContext_ok {result : RunContext} :
    buildRunContext context.value = .ok result ↔ context.Sound ∧ result =
      { context with
        pendingToolCalls := context.pendingToolCalls.map PendingToolCall.unattributed } := by
  have texts : ∀ (text : RunContextText) name result,
      (fun constraint name => parseText (some constraint) name) text.value name = .ok result ↔
        text.Sound ∧ result = id text :=
    fun _ _ _ => parseText_ok
  change (expectText (some (.str context.workspaceId)) _ >>= _) = _ ↔ _
  rw [bind_reads expectText_ok]
  change _ ∧ (expectText (some (.str context.channelId)) _ >>= _) = _ ↔ _
  rw [bind_reads expectText_ok]
  change _ ∧ _ ∧ (expectText (some (.str context.runId)) _ >>= _) = _ ↔ _
  rw [bind_reads expectText_ok]
  change _ ∧ _ ∧ _ ∧ (expectText (some (.str context.workerProfileId)) _ >>= _) = _ ↔ _
  rw [bind_reads expectText_ok]
  change _ ∧ _ ∧ _ ∧ _ ∧ (parseText (some context.goal.value) _ >>= _) = _ ↔ _
  rw [bind_reads parseText_ok]
  change _ ∧ _ ∧ _ ∧ _ ∧ _ ∧ (parseItems _ _ 0 (context.constraints.map (·.value)) >>= _) = _ ↔ _
  rw [bind_reads (parseItems_ok texts _ _ _)]
  change _ ∧ _ ∧ _ ∧ _ ∧ _ ∧ _ ∧
    (parseItems parseMessage _ 0 (context.transientMessages.map (·.value)) >>= _) = _ ↔ _
  rw [bind_reads (parseItems_ok parseMessage_ok _ _ _)]
  change _ ∧ _ ∧ _ ∧ _ ∧ _ ∧ _ ∧ _ ∧
    (parseItems (parsePendingToolCall context.toRunContextBinding) _ 0
      (context.pendingToolCalls.map (·.value)) >>= _) = _ ↔ _
  rw [bind_reads (parseItems_ok (parsePendingToolCall_ok _) _ _ _)]
  change _ ∧ _ ∧ _ ∧ _ ∧ _ ∧ _ ∧ _ ∧ _ ∧
    (parseItems parseMemoryHit _ 0 (context.memoryHits.map (·.value)) >>= _) = _ ↔ _
  rw [bind_reads (parseItems_ok parseMemoryHit_ok _ _ _), List.map_id, List.map_id, List.map_id]
  constructor
  · rintro ⟨workspaceId, channelId, runId, workerProfileId, goal, constraints, messages, calls,
      hits, same⟩
    cases same
    exact ⟨⟨⟨workspaceId, channelId, runId, workerProfileId⟩, goal, constraints, messages, calls,
      hits⟩, rfl⟩
  · rintro ⟨sound, same⟩
    rw [same]
    exact ⟨sound.binding.workspaceId, sound.binding.channelId, sound.binding.runId,
      sound.binding.workerProfileId, sound.goal, sound.constraints, sound.messages,
      sound.toolCalls, sound.memoryHits, rfl⟩

/-! ### One compaction -/

theorem mem_unique_from {item : String} (items seen : List String) :
    item ∈ items.foldl (fun seen item => if item ∈ seen then seen else seen ++ [item]) seen ↔
      item ∈ seen ∨ item ∈ items := by
  induction items generalizing seen with
  | nil => simp
  | cons first rest ih =>
    rw [List.foldl_cons, ih, List.mem_cons]
    by_cases present : first ∈ seen
    · rw [if_pos present]
      constructor
      · rintro (inSeen | inRest)
        · exact Or.inl inSeen
        · exact Or.inr (Or.inr inRest)
      · rintro (inSeen | isFirst | inRest)
        · exact Or.inl inSeen
        · rw [isFirst]
          exact Or.inl present
        · exact Or.inr inRest
    · rw [if_neg present, List.mem_append, List.mem_singleton, or_assoc]

theorem mem_uniqueStrings {item : String} {items : List String} :
    item ∈ uniqueStrings items ↔ item ∈ items := by
  unfold uniqueStrings
  rw [mem_unique_from]
  simp

structure RunContext.Compactable (context : RunContext) : Prop where
  binding : context.toRunContextBinding.Sound
  goal : context.goal.Sound
  constraints : ∀ constraint ∈ context.constraints, constraint.Sound
  messageIds : ∀ message ∈ context.transientMessages,
    ∀ eventId ∈ message.provenance.sourceEventIds, NotBlank eventId
  toolCalls : ∀ call ∈ context.pendingToolCalls, call.Sound context.toRunContextBinding
  memoryHits : ∀ hit ∈ context.memoryHits, hit.Sound

def RunContext.compacted (context : RunContext) (summary : String) : RunContext :=
  { context with
    transientMessages := [summaryMessage (uniqueStrings context.allSourceEventIds) summary]
    pendingToolCalls := context.pendingToolCalls.map PendingToolCall.unattributed }

theorem RunContext.mem_allSourceEventIds {eventId : String} :
    eventId ∈ context.allSourceEventIds ↔
      eventId ∈ context.goal.provenance.sourceEventIds ∨
      (∃ constraint ∈ context.constraints, eventId ∈ constraint.provenance.sourceEventIds) ∨
      (∃ message ∈ context.transientMessages, eventId ∈ message.provenance.sourceEventIds) ∨
      (∃ call ∈ context.pendingToolCalls, eventId ∈ call.provenance.sourceEventIds) ∨
      ∃ hit ∈ context.memoryHits, eventId ∈ hit.provenance.sourceEventIds := by
  unfold allSourceEventIds
  rw [List.mem_append, List.mem_append, List.mem_append, List.mem_append, List.mem_flatMap,
    List.mem_flatMap, List.mem_flatMap, List.mem_flatMap, or_assoc, or_assoc, or_assoc]

theorem RunContext.Compactable.summarySound (compactable : context.Compactable)
    (notBlank : NotBlank summary) :
    (summaryMessage (uniqueStrings context.allSourceEventIds) summary).Sound := by
  have role : NotBlank "summary" := by decide
  have source : NotBlank "compaction" := by decide
  refine ⟨role, notBlank, ⟨source, ?_, ?_⟩⟩
  · intro empty
    cases isGoal : context.goal.provenance.sourceEventIds with
    | nil => exact compactable.goal.provenance.nonempty isGoal
    | cons eventId rest =>
      have listed : eventId ∈ uniqueStrings context.allSourceEventIds := by
        apply mem_uniqueStrings.mpr
        apply mem_allSourceEventIds.mpr
        rw [isGoal]
        exact Or.inl List.mem_cons_self
      change uniqueStrings context.allSourceEventIds = [] at empty
      rw [empty] at listed
      cases listed
  · intro eventId listed
    rcases mem_allSourceEventIds.mp (mem_uniqueStrings.mp listed) with
      inGoal | inConstraint | inMessage | inCall | inHit
    · exact compactable.goal.provenance.ids eventId inGoal
    · rcases inConstraint with ⟨constraint, member, inIds⟩
      exact (compactable.constraints constraint member).provenance.ids eventId inIds
    · rcases inMessage with ⟨message, member, inIds⟩
      exact compactable.messageIds message member eventId inIds
    · rcases inCall with ⟨call, member, inIds⟩
      exact (compactable.toolCalls call member).provenance.ids eventId inIds
    · rcases inHit with ⟨hit, member, inIds⟩
      exact (compactable.memoryHits hit member).text.provenance.ids eventId inIds

theorem compactRunContext_ok {result : RunContext} :
    compactRunContext context summary = .ok result ↔
      NotBlank summary ∧ context.Compactable ∧ result = context.compacted summary := by
  constructor
  · intro compacted
    rcases bind_ok_iff.mp compacted with ⟨content, isContent, built⟩
    rcases expectNonEmptyString_ok.mp isContent with ⟨notBlank, same⟩
    rcases buildRunContext_ok.mp built with ⟨sound, isResult⟩
    refine ⟨notBlank, ⟨sound.binding, sound.goal, sound.constraints, ?_, sound.toolCalls,
      sound.memoryHits⟩, ?_⟩
    · intro message member eventId inIds
      apply (sound.messages _ List.mem_cons_self).text.provenance.ids
      apply mem_uniqueStrings.mpr
      apply RunContext.mem_allSourceEventIds.mpr
      exact Or.inr (Or.inr (Or.inl ⟨message, member, inIds⟩))
    · rw [isResult, same]
      rfl
  · rintro ⟨notBlank, compactable, same⟩
    apply bind_ok_iff.mpr
    refine ⟨summary, expectNonEmptyString_ok.mpr ⟨notBlank, rfl⟩, ?_⟩
    apply buildRunContext_ok.mpr
    refine ⟨⟨compactable.binding, compactable.goal, compactable.constraints, ?_,
      compactable.toolCalls, compactable.memoryHits⟩, same⟩
    intro message member
    rw [List.mem_singleton.mp member]
    exact compactable.summarySound notBlank

theorem PendingToolCall.Sound.unattributed {binding : RunContextBinding} {call : PendingToolCall}
    (sound : call.Sound binding) : call.unattributed.Sound binding :=
  ⟨sound.workspaceId, sound.channelId, sound.runId, sound.workerProfileId, sound.name,
    sound.effectKey, sound.toolCallId, sound.provenance⟩

theorem RunContext.Compactable.compacted (compactable : context.Compactable)
    (notBlank : NotBlank summary) : (context.compacted summary).Compactable := by
  refine ⟨compactable.binding, compactable.goal, compactable.constraints, ?_, ?_,
    compactable.memoryHits⟩
  · intro message member
    rw [List.mem_singleton.mp member]
    exact (compactable.summarySound notBlank).text.provenance.ids
  · intro call member
    rcases List.mem_map.mp member with ⟨original, isOriginal, same⟩
    rw [← same]
    exact (compactable.toolCalls original isOriginal).unattributed

structure RunContext.CompactedTo (context after : RunContext) : Prop where
  binding : after.toRunContextBinding = context.toRunContextBinding
  goal : after.goal = context.goal
  constraints : after.constraints = context.constraints
  memoryHits : after.memoryHits = context.memoryHits
  toolCalls : after.pendingToolCalls = context.pendingToolCalls.map PendingToolCall.unattributed
  message : ∃ message, after.transientMessages = [message] ∧
    ∀ eventId, eventId ∈ message.provenance.sourceEventIds ↔ eventId ∈ context.allSourceEventIds

theorem RunContext.compacted_compactedTo (context : RunContext) (summary : String) :
    context.CompactedTo (context.compacted summary) :=
  ⟨rfl, rfl, rfl, rfl, rfl, _, rfl, fun _ => mem_uniqueStrings⟩

theorem RunContext.allSourceEventIds_compacted (context : RunContext) (summary eventId : String) :
    eventId ∈ (context.compacted summary).allSourceEventIds ↔
      eventId ∈ context.allSourceEventIds := by
  constructor
  · intro listed
    rcases mem_allSourceEventIds.mp listed with
      inGoal | inConstraint | inMessage | inCall | inHit
    · exact mem_allSourceEventIds.mpr (Or.inl inGoal)
    · exact mem_allSourceEventIds.mpr (Or.inr (Or.inl inConstraint))
    · rcases inMessage with ⟨message, member, inIds⟩
      rw [List.mem_singleton.mp member] at inIds
      exact mem_uniqueStrings.mp inIds
    · rcases inCall with ⟨call, member, inIds⟩
      rcases List.mem_map.mp member with ⟨original, isOriginal, same⟩
      rw [← same] at inIds
      exact mem_allSourceEventIds.mpr
        (Or.inr (Or.inr (Or.inr (Or.inl ⟨original, isOriginal, inIds⟩))))
    · exact mem_allSourceEventIds.mpr (Or.inr (Or.inr (Or.inr (Or.inr inHit))))
  · intro listed
    apply mem_allSourceEventIds.mpr
    exact Or.inr (Or.inr (Or.inl ⟨_, List.mem_singleton.mpr rfl, mem_uniqueStrings.mpr listed⟩))

theorem RunContext.CompactedTo.of_compacted {after : RunContext}
    (later : (context.compacted summary).CompactedTo after) : context.CompactedTo after := by
  rcases later.message with ⟨message, isMessage, ids⟩
  refine ⟨later.binding, later.goal, later.constraints, later.memoryHits, ?_, message, isMessage,
    ?_⟩
  · rw [later.toolCalls]
    change (context.pendingToolCalls.map _).map _ = _
    rw [List.map_map]
    rfl
  · intro eventId
    rw [ids, allSourceEventIds_compacted]

def compactRepeatedly (context : RunContext) (summaries : List String) :
    Except Thrown RunContext :=
  summaries.foldlM compactRunContext context

theorem compactRepeatedly_cons (context : RunContext) (summary : String)
    (later : List String) : compactRepeatedly context (summary :: later) =
      compactRunContext context summary >>= fun next => compactRepeatedly next later :=
  rfl

theorem compactRepeatedly_ok (context : RunContext) (summary : String) (later : List String) :
    (∃ after, compactRepeatedly context (summary :: later) = .ok after) ↔
      context.Compactable ∧ ∀ text ∈ summary :: later, NotBlank text := by
  induction later generalizing context summary with
  | nil =>
    rw [compactRepeatedly_cons]
    constructor
    · rintro ⟨after, done⟩
      rcases bind_ok_iff.mp done with ⟨next, compacted, _⟩
      rcases compactRunContext_ok.mp compacted with ⟨notBlank, compactable, _⟩
      refine ⟨compactable, ?_⟩
      intro text member
      rw [List.mem_singleton.mp member]
      exact notBlank
    · rintro ⟨compactable, notBlank⟩
      refine ⟨context.compacted summary, bind_ok_iff.mpr ⟨_, compactRunContext_ok.mpr
        ⟨notBlank summary List.mem_cons_self, compactable, rfl⟩, rfl⟩⟩
  | cons second rest ih =>
    rw [compactRepeatedly_cons]
    constructor
    · rintro ⟨after, done⟩
      rcases bind_ok_iff.mp done with ⟨next, compacted, remaining⟩
      rcases compactRunContext_ok.mp compacted with ⟨notBlank, compactable, _⟩
      have others := ((ih next second).mp ⟨after, remaining⟩).2
      refine ⟨compactable, ?_⟩
      intro text member
      rcases List.mem_cons.mp member with isFirst | inLater
      · rw [isFirst]
        exact notBlank
      · exact others text inLater
    · rintro ⟨compactable, notBlank⟩
      have first := notBlank summary List.mem_cons_self
      rcases (ih (context.compacted summary) second).mpr ⟨compactable.compacted first,
        fun text member => notBlank text (List.mem_cons_of_mem _ member)⟩ with ⟨after, done⟩
      exact ⟨after, bind_ok_iff.mpr ⟨_, compactRunContext_ok.mpr ⟨first, compactable, rfl⟩, done⟩⟩

theorem compactRepeatedly_compactedTo {after : RunContext} {later : List String}
    (done : compactRepeatedly context (summary :: later) = .ok after) :
    context.CompactedTo after := by
  induction later generalizing context summary with
  | nil =>
    rw [compactRepeatedly_cons] at done
    rcases bind_ok_iff.mp done with ⟨next, compacted, same⟩
    rcases compactRunContext_ok.mp compacted with ⟨_, _, isNext⟩
    cases same
    rw [isNext]
    exact context.compacted_compactedTo summary
  | cons second rest ih =>
    rw [compactRepeatedly_cons] at done
    rcases bind_ok_iff.mp done with ⟨next, compacted, remaining⟩
    rcases compactRunContext_ok.mp compacted with ⟨_, _, isNext⟩
    have later := ih remaining
    rw [isNext] at later
    exact later.of_compacted

/-- What compactions must keep: the whole context but its messages, and the sources. -/
structure RunContext.KeptBy (context after : RunContext) : Prop where
  binding : after.toRunContextBinding = context.toRunContextBinding
  goal : after.goal = context.goal
  constraints : after.constraints = context.constraints
  memoryHits : after.memoryHits = context.memoryHits
  toolCalls : after.pendingToolCalls = context.pendingToolCalls
  message : ∃ message, after.transientMessages = [message] ∧
    ∀ eventId, eventId ∈ message.provenance.sourceEventIds ↔ eventId ∈ context.allSourceEventIds

def PendingToolCall.Unattributed (call : PendingToolCall) : Prop :=
  call.parentRunId = none ∧ call.parentEventId = none ∧ call.laneId = none

theorem PendingToolCall.unattributed_eq_iff (call : PendingToolCall) :
    call.unattributed = call ↔ call.Unattributed := by
  constructor
  · intro same
    rw [← same]
    exact ⟨rfl, rfl, rfl⟩
  · rintro ⟨noRun, noEvent, noLane⟩
    rcases call with ⟨⟨_, ⟨_, _, _⟩, _, _, _, _, _, _⟩, _⟩
    cases noRun
    cases noEvent
    cases noLane
    rfl

theorem unattributed_map_eq_iff (calls : List PendingToolCall) :
    calls.map PendingToolCall.unattributed = calls ↔ ∀ call ∈ calls, call.Unattributed := by
  constructor
  · intro same call member
    apply call.unattributed_eq_iff.mp
    exact List.map_inj_left.mp (same.trans (List.map_id calls).symm) call member
  · intro unattributed
    rw [← List.map_id calls, List.map_map]
    apply List.map_inj_left.mpr
    intro call member
    exact call.unattributed_eq_iff.mpr (unattributed call member)

/-- Compactions keep a context exactly when it can be compacted, the summaries are not
blank and no pending call names a parent or a lane. -/
theorem compaction_keeps_iff (context : RunContext) (summary : String) (later : List String) :
    (∃ after, compactRepeatedly context (summary :: later) = .ok after ∧ context.KeptBy after) ↔
      context.Compactable ∧ (∀ text ∈ summary :: later, NotBlank text) ∧
        ∀ call ∈ context.pendingToolCalls, call.Unattributed := by
  constructor
  · rintro ⟨after, done, kept⟩
    rcases (compactRepeatedly_ok context summary later).mp ⟨after, done⟩ with
      ⟨compactable, notBlank⟩
    refine ⟨compactable, notBlank, (unattributed_map_eq_iff _).mp ?_⟩
    exact (compactRepeatedly_compactedTo done).toolCalls.symm.trans kept.toolCalls
  · rintro ⟨compactable, notBlank, unattributed⟩
    rcases (compactRepeatedly_ok context summary later).mpr ⟨compactable, notBlank⟩ with
      ⟨after, done⟩
    have compacted := compactRepeatedly_compactedTo done
    refine ⟨after, done, compacted.binding, compacted.goal, compacted.constraints,
      compacted.memoryHits, ?_, compacted.message⟩
    rw [compacted.toolCalls]
    exact (unattributed_map_eq_iff _).mpr unattributed

def sampleProvenance (eventId : String) : RunContextProvenance :=
  { source := "channel-message", sourceEventIds := [eventId] }

def childCallContext : RunContext :=
  { workspaceId := "workspace", channelId := "channel", runId := "run"
    workerProfileId := "worker"
    goal := { content := "goal", provenance := sampleProvenance "event-goal" }
    constraints := []
    transientMessages := []
    pendingToolCalls :=
      [{ workspaceId := "workspace", channelId := "channel", runId := "run"
         workerProfileId := "worker", name := "bounded_patch", input := .null
         effectKey := none, toolCallId := "tool-call", parentRunId := some "parent-run"
         parentEventId := none, laneId := none
         provenance := sampleProvenance "event-tool" }]
    memoryHits := [] }

theorem childCallContext_built :
    compactRunContext childCallContext "summary" = .ok (childCallContext.compacted "summary") := by
  decide +kernel

/-- The pending call comes back without its parent run. -/
theorem compaction_drops_parent :
    ¬ ∀ (context after : RunContext) (summary : String),
      compactRunContext context summary = .ok after → context.KeptBy after := by
  intro keeps
  have kept := (keeps childCallContext _ "summary" childCallContext_built).toolCalls
  revert kept
  decide +kernel

end AnnaAgent.Harness
