/-
The effect ledger after an effect is settled.

The transition table keeps a settled status, and the checks before it keep what the
effect is about; the upsert writes the result of every accepted call.
-/

import AnnaAgent.Execution.System

namespace AnnaAgent.Execution

open Foundation

variable {status : ToolEffectStatus}

namespace ToolEffectStatus

def text : ToolEffectStatus → String
  | pending => "pending"
  | unknown => "unknown"
  | succeeded => "succeeded"
  | failed => "failed"

/-- A status of `_TOOL_EFFECT_STATUSES` by its text. -/
def ofText? (text : String) : Option ToolEffectStatus :=
  [pending, unknown, succeeded, failed].find? (fun status => decide (status.text = text))

def isFinal : ToolEffectStatus → Bool
  | pending | unknown => false
  | succeeded | failed => true

theorem mayBecome_of_final {next : ToolEffectStatus} (final : status.isFinal = true) :
    status.mayBecome next = true ↔ next = status := by
  cases status with
  | pending => cases final
  | unknown => cases final
  | succeeded =>
    cases next with
    | succeeded => exact ⟨fun _ => rfl, fun _ => rfl⟩
    | pending | unknown | failed => exact ⟨fun may => (by cases may), fun same => (by cases same)⟩
  | failed =>
    cases next with
    | failed => exact ⟨fun _ => rfl, fun _ => rfl⟩
    | pending | unknown | succeeded =>
      exact ⟨fun may => (by cases may), fun same => (by cases same)⟩

end ToolEffectStatus

structure EffectCall where
  env : Env
  executionId : ExecutionId
  effectKey : EffectKey
  toolName : String
  requestHash : String
  status : String
  result : Option JsonObject

def EffectCall.perform (call : EffectCall) (db : Db) : Except StoreError Unit × Db :=
  match ToolEffectStatus.ofText? call.status with
  | none => (.error (.valueError ("invalid tool effect status: " ++ call.status)), db)
  | some status =>
    atomically
      (Db.recordToolEffect call.env call.executionId call.effectKey call.toolName
        call.requestHash status call.result) db

def recordEffects (calls : List EffectCall) (db : Db) : Db :=
  calls.foldl (fun db call => (call.perform db).2) db

/-- What a row records beside its times. -/
structure RecordedEffect where
  executionId : ExecutionId
  toolName : String
  requestHash : String
  status : ToolEffectStatus
  result : Option JsonObject

def ToolEffectRow.recorded (row : ToolEffectRow) : RecordedEffect :=
  { executionId := row.executionId
    toolName := row.toolName
    requestHash := row.requestHash
    status := row.status
    result := row.result }

def Db.recordedEffect (db : Db) (effectKey : EffectKey) : Option RecordedEffect :=
  (db.toolEffects.find? effectKey).map ToolEffectRow.recorded

/-- A call that says again what is recorded, whatever its result. -/
def EffectCall.repeats (call : EffectCall) (effectKey : EffectKey) (effect : RecordedEffect) : Prop :=
  call.effectKey = effectKey ∧ call.executionId = effect.executionId ∧
    call.toolName = effect.toolName ∧ call.requestHash = effect.requestHash ∧
      ToolEffectStatus.ofText? call.status = some effect.status

instance (call : EffectCall) (effectKey : EffectKey) (effect : RecordedEffect) :
    Decidable (call.repeats effectKey effect) := by
  unfold EffectCall.repeats
  infer_instance

def EffectCall.settle (call : EffectCall) (effectKey : EffectKey) (effect : RecordedEffect) :
    RecordedEffect :=
  if call.repeats effectKey effect then { effect with result := call.result } else effect

variable {db : Db}

theorem EffectCall.perform_error {call : EffectCall} {error : StoreError}
    (rejected : (call.perform db).1 = .error error) : (call.perform db).2 = db := by
  unfold EffectCall.perform at rejected ⊢
  cases parsed : ToolEffectStatus.ofText? call.status with
  | none => rfl
  | some status =>
    rw [parsed] at rejected
    unfold atomically at rejected ⊢
    dsimp only at rejected ⊢
    cases done : Db.recordToolEffect call.env call.executionId call.effectKey call.toolName
        call.requestHash status call.result db with
    | error error => rfl
    | ok pair =>
      rw [done] at rejected
      cases rejected

variable {effectKey : EffectKey} {effect : RecordedEffect}

theorem find?_recordToolEffect_other {env : Env} {executionId : ExecutionId} {written : EffectKey}
    {toolName requestHash : String} {result : Option JsonObject} {db' : Db} {value : Unit}
    (apart : written ≠ effectKey)
    (done : Db.recordToolEffect env executionId written toolName requestHash status result db = .ok (value, db')) :
    db'.toolEffects.find? effectKey = db.toolEffects.find? effectKey := by
  unfold Db.recordToolEffect at done
  simp only at done
  split at done
  · rcases bind_ok done with ⟨_, _, done⟩
    cases done
    unfold Db.updateToolEffects
    dsimp only
    rw [Table.find?_update]
    cases found : db.toolEffects.find? effectKey with
    | none => rfl
    | some row =>
      have sameKey := Table.find?_key found
      rw [Option.map_some, if_neg]
      intro isWritten
      exact apart (isWritten.symm.trans sameKey)
  · rcases bind_ok done with ⟨_, _, done⟩
    rcases bind_ok done with ⟨toolEffects, taken, done⟩
    rw [orThrow_ok] at taken
    cases done
    change toolEffects.find? effectKey = _
    rw [Table.find?_insert? taken, if_neg apart]

theorem perform_settled (call : EffectCall) (recorded : db.recordedEffect effectKey = some effect)
    (final : effect.status.isFinal = true) :
    (call.perform db).2.recordedEffect effectKey = some (call.settle effectKey effect) := by
  rcases Option.map_eq_some_iff.mp recorded with ⟨row, found, same⟩
  unfold EffectCall.perform EffectCall.settle
  cases parsed : ToolEffectStatus.ofText? call.status with
  | none =>
    rw [if_neg]
    · exact recorded
    · rintro ⟨_, _, _, _, isStatus⟩
      rw [parsed] at isStatus
      cases isStatus
  | some status =>
    unfold atomically
    dsimp only
    cases done : Db.recordToolEffect call.env call.executionId call.effectKey call.toolName
        call.requestHash status call.result db with
    | error error =>
      rw [if_neg]
      · exact recorded
      · rintro ⟨sameKey, sameExecution, sameTool, sameHash, isStatus⟩
        have isSame : status = effect.status := Option.some.inj (parsed.symm.trans isStatus)
        unfold Db.recordToolEffect at done
        rw [sameKey, found] at done
        have checked : checkToolEffect row call.executionId call.toolName call.requestHash
            status = .ok () := by
          subst same
          have agrees : require (row.executionId = call.executionId ∧
              row.toolName = call.toolName ∧ row.requestHash = call.requestHash)
              (.toolEffectConflict row.effectKey) = .ok () :=
            require_ok.mpr ⟨sameExecution.symm, sameTool.symm, sameHash.symm⟩
          have may : row.status.mayBecome status = true :=
            (ToolEffectStatus.mayBecome_of_final final).mpr isSame
          unfold checkToolEffect
          rw [agrees]
          exact require_ok.mpr may
        simp only [checked] at done
        cases done
    | ok pair =>
      rcases pair with ⟨value, db'⟩
      dsimp only
      by_cases sameKey : call.effectKey = effectKey
      · unfold Db.recordToolEffect at done
        rw [sameKey, found] at done
        simp only at done
        rcases bind_ok done with ⟨_, checked, done⟩
        unfold checkToolEffect at checked
        rcases bind_ok checked with ⟨_, agrees, mayBecome⟩
        rw [require_ok] at agrees mayBecome
        have isStatus : status = row.status := by
          apply (ToolEffectStatus.mayBecome_of_final ?_).mp mayBecome
          rw [← same] at final
          exact final
        cases done
        have repeats : call.repeats effectKey effect := by
          rw [← same]
          exact ⟨sameKey, agrees.1.symm, agrees.2.1.symm, agrees.2.2.symm,
            parsed.trans (congrArg some isStatus)⟩
        rw [if_pos repeats]
        unfold Db.recordedEffect
        unfold Db.updateToolEffects
        dsimp only
        rw [Table.find?_update, found, Option.map_some, if_pos (Table.find?_key found),
          Option.map_some, ← same, isStatus]
        rfl
      · rw [if_neg (fun repeats => sameKey repeats.1)]
        unfold Db.recordedEffect
        rw [find?_recordToolEffect_other sameKey done]
        exact recorded

theorem EffectCall.settle_withResult (call : EffectCall) (effectKey : EffectKey)
    (effect : RecordedEffect) :
    ∃ result, call.settle effectKey effect = { effect with result := result } := by
  unfold EffectCall.settle
  by_cases repeats : call.repeats effectKey effect
  · rw [if_pos repeats]
    exact ⟨call.result, rfl⟩
  · rw [if_neg repeats]
    exact ⟨effect.result, rfl⟩

theorem EffectCall.settle_eq_iff {call : EffectCall} : call.settle effectKey effect = effect ↔
      (call.repeats effectKey effect → call.result = effect.result) := by
  unfold EffectCall.settle
  constructor
  · intro same repeats
    rw [if_pos repeats] at same
    exact congrArg RecordedEffect.result same
  · intro sameResult
    by_cases repeats : call.repeats effectKey effect
    · rw [if_pos repeats, sameResult repeats]
    · rw [if_neg repeats]

variable {calls : List EffectCall}

theorem settled_stays (recorded : db.recordedEffect effectKey = some effect)
    (final : effect.status.isFinal = true) :
    ∃ result, (recordEffects calls db).recordedEffect effectKey =
      some { effect with result := result } := by
  induction calls generalizing db effect with
  | nil => exact ⟨effect.result, recorded⟩
  | cons call rest ih =>
    rcases call.settle_withResult effectKey effect with ⟨written, settled⟩
    have next := perform_settled call recorded final
    rw [settled] at next
    rcases ih next final with ⟨result, stays⟩
    exact ⟨result, stays⟩

theorem unchanged_iff (recorded : db.recordedEffect effectKey = some effect)
    (final : effect.status.isFinal = true) :
    (∀ count, (recordEffects (calls.take count) db).recordedEffect effectKey = some effect) ↔
      ∀ call ∈ calls, call.repeats effectKey effect → call.result = effect.result := by
  induction calls generalizing db with
  | nil =>
    constructor
    · intro _ call member
      cases member
    · intro _ count
      rw [List.take_nil]
      exact recorded
  | cons call rest ih =>
    have next := perform_settled call recorded final
    constructor
    · intro unchanged
      have afterCall := unchanged 1
      change (call.perform db).2.recordedEffect effectKey = some effect at afterCall
      have settled : call.settle effectKey effect = effect :=
        Option.some.inj (next.symm.trans afterCall)
      have later := (ih afterCall).mp (fun count => unchanged (count + 1))
      intro other member
      rcases List.mem_cons.mp member with isCall | inRest
      · rw [isCall]
        exact EffectCall.settle_eq_iff.mp settled
      · exact later other inRest
    · intro sameResults count
      have settled := EffectCall.settle_eq_iff.mpr (sameResults call List.mem_cons_self)
      rw [settled] at next
      cases count with
      | zero => exact recorded
      | succ count =>
        exact (ih next).mpr
          (fun other member => sameResults other (List.mem_cons_of_mem _ member)) count

/-- Once an effect is recorded as succeeded or failed its execution, tool, hash and status
stay; its result stays exactly when each call that repeats it carries that result. A
rejected call changes nothing. -/
theorem effects_final {db : Db} {effectKey : EffectKey} {effect : RecordedEffect}
    (recorded : db.recordedEffect effectKey = some effect)
    (final : effect.status.isFinal = true) (calls : List EffectCall) :
    (∀ count, ∃ result, (recordEffects (calls.take count) db).recordedEffect effectKey =
      some { effect with result := result }) ∧
    ((∀ count, (recordEffects (calls.take count) db).recordedEffect effectKey = some effect) ↔
      ∀ call ∈ calls, call.repeats effectKey effect → call.result = effect.result) ∧
    (∀ (call : EffectCall) (before : Db) (error : StoreError),
      (call.perform before).1 = .error error → (call.perform before).2 = before) := by
  refine ⟨?_, unchanged_iff recorded final, ?_⟩
  · intro count
    exact settled_stays recorded final
  · intro call before error rejected
    exact EffectCall.perform_error rejected

def sampleEffectCall (status : String) (result : Option JsonObject) : EffectCall :=
  { env := (callAt 1 "" .reconcileStartup).env
    executionId := "exec_a"
    effectKey := "charge"
    toolName := "pay"
    requestHash := "hash"
    status := status
    result := result }

def succeededStore : Db :=
  recordEffects
    [sampleEffectCall "pending" none, sampleEffectCall "succeeded" (some [("receipt", .str "r1")])]
    (performAll sampleDigest Db.empty [callAt 0 "a" (sampleStart "start")])

def succeededEffect : RecordedEffect :=
  { executionId := "exec_a", toolName := "pay", requestHash := "hash", status := .succeeded,
    result := some [("receipt", .str "r1")] }

theorem succeededStore_recorded :
    succeededStore.recordedEffect "charge" = some succeededEffect := by
  rfl

/-- The receipt stays while the outcome is repeated with it and contradicted. -/
theorem receipt_stays :
    (recordEffects
      [sampleEffectCall "succeeded" (some [("receipt", .str "r1")]), sampleEffectCall "failed" none]
      succeededStore).recordedEffect "charge" = some succeededEffect := by
  have stays := (effects_final succeededStore_recorded rfl
    [sampleEffectCall "succeeded" (some [("receipt", .str "r1")]),
      sampleEffectCall "failed" none]).2.1.mpr
  apply stays _ 2
  intro call member
  rcases List.mem_cons.mp member with isFirst | inRest
  · rw [isFirst]
    intro _repeats
    rfl
  · rw [List.mem_singleton.mp inRest]
    rintro ⟨_, _, _, _, isStatus⟩
    cases isStatus

/-- Repeating the outcome without its receipt is accepted and erases the receipt. -/
theorem receipt_erased :
    ¬ ∀ (db : Db) (effectKey : EffectKey) (effect : RecordedEffect) (calls : List EffectCall),
      db.recordedEffect effectKey = some effect → effect.status.isFinal = true →
        (recordEffects calls db).recordedEffect effectKey = some effect := by
  intro stays
  have unchanged := stays succeededStore "charge" succeededEffect
    [sampleEffectCall "succeeded" none] succeededStore_recorded rfl
  have erased := congrArg (fun stored => stored.map (fun row => row.result.isSome)) unchanged
  cases erased

end AnnaAgent.Execution
