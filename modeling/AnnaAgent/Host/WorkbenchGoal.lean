/-
The goal of a session: an objective that the user has authorized for several
runs (`harness-service/src/workbench-goal.ts`).

After a run has ended, the host decides from the terminal status and the plan
of the run whether to submit one more run or to settle the goal.
-/

import AnnaAgent.EventStore.RunStatus
import AnnaAgent.Foundation.JsonFields

namespace AnnaAgent.Host

open Foundation
open EventStore (OutcomeStatus)

inductive GoalStatus where
  | active
  | paused
  | awaitingReview
  | completed
  | stopped
  | budgetExhausted
  | failed
  deriving DecidableEq

def GoalStatus.text : GoalStatus → String
  | .active => "active"
  | .paused => "paused"
  | .awaitingReview => "awaiting_review"
  | .completed => "completed"
  | .stopped => "stopped"
  | .budgetExhausted => "budget_exhausted"
  | .failed => "failed"

def goalStatuses : List GoalStatus :=
  [.active, .paused, .awaitingReview, .completed, .stopped, .budgetExhausted, .failed]

inductive GoalPermissionMode where
  | readonly
  | containedWrite
  deriving DecidableEq

def GoalPermissionMode.text : GoalPermissionMode → String
  | .readonly => "readonly"
  | .containedWrite => "contained-write"

def goalPermissionModes : List GoalPermissionMode := [.readonly, .containedWrite]

structure PlanProgress where
  completed : Nat
  total : Nat
  deriving DecidableEq

structure WorkbenchGoalRecord where
  goalId : String
  objective : String
  status : GoalStatus
  maxRuns : Nat
  runIds : List String
  permissionMode : GoalPermissionMode
  resourceRefs : List String
  sourceEventId : Option String
  lastReason : Option String
  planProgress : Option PlanProgress
  createdAt : String
  updatedAt : String
  deriving DecidableEq

def goalMaxRunsLimit : Nat := 8

inductive PlanTaskStatus where
  | pending
  | inProgress
  | completed
  | abandoned
  | blocked
  deriving DecidableEq

structure PlanTask where
  content : String
  status : PlanTaskStatus
  blocker : Option String
  deriving DecidableEq

structure PlanPhase where
  name : String
  tasks : List PlanTask
  deriving DecidableEq

structure PlanSnapshot where
  phases : List PlanPhase
  deriving DecidableEq

structure PlanCounts where
  completed : Nat
  total : Nat
  «open» : Nat
  blocked : Nat

def PlanSnapshot.tasks (plan : PlanSnapshot) : List PlanTask :=
  plan.phases.flatMap PlanPhase.tasks

/-- An abandoned item is resolved but not completed. -/
def PlanSnapshot.counts (plan : PlanSnapshot) : PlanCounts :=
  { completed := plan.tasks.countP (fun task => task.status = .completed)
    total := plan.tasks.length
    «open» := plan.tasks.countP
      (fun task => decide (task.status ≠ .completed) && decide (task.status ≠ .abandoned))
    blocked := plan.tasks.countP (fun task => task.status = .blocked) }

def planProgress (plan : Option PlanSnapshot) : Option PlanCounts :=
  plan.bind (fun plan => if plan.counts.total = 0 then none else some plan.counts)

def PlanTaskStatus.mark : PlanTaskStatus → String
  | .completed => "[x]"
  | .inProgress => "[>]"
  | .pending => "[ ]"
  | .blocked => "[!]"
  | .abandoned => "[-]"

def PlanTask.line (task : PlanTask) : String :=
  "  " ++ task.status.mark ++ " " ++ task.content ++
    (match task.blocker with
      | some blocker => if blocker = "" then "" else "（阻塞：" ++ blocker ++ "）"
      | none => "")

def PlanPhase.text (phase : PlanPhase) : String :=
  "\n".intercalate (phase.name :: phase.tasks.map PlanTask.line)

def renderPlan (plan : Option PlanSnapshot) : String :=
  match plan with
  | none => "（上一轮没有留下 todo 计划）"
  | some plan =>
    if plan.phases = [] then "（上一轮没有留下 todo 计划）"
    else "\n".intercalate (plan.phases.map PlanPhase.text)

/-- What the latest run of a goal left behind; no terminal status while it
still runs. -/
structure GoalRunEvidence where
  terminalStatus : Option OutcomeStatus
  admissionError : Option String
  failureReason : Option String
  plan : Option PlanSnapshot
  hasFinalText : Bool

inductive ContinueReason where
  | planIncomplete
  | runTimedOut
  | userResumed
  deriving DecidableEq

def ContinueReason.text : ContinueReason → String
  | .planIncomplete => "plan_incomplete"
  | .runTimedOut => "run_timed_out"
  | .userResumed => "user_resumed"

inductive GoalDecision where
  | wait
  | «continue» (reason : ContinueReason)
  | settle (status : GoalStatus) (reason : String)
  deriving DecidableEq

def WorkbenchGoalRecord.exhausted (goal : WorkbenchGoalRecord) : Bool :=
  decide (goal.maxRuns ≤ goal.runIds.length)

def decideGoal (goal : WorkbenchGoalRecord) (latest : GoalRunEvidence) : GoalDecision :=
  if goal.status ≠ .active then .wait
  else
    match latest.admissionError with
    | some error => .settle .failed ("run_failed:" ++ error)
    | none =>
      match latest.terminalStatus with
      | none => .wait
      | some .cancelled => .settle .paused "run_cancelled"
      | some .failed => .settle .failed ("run_failed:" ++ latest.failureReason.getD "unknown")
      | some .awaitingInput => .settle .paused "run_awaiting_input"
      | some .awaitingApproval => .settle .paused "run_awaiting_approval"
      | some .timedOut =>
        if goal.exhausted then .settle .budgetExhausted "budget_exhausted"
        else .continue .runTimedOut
      | some .completed =>
        match planProgress latest.plan with
        | none => .settle .awaitingReview "final_answer_without_plan"
        | some progress =>
          if progress.open = 0 then .settle .awaitingReview "plan_complete"
          else if progress.open = progress.blocked then .settle .paused "plan_blocked"
          else if goal.exhausted then .settle .budgetExhausted "budget_exhausted"
          else .continue .planIncomplete

def endingText : ContinueReason → String
  | .runTimedOut => "单轮预算用尽（未完成）"
  | .userResumed => "用户已恢复目标"
  | .planIncomplete => "计划仍有未完成项"

def continuationPrompt (goal : WorkbenchGoalRecord) (plan : Option PlanSnapshot)
    (reason : ContinueReason) : String :=
  "\n".intercalate
    ["【目标续跑 " ++ toString (goal.runIds.length + 1) ++ "/" ++ toString goal.maxRuns ++
        "】Host 按用户授权的目标模式自动发起本轮（不是用户新输入）。",
      "用户目标：" ++ goal.objective,
      "上一轮结束原因：" ++ endingText reason,
      "当前 todo 计划：",
      renderPlan plan,
      "请先用 todo 工具恢复/更新计划（init 时保留已完成项的状态），然后继续执行未完成项，不要重复已完成的工作。",
      "全部完成后给出简洁总结，并说明用户可如何验证结果；如果需要用户决定或缺少权限，请明确说明并停止。"]

variable {goal : WorkbenchGoalRecord} {latest : GoalRunEvidence}

theorem decideGoal_continue {reason : ContinueReason}
    (continues : decideGoal goal latest = .continue reason) :
    goal.status = .active ∧ latest.admissionError = none ∧ latest.terminalStatus.isSome = true ∧
      goal.runIds.length < goal.maxRuns := by
  unfold decideGoal at continues
  by_cases active : goal.status = .active
  · rw [if_neg (not_not_intro active)] at continues
    cases noError : latest.admissionError with
    | some error =>
      rw [noError] at continues
      cases continues
    | none =>
      rw [noError] at continues
      cases terminal : latest.terminalStatus with
      | none =>
        rw [terminal] at continues
        cases continues
      | some status =>
        rw [terminal] at continues
        refine ⟨active, rfl, rfl, ?_⟩
        by_cases left : goal.runIds.length < goal.maxRuns
        · exact left
        · have exhausted : goal.exhausted = true := decide_eq_true (Nat.le_of_not_lt left)
          cases status with
          | timedOut =>
            simp only [exhausted, if_true] at continues
            cases continues
          | completed =>
            simp only [exhausted, if_true] at continues
            split at continues
            · cases continues
            · split at continues
              · cases continues
              · split at continues
                · cases continues
                · cases continues
          | awaitingInput | awaitingApproval | failed | cancelled => cases continues
  · rw [if_pos active] at continues
    cases continues

theorem decideGoal_settle {status : GoalStatus} {reason : String}
    (settles : decideGoal goal latest = .settle status reason) :
    status ∈ [.paused, .awaitingReview, .budgetExhausted, .failed] := by
  unfold decideGoal at settles
  split at settles
  · cases settles
  · split at settles
    · cases settles
      decide
    · split at settles
      case h_6 =>
        split at settles
        all_goals cases settles
        decide
      case h_7 =>
        split at settles
        · cases settles
          decide
        · split at settles
          · cases settles
            decide
          · split at settles
            · cases settles
              decide
            · split at settles
              all_goals cases settles
              decide
      all_goals cases settles
      all_goals decide

end AnnaAgent.Host
