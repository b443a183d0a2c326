/-
The evaluator of finished runs (`services/chat/app/evaluator.py`): when a judge is
asked, and what the code takes from its answer.
-/

import AnnaAgent.Chat.Run

namespace AnnaAgent.Chat

open Foundation Runtime

variable (env : ChatEnvironment)

/-- A literal at the head of a text, whatever the case of its letters. -/
def startsWith : List Char → List Char → Bool
  | [], _ => true
  | _ :: _, [] => false
  | wanted :: rest, c :: text => decide (c.toLower = wanted) && startsWith rest text

/-- One of the literals is at the head. -/
def startsWithAny (literals : List String) (text : List Char) : Bool :=
  literals.any (fun literal => startsWith literal.toList text)

def searches (found : List Char → Bool) : List Char → Bool
  | [] => found []
  | c :: rest => found (c :: rest) || searches found rest

def isWord (c : Char) : Bool := env.isAlnum c || decide (c = '_')

/-- `\b(?:done|completed)\b` from the second character on. -/
def claimsWord : List Char → Bool
  | [] => false
  | c :: rest =>
    (!isWord env c && ["done", "completed"].any (fun literal =>
      startsWith literal.toList rest &&
        !((rest.drop literal.length).head?.any (isWord env)))) || claimsWord rest

def completionClaim (text : String) : Bool :=
  searches (startsWithAny ["已完成", "已办妥"]) text.toList || claimsWord env (' ' :: text.toList)

def withinClause (stops : List Char) (literals : List String) : Nat → List Char → Bool
  | 0, text => startsWithAny literals text
  | more + 1, text =>
    startsWithAny literals text ||
      (match text with
      | [] => false
      | c :: rest => decide (c ∉ stops) && withinClause stops literals more rest)

/-- One alternative of the pattern at the head of a text. -/
def asksAgain (text : List Char) : Bool :=
  startsWithAny ["分别", "各是", "各为"] text ||
    (match text with
    | '和' :: rest =>
      withinClause [',', '，', '。', ';', '；', '?', '？', '!', '！'] ["多少", "如何", "怎样"] 12 rest
    | '、' :: rest => withinClause ['。', ';', '；', '?', '？', '!', '！'] ["多少", "情况"] 20 rest
    | _ => false)

def multiAsk (text : String) : Bool :=
  searches asksAgain text.toList ||
    decide (2 ≤ text.toList.countP (fun c => decide (c = '?' ∨ c = '？')))

def isOpenItem (item : Fields) : Bool :=
  decide (Fields.get item "status" = .str "pending" ∨
    Fields.get item "status" = .str "in_progress")

def totalToolCalls (run : ChatRun) : Nat :=
  (run.auditEvents.map (fun event =>
    if event.kind = "model.call.completed" then
      match Fields.get event.payload "requested_tool_names" with
      | .arr names => names.length
      | _ => 0
    else 0)).sum

def shouldEvaluate (run : ChatRun) : Option String :=
  let hadTools := decide (0 < totalToolCalls run)
  if run.plan.any isOpenItem = true then some "plan_pending"
  else if hadTools = false ∧ completionClaim env (run.assistantMessage.getD "") = true then
    some "claim_no_tools"
  else if hadTools = true ∧ multiAsk run.message = true then some "multi_ask"
  else none

structure Verdict where
  category : String
  confidence : ℚ
  gaps : List String

def verdictCategories : List String := ["achieved", "false_completion", "partial", "needs_user"]

def confidenceActThreshold : ℚ := 7 / 10

def maxGaps : Nat := 5

def maxGapChars : Nat := 120

def clampGaps : Json → List String
  | .arr gaps =>
    ((gaps.take maxGaps).map (fun gap => env.strip (env.text gap))).filterMap (fun text =>
      if text = "" then none else some (String.ofList (text.toList.take maxGapChars)))
  | _ => []

def stripCodeFence (text : String) : String :=
  if startsWith "```".toList text.toList = false then text
  else
    let lines := env.splitLines text
    let opened :=
      match lines with
      | [] => []
      | line :: rest => if startsWith "```".toList line.toList = true then rest else line :: rest
    let closed :=
      match opened.getLast? with
      | some line => if env.strip line = "```" then opened.dropLast else opened
      | none => opened
    env.strip ("\n".intercalate closed)

/-- The answer of a judge as a verdict, a refusal of the gate, or an exception. -/
inductive Parsed where
  | verdict (verdict : Verdict)
  | refused
  | raised

/-- The checks of the gate on the fields of an object.  A category that is a list or a
dict cannot be looked up in a set. -/
def gateVerdict (data : Fields) : Parsed :=
  match Fields.get data "category" with
  | .str category =>
    if category ∉ verdictCategories then .refused
    else
      match Fields.get data "confidence" with
      | .num confidence =>
        match env.floatOf confidence with
        | none => .raised
        | some value =>
          .verdict
            { category := category
              confidence := max 0 (min 1 value)
              gaps := clampGaps env (Fields.get data "gaps") }
      | _ => .refused
  | .arr _ => .raised
  | .obj _ => .raised
  | _ => .refused

def parseVerdict (raw : Option String) : Parsed :=
  match raw with
  | none => .refused
  | some text =>
    if text = "" then .refused
    else
      match env.loads (stripCodeFence env (env.strip text)) with
      | .value (.obj data) => gateVerdict env data
      | .value _ => .refused
      | .invalid => .refused
      | .raised => .raised

def evaluatorNudgeText (gaps : List String) : String :=
  let listed := if gaps = [] then "任务未真正完成" else "、".intercalate gaps
  "评估发现未达成：" ++ listed ++ "。请补办；已完成部分不要重做。"

theorem parseVerdict_spec {raw : Option String} {verdict : Verdict}
    (parsed : parseVerdict env raw = .verdict verdict) :
    ∃ text data confidence value, raw = some text ∧
      env.loads (stripCodeFence env (env.strip text)) = .value (.obj data) ∧
        Fields.get data "category" = .str verdict.category ∧
          verdict.category ∈ verdictCategories ∧
            Fields.get data "confidence" = .num confidence ∧ env.floatOf confidence = some value ∧
              verdict.confidence = max 0 (min 1 value) := by
  unfold parseVerdict at parsed
  cases raw with
  | none => cases parsed
  | some text =>
    dsimp only at parsed
    split at parsed
    · cases parsed
    · split at parsed
      · rename_i data isData
        unfold gateVerdict at parsed
        split at parsed
        · rename_i category isCategory
          split at parsed
          · cases parsed
          · rename_i known
            split at parsed
            · rename_i confidence isConfidence
              split at parsed
              · cases parsed
              · rename_i value isValue
                cases parsed
                exact ⟨text, data, confidence, value, rfl, isData, isCategory,
                  not_not.mp known, isConfidence, isValue, rfl⟩
            · cases parsed
        · cases parsed
        · cases parsed
        · cases parsed
      · cases parsed
      · cases parsed
      · cases parsed

end AnnaAgent.Chat
