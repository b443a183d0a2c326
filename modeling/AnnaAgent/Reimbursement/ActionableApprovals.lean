/-
Approvals that can be acted on.

`submit_intent` compares its arguments with the draft after a conversion, and
`approve_submit` compares them as they are, with the draft that the process holds or
with the one it has read back.
-/

import AnnaAgent.Reimbursement.Orchestrator

namespace AnnaAgent.Reimbursement

open Foundation Fields

/-- A later state of the run: the draft has not changed, and the approval at most in its
status. -/
structure Awaits (asked later : ReimbursementRun) : Prop where
  draft : later.draft = asked.draft
  approval : ∃ status,
    later.approval = asked.approval.map (fun approval => { approval with status := status })

/-- The approval of the run passes the checks of its payload and its snapshot. -/
def Approvable (env : Environment) (run : ReimbursementRun) : Prop :=
  ∃ approval, run.approval = some approval ∧
    approvalPayloadMatchesCurrentDraft env approval run.draft = true

/-- The run waits for a decision that can be taken on the object of the process and on a
copy that any process reads back. -/
structure ActedOn (env : Environment) (asked : ReimbursementRun) : Prop where
  waits : asked.status = .waitingConfirmation
  inMemory : ∀ later, Awaits asked later → Approvable env later
  readBack : ∀ later, Awaits asked later → ∀ orchestrator : Orchestrator,
    ∃ loaded ref run, orchestrator.load env later = some (loaded, ref) ∧
      loaded.objects[ref]? = some run ∧ Approvable env run

/-- A call of `submit_intent` ends in an approval that can be acted on, or in a
`CapabilityError` that leaves none pending. -/
def Actionable (env : Environment) (run : ReimbursementRun) (arguments : Fields)
    (approvalId : ApprovalId) : Prop :=
  match dispatchSubmitIntent env run arguments approvalId with
  | (asked, .suspended _ _) => ActedOn env asked
  | (after, .failed _ _) => after.approval.map ApprovalRequest.status ≠ some .pending
  | _ => False

def ReimbursementDraft.ReadsBack (env : Environment) (draft : ReimbursementDraft) : Prop :=
  ∃ again, env.reloadDraft draft = some again ∧
    env.draftHash again.asMcpPayload = env.draftHash draft.asMcpPayload ∧
      env.same (.obj draft.asMcpPayload) (.obj again.asMcpPayload) = true

/-- The checks come to the amount. -/
structure ComparesAmount (env : Environment) (run : ReimbursementRun) (arguments : Fields) :
    Prop where
  drafted : env.truthy run.draft.externalReimbursementId = true
  identified : run.draft.externalReimbursementId =
    .str (env.text ((arguments.lookup "external_reimbursement_id").getD (.str "")))
  complete : ∀ field ∈ submitIntentContextFields, env.truthy (get arguments field) = true

/-- What a call that passes the checks must be given. -/
structure PlainRequest (env : Environment) (run : ReimbursementRun) (arguments : Fields) :
    Prop where
  amount : ∀ text, get arguments "amount" ≠ .str text
  currency : ∃ text, get arguments "currency" = .str text
  reason : ∃ text, get arguments "reason" = .str text
  draft : run.draft.ReadsBack env

/-- The amount can be read as a number, a call that is refused finds no approval
pending, and one that passes has a number, two texts and a draft that reads back. -/
structure IntentFits (env : Environment) (run : ReimbursementRun) (arguments : Fields) :
    Prop where
  readable : ComparesAmount env run arguments → env.float (get arguments "amount") ≠ none
  refused : submitIntentError env run arguments ≠ .passed →
    run.approval.map ApprovalRequest.status ≠ some .pending
  passed : submitIntentError env run arguments = .passed → PlainRequest env run arguments

variable {env : Environment} {run : ReimbursementRun} {arguments : Fields}

theorem raised_iff : submitIntentError env run arguments = .raised ↔
    ComparesAmount env run arguments ∧ env.float (get arguments "amount") = none := by
  constructor
  · intro raised
    unfold submitIntentError at raised
    split at raised
    · cases raised
    · rename_i drafted
      split at raised
      · cases raised
      · rename_i identified
        split at raised
        · cases raised
        · rename_i complete
          refine ⟨⟨eq_true_of_ne_false drafted, not_not.mp identified, ?_⟩, ?_⟩
          · intro field member
            by_contra missing
            apply complete
            apply List.any_eq_true.mpr
            exact ⟨field, member, decide_eq_true (eq_false_of_ne_true missing)⟩
          · cases isFloat : env.float (get arguments "amount") with
            | none => rfl
            | some amount =>
              rw [isFloat] at raised
              dsimp only at raised
              repeat' split at raised
              all_goals cases raised
  · rintro ⟨compares, unreadable⟩
    have complete : ¬ submitIntentContextFields.any (fun field =>
        env.truthy (get arguments field) = false) = true := by
      intro missing
      rcases List.any_eq_true.mp missing with ⟨field, member, isMissing⟩
      exact absurd ((compares.complete field member).symm.trans (of_decide_eq_true isMissing))
        (by decide)
    unfold submitIntentError
    rw [if_neg (by rw [compares.drafted]; decide), if_neg (not_not_intro compares.identified),
      if_neg complete, unreadable]

/-- What a call that passes the checks has been compared with. -/
structure Compared (env : Environment) (run : ReimbursementRun) (arguments : Fields) : Prop where
  identified : ∃ text, run.draft.externalReimbursementId = .str text
  amount : ∃ amount, env.float (get arguments "amount") = some amount ∧
    env.numeric run.draft.amount = some amount
  currency : run.draft.currency = .str (env.text (get arguments "currency"))
  reason : run.draft.reason = .str (env.text (get arguments "reason"))

theorem compared_of_passed (passed : submitIntentError env run arguments = .passed) :
    Compared env run arguments := by
  unfold submitIntentError at passed
  split at passed
  · cases passed
  · split at passed
    · cases passed
    · rename_i identified
      split at passed
      · cases passed
      · split at passed
        · cases passed
        · rename_i amount isFloat
          split at passed
          · cases passed
          · rename_i sameAmount
            split at passed
            · cases passed
            · rename_i currency
              split at passed
              · cases passed
              · rename_i reason
                exact ⟨⟨_, not_not.mp identified⟩,
                  ⟨amount, isFloat, of_decide_eq_true (eq_true_of_ne_false sameAmount)⟩,
                  not_not.mp currency, not_not.mp reason⟩

/-! ### The checks of the decision -/

theorem modelDump_distinct (draft : ReimbursementDraft) :
    (draft.modelDump.map Prod.fst).Nodup := by
  change ["category", "amount", "currency", "expense_date", "merchant", "reason",
    "department_id", "cost_center_id", "project_id", "attachments",
    "external_reimbursement_id", "external_status"].Nodup
  decide

theorem mem_of_lookup {fields : Fields} {key : String} {value : Json}
    (found : fields.lookup key = some value) : (key, value) ∈ fields := by
  rcases List.lookup_eq_some_iff.mp found with ⟨early, late, parts, _⟩
  rw [parts]
  exact List.mem_append_right _ List.mem_cons_self

section

variable {draft : ReimbursementDraft} {key : String} {value : Json}
  (isField : draft.modelDump.lookup key = some value)

include isField

theorem lookup_asMcpPayload (notNull : value ≠ .null) :
    draft.asMcpPayload.lookup key = some value :=
  lookup_of_mem ((modelDump_distinct draft).sublist (List.filter_sublist.map _))
    (List.mem_filter.mpr ⟨mem_of_lookup isField, decide_eq_true notNull⟩)

theorem lookup_of_asMcpPayload {other : Json}
    (found : draft.asMcpPayload.lookup key = some other) : other = value := by
  have member := (List.mem_filter.mp (mem_of_lookup found)).1
  have again := lookup_of_mem (modelDump_distinct draft) member
  rw [isField] at again
  exact (Option.some.inj again).symm

theorem same_field {again : ReimbursementDraft} {other : Json}
    (same : env.same (.obj draft.asMcpPayload) (.obj again.asMcpPayload) = true)
    (isOther : again.modelDump.lookup key = some other) (notNull : value ≠ .null) :
    env.same value other = true := by
  unfold PythonReading.same at same
  rw [Bool.and_eq_true] at same
  rcases PythonReading.lookup_of_sameFields same.2 (lookup_asMcpPayload isField notNull) with
    ⟨found, isFound, sameValue⟩
  rw [← lookup_of_asMcpPayload isOther isFound]
  exact sameValue

end

theorem same_text {value : Json} {text : String} :
    env.same value (.str text) = true ↔ value = .str text := by
  cases value with
  | str other =>
    change decide (other = text) = true ↔ _
    rw [decide_eq_true_iff, Json.str.injEq]
  | null | bool value | num value | arr items | obj fields =>
    constructor
    · intro impossible
      cases impossible
    · intro impossible
      cases impossible

theorem text_same {value : Json} {text : String} (same : env.same (.str text) value = true) :
    value = .str text := by
  cases value with
  | str other => exact congrArg Json.str (of_decide_eq_true same).symm
  | null | bool value | num value | arr items | obj fields => cases same

/-- The approval that the call creates, at any later time, against any draft. -/
theorem matches_iff (hashed : ∀ payload, env.hashPayload payload ≠ "") {approvalId : ApprovalId}
    {status : ApprovalStatus} {draft : ReimbursementDraft} :
    approvalPayloadMatchesCurrentDraft env
        { createApproval env run arguments approvalId with status := status } draft = true ↔
      env.draftHash draft.asMcpPayload = env.draftHash run.draft.asMcpPayload ∧
        env.same (.obj run.draft.asMcpPayload) (.obj draft.asMcpPayload) = true ∧
          payloadMatches env (createApproval env run arguments approvalId) draft = true := by
  have hasHash : decide (some (env.draftHash run.draft.asMcpPayload) ≠ some "") = true :=
    decide_eq_true (fun same => hashed _ (Option.some.inj same))
  unfold approvalPayloadMatchesCurrentDraft createApproval
  dsimp only
  rw [hasHash, if_neg (not_not_intro rfl), if_neg (fun other => other.2.2 rfl),
    if_neg (fun other => other.2.2 rfl)]
  by_cases sameHash : env.draftHash draft.asMcpPayload = env.draftHash run.draft.asMcpPayload
  · rw [if_neg (fun other => other.2 (congrArg some sameHash.symm)), Bool.and_eq_true]
    exact ⟨fun both => ⟨sameHash, both⟩, And.right⟩
  · rw [if_pos ⟨rfl, fun same => sameHash (Option.some.inj same).symm⟩]
    constructor
    · intro impossible
      cases impossible
    · intro all
      exact absurd all.1 sameHash

variable {approvalId : ApprovalId}

theorem payloadMatches_iff {draft : ReimbursementDraft} :
    payloadMatches env (createApproval env run arguments approvalId) draft = true ↔
      env.same run.draft.externalReimbursementId draft.externalReimbursementId = true ∧
        env.same (get arguments "amount") draft.amount = true ∧
          env.same (get arguments "currency") draft.currency = true ∧
            env.same (get arguments "reason") draft.reason = true := by
  change (env.same run.draft.externalReimbursementId draft.externalReimbursementId &&
    env.same (get arguments "amount") draft.amount &&
      env.same (get arguments "currency") draft.currency &&
        env.same (get arguments "reason") draft.reason) = true ↔ _
  rw [Bool.and_eq_true, Bool.and_eq_true, Bool.and_eq_true, and_assoc, and_assoc]

theorem Compared.plain (compared : Compared env run arguments)
    (matching : payloadMatches env (createApproval env run arguments approvalId) run.draft = true) :
    (∀ text, get arguments "amount" ≠ .str text) ∧ (∃ text, get arguments "currency" = .str text) ∧
      ∃ text, get arguments "reason" = .str text := by
  rcases payloadMatches_iff.mp matching with ⟨_, amount, currency, reason⟩
  rw [compared.currency] at currency
  rw [compared.reason] at reason
  refine ⟨?_, ⟨_, same_text.mp currency⟩, ⟨_, same_text.mp reason⟩⟩
  intro text isText
  rcases compared.amount with ⟨number, _, isNumber⟩
  rw [isText] at amount
  rw [text_same amount] at isNumber
  cases isNumber

theorem PlainRequest.payloadMatches (plain : PlainRequest env run arguments)
    (compared : Compared env run arguments) {draft : ReimbursementDraft}
    (same : env.same (.obj run.draft.asMcpPayload) (.obj draft.asMcpPayload) = true) :
    payloadMatches env (createApproval env run arguments approvalId) draft = true := by
  have isText : ∀ {key text value}, run.draft.modelDump.lookup key = some (.str text) →
      draft.modelDump.lookup key = some value → value = .str text := by
    intro key text value isField isOther
    exact text_same (same_field isField same isOther (by simp))
  rcases compared.identified with ⟨externalId, isExternal⟩
  rcases plain.currency with ⟨currency, isCurrency⟩
  rcases plain.reason with ⟨reason, isReason⟩
  have sameCurrency := compared.currency
  have sameReason := compared.reason
  rw [isCurrency] at sameCurrency
  rw [isReason] at sameReason
  rw [payloadMatches_iff, isCurrency, isReason, isExternal]
  refine ⟨?_, ?_, ?_, ?_⟩
  · have isField : run.draft.modelDump.lookup "external_reimbursement_id" = some (.str externalId) :=
      congrArg some isExternal
    rw [isText isField rfl]
    exact decide_eq_true rfl
  · rcases compared.amount with ⟨number, isFloat, isNumber⟩
    have isNumeric : env.numeric (get arguments "amount") = some number := by
      cases isAmount : get arguments "amount" with
      | str text => exact absurd isAmount (plain.amount text)
      | null | bool value | num value | arr items | obj fields =>
        rw [isAmount] at isFloat
        exact isFloat
    have isField : run.draft.modelDump.lookup "amount" = some run.draft.amount := rfl
    have sameAmount := same_field isField same rfl (by
      intro isNull
      rw [isNull] at isNumber
      cases isNumber)
    rw [PythonReading.same_of_numeric isNumber] at sameAmount
    rw [PythonReading.same_of_numeric isNumeric]
    exact sameAmount
  · have isField : run.draft.modelDump.lookup "currency" = some (.str currency) :=
      congrArg some sameCurrency
    rw [isText isField rfl]
    exact decide_eq_true rfl
  · have isField : run.draft.modelDump.lookup "reason" = some (.str reason) :=
      congrArg some sameReason
    rw [isText isField rfl]
    exact decide_eq_true rfl

theorem actedOn_iff :
    ActedOn env (requestApproval env run arguments (createApproval env run arguments approvalId)) ↔
      approvalPayloadMatchesCurrentDraft env (createApproval env run arguments approvalId)
          run.draft = true ∧
        ∃ again, env.reloadDraft run.draft = some again ∧
          approvalPayloadMatchesCurrentDraft env (createApproval env run arguments approvalId)
            again = true := by
  constructor
  · intro actedOn
    constructor
    · rcases actedOn.inMemory _ ⟨rfl, .pending, rfl⟩ with ⟨approval, isApproval, matching⟩
      cases isApproval
      exact matching
    · rcases actedOn.readBack _ ⟨rfl, .pending, rfl⟩
          ⟨[], OrderedMap.empty, OrderedMap.empty, OrderedMap.empty, 0, 0, 0⟩ with
        ⟨loaded, ref, object, isLoaded, isObject, approval, isApproval, matching⟩
      rcases Option.map_eq_some_iff.mp isLoaded with ⟨again, isAgain, same⟩
      cases same
      cases isObject
      cases isApproval
      exact ⟨again, isAgain, matching⟩
  · rintro ⟨memory, again, isAgain, stored⟩
    refine ⟨rfl, ?_, ?_⟩
    · rintro later ⟨sameDraft, status, isApproval⟩
      refine ⟨_, isApproval, ?_⟩
      rw [sameDraft]
      exact memory
    · rintro later ⟨sameDraft, status, isApproval⟩ orchestrator
      have isLoaded : orchestrator.load env later = (some again).map _ :=
        congrArg (Option.map _) ((congrArg env.reloadDraft sameDraft).trans isAgain)
      exact ⟨_, _, _, isLoaded, List.getElem?_concat_length, _, isApproval, stored⟩

def lunchRun : ReimbursementRun :=
  { newRun 1 "w" "u" [] with
    draft :=
      { emptyDraft with
        amount := .num (JsonNumber.ofNat 7)
        currency := .str "CNY"
        reason := .str "lunch"
        externalReimbursementId := .str "e1" }
    auditEvents := [⟨"reimbursement.draft.validated",
      [("policy_summary", .str "meals"), ("risk_level", .str "high")]⟩] }

def lunchRequest (amount : Json) : Fields :=
  [("external_reimbursement_id", .str "e1"), ("amount", amount), ("currency", .str "CNY"),
    ("reason", .str "lunch")]

def readsSeven : Environment :=
  { plainEnvironment with floatOfText := fun text => if text = "7" then some 7 else none }

theorem readsSeven_hashed (payload : Fields) : readsSeven.hashPayload payload ≠ "" := by
  intro same
  have empty := congrArg String.toList same
  change (String.ofList (_ :: _)).toList = _ at empty
  rw [String.toList_ofList] at empty
  cases empty

theorem lunchRun_keyed : (Json.obj lunchRun.draft.asMcpPayload).Keyed :=
  ⟨by decide, trivial, trivial, trivial, trivial, trivial, trivial⟩

end AnnaAgent.Reimbursement
