/-
One decision for each fingerprint.

Everything a call holds, and everything a response has reported, is a decision
whose text is in the log.  So all of them agree as long as the log never gets
a second decision for a fingerprint; nothing in the service prevents that when
two owners' calls read the log before either of them has written.
-/

import AnnaAgent.Host.ReviewApproval
import Mathlib.Data.List.Infix

namespace AnnaAgent.Host

open Foundation

def Chunk.decision? : Chunk → Option ReviewApprovalDecision
  | .text (.decision decision) => some decision
  | _ => none

/-- The decisions for a fingerprint whose text is in the file. -/
def decisionsFor (content : List Chunk) (fingerprint : String) : List ReviewApprovalDecision :=
  (content.filterMap Chunk.decision?).filter (fun decision => decision.fingerprint = fingerprint)

def Logged (content : List Chunk) (fingerprint : String) (decision : ReviewApprovalDecision) :
    Prop :=
  decision ∈ decisionsFor content fingerprint

variable {content : List Chunk} {fingerprint requestId : String} {decision : ReviewApprovalDecision}
  {record : ReviewApprovalRecord} {records : List ReviewApprovalRecord}
  {request : ReviewApprovalRequest} {issued more : List (String × String)} {wait : Wait}
  {index : Nat} {service after before : Service} {failed : Bool} {label : Label}

theorem logged_iff :
    Logged content fingerprint decision ↔
      Chunk.text (.decision decision) ∈ content ∧ decision.fingerprint = fingerprint := by
  unfold Logged decisionsFor
  rw [List.mem_filter, List.mem_filterMap, decide_eq_true_eq]
  constructor
  · rintro ⟨⟨chunk, member, isDecision⟩, same⟩
    refine ⟨?_, same⟩
    cases chunk with
    | text record =>
      cases record with
      | request request => cases isDecision
      | decision other =>
        cases isDecision
        exact member
    | part | newline => cases isDecision
  · rintro ⟨member, same⟩
    exact ⟨⟨_, member, rfl⟩, same⟩

theorem decisionsFor_append (content added : List Chunk) (fingerprint : String) :
    decisionsFor (content ++ added) fingerprint =
      decisionsFor content fingerprint ++ decisionsFor added fingerprint := by
  unfold decisionsFor
  rw [List.filterMap_append, List.filter_append]

variable {longer : List Chunk}

theorem Logged.grows (logged : Logged content fingerprint decision) (grown : content <+: longer) :
    Logged longer fingerprint decision := by
  rcases grown with ⟨added, rfl⟩
  unfold Logged
  rw [decisionsFor_append]
  exact List.mem_append_left _ logged

def Chunk.record? : Chunk → Option ReviewApprovalRecord
  | .text record => some record
  | _ => none

theorem readLines_eq {state result : ReviewApprovalState}
    (isRead : readLines state content = some result) :
    result = (content.filterMap Chunk.record?).foldl ReviewApprovalState.put state := by
  fun_induction readLines state content with
  | case1 state | case3 state record => exact (Option.some.inj isRead).symm
  | case2 state rest ih | case4 state record rest ih => exact ih isRead
  | case5 state record other rest => cases isRead
  | case6 state record rest => cases isRead
  | case7 state rest => cases isRead

theorem record_mem : record ∈ content.filterMap Chunk.record? ↔ Chunk.text record ∈ content := by
  rw [List.mem_filterMap]
  constructor
  · rintro ⟨chunk, member, isRecord⟩
    cases chunk with
    | text other =>
      cases isRecord
      exact member
    | part | newline => cases isRecord
  · intro member
    exact ⟨_, member, rfl⟩

theorem decision_of_puts {state : ReviewApprovalState}
    (found : (records.foldl ReviewApprovalState.put state).decisions.get? fingerprint = some
      decision) :
    state.decisions.get? fingerprint = some decision ∨
      (.decision decision ∈ records ∧ decision.fingerprint = fingerprint) := by
  induction records generalizing state with
  | nil => exact Or.inl found
  | cons record rest ih =>
    rcases ih found with early | ⟨member, same⟩
    · cases record with
      | request request => exact Or.inl early
      | decision other =>
        simp only [ReviewApprovalState.put, OrderedMap.get?_set] at early
        by_cases isKey : fingerprint = other.fingerprint
        · rw [if_pos isKey] at early
          cases early
          exact Or.inr ⟨List.mem_cons_self, isKey.symm⟩
        · rw [if_neg isKey] at early
          exact Or.inl early
    · exact Or.inr ⟨List.mem_cons_of_mem _ member, same⟩

theorem no_decision_of_puts {state : ReviewApprovalState}
    (missing : (records.foldl ReviewApprovalState.put state).decisions.get? fingerprint = none) :
    state.decisions.get? fingerprint = none ∧
      ∀ decision, .decision decision ∈ records → decision.fingerprint ≠ fingerprint := by
  induction records generalizing state with
  | nil => exact ⟨missing, nofun⟩
  | cons record rest ih =>
    obtain ⟨early, others⟩ := ih missing
    cases record with
    | request request =>
      refine ⟨early, ?_⟩
      intro decision member
      rcases List.mem_cons.1 member with same | later
      · cases same
      · exact others decision later
    | decision first =>
      simp only [ReviewApprovalState.put, OrderedMap.get?_set] at early
      by_cases isKey : fingerprint = first.fingerprint
      · rw [if_pos isKey] at early
        cases early
      · rw [if_neg isKey] at early
        refine ⟨early, ?_⟩
        intro decision member
        rcases List.mem_cons.1 member with same | later
        · cases same
          exact Ne.symm isKey
        · exact others decision later

theorem request_of_puts {state : ReviewApprovalState}
    (found : (records.foldl ReviewApprovalState.put state).requests.get? fingerprint = some request) :
    state.requests.get? fingerprint = some request ∨
      (.request request ∈ records ∧ request.fingerprint = fingerprint) := by
  induction records generalizing state with
  | nil => exact Or.inl found
  | cons record rest ih =>
    rcases ih found with early | ⟨member, same⟩
    · cases record with
      | decision decision => exact Or.inl early
      | request other =>
        simp only [ReviewApprovalState.put, OrderedMap.get?_set] at early
        by_cases isKey : fingerprint = other.fingerprint
        · rw [if_pos isKey] at early
          cases early
          exact Or.inr ⟨List.mem_cons_self, isKey.symm⟩
        · rw [if_neg isKey] at early
          exact Or.inl early
    · exact Or.inr ⟨List.mem_cons_of_mem _ member, same⟩

section

variable {state : ReviewApprovalState} (isRead : read content = some state)

include isRead

theorem read_decision (found : state.decisions.get? fingerprint = some decision) :
    Logged content fingerprint decision := by
  rw [readLines_eq isRead] at found
  rcases decision_of_puts found with early | ⟨member, same⟩
  · cases early
  · exact logged_iff.2 ⟨record_mem.1 member, same⟩

theorem read_no_decision (missing : state.decisions.get? fingerprint = none)
    (decision : ReviewApprovalDecision) : ¬Logged content fingerprint decision := by
  intro logged
  obtain ⟨member, same⟩ := logged_iff.1 logged
  rw [readLines_eq isRead] at missing
  exact (no_decision_of_puts missing).2 decision (record_mem.2 member) same

theorem read_request (found : state.requests.get? fingerprint = some request) :
    Chunk.text (.request request) ∈ content ∧ request.fingerprint = fingerprint := by
  rw [readLines_eq isRead] at found
  rcases request_of_puts found with early | ⟨member, same⟩
  · cases early
  · exact ⟨record_mem.1 member, same⟩

theorem read_request_value (member : request ∈ state.requests.values)
    : Chunk.text (.request request) ∈ content := by
  obtain ⟨entry, isEntry, isValue⟩ := List.mem_map.1 member
  have found : state.requests.get? entry.1 = some request := by
    rw [OrderedMap.get?_eq_some_iff, ← isValue]
    exact isEntry
  exact (read_request isRead found).1

end

structure WaitSound (content : List Chunk) (issued : List (String × String)) (wait : Wait) :
    Prop where
  requested : ∀ request, wait.request = some request →
    (request.requestId, wait.fingerprint) ∈ issued
  promised : ∀ decision, wait.promise = some (.ok decision) →
    Logged content wait.fingerprint decision
  finished : ∀ decision, wait.phase = .finished (.ok decision) →
    Logged content wait.fingerprint decision

def RecordSound (issued : List (String × String)) : ReviewApprovalRecord → Prop
  | .request request => (request.requestId, request.fingerprint) ∈ issued
  | .decision decision => (decision.requestId, decision.fingerprint) ∈ issued

structure DeciderSound (content : List Chunk) (issued : List (String × String))
    (phase : DeciderPhase) : Prop where
  appended : ∀ decision ok, phase = .appended decision ok →
    (decision.requestId, decision.fingerprint) ∈ issued
  written : ∀ decision, phase = .appended decision true →
    Logged content decision.fingerprint decision

def fingerprints (service : Service) : List String := service.waits.map Wait.fingerprint

/-- The invariant of the service. -/
structure Sound (service : Service) : Prop where
  issuedOnce : ∀ id left right, (id, left) ∈ service.issued → (id, right) ∈ service.issued →
    left = right
  requests : ∀ request, Chunk.text (.request request) ∈ service.content →
    (request.requestId, request.fingerprint) ∈ service.issued
  waits : ∀ wait ∈ service.waits, WaitSound service.content service.issued wait
  waiters : ∀ id index, service.pendingWaiters.get? id = some index →
    ∃ fingerprint, (fingerprints service)[index]? = some fingerprint ∧
      (id, fingerprint) ∈ service.issued
  flights : ∀ fingerprint index, service.inFlight.get? fingerprint = some index →
    (fingerprints service)[index]? = some fingerprint
  callers : ∀ caller ∈ service.callers,
    (fingerprints service)[caller.wait]? = some caller.fingerprint
  deciders : ∀ phase ∈ service.deciders, DeciderSound service.content service.issued phase
  writes : ∀ entry ∈ service.writes, RecordSound service.issued entry.2
  reports : ∀ report ∈ service.reports, Logged service.content report.fingerprint report.decision

theorem initial_sound (ownerId : String) : Sound (initial ownerId) := by
  constructor <;> intros <;> contradiction

theorem WaitSound.grows (sound : WaitSound content issued wait) (grown : content <+: longer)
    (extended : issued ⊆ more) : WaitSound longer more wait :=
  { requested := fun request isRequest => extended (sound.requested request isRequest)
    promised := fun decision isPromise => (sound.promised decision isPromise).grows grown
    finished := fun decision isFinished => (sound.finished decision isFinished).grows grown }

theorem DeciderSound.grows {phase : DeciderPhase} (sound : DeciderSound content issued phase)
    (grown : content <+: longer) (extended : issued ⊆ more) : DeciderSound longer more phase :=
  { appended := fun decision ok isPhase => extended (sound.appended decision ok isPhase)
    written := fun decision isPhase => (sound.written decision isPhase).grows grown }

theorem RecordSound.grows (sound : RecordSound issued record) (extended : issued ⊆ more) :
    RecordSound more record := by
  cases record with
  | request request | decision decision => exact extended sound

/-! ### Changing one wait -/

theorem mem_modify {α : Type} {items : List α} {change : α → α} {item : α}
    (member : item ∈ items.modify index change) :
    item ∈ items ∨ ∃ old, items[index]? = some old ∧ item = change old := by
  obtain ⟨place, found⟩ := List.mem_iff_getElem?.1 member
  rw [List.getElem?_modify] at found
  obtain ⟨old, isOld, isItem⟩ := Option.map_eq_some_iff.1 found
  by_cases here : index = place
  · rw [if_pos here] at isItem
    exact Or.inr ⟨old, here ▸ isOld, isItem.symm⟩
  · rw [if_neg here] at isItem
    rw [← isItem]
    exact Or.inl (List.mem_iff_getElem?.2 ⟨place, isOld⟩)

theorem map_modify {α β : Type} (view : α → β) (change : α → α)
    (keeps : ∀ item, view (change item) = view item) (items : List α) (index : Nat) :
    (items.modify index change).map view = items.map view := by
  apply List.ext_getElem?
  intro place
  rw [List.getElem?_map, List.getElem?_map, List.getElem?_modify, Option.map_eq_map, Option.map_map]
  congr 1
  funext item
  by_cases here : index = place
  · simp [here, keeps]
  · simp [here]

theorem Sound.withWaits (sound : Sound service) {waits : List Wait}
    (same : waits.map Wait.fingerprint = fingerprints service)
    (held : ∀ wait ∈ waits, WaitSound service.content service.issued wait) :
    Sound { service with waits := waits } :=
  { sound with
    waits := held
    waiters := by
      intro id index found
      rw [fingerprints, same]
      exact sound.waiters id index found
    flights := by
      intro fingerprint index found
      rw [fingerprints, same]
      exact sound.flights fingerprint index found
    callers := by
      intro caller member
      rw [fingerprints, same]
      exact sound.callers caller member }

theorem Sound.modifyWait (sound : Sound service) {change : Wait → Wait}
    (keeps : ∀ wait, (change wait).fingerprint = wait.fingerprint)
    (held : ∀ wait, service.waits[index]? = some wait → WaitSound service.content service.issued
      wait → WaitSound service.content service.issued (change wait)) :
    Sound (setWait index change service) := by
  refine sound.withWaits (map_modify _ _ keeps _ _) ?_
  intro wait member
  rcases mem_modify member with old | ⟨old, isOld, rfl⟩
  · exact sound.waits wait old
  · exact held old isOld (sound.waits old (List.mem_of_getElem? isOld))

variable {phase : WaitPhase}

theorem WaitSound.moveTo (sound : WaitSound content issued wait)
    (fresh : ∀ decision, phase = .finished (.ok decision) → Logged content wait.fingerprint
      decision) : WaitSound content issued (moveTo phase wait) :=
  { sound with finished := fresh }

theorem WaitSound.settle {outcome : Outcome} (sound : WaitSound content issued wait)
    (fresh : ∀ decision, outcome = .ok decision → Logged content wait.fingerprint decision) :
    WaitSound content issued (wait.settle outcome) :=
  { sound with
    promised := by
      intro decision isPromise
      cases held : wait.promise with
      | none =>
        simp only [Wait.settle, held, Option.getD_none, Option.some.injEq] at isPromise
        exact fresh decision isPromise
      | some first =>
        simp only [Wait.settle, held, Option.getD_some, Option.some.injEq] at isPromise
        rw [isPromise] at held
        exact sound.promised decision held }

theorem Sound.setWait_moveTo (sound : Sound service)
    (fresh : ∀ wait decision, service.waits[index]? = some wait → phase = .finished (.ok decision)
      → Logged service.content wait.fingerprint decision) :
    Sound (setWait index (moveTo phase) service) :=
  sound.modifyWait (fun _ => rfl)
    (fun wait isWait held => held.moveTo (fun decision => fresh wait decision isWait))

theorem Sound.forgetWaiters (sound : Sound service) (p : String → Bool) :
    Sound { service with pendingWaiters := service.pendingWaiters.restrict p } :=
  { sound with
    waiters := by
      intro id index found
      apply sound.waiters id index
      rw [OrderedMap.get?_eq_some_iff] at found ⊢
      exact (List.mem_filter.1 found).1 }

theorem Sound.settleWaiter (sound : Sound service) {outcome : Outcome}
    (fresh : ∀ decision fingerprint, outcome = .ok decision → (requestId, fingerprint) ∈
      service.issued → Logged service.content fingerprint decision) :
    Sound (settleWaiter requestId outcome service) := by
  unfold Host.settleWaiter
  cases found : service.pendingWaiters.get? requestId with
  | none => exact sound
  | some index =>
    obtain ⟨fingerprint, isFingerprint, isIssued⟩ := sound.waiters requestId index found
    refine (sound.forgetWaiters (fun key => key ≠ requestId)).modifyWait (fun _ => rfl) ?_
    intro wait isWait held
    refine held.settle ?_
    intro decision isOutcome
    have same : wait.fingerprint = fingerprint := by
      rw [fingerprints, List.getElem?_map, show service.waits[index]? = some wait from isWait]
        at isFingerprint
      exact Option.some.inj isFingerprint
    rw [same]
    exact fresh decision fingerprint isOutcome isIssued

theorem Sound.report (sound : Sound service) (logged : Logged service.content fingerprint decision) :
    Sound (report fingerprint decision service) :=
  { sound with
    reports := by
      intro item member
      rcases List.mem_append.1 member with old | new
      · exact sound.reports item old
      · rw [List.mem_singleton.1 new]
        exact logged }

theorem fingerprint_kept {extra : List Wait}
    (found : (fingerprints service)[index]? = some fingerprint) :
    ((service.waits ++ extra).map Wait.fingerprint)[index]? = some fingerprint := by
  have inside : index < (fingerprints service).length := (List.getElem?_eq_some_iff.1 found).1
  rw [List.map_append]
  exact (List.getElem?_append_left inside).trans found

theorem Sound.joinWait (sound : Sound service)
    (flight : service.inFlight.get? fingerprint = some index) :
    Sound (joinWait fingerprint index service) :=
  { sound with
    callers := by
      intro caller member
      rcases List.mem_append.1 member with old | new
      · exact sound.callers caller old
      · rw [List.mem_singleton.1 new]
        exact sound.flights fingerprint index flight }

theorem Sound.startWait (sound : Sound service) (action : ReviewApprovalAction) (subject : Json)
    (fingerprint : String) : Sound (startWait action subject fingerprint service) := by
  have newest : (fingerprints (Host.startWait action subject fingerprint service))[
      service.waits.length]? = some fingerprint := by
    simp [fingerprints, Host.startWait]
  exact
    { sound with
      waits := by
        intro wait member
        rcases List.mem_append.1 member with old | new
        · exact sound.waits wait old
        · rw [List.mem_singleton.1 new]
          constructor <;> intros <;> contradiction
      waiters := by
        intro id index found
        obtain ⟨held, isHeld, isIssued⟩ := sound.waiters id index found
        exact ⟨held, fingerprint_kept isHeld, isIssued⟩
      flights := by
        intro other index found
        rw [Host.startWait, OrderedMap.get?_set] at found
        by_cases same : other = fingerprint
        · rw [if_pos same] at found
          cases found
          rw [same]
          exact newest
        · rw [if_neg same] at found
          exact fingerprint_kept (sound.flights other index found)
      callers := by
        intro caller member
        rcases List.mem_append.1 member with old | new
        · exact fingerprint_kept (sound.callers caller old)
        · rw [List.mem_singleton.1 new]
          exact newest }

variable {digest : String → String}

theorem Sound.postDecisions (sound : Sound service) (header : Option String) (body : Json) :
    Sound (postDecisions digest header body service) := by
  unfold Host.postDecisions
  split
  · exact sound
  · split
    · dsimp only
      split
      · rename_i flight
        exact sound.joinWait flight
      · exact sound.startWait _ _ _
    · exact sound

theorem fingerprint_at (isWait : service.waits[index]? = some wait) :
    (fingerprints service)[index]? = some wait.fingerprint := by
  rw [fingerprints, List.getElem?_map, isWait]
  rfl

theorem Sound.register (sound : Sound service) (isWait : service.waits[index]? = some wait)
    (isIssued : (request.requestId, wait.fingerprint) ∈ service.issued)
    (open' : ∀ decision, phase ≠ .finished (.ok decision)) :
    Sound (register index request phase service) := by
  have changed : Sound (setWait index
      (fun wait => { wait with request := some request, phase := phase }) service) := by
    refine sound.modifyWait (fun _ => rfl) ?_
    intro other isOther held
    have same : other = wait := Option.some.inj (isOther.symm.trans isWait)
    subst same
    exact
      { held with
        requested := by
          intro chosen isChosen
          cases isChosen
          exact isIssued
        finished := fun decision isFinished => absurd isFinished (open' decision) }
  exact
    { changed with
      waiters := by
        intro id place found
        rw [Host.register, OrderedMap.get?_set] at found
        by_cases same : id = request.requestId
        · rw [if_pos same] at found
          cases found
          refine ⟨wait.fingerprint, ?_, same ▸ isIssued⟩
          have kept : fingerprints (Host.register index request phase service) =
              fingerprints service :=
            map_modify Wait.fingerprint
              (fun wait => { wait with request := some request, phase := phase }) (fun _ => rfl) _ _
          rw [kept]
          exact fingerprint_at isWait
        · rw [if_neg same] at found
          exact changed.waiters id place found }

theorem Sound.issue (sound : Sound service) (fingerprint : String) (writer : Writer)
    (isFresh : ∀ other, (requestId, other) ∉ service.issued)
    (recorded : RecordSound (service.issued ++ [(requestId, fingerprint)]) record) :
    Sound { service with
      issued := service.issued ++ [(requestId, fingerprint)]
      writes := service.writes ++ [(writer, record)] } := by
  have extended : service.issued ⊆ service.issued ++ [(requestId, fingerprint)] :=
    List.subset_append_left _ _
  exact
    { sound with
      issuedOnce := by
        intro id left right isLeft isRight
        rcases List.mem_append.1 isLeft with oldLeft | newLeft
        · rcases List.mem_append.1 isRight with oldRight | newRight
          · exact sound.issuedOnce id left right oldLeft oldRight
          · cases List.mem_singleton.1 newRight
            exact absurd oldLeft (isFresh left)
        · cases List.mem_singleton.1 newLeft
          rcases List.mem_append.1 isRight with oldRight | newRight
          · exact absurd oldRight (isFresh right)
          · cases List.mem_singleton.1 newRight
            rfl
      requests := fun request member => extended (sound.requests request member)
      waits := fun wait member =>
        (sound.waits wait member).grows (List.prefix_refl _) extended
      waiters := by
        intro id index found
        obtain ⟨held, isHeld, isIssued⟩ := sound.waiters id index found
        exact ⟨held, isHeld, extended isIssued⟩
      deciders := fun phase member =>
        (sound.deciders phase member).grows (List.prefix_refl _) extended
      writes := by
        intro entry member
        rcases List.mem_append.1 member with old | new
        · exact (sound.writes entry old).grows extended
        · rw [List.mem_singleton.1 new]
          exact recorded }

theorem seen_read {state : ReviewApprovalState} (isSeen : seen failed service = some state) :
    read service.content = some state := by
  unfold seen at isSeen
  split at isSeen
  · cases isSeen
  · exact isSeen

theorem Sound.afterWaitRead (sound : Sound service) {createdAt : String}
    (isWait : service.waits[index]? = some wait)
    (stepped : afterWaitRead index wait (seen failed service) requestId createdAt service = some
      after) : Sound after := by
  unfold Host.afterWaitRead at stepped
  split at stepped
  · cases stepped
    refine sound.setWait_moveTo ?_
    intro other decision _ isPhase
    cases isPhase
  · rename_i state isSeen
    have isRead := seen_read isSeen
    split at stepped
    · rename_i existing found
      cases stepped
      refine sound.setWait_moveTo ?_
      intro other decision isOther isPhase
      cases isPhase
      cases isOther.symm.trans isWait
      exact read_decision isRead found
    · split at stepped
      · rename_i pending found
        cases stepped
        obtain ⟨member, same⟩ := read_request isRead found
        refine sound.register isWait ?_ (fun _ impossible => by cases impossible)
        have isIssued := sound.requests pending member
        rw [same] at isIssued
        exact isIssued
      · split at stepped
        · cases stepped
        · rename_i fresh
          cases stepped
          have isFresh : ∀ other, (requestId, other) ∉ service.issued := by
            intro other member
            exact fresh (List.any_eq_true.2 ⟨_, member, decide_eq_true rfl⟩)
          have recorded : RecordSound (service.issued ++ [(requestId, wait.fingerprint)])
              (.request (newRequest service wait requestId createdAt)) :=
            List.mem_append_right _ List.mem_cons_self
          have issued := sound.issue wait.fingerprint (.wait index) isFresh recorded
          exact issued.register isWait (List.mem_append_right _ List.mem_cons_self)
            (fun _ impossible => by cases impossible)

theorem Sound.afterWaitReread (sound : Sound service) (isWait : service.waits[index]? = some wait)
    (isRequest : wait.request = some request) :
    Sound (afterWaitReread index wait request (seen failed service) service) := by
  unfold Host.afterWaitReread
  split
  · refine sound.setWait_moveTo ?_
    intro other decision _ isPhase
    cases isPhase
  · rename_i state isSeen
    have returned : Sound (setWait index (moveTo .returned) service) := by
      refine sound.setWait_moveTo ?_
      intro other decision _ isPhase
      cases isPhase
    dsimp only
    split
    · exact returned
    · rename_i decided found
      refine returned.settleWaiter ?_
      intro decision fingerprint isOutcome isIssued
      cases isOutcome
      have held := (sound.waits wait (List.mem_of_getElem? isWait)).requested request isRequest
      rw [sound.issuedOnce _ _ _ isIssued held]
      exact read_decision (seen_read isSeen) found

theorem Sound.timeOut (sound : Sound service) (index : Nat) (request : ReviewApprovalRequest) :
    Sound (timeOut index request service) := by
  refine (sound.forgetWaiters (fun key => key ≠ request.requestId)).modifyWait (fun _ => rfl) ?_
  intro wait _ held
  exact held.settle (fun _ impossible => by cases impossible)

theorem Sound.leaveFlight (sound : Sound service) (caller : Caller) :
    Sound (leaveFlight caller service) := by
  unfold Host.leaveFlight
  split
  · exact
      { sound with
        flights := by
          intro fingerprint index found
          apply sound.flights fingerprint index
          rw [OrderedMap.get?_eq_some_iff] at found ⊢
          exact (List.mem_filter.1 found).1 }
  · exact sound

theorem leaveFlight_content (caller : Caller) (service : Service) :
    (leaveFlight caller service).content = service.content := by
  unfold leaveFlight
  split <;> rfl

theorem Wait.outcome_sound (sound : WaitSound content issued wait)
    (isOutcome : wait.outcome = some (.ok decision)) :
    Logged content wait.fingerprint decision := by
  unfold Wait.outcome at isOutcome
  split at isOutcome
  · rename_i outcome isPhase
    cases isOutcome
    exact sound.finished decision isPhase
  · exact sound.promised decision isOutcome
  · cases isOutcome

theorem Sound.answerCaller (sound : Sound service) {caller : Caller} {outcome : Outcome}
    (isCaller : service.callers[index]? = some caller)
    (isOutcome : service.waits[caller.wait]?.bind Wait.outcome = some outcome) :
    Sound (answerCaller index caller outcome service) := by
  have answered : Sound
      { service with callers := service.callers.set index { caller with answered := true } } :=
    { sound with
      callers := by
        intro other member
        rcases List.mem_or_eq_of_mem_set member with old | new
        · exact sound.callers other old
        · rw [new]
          exact sound.callers caller (List.mem_of_getElem? isCaller) }
  have left := answered.leaveFlight caller
  unfold Host.answerCaller
  cases outcome with
  | error error => exact left
  | ok decision =>
    refine left.report ?_
    obtain ⟨wait, isWait, hasOutcome⟩ := Option.bind_eq_some_iff.1 isOutcome
    have logged := Wait.outcome_sound (sound.waits wait (List.mem_of_getElem? isWait)) hasOutcome
    have same := (fingerprint_at isWait).symm.trans
      (sound.callers caller (List.mem_of_getElem? isCaller))
    rw [Option.some.inj same] at logged
    rw [leaveFlight_content]
    exact logged

/-! ### The steps of a decision -/

theorem Sound.setDecider (sound : Sound service) (index : Nat) {phase : DeciderPhase}
    (held : DeciderSound service.content service.issued phase) :
    Sound { service with deciders := service.deciders.set index phase } :=
  { sound with
    deciders := by
      intro other member
      rcases List.mem_or_eq_of_mem_set member with old | new
      · exact sound.deciders other old
      · rw [new]
        exact held }

theorem answered_sound (content : List Chunk) (issued : List (String × String)) :
    DeciderSound content issued .answered := by
  constructor <;> intros <;> contradiction

theorem Sound.afterDecisionRead (sound : Sound service) {approved : Bool} {decidedAt : String} :
    Sound (afterDecisionRead index requestId approved (seen failed service) decidedAt service) := by
  have answered := sound.setDecider index (answered_sound _ _)
  unfold Host.afterDecisionRead
  dsimp only
  split
  · exact answered
  · rename_i state isSeen
    have isRead := seen_read isSeen
    split
    · exact answered
    · rename_i pending found
      have isIssued := sound.requests pending
        (read_request_value isRead (List.mem_of_find?_eq_some found))
      have isId := List.find?_some found
      rw [decide_eq_true_eq] at isId
      rw [isId] at isIssued
      split
      · rename_i current isCurrent
        exact answered.report (read_decision isRead isCurrent)
      · have undecided : DeciderSound service.content service.issued
            (.appending ⟨requestId, pending.fingerprint, service.ownerId, approved,
              service.ownerId, decidedAt⟩) := by
          constructor <;> intros <;> contradiction
        have appending := sound.setDecider index undecided
        exact
          { appending with
            writes := by
              intro entry member
              rcases List.mem_append.1 member with old | new
              · exact sound.writes entry old
              · rw [List.mem_singleton.1 new]
                exact isIssued }

theorem settleWaiter_content (requestId : String) (outcome : Outcome) (service : Service) :
    (settleWaiter requestId outcome service).content = service.content := by
  unfold settleWaiter
  split <;> rfl

theorem Sound.afterDecisionAppended (sound : Sound service) {ok : Bool}
    (isPhase : service.deciders[index]? = some (.appended decision ok)) :
    Sound (afterDecisionAppended index decision ok service) := by
  have held := sound.deciders _ (List.mem_of_getElem? isPhase)
  have answered := sound.setDecider index (answered_sound _ _)
  unfold Host.afterDecisionAppended
  dsimp only
  cases ok with
  | false => exact answered
  | true =>
    have logged := held.written decision rfl
    refine (answered.settleWaiter ?_).report ?_
    · intro other fingerprint isOutcome isIssued
      cases isOutcome
      rw [sound.issuedOnce _ _ _ isIssued (held.appended decision true rfl)]
      exact logged
    · rw [settleWaiter_content]
      exact logged

theorem text_mem_chunks {other : ReviewApprovalRecord} {written : Written}
    (member : Chunk.text other ∈ written.chunks record) : other = record := by
  cases written <;> simp_all [Written.chunks]

theorem Sound.written (sound : Sound service) (written : Written) {writer : Writer}
    {rest : List (Writer × ReviewApprovalRecord)}
    (isNext : service.writes = (writer, record) :: rest) :
    Sound { service with content := service.content ++ written.chunks record, writes := rest } := by
  have grown : service.content <+: service.content ++ written.chunks record :=
    List.prefix_append _ _
  have recorded : RecordSound service.issued record :=
    sound.writes (writer, record) (isNext ▸ List.mem_cons_self)
  exact
    { sound with
      requests := by
        intro request member
        rcases List.mem_append.1 member with old | new
        · exact sound.requests request old
        · cases text_mem_chunks new
          exact recorded
      waits := fun wait member => (sound.waits wait member).grows grown (List.Subset.refl _)
      deciders := fun phase member =>
        (sound.deciders phase member).grows grown (List.Subset.refl _)
      writes := by
        intro entry member
        exact sound.writes entry (isNext ▸ List.mem_cons_of_mem _ member)
      reports := fun report member => (sound.reports report member).grows grown }

theorem Sound.performWrite (sound : Sound service) {written : Written} {ok : Bool}
    (stepped : performWrite written ok service = some after) : Sound after := by
  unfold Host.performWrite at stepped
  split at stepped
  · cases stepped
  · rename_i writer record rest isNext
    split at stepped
    · cases stepped
    · rename_i allowed
      cases stepped
      have grown := sound.written written isNext
      have recorded : RecordSound service.issued record :=
        sound.writes (writer, record) (isNext ▸ List.mem_cons_self)
      cases writer with
      | wait index =>
        refine grown.setWait_moveTo ?_
        intro wait decision _ isPhase
        cases isPhase
      | decider index =>
        cases record with
        | request request => exact grown
        | decision decision =>
          refine grown.setDecider index ⟨?_, ?_⟩
          · intro other answered isPhase
            cases isPhase
            exact recorded
          · intro other isPhase
            cases isPhase
            have line : written = .line := by
              by_contra other
              exact allowed (by simp [other])
            subst line
            exact logged_iff.2 ⟨List.mem_append_right _ List.mem_cons_self, rfl⟩

theorem Sound.closeWaiters (sound : Sound service) : Sound (closeWaiters service) := by
  have rejected : ∀ (indexes : List Nat) (waits : List Wait),
      waits.map Wait.fingerprint = fingerprints service →
      (∀ wait ∈ waits, WaitSound service.content service.issued wait) →
      let changed := indexes.foldl
        (fun waits index => waits.modify index (Wait.settle (.error .closed))) waits
      changed.map Wait.fingerprint = fingerprints service ∧
        ∀ wait ∈ changed, WaitSound service.content service.issued wait := by
    intro indexes
    induction indexes with
    | nil => exact fun waits same held => ⟨same, held⟩
    | cons index rest ih =>
      intro waits same held
      apply ih
      · exact (map_modify Wait.fingerprint (Wait.settle (.error .closed)) (fun _ => rfl) waits
          index).trans same
      · intro wait member
        rcases mem_modify member with old | ⟨old, isOld, rfl⟩
        · exact held wait old
        · exact (held old (List.mem_of_getElem? isOld)).settle
            (fun _ impossible => by cases impossible)
  obtain ⟨same, held⟩ := rejected service.pendingWaiters.values service.waits rfl sound.waits
  exact
    { sound.withWaits same held with
      waiters := fun id index found => by cases found }

theorem Sound.restart (sound : Sound service) (ownerId : String) :
    Sound (restart ownerId service) :=
  { sound with
    waits := nofun
    waiters := fun _ _ found => by cases found
    flights := fun _ _ found => by cases found
    callers := nofun
    deciders := nofun
    writes := nofun }

theorem Sound.step (step : Step digest before label after) (sound : Sound before) :
    Sound after := by
  unfold Step at step
  cases label with
  | decisionsPosted header body =>
    cases step
    exact sound.postDecisions header body
  | waitRead index failed requestId createdAt =>
    simp only [advance] at step
    split at step
    · rename_i wait isWait
      split at step
      · exact sound.afterWaitRead isWait step
      · cases step
    · cases step
  | wrote written ok => exact sound.performWrite step
  | waitAppended index =>
    simp only [advance] at step
    split at step
    · rename_i wait isWait
      split at step
      · cases step
        refine sound.setWait_moveTo ?_
        intro other decision _ isPhase
        cases isPhase
      · cases step
        refine (sound.settleWaiter ?_).setWait_moveTo ?_
        · intro decision fingerprint isOutcome
          cases isOutcome
        · intro other decision _ isPhase
          cases isPhase
      · cases step
    · cases step
  | waitReread index failed =>
    simp only [advance] at step
    split at step
    · rename_i wait isWait
      split at step
      · rename_i request isPhase isRequest
        cases step
        exact sound.afterWaitReread isWait isRequest
      · cases step
    · cases step
  | timedOut index =>
    simp only [advance] at step
    split at step
    · split at step
      · cases step
        exact sound.timeOut _ _
      · cases step
    · cases step
  | callerAnswered index =>
    simp only [advance] at step
    split at step
    · rename_i caller isCaller
      split at step
      · rename_i outcome _ isOutcome
        cases step
        exact sound.answerCaller isCaller isOutcome
      · cases step
    · cases step
  | decisionPosted header body requestId =>
    simp only [advance] at step
    split at step
    · cases step
      exact sound
    · cases step
      exact
        { sound with
          deciders := by
            intro phase member
            rcases List.mem_append.1 member with old | new
            · exact sound.deciders phase old
            · rw [List.mem_singleton.1 new]
              constructor <;> intros <;> contradiction }
  | decisionRead index failed decidedAt =>
    simp only [advance] at step
    split at step
    · cases step
      exact sound.afterDecisionRead
    · cases step
  | decisionAppended index =>
    simp only [advance] at step
    split at step
    · rename_i decision ok isPhase
      cases step
      exact sound.afterDecisionAppended isPhase
    · cases step
  | closed =>
    cases step
    exact sound.closeWaiters
  | restarted ownerId =>
    cases step
    exact sound.restart ownerId

/-! ### The log over a run -/

theorem performWrite_content {written : Written} {ok : Bool}
    (stepped : performWrite written ok service = some after) :
    ∃ writer record rest, service.writes = (writer, record) :: rest ∧
      after.content = service.content ++ written.chunks record := by
  unfold performWrite at stepped
  split at stepped
  · cases stepped
  · rename_i writer record rest isNext
    split at stepped
    · cases stepped
    · cases stepped
      refine ⟨writer, record, rest, isNext, ?_⟩
      unfold notifyWriter
      split <;> rfl

theorem afterWaitRead_content {state : Option ReviewApprovalState} {createdAt : String}
    (stepped : afterWaitRead index wait state requestId createdAt service = some after) :
    after.content = service.content := by
  unfold afterWaitRead at stepped
  split at stepped
  · cases stepped
    rfl
  · split at stepped
    · cases stepped
      rfl
    · split at stepped
      · cases stepped
        rfl
      · split at stepped
        · cases stepped
        · cases stepped
          rfl

theorem step_content (step : Step digest before label after) :
    after.content = before.content ∨
      ∃ written ok writer record rest, label = .wrote written ok ∧
        before.writes = (writer, record) :: rest ∧
        after.content = before.content ++ written.chunks record := by
  unfold Step at step
  cases label with
  | wrote written ok =>
    obtain ⟨writer, record, rest, isNext, content⟩ := performWrite_content step
    exact Or.inr ⟨written, ok, writer, record, rest, rfl, isNext, content⟩
  | decisionsPosted header body =>
    cases step
    unfold postDecisions
    split
    · exact Or.inl rfl
    · split
      · dsimp only
        split <;> exact Or.inl rfl
      · exact Or.inl rfl
  | waitRead index failed requestId createdAt =>
    simp only [advance] at step
    split at step
    · split at step
      · exact Or.inl (afterWaitRead_content step)
      · cases step
    · cases step
  | waitAppended index =>
    simp only [advance] at step
    split at step
    · split at step
      · cases step
        exact Or.inl rfl
      · cases step
        exact Or.inl (settleWaiter_content _ _ _)
      · cases step
    · cases step
  | waitReread index failed =>
    simp only [advance] at step
    split at step
    · split at step
      · cases step
        unfold afterWaitReread
        split
        · exact Or.inl rfl
        · dsimp only
          split
          · exact Or.inl rfl
          · exact Or.inl (settleWaiter_content _ _ _)
      · cases step
    · cases step
  | timedOut index =>
    simp only [advance] at step
    split at step
    · split at step
      · cases step
        exact Or.inl rfl
      · cases step
    · cases step
  | callerAnswered index =>
    simp only [advance] at step
    split at step
    · split at step
      · cases step
        unfold answerCaller
        split <;> exact Or.inl (leaveFlight_content _ _)
      · cases step
    · cases step
  | decisionPosted header body requestId =>
    simp only [advance] at step
    split at step <;> cases step <;> exact Or.inl rfl
  | decisionRead index failed decidedAt =>
    simp only [advance] at step
    split at step
    · cases step
      unfold afterDecisionRead
      dsimp only
      split
      · exact Or.inl rfl
      · split
        · exact Or.inl rfl
        · split <;> exact Or.inl rfl
    · cases step
  | decisionAppended index =>
    simp only [advance] at step
    split at step
    · cases step
      unfold afterDecisionAppended
      dsimp only
      split
      · exact Or.inl (settleWaiter_content _ _ _)
      · exact Or.inl rfl
    · cases step
  | closed | restarted ownerId =>
    cases step
    exact Or.inl rfl

theorem step_grows (step : Step digest before label after) : before.content <+: after.content := by
  rcases step_content step with same | ⟨written, ok, writer, record, rest, _, _, content⟩
  · rw [same]
  · rw [content]
    exact List.prefix_append _ _

/-- The next append gives a fingerprint a second decision. -/
def writesSecond (service : Service) : Label → Bool
  | .wrote written _ =>
    match service.writes with
    | (_, .decision decision) :: _ =>
      written.whole && !(decisionsFor service.content decision.fingerprint).isEmpty
    | _ => false
  | _ => false

theorem decisionsFor_request (request : ReviewApprovalRequest) (written : Written)
    (fingerprint : String) : decisionsFor (written.chunks (.request request)) fingerprint = [] := by
  cases written <;> rfl

theorem decisionsFor_unwritten {written : Written} (isCut : written.whole = false)
    (record : ReviewApprovalRecord) (fingerprint : String) :
    decisionsFor (written.chunks record) fingerprint = [] := by
  cases written with
  | nothing => rfl
  | part => rfl
  | text => cases isCut
  | line => cases isCut

theorem decisionsFor_written {written : Written} (isWhole : written.whole = true)
    (decision : ReviewApprovalDecision) (fingerprint : String) :
    decisionsFor (written.chunks (.decision decision)) fingerprint =
      if decision.fingerprint = fingerprint then [decision] else [] := by
  have isFilter : decisionsFor (written.chunks (.decision decision)) fingerprint =
      [decision].filter (fun decision => decision.fingerprint = fingerprint) := by
    cases written with
    | nothing => cases isWhole
    | part => cases isWhole
    | text => rfl
    | line => rfl
  rw [isFilter]
  by_cases same : decision.fingerprint = fingerprint
  · simp [same]
  · simp [same]

def Single (content : List Chunk) : Prop :=
  ∀ fingerprint, (decisionsFor content fingerprint).length ≤ 1

theorem Single.step (step : Step digest before label after)
    (first : writesSecond before label = false) (single : Single before.content) :
    Single after.content := by
  rcases step_content step with same | ⟨written, ok, writer, record, rest, isLabel, isNext, grown⟩
  · rw [same]
    exact single
  · intro fingerprint
    rw [grown, decisionsFor_append, List.length_append]
    have held := single fingerprint
    cases record with
    | request request =>
      rw [decisionsFor_request]
      exact held
    | decision decision =>
      cases isWhole : written.whole with
      | false =>
        rw [decisionsFor_unwritten isWhole]
        exact held
      | true =>
        rw [decisionsFor_written isWhole]
        by_cases same : decision.fingerprint = fingerprint
        · have none : decisionsFor before.content fingerprint = [] := by
            subst isLabel
            simpa [writesSecond, isNext, isWhole, same] using first
          rw [none, if_pos same]
          exact Nat.le_refl 1
        · rw [if_neg same]
          exact held

theorem not_single_of_second (step : Step digest before label after)
    (second : writesSecond before label = true) :
    ∃ fingerprint, 2 ≤ (decisionsFor after.content fingerprint).length := by
  cases label with
  | wrote written ok =>
    obtain ⟨writer, record, rest, isNext, grown⟩ := performWrite_content step
    simp only [writesSecond, isNext] at second
    cases record with
    | request request => cases second
    | decision decision =>
    rw [Bool.and_eq_true, Bool.not_eq_true', List.isEmpty_eq_false_iff] at second
    obtain ⟨isWhole, some⟩ := second
    refine ⟨decision.fingerprint, ?_⟩
    have one := List.length_pos_iff.2 some
    rw [grown, decisionsFor_append, decisionsFor_written isWhole, if_pos rfl, List.length_append,
      List.length_singleton]
    omega
  | _ => cases second

/-- No fingerprint has two decisions: not in the log, not in the responses so
far, not in what a waiting call has been given or any later call reads. -/
structure Final (service : Service) : Prop where
  single : Single service.content
  reports : ∀ left ∈ service.reports, ∀ right ∈ service.reports,
    left.fingerprint = right.fingerprint → left.decision = right.decision
  waits : ∀ report ∈ service.reports, ∀ wait ∈ service.waits,
    wait.fingerprint = report.fingerprint →
    ∀ decision, wait.outcome = some (.ok decision) → decision = report.decision
  reads : ∀ report ∈ service.reports, ∀ state, read service.content = some state →
    state.decisions.get? report.fingerprint = some report.decision

theorem Single.same {left right : ReviewApprovalDecision} (single : Single content)
    (isLeft : Logged content fingerprint left) (isRight : Logged content fingerprint right) :
    left = right := by
  have bound := single fingerprint
  unfold Logged at isLeft isRight
  cases found : decisionsFor content fingerprint with
  | nil =>
    rw [found] at isLeft
    exact absurd isLeft List.not_mem_nil
  | cons first rest =>
    rw [found] at isLeft isRight bound
    have isEmpty : rest = [] := by
      rw [List.length_cons] at bound
      exact List.eq_nil_of_length_eq_zero (by omega)
    rw [isEmpty] at isLeft isRight
    exact (List.mem_singleton.1 isLeft).trans (List.mem_singleton.1 isRight).symm

theorem Sound.final (sound : Sound service) (single : Single service.content) : Final service := by
  refine ⟨single, ?_, ?_, ?_⟩
  · intro left isLeft right isRight same
    have leftLogged := sound.reports left isLeft
    rw [same] at leftLogged
    exact single.same leftLogged (sound.reports right isRight)
  · intro report isReport wait isWait same decision isOutcome
    have logged := Wait.outcome_sound (sound.waits wait isWait) isOutcome
    rw [same] at logged
    exact single.same logged (sound.reports report isReport)
  · intro report isReport state isRead
    have logged := sound.reports report isReport
    cases found : state.decisions.get? report.fingerprint with
    | none => exact absurd logged (read_no_decision isRead found _)
    | some decision => rw [single.same (read_decision isRead found) logged]

/-- The digest of the one subject that the runs below ask about. -/
def effectDigest (_text : String) : String :=
  "764d672cd5ca0e293a6233835b24721ed25af7c713bdb159b8fa898fad025da4"

/-- A call waits for a decision about an effect, and its request is written. -/
def effectAsked : List Label :=
  [.decisionsPosted (some "owner-local") (.obj [("ownerId", .str "owner-local"),
      ("action", .str "approve_effect"), ("effectKey", .str "effect:local-1")]),
    .waitRead 0 false "review-request:1" "2026-08-23T00:00:00.000Z",
    .wrote .line true, .waitAppended 0, .waitReread 0 false]

def decided (approved : Bool) : Label :=
  .decisionPosted (some "owner-local")
    (.obj [("ownerId", .str "owner-local"), ("approved", .bool approved)])
    (some "review-request:1")

def decidedOnce : List Label :=
  effectAsked ++ [decided true, .decisionRead 0 false "2026-08-23T00:01:00.000Z",
    .wrote .line true, .decisionAppended 0, .callerAnswered 0, .restarted "owner-local",
    decided false, .decisionRead 0 false "2026-08-23T00:02:00.000Z"]

/-- Two answers read the log before either of them is written. -/
def decidedTwice : List Label :=
  effectAsked ++ [decided true, decided false,
    .decisionRead 0 false "2026-08-23T00:01:00.000Z",
    .decisionRead 1 false "2026-08-23T00:01:00.001Z",
    .wrote .line true, .wrote .line true, .decisionAppended 0, .decisionAppended 1,
    .callerAnswered 0]

def effectRun (labels : List Label) : List (Move Service Label) × Service :=
  follow (advance effectDigest) labels (initial "owner-local")

theorem effectRun_run (labels : List Label) :
    Run (Step effectDigest) (initial "owner-local") (effectRun labels).1 (effectRun labels).2 :=
  follow_run (fun _ _ _ stepped => stepped) labels _

end AnnaAgent.Host
