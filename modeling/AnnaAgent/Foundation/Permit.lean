/-
Permits that are granted once and spent once.

Some requests of an interleaved system need a permit for a key, and only the
answer to another request grants it, at a moment when the shared state turns
from "not spent" to "spent" for that key.  A program abides by this when it
makes a request that needs a permit only while it holds that permit, against
every interference that respects the protocol's preorder.  Whatever the
interleaving, the requests that need a permit for one key then happen at most
once, and not at all while the key is not spent.
-/

import AnnaAgent.Foundation.Interleaving

namespace AnnaAgent.Foundation

structure Protocol (Shared Owner Request : Type) (Response : Request → Type)
    (Error Key : Type) where
  host : Host Shared Owner Request Response Error
  /-- What a program may rely on between two of its requests. -/
  later : Shared → Shared → Prop
  respects : host.Respects later
  grants : (request : Request) → Except Error (Response request) → Option Key
  needs : Request → Option Key
  spent : Key → Shared → Prop
  stays : ∀ {key before after}, later before after → spent key before → spent key after
  exclusive : ∀ {request key}, needs request = some key → ∀ answer, grants request answer = none

namespace Protocol

variable {Shared Owner Request : Type} {Response : Request → Type} {Error Key α β : Type}
  (protocol : Protocol Shared Owner Request Response Error Key)

/-- The permit held after a request: a new one replaces the old one, and a
request that needs one uses it up. -/
def heldAfter (held : Option Key) (request : Request)
    (answer : Except Error (Response request)) : Option Key :=
  match protocol.grants request answer with
  | some key => some key
  | none => if (protocol.needs request).isSome then none else held

def Abides (owner : Owner) (program : Program Request Response Error α) (held : Option Key)
    (shared : Shared) : Prop :=
  match program with
  | .pure _ => True
  | .throw _ => True
  | .ask request next =>
    (∀ key, protocol.needs request = some key → held = some key) ∧
      ∀ before, protocol.later shared before → ∀ answer after,
        protocol.host.performs owner request before answer after →
        (∀ key, protocol.grants request answer = some key →
          ¬ protocol.spent key before ∧ protocol.spent key after) ∧
        Abides owner (next answer) (protocol.heldAfter held request answer) after

variable {protocol} {owner : Owner} {held : Option Key} {shared : Shared}
  {program : Program Request Response Error α}

theorem abides_later {now : Shared} (abides : protocol.Abides owner program held shared)
    (later : protocol.later shared now) :
    protocol.Abides owner program held now := by
  cases program with
  | pure value => exact trivial
  | throw error => exact trivial
  | ask request next =>
    refine ⟨abides.1, ?_⟩
    intro before beforeLater
    exact abides.2 before (protocol.respects.trans later beforeLater)

theorem abides_weaken (abides : protocol.Abides owner program none shared) :
    protocol.Abides owner program held shared := by
  induction program generalizing shared held with
  | pure value => exact trivial
  | throw error => exact trivial
  | ask request next ih =>
    rcases abides with ⟨needsHeld, goesOn⟩
    have unneeded : protocol.needs request = none := by
      cases needed : protocol.needs request with
      | none => rfl
      | some key => exact absurd (needsHeld key needed) (by intro same; cases same)
    refine ⟨?_, ?_⟩
    · intro key needed
      rw [unneeded] at needed
      cases needed
    · intro before beforeLater answer after performed
      obtain ⟨granted, rest⟩ := goesOn before beforeLater answer after performed
      refine ⟨granted, ?_⟩
      unfold heldAfter at rest ⊢
      split at rest
      · exact rest
      · simp only [unneeded, Option.isSome_none, Bool.false_eq_true, if_false] at rest ⊢
        exact ih answer rest

theorem abides_bind {next : α → Program Request Response Error β}
    (first : protocol.Abides owner program held shared)
    (second : ∀ value now, protocol.later shared now → protocol.Abides owner (next value) none now) :
    protocol.Abides owner (program.bind next) held shared := by
  induction program generalizing shared held with
  | pure value => exact abides_weaken (second value shared (protocol.respects.refl shared))
  | throw error => exact trivial
  | ask request more ih =>
    refine ⟨first.1, ?_⟩
    intro before beforeLater answer after performed
    obtain ⟨granted, rest⟩ := first.2 before beforeLater answer after performed
    refine ⟨granted, ih answer rest ?_⟩
    intro value now nowLater
    exact second value now (protocol.respects.trans beforeLater
      (protocol.respects.trans (protocol.respects.performs performed) nowLater))

theorem abides_tryFinally {body : Program Request Response Error α}
    {cleanup : Program Request Response Error Unit}
    (abides : protocol.Abides owner body held shared)
    (cleans : ∀ now, protocol.later shared now → protocol.Abides owner cleanup none now) :
    protocol.Abides owner (body.tryFinally cleanup) held shared := by
  induction body generalizing shared held with
  | pure value | throw error =>
    exact abides_bind (abides_weaken (cleans shared (protocol.respects.refl shared)))
      (fun _ _ _ => trivial)
  | ask request more ih =>
    refine ⟨abides.1, ?_⟩
    intro before beforeLater answer after performed
    obtain ⟨granted, rest⟩ := abides.2 before beforeLater answer after performed
    refine ⟨granted, ih answer rest ?_⟩
    intro now nowLater
    exact cleans now (protocol.respects.trans beforeLater
      (protocol.respects.trans (protocol.respects.performs performed) nowLater))

theorem abides_forEach {items : List α} {body : α → Program Request Response Error Unit}
    (abides : ∀ item ∈ items, ∀ now, protocol.later shared now →
      protocol.Abides owner (body item) none now) :
    protocol.Abides owner (Program.forEach items body) none shared := by
  induction items generalizing shared with
  | nil => exact trivial
  | cons item rest ih =>
    refine abides_bind (abides item List.mem_cons_self shared (protocol.respects.refl shared)) ?_
    intro _ now nowLater
    apply ih
    intro other member later laterNow
    exact abides other (List.mem_cons_of_mem _ member) later
      (protocol.respects.trans nowLater laterNow)

theorem abides_lift_bind {value : Except Error α} {next : α → Program Request Response Error β}
    (abides : ∀ result, value = .ok result → protocol.Abides owner (next result) held shared) :
    protocol.Abides owner ((Program.lift value).bind next) held shared := by
  cases value with
  | error error => exact trivial
  | ok result => exact abides result rfl

/-- A request that neither needs nor grants a permit. -/
def Plain (protocol : Protocol Shared Owner Request Response Error Key) (request : Request) :
    Prop :=
  protocol.needs request = none ∧ ∀ answer, protocol.grants request answer = none

variable {request : Request} {next : Response request → Program Request Response Error β}

theorem abides_call (plain : protocol.Plain request)
    (abides : ∀ before, protocol.later shared before → ∀ value after, protocol.host.performs owner request before (.ok value) after → protocol.Abides owner (next value) held after) :
    protocol.Abides owner ((Program.call request).bind next) held shared := by
  rw [Program.call_bind]
  refine ⟨?_, ?_⟩
  · intro key needed
    rw [plain.1] at needed
    cases needed
  · intro before beforeLater answer after performed
    refine ⟨?_, ?_⟩
    · intro key granted
      rw [plain.2 answer] at granted
      cases granted
    · have keeps : protocol.heldAfter held request answer = held := by
        unfold heldAfter
        rw [plain.2 answer, plain.1]
        rfl
      rw [keeps]
      cases answer with
      | error error => exact trivial
      | ok value => exact abides before beforeLater value after performed

/-- A request whose answer says nothing the rest depends on. -/
theorem abides_call_any (plain : protocol.Plain request)
    (abides : ∀ value now, protocol.later shared now → protocol.Abides owner (next value) held now) :
    protocol.Abides owner ((Program.call request).bind next) held shared :=
  abides_call plain (fun _ beforeLater value after performed =>
    abides value after (protocol.respects.trans beforeLater (protocol.respects.performs performed)))

theorem abides_request (plain : protocol.Plain request) :
    protocol.Abides owner (Program.call request) held shared := by
  refine ⟨?_, ?_⟩
  · intro key needed
    rw [plain.1] at needed
    cases needed
  · intro before beforeLater answer after performed
    refine ⟨?_, ?_⟩
    · intro key granted
      rw [plain.2 answer] at granted
      cases granted
    · cases answer with
      | error error => exact trivial
      | ok value => exact trivial

/-- A request that uses the permit up. -/
theorem abides_spend {key : Key} (needed : protocol.needs request = some key)
    (abides : ∀ value now, protocol.later shared now → protocol.Abides owner (next value) none now) :
    protocol.Abides owner ((Program.call request).bind next) (some key) shared := by
  rw [Program.call_bind]
  refine ⟨?_, ?_⟩
  · intro other neededOther
    rw [← neededOther, needed]
  · intro before beforeLater answer after performed
    have ungranted := protocol.exclusive needed answer
    refine ⟨?_, ?_⟩
    · intro other granted
      rw [ungranted] at granted
      cases granted
    · cases answer with
      | error error => exact trivial
      | ok value =>
        exact abides_weaken (abides value after (protocol.respects.trans beforeLater
          (protocol.respects.performs performed)))

theorem abides_grant (unneeded : protocol.needs request = none)
    (fresh : ∀ before, protocol.later shared before → ∀ answer after, protocol.host.performs owner request before answer after → ∀ key, protocol.grants request answer = some key → ¬ protocol.spent key before ∧ protocol.spent key after)
    (abides : ∀ value now, protocol.later shared now → protocol.Abides owner (next value) (protocol.grants request (.ok value)) now) :
    protocol.Abides owner ((Program.call request).bind next) none shared := by
  rw [Program.call_bind]
  refine ⟨?_, ?_⟩
  · intro key needed
    rw [unneeded] at needed
    cases needed
  · intro before beforeLater answer after performed
    refine ⟨fresh before beforeLater answer after performed, ?_⟩
    cases answer with
    | error error => exact trivial
    | ok value =>
      have isHeld : protocol.heldAfter none request (.ok value) =
          protocol.grants request (.ok value) := by
        unfold heldAfter
        rw [unneeded]
        cases protocol.grants request (.ok value) with
        | none => rfl
        | some key => rfl
      rw [isHeld]
      exact abides value after (protocol.respects.trans beforeLater
        (protocol.respects.performs performed))

/-- The parts of a nested program can be taken one after the other. -/
theorem abides_assoc {γ : Type} {next : α → Program Request Response Error β}
    {rest : β → Program Request Response Error γ}
    (abides : protocol.Abides owner (program.bind (fun value => (next value).bind rest)) held shared) :
    protocol.Abides owner ((program.bind next).bind rest) held shared := by
  rw [Program.bind_assoc]
  exact abides

theorem abides_attempt (abides : protocol.Abides owner program held shared) :
    protocol.Abides owner program.attempt held shared := by
  induction program generalizing shared held with
  | pure value => exact trivial
  | throw error => exact trivial
  | ask request more ih =>
    refine ⟨abides.1, ?_⟩
    intro before beforeLater answer after performed
    obtain ⟨granted, rest⟩ := abides.2 before beforeLater answer after performed
    exact ⟨granted, ih answer rest⟩

/-- A last request that uses the permit up. -/
theorem abides_spend_request {key : Key} (needed : protocol.needs request = some key) :
    protocol.Abides owner (Program.call request) (some key) shared := by
  have spends : protocol.Abides owner ((Program.call request).bind Program.pure) (some key) shared :=
    abides_spend needed (fun _ _ _ => trivial)
  rw [Program.call_bind] at spends
  exact spends

theorem abides_built {part : (γ : Type) → Program Request Response Error γ → Prop}
    (parts : ∀ {γ : Type} {program : Program Request Response Error γ}, part γ program → ∀ now, protocol.Abides owner program none now)
    (built : Program.Built part α program) :
    protocol.Abides owner program none shared := by
  induction built generalizing shared with
  | pure value => exact trivial
  | throw error => exact trivial
  | part isPart => exact parts isPart _
  | bind first second ihFirst ihSecond => exact abides_bind ihFirst (fun value _ _ => ihSecond value)
  | attempt body ih => exact abides_attempt ih

/-! ### Counting -/

open Classical in
noncomputable def spentCount (protocol : Protocol Shared Owner Request Response Error Key)
    (key : Key) (shared : Shared) : Nat :=
  if protocol.spent key shared then 1 else 0

theorem spentCount_le (key : Key) {before after : Shared} (later : protocol.later before after) :
    protocol.spentCount key before ≤ protocol.spentCount key after := by
  unfold spentCount
  by_cases spentBefore : protocol.spent key before
  · exact Nat.le_of_eq (by rw [if_pos spentBefore, if_pos (protocol.stays later spentBefore)])
  · rw [if_neg spentBefore]
    exact Nat.zero_le _

section Count

variable [DecidableEq Key]

def spends (protocol : Protocol Shared Owner Request Response Error Key) (key : Key)
    (move : Move (Crowd Shared Owner Request Response Error)
      (Happening Owner Request Response Error)) : Bool :=
  match move.label with
  | .answered _ request _ => decide (protocol.needs request = some key)
  | _ => false

variable {marked : List (Process Owner Request Response Error × Option Key)}
  {last : Crowd Shared Owner Request Response Error}

/-- What one answered request does to the permits: a granted permit was not
spent before, and a needed permit is given back. -/
theorem answered_balance {key : Key} {index : Nat}
    {next : Except Error (Response request) → Program Request Response Error Unit}
    {answer : Except Error (Response request)} {before after : Shared}
    (waiting : marked[index]? = some (⟨owner, .ask request next⟩, held))
    (needsHeld : ∀ key, protocol.needs request = some key → held = some key)
    (grants : ∀ key, protocol.grants request answer = some key → ¬ protocol.spent key before ∧ protocol.spent key after)
    (later : protocol.later before after) :
    (if protocol.needs request = some key then 1 else 0) +
        (marked.set index (⟨owner, next answer⟩, protocol.heldAfter held request answer)).countP
          (fun mark => decide (mark.2 = some key)) + protocol.spentCount key before ≤
      marked.countP (fun mark => decide (mark.2 = some key)) + protocol.spentCount key after := by
  obtain ⟨within, isMark⟩ := List.getElem?_eq_some_iff.1 waiting
  have spentLater := spentCount_le key later
  have holderCounted : held = some key →
      0 < marked.countP (fun mark => decide (mark.2 = some key)) := by
    intro holds
    apply List.countP_pos_iff.2
    refine ⟨_, List.mem_of_getElem? waiting, ?_⟩
    exact decide_eq_true holds
  rw [List.countP_set within, isMark]
  simp only [decide_eq_true_eq]
  cases grant : protocol.grants request answer with
  | some granted =>
    have unneeded : protocol.needs request = none := by
      cases needed : protocol.needs request with
      | none => rfl
      | some other =>
        rw [protocol.exclusive needed answer] at grant
        cases grant
    have isAfter : protocol.heldAfter held request answer = some granted := by
      unfold heldAfter
      rw [grant]
    rw [isAfter, unneeded]
    simp only [reduceCtorEq, if_false, Option.some.injEq, Nat.zero_add]
    by_cases same : granted = key
    · subst same
      have fresh : protocol.spentCount granted before = 0 := if_neg (grants granted grant).1
      have taken : protocol.spentCount granted after = 1 := if_pos (grants granted grant).2
      rw [if_pos rfl]
      omega
    · rw [if_neg same]
      omega
  | none =>
    cases needed : protocol.needs request with
    | some needs =>
      have isAfter : protocol.heldAfter held request answer = none := by
        unfold heldAfter
        rw [grant, needed]
        rfl
      rw [isAfter, needsHeld needs needed]
      simp only [reduceCtorEq, if_false, Option.some.injEq, Nat.add_zero]
      by_cases same : needs = key
      · have positive := holderCounted (by rw [needsHeld needs needed, same])
        rw [if_pos same]
        omega
      · rw [if_neg same]
        omega
    | none =>
      have isAfter : protocol.heldAfter held request answer = held := by
        unfold heldAfter
        rw [grant, needed]
        rfl
      rw [isAfter]
      simp only [reduceCtorEq, if_false, Nat.zero_add]
      by_cases holds : held = some key
      · have positive := holderCounted holds
        rw [if_pos holds]
        omega
      · rw [if_neg holds]
        omega

structure Marks (protocol : Protocol Shared Owner Request Response Error Key)
    (crowd : Crowd Shared Owner Request Response Error)
    (marked : List (Process Owner Request Response Error × Option Key)) : Prop where
  processes : marked.map Prod.fst = crowd.processes
  abides : ∀ mark ∈ marked, protocol.Abides mark.1.owner mark.1.program mark.2 crowd.shared

variable [DecidableEq Owner] {key : Key}

def Admits (protocol : Protocol Shared Owner Request Response Error Key) : Prop :=
  ∀ owner program shared, protocol.host.starts owner program shared →
    protocol.Abides owner program none shared

variable {first : Crowd Shared Owner Request Response Error}

theorem step_balance (admits : protocol.Admits) {happening : Happening Owner Request Response Error}
    (step : protocol.host.Step first happening last) (marks : protocol.Marks first marked)
    (key : Key) :
    ∃ marked', protocol.Marks last marked' ∧
      (if protocol.spends key ⟨first, happening, last⟩ = true then 1 else 0) +
          marked'.countP (fun mark => decide (mark.2 = some key)) +
          protocol.spentCount key first.shared ≤
        marked.countP (fun mark => decide (mark.2 = some key)) +
          protocol.spentCount key last.shared := by
  have later := protocol.respects.step step
  have spentLater := spentCount_le key later
  cases step with
  | @answered before after processes index owner request next answer waiting performed =>
    have sameProcesses : marked.map Prod.fst = processes := marks.processes
    rw [← sameProcesses, List.getElem?_map] at waiting
    obtain ⟨⟨process, held⟩, isMark, sameProcess⟩ := Option.map_eq_some_iff.1 waiting
    change process = _ at sameProcess
    subst sameProcess
    have abides := marks.abides _ (List.mem_of_getElem? isMark)
    obtain ⟨granted, goesOn⟩ :=
      abides.2 before (protocol.respects.refl before) answer after performed
    refine ⟨marked.set index (⟨owner, next answer⟩, protocol.heldAfter held request answer),
      ⟨?_, ?_⟩, ?_⟩
    · rw [List.map_set, sameProcesses]
    · intro mark member
      rcases List.mem_or_eq_of_mem_set member with old | isNew
      · exact abides_later (marks.abides mark old) later
      · rw [isNew]
        exact goesOn
    · change (if decide (protocol.needs request = some key) = true then 1 else 0) + _ + _ ≤ _
      simp only [decide_eq_true_eq]
      exact answered_balance isMark abides.1 granted later
  | @started shared processes owner program called =>
    refine ⟨marked ++ [(⟨owner, program⟩, none)], ⟨?_, ?_⟩, ?_⟩
    · rw [List.map_append, marks.processes]
      rfl
    · intro mark member
      rcases List.mem_append.1 member with old | isNew
      · exact marks.abides mark old
      · rw [List.mem_singleton.1 isNew]
        exact admits owner program shared called
    · change 0 + _ + _ ≤ _
      rw [List.countP_append, List.countP_singleton]
      simp only [reduceCtorEq, decide_false, Bool.false_eq_true, if_false]
      omega
  | @stopped before after processes owner crashed =>
    refine ⟨marked.filter (fun mark => mark.1.owner ≠ owner), ⟨?_, ?_⟩, ?_⟩
    · have sameProcesses : marked.map Prod.fst = processes := marks.processes
      rw [← sameProcesses]
      change _ = (marked.map Prod.fst).filter (fun process => process.owner ≠ owner)
      rw [List.filter_map]
      rfl
    · intro mark member
      exact abides_later (marks.abides mark (List.mem_filter.1 member).1) later
    · change 0 + _ + _ ≤ _
      have fewer := (List.filter_sublist (l := marked)
        (p := fun mark => decide (mark.1.owner ≠ owner))).countP_le
          (p := fun mark => decide (mark.2 = some key))
      omega
  | drifted changed =>
    refine ⟨marked, ⟨marks.processes, ?_⟩, ?_⟩
    · intro mark member
      exact abides_later (marks.abides mark member) later
    · change 0 + _ + _ ≤ _
      omega

variable
  {trace : List (Move (Crowd Shared Owner Request Response Error) (Happening Owner Request Response Error))}

theorem run_balance (admits : protocol.Admits) (run : Run protocol.host.Step first trace last)
    (marks : protocol.Marks first marked) (key : Key) :
    trace.countP (protocol.spends key) + protocol.spentCount key first.shared ≤
      marked.countP (fun mark => decide (mark.2 = some key)) +
        protocol.spentCount key last.shared := by
  induction run generalizing marked with
  | nil crowd =>
    rw [List.countP_nil]
    omega
  | cons step run ih =>
    obtain ⟨marked', marks', paid⟩ := step_balance admits step marks key
    have rest := ih marks'
    rw [List.countP_cons]
    omega

variable {start : Shared}

/-- Starting without processes, the requests that need a key's permit happen
at most once, and not at all while the key is not spent. -/
theorem spends_le_spentCount (admits : protocol.Admits)
    (run : Run protocol.host.Step ⟨start, []⟩ trace last) (key : Key) :
    trace.countP (protocol.spends key) ≤ protocol.spentCount key last.shared := by
  have unmarked : protocol.Marks ⟨start, []⟩ [] :=
    ⟨rfl, nofun⟩
  have balance := run_balance admits run unmarked key
  rw [List.countP_nil] at balance
  omega

theorem spends_le_one (admits : protocol.Admits)
    (run : Run protocol.host.Step ⟨start, []⟩ trace last) (key : Key) :
    trace.countP (protocol.spends key) ≤ 1 := by
  have bounded := spends_le_spentCount admits run key
  unfold spentCount at bounded
  split at bounded
  · exact bounded
  · exact Nat.le_trans bounded (Nat.zero_le 1)

theorem spends_eq_zero (admits : protocol.Admits)
    (run : Run protocol.host.Step ⟨start, []⟩ trace last)
    (unspent : ¬ protocol.spent key last.shared) : trace.countP (protocol.spends key) = 0 := by
  have bounded := spends_le_spentCount admits run key
  unfold spentCount at bounded
  rw [if_neg unspent] at bounded
  exact Nat.le_zero.1 bounded

end Count

end Protocol

end AnnaAgent.Foundation
