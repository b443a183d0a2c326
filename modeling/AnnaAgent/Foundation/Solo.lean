/-
Programs that run to their end with nothing in between.

The requests of one program are answered one after the other, each with a
reading drawn from outside.  `Finishes` records the readings and the requests
in order; the rules take a finished composite program apart.
-/

import AnnaAgent.Foundation.Program

namespace AnnaAgent.Foundation

structure Asked (Reading Request : Type) where
  reading : Reading
  request : Request

variable {Reading Shared Request : Type} {Response : Request → Type} {Error α β : Type}

variable {cleanup : Program Request Response Error Unit}
  {program : Program Request Response Error α} {next : α → Program Request Response Error β}
  {request : Request} {value : Except Error α}

namespace Program

def Asks (allowed : Request → Prop) : Program Request Response Error α → Prop
  | .pure _ => True
  | .throw _ => True
  | .ask request next => allowed request ∧ ∀ answer, (next answer).Asks allowed

variable {allowed : Request → Prop}

theorem asks_mono {wider : Request → Prop} (asks : program.Asks allowed)
    (widens : ∀ request, allowed request → wider request) :
    program.Asks wider := by
  induction program with
  | pure value => exact trivial
  | throw error => exact trivial
  | ask request more ih => exact ⟨widens request asks.1, fun answer => ih answer (asks.2 answer)⟩

theorem asks_bind (first : program.Asks allowed) (second : ∀ value, (next value).Asks allowed) :
    (program.bind next).Asks allowed := by
  induction program with
  | pure value => exact second value
  | throw error => exact trivial
  | ask request more ih => exact ⟨first.1, fun answer => ih answer (first.2 answer)⟩

theorem asks_tryFinally {body : Program Request Response Error α} (asks : body.Asks allowed)
    (cleans : cleanup.Asks allowed) : (body.tryFinally cleanup).Asks allowed := by
  induction body with
  | pure value | throw error => exact asks_bind cleans (fun _ => trivial)
  | ask request more ih => exact ⟨asks.1, fun answer => ih answer (asks.2 answer)⟩

theorem asks_attempt (asks : program.Asks allowed) :
    program.attempt.Asks allowed := by
  induction program with
  | pure value => exact trivial
  | throw error => exact trivial
  | ask request more ih => exact ⟨asks.1, fun answer => ih answer (asks.2 answer)⟩

theorem asks_request (isAllowed : allowed request) :
    (call request : Program Request Response Error (Response request)).Asks allowed := by
  refine ⟨isAllowed, ?_⟩
  intro answer
  cases answer with
  | error error => exact trivial
  | ok value => exact trivial

theorem asks_call_bind {next : Response request → Program Request Response Error β}
    (isAllowed : allowed request) (later : ∀ value, (next value).Asks allowed) :
    ((call request).bind next).Asks allowed := by
  rw [call_bind]
  refine ⟨isAllowed, ?_⟩
  intro answer
  cases answer with
  | error error => exact trivial
  | ok value => exact later value

theorem asks_lift_bind (later : ∀ result, value = .ok result → (next result).Asks allowed) :
    ((lift value).bind next).Asks allowed := by
  cases value with
  | error error => exact trivial
  | ok result => exact later result rfl

def Total (fails : Request → Prop) : Program Request Response Error α → Prop
  | .pure _ => True
  | .throw _ => False
  | .ask request next =>
    (∀ value, (next (.ok value)).Total fails) ∧
      (fails request → ∀ error, (next (.error error)).Total fails)

variable {fails : Request → Prop}

theorem total_bind (first : program.Total fails) (second : ∀ value, (next value).Total fails) :
    (program.bind next).Total fails := by
  induction program with
  | pure value => exact second value
  | throw error => exact first.elim
  | ask request more ih =>
    exact ⟨fun value => ih _ (first.1 value), fun isFailing error => ih _ (first.2 isFailing error)⟩

theorem total_attempt (program : Program Request Response Error α) :
    program.attempt.Total fails := by
  induction program with
  | pure value => exact trivial
  | throw error => exact trivial
  | ask request more ih => exact ⟨fun value => ih _, fun _ error => ih _⟩

theorem total_call_bind {next : Response request → Program Request Response Error β}
    (answered : ¬fails request) (later : ∀ value, (next value).Total fails) :
    ((call request).bind next).Total fails := by
  rw [call_bind]
  exact ⟨later, fun isFailing => absurd isFailing answered⟩

theorem total_call (answered : ¬fails request) :
    (call request : Program Request Response Error (Response request)).Total fails :=
  ⟨fun _ => trivial, fun isFailing => absurd isFailing answered⟩

end Program

inductive Finishes (perform : Reading → Shared → (request : Request) →
      Except Error (Response request) × Shared) :
    Program Request Response Error α → Shared → List (Asked Reading Request) →
    Except Error α → Shared → Prop
  | pure (value : α) (shared : Shared) : Finishes perform (.pure value) shared [] (.ok value) shared
  | throw (error : Error) (shared : Shared) :
      Finishes perform (.throw error) shared [] (.error error) shared
  | ask {request : Request}
      {next : Except Error (Response request) → Program Request Response Error α}
      {reading : Reading} {before middle after : Shared} {asked : List (Asked Reading Request)}
      {outcome : Except Error α}
      (later : Finishes perform (next (perform reading before request).1) middle asked outcome after)
      (reached : (perform reading before request).2 = middle) :
      Finishes perform (.ask request next) before (⟨reading, request⟩ :: asked) outcome after

variable {outcome : Except Error α}

namespace Finishes

variable {perform : Reading → Shared → (request : Request) →
    Except Error (Response request) × Shared}
  {before after : Shared} {asked : List (Asked Reading Request)}

theorem bind_ok {value : β}
    (finished : Finishes perform (program.bind next) before asked (.ok value) after) :
    ∃ early middle result late, asked = early ++ late ∧
      Finishes perform program before early (.ok result) middle ∧
      Finishes perform (next result) middle late (.ok value) after := by
  induction program generalizing before asked with
  | pure result => exact ⟨[], before, result, asked, rfl, .pure result before, finished⟩
  | throw error => cases finished
  | ask request more ih =>
    cases finished with
    | @ask _ _ reading _ middle _ rest _ later reached =>
      rcases ih _ later with ⟨early, between, result, late, isAsked, first, second⟩
      refine ⟨⟨reading, request⟩ :: early, between, result, late, ?_, .ask first reached, second⟩
      rw [isAsked, List.cons_append]

theorem bind_of {early late : List (Asked Reading Request)} {middle : Shared} {result : α}
    {outcome : Except Error β} (first : Finishes perform program before early (.ok result) middle)
    (second : Finishes perform (next result) middle late outcome after) :
    Finishes perform (program.bind next) before (early ++ late) outcome after := by
  induction program generalizing before early with
  | pure value =>
    cases first
    exact second
  | throw error => cases first
  | ask request more ih =>
    cases first with
    | ask later reached => exact .ask (ih _ later) reached

theorem call_bind_ok {next : Response request → Program Request Response Error β} {value : β}
    (finished : Finishes perform ((Program.call request).bind next) before asked (.ok value) after) :
    ∃ reading answer middle rest, asked = ⟨reading, request⟩ :: rest ∧
      perform reading before request = (.ok answer, middle) ∧
      Finishes perform (next answer) middle rest (.ok value) after := by
  rw [Program.call_bind] at finished
  cases finished with
  | @ask _ _ reading _ middle _ rest _ later reached =>
    cases result : perform reading before request with
    | mk answer state =>
      rw [result] at later reached
      change state = middle at reached
      subst reached
      cases answer with
      | error error => cases later
      | ok answer => exact ⟨reading, answer, state, rest, rfl, result, later⟩

theorem lift_bind_ok {result : β}
    (finished : Finishes perform ((Program.lift value).bind next) before asked (.ok result) after) :
    ∃ middle, value = .ok middle ∧
      Finishes perform (next middle) before asked (.ok result) after := by
  cases value with
  | error error => cases finished
  | ok middle => exact ⟨middle, rfl, finished⟩

theorem relates (finished : Finishes perform program before asked outcome after)
    (related : Shared → Shared → Prop) (refl : ∀ shared, related shared shared)
    (trans : ∀ {first second third}, related first second → related second third → related first third)
    (performs : ∀ reading shared request, related shared (perform reading shared request).2) :
    related before after := by
  induction finished with
  | pure value shared | throw error shared => exact refl shared
  | ask later reached ih => exact trans (reached ▸ performs _ _ _) ih

theorem keeps {allowed : Request → Prop}
    (finished : Finishes perform program before asked outcome after) (asks : program.Asks allowed)
    (P : Shared → Prop)
    (kept : ∀ reading shared request, allowed request → P shared → P (perform reading shared request).2)
    (start : P before) :
    P after ∧ ∀ entry ∈ asked, allowed entry.request := by
  induction finished with
  | pure value shared | throw error shared =>
    exact ⟨start, nofun⟩
  | ask later reached ih =>
    rcases ih (asks.2 _) (reached ▸ kept _ _ _ asks.1 start) with ⟨held, others⟩
    refine ⟨held, ?_⟩
    intro entry member
    rcases List.mem_cons.1 member with isFirst | isLater
    · rw [isFirst]
      exact asks.1
    · exact others entry isLater

theorem pure_ok {value result : α}
    (finished : Finishes perform (.pure value : Program Request Response Error α) before asked
      (.ok result) after) : asked = [] ∧ result = value ∧ after = before := by
  cases finished
  exact ⟨rfl, rfl, rfl⟩

theorem tryFinally_ok {body : Program Request Response Error α} {value : α}
    (finished : Finishes perform (body.tryFinally cleanup) before asked (.ok value) after) :
    ∃ early middle late, asked = early ++ late ∧
      Finishes perform body before early (.ok value) middle ∧
      Finishes perform cleanup middle late (.ok ()) after := by
  induction body generalizing before asked with
  | pure result =>
    rcases bind_ok finished with ⟨early, middle, done, late, isAsked, cleaned, rest⟩
    rcases pure_ok rest with ⟨isLate, isValue, isAfter⟩
    subst isLate isValue isAfter
    exact ⟨[], before, early, by rw [isAsked, List.append_nil]; rfl, .pure _ before, cleaned⟩
  | throw error =>
    rcases bind_ok finished with ⟨early, middle, done, late, isAsked, cleaned, rest⟩
    cases rest
  | ask request more ih =>
    cases finished with
    | @ask _ _ reading _ middle _ rest _ later reached =>
      rcases ih _ later with ⟨early, between, late, isAsked, first, second⟩
      refine ⟨⟨reading, request⟩ :: early, between, late, ?_, .ask first reached, second⟩
      rw [isAsked, List.cons_append]

variable {body : α → Program Request Response Error Unit}

/-- What every iteration respects, with the requests it makes, the loop
respects. -/
theorem forEach_respects {items : List α}
    (finished : Finishes perform (Program.forEach items body) before asked (.ok ()) after)
    (related : Shared → List (Asked Reading Request) → Shared → Prop)
    (refl : ∀ shared, related shared [] shared)
    (trans : ∀ {first early second late third}, related first early second → related second late
      third → related first (early ++ late) third)
    (respects : ∀ item ∈ items, ∀ {first some last}, Finishes perform (body item) first some (.ok
      ()) last → related first some last) : related before asked after := by
  induction items generalizing before asked with
  | nil =>
    rcases pure_ok finished with ⟨isAsked, _, isAfter⟩
    rw [isAsked, isAfter]
    exact refl before
  | cons item rest ih =>
    rcases bind_ok finished with ⟨early, middle, _, late, isAsked, first, second⟩
    rw [isAsked]
    exact trans (respects item List.mem_cons_self first)
      (ih second (fun other member => respects other (List.mem_cons_of_mem _ member)))

theorem forEach_split {early late : List α} {item : α}
    (finished : Finishes perform (Program.forEach (early ++ item :: late) body) before asked (.ok
      ()) after) :
    ∃ asked₁ middle₁ asked₂ middle₂ asked₃, asked = asked₁ ++ (asked₂ ++ asked₃) ∧
      Finishes perform (Program.forEach early body) before asked₁ (.ok ()) middle₁ ∧
      Finishes perform (body item) middle₁ asked₂ (.ok ()) middle₂ ∧
      Finishes perform (Program.forEach late body) middle₂ asked₃ (.ok ()) after := by
  induction early generalizing before asked with
  | nil =>
    rcases bind_ok finished with ⟨asked₂, middle₂, _, asked₃, isAsked, here, rest⟩
    exact ⟨[], before, asked₂, middle₂, asked₃, isAsked, .pure () before, here, rest⟩
  | cons head tail ih =>
    rcases bind_ok finished with ⟨first, middle, _, others, isAsked, one, more⟩
    rcases ih more with ⟨asked₁, middle₁, asked₂, middle₂, asked₃, isOthers, start, here, rest⟩
    refine ⟨first ++ asked₁, middle₁, asked₂, middle₂, asked₃, ?_, ?_, here, rest⟩
    · rw [isAsked, isOthers, List.append_assoc]
    · exact bind_of one start

end Finishes

/-- The run that draws the given readings one after the other, if they are
enough. -/
def solo (perform : Reading → Shared → (request : Request) →
      Except Error (Response request) × Shared) :
    Program Request Response Error α → List Reading → Shared →
    Option (List (Asked Reading Request) × Except Error α × Shared)
  | .pure value, _, shared => some ([], .ok value, shared)
  | .throw error, _, shared => some ([], .error error, shared)
  | .ask _ _, [], _ => none
  | .ask request next, reading :: readings, shared =>
    let answered := perform reading shared request
    (solo perform (next answered.1) readings answered.2).map (fun result =>
      (⟨reading, request⟩ :: result.1, result.2))

theorem solo_finishes
    {perform : Reading → Shared → (request : Request) → Except Error (Response request) × Shared}
    {readings : List Reading} {before after : Shared} {asked : List (Asked Reading Request)}
    (ran : solo perform program readings before = some (asked, outcome, after)) :
    Finishes perform program before asked outcome after := by
  induction program generalizing readings before asked with
  | pure value =>
    cases ran
    exact .pure value after
  | throw error =>
    cases ran
    exact .throw error after
  | ask request next ih =>
    cases readings with
    | nil => cases ran
    | cons reading rest =>
      rcases Option.map_eq_some_iff.1 ran with ⟨⟨asked', outcome', after'⟩, later, same⟩
      cases same
      exact .ask (ih _ later) rfl

end AnnaAgent.Foundation
