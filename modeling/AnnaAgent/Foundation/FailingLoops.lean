/-
Sequences and loops that stop at the first error.
-/

namespace AnnaAgent.Foundation

variable {ε α β σ : Type}

theorem ok_bind (value : α) (f : α → Except ε β) : (Except.ok value >>= f) = f value := rfl

theorem bind_ok_iff {x : Except ε α} {f : α → Except ε β} {result : β} :
    (x >>= f) = .ok result ↔ ∃ value, x = .ok value ∧ f value = .ok result := by
  cases x with
  | error error =>
    constructor
    · intro impossible
      cases impossible
    · rintro ⟨_, impossible, _⟩
      cases impossible
  | ok value =>
    constructor
    · intro ran
      exact ⟨value, rfl, ran⟩
    · rintro ⟨_, isValue, ran⟩
      cases isValue
      exact ran

theorem map_ok {x : Except ε α} {f : α → β} {result : β} (mapped : x.map f = .ok result) :
    ∃ value, x = .ok value ∧ f value = result := by
  cases x with
  | error error => cases mapped
  | ok value =>
    cases mapped
    exact ⟨value, rfl, rfl⟩

variable {f : σ → α → Except ε σ}

theorem foldlM_invariant (P : List α → σ → Prop)
    (kept : ∀ done before item after, P done before → f before item = .ok after →
      P (done ++ [item]) after) {items done : List α} {first last : σ} (start : P done first)
    (ran : items.foldlM f first = .ok last) : P (done ++ items) last := by
  induction items generalizing done first with
  | nil =>
    cases ran
    rw [List.append_nil]
    exact start
  | cons item rest ih =>
    rw [List.foldlM_cons] at ran
    cases taken : f first item with
    | error error =>
      rw [taken] at ran
      cases ran
    | ok middle =>
      rw [taken] at ran
      rw [List.append_cons]
      exact ih (kept done first item middle start taken) ran

theorem foldlM_fixed {items : List α} {state : σ}
    (fixed : ∀ item ∈ items, f state item = .ok state) : items.foldlM f state = .ok state := by
  induction items with
  | nil => rfl
  | cons item rest ih =>
    rw [List.foldlM_cons, fixed item List.mem_cons_self]
    apply ih
    intro other member
    exact fixed other (List.mem_cons_of_mem item member)

theorem foldlM_stays {items : List α} {state last : σ}
    (stays : ∀ item ∈ items, ∀ after, f state item = .ok after → after = state)
    (ran : items.foldlM f state = .ok last) : last = state := by
  induction items with
  | nil =>
    cases ran
    rfl
  | cons item rest ih =>
    rw [List.foldlM_cons] at ran
    cases taken : f state item with
    | error error =>
      rw [taken] at ran
      cases ran
    | ok middle =>
      rw [taken, stays item List.mem_cons_self middle taken] at ran
      apply ih
      · intro other member
        exact stays other (List.mem_cons_of_mem item member)
      · exact ran

end AnnaAgent.Foundation
