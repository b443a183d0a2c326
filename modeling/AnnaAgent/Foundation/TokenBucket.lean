/-
A level that fills at a constant rate up to a capacity and pays one for every admission.

The readings of the clock are the inputs.  What one check can do to the level is said once;
the bound on the admissions of a window and the wait of a refused check follow by induction
over the readings.
-/

import Mathlib.Algebra.Order.Field.Basic
import Mathlib.Data.Nat.Cast.Order.Field
import Mathlib.Tactic.FieldSimp
import Mathlib.Tactic.Linarith
import Mathlib.Tactic.Ring

namespace AnnaAgent.Foundation

structure Filling (α : Type) [Field α] [LinearOrder α] where
  capacity : α
  rate : α
  fits : 1 ≤ capacity
  fills : 0 < rate

structure Level (α : Type) where
  tokens : α
  updatedAt : α

section TokenBucket

variable {α : Type} [Field α] [LinearOrder α]

namespace Filling

def refill (filling : Filling α) (level : Level α) (now : α) : Level α :=
  { tokens := min filling.capacity
      (level.tokens + max 0 (now - level.updatedAt) * filling.rate)
    updatedAt := now }

def check (filling : Filling α) (level : Level α) (now : α) : Bool × Level α :=
  let filled := filling.refill level now
  if 1 ≤ filled.tokens then (true, { filled with tokens := filled.tokens - 1 })
  else (false, filled)

/-- The checks at the readings, with their answers. -/
def checks (filling : Filling α) : Level α → List α → List (α × Bool)
  | _, [] => []
  | level, now :: rest =>
    (now, (filling.check level now).1) :: filling.checks (filling.check level now).2 rest

def levelAfter (filling : Filling α) (level : Level α) (readings : List α) : Level α :=
  readings.foldl (fun level now => (filling.check level now).2) level

/-- The time until a level holds a whole token. -/
def wait (filling : Filling α) (level : Level α) : α :=
  (1 - level.tokens) / filling.rate

end Filling

/-- The tokens stay between nothing and the capacity. -/
structure Level.Within (filling : Filling α) (level : Level α) : Prop where
  nonneg : 0 ≤ level.tokens
  capped : level.tokens ≤ filling.capacity

namespace Filling

variable {filling : Filling α} {level : Level α}

@[simp] theorem check_updatedAt (filling : Filling α) (level : Level α) (now : α) :
    (filling.check level now).2.updatedAt = now := by
  unfold check
  dsimp only
  split
  · rfl
  · rfl

/-- What one check does: it pays a whole token, or finds less than one and only refills. -/
theorem check_cases (filling : Filling α) (level : Level α) (now : α) :
    ((filling.check level now).1 = true ∧ 1 ≤ (filling.refill level now).tokens ∧
        (filling.check level now).2.tokens = (filling.refill level now).tokens - 1) ∨
      ((filling.check level now).1 = false ∧ (filling.refill level now).tokens < 1 ∧
        (filling.check level now).2 = filling.refill level now) := by
  unfold check
  dsimp only
  by_cases whole : 1 ≤ (filling.refill level now).tokens
  · rw [if_pos whole]
    exact Or.inl ⟨rfl, whole, rfl⟩
  · rw [if_neg whole]
    exact Or.inr ⟨rfl, not_le.mp whole, rfl⟩

variable {readings : List α}

theorem mem_checks {answered : α × Bool} (member : answered ∈ filling.checks level readings) :
    answered.1 ∈ readings := by
  induction readings generalizing level with
  | nil => cases member
  | cons now rest ih =>
    rcases List.mem_cons.mp member with isFirst | inRest
    · rw [isFirst]
      exact List.mem_cons_self
    · exact List.mem_cons_of_mem _ (ih inRest)

/-- The admissions between two instants. -/
def admissions (answers : List (α × Bool)) (start finish : α) : Nat :=
  answers.countP (fun answered =>
    answered.2 && (decide (start ≤ answered.1) && decide (answered.1 ≤ finish)))

omit [Field α] in
theorem admissions_append (early late : List (α × Bool)) (start finish : α) :
    admissions (early ++ late) start finish =
      admissions early start finish + admissions late start finish :=
  List.countP_append

/-- What a check pays. -/
def paid (answer : Bool) : α :=
  if answer then 1 else 0

omit [Field α] in
theorem admissions_outside {answers : List (α × Bool)} {start finish : α}
    (outside : ∀ answered ∈ answers, answered.1 < start ∨ finish < answered.1) :
    admissions answers start finish = 0 := by
  unfold admissions
  rw [List.countP_eq_zero]
  intro answered member counted
  rw [Bool.and_eq_true, Bool.and_eq_true, decide_eq_true_eq, decide_eq_true_eq] at counted
  rcases outside answered member with before | after
  · exact absurd counted.2.1 (not_le.mpr before)
  · exact absurd counted.2.2 (not_le.mpr after)

variable [IsStrictOrderedRing α]

theorem refill_within (within : level.Within filling) (now : α) :
    (filling.refill level now).Within filling := by
  have gained : 0 ≤ max 0 (now - level.updatedAt) * filling.rate :=
    mul_nonneg (le_max_left _ _) filling.fills.le
  have whole := filling.fits
  constructor
  · apply le_min
    · linarith
    · have held := within.nonneg
      linarith
  · exact min_le_left _ _

theorem check_within (within : level.Within filling) (now : α) :
    (filling.check level now).2.Within filling := by
  have filled := refill_within within now
  rcases filling.check_cases level now with ⟨_, whole, paid⟩ | ⟨_, _, same⟩
  · constructor
    · rw [paid]
      linarith
    · rw [paid]
      have capped := filled.capped
      linarith
  · rw [same]
    exact filled

theorem levelAfter_within (within : level.Within filling) (readings : List α) :
    (filling.levelAfter level readings).Within filling := by
  induction readings generalizing level with
  | nil => exact within
  | cons now rest ih => exact ih (check_within within now)

/-- The first answer is at most what it pays. -/
theorem admissions_cons_le (answered : α × Bool) (later : List (α × Bool)) (start finish : α) :
    (admissions (answered :: later) start finish : α) ≤
      paid answered.2 + (admissions later start finish : α) := by
  unfold admissions paid
  rw [List.countP_cons]
  push_cast
  cases answered.2 with
  | false => simp
  | true =>
    rw [if_pos rfl]
    split
    · simp [add_comm]
    · simp

variable (filling) in
/-- A check never adds more than the time since the last one brings. -/
theorem check_tokens_le {now : α} (onward : level.updatedAt ≤ now) :
    (filling.check level now).2.tokens + paid (filling.check level now).1 ≤
      level.tokens + (now - level.updatedAt) * filling.rate := by
  have filled : (filling.refill level now).tokens ≤
      level.tokens + (now - level.updatedAt) * filling.rate := by
    have elapsed : max 0 (now - level.updatedAt) = now - level.updatedAt :=
      max_eq_right (sub_nonneg.mpr onward)
    unfold refill
    dsimp only
    rw [elapsed]
    exact min_le_right _ _
  rcases filling.check_cases level now with ⟨taken, _, pays⟩ | ⟨refused, _, same⟩
  · rw [taken, pays, paid, if_pos rfl]
    linarith
  · rw [refused, same, paid, if_neg Bool.false_ne_true]
    linarith

theorem check_tokens_capped (filling : Filling α) (level : Level α) (now : α) :
    (filling.check level now).2.tokens + paid (filling.check level now).1 ≤ filling.capacity := by
  have capped : (filling.refill level now).tokens ≤ filling.capacity := min_le_left _ _
  rcases filling.check_cases level now with ⟨taken, _, pays⟩ | ⟨refused, _, same⟩
  · rw [taken, pays, paid, if_pos rfl]
    linarith
  · rw [refused, same, paid, if_neg Bool.false_ne_true]
    linarith

/-- The admissions up to an instant are paid by the level and by the time since it was
read. -/
theorem admissions_until (within : level.Within filling)
    (ordered : (level.updatedAt :: readings).Pairwise (· ≤ ·)) (start : α) {finish : α}
    (started : level.updatedAt ≤ finish) :
    (admissions (filling.checks level readings) start finish : α) ≤
      level.tokens + (finish - level.updatedAt) * filling.rate := by
  induction readings generalizing level with
  | nil =>
    have gained : 0 ≤ (finish - level.updatedAt) * filling.rate :=
      mul_nonneg (sub_nonneg.mpr started) filling.fills.le
    have held := within.nonneg
    change ((0 : ℕ) : α) ≤ _
    rw [Nat.cast_zero]
    linarith
  | cons now rest ih =>
    have onward : level.updatedAt ≤ now := (List.pairwise_cons.mp ordered).1 now List.mem_cons_self
    have later := (List.pairwise_cons.mp ordered).2
    by_cases inside : now ≤ finish
    · have counted := admissions_cons_le (now, (filling.check level now).1)
        (filling.checks (filling.check level now).2 rest) start finish
      have onwards : ((filling.check level now).2.updatedAt :: rest).Pairwise (· ≤ ·) := by
        rw [check_updatedAt]
        exact later
      have opened : (filling.check level now).2.updatedAt ≤ finish := by
        rw [check_updatedAt]
        exact inside
      have bound := ih (check_within within now) onwards opened
      rw [check_updatedAt] at bound
      have spent := check_tokens_le filling onward
      have split : (finish - level.updatedAt) * filling.rate =
          (now - level.updatedAt) * filling.rate + (finish - now) * filling.rate := by
        ring
      change (admissions ((now, _) :: filling.checks _ rest) start finish : α) ≤ _
      linarith
    · rw [admissions_outside]
      · have gained : 0 ≤ (finish - level.updatedAt) * filling.rate :=
          mul_nonneg (sub_nonneg.mpr started) filling.fills.le
        have held := within.nonneg
        rw [Nat.cast_zero]
        linarith
      · intro answered member
        right
        have past := not_le.mp inside
        rcases List.mem_cons.mp (mem_checks member) with isNow | inRest
        · rw [isNow]
          exact past
        · exact lt_of_lt_of_le past ((List.pairwise_cons.mp later).1 _ inRest)

theorem admissions_le (within : level.Within filling) (ordered : readings.Pairwise (· ≤ ·))
    {start finish : α} (window : start ≤ finish) :
    (admissions (filling.checks level readings) start finish : α) ≤
      filling.capacity + (finish - start) * filling.rate := by
  have gained : 0 ≤ (finish - start) * filling.rate :=
    mul_nonneg (sub_nonneg.mpr window) filling.fills.le
  have whole := filling.fits
  induction readings generalizing level with
  | nil =>
    change ((0 : ℕ) : α) ≤ _
    rw [Nat.cast_zero]
    linarith
  | cons now rest ih =>
    have counted := admissions_cons_le (now, (filling.check level now).1)
      (filling.checks (filling.check level now).2 rest) start finish
    have later := List.pairwise_cons.mp ordered
    change (admissions ((now, _) :: filling.checks _ rest) start finish : α) ≤ _
    by_cases before : now < start
    · have bound := ih (check_within within now) later.2
      have none : admissions [(now, (filling.check level now).1)] start finish = 0 := by
        apply admissions_outside
        intro answered member
        rw [List.mem_singleton.mp member]
        exact Or.inl before
      have split := admissions_append [(now, (filling.check level now).1)]
        (filling.checks (filling.check level now).2 rest) start finish
      rw [none, Nat.zero_add] at split
      change admissions ((now, _) :: filling.checks _ rest) start finish = _ at split
      rw [split]
      exact bound
    · by_cases inside : now ≤ finish
      · have onwards : ((filling.check level now).2.updatedAt :: rest).Pairwise (· ≤ ·) := by
          rw [check_updatedAt]
          exact ordered
        have opened : (filling.check level now).2.updatedAt ≤ finish := by
          rw [check_updatedAt]
          exact inside
        have bound := admissions_until (check_within within now) onwards start opened
        rw [check_updatedAt] at bound
        have spent := check_tokens_capped filling level now
        have sooner : finish - now ≤ finish - start := sub_le_sub_left (not_lt.mp before) finish
        have shorter := mul_le_mul_of_nonneg_right sooner filling.fills.le
        linarith
      · have none : admissions ((now, (filling.check level now).1) ::
            filling.checks (filling.check level now).2 rest) start finish = 0 := by
          apply admissions_outside
          intro answered member
          right
          have past := not_le.mp inside
          rcases List.mem_cons.mp member with isNow | inRest
          · rw [isNow]
            exact past
          · exact lt_of_lt_of_le past (later.1 _ (mem_checks inRest))
        rw [none, Nat.cast_zero]
        linarith

variable (filling) in
/-- Once the wait is over a level holds a whole token, however often it was refilled by
checks that took nothing. -/
theorem check_of_waited {later : α}
    (ordered : (level.updatedAt :: (readings ++ [later])).Pairwise (· ≤ ·))
    (refused : ∀ answered ∈ filling.checks level readings, answered.2 = false)
    (waited : level.updatedAt + filling.wait level ≤ later) :
    (filling.check (filling.levelAfter level readings) later).1 = true := by
  induction readings generalizing level with
  | nil =>
    have onward : level.updatedAt ≤ later :=
      (List.pairwise_cons.mp ordered).1 later (List.mem_singleton.mpr rfl)
    have elapsed : max 0 (later - level.updatedAt) = later - level.updatedAt :=
      max_eq_right (sub_nonneg.mpr onward)
    have brought : 1 - level.tokens ≤ (later - level.updatedAt) * filling.rate := by
      apply (div_le_iff₀ filling.fills).mp
      unfold wait at waited
      linarith
    have whole : 1 ≤ (filling.refill level later).tokens := by
      unfold refill
      dsimp only
      rw [elapsed]
      apply le_min filling.fits
      linarith
    rcases filling.check_cases level later with ⟨taken, _, _⟩ | ⟨_, less, _⟩
    · exact taken
    · exact absurd whole (not_le.mpr less)
  | cons now rest ih =>
    have pairs := List.pairwise_cons.mp ordered
    have onward : level.updatedAt ≤ now := pairs.1 now List.mem_cons_self
    have isRefused : (filling.check level now).1 = false :=
      refused (now, (filling.check level now).1) List.mem_cons_self
    rcases filling.check_cases level now with ⟨taken, _, _⟩ | ⟨_, less, same⟩
    · rw [isRefused] at taken
      cases taken
    · have elapsed : max 0 (now - level.updatedAt) = now - level.updatedAt :=
        max_eq_right (sub_nonneg.mpr onward)
      -- less than a whole token is less than the capacity, so nothing was cut off
      have kept : (filling.check level now).2.tokens =
          level.tokens + (now - level.updatedAt) * filling.rate := by
        rw [same]
        have uncut : level.tokens + (now - level.updatedAt) * filling.rate <
            filling.capacity := by
          unfold refill at less
          dsimp only at less
          rw [elapsed] at less
          rcases min_lt_iff.mp less with cut | uncut
          · exact absurd filling.fits (not_le.mpr cut)
          · exact lt_of_lt_of_le uncut filling.fits
        unfold refill
        dsimp only
        rw [elapsed]
        exact min_eq_right uncut.le
      apply ih
      · rw [check_updatedAt]
        exact pairs.2
      · intro answered member
        exact refused answered (List.mem_cons_of_mem _ member)
      · rw [check_updatedAt]
        have remaining : filling.wait (filling.check level now).2 =
            filling.wait level - (now - level.updatedAt) := by
          unfold wait
          rw [kept]
          have nonzero := filling.fills.ne'
          field_simp
          ring
        rw [remaining]
        linarith

end Filling

end TokenBucket

end AnnaAgent.Foundation
