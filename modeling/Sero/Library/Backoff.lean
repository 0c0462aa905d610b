import Mathlib.Data.List.Basic

/-!
# Repeated attempts

Something is attempted until the limit is passed, each time no sooner than a wait after
the time before.  Whoever makes the attempts looks at the clock now and then, and makes
one when it finds that one is due.
-/

namespace Sero.Library

/-- How many attempts have been made, and when the next is due. -/
structure Attempts where
  made : Nat
  dueMs : Nat
  deriving DecidableEq

namespace Attempts

variable (limit : Nat) (wait : Nat → Nat)

/-- Is an attempt made at this time? -/
def isDue (attempts : Attempts) (timeMs : Nat) : Bool :=
  decide (attempts.made ≤ limit) && decide (attempts.dueMs ≤ timeMs)

/-- A look at the clock. -/
def look (attempts : Attempts) (timeMs : Nat) : Attempts :=
  if attempts.isDue limit timeMs then
    ⟨attempts.made + 1, timeMs + wait (attempts.made + 1)⟩
  else attempts

def after (attempts : Attempts) (looks : List Nat) : Attempts :=
  looks.foldl (look limit wait) attempts

/-- The times at which attempts are made. -/
def times : Attempts → List Nat → List Nat
  | _, [] => []
  | attempts, timeMs :: rest =>
      if attempts.isDue limit timeMs then
        timeMs :: times (attempts.look limit wait timeMs) rest
      else times (attempts.look limit wait timeMs) rest

/-- The times at which the last attempt is made. -/
def endings : Attempts → List Nat → List Nat
  | _, [] => []
  | attempts, timeMs :: rest =>
      if attempts.isDue limit timeMs && decide (attempts.made = limit) then
        timeMs :: endings (attempts.look limit wait timeMs) rest
      else endings (attempts.look limit wait timeMs) rest

variable {limit : Nat} {wait : Nat → Nat} {attempts : Attempts}

theorem isDue_iff {timeMs : Nat} :
    attempts.isDue limit timeMs = true ↔ attempts.made ≤ limit ∧ attempts.dueMs ≤ timeMs := by
  rw [isDue, Bool.and_eq_true, decide_eq_true_eq, decide_eq_true_eq]

theorem look_of_due {timeMs : Nat} (due : attempts.isDue limit timeMs = true) :
    attempts.look limit wait timeMs = ⟨attempts.made + 1, timeMs + wait (attempts.made + 1)⟩ :=
  if_pos due

theorem look_of_early {timeMs : Nat} (early : ¬attempts.isDue limit timeMs = true) :
    attempts.look limit wait timeMs = attempts :=
  if_neg early

theorem made_look (timeMs : Nat) : (attempts.look limit wait timeMs).made =
    attempts.made + (attempts.isDue limit timeMs).toNat := by
  by_cases due : attempts.isDue limit timeMs = true
  · rw [look_of_due due, due]
    rfl
  · rw [look_of_early due, Bool.eq_false_iff.mpr due]
    rfl

/-- Every attempt is counted. -/
theorem made_after (looks : List Nat) : (attempts.after limit wait looks).made =
    attempts.made + (attempts.times limit wait looks).length := by
  induction looks generalizing attempts with
  | nil => rfl
  | cons timeMs rest ih =>
      have counted := @made_look limit wait attempts timeMs
      change ((attempts.look limit wait timeMs).after limit wait rest).made = _
      rw [ih, counted, times]
      cases attempts.isDue limit timeMs with
      | true =>
          rw [if_pos rfl, List.length_cons, Bool.toNat_true]
          omega
      | false => rfl

/-- No attempt is made beyond the limit. -/
theorem made_look_le (within : attempts.made ≤ limit + 1) (timeMs : Nat) :
    (attempts.look limit wait timeMs).made ≤ limit + 1 := by
  by_cases due : attempts.isDue limit timeMs = true
  · rw [look_of_due due]
    exact Nat.succ_le_succ (isDue_iff.mp due).1
  · rw [look_of_early due]
    exact within

theorem made_after_le (within : attempts.made ≤ limit + 1) (looks : List Nat) :
    (attempts.after limit wait looks).made ≤ limit + 1 :=
  List.foldlRecOn (motive := fun attempts : Attempts => attempts.made ≤ limit + 1) looks
    (look limit wait) within fun _ within timeMs _ => made_look_le within timeMs

theorem after_append (earlier later : List Nat) : attempts.after limit wait (earlier ++ later) =
    (attempts.after limit wait earlier).after limit wait later :=
  List.foldl_append

/-- Unless an attempt is made nothing changes. -/
theorem after_eq_self {looks : List Nat}
    (same : (attempts.after limit wait looks).made = attempts.made) :
    attempts.after limit wait looks = attempts := by
  induction looks generalizing attempts with
  | nil => rfl
  | cons timeMs rest ih =>
      have whole : attempts.after limit wait (timeMs :: rest) =
        (attempts.look limit wait timeMs).after limit wait rest := rfl
      by_cases due : attempts.isDue limit timeMs = true
      · rw [whole, made_after, look_of_due due] at same
        exact absurd same (by simp only; omega)
      · rw [whole, look_of_early due] at same ⊢
        exact ih same

/-- Once the limit is passed there are no more attempts. -/
theorem times_of_over (late : limit < attempts.made) (looks : List Nat) :
    attempts.times limit wait looks = [] := by
  induction looks with
  | nil => rfl
  | cons timeMs rest ih =>
      have early : ¬attempts.isDue limit timeMs = true :=
        fun due => Nat.not_le.mpr late (isDue_iff.mp due).1
      rw [times, if_neg early, look_of_early early]
      exact ih

theorem endings_of_over (late : limit < attempts.made) (looks : List Nat) :
    attempts.endings limit wait looks = [] := by
  induction looks with
  | nil => rfl
  | cons timeMs rest ih =>
      have early : ¬attempts.isDue limit timeMs = true :=
        fun due => Nat.not_le.mpr late (isDue_iff.mp due).1
      rw [endings, Bool.eq_false_iff.mpr early, Bool.false_and, if_neg Bool.false_ne_true,
        look_of_early early]
      exact ih

/-- The attempts end with the one that passes the limit. -/
theorem endings_eq (within : attempts.made ≤ limit) (looks : List Nat) :
    attempts.endings limit wait looks =
      (attempts.times limit wait looks).drop (limit - attempts.made) := by
  induction looks generalizing attempts with
  | nil => exact List.drop_nil.symm
  | cons timeMs rest ih =>
      rw [endings, times]
      by_cases due : attempts.isDue limit timeMs = true
      · rw [due, Bool.true_and, if_pos rfl, look_of_due due]
        by_cases last : attempts.made = limit
        · have late : limit < attempts.made + 1 := by omega
          rw [if_pos (decide_eq_true last), endings_of_over late, times_of_over late, last,
            Nat.sub_self, List.drop_zero]
        · have earlier : attempts.made + 1 ≤ limit := by omega
          have next : limit - attempts.made = limit - (attempts.made + 1) + 1 := by omega
          rw [if_neg (by simpa using last), next, List.drop_succ_cons]
          exact ih earlier
      · rw [Bool.eq_false_iff.mpr due, Bool.false_and, if_neg Bool.false_ne_true,
          look_of_early due]
        exact ih within

/-- The next attempt is due after the last look, and before long. -/
def Punctual (limit horizon lastMs : Nat) (attempts : Attempts) : Prop :=
  attempts.made ≤ limit → lastMs ≤ attempts.dueMs ∧ attempts.dueMs < lastMs + horizon

theorem Punctual.look {horizon lastMs timeMs : Nat}
    (punctual : attempts.Punctual limit horizon lastMs)
    (waits : ∀ made, made ≤ limit → wait made < horizon) (later : lastMs ≤ timeMs) :
    (attempts.look limit wait timeMs).Punctual limit horizon timeMs := by
  by_cases due : attempts.isDue limit timeMs = true
  · rw [look_of_due due]
    intro within
    have short := waits _ within
    exact ⟨Nat.le_add_right _ _, Nat.add_lt_add_left short _⟩
  · rw [look_of_early due]
    intro within
    have early : timeMs < attempts.dueMs :=
      Nat.lt_of_not_le fun reached => due (isDue_iff.mpr ⟨within, reached⟩)
    have soon := (punctual within).2
    exact ⟨Nat.le_of_lt early, by omega⟩

end Attempts

end Sero.Library
