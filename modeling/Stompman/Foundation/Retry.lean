import Mathlib.Data.Stream.Init

/-!
# Bounded retries

An operation that may fail is repeated until it succeeds or a number of attempts is used up.  The
outcomes of its calls are given in advance, as a stream; the failures are kept in order.
-/

namespace Foundation

variable {ε α : Type}

/-- At most `left` more attempts, with the failures of the earlier ones. -/
def retryFrom (failures : List ε) : Stream' (Except ε α) → Nat → Except (List ε) α
  | _, 0 => .error failures
  | outcomes, left + 1 =>
      match outcomes.head with
      | .ok value => .ok value
      | .error failure => retryFrom (failures ++ [failure]) outcomes.tail left

/-- At most this number of attempts. -/
def retry (outcomes : Stream' (Except ε α)) (attempts : Nat) : Except (List ε) α :=
  retryFrom [] outcomes attempts

@[simp] theorem retryFrom_zero (failures : List ε) (outcomes : Stream' (Except ε α)) :
    retryFrom failures outcomes 0 = .error failures :=
  rfl

@[simp] theorem retryFrom_ok (failures : List ε) (value : α) (outcomes : Stream' (Except ε α))
    (left : Nat) : retryFrom failures (outcomes.cons (.ok value)) (left + 1) = .ok value :=
  rfl

@[simp] theorem retryFrom_error (failures : List ε) (failure : ε)
    (outcomes : Stream' (Except ε α)) (left : Nat) :
    retryFrom failures (outcomes.cons (.error failure)) (left + 1) =
      retryFrom (failures ++ [failure]) outcomes left :=
  rfl

theorem retryFrom_eq_error_iff (failures all : List ε) (outcomes : Stream' (Except ε α))
    (left : Nat) :
    retryFrom failures outcomes left = .error all ↔
      ∃ more, all = failures ++ more ∧ outcomes.take left = more.map .error := by
  induction left generalizing failures outcomes with
  | zero => simp [eq_comm]
  | succ left ih =>
      obtain ⟨outcome, rest, rfl⟩ : ∃ outcome rest, outcomes = Stream'.cons outcome rest :=
        ⟨outcomes.head, outcomes.tail, (Stream'.eta outcomes).symm⟩
      cases outcome with
      | ok value =>
          simp only [retryFrom_ok, Stream'.take_succ_cons, reduceCtorEq, false_iff, not_exists,
            not_and]
          rintro (_ | ⟨first, more⟩) - same <;> simp at same
      | error failure =>
          rw [retryFrom_error, ih]
          constructor
          · rintro ⟨more, rfl, taken⟩
            exact ⟨failure :: more, by simp, by simp [taken]⟩
          · rintro ⟨_ | ⟨first, more⟩, rfl, taken⟩
            · simp at taken
            · obtain ⟨rfl, later⟩ : failure = first ∧ rest.take left = more.map .error := by
                simpa using taken
              exact ⟨more, by simp, later⟩

/-- A retry fails when all its attempts fail, with their failures in order. -/
theorem retry_eq_error_iff (outcomes : Stream' (Except ε α)) (attempts : Nat) (failures : List ε) :
    retry outcomes attempts = .error failures ↔ outcomes.take attempts = failures.map .error := by
  simp [retry, retryFrom_eq_error_iff]

end Foundation
