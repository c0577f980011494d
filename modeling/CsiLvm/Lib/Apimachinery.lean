/-
Module: CsiLvm.Lib.Apimachinery
Purpose: The three packages of k8s.io/apimachinery the provisioner calls: the DNS-1123
  checks of `util/validation`, `wait.ExponentialBackoff` of `util/wait`, and
  `resource.Quantity` as the provisioner reads and builds it.
Trusted boundary: the library functions as restated in each docstring; the sleeps of the
  backoff are not modelled (only the order and number of attempts are).
Main exports: isDNS1123Label, isDNS1123Subdomain, Backoff, WaitResult, exponentialBackoff,
  Quantity, maxInt64, mustParseBinary, mustParseBinary_value_of_fits
-/
import CsiLvm.Lib.Runtime

namespace CsiLvm

namespace Validation

/-- `[a-z0-9]`. -/
def isLabelEdgeChar (c : Char) : Bool :=
  ('a' ≤ c && c ≤ 'z') || ('0' ≤ c && c ≤ '9')

/-- `[-a-z0-9]`. -/
def isLabelChar (c : Char) : Bool :=
  isLabelEdgeChar c || c == '-'

/-- The whole text matches `[a-z0-9]([-a-z0-9]*[a-z0-9])?`. -/
def matchesDNS1123Label : List Char → Bool
  | [] => false
  | c :: rest => isLabelEdgeChar c && rest.all isLabelChar && rest.getLast?.all isLabelEdgeChar

/-- One failed check of a validation function. The provisioner only asks whether the list
of failures is empty, so the texts of the messages are not kept. -/
inductive Violation where
  | maxLength (limit : Nat)
  | format
deriving Repr, DecidableEq

/-- `validation.IsDNS1123Label`: at most 63 bytes, matching the label pattern. -/
def isDNS1123Label (value : String) : List Violation :=
  (if 63 < value.utf8ByteSize then [.maxLength 63] else []) ++
    (if matchesDNS1123Label value.data then [] else [.format])

/-- `validation.IsDNS1123Subdomain`: at most 253 bytes, matching
`label(\.label)*` for the label pattern. -/
def isDNS1123Subdomain (value : String) : List Violation :=
  (if 253 < value.utf8ByteSize then [.maxLength 253] else []) ++
    (if (value.data.splitOn '.').all matchesDNS1123Label then [] else [.format])

end Validation

namespace Wait

/-- `wait.Backoff`. Duration, Factor and Jitter only set the sleeps between attempts, which
are not modelled; `steps` bounds the number of attempts. -/
structure Backoff where
  steps : Nat
deriving Repr, DecidableEq

/-- What `wait.ExponentialBackoff` returns: `nil` once the condition reports done, the
condition's own error, or `ErrWaitTimeout` once the steps are spent. -/
inductive WaitResult (ε : Type) where
  | done
  | failed (err : ε)
  | timedOut
deriving Repr, DecidableEq

/-- The loop of `wait.ExponentialBackoff` with `steps` attempts left. The condition is a
closure over the state `σ`; each attempt runs it once, and `err != nil || ok` ends the loop
with `err`. -/
def exponentialBackoffSteps {σ ε : Type} (condition : σ → (Bool × Option ε) × σ) :
    Nat → σ → WaitResult ε × σ
  | 0, state => (.timedOut, state)
  | steps + 1, state =>
      let checked := condition state
      match checked.1.2 with
      | some err => (.failed err, checked.2)
      | none =>
          if checked.1.1 then (.done, checked.2)
          else exponentialBackoffSteps condition steps checked.2

/-- `wait.ExponentialBackoff(backoff, condition)`. -/
def exponentialBackoff {σ ε : Type} (backoff : Backoff)
    (condition : σ → (Bool × Option ε) × σ) (state : σ) : WaitResult ε × σ :=
  exponentialBackoffSteps condition backoff.steps state

section

variable {σ ε : Type} {condition : σ → (Bool × Option ε) × σ} {state : σ}

@[simp] theorem exponentialBackoffSteps_zero :
    exponentialBackoffSteps condition 0 state = (.timedOut, state) := rfl

theorem exponentialBackoffSteps_of_failed {err : ε} {after : σ} {ok : Bool} (steps : Nat)
    (checked : condition state = ((ok, some err), after)) :
    exponentialBackoffSteps condition (steps + 1) state = (.failed err, after) := by
  simp [exponentialBackoffSteps, checked]

theorem exponentialBackoffSteps_of_done {after : σ} (steps : Nat)
    (checked : condition state = ((true, none), after)) :
    exponentialBackoffSteps condition (steps + 1) state = (.done, after) := by
  simp [exponentialBackoffSteps, checked]

theorem exponentialBackoffSteps_of_retry {after : σ} (steps : Nat)
    (checked : condition state = ((false, none), after)) :
    exponentialBackoffSteps condition (steps + 1) state =
      exponentialBackoffSteps condition steps after := by
  simp [exponentialBackoffSteps, checked]

end

/-- The text of `wait.ErrWaitTimeout`. -/
def errWaitTimeoutMessage : String := "timed out waiting for the condition"

end Wait

/-- A `resource.Quantity`, as the provisioner reads it: the number its `Value()` method
returns, in bytes for a storage quantity. -/
structure Quantity where
  value : Int
deriving Repr, DecidableEq

/-- The binary suffixes `bytesToGiQuantity` writes. -/
inductive BinarySuffix where
  | mi
  | gi
deriving Repr, DecidableEq

/-- What one unit of the suffix is, in bytes. -/
def BinarySuffix.multiplier : BinarySuffix → Nat
  | mi => 2 ^ 20
  | gi => 2 ^ 30

/-- `math.MaxInt64`, the bound `ParseQuantity` caps a quantity's magnitude at. -/
def maxInt64 : Int := 2 ^ 63 - 1

/-- `resource.MustParse(fmt.Sprintf("%v%s", num, suffix))` for an integer `num` and a binary
suffix, which always parses: `num` mebibytes or gibibytes, as `Value()` reads it. The amount is
exact when it fits an `int64`; past that `ParseQuantity` computes it exactly and caps its
magnitude at `math.MaxInt64` (so `8589934592Gi` reads as `2^63 - 1`). -/
def mustParseBinary (num : Int) (suffix : BinarySuffix) : Quantity :=
  ⟨max (-maxInt64) (min (num * suffix.multiplier) maxInt64)⟩

/-- The cap leaves every amount an `int64` holds as it is. -/
theorem mustParseBinary_value_of_fits {num : Int} {suffix : BinarySuffix}
    (fits : -maxInt64 ≤ num * suffix.multiplier ∧ num * suffix.multiplier ≤ maxInt64) :
    (mustParseBinary num suffix).value = num * suffix.multiplier := by
  simp only [mustParseBinary]
  omega

end CsiLvm
