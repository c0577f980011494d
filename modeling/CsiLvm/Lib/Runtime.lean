/-
Module: CsiLvm.Lib.Runtime
Purpose: The parts of the Go language the provisioner relies on: calls that return a
  value, return an error, or panic; `map[string]string`; slicing a string; and the
  conversion of an `int64` to `float64`.
Trusted boundary: the Go specification, as restated in each docstring.
Main exports: RuntimePanic, GoResult, StringMap, StringMap.lookup_foldl_insert, sliceTo,
  sliceTo_map, goBytes, goBytes_of_ascii, float64OfInt, float64OfInt_near
-/
import Mathlib.Algebra.Group.Int
import Mathlib.Data.List.AList
import Mathlib.Data.Nat.Log

namespace CsiLvm

/-!
Go strings are modelled as Lean strings. The byte-indexed operations the provisioner
performs (`len`, `s[0:n]`, the scan of `os.Expand`) are stated on characters; they agree
with Go's on ASCII text, and the scan of `os.Expand` agrees on any valid UTF-8 text since
it only stops at ASCII bytes. `goBytes` gives the bytes themselves, for the statements that
compare the two readings.
-/

/-- A run-time panic of the Go program. Panics are values of the model, so that a claim
that some code never panics is a statement about it. -/
inductive RuntimePanic where
  /-- A field access or `*p` through the nil pointer named by `expression`. -/
  | nilPointerDereference (expression : String)
  /-- `s[0:high]` with `high` outside `0 ..= len(s)`. -/
  | sliceBoundsOutOfRange (high : Int) (length : Nat)
deriving Repr, DecidableEq

/-- How a call of Go code ends: it returns a value, it returns a non-nil `error`, or it
panics. -/
inductive GoResult (ε α : Type) where
  | ok (value : α)
  | error (err : ε)
  | panic (reason : RuntimePanic)
deriving Repr, DecidableEq

namespace GoResult

variable {ε α β : Type}

/-- Sequencing as Go writes it: `v, err := f(); if err != nil { return err }`, with a panic
unwinding through every caller. -/
def bind : GoResult ε α → (α → GoResult ε β) → GoResult ε β
  | ok value, next => next value
  | error err, _ => error err
  | panic reason, _ => panic reason

instance : Monad (GoResult ε) where
  pure := ok
  bind := bind

instance : MonadExceptOf ε (GoResult ε) where
  throw := error
  tryCatch x handle := match x with
    | error err => handle err
    | other => other

/-- `return fmt.Errorf(...)`: the function returns the error. -/
@[simp] theorem throw_eq (err : ε) : (throw err : GoResult ε α) = error err := rfl

@[simp] theorem pure_eq (a : α) : (pure a : GoResult ε α) = ok a := rfl

@[simp] theorem ok_bind (a : α) (next : α → GoResult ε β) : (ok a >>= next) = next a := rfl

@[simp] theorem error_bind (err : ε) (next : α → GoResult ε β) :
    (error err >>= next) = error err := rfl

@[simp] theorem panic_bind (reason : RuntimePanic) (next : α → GoResult ε β) :
    (panic reason >>= next) = panic reason := rfl

@[simp] theorem map_ok (f : α → β) (a : α) : (f <$> ok a : GoResult ε β) = ok (f a) := rfl

@[simp] theorem map_error (f : α → β) (err : ε) : (f <$> error err : GoResult ε β) = error err :=
  rfl

@[simp] theorem map_panic (f : α → β) (reason : RuntimePanic) :
    (f <$> panic reason : GoResult ε β) = panic reason := rfl

theorem bind_eq_ok {x : GoResult ε α} {next : α → GoResult ε β} {b : β} :
    (x >>= next) = ok b ↔ ∃ a, x = ok a ∧ next a = ok b := by
  cases x <;> simp

/-- A call that cannot panic, seen as Go code that may. -/
def ofExcept : Except ε α → GoResult ε α
  | .ok value => ok value
  | .error err => error err

@[simp] theorem ofExcept_ok (a : α) : ofExcept (.ok a : Except ε α) = ok a := rfl

@[simp] theorem ofExcept_error (err : ε) : ofExcept (.error err : Except ε α) = error err := rfl

@[simp] theorem ofExcept_eq_ok {x : Except ε α} {a : α} : ofExcept x = ok a ↔ x = .ok a := by
  cases x <;> simp

/-- The call came back to its caller, with a value or an error, instead of panicking. -/
def Returned : GoResult ε α → Prop
  | panic _ => False
  | _ => True

instance (r : GoResult ε α) : Decidable r.Returned :=
  match r with
  | ok _ => isTrue trivial
  | error _ => isTrue trivial
  | panic _ => isFalse id

@[simp] theorem not_returned_panic (reason : RuntimePanic) :
    ¬ (panic reason : GoResult ε α).Returned := id

end GoResult

/-- A Go `map[string]string`. Its `entries` list is the order one `range` loop over the
map visits; Go chooses that order afresh for every loop, so a statement about every order
quantifies over the lists. A nil map reads as the empty map. -/
abbrev StringMap := AList (fun _ : String => String)

/-- `m[k]` on a `map[string]string`: the zero value `""` for a missing key. -/
def StringMap.get (m : StringMap) (key : String) : String :=
  (m.lookup key).getD ""

/-- `for k, v := range source { m[k] = v }`, in any order the loop visits `source`: a key of
`source` reads its value there, and every other key keeps the one it had in `m`. -/
theorem StringMap.lookup_foldl_insert (source init : StringMap) (key : String) :
    (source.entries.foldl (fun m entry => m.insert entry.1 entry.2) init).lookup key =
      (source.lookup key).or (init.lookup key) := by
  obtain ⟨entries, distinct⟩ := source
  show _ = (entries.dlookup key).or _
  induction entries generalizing init with
  | nil => rfl
  | cons entry entries inductionHypothesis =>
    obtain ⟨name, value⟩ := entry
    obtain ⟨fresh, distinct⟩ := List.nodupKeys_cons.mp distinct
    rw [List.foldl_cons, inductionHypothesis _ distinct]
    by_cases same : key = name
    · subst same
      simp [List.dlookup_eq_none.mpr fresh]
    · simp [List.dlookup_cons_ne, same, AList.lookup_insert_ne same]

/-- `len(s) == 0` holds of the empty string only. -/
@[simp] theorem string_length_eq_zero_iff {s : String} : s.length = 0 ↔ s = "" := by
  cases s with
  | mk data => cases data <;> simp [String.length, String.ext_iff]

/-- Go's `s[0:high]`: the first `high` elements, or a panic when `high` is negative or past
the end. -/
def sliceTo {ε α : Type} (s : List α) (high : Int) : GoResult ε (List α) :=
  if 0 ≤ high ∧ high ≤ s.length then .ok (s.take high.toNat)
  else .panic (.sliceBoundsOutOfRange high s.length)

theorem sliceTo_eq_ok {ε α : Type} {s : List α} {high : Int} {t : List α} :
    (sliceTo s high : GoResult ε (List α)) = .ok t ↔
      0 ≤ high ∧ high ≤ s.length ∧ t = s.take high.toNat := by
  unfold sliceTo
  split <;> simp_all [and_assoc, eq_comm]

/-- Slicing commutes with a map of the elements, which keeps the length. -/
theorem sliceTo_map {ε α β : Type} (f : α → β) (s : List α) (high : Int) :
    (sliceTo (s.map f) high : GoResult ε (List β)) = (List.map f) <$> sliceTo s high := by
  unfold sliceTo
  by_cases inRange : 0 ≤ high ∧ high ≤ s.length
  · rw [if_pos (by simpa using inRange), if_pos inRange, GoResult.map_ok, List.map_take]
  · rw [if_neg (by simpa using inRange), if_neg inRange, GoResult.map_panic, List.length_map]

/-! ### The bytes of a string -/

/-- `[]byte(s)`: the UTF-8 encoding of the string, which `len`, slicing and `strings.Replace`
work on. -/
def goBytes (s : String) : List UInt8 :=
  s.data.flatMap String.utf8EncodeChar

@[simp] theorem goBytes_append (s t : String) : goBytes (s ++ t) = goBytes s ++ goBytes t := by
  simp [goBytes]

/-- A string has no bytes only when it is empty, since every character takes one to four. -/
@[simp] theorem goBytes_eq_nil_iff {s : String} : goBytes s = [] ↔ s = "" := by
  cases s with
  | mk data =>
      cases data <;>
        simp [goBytes, String.ext_iff, ← List.length_eq_zero, (Char.utf8Size_pos _).ne']

/-- An ASCII character is its own byte. -/
theorem utf8EncodeChar_of_ascii {c : Char} (ascii : c.toNat < 128) :
    String.utf8EncodeChar c = [c.toUInt8] := by
  have small : c.val ≤ 0x7f := Nat.le_of_lt_succ ascii
  simp [String.utf8EncodeChar, small, Char.toUInt8]

/-- An ASCII string's bytes are its characters' codes. -/
theorem goBytes_of_ascii {s : String} (ascii : ∀ c ∈ s.data, c.toNat < 128) :
    goBytes s = s.data.map Char.toUInt8 := by
  obtain ⟨chars⟩ := s
  simp only [goBytes] at ascii ⊢
  induction chars with
  | nil => rfl
  | cons c chars inductionHypothesis =>
      rw [List.flatMap_cons, utf8EncodeChar_of_ascii (ascii c (List.mem_cons_self c chars)),
        inductionHypothesis fun c' member => ascii c' (List.mem_cons_of_mem c member)]
      rfl

/-- Two ASCII characters are equal when their bytes are. -/
theorem toUInt8_inj_of_ascii {c d : Char} (asciiC : c.toNat < 128) (asciiD : d.toNat < 128) :
    c.toUInt8 = d.toUInt8 ↔ c = d := by
  constructor
  · intro same
    have codes : c.toNat % 256 = d.toNat % 256 := congrArg UInt8.toNat same
    exact Char.ext (UInt32.toNat.inj (by simp only [Char.toNat] at *; omega))
  · exact congrArg Char.toUInt8

/-- `float64(n)` for an `int64` `n`, as the integer the double denotes: `n` itself when
`|n| ≤ 2^53`, and otherwise `n` rounded to 53 significant bits, ties to even. -/
def float64OfInt (n : Int) : Int :=
  if n.natAbs ≤ 2 ^ 53 then n
  else
    let magnitude := n.natAbs
    let dropped := Nat.log2 magnitude - 52
    let kept := magnitude / 2 ^ dropped
    let rest := magnitude % 2 ^ dropped
    let half := 2 ^ dropped / 2
    let rounded := if half < rest ∨ (rest = half ∧ kept % 2 = 1) then kept + 1 else kept
    n.sign * ((rounded * 2 ^ dropped : Nat) : Int)

theorem float64OfInt_of_natAbs_le {n : Int} (small : n.natAbs ≤ 2 ^ 53) :
    float64OfInt n = n := by
  unfold float64OfInt
  exact if_pos small

/-- Rounding `m` to a multiple of `unit`, to nearest with ties to an even multiple, moves it
by half a unit at most, and not at all when `m` is a multiple already. -/
theorem round_mul_near (m unit : Nat) (positive : 0 < unit) :
    let kept := m / unit
    let rest := m % unit
    let half := unit / 2
    let rounded := if half < rest ∨ (rest = half ∧ kept % 2 = 1) then kept + 1 else kept
    m ≤ rounded * unit + half ∧ rounded * unit ≤ m + (unit - half) ∧
      (rest = 0 → 0 < half → rounded * unit = m) := by
  intro kept rest half rounded
  have parts : kept * unit + rest = m := by rw [Nat.mul_comm]; exact Nat.div_add_mod m unit
  have restBelow : rest < unit := Nat.mod_lt m positive
  have halfBelow : half ≤ unit := Nat.div_le_self unit 2
  by_cases up : half < rest ∨ (rest = half ∧ kept % 2 = 1)
  · have : rounded = kept + 1 := if_pos up
    rw [this, Nat.add_mul, Nat.one_mul]
    omega
  · have : rounded = kept := if_neg up
    rw [this]
    omega

/-- On the `int64` range `float64(n)` is within 512 of `n`: above `2^53` a double keeps 53
significant bits, so at most the 10 low bits of an `int64` below `2^63` are rounded away, and
`-2^63` is a power of two, which a double holds. -/
theorem float64OfInt_near {n : Int} (int64 : n.natAbs ≤ 2 ^ 63) :
    n - 512 ≤ float64OfInt n ∧ float64OfInt n ≤ n + 512 := by
  unfold float64OfInt
  split
  · omega
  case isFalse large =>
    have nonzero : n.natAbs ≠ 0 := by omega
    have logLarge : 53 ≤ Nat.log2 n.natAbs := (Nat.le_log2 nonzero).mpr (by omega)
    have unitLarge : 2 ≤ 2 ^ (Nat.log2 n.natAbs - 52) := Nat.le_self_pow (by omega) 2
    have close : 2 ^ (Nat.log2 n.natAbs - 52) ≤ 2 ^ 10 ∨
        n.natAbs % 2 ^ (Nat.log2 n.natAbs - 52) = 0 := by
      rcases Nat.lt_or_eq_of_le int64 with inside | boundary
      · have logSmall : Nat.log2 n.natAbs < 63 := (Nat.log2_lt nonzero).mpr inside
        exact .inl (Nat.pow_le_pow_right (by decide) (by omega))
      · have logSmall : Nat.log2 n.natAbs < 64 := (Nat.log2_lt nonzero).mpr (by omega)
        have divides : 2 ^ (Nat.log2 n.natAbs - 52) ∣ 2 ^ 63 := Nat.pow_dvd_pow 2 (by omega)
        rw [← boundary] at divides
        exact .inr (Nat.mod_eq_zero_of_dvd divides)
    have near := round_mul_near n.natAbs (2 ^ (Nat.log2 n.natAbs - 52)) (by omega)
    dsimp only at near ⊢
    rcases Int.lt_or_gt_of_ne (show n ≠ 0 by omega) with negative | positive
    · rw [Int.sign_eq_neg_one_of_neg negative]
      omega
    · rw [Int.sign_eq_one_of_pos positive]
      omega

/-- `int64(math.Ceil(x / 2^k))` for a double `x` that denotes the integer `x`: the
division by a power of two and the ceiling are exact in binary floating point. -/
def ceilDivPow2 (x : Int) (k : Nat) : Int :=
  -((-x) / (2 ^ k : Nat))

theorem le_ceilDivPow2_mul (x : Int) (k : Nat) : x ≤ ceilDivPow2 x k * (2 ^ k : Nat) := by
  have positive : (0 : Int) < (2 ^ k : Nat) := by exact_mod_cast Nat.two_pow_pos k
  have := Int.ediv_mul_le (-x) positive.ne'
  simp only [ceilDivPow2, Int.neg_mul]
  omega

theorem ceilDivPow2_mul_lt (x : Int) (k : Nat) :
    ceilDivPow2 x k * (2 ^ k : Nat) < x + (2 ^ k : Nat) := by
  have positive : (0 : Int) < (2 ^ k : Nat) := by exact_mod_cast Nat.two_pow_pos k
  have := Int.lt_ediv_add_one_mul_self (-x) positive
  simp only [ceilDivPow2, Int.neg_mul]
  rw [Int.add_mul, Int.one_mul] at this
  omega

end CsiLvm
