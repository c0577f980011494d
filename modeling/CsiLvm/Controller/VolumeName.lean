/-
Module: CsiLvm.Controller.VolumeName
Purpose: `makeVolumeName`, the derivation of a volume's name from the configured prefix and
  the claim's UID, and what it returns for every prefix, UID and configured length: the
  exact shape of every name it returns, and the lengths for which its slice panics. The same
  function on the bytes of Go's strings agrees with it on every ASCII UID.
Trusted boundary: none
Main exports: makeVolumeName, makeVolumeName_eq_ok_iff, makeVolumeName_truncates,
  makeVolumeNameBytes, makeVolumeNameBytes_refines
-/
import CsiLvm.Api

namespace CsiLvm

/-!
[SPEC src/unnamed/part_001:121-138] With the default length `-1` the name is `prefix-uid`; with any
other length the UID loses its dashes and is cut to that length by the slice
`[0:volumeNameUUIDLength]`, which panics when the length is negative or longer than the
dash-free UID.
-/

/-- `strings.Replace(pvcUID, "-", "", -1)`. -/
def removeDashes (pvcUID : String) : List Char :=
  pvcUID.data.filter (· != '-')

/-- `makeVolumeName(prefix, pvcUID, volumeNameUUIDLength)`. -/
def makeVolumeName (volumeNamePrefix pvcUID : String) (volumeNameUUIDLength : Int) :
    GoResult ControllerError String :=
  if volumeNamePrefix.length = 0 then .error .volumeNamePrefixEmpty
  else if pvcUID.length = 0 then .error .pvcUIDMissing
  else if volumeNameUUIDLength = -1 then .ok (volumeNamePrefix ++ "-" ++ pvcUID)
  else do
    let uuid ← sliceTo (removeDashes pvcUID) volumeNameUUIDLength
    pure (volumeNamePrefix ++ "-" ++ String.mk uuid)

theorem dash_not_mem_removeDashes (pvcUID : String) : '-' ∉ removeDashes pvcUID := by
  simp [removeDashes]

section

variable {volumeNamePrefix pvcUID : String} {volumeNameUUIDLength : Int}

/-- Every name `makeVolumeName` returns, and when it returns one. -/
theorem makeVolumeName_eq_ok_iff {name : String} :
    makeVolumeName volumeNamePrefix pvcUID volumeNameUUIDLength = .ok name ↔
      volumeNamePrefix ≠ "" ∧ pvcUID ≠ "" ∧
        ((volumeNameUUIDLength = -1 ∧ name = volumeNamePrefix ++ "-" ++ pvcUID) ∨
          (volumeNameUUIDLength ≠ -1 ∧ 0 ≤ volumeNameUUIDLength ∧
            volumeNameUUIDLength ≤ (removeDashes pvcUID).length ∧
            name = volumeNamePrefix ++ "-" ++
              String.mk ((removeDashes pvcUID).take volumeNameUUIDLength.toNat))) := by
  unfold makeVolumeName
  by_cases emptyPrefix : volumeNamePrefix = ""
  · simp [emptyPrefix]
  by_cases emptyUID : pvcUID = ""
  · simp [emptyPrefix, emptyUID]
  have prefixLength : volumeNamePrefix.length ≠ 0 := by simpa using emptyPrefix
  have uidLength : pvcUID.length ≠ 0 := by simpa using emptyUID
  by_cases default : volumeNameUUIDLength = -1
  · simp [prefixLength, uidLength, default, emptyPrefix, emptyUID, eq_comm]
  · simp only [prefixLength, uidLength, default, if_false, GoResult.bind_eq_ok, sliceTo_eq_ok,
      GoResult.pure_eq, GoResult.ok.injEq, ne_eq, emptyPrefix, emptyUID, not_false_eq_true,
      false_and, false_or, true_and]
    constructor
    · rintro ⟨uuid, ⟨low, high, rfl⟩, rfl⟩
      exact ⟨low, high, rfl⟩
    · rintro ⟨low, high, rfl⟩
      exact ⟨_, ⟨low, high, rfl⟩, rfl⟩

/-- With a configured length other than `-1`, a returned name is the prefix, a dash, and a
dash-free prefix of the UID of exactly that length. -/
theorem makeVolumeName_truncates {name : String}
    (returned : makeVolumeName volumeNamePrefix pvcUID volumeNameUUIDLength = .ok name)
    (configured : volumeNameUUIDLength ≠ -1) :
    ∃ uuid : List Char, name = volumeNamePrefix ++ "-" ++ String.mk uuid ∧
      (uuid.length : Int) = volumeNameUUIDLength ∧ '-' ∉ uuid ∧
      uuid <+: removeDashes pvcUID := by
  obtain ⟨-, -, ⟨isDefault, -⟩ | ⟨-, low, high, rfl⟩⟩ :=
    makeVolumeName_eq_ok_iff.mp returned
  · exact absurd isDefault configured
  refine ⟨_, rfl, ?_, fun member => dash_not_mem_removeDashes pvcUID
    (List.mem_of_mem_take member), List.take_prefix _ _⟩
  rw [List.length_take]
  omega

theorem makeVolumeName_truncates_sample :
    makeVolumeName "pvc" "6b0dbf72-5f1a-4a8e-9d4c-1c2b3a4d5e6f" 8 = .ok "pvc-6b0dbf72" ∧
      (8 : Int) ≠ -1 ∧
      ∃ uuid : List Char, "pvc-6b0dbf72" = "pvc" ++ "-" ++ String.mk uuid ∧
        (uuid.length : Int) = 8 ∧ '-' ∉ uuid ∧
        uuid <+: removeDashes "6b0dbf72-5f1a-4a8e-9d4c-1c2b3a4d5e6f" :=
  ⟨by decide, by decide, makeVolumeName_truncates (by decide) (by decide)⟩

end

/-- A configured length past the dash-free UID makes the slice panic: a 36-character UUID
has 32 characters left without its dashes. -/
theorem makeVolumeName_panics_past_uid :
    makeVolumeName "pvc" "6b0dbf72-5f1a-4a8e-9d4c-1c2b3a4d5e6f" 40 =
        .panic (.sliceBoundsOutOfRange 40 32) ∧
      makeVolumeName "pvc" "6b0dbf72-5f1a-4a8e-9d4c-1c2b3a4d5e6f" (-2) =
        .panic (.sliceBoundsOutOfRange (-2) 32) := by
  decide

/-! ### On bytes

Go's `len`, `strings.Replace` and the slice `[0:volumeNameUUIDLength]` read a string as its
bytes. `makeVolumeNameBytes` is `makeVolumeName` as the code runs it, on `[]byte(s)`; on an
ASCII UID, which a Kubernetes UID is, it gives the bytes of the name `makeVolumeName` builds
from characters. A UID with a character of several bytes could be cut inside it.
-/

/-- `strings.Replace(pvcUID, "-", "", -1)` on bytes. -/
def removeDashBytes (pvcUID : List UInt8) : List UInt8 :=
  pvcUID.filter (· != '-'.toUInt8)

/-- `makeVolumeName(prefix, pvcUID, volumeNameUUIDLength)` on the bytes of its strings. -/
def makeVolumeNameBytes (volumeNamePrefix pvcUID : List UInt8) (volumeNameUUIDLength : Int) :
    GoResult ControllerError (List UInt8) :=
  if volumeNamePrefix.length = 0 then .error .volumeNamePrefixEmpty
  else if pvcUID.length = 0 then .error .pvcUIDMissing
  else if volumeNameUUIDLength = -1 then .ok (volumeNamePrefix ++ ['-'.toUInt8] ++ pvcUID)
  else do
    let uuid ← sliceTo (removeDashBytes pvcUID) volumeNameUUIDLength
    pure (volumeNamePrefix ++ ['-'.toUInt8] ++ uuid)

theorem removeDashBytes_of_ascii {pvcUID : String} (ascii : ∀ c ∈ pvcUID.data, c.toNat < 128) :
    removeDashBytes (goBytes pvcUID) = (removeDashes pvcUID).map Char.toUInt8 := by
  rw [goBytes_of_ascii ascii, removeDashBytes, removeDashes, List.filter_map]
  congr 1
  refine List.filter_congr fun c member => ?_
  by_cases same : c = '-'
  · simp [same]
  · have differ : c.toUInt8 ≠ '-'.toUInt8 :=
      mt (toUInt8_inj_of_ascii (ascii c member) (by decide)).mp same
    rw [Function.comp_apply, bne_iff_ne.mpr differ, bne_iff_ne.mpr same]

/-- On an ASCII UID the byte-level `makeVolumeName` returns the bytes of the name the
character-level one returns, fails with the same error, and panics at the same bound. -/
theorem makeVolumeNameBytes_refines (volumeNamePrefix : String) {pvcUID : String}
    (volumeNameUUIDLength : Int) (ascii : ∀ c ∈ pvcUID.data, c.toNat < 128) :
    makeVolumeNameBytes (goBytes volumeNamePrefix) (goBytes pvcUID) volumeNameUUIDLength =
      goBytes <$> makeVolumeName volumeNamePrefix pvcUID volumeNameUUIDLength := by
  have dashBytes : goBytes "-" = ['-'.toUInt8] := rfl
  unfold makeVolumeNameBytes makeVolumeName
  by_cases emptyPrefix : volumeNamePrefix = ""
  · simp [emptyPrefix]
  by_cases emptyUID : pvcUID = ""
  · simp [emptyPrefix, emptyUID]
  by_cases default : volumeNameUUIDLength = -1
  · simp [emptyPrefix, emptyUID, default, dashBytes]
  · simp only [List.length_eq_zero, goBytes_eq_nil_iff, string_length_eq_zero_iff, emptyPrefix,
      emptyUID, default, if_false]
    rw [removeDashBytes_of_ascii ascii, sliceTo_map]
    cases sliced : (sliceTo (removeDashes pvcUID) volumeNameUUIDLength : GoResult _ _) with
    | ok uuid =>
        obtain ⟨-, -, rfl⟩ := sliceTo_eq_ok.mp sliced
        have asciiUUID : ∀ c ∈ (removeDashes pvcUID).take volumeNameUUIDLength.toNat,
            c.toNat < 128 :=
          fun c member => ascii c (List.mem_of_mem_filter (List.mem_of_mem_take member))
        simp [dashBytes, @goBytes_of_ascii ⟨_⟩ asciiUUID]
    | error err => rfl
    | panic reason => rfl

theorem makeVolumeNameBytes_refines_sample :
    (∀ c ∈ "6b0dbf72-5f1a-4a8e-9d4c-1c2b3a4d5e6f".data, c.toNat < 128) ∧
      makeVolumeNameBytes (goBytes "pvc") (goBytes "6b0dbf72-5f1a-4a8e-9d4c-1c2b3a4d5e6f") 8 =
        goBytes <$> makeVolumeName "pvc" "6b0dbf72-5f1a-4a8e-9d4c-1c2b3a4d5e6f" 8 :=
  ⟨by decide, makeVolumeNameBytes_refines "pvc" 8 (by decide)⟩

end CsiLvm
