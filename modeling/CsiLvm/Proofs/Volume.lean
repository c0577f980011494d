/-
Module: CsiLvm.Proofs.Volume
Purpose: The volume a run of `Provision` returns, and what `Delete` later does with it. Up to
  `2^53` bytes the returned PV is at least as large as the claim asked for, and records the
  driver's size rounded up to whole mebibytes or gibibytes; above, `float64(bytes)` may round
  the size down, by 512 bytes at most on the `int64` range. `Delete`, against a store that
  still holds the storage class and the secret, sends the same DeleteVolume request the
  capacity guard of `Provision` would have sent.
Trusted boundary: `float64OfInt` is Go's conversion of an `int64` to a double (round to
  nearest, ties to even); a double holds every integer up to `2^53`.
Main exports: ceilDivPow2_eq_ceil, ceilDivPow2_mul_fits, bytesToGiQuantity_of_exact,
  bytesToGiQuantity_value, bytesToGiQuantity_bounds,
  bytesToGiQuantity_near, provision_eq_ok_of_created
-/
import CsiLvm.Proofs.Runs
import Mathlib.Data.Rat.Floor

namespace CsiLvm

/-!
[SPEC src/unnamed/part_001:276-331, 400-442, 557-575] The capacity guard compares the driver's size
with the claim's request before the PV is built, and `Delete` resolves the creation secret
again from the storage class the PV names.
-/

/-! ### `bytesToGiQuantity` -/

/-- `ceilDivPow2 x k` is the ceiling of `x / 2^k`. -/
theorem ceilDivPow2_eq_ceil (x : Int) (k : Nat) : ceilDivPow2 x k = ⌈(x : ℚ) / 2 ^ k⌉ := by
  have positive : (0 : ℚ) < 2 ^ k := by positivity
  have upper : (x : ℚ) ≤ ceilDivPow2 x k * 2 ^ k := by exact_mod_cast le_ceilDivPow2_mul x k
  have lower : (ceilDivPow2 x k : ℚ) * 2 ^ k < x + 2 ^ k := by
    exact_mod_cast ceilDivPow2_mul_lt x k
  symm
  rw [Int.ceil_eq_iff, lt_div_iff₀ positive, div_le_iff₀ positive]
  constructor <;> linarith

/-- Rounded up to a multiple of at most a gibibyte, a size a double holds exactly stays in
the `int64` range, where `mustParseBinary` is exact. -/
theorem ceilDivPow2_mul_fits {x : Int} (k : Nat) (exact : x.natAbs ≤ 2 ^ 53) (unit : k ≤ 30) :
    -maxInt64 ≤ ceilDivPow2 x k * (2 ^ k : Nat) ∧ ceilDivPow2 x k * (2 ^ k : Nat) ≤ maxInt64 := by
  have := le_ceilDivPow2_mul x k
  have := ceilDivPow2_mul_lt x k
  have : 2 ^ k ≤ 2 ^ 30 := Nat.pow_le_pow_right (by decide) unit
  simp only [maxInt64]
  omega

/-- On a size a double holds exactly, `bytesToGiQuantity` rounds up to whole mebibytes below
one gibibyte and to whole gibibytes from there, in integer arithmetic. -/
theorem bytesToGiQuantity_of_exact {bytes : Int} (exact : bytes.natAbs ≤ 2 ^ 53) :
    (bytesToGiQuantity bytes).value =
      if bytes < 2 ^ 30 then ceilDivPow2 bytes 20 * (2 ^ 20 : Nat)
      else ceilDivPow2 bytes 30 * (2 ^ 30 : Nat) := by
  unfold bytesToGiQuantity
  rw [float64OfInt_of_natAbs_le exact]
  dsimp only
  split_ifs
  · exact @mustParseBinary_value_of_fits _ .mi (ceilDivPow2_mul_fits 20 exact (by decide))
  · exact @mustParseBinary_value_of_fits _ .gi (ceilDivPow2_mul_fits 30 exact (by decide))

/-- The same rounding, as ceilings of rationals. -/
theorem bytesToGiQuantity_value {bytes : Int} (exact : bytes.natAbs ≤ 2 ^ 53) :
    (bytesToGiQuantity bytes).value =
      if bytes < 2 ^ 30 then ⌈(bytes : ℚ) / 2 ^ 20⌉ * 2 ^ 20
      else ⌈(bytes : ℚ) / 2 ^ 30⌉ * 2 ^ 30 := by
  rw [bytesToGiQuantity_of_exact exact]
  split <;> simp [ceilDivPow2_eq_ceil]

/-- The rounding adds less than one gibibyte. -/
theorem bytesToGiQuantity_bounds {bytes : Int} (exact : bytes.natAbs ≤ 2 ^ 53) :
    bytes ≤ (bytesToGiQuantity bytes).value ∧
      (bytesToGiQuantity bytes).value < bytes + 2 ^ 30 := by
  have := le_ceilDivPow2_mul bytes 20
  have := ceilDivPow2_mul_lt bytes 20
  have := le_ceilDivPow2_mul bytes 30
  have := ceilDivPow2_mul_lt bytes 30
  rw [bytesToGiQuantity_of_exact exact]
  split <;> omega

/-- On every `int64` size the rounding of `bytesToGiQuantity` stays within 512 bytes below
the size, where `float64(bytes)` may round down, and less than a gibibyte and 512 bytes
above it; where the rounded size passes `math.MaxInt64`, the cap keeps it there. -/
theorem bytesToGiQuantity_near {bytes : Int} (int64 : -2 ^ 63 ≤ bytes ∧ bytes < 2 ^ 63) :
    bytes - 512 ≤ (bytesToGiQuantity bytes).value ∧
      (bytesToGiQuantity bytes).value < bytes + 2 ^ 30 + 512 := by
  have near := float64OfInt_near (show bytes.natAbs ≤ 2 ^ 63 by omega)
  unfold bytesToGiQuantity
  dsimp only
  split
  · have := le_ceilDivPow2_mul (float64OfInt bytes) 20
    have := ceilDivPow2_mul_lt (float64OfInt bytes) 20
    simp only [mustParseBinary, BinarySuffix.multiplier, maxInt64] at *
    omega
  · have := le_ceilDivPow2_mul (float64OfInt bytes) 30
    have := ceilDivPow2_mul_lt (float64OfInt bytes) 30
    simp only [mustParseBinary, BinarySuffix.multiplier, maxInt64] at *
    omega

/-! ### The returned volume -/

section Run

variable {p : CsiProvisioner} {store : ObjectStore} {driver : ControllerClient}
  {options : VolumeOptions}

/-- The volume `Provision` returns after the successful reply `rep`: the PV built from the
reply's volume, which the capacity guard let through. -/
theorem provision_eq_ok_of_created {pv : PersistentVolume} {req : CreateVolumeRequest}
    {rep : CreateVolumeResponse} {volume : Volume}
    (provisioned : (provision p store driver options).result = .ok pv)
    (created : .createVolume req (.ok rep) ∈ (provision p store driver options).calls)
    (hasVolume : rep.volume = some volume) :
    ∃ prepared, prepareProvision p store options = .ok prepared ∧ req = prepared.request ∧
      ¬ volume.capacityBytes < prepared.volSizeBytes ∧
      pv = provisionedVolume p options prepared volume := by
  obtain ⟨prepared, prepared_ok, rfl, log, ran, -, -⟩ := provision_of_created created
  obtain ⟨_, returned, sized, rfl⟩ := finishProvision_eq_ok (ran ▸ provisioned)
  cases hasVolume.symm.trans returned
  exact ⟨prepared, prepared_ok, rfl, sized, rfl⟩

theorem provisioned_capacity_covers_request {pv : PersistentVolume} {req : CreateVolumeRequest}
    {rep : CreateVolumeResponse} {volume : Volume}
    (provisioned : (provision p store driver options).result = .ok pv)
    (created : .createVolume req (.ok rep) ∈ (provision p store driver options).calls)
    (hasVolume : rep.volume = some volume) :
    options.pvc.requestedBytes ≤ volume.capacityBytes ∧
      pv.capacity = bytesToGiQuantity volume.capacityBytes ∧
      (0 ≤ options.pvc.requestedBytes → volume.capacityBytes ≤ 2 ^ 53 →
        pv.capacity.value =
            (if volume.capacityBytes < 2 ^ 30 then
                ⌈(volume.capacityBytes : ℚ) / 2 ^ 20⌉ * 2 ^ 20
              else ⌈(volume.capacityBytes : ℚ) / 2 ^ 30⌉ * 2 ^ 30) ∧
          volume.capacityBytes ≤ pv.capacity.value ∧
          pv.capacity.value < volume.capacityBytes + 2 ^ 30) := by
  obtain ⟨prepared, prepared_ok, -, sized, rfl⟩ :=
    provision_eq_ok_of_created provisioned created hasVolume
  have requested : options.pvc.requestedBytes ≤ volume.capacityBytes :=
    (prepareProvision_eq_ok prepared_ok).sized ▸ not_lt.mp sized
  refine ⟨requested, rfl, fun nonnegative small => ?_⟩
  have exact : volume.capacityBytes.natAbs ≤ 2 ^ 53 := by omega
  exact ⟨bytesToGiQuantity_value exact, bytesToGiQuantity_bounds exact⟩

theorem provisioned_capacity_covers_request_sample :
    let created : CreateVolumeResponse := { volume := some ⟨3 * 2 ^ 30, "vol-1", ∅⟩ }
    let run := provision sampleProvisioner emptyStore (constantDriver (.ok created))
      (sampleOptions (3 * 2 ^ 30) none)
    ∃ pv req, run.result = .ok pv ∧ .createVolume req (.ok created) ∈ run.calls ∧
      created.volume = some ⟨3 * 2 ^ 30, "vol-1", ∅⟩ ∧
      (sampleOptions (3 * 2 ^ 30) none).pvc.requestedBytes ≤ 3 * 2 ^ 30 ∧
      pv.capacity = bytesToGiQuantity (3 * 2 ^ 30) ∧
      (0 ≤ (sampleOptions (3 * 2 ^ 30) none).pvc.requestedBytes →
        (3 * 2 ^ 30 : Int) ≤ 2 ^ 53 →
        pv.capacity.value =
            (if (3 * 2 ^ 30 : Int) < 2 ^ 30 then ⌈((3 * 2 ^ 30 : Int) : ℚ) / 2 ^ 20⌉ * 2 ^ 20
              else ⌈((3 * 2 ^ 30 : Int) : ℚ) / 2 ^ 30⌉ * 2 ^ 30) ∧
          3 * 2 ^ 30 ≤ pv.capacity.value ∧ pv.capacity.value < 3 * 2 ^ 30 + 2 ^ 30) :=
  by
  intro created run
  obtain ⟨pv, returned⟩ : ∃ pv, run.result = .ok pv := ⟨_, rfl⟩
  obtain ⟨req, member⟩ : ∃ req, .createVolume req (.ok created) ∈ run.calls :=
    ⟨_, List.mem_singleton_self _⟩
  exact ⟨pv, req, returned, member, rfl,
    provisioned_capacity_covers_request returned member rfl⟩

/-- The capacity of the volume `Provision` returns, for every driver size in the `int64`
range: at most 512 bytes below the driver's size, and so below the claim's request by as much
at most (a size of `2^60 + 1` bytes is recorded as `2^60`), and less than a gibibyte and 512
bytes above the driver's size. -/
theorem provisioned_capacity_within_int64 {pv : PersistentVolume} {req : CreateVolumeRequest}
    {rep : CreateVolumeResponse} {volume : Volume}
    (provisioned : (provision p store driver options).result = .ok pv)
    (created : .createVolume req (.ok rep) ∈ (provision p store driver options).calls)
    (hasVolume : rep.volume = some volume)
    (int64 : -2 ^ 63 ≤ volume.capacityBytes ∧ volume.capacityBytes < 2 ^ 63) :
    options.pvc.requestedBytes - 512 ≤ pv.capacity.value ∧
      volume.capacityBytes - 512 ≤ pv.capacity.value ∧
      pv.capacity.value < volume.capacityBytes + 2 ^ 30 + 512 := by
  obtain ⟨prepared, prepared_ok, -, sized, rfl⟩ :=
    provision_eq_ok_of_created provisioned created hasVolume
  have requested : options.pvc.requestedBytes ≤ volume.capacityBytes :=
    (prepareProvision_eq_ok prepared_ok).sized ▸ not_lt.mp sized
  have near := bytesToGiQuantity_near int64
  exact ⟨by simp only [provisionedVolume]; omega, near.1, near.2⟩

theorem provisioned_capacity_within_int64_sample :
    let created : CreateVolumeResponse := { volume := some ⟨2 ^ 60 + 1, "vol-1", ∅⟩ }
    let run := provision sampleProvisioner emptyStore (constantDriver (.ok created))
      (sampleOptions (2 ^ 60 + 1) none)
    ∃ pv req, run.result = .ok pv ∧ .createVolume req (.ok created) ∈ run.calls ∧
      created.volume = some ⟨2 ^ 60 + 1, "vol-1", ∅⟩ ∧
      (-2 ^ 63 ≤ (2 ^ 60 + 1 : Int) ∧ (2 ^ 60 + 1 : Int) < 2 ^ 63) ∧
      (sampleOptions (2 ^ 60 + 1) none).pvc.requestedBytes - 512 ≤ pv.capacity.value ∧
      (2 ^ 60 + 1 : Int) - 512 ≤ pv.capacity.value ∧
      pv.capacity.value < (2 ^ 60 + 1 : Int) + 2 ^ 30 + 512 := by
  intro created run
  obtain ⟨pv, returned⟩ : ∃ pv, run.result = .ok pv := ⟨_, rfl⟩
  obtain ⟨req, member⟩ : ∃ req, .createVolume req (.ok created) ∈ run.calls :=
    ⟨_, List.mem_singleton_self _⟩
  exact ⟨pv, req, returned, member, rfl, by decide,
    provisioned_capacity_within_int64 returned member rfl (by decide)⟩

/-- The one DeleteVolume call of `Delete` for a CSI volume whose credentials resolve. -/
theorem delete_of_credentials {store : ObjectStore} {driver : ControllerClient}
    {volume : PersistentVolume} {csi : CSIPersistentVolumeSource} {credentials : StringMap}
    (credentialed : deleteCredentials store volume = .ok credentials)
    (hasCSI : volume.csi = some csi) :
    (delete store driver (some volume)).calls =
      let req : DeleteVolumeRequest :=
        { volumeId := volumeHandleToId csi.volumeHandle, controllerDeleteSecrets := credentials }
      [.deleteVolume req (driver.deleteVolume 0 req)] := by
  simp [delete, hasCSI, credentialed]

/-- What `Delete` sends for a volume `Provision` returned, once the caller has named its
storage class, and that class and the creation secret still hold the same keys and values,
in whatever order: it resolves the same secret reference, and sends one DeleteVolume, to the
driver's volume, with credentials equal key by key to the creation credentials, the request of
the capacity guard. -/
theorem delete_matches_provisioned_volume {pv : PersistentVolume} {req : CreateVolumeRequest}
    {rep : CreateVolumeResponse} {volume : Volume}
    (provisioned : (provision p store driver options).result = .ok pv)
    (created : .createVolume req (.ok rep) ∈ (provision p store driver options).calls)
    (hasVolume : rep.volume = some volume)
    {store' : ObjectStore} {className : String} {storageClass : StorageClass}
    (named : className ≠ "") (classKept : store'.getStorageClass className = .ok storageClass)
    (sameParameters : ∀ key, storageClass.parameters.lookup key = options.parameters.lookup key)
    (secretKept : ∀ secretRef secret,
      getSecretReference provisionerSecretNameKey provisionerSecretNamespaceKey
          options.parameters req.name none = .ok (some secretRef) →
      store.getSecret secretRef.«namespace» secretRef.name = .ok secret →
      ∃ secret', store'.getSecret secretRef.«namespace» secretRef.name = .ok secret' ∧
        ∀ key, secret'.data.lookup key = secret.data.lookup key)
    (driver' : ControllerClient) :
    pv.name = req.name ∧
      getSecretReference provisionerSecretNameKey provisionerSecretNamespaceKey
          storageClass.parameters pv.name none =
        getSecretReference provisionerSecretNameKey provisionerSecretNamespaceKey
          options.parameters req.name none ∧
      ∃ credentials outcome,
        deleteCredentials store' { pv with storageClassName := className } = .ok credentials ∧
        (∀ key, credentials.lookup key = req.controllerCreateSecrets.lookup key) ∧
        (delete store' driver' (some { pv with storageClassName := className })).calls =
          [.deleteVolume { volumeId := volume.id, controllerDeleteSecrets := credentials }
            outcome] := by
  obtain ⟨prepared, prepared_ok, rfl, -, rfl⟩ :=
    provision_eq_ok_of_created provisioned created hasVolume
  have facts := prepareProvision_eq_ok prepared_ok
  obtain ⟨ref, resolved, fetched⟩ := facts.credentials
  have sameRef : getSecretReference provisionerSecretNameKey provisionerSecretNamespaceKey
      storageClass.parameters prepared.pvName none = .ok ref :=
    (getSecretReference_congr sameParameters).trans resolved
  obtain ⟨credentials, refetched, sameCredentials⟩ := getCredentials_congr fetched
    fun secretRef secret isRef read => secretKept secretRef secret
      (by rw [facts.request_name, resolved, isRef]) read
  have classNamed : className.length ≠ 0 := by simpa using named
  have credentialed : deleteCredentials store'
      { provisionedVolume p options prepared volume with storageClassName := className } =
        .ok credentials := by
    simp only [deleteCredentials, classKept, provisionedVolume, sameRef]
    rw [if_pos classNamed]
    exact refetched
  refine ⟨facts.request_name.symm, sameRef.trans (by rw [facts.request_name, resolved]),
    credentials, driver'.deleteVolume 0 ⟨volume.id, credentials⟩, credentialed,
    fun key => by rw [sameCredentials, prepared.request_secrets], ?_⟩
  exact delete_of_credentials credentialed rfl

/-- The storage class and the secret of `secretOptions` as `Delete` reads them back: the same
parameters and data, stored in the other order. -/
def reorderedStore : ObjectStore :=
  { secretStore with
    getStorageClass := fun _ => .ok ⟨((∅ : StringMap).insert provisionerSecretNamespaceKey
      "default").insert provisionerSecretNameKey "lvm-secret"⟩,
    getSecret := fun «namespace» name =>
      if «namespace» = "default" ∧ name = "lvm-secret" then
        .ok ⟨((∅ : StringMap).insert "password" "lvm").insert "username" "admin"⟩
      else .error ⟨"not found"⟩ }

/-- A run of `Provision` for `secretOptions` whose first CreateVolume returns `rep`: the rest
of `Provision` after that reply. -/
theorem provision_secretOptions {driver : ControllerClient} {rep : CreateVolumeResponse}
    {prepared : PreparedVolume}
    (prepared_ok : prepareProvision sampleProvisioner secretStore secretOptions = .ok prepared)
    (succeeded : driver.createVolume 0 prepared.request = .ok rep) :
    provision sampleProvisioner secretStore driver secretOptions =
      finishProvision sampleProvisioner driver secretOptions prepared
        ⟨some rep, attemptLog driver prepared.request 1⟩ := by
  rw [provision_of_decisive prepared_ok (show 0 < backoffSteps by decide)
    (fun _ below => absurd below (Nat.not_lt_zero _)) (by simp [succeeded, TimedOut]), succeeded]

theorem delete_matches_provisioned_volume_sample :
    let created : CreateVolumeResponse := { volume := some ⟨2 ^ 30, "vol-1", ∅⟩ }
    let run := provision sampleProvisioner secretStore (constantDriver (.ok created)) secretOptions
    ∃ pv req storageClass, run.result = .ok pv ∧ .createVolume req (.ok created) ∈ run.calls ∧
      created.volume = some ⟨2 ^ 30, "vol-1", ∅⟩ ∧ "lvm" ≠ "" ∧
      reorderedStore.getStorageClass "lvm" = .ok storageClass ∧
      (∀ key, storageClass.parameters.lookup key = secretOptions.parameters.lookup key) ∧
      (∀ secretRef secret,
        getSecretReference provisionerSecretNameKey provisionerSecretNamespaceKey
            secretOptions.parameters req.name none = .ok (some secretRef) →
        secretStore.getSecret secretRef.«namespace» secretRef.name = .ok secret →
        ∃ secret', reorderedStore.getSecret secretRef.«namespace» secretRef.name = .ok secret' ∧
          ∀ key, secret'.data.lookup key = secret.data.lookup key) ∧
      pv.name = req.name ∧
      getSecretReference provisionerSecretNameKey provisionerSecretNamespaceKey
          storageClass.parameters pv.name none =
        getSecretReference provisionerSecretNameKey provisionerSecretNamespaceKey
          secretOptions.parameters req.name none ∧
      ∃ credentials outcome,
        deleteCredentials reorderedStore { pv with storageClassName := "lvm" } =
          .ok credentials ∧
        (∀ key, credentials.lookup key = req.controllerCreateSecrets.lookup key) ∧
        (delete reorderedStore (constantDriver (.ok created))
            (some { pv with storageClassName := "lvm" })).calls =
          [.deleteVolume { volumeId := "vol-1", controllerDeleteSecrets := credentials }
            outcome] := by
  intro created run
  obtain ⟨prepared, prepared_ok⟩ := secretOptions_prepared
  have ran := @provision_secretOptions (constantDriver (.ok created)) created _ prepared_ok rfl
  have sized : ¬ (2 ^ 30 : Int) < prepared.volSizeBytes := by
    rw [(prepareProvision_eq_ok prepared_ok).sized]
    decide
  rw [finishProvision_of_sized (rfl : created.volume = some ⟨2 ^ 30, "vol-1", ∅⟩) sized] at ran
  have returned : run.result = .ok (provisionedVolume sampleProvisioner secretOptions prepared
      ⟨2 ^ 30, "vol-1", ∅⟩) := by
    simp only [run, ran]
  have member : .createVolume prepared.request (.ok created) ∈ run.calls := by
    simp only [run, ran]
    exact mem_attemptLog.mpr ⟨0, Nat.one_pos, rfl⟩
  have sameParameters : ∀ key, (((∅ : StringMap).insert provisionerSecretNamespaceKey
      "default").insert provisionerSecretNameKey "lvm-secret").lookup key =
        secretOptions.parameters.lookup key :=
    fun _ => AList.perm_lookup (AList.insert_insert_of_ne _ (by decide))
  have secretKept : ∀ secretRef secret,
      getSecretReference provisionerSecretNameKey provisionerSecretNamespaceKey
          secretOptions.parameters prepared.request.name none = .ok (some secretRef) →
      secretStore.getSecret secretRef.«namespace» secretRef.name = .ok secret →
      ∃ secret', reorderedStore.getSecret secretRef.«namespace» secretRef.name = .ok secret' ∧
        ∀ key, secret'.data.lookup key = secret.data.lookup key := by
    intro secretRef secret _ read
    by_cases held : secretRef.«namespace» = "default" ∧ secretRef.name = "lvm-secret"
    · simp only [secretStore, held, and_self, if_true, Except.ok.injEq] at read
      subst read
      exact ⟨⟨((∅ : StringMap).insert "password" "lvm").insert "username" "admin"⟩,
        by simp only [reorderedStore, held, and_self, if_true],
        fun _ => AList.perm_lookup (AList.insert_insert_of_ne _ (by decide))⟩
    · simp [secretStore, held] at read
  exact ⟨_, _, _, returned, member, rfl, by decide, rfl, sameParameters, secretKept,
    delete_matches_provisioned_volume returned member rfl (by decide) rfl sameParameters
      secretKept (constantDriver (.ok created))⟩

end Run

end CsiLvm
