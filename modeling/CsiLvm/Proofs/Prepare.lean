/-
Module: CsiLvm.Proofs.Prepare
Purpose: What `Provision` has established when it reaches the CreateVolume loop. One spec
  lemma per step of `prepareProvision` (the claim checks, the snapshot's content source, its
  attachment to the request), assembled into `ProvisionPrepared`: the name, the size, the
  request's fields, the creation credentials, and, for a claim with a data source, the
  checked snapshot whose handle the request carries.
Trusted boundary: none
Main exports: SnapshotChecked, getVolumeContentSource_eq_ok, ProvisionPrepared,
  prepareProvision_eq_ok, secretKeyPairs, prepareProvision_secretReferences
-/
import CsiLvm.Controller.Provision

namespace CsiLvm

/-!
[SPEC src/unnamed/part_001:140-242, 333-398] Every step before the loop either returns an
error, panics, or hands the next step a value; the lemmas below read each step's value back
into the facts the later steps and the claims about whole runs need.
-/

/-- A claim that passes the checks has no selector, and a data source, if any, of the
snapshot kind and group. -/
theorem validateClaim_eq_ok {pvc : PersistentVolumeClaim}
    {snapshotSource : Option TypedLocalObjectReference}
    (validated : validateClaim pvc = .ok snapshotSource) :
    pvc.selector = none ∧ snapshotSource = pvc.dataSource ∧
      ∀ dataSource, pvc.dataSource = some dataSource →
        dataSource.kind = snapshotKind ∧ dataSource.apiGroup = some snapshotAPIGroup := by
  unfold validateClaim at validated
  split at validated
  · cases validated
  rename_i noSelector
  refine ⟨by simpa using noSelector, ?_⟩
  cases present : pvc.dataSource with
  | none =>
      simp only [present, GoResult.pure_eq, GoResult.ok.injEq] at validated
      subst validated
      simp
  | some dataSource =>
      simp only [present] at validated
      split_ifs at validated with named kind
      split at validated
      · cases validated
      rename_i apiGroup group
      split_ifs at validated with wrongGroup
      simp only [GoResult.pure_eq, GoResult.ok.injEq] at validated
      subst validated
      simp_all

/-- The checks `getVolumeContentSource` makes of the snapshot `snapshotObj` and of its content
`snapContentObj` before it hands out the content's handle. -/
structure SnapshotChecked (options : VolumeOptions) (snapshotObj : VolumeSnapshot)
    (snapContentObj : VolumeSnapshotContent) : Prop where
  ready : snapshotObj.ready = true
  not_deleting : snapshotObj.deletionTimestamp = none
  bound : snapContentObj.volumeSnapshotRef =
    some ⟨snapshotObj.uid, snapshotObj.«namespace», snapshotObj.name⟩
  restore_fits : ∀ restoreSize, snapshotObj.restoreSize = some restoreSize →
    ∃ capacity, options.pvc.storageRequest = some capacity ∧
      restoreSize.value ≤ capacity.value

theorem checkRestoreSize_eq_ok {options : VolumeOptions} {snapshotObj : VolumeSnapshot}
    (checked : checkRestoreSize options snapshotObj = .ok ()) :
    ∀ restoreSize, snapshotObj.restoreSize = some restoreSize →
      ∃ capacity, options.pvc.storageRequest = some capacity ∧
        restoreSize.value ≤ capacity.value := by
  intro restoreSize sized
  unfold checkRestoreSize at checked
  rw [sized] at checked
  dsimp only at checked
  cases requested : options.pvc.storageRequest with
  | none => rw [requested] at checked; cases checked
  | some capacity =>
      simp only [requested] at checked
      split_ifs at checked with smaller
      exact ⟨capacity, rfl, not_lt.mp smaller⟩

/-- A content source comes from a snapshot of the claim's namespace that passed every check,
and is that snapshot's content's handle. -/
theorem getVolumeContentSource_eq_ok {store : ObjectStore} {options : VolumeOptions}
    {dataSource : TypedLocalObjectReference} {source : VolumeContentSource}
    (fetched : getVolumeContentSource store options dataSource = .ok source) :
    ∃ snapshotObj snapContentObj snapshotHandle,
      store.getVolumeSnapshot options.pvc.«namespace» dataSource.name = .ok snapshotObj ∧
      store.getVolumeSnapshotContent snapshotObj.snapshotContentName = .ok snapContentObj ∧
      SnapshotChecked options snapshotObj snapContentObj ∧
      snapContentObj.csiSnapshotHandle = some snapshotHandle ∧
      source = .snapshot snapshotHandle := by
  unfold getVolumeContentSource at fetched
  split at fetched
  · cases fetched
  rename_i snapshotObj read
  split_ifs at fetched with notReady deleting
  split at fetched
  · cases fetched
  rename_i snapContentObj contentRead
  split at fetched
  · cases fetched
  rename_i ref referenced
  split_ifs at fetched with mismatched
  split at fetched
  · cases fetched
  rename_i snapshotHandle handled
  cases restore : checkRestoreSize options snapshotObj with
  | error err => simp [restore] at fetched
  | ok _ =>
      simp only [restore] at fetched
      cases fetched
      simp only [not_or, not_not] at mismatched
      refine ⟨snapshotObj, snapContentObj, snapshotHandle, read, contentRead,
        ⟨by simpa using notReady, by simpa using deleting, ?_, checkRestoreSize_eq_ok restore⟩,
        handled, rfl⟩
      rw [referenced, ← mismatched.1, ← mismatched.2.1, ← mismatched.2.2]

@[simp] theorem attachContentSource_none {store : ObjectStore} {options : VolumeOptions}
    (req : CreateVolumeRequest) : attachContentSource store options req none = .ok req := rfl

theorem attachContentSource_some_eq_ok {store : ObjectStore} {options : VolumeOptions}
    {req req' : CreateVolumeRequest} {dataSource : TypedLocalObjectReference}
    (attached : attachContentSource store options req (some dataSource) = .ok req') :
    ∃ source, getVolumeContentSource store options dataSource = .ok source ∧
      req' = { req with volumeContentSource := some source } := by
  cases fetched : getVolumeContentSource store options dataSource with
  | error err => simp [attachContentSource, fetched] at attached
  | ok source =>
      simp only [attachContentSource, fetched, GoResult.pure_eq, GoResult.ok.injEq] at attached
      exact ⟨source, rfl, attached.symm⟩

/-- What `prepareProvision` has established when it hands `prepared` to the CreateVolume
loop. -/
structure ProvisionPrepared (p : CsiProvisioner) (store : ObjectStore) (options : VolumeOptions)
    (prepared : PreparedVolume) : Prop where
  no_selector : options.pvc.selector = none
  named : makeVolumeName p.volumeNamePrefix options.pvc.uid p.volumeNameUUIDLength =
    .ok prepared.pvName
  sized : prepared.volSizeBytes = options.pvc.requestedBytes
  request : prepared.request = { createVolumeRequest prepared.pvName options with
    volumeContentSource := prepared.request.volumeContentSource,
    controllerCreateSecrets := prepared.provisionerCredentials }
  credentials : ∃ provisionerSecretRef,
    getSecretReference provisionerSecretNameKey provisionerSecretNamespaceKey options.parameters
        prepared.pvName none = .ok provisionerSecretRef ∧
      getCredentials store provisionerSecretRef = .ok prepared.provisionerCredentials
  no_source : options.pvc.dataSource = none → prepared.request.volumeContentSource = none
  snapshot_source : ∀ dataSource, options.pvc.dataSource = some dataSource →
    dataSource.kind = snapshotKind ∧ dataSource.apiGroup = some snapshotAPIGroup ∧
      ∃ source, getVolumeContentSource store options dataSource = .ok source ∧
        prepared.request.volumeContentSource = some source

theorem ProvisionPrepared.request_name {p : CsiProvisioner} {store : ObjectStore}
    {options : VolumeOptions} {prepared : PreparedVolume}
    (facts : ProvisionPrepared p store options prepared) :
    prepared.request.name = prepared.pvName := by
  rw [facts.request]
  rfl

/-- The spec of `prepareProvision`. -/
theorem prepareProvision_eq_ok {p : CsiProvisioner} {store : ObjectStore}
    {options : VolumeOptions} {prepared : PreparedVolume}
    (prepared_ok : prepareProvision p store options = .ok prepared) :
    ProvisionPrepared p store options prepared := by
  simp only [prepareProvision, GoResult.bind_eq_ok, GoResult.ofExcept_eq_ok, GoResult.pure_eq,
    GoResult.ok.injEq] at prepared_ok
  obtain ⟨snapshotSource, validated, pvName, named, req, attached, provisionerSecretRef, resolved,
    provisionerCredentials, fetched, -, -, -, -, -, -, rfl⟩ := prepared_ok
  obtain ⟨noSelector, rfl, sourceChecked⟩ := validateClaim_eq_ok validated
  cases present : options.pvc.dataSource with
  | none =>
      rw [present, attachContentSource_none, GoResult.ok.injEq] at attached
      subst attached
      exact ⟨noSelector, named, rfl, rfl, ⟨_, resolved, fetched⟩, fun _ => rfl,
        by simp [present]⟩
  | some dataSource =>
      rw [present] at attached
      obtain ⟨source, sourced, rfl⟩ := attachContentSource_some_eq_ok attached
      obtain ⟨kind, group⟩ := sourceChecked dataSource present
      refine ⟨noSelector, named, rfl, rfl, ⟨_, resolved, fetched⟩, by simp [present], ?_⟩
      intro other same
      rw [present, Option.some.injEq] at same
      subst same
      exact ⟨kind, group, source, sourced, rfl⟩

/-- The pairs of storage-class keys `Provision` resolves a secret reference from: the
creation, controller-publish, node-stage and node-publish secrets. -/
def secretKeyPairs : List (String × String) :=
  [(provisionerSecretNameKey, provisionerSecretNamespaceKey),
    (controllerPublishSecretNameKey, controllerPublishSecretNamespaceKey),
    (nodeStageSecretNameKey, nodeStageSecretNamespaceKey),
    (nodePublishSecretNameKey, nodePublishSecretNamespaceKey)]

/-- A preparation that succeeded resolved a secret reference from every pair of keys. -/
theorem prepareProvision_secretReferences {p : CsiProvisioner} {store : ObjectStore}
    {options : VolumeOptions} {prepared : PreparedVolume}
    (prepared_ok : prepareProvision p store options = .ok prepared) :
    ∀ nameKey namespaceKey, (nameKey, namespaceKey) ∈ secretKeyPairs →
      ∃ pvc ref, getSecretReference nameKey namespaceKey options.parameters prepared.pvName pvc =
        .ok ref := by
  simp only [prepareProvision, GoResult.bind_eq_ok, GoResult.ofExcept_eq_ok, GoResult.pure_eq,
    GoResult.ok.injEq] at prepared_ok
  obtain ⟨-, -, pvName, -, -, -, _, provisionerResolved, -, -, _, controllerPublishResolved, _,
    nodeStageResolved, _, nodePublishResolved, rfl⟩ := prepared_ok
  intro nameKey namespaceKey pair
  simp only [secretKeyPairs, List.mem_cons, Prod.mk.injEq, List.not_mem_nil, or_false] at pair
  rcases pair with ⟨rfl, rfl⟩ | ⟨rfl, rfl⟩ | ⟨rfl, rfl⟩ | ⟨rfl, rfl⟩
  · exact ⟨_, _, provisionerResolved⟩
  · exact ⟨_, _, controllerPublishResolved⟩
  · exact ⟨_, _, nodeStageResolved⟩
  · exact ⟨_, _, nodePublishResolved⟩

end CsiLvm
