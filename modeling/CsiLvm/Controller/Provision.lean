/-
Module: CsiLvm.Controller.Provision
Purpose: `csiProvisioner.Provision` and `csiProvisioner.Delete`. `Provision` is cut at its
  one loop: `prepareProvision` (claim checks, name, capabilities, content source, secret
  references and credentials, with no driver call), the CreateVolume closure under
  `wait.ExponentialBackoff`, and `finishProvision` (the attribute merge, the capacity guard
  with its compensating DeleteVolume, the filesystem type, and the PV). A run returns the
  result together with the log of the driver calls it made.
Trusted boundary: `DriverName`, a package-level constant declared in a file of the package
  that is not in the repository's source, is the field `driverName` of the provisioner.
Main exports: CsiProvisioner, validateClaim, getVolumeContentSource, prepareProvision,
  createVolumeCondition, createVolumeWithBackoff, finishProvision, provision, delete,
  bytesToGiQuantity
-/
import CsiLvm.Controller.VolumeName
import CsiLvm.Controller.Secrets

namespace CsiLvm

/-!
[SPEC src/unnamed/part_001:140-442] The sleeps of the backoff (`backoffDuration`, `backoffFactor`)
and the per-call timeouts only bound wall-clock time; the model keeps the number and order of
the calls and what each returned.
-/

/-- `backoffSteps`. -/
def backoffSteps : Nat := 10

/-- `opts`, the backoff `Provision` gives `wait.ExponentialBackoff`. -/
def createVolumeBackoff : Wait.Backoff := ⟨backoffSteps⟩

/-- `defaultFSType`. -/
def defaultFSType : String := "ext4"

/-- `provisionerIDKey`. -/
def provisionerIDKey : String := "storage.kubernetes.io/csiProvisionerIdentity"

/-- The `csiProvisioner` struct, with the fields `Provision` and `Delete` read, and the
package's `DriverName`. -/
structure CsiProvisioner where
  identity : String
  volumeNamePrefix : String
  volumeNameUUIDLength : Int
  driverName : String

/-- `volumeIdToHandle`: the identity, pending a unique handle encoding. -/
def volumeIdToHandle (id : String) : String := id

/-- `volumeHandleToId`. -/
def volumeHandleToId (handle : String) : String := handle

/-- The access-mode loop: one capability for each mode the driver vocabulary has, in
order; any other mode is dropped. -/
def volumeCapabilities : List AccessMode → List VolumeCapability
  | [] => []
  | .readWriteOnce :: modes => .singleNodeWriter :: volumeCapabilities modes
  | .readWriteMany :: modes => .multiNodeMultiWriter :: volumeCapabilities modes
  | .readOnlyMany :: modes => .multiNodeReaderOnly :: volumeCapabilities modes
  | .other _ :: modes => volumeCapabilities modes

/-- Each access mode the loop knows becomes the capability of its CSI mode, in order. -/
theorem volumeCapabilities_eq_filterMap (modes : List AccessMode) :
    volumeCapabilities modes = modes.filterMap fun
      | .readWriteOnce => some .singleNodeWriter
      | .readWriteMany => some .multiNodeMultiWriter
      | .readOnlyMany => some .multiNodeReaderOnly
      | .other _ => none := by
  induction modes with
  | nil => rfl
  | cons mode modes inductionHypothesis =>
    cases mode <;> simp [volumeCapabilities, inductionHypothesis]

/-- The claim checks at the top of `Provision`: no selector, and a data source, if any, of
the one supported kind and group. The result is `needSnapshotSupport`, kept together with the
data source it was set for. Dereferencing a nil `APIGroup` panics. -/
def validateClaim (pvc : PersistentVolumeClaim) :
    GoResult ControllerError (Option TypedLocalObjectReference) :=
  if pvc.selector.isSome then throw .selectorNotSupported
  else match pvc.dataSource with
    | none => pure none
    | some dataSource =>
        if dataSource.name = "" then throw (.dataSourceNotFound pvc.name)
        else if dataSource.kind ≠ snapshotKind then throw (.dataSourceWrongKind dataSource.kind)
        else match dataSource.apiGroup with
          | none => .panic (.nilPointerDereference "options.PVC.Spec.DataSource.APIGroup")
          | some apiGroup =>
              if apiGroup ≠ snapshotAPIGroup then throw (.dataSourceWrongAPIGroup apiGroup)
              else pure (some dataSource)

/-- The size check of `getVolumeContentSource`, for a snapshot with a restore size: the claim
must ask for storage, and for at least that much. -/
def checkRestoreSize (options : VolumeOptions) (snapshotObj : VolumeSnapshot) :
    Except ControllerError Unit :=
  match snapshotObj.restoreSize with
  | none => pure ()
  | some restoreSize =>
      match options.pvc.storageRequest with
      | none => throw (.snapshotCapacityMissing options.pvc.name snapshotObj.name)
      | some capacity =>
          if capacity.value < restoreSize.value then
            throw (.volumeSmallerThanSnapshot capacity.value restoreSize.value snapshotObj.name)
          else pure ()

/-- `getVolumeContentSource(options)`, for the claim's data source `dataSource`: the
snapshot read from the claim's namespace must be ready and not being deleted, its content
must point back at it and carry a CSI handle, and the claim must ask for at least the
snapshot's restore size. -/
def getVolumeContentSource (store : ObjectStore) (options : VolumeOptions)
    (dataSource : TypedLocalObjectReference) : Except ControllerError VolumeContentSource :=
  match store.getVolumeSnapshot options.pvc.«namespace» dataSource.name with
  | .error err => throw (.getSnapshot dataSource.name err)
  | .ok snapshotObj =>
    if snapshotObj.ready = false then throw (.snapshotNotReady dataSource.name)
    else if snapshotObj.deletionTimestamp.isSome then
      throw (.snapshotBeingDeleted dataSource.name)
    else match store.getVolumeSnapshotContent snapshotObj.snapshotContentName with
      | .error _ => throw .snapshotNotBoundOrInvalid
      | .ok snapContentObj =>
        match snapContentObj.volumeSnapshotRef with
        | none => throw .snapshotNotBoundOrInvalid
        | some ref =>
          if ref.uid ≠ snapshotObj.uid ∨ ref.«namespace» ≠ snapshotObj.«namespace» ∨
              ref.name ≠ snapshotObj.name then
            throw .snapshotNotBoundOrInvalid
          else match snapContentObj.csiSnapshotHandle with
            | none => throw .snapshotNotBoundOrInvalid
            | some snapshotHandle => do
                checkRestoreSize options snapshotObj
                pure (.snapshot snapshotHandle)

/-- `req`, the CreateVolume request before its content source and secrets are set. -/
def createVolumeRequest (pvName : String) (options : VolumeOptions) : CreateVolumeRequest :=
  { name := pvName, parameters := options.parameters,
    volumeCapabilities := volumeCapabilities options.pvc.accessModes,
    requiredBytes := options.pvc.requestedBytes, volumeContentSource := none,
    controllerCreateSecrets := ∅ }

/-- The `needSnapshotSupport` block: set the request's content source to the snapshot's
handle, or fail with the snapshot's error wrapped. -/
def attachContentSource (store : ObjectStore) (options : VolumeOptions)
    (req : CreateVolumeRequest) : Option TypedLocalObjectReference →
    GoResult ControllerError CreateVolumeRequest
  | none => pure req
  | some dataSource =>
      match getVolumeContentSource store options dataSource with
      | .error err => throw (.snapshotHandle dataSource.name err)
      | .ok volumeContentSource => pure { req with volumeContentSource := some volumeContentSource }

/-- What `Provision` holds when it reaches the CreateVolume loop. The request carries the
creation credentials. -/
structure PreparedVolume where
  pvName : String
  volSizeBytes : Int
  provisionerCredentials : StringMap
  request : CreateVolumeRequest
  request_secrets : request.controllerCreateSecrets = provisionerCredentials
  controllerPublishSecretRef : Option SecretReference
  nodeStageSecretRef : Option SecretReference
  nodePublishSecretRef : Option SecretReference

/-- `Provision` up to the CreateVolume loop. No driver is called here. -/
def prepareProvision (p : CsiProvisioner) (store : ObjectStore) (options : VolumeOptions) :
    GoResult ControllerError PreparedVolume := do
  let snapshotSource ← validateClaim options.pvc
  let pvName ← makeVolumeName p.volumeNamePrefix options.pvc.uid p.volumeNameUUIDLength
  let req ← attachContentSource store options (createVolumeRequest pvName options) snapshotSource
  let provisionerSecretRef ← GoResult.ofExcept (getSecretReference provisionerSecretNameKey
    provisionerSecretNamespaceKey options.parameters pvName none)
  let provisionerCredentials ← GoResult.ofExcept (getCredentials store provisionerSecretRef)
  let controllerPublishSecretRef ← GoResult.ofExcept (getSecretReference
    controllerPublishSecretNameKey controllerPublishSecretNamespaceKey options.parameters pvName
    (some options.pvc))
  let nodeStageSecretRef ← GoResult.ofExcept (getSecretReference nodeStageSecretNameKey
    nodeStageSecretNamespaceKey options.parameters pvName (some options.pvc))
  let nodePublishSecretRef ← GoResult.ofExcept (getSecretReference nodePublishSecretNameKey
    nodePublishSecretNamespaceKey options.parameters pvName (some options.pvc))
  pure { pvName, volSizeBytes := options.pvc.requestedBytes, provisionerCredentials,
         request := { req with controllerCreateSecrets := provisionerCredentials },
         request_secrets := rfl, controllerPublishSecretRef, nodeStageSecretRef,
         nodePublishSecretRef }

/-- What the CreateVolume closure captures: the `rep` it assigns, and the driver calls made
so far. -/
structure CreateVolumeState where
  rep : Option CreateVolumeResponse
  calls : List DriverCall

/-- What the closure returns for one outcome: done on success, retry on a
`DeadlineExceeded` status, and the error itself otherwise. -/
def createVolumeVerdict : Except RpcError CreateVolumeResponse → Bool × Option RpcError
  | .ok _ => (true, none)
  | .error err =>
      if err.statusCode = some .deadlineExceeded then (false, none) else (false, some err)

/-- The closure `Provision` passes to `wait.ExponentialBackoff`: one CreateVolume call with
the request `req`, whose reply it stores in `rep` (nil when the call fails). -/
def createVolumeCondition (driver : ControllerClient) (req : CreateVolumeRequest)
    (state : CreateVolumeState) : (Bool × Option RpcError) × CreateVolumeState :=
  let outcome := driver.createVolume state.calls.length req
  (createVolumeVerdict outcome,
    { rep := outcome.toOption, calls := state.calls ++ [.createVolume req outcome] })

/-- `err = wait.ExponentialBackoff(opts, ...)` around the CreateVolume closure, from
`rep := &csi.CreateVolumeResponse{}` and no calls. -/
def createVolumeWithBackoff (opts : Wait.Backoff) (driver : ControllerClient)
    (req : CreateVolumeRequest) : Wait.WaitResult RpcError × CreateVolumeState :=
  Wait.exponentialBackoff opts (createVolumeCondition driver req)
    { rep := some { volume := none }, calls := [] }

/-- The attribute loop: `{provisionerIDKey: identity}`, then every attribute of the driver's
volume written over it, in the order the loop visits them. -/
def mergeVolumeAttributes (identity : String) (attributes : StringMap) : StringMap :=
  attributes.entries.foldl (fun merged entry => merged.insert entry.1 entry.2)
    ((∅ : StringMap).insert provisionerIDKey identity)

/-- The `fsType` loop: the value of the last parameter, in loop order, whose key is
`fstype` in lower case, or `ext4` when that leaves it empty. Lean's `String.toLower` stands
for `strings.ToLower`; they agree on whether a key lowers to `fstype`. -/
def chooseFSType (parameters : StringMap) : String :=
  let fsType := parameters.entries.foldl
    (fun fsType parameter => if parameter.1.toLower = "fstype" then parameter.2 else fsType) ""
  if fsType.length = 0 then defaultFSType else fsType

/-- `bytesToGiQuantity(bytes)`: the size rounded up to whole mebibytes below one gibibyte
and to whole gibibytes from there, computed on `float64(bytes)`. -/
def bytesToGiQuantity (bytes : Int) : Quantity :=
  let floatBytes := float64OfInt bytes
  if floatBytes < 2 ^ 30 then mustParseBinary (ceilDivPow2 floatBytes 20) .mi
  else mustParseBinary (ceilDivPow2 floatBytes 30) .gi

/-- `delReq`, the compensating DeleteVolume request for an under-sized volume. -/
def compensatingDeleteRequest (volume : Volume) (provisionerCredentials : StringMap) :
    DeleteVolumeRequest :=
  { volumeId := volume.id, controllerDeleteSecrets := provisionerCredentials }

/-- The outcome of `Provision`, and the driver calls it made. -/
structure ProvisionRun where
  result : GoResult ControllerError PersistentVolume
  calls : List DriverCall

/-- `capErr`: the capacity violation, extended with the orphaned volume's name when the
compensating DeleteVolume failed. -/
def capacityError (respCap volSizeBytes : Int) (pvName : String) :
    Except RpcError Unit → ControllerError
  | .ok () => .capacityViolation respCap volSizeBytes
  | .error err => .capacityCleanupFailed respCap volSizeBytes pvName err

/-- `pv`, the volume `Provision` returns for the driver's volume `volume`. -/
def provisionedVolume (p : CsiProvisioner) (options : VolumeOptions) (prepared : PreparedVolume)
    (volume : Volume) : PersistentVolume :=
  { name := prepared.pvName,
    persistentVolumeReclaimPolicy := options.persistentVolumeReclaimPolicy,
    accessModes := options.pvc.accessModes,
    capacity := bytesToGiQuantity volume.capacityBytes,
    csi := some { driver := p.driverName,
                  volumeHandle := volumeIdToHandle volume.id,
                  fsType := chooseFSType options.parameters,
                  volumeAttributes := mergeVolumeAttributes p.identity volume.attributes,
                  controllerPublishSecretRef := prepared.controllerPublishSecretRef,
                  nodeStageSecretRef := prepared.nodeStageSecretRef,
                  nodePublishSecretRef := prepared.nodePublishSecretRef },
    storageClassName := "" }

/-- `Provision` after the CreateVolume loop reported done, with the state the closure left:
the capacity guard, with its compensating DeleteVolume, and the PV. -/
def finishProvision (p : CsiProvisioner) (driver : ControllerClient) (options : VolumeOptions)
    (prepared : PreparedVolume) (state : CreateVolumeState) : ProvisionRun :=
  match state.rep with
  | none => ⟨.panic (.nilPointerDereference "rep"), state.calls⟩
  | some rep =>
    match rep.volume with
    | none => ⟨.panic (.nilPointerDereference "rep.Volume"), state.calls⟩
    | some volume =>
      let respCap := volume.capacityBytes
      if respCap < prepared.volSizeBytes then
        let delReq := compensatingDeleteRequest volume prepared.provisionerCredentials
        let outcome := driver.deleteVolume state.calls.length delReq
        ⟨.error (capacityError respCap prepared.volSizeBytes prepared.pvName outcome),
          state.calls ++ [.deleteVolume delReq outcome]⟩
      else ⟨.ok (provisionedVolume p options prepared volume), state.calls⟩

/-- `csiProvisioner.Provision(options)` against the object store `store` and the driver
`driver`. -/
def provision (p : CsiProvisioner) (store : ObjectStore) (driver : ControllerClient)
    (options : VolumeOptions) : ProvisionRun :=
  match prepareProvision p store options with
  | .error err => ⟨.error err, []⟩
  | .panic reason => ⟨.panic reason, []⟩
  | .ok prepared =>
      let waited := createVolumeWithBackoff createVolumeBackoff driver prepared.request
      match waited.1 with
      | .failed err => ⟨.error (.rpc err), waited.2.calls⟩
      | .timedOut => ⟨.error .waitTimeout, waited.2.calls⟩
      | .done => finishProvision p driver options prepared waited.2

/-! ### A claim and drivers to run `Provision` on -/

/-- A provisioner with the default name length. -/
def sampleProvisioner : CsiProvisioner :=
  { identity := "csi-lvm", volumeNamePrefix := "pvc", volumeNameUUIDLength := -1,
    driverName := "csi-lvm" }

/-- An object store in which every read fails. -/
def emptyStore : ObjectStore :=
  { getVolumeSnapshot := fun _ _ => .error ⟨"not found"⟩,
    getVolumeSnapshotContent := fun _ => .error ⟨"not found"⟩,
    getSecret := fun _ _ => .error ⟨"not found"⟩,
    getStorageClass := fun _ => .error ⟨"not found"⟩ }

/-- A claim for `bytes` bytes in `default`, with no parameters and the data source
`dataSource`. -/
def sampleOptions (bytes : Int) (dataSource : Option TypedLocalObjectReference) :
    VolumeOptions :=
  { persistentVolumeReclaimPolicy := "Delete", parameters := ∅,
    pvc := { name := "claim", «namespace» := "default", uid := "1234", annotations := ∅,
             selector := none, dataSource, storageRequest := some ⟨bytes⟩, accessModes := [] } }

/-- A driver that answers every CreateVolume with `outcome` and every DeleteVolume with
success. -/
def constantDriver (outcome : Except RpcError CreateVolumeResponse) : ControllerClient :=
  { createVolume := fun _ _ => outcome, deleteVolume := fun _ _ => .ok () }

/-- `Provision` dereferences two nil pointers: the `APIGroup` of a snapshot data source, and
the `Volume` of a successful CreateVolume reply. -/
theorem provision_panics_on_nil_pointers :
    (provision sampleProvisioner emptyStore (constantDriver (.ok { volume := none }))
        (sampleOptions (2 ^ 30)
          (some { apiGroup := none, kind := "VolumeSnapshot", name := "snapshot" }))).result =
      .panic (.nilPointerDereference "options.PVC.Spec.DataSource.APIGroup") ∧
    (provision sampleProvisioner emptyStore (constantDriver (.ok { volume := none }))
        (sampleOptions (2 ^ 30) none)).result =
      .panic (.nilPointerDereference "rep.Volume") :=
  ⟨rfl, rfl⟩

/-- The secrets `Delete` sends: the creation credentials resolved again from the volume's
storage class, when it names one that can be read, and none otherwise. -/
def deleteCredentials (store : ObjectStore) (volume : PersistentVolume) :
    Except ControllerError StringMap :=
  if volume.storageClassName.length ≠ 0 then
    match store.getStorageClass volume.storageClassName with
    | .error _ => pure ∅
    | .ok storageClass => do
        let provisionerSecretRef ← getSecretReference provisionerSecretNameKey
          provisionerSecretNamespaceKey storageClass.parameters volume.name none
        getCredentials store provisionerSecretRef
  else pure ∅

/-- The outcome of `Delete`, and the driver calls it made. -/
structure DeleteRun where
  result : Except ControllerError Unit
  calls : List DriverCall

/-- `csiProvisioner.Delete(volume)`; `none` is the nil pointer. -/
def delete (store : ObjectStore) (driver : ControllerClient) :
    Option PersistentVolume → DeleteRun
  | none => ⟨.error .invalidCSIPV, []⟩
  | some volume =>
      match volume.csi with
      | none => ⟨.error .invalidCSIPV, []⟩
      | some csi =>
          match deleteCredentials store volume with
          | .error err => ⟨.error err, []⟩
          | .ok credentials =>
              let req : DeleteVolumeRequest :=
                { volumeId := volumeHandleToId csi.volumeHandle,
                  controllerDeleteSecrets := credentials }
              let outcome := driver.deleteVolume 0 req
              ⟨match outcome with
                | .ok () => .ok ()
                | .error err => .error (.rpc err),
               [.deleteVolume req outcome]⟩

end CsiLvm
