/-
Module: CsiLvm.Api
Purpose: The data the provisioner reads and writes: the Kubernetes objects (claims, volumes,
  storage classes, secrets, snapshots), the CSI v0 messages, the object store and the CSI
  driver as the provisioner sees them, the log of driver calls a run makes, and the errors
  the controller package returns, with their texts.
Trusted boundary: only the fields the provisioner reads or sets are kept; each docstring
  names the Go field it stands for.
Main exports: PersistentVolumeClaim, VolumeOptions, PersistentVolume, VolumeSnapshot,
  VolumeSnapshotContent, CreateVolumeRequest, CreateVolumeResponse, DeleteVolumeRequest,
  ObjectStore, ControllerClient, DriverCall, ControllerError
-/
import CsiLvm.Lib.Apimachinery

namespace CsiLvm

/-! ### Kubernetes objects -/

/-- `snapshotKind`, the one data source kind the provisioner restores from. -/
def snapshotKind : String := "VolumeSnapshot"

/-- `snapshotAPIGroup`, `snapapi.GroupName`. -/
def snapshotAPIGroup : String := "snapshot.storage.k8s.io"

/-- `v1.PersistentVolumeAccessMode`; a mode the provisioner does not know is kept by name. -/
inductive AccessMode where
  | readWriteOnce
  | readOnlyMany
  | readWriteMany
  | other (name : String)
deriving Repr, DecidableEq

/-- `metav1.LabelSelector`. The provisioner only asks whether a claim has one. -/
structure LabelSelector where
deriving Repr, DecidableEq

/-- `metav1.Time`. The provisioner only asks whether a deletion timestamp is set. -/
structure Time where
deriving Repr, DecidableEq

/-- `v1.TypedLocalObjectReference`, the claim's `Spec.DataSource`. -/
structure TypedLocalObjectReference where
  /-- `APIGroup`, a `*string`: `none` is the nil pointer. -/
  apiGroup : Option String
  kind : String
  name : String
deriving Repr, DecidableEq

/-- `v1.PersistentVolumeClaim`, with the fields the provisioner reads. -/
structure PersistentVolumeClaim where
  name : String
  «namespace» : String
  uid : String
  annotations : StringMap
  /-- `Spec.Selector`. -/
  selector : Option LabelSelector
  /-- `Spec.DataSource`. -/
  dataSource : Option TypedLocalObjectReference
  /-- `Spec.Resources.Requests[v1.ResourceStorage]`; `none` when the key is absent. -/
  storageRequest : Option Quantity
  /-- `Spec.AccessModes`. -/
  accessModes : List AccessMode

/-- The claim's requested bytes, `capacity.Value()` of the storage request; a missing request
reads as the zero quantity. -/
def PersistentVolumeClaim.requestedBytes (pvc : PersistentVolumeClaim) : Int :=
  (pvc.storageRequest.map Quantity.value).getD 0

/-- `controller.VolumeOptions`, with the fields `Provision` reads. -/
structure VolumeOptions where
  persistentVolumeReclaimPolicy : String
  pvc : PersistentVolumeClaim
  /-- The storage class parameters. -/
  parameters : StringMap

/-- `v1.SecretReference`. -/
structure SecretReference where
  name : String
  «namespace» : String
deriving Repr, DecidableEq

/-- `v1.CSIPersistentVolumeSource`. -/
structure CSIPersistentVolumeSource where
  driver : String
  volumeHandle : String
  fsType : String
  volumeAttributes : StringMap
  controllerPublishSecretRef : Option SecretReference
  nodeStageSecretRef : Option SecretReference
  nodePublishSecretRef : Option SecretReference

/-- `v1.PersistentVolume`, with the fields `Provision` sets and `Delete` reads. -/
structure PersistentVolume where
  name : String
  persistentVolumeReclaimPolicy : String
  accessModes : List AccessMode
  /-- `Spec.Capacity[v1.ResourceStorage]`. -/
  capacity : Quantity
  /-- `Spec.PersistentVolumeSource.CSI`. -/
  csi : Option CSIPersistentVolumeSource
  /-- `Spec.StorageClassName`; `Provision` leaves it empty and its caller fills it in. -/
  storageClassName : String

/-- `v1.StorageClass`. -/
structure StorageClass where
  parameters : StringMap

/-- `v1.Secret`; the bytes of `Data` are kept as the strings `string(value)` makes of them. -/
structure Secret where
  data : StringMap

/-- `snapapi.VolumeSnapshot` (v1alpha1). -/
structure VolumeSnapshot where
  name : String
  «namespace» : String
  uid : String
  deletionTimestamp : Option Time
  /-- `Spec.SnapshotContentName`. -/
  snapshotContentName : String
  /-- `Status.Ready`. -/
  ready : Bool
  /-- `Status.RestoreSize`. -/
  restoreSize : Option Quantity

/-- `v1.ObjectReference`, the content's `Spec.VolumeSnapshotRef`. -/
structure ObjectReference where
  uid : String
  «namespace» : String
  name : String
deriving Repr, DecidableEq

/-- `snapapi.VolumeSnapshotContent` (v1alpha1). -/
structure VolumeSnapshotContent where
  /-- `Spec.VolumeSnapshotRef`. -/
  volumeSnapshotRef : Option ObjectReference
  /-- `Spec.VolumeSnapshotSource.CSI.SnapshotHandle`, when the CSI source is set. -/
  csiSnapshotHandle : Option String

/-! ### CSI messages -/

/-- `csi.VolumeCapability_AccessMode_Mode`, for the modes the provisioner asks for. Every
capability it sends has the mount access type. -/
inductive VolumeCapability where
  | singleNodeWriter
  | multiNodeMultiWriter
  | multiNodeReaderOnly
deriving Repr, DecidableEq

/-- `csi.VolumeContentSource`; the provisioner only sends a snapshot source. -/
inductive VolumeContentSource where
  | snapshot (id : String)
deriving Repr, DecidableEq

/-- `csi.CreateVolumeRequest`. -/
structure CreateVolumeRequest where
  name : String
  parameters : StringMap
  volumeCapabilities : List VolumeCapability
  /-- `CapacityRange.RequiredBytes`. -/
  requiredBytes : Int
  volumeContentSource : Option VolumeContentSource
  controllerCreateSecrets : StringMap

/-- `csi.Volume`. -/
structure Volume where
  capacityBytes : Int
  id : String
  attributes : StringMap

/-- `csi.CreateVolumeResponse`; `volume` is the `Volume` pointer, `none` when nil. -/
structure CreateVolumeResponse where
  volume : Option Volume

/-- `csi.DeleteVolumeRequest`. -/
structure DeleteVolumeRequest where
  volumeId : String
  controllerDeleteSecrets : StringMap

/-! ### Errors -/

/-- gRPC status codes. -/
inductive Code where
  | ok | canceled | unknown | invalidArgument | deadlineExceeded | notFound | alreadyExists
  | permissionDenied | resourceExhausted | failedPrecondition | aborted | outOfRange
  | unimplemented | internal | unavailable | dataLoss | unauthenticated
deriving Repr, DecidableEq

/-- An error from the CSI client: a gRPC status, or an error `status.FromError` does not
recognise. -/
inductive RpcError where
  | status (code : Code) (description : String)
  | other (message : String)
deriving Repr, DecidableEq

/-- `status.FromError(err)`: the status code, when `err` is a status error. -/
def RpcError.statusCode : RpcError → Option Code
  | status code _ => some code
  | other _ => none

/-- An error from the API server; only its text is read. -/
structure ApiError where
  message : String
deriving Repr, DecidableEq

/-- The errors the provisioner returns, one constructor for each place in the package that
makes one, with the values its format string prints. -/
inductive ControllerError where
  | selectorNotSupported
  | dataSourceNotFound (pvcName : String)
  | dataSourceWrongKind (kind : String)
  | dataSourceWrongAPIGroup (apiGroup : String)
  | volumeNamePrefixEmpty
  | pvcUIDMissing
  | snapshotHandle (dataSourceName : String) (cause : ControllerError)
  | getSnapshot (snapshotName : String) (cause : ApiError)
  | snapshotNotReady (snapshotName : String)
  | snapshotBeingDeleted (snapshotName : String)
  | snapshotNotBoundOrInvalid
  | snapshotCapacityMissing (pvcName snapshotName : String)
  | volumeSmallerThanSnapshot (requested restoreSize : Int) (snapshotName : String)
  | secretParametersNotTogether (nameKey namespaceKey : String)
  | resolvingParameter (key template : String) (cause : ControllerError)
  | invalidTokens (tokens : List String)
  | namespaceResolvedInvalid (key template resolved : String)
  | namespaceInvalid (key template : String)
  | secretNameResolvedInvalid (key template resolved : String)
  | secretNameInvalid (key template : String)
  | getSecret (name «namespace» : String) (cause : ApiError)
  /-- An error of the CSI driver, returned as it came. -/
  | rpc (err : RpcError)
  /-- `wait.ErrWaitTimeout`. -/
  | waitTimeout
  | capacityViolation (created requested : Int)
  | capacityCleanupFailed (created requested : Int) (pvName : String) (cause : RpcError)
  | invalidCSIPV
deriving Repr, DecidableEq

/-- `code.String()`. -/
def Code.name : Code → String
  | ok => "OK" | canceled => "Canceled" | unknown => "Unknown"
  | invalidArgument => "InvalidArgument" | deadlineExceeded => "DeadlineExceeded"
  | notFound => "NotFound" | alreadyExists => "AlreadyExists"
  | permissionDenied => "PermissionDenied" | resourceExhausted => "ResourceExhausted"
  | failedPrecondition => "FailedPrecondition" | aborted => "Aborted"
  | outOfRange => "OutOfRange" | unimplemented => "Unimplemented" | internal => "Internal"
  | unavailable => "Unavailable" | dataLoss => "DataLoss"
  | unauthenticated => "Unauthenticated"

/-- `err.Error()` of a CSI client error. -/
def RpcError.message : RpcError → String
  | status code description => "rpc error: code = " ++ code.name ++ " desc = " ++ description
  | other message => message

/-- `%q` of a `[]string`: the quoted strings, space-separated, in brackets. -/
def quoteList (items : List String) : String :=
  "[" ++ " ".intercalate (items.map String.quote) ++ "]"

/-- The text of `capErr` in `Provision`. -/
def capacityViolationMessage (created requested : Int) : String :=
  "created volume capacity " ++ toString created ++ " less than requested capacity " ++
    toString requested

/-- `err.Error()`: the text each `fmt.Errorf` of the package prints. -/
def ControllerError.message : ControllerError → String
  | selectorNotSupported => "claim Selector is not supported"
  | dataSourceNotFound pvcName => "the PVC source not found for PVC " ++ pvcName
  | dataSourceWrongKind kind =>
      "the PVC source is not the right type. Expected " ++ snapshotKind ++ ", Got " ++ kind
  | dataSourceWrongAPIGroup apiGroup =>
      "the PVC source does not belong to the right APIGroup. Expected " ++ snapshotAPIGroup ++
        ", Got " ++ apiGroup
  | volumeNamePrefixEmpty => "Volume name prefix cannot be of length 0"
  | pvcUIDMissing => "corrupted PVC object, it is missing UID"
  | snapshotHandle name cause =>
      "error getting snapshot handle for snapshot " ++ name ++ ": " ++ cause.message
  | getSnapshot name cause =>
      "error getting snapshot " ++ name ++ " from api server: " ++ cause.message
  | snapshotNotReady name => "snapshot " ++ name ++ " is not Ready"
  | snapshotBeingDeleted name => "snapshot " ++ name ++ " is currently being deleted"
  | snapshotNotBoundOrInvalid => "snapshot in dataSource not bound or invalid"
  | snapshotCapacityMissing pvcName name =>
      "error getting capacity for PVC " ++ pvcName ++ " when creating snapshot " ++ name
  | volumeSmallerThanSnapshot requested restoreSize name =>
      "requested volume size " ++ toString requested ++ " is less than the size " ++
        toString restoreSize ++ " for the source snapshot " ++ name
  | secretParametersNotTogether nameKey namespaceKey =>
      nameKey ++ " and " ++ namespaceKey ++ " parameters must be specified together"
  | resolvingParameter key template cause =>
      "error resolving " ++ key ++ " value " ++ template.quote ++ ": " ++ cause.message
  | invalidTokens tokens => "invalid tokens: " ++ quoteList tokens
  | namespaceResolvedInvalid key template resolved =>
      key ++ " parameter " ++ template.quote ++ " resolved to " ++ resolved.quote ++
        " which is not a valid namespace name"
  | namespaceInvalid key template =>
      key ++ " parameter " ++ template.quote ++ " is not a valid namespace name"
  | secretNameResolvedInvalid key template resolved =>
      key ++ " parameter " ++ template.quote ++ " resolved to " ++ resolved.quote ++
        " which is not a valid secret name"
  | secretNameInvalid key template =>
      key ++ " parameter " ++ template.quote ++ " is not a valid secret name"
  | getSecret name ns cause =>
      "error getting secret " ++ name ++ " in namespace " ++ ns ++ ": " ++ cause.message
  | rpc err => err.message
  | waitTimeout => Wait.errWaitTimeoutMessage
  | capacityViolation created requested => capacityViolationMessage created requested
  | capacityCleanupFailed created requested pvName cause =>
      capacityViolationMessage created requested ++ ". Cleanup of volume " ++ pvName ++
        " failed, volume is orphaned: " ++ cause.message
  | invalidCSIPV => "invalid CSI PV"

/-! ### The provisioner's collaborators -/

/-- The object store, as `Get` calls see it at the moment of a run: each lookup returns the
object or the API server's error. Any state of the store is one value of this type. -/
structure ObjectStore where
  /-- `VolumeSnapshots(namespace).Get(name)`. -/
  getVolumeSnapshot : String → String → Except ApiError VolumeSnapshot
  /-- `VolumeSnapshotContents().Get(name)`. -/
  getVolumeSnapshotContent : String → Except ApiError VolumeSnapshotContent
  /-- `Secrets(namespace).Get(name)`. -/
  getSecret : String → String → Except ApiError Secret
  /-- `StorageClasses().Get(name)`. -/
  getStorageClass : String → Except ApiError StorageClass

/-- The CSI driver, as a script of outcomes: the reply to the `n`-th driver call of a run
(counting from 0) for the request sent. Every sequence of outcomes is one client. -/
structure ControllerClient where
  createVolume : Nat → CreateVolumeRequest → Except RpcError CreateVolumeResponse
  deleteVolume : Nat → DeleteVolumeRequest → Except RpcError Unit

/-- One call to the CSI driver, with the request sent and the outcome received. -/
inductive DriverCall where
  | createVolume (request : CreateVolumeRequest) (outcome : Except RpcError CreateVolumeResponse)
  | deleteVolume (request : DeleteVolumeRequest) (outcome : Except RpcError Unit)

/-- The request of a CreateVolume call. -/
def DriverCall.createRequest? : DriverCall → Option CreateVolumeRequest
  | createVolume request _ => some request
  | deleteVolume .. => none

/-- The CreateVolume requests of a call log, in order. -/
def createRequests (calls : List DriverCall) : List CreateVolumeRequest :=
  calls.filterMap DriverCall.createRequest?

@[simp] theorem createRequests_nil : createRequests [] = [] := rfl

@[simp] theorem createRequests_append (calls calls' : List DriverCall) :
    createRequests (calls ++ calls') = createRequests calls ++ createRequests calls' :=
  List.filterMap_append calls calls' _

@[simp] theorem createRequests_deleteVolume (request : DeleteVolumeRequest)
    (outcome : Except RpcError Unit) : createRequests [.deleteVolume request outcome] = [] :=
  rfl

/-- The request of a DeleteVolume call. -/
def DriverCall.deleteRequest? : DriverCall → Option DeleteVolumeRequest
  | createVolume .. => none
  | deleteVolume request _ => some request

/-- The DeleteVolume requests of a call log, in order. -/
def deleteRequests (calls : List DriverCall) : List DeleteVolumeRequest :=
  calls.filterMap DriverCall.deleteRequest?

@[simp] theorem deleteRequests_nil : deleteRequests [] = [] := rfl

@[simp] theorem deleteRequests_append (calls calls' : List DriverCall) :
    deleteRequests (calls ++ calls') = deleteRequests calls ++ deleteRequests calls' :=
  List.filterMap_append calls calls' _

@[simp] theorem deleteRequests_deleteVolume (request : DeleteVolumeRequest)
    (outcome : Except RpcError Unit) : deleteRequests [.deleteVolume request outcome] = [request] :=
  rfl

end CsiLvm
