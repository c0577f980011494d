/-
Module: CsiLvm.Proofs.Runs
Purpose: Every run of `Provision`, over every claim, object store and script of driver
  outcomes. `provision_cases` gives the shapes a run can take and `provision_ends` the three
  ways it ends; with the branches of `finishProvision` they yield the two contracts about the
  driver calls a run makes: a created volume is either returned or deleted once with the
  creation credentials, and a claim with a data source only reaches CreateVolume with the
  handle of a snapshot that passed every check.
Trusted boundary: none
Main exports: provision_cases, provision_ends, provision_of_created,
  finishProvision_of_undersized, finishProvision_of_sized, finishProvision_eq_ok,
  finishProvision_calls, createVolume_mem_provision_calls, ControllerError.afterCreateVolume,
  SnapshotSourced
-/
import CsiLvm.Proofs.Backoff

namespace CsiLvm

/-!
[SPEC src/unnamed/part_001:140-331] A run stops in its preparation with no driver call, or
reaches the CreateVolume loop with the prepared request; only the capacity guard after a
successful CreateVolume calls DeleteVolume.
-/

section Run

variable {p : CsiProvisioner} {store : ObjectStore} {driver : ControllerClient}
  {options : VolumeOptions} {prepared : PreparedVolume}

/-- The shapes of a run of `Provision`: it stops in its preparation with no driver call and no
volume, or ends the CreateVolume loop at the first outcome that does not time out, or after
every attempt timed out. -/
theorem provision_cases (p : CsiProvisioner) (store : ObjectStore) (driver : ControllerClient)
    (options : VolumeOptions) :
    ((provision p store driver options).calls = [] ∧
        ∀ pv, (provision p store driver options).result ≠ .ok pv) ∨
      ∃ prepared, prepareProvision p store options = .ok prepared ∧
        ((∃ first < backoffSteps,
            (∀ j < first, TimedOut (driver.createVolume j prepared.request)) ∧
            ¬ TimedOut (driver.createVolume first prepared.request) ∧
            provision p store driver options =
              match driver.createVolume first prepared.request with
              | .ok rep => finishProvision p driver options prepared
                  ⟨some rep, attemptLog driver prepared.request (first + 1)⟩
              | .error err =>
                  ⟨.error (.rpc err), attemptLog driver prepared.request (first + 1)⟩) ∨
          ((∀ j < backoffSteps, TimedOut (driver.createVolume j prepared.request)) ∧
            provision p store driver options =
              ⟨.error .waitTimeout, attemptLog driver prepared.request backoffSteps⟩)) := by
  cases prepared_ok : prepareProvision p store options with
  | error err => exact .inl (by simp [provision, prepared_ok])
  | panic reason => exact .inl (by simp [provision, prepared_ok])
  | ok prepared =>
      refine .inr ⟨prepared, rfl, ?_⟩
      rcases timedOut_or_firstDecisive (driver.createVolume · prepared.request) backoffSteps with
        allTimedOut | ⟨first, below, before, decisive⟩
      · exact .inr ⟨allTimedOut, provision_of_timedOut prepared_ok allTimedOut⟩
      · exact .inl ⟨first, below, before, decisive,
          provision_of_decisive prepared_ok below before decisive⟩

/-- A successful call in the log of the loop is an attempt that did not time out, and sent the
loop's request. -/
theorem ok_mem_attemptLog {req req' : CreateVolumeRequest} {rep : CreateVolumeResponse}
    {count : Nat} (member : .createVolume req' (.ok rep) ∈ attemptLog driver req count) :
    ∃ attempt < count, req' = req ∧ driver.createVolume attempt req = .ok rep := by
  obtain ⟨attempt, below, same⟩ := mem_attemptLog.mp member
  simp only [DriverCall.createVolume.injEq] at same
  exact ⟨attempt, below, same.1, same.2.symm⟩

/-- The successful call in the log of a loop that stopped at attempt `first` is that attempt. -/
theorem ok_mem_attemptLog_of_decisive {req req' : CreateVolumeRequest}
    {rep : CreateVolumeResponse} {first : Nat}
    (before : ∀ j < first, TimedOut (driver.createVolume j req))
    (member : .createVolume req' (.ok rep) ∈ attemptLog driver req (first + 1)) :
    req' = req ∧ driver.createVolume first req = .ok rep := by
  obtain ⟨attempt, below, rfl, succeeded⟩ := ok_mem_attemptLog member
  rcases Nat.lt_succ_iff_lt_or_eq.mp below with earlier | rfl
  · obtain ⟨_, failed, _⟩ := before attempt earlier
    exact nomatch succeeded.symm.trans failed
  · exact ⟨rfl, succeeded⟩

/-- A loop in which every attempt timed out logged no successful call. -/
theorem ok_not_mem_attemptLog_of_timedOut {req req' : CreateVolumeRequest}
    {rep : CreateVolumeResponse} {count : Nat}
    (allTimedOut : ∀ j < count, TimedOut (driver.createVolume j req)) :
    .createVolume req' (.ok rep) ∉ attemptLog driver req count := fun member => by
  obtain ⟨attempt, below, -, succeeded⟩ := ok_mem_attemptLog member
  obtain ⟨_, failed, _⟩ := allTimedOut attempt below
  exact nomatch succeeded.symm.trans failed

theorem finishProvision_of_no_volume {rep : CreateVolumeResponse} {calls : List DriverCall}
    (noVolume : rep.volume = none) :
    finishProvision p driver options prepared ⟨some rep, calls⟩ =
      ⟨.panic (.nilPointerDereference "rep.Volume"), calls⟩ := by
  simp [finishProvision, noVolume]

/-- A volume smaller than requested is deleted with the creation credentials, once, and the
run fails with the capacity error. -/
theorem finishProvision_of_undersized {rep : CreateVolumeResponse} {volume : Volume}
    {calls : List DriverCall} (created : rep.volume = some volume)
    (undersized : volume.capacityBytes < prepared.volSizeBytes) :
    finishProvision p driver options prepared ⟨some rep, calls⟩ =
      let delReq := compensatingDeleteRequest volume prepared.provisionerCredentials
      ⟨.error (capacityError volume.capacityBytes prepared.volSizeBytes prepared.pvName
          (driver.deleteVolume calls.length delReq)),
        calls ++ [.deleteVolume delReq (driver.deleteVolume calls.length delReq)]⟩ := by
  simp [finishProvision, created, undersized]

/-- A volume at least as large as requested is returned, with no further call. -/
theorem finishProvision_of_sized {rep : CreateVolumeResponse} {volume : Volume}
    {calls : List DriverCall} (created : rep.volume = some volume)
    (sized : ¬ volume.capacityBytes < prepared.volSizeBytes) :
    finishProvision p driver options prepared ⟨some rep, calls⟩ =
      ⟨.ok (provisionedVolume p options prepared volume), calls⟩ := by
  simp [finishProvision, created, sized]

/-- `finishProvision` returns a volume only through the capacity guard: the reply's volume,
at least as large as requested, made into a PV. -/
theorem finishProvision_eq_ok {rep : CreateVolumeResponse} {calls : List DriverCall}
    {pv : PersistentVolume}
    (returned : (finishProvision p driver options prepared ⟨some rep, calls⟩).result = .ok pv) :
    ∃ volume, rep.volume = some volume ∧ ¬ volume.capacityBytes < prepared.volSizeBytes ∧
      pv = provisionedVolume p options prepared volume := by
  cases created : rep.volume with
  | none =>
    rw [finishProvision_of_no_volume created] at returned
    cases returned
  | some volume =>
    by_cases undersized : volume.capacityBytes < prepared.volSizeBytes
    · rw [finishProvision_of_undersized created undersized] at returned
      cases returned
    · rw [finishProvision_of_sized created undersized] at returned
      exact ⟨volume, rfl, undersized, (GoResult.ok.inj returned).symm⟩

/-- `finishProvision` only adds DeleteVolume calls to the log. -/
theorem mem_finishProvision_calls {state : CreateVolumeState} {req : CreateVolumeRequest}
    {outcome : Except RpcError CreateVolumeResponse}
    (member :
      .createVolume req outcome ∈ (finishProvision p driver options prepared state).calls) :
    .createVolume req outcome ∈ state.calls := by
  unfold finishProvision at member
  split at member
  · exact member
  split at member
  · exact member
  dsimp only at member
  split at member <;> simpa using member

/-- `finishProvision` keeps the log of the loop, or adds one DeleteVolume call to it. -/
theorem finishProvision_calls (state : CreateVolumeState) :
    (finishProvision p driver options prepared state).calls = state.calls ∨
      ∃ request outcome, (finishProvision p driver options prepared state).calls =
        state.calls ++ [.deleteVolume request outcome] := by
  unfold finishProvision
  split
  · exact .inl rfl
  split
  · exact .inl rfl
  dsimp only
  split
  · exact .inr ⟨_, _, rfl⟩
  · exact .inl rfl

/-- A run that got through its preparation sends the prepared request at least once. -/
theorem createVolume_mem_provision_calls
    (prepared_ok : prepareProvision p store options = .ok prepared) :
    ∃ outcome,
      .createVolume prepared.request outcome ∈ (provision p store driver options).calls := by
  have firstAttempt (count : Nat) :
      .createVolume prepared.request (driver.createVolume 0 prepared.request) ∈
        attemptLog driver prepared.request (count + 1) :=
    mem_attemptLog.mpr ⟨0, Nat.succ_pos count, rfl⟩
  rcases timedOut_or_firstDecisive (driver.createVolume · prepared.request) backoffSteps with
    allTimedOut | ⟨first, below, before, decisive⟩
  · rw [provision_of_timedOut prepared_ok allTimedOut]
    exact ⟨_, firstAttempt (backoffSteps - 1)⟩
  · rw [provision_of_decisive prepared_ok below before decisive]
    split
    · rcases @finishProvision_calls p driver options prepared
          ⟨some ‹_›, attemptLog driver prepared.request (first + 1)⟩ with same | ⟨_, _, added⟩
      · exact ⟨_, by rw [same]; exact firstAttempt first⟩
      · exact ⟨_, by rw [added]; exact List.mem_append_left _ (firstAttempt first)⟩
    · exact ⟨_, firstAttempt first⟩

/-- Every CreateVolume call of a run past its preparation sends the prepared request. -/
theorem request_of_mem_provision_calls
    (prepared_ok : prepareProvision p store options = .ok prepared)
    {req : CreateVolumeRequest} {outcome : Except RpcError CreateVolumeResponse}
    (member : .createVolume req outcome ∈ (provision p store driver options).calls) :
    req = prepared.request := by
  have inLog :
      ∃ count, .createVolume req outcome ∈ attemptLog driver prepared.request count := by
    rcases timedOut_or_firstDecisive (driver.createVolume · prepared.request) backoffSteps with
      allTimedOut | ⟨first, below, before, decisive⟩
    · rw [provision_of_timedOut prepared_ok allTimedOut] at member
      exact ⟨_, member⟩
    · rw [provision_of_decisive prepared_ok below before decisive] at member
      split at member
      · exact ⟨_, mem_finishProvision_calls member⟩
      · exact ⟨_, member⟩
  obtain ⟨count, inLog⟩ := inLog
  obtain ⟨_, _, same⟩ := mem_attemptLog.mp inLog
  exact (DriverCall.createVolume.inj same).1

/-- The errors `Provision` only returns once the CreateVolume loop has started: the loop's
failure or timeout, and the capacity guard's. Every other error is one of the preparation. -/
def ControllerError.afterCreateVolume : ControllerError → Bool
  | .rpc _ | .waitTimeout | .capacityViolation .. | .capacityCleanupFailed .. => true
  | _ => false

@[simp] theorem afterCreateVolume_capacityError (respCap volSizeBytes : Int) (pvName : String)
    (outcome : Except RpcError Unit) :
    (capacityError respCap volSizeBytes pvName outcome).afterCreateVolume = true := by
  cases outcome <;> rfl

/-- The three ways a run of `Provision` ends: in its preparation, with no driver call; in the
CreateVolume loop, with an error and no successful call; or in the rest of `Provision` after
the one successful reply `rep`, sent with the prepared request. -/
theorem provision_ends (p : CsiProvisioner) (store : ObjectStore) (driver : ControllerClient)
    (options : VolumeOptions) :
    ((provision p store driver options).calls = [] ∧
        ∀ pv, (provision p store driver options).result ≠ .ok pv) ∨
      (∃ err, (provision p store driver options).result = .error err ∧
        err.afterCreateVolume = true ∧
        deleteRequests (provision p store driver options).calls = [] ∧
        ∀ req rep, .createVolume req (.ok rep) ∉ (provision p store driver options).calls) ∨
      ∃ prepared rep log, prepareProvision p store options = .ok prepared ∧
        provision p store driver options =
          finishProvision p driver options prepared ⟨some rep, log⟩ ∧
        .createVolume prepared.request (.ok rep) ∈ log ∧ deleteRequests log = [] ∧
        ∀ req rep', .createVolume req (.ok rep') ∈ log →
          req = prepared.request ∧ rep' = rep := by
  rcases provision_cases p store driver options with stopped |
    ⟨prepared, prepared_ok, ⟨first, below, before, decisive, ran⟩ | ⟨allTimedOut, ran⟩⟩
  · exact .inl stopped
  · rw [ran]
    cases outcome : driver.createVolume first prepared.request with
    | error err =>
        refine .inr (.inl ⟨.rpc err, rfl, rfl, deleteRequests_attemptLog _,
          fun req rep member => ?_⟩)
        have succeeded := (ok_mem_attemptLog_of_decisive before member).2
        rw [outcome] at succeeded
        cases succeeded
    | ok rep =>
        refine .inr (.inr ⟨prepared, rep, _, prepared_ok, rfl,
          mem_attemptLog.mpr ⟨first, Nat.lt_succ_self first, by rw [outcome]⟩,
          deleteRequests_attemptLog _, fun req rep' member => ?_⟩)
        obtain ⟨rfl, succeeded⟩ := ok_mem_attemptLog_of_decisive before member
        exact ⟨rfl, by simpa [outcome] using succeeded.symm⟩
  · rw [ran]
    exact .inr (.inl ⟨.waitTimeout, rfl, rfl, deleteRequests_attemptLog _,
      fun _ _ => ok_not_mem_attemptLog_of_timedOut allTimedOut⟩)

/-- A run with a successful CreateVolume reply `rep` went through its preparation, sent the
prepared request, and is the rest of `Provision` after that reply. -/
theorem provision_of_created {req : CreateVolumeRequest} {rep : CreateVolumeResponse}
    (created : .createVolume req (.ok rep) ∈ (provision p store driver options).calls) :
    ∃ prepared, prepareProvision p store options = .ok prepared ∧ req = prepared.request ∧
      ∃ log, provision p store driver options =
          finishProvision p driver options prepared ⟨some rep, log⟩ ∧
        .createVolume req (.ok rep) ∈ log ∧ deleteRequests log = [] := by
  rcases provision_ends p store driver options with ⟨noCalls, -⟩ | ⟨-, -, -, -, noSuccess⟩ |
    ⟨prepared, rep₀, log, prepared_ok, ran, logged, noDeletes, onlySuccess⟩
  · simp [noCalls] at created
  · exact absurd created (noSuccess req rep)
  · rw [ran] at created
    obtain ⟨rfl, rfl⟩ := onlySuccess req rep (mem_finishProvision_calls created)
    exact ⟨prepared, prepared_ok, rfl, log, ran, logged, noDeletes⟩

/-- A run of `Provision` makes at most `backoffSteps` CreateVolume attempts and at most one
DeleteVolume call, so at most `backoffSteps + 1` driver calls. -/
theorem provision_calls_bounded (p : CsiProvisioner) (store : ObjectStore)
    (driver : ControllerClient) (options : VolumeOptions) :
    let calls := (provision p store driver options).calls
    (createRequests calls).length ≤ backoffSteps ∧ (deleteRequests calls).length ≤ 1 ∧
      calls.length ≤ backoffSteps + 1 := by
  intro calls
  rcases provision_cases p store driver options with ⟨noCalls, -⟩ |
    ⟨prepared, -, ⟨first, below, -, -, ran⟩ | ⟨-, ran⟩⟩
  · simp [calls, noCalls]
  · simp only [calls, ran]
    split
    · rcases @finishProvision_calls p driver options prepared
          ⟨some ‹_›, attemptLog driver prepared.request (first + 1)⟩ with same | ⟨_, _, added⟩
      · simp only [same, createRequests_attemptLog, deleteRequests_attemptLog, length_attemptLog,
          List.length_replicate, List.length_nil]
        omega
      · simp only [added, createRequests_append, createRequests_attemptLog,
          createRequests_deleteVolume, deleteRequests_append, deleteRequests_attemptLog,
          deleteRequests_deleteVolume, List.length_append, length_attemptLog,
          List.length_replicate, List.length_nil, List.length_singleton]
        omega
    · simp only [createRequests_attemptLog, deleteRequests_attemptLog, length_attemptLog,
        List.length_replicate, List.length_nil]
      omega
  · simp [calls, ran]

/-- Every CreateVolume request of a run names the volume `makeVolumeName` derives from the
claim's UID, and carries the storage class parameters, the claim's requested bytes, and one
capability per access mode of the claim that the driver vocabulary has, in order: `RWO` as a
single-node writer, `RWX` as a multi-node writer, `ROX` as a multi-node reader, any other mode
dropped. It carries a content source exactly when the claim has a data source. -/
theorem provision_request_matches_claim {req : CreateVolumeRequest}
    {outcome : Except RpcError CreateVolumeResponse}
    (member : .createVolume req outcome ∈ (provision p store driver options).calls) :
    makeVolumeName p.volumeNamePrefix options.pvc.uid p.volumeNameUUIDLength = .ok req.name ∧
      req.parameters = options.parameters ∧
      req.volumeCapabilities = options.pvc.accessModes.filterMap (fun
        | .readWriteOnce => some .singleNodeWriter
        | .readWriteMany => some .multiNodeMultiWriter
        | .readOnlyMany => some .multiNodeReaderOnly
        | .other _ => none) ∧
      req.requiredBytes = options.pvc.requestedBytes ∧
      (req.volumeContentSource = none ↔ options.pvc.dataSource = none) := by
  rcases provision_cases p store driver options with ⟨noCalls, -⟩ | ⟨prepared, prepared_ok, -⟩
  · simp [noCalls] at member
  have facts := prepareProvision_eq_ok prepared_ok
  have sourced : prepared.request.volumeContentSource = none ↔ options.pvc.dataSource = none := by
    refine ⟨fun empty => ?_, facts.no_source⟩
    cases present : options.pvc.dataSource with
    | none => rfl
    | some dataSource =>
      obtain ⟨-, -, _, -, attached⟩ := facts.snapshot_source dataSource present
      simp [attached] at empty
  rw [request_of_mem_provision_calls prepared_ok member]
  rw [facts.request] at sourced ⊢
  exact ⟨facts.named, rfl, volumeCapabilities_eq_filterMap _, rfl, sourced⟩

/-- A claim for one gibibyte with the modes `RWO`, `ReadWriteOncePod` and `ROX`. -/
def multiModeOptions : VolumeOptions :=
  { sampleOptions (2 ^ 30) none with
    pvc := { (sampleOptions (2 ^ 30) none).pvc with
      accessModes := [.readWriteOnce, .other "ReadWriteOncePod", .readOnlyMany] } }

theorem provision_request_matches_claim_sample :
    let run := provision sampleProvisioner emptyStore (constantDriver (.ok { volume := none }))
      multiModeOptions
    ∃ req outcome, .createVolume req outcome ∈ run.calls ∧
      makeVolumeName sampleProvisioner.volumeNamePrefix multiModeOptions.pvc.uid
          sampleProvisioner.volumeNameUUIDLength = .ok req.name ∧
      req.parameters = multiModeOptions.parameters ∧
      req.volumeCapabilities = multiModeOptions.pvc.accessModes.filterMap (fun
        | .readWriteOnce => some .singleNodeWriter
        | .readWriteMany => some .multiNodeMultiWriter
        | .readOnlyMany => some .multiNodeReaderOnly
        | .other _ => none) ∧
      req.requiredBytes = multiModeOptions.pvc.requestedBytes ∧
      (req.volumeContentSource = none ↔ multiModeOptions.pvc.dataSource = none) := by
  intro run
  obtain ⟨req, outcome, member⟩ : ∃ req outcome, .createVolume req outcome ∈ run.calls :=
    ⟨_, _, List.mem_singleton_self _⟩
  exact ⟨req, outcome, member, provision_request_matches_claim member⟩

/-- Every CreateVolume request of a run carries the data of the creation secret the storage
class names, key by key, as its `controllerCreateSecrets`, and no credentials when the storage
class names none. -/
theorem provision_request_carries_creation_secret {req : CreateVolumeRequest}
    {outcome : Except RpcError CreateVolumeResponse}
    (member : .createVolume req outcome ∈ (provision p store driver options).calls) :
    ∃ ref, getSecretReference provisionerSecretNameKey provisionerSecretNamespaceKey
        options.parameters req.name none = .ok ref ∧
      (ref = none → req.controllerCreateSecrets = ∅) ∧
      ∀ secretRef, ref = some secretRef → ∃ secret,
        store.getSecret secretRef.«namespace» secretRef.name = .ok secret ∧
          ∀ key, req.controllerCreateSecrets.lookup key = secret.data.lookup key := by
  rcases provision_cases p store driver options with ⟨noCalls, -⟩ | ⟨prepared, prepared_ok, -⟩
  · simp [noCalls] at member
  have facts := prepareProvision_eq_ok prepared_ok
  obtain ⟨ref, resolved, fetched⟩ := facts.credentials
  rw [request_of_mem_provision_calls prepared_ok member, prepared.request_secrets,
    facts.request_name]
  exact ⟨ref, resolved, getCredentials_eq_ok fetched⟩

/-- A claim whose storage class names the creation secret `lvm-secret` of `default`. -/
def secretOptions : VolumeOptions :=
  { sampleOptions (2 ^ 30) none with
    parameters := ((∅ : StringMap).insert provisionerSecretNameKey "lvm-secret").insert
      provisionerSecretNamespaceKey "default" }

/-- An object store that holds `lvm-secret` in `default`. -/
def secretStore : ObjectStore :=
  { emptyStore with
    getSecret := fun «namespace» name =>
      if «namespace» = "default" ∧ name = "lvm-secret" then
        .ok ⟨((∅ : StringMap).insert "username" "admin").insert "password" "lvm"⟩
      else .error ⟨"not found"⟩ }

/-- `Provision` gets through its preparation for `secretOptions` and `secretStore`: the
creation secret's templates resolve, and the store holds the secret. -/
theorem secretOptions_prepared :
    ∃ prepared, prepareProvision sampleProvisioner secretStore secretOptions = .ok prepared := by
  have named : makeVolumeName sampleProvisioner.volumeNamePrefix secretOptions.pvc.uid
      sampleProvisioner.volumeNameUUIDLength = .ok "pvc-1234" := by decide
  have resolved : getSecretReference provisionerSecretNameKey provisionerSecretNamespaceKey
      secretOptions.parameters "pvc-1234" none =
        .ok (some { name := "lvm-secret", «namespace» := "default" }) :=
    getSecretReference_of_resolved (by decide) (by decide) (by decide) (by decide)
      (resolveTemplate_of_no_dollar (by decide) _) (resolveTemplate_of_no_dollar (by decide) _)
      (by decide) (by decide)
  have validated : validateClaim secretOptions.pvc = .ok none := rfl
  simp only [prepareProvision, validated, named, resolved, GoResult.ok_bind,
    attachContentSource_none, GoResult.pure_eq, GoResult.ofExcept_ok]
  exact ⟨_, rfl⟩

theorem provision_request_carries_creation_secret_sample :
    let run := provision sampleProvisioner secretStore (constantDriver (.ok { volume := none }))
      secretOptions
    ∃ req outcome, .createVolume req outcome ∈ run.calls ∧
      ∃ ref, getSecretReference provisionerSecretNameKey provisionerSecretNamespaceKey
          secretOptions.parameters req.name none = .ok ref ∧
        (ref = none → req.controllerCreateSecrets = ∅) ∧
        ∀ secretRef, ref = some secretRef → ∃ secret,
          secretStore.getSecret secretRef.«namespace» secretRef.name = .ok secret ∧
            ∀ key, req.controllerCreateSecrets.lookup key = secret.data.lookup key := by
  intro run
  obtain ⟨prepared, prepared_ok⟩ := secretOptions_prepared
  obtain ⟨outcome, member⟩ :=
    @createVolume_mem_provision_calls _ _ (constantDriver (.ok { volume := none })) _ _ prepared_ok
  exact ⟨_, outcome, member, provision_request_carries_creation_secret member⟩

/-- A storage class that gives one key of a secret pair without the other, or an empty
template for either, stops every run of `Provision` before the driver: no call, and no
volume. -/
theorem provision_rejects_half_specified_secret {nameKey namespaceKey : String}
    (pair : (nameKey, namespaceKey) ∈ secretKeyPairs)
    (given : options.parameters.lookup nameKey ≠ none ∨
      options.parameters.lookup namespaceKey ≠ none)
    (missing : options.parameters.get nameKey = "" ∨ options.parameters.get namespaceKey = "") :
    (provision p store driver options).calls = [] ∧
      ∀ pv, (provision p store driver options).result ≠ .ok pv := by
  rcases provision_cases p store driver options with stopped | ⟨prepared, prepared_ok, -⟩
  · exact stopped
  obtain ⟨pvc, ref, resolved⟩ :=
    prepareProvision_secretReferences prepared_ok nameKey namespaceKey pair
  rcases getSecretReference_together resolved with ⟨noName, noNamespace⟩ | ⟨named, namespaced⟩
  · rcases given with given | given <;> contradiction
  · rcases missing with missing | missing <;> contradiction

theorem provision_rejects_half_specified_secret_sample :
    let options : VolumeOptions := { sampleOptions (2 ^ 30) none with
      parameters := (∅ : StringMap).insert provisionerSecretNameKey "lvm-secret" }
    (provisionerSecretNameKey, provisionerSecretNamespaceKey) ∈ secretKeyPairs ∧
      (options.parameters.lookup provisionerSecretNameKey ≠ none ∨
        options.parameters.lookup provisionerSecretNamespaceKey ≠ none) ∧
      (options.parameters.get provisionerSecretNameKey = "" ∨
        options.parameters.get provisionerSecretNamespaceKey = "") ∧
      (provision sampleProvisioner emptyStore (constantDriver (.ok { volume := none })) options).calls =
          [] ∧
        ∀ pv, (provision sampleProvisioner emptyStore (constantDriver (.ok { volume := none }))
          options).result ≠ .ok pv := by
  intro options
  have pair : (provisionerSecretNameKey, provisionerSecretNamespaceKey) ∈ secretKeyPairs := by
    decide
  have given : options.parameters.lookup provisionerSecretNameKey ≠ none ∨
      options.parameters.lookup provisionerSecretNamespaceKey ≠ none := .inl (by decide)
  have missing : options.parameters.get provisionerSecretNameKey = "" ∨
      options.parameters.get provisionerSecretNamespaceKey = "" := .inr (by decide)
  exact ⟨pair, given, missing, provision_rejects_half_specified_secret pair given missing⟩

/-- What a run of `Provision` guarantees for a claim with the data source `dataSource`: it
stops before any driver call and returns no volume, or the data source names a snapshot of the
claim's namespace that passed every check, and every CreateVolume request of the run carries
the handle of that snapshot's content. -/
def SnapshotSourced (store : ObjectStore) (options : VolumeOptions)
    (dataSource : TypedLocalObjectReference) (run : ProvisionRun) : Prop :=
  (run.calls = [] ∧ ∀ pv, run.result ≠ .ok pv) ∨
    ∃ snapshotObj snapContentObj snapshotHandle,
      store.getVolumeSnapshot options.pvc.«namespace» dataSource.name = .ok snapshotObj ∧
      store.getVolumeSnapshotContent snapshotObj.snapshotContentName = .ok snapContentObj ∧
      SnapshotChecked options snapshotObj snapContentObj ∧
      snapContentObj.csiSnapshotHandle = some snapshotHandle ∧
      dataSource.kind = snapshotKind ∧ dataSource.apiGroup = some snapshotAPIGroup ∧
      ∀ req outcome, .createVolume req outcome ∈ run.calls →
        req.volumeContentSource = some (.snapshot snapshotHandle)

theorem provision_uses_checked_snapshot {dataSource : TypedLocalObjectReference}
    (sourced : options.pvc.dataSource = some dataSource) :
    SnapshotSourced store options dataSource (provision p store driver options) := by
  rcases provision_cases p store driver options with stopped | ⟨prepared, prepared_ok, -⟩
  · exact .inl stopped
  obtain ⟨kind, group, source, fetched, attached⟩ :=
    (prepareProvision_eq_ok prepared_ok).snapshot_source dataSource sourced
  obtain ⟨snapshotObj, snapContentObj, snapshotHandle, read, contentRead, checked, handled,
    rfl⟩ :=
    getVolumeContentSource_eq_ok fetched
  refine .inr ⟨snapshotObj, snapContentObj, snapshotHandle, read, contentRead, checked, handled,
    kind, group, fun req outcome member => ?_⟩
  rw [request_of_mem_provision_calls prepared_ok member, attached]

/-- An object store holding the ready snapshot `snapshot` of `default`, of one gibibyte,
bound to the content `content-1`, whose CSI handle is `h-1`. -/
def snapshotStore : ObjectStore :=
  { emptyStore with
    getVolumeSnapshot := fun «namespace» name =>
      if «namespace» = "default" ∧ name = "snapshot" then
        .ok { name := "snapshot", «namespace» := "default", uid := "snapshot-uid",
              deletionTimestamp := none, snapshotContentName := "content-1", ready := true,
              restoreSize := some ⟨2 ^ 30⟩ }
      else .error ⟨"not found"⟩,
    getVolumeSnapshotContent := fun name =>
      if name = "content-1" then
        .ok { volumeSnapshotRef := some ⟨"snapshot-uid", "default", "snapshot"⟩,
              csiSnapshotHandle := some "h-1" }
      else .error ⟨"not found"⟩ }

theorem provision_uses_checked_snapshot_sample :
    let dataSource : TypedLocalObjectReference := ⟨some snapshotAPIGroup, snapshotKind, "snapshot"⟩
    let run := provision sampleProvisioner snapshotStore
      (constantDriver (.ok { volume := some ⟨2 ^ 30, "vol-1", ∅⟩ }))
      (sampleOptions (2 ^ 30) (some dataSource))
    (sampleOptions (2 ^ 30) (some dataSource)).pvc.dataSource = some dataSource ∧
      SnapshotSourced snapshotStore (sampleOptions (2 ^ 30) (some dataSource)) dataSource run ∧
      ∃ req outcome, .createVolume req outcome ∈ run.calls ∧
        req.volumeContentSource = some (.snapshot "h-1") :=
  ⟨rfl, provision_uses_checked_snapshot rfl, _, _, List.mem_singleton_self _, rfl⟩

end Run

end CsiLvm
