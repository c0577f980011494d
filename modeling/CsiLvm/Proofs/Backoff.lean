/-
Module: CsiLvm.Proofs.Backoff
Purpose: The CreateVolume loop of `Provision`, for every budget of steps and every script of
  driver outcomes. Attempts that time out only move the loop on
  (`exponentialBackoffSteps_timedOut`), the first attempt that does not ends it with its own outcome
  (`exponentialBackoffSteps_decisive`), and every attempt sends the one prepared request.
  From these, the two shapes a run of `Provision` past its preparation can take.
Trusted boundary: none
Main exports: attemptLog, TimedOut, createVolumeWithBackoff_of_decisive,
  createVolumeWithBackoff_of_timedOut, provision_of_decisive, provision_of_timedOut
-/
import CsiLvm.Proofs.Prepare

namespace CsiLvm

/-!
[SPEC src/unnamed/part_001:244-267] The closure returns `(true, nil)` on success,
`(false, nil)` on a `DeadlineExceeded` status and `(false, err)` otherwise;
`wait.ExponentialBackoff` ends on the first answer other than `(false, nil)`, and returns
`ErrWaitTimeout` once the steps are spent.
-/

/-- The first `count` CreateVolume attempts of a run: the request `req` each time, with the
driver's outcome for that attempt. -/
def attemptLog (driver : ControllerClient) (req : CreateVolumeRequest) (count : Nat) :
    List DriverCall :=
  (List.range count).map fun attempt => .createVolume req (driver.createVolume attempt req)

/-- The outcome is a `DeadlineExceeded` status, which the closure retries. -/
def TimedOut (outcome : Except RpcError CreateVolumeResponse) : Prop :=
  ∃ err, outcome = .error err ∧ err.statusCode = some .deadlineExceeded

instance (outcome : Except RpcError CreateVolumeResponse) : Decidable (TimedOut outcome) :=
  match outcome with
  | .ok _ => isFalse fun ⟨_, failed, _⟩ => nomatch failed
  | .error err =>
      decidable_of_iff (err.statusCode = some .deadlineExceeded) (by simp [TimedOut])

/-- What `wait.ExponentialBackoff` returns once an outcome ends the loop. -/
def createVolumeWaitResult : Except RpcError CreateVolumeResponse → Wait.WaitResult RpcError
  | .ok _ => .done
  | .error err => .failed err

/-- Either every one of the first `steps` outcomes times out, or one of them is the first
that does not. -/
theorem timedOut_or_firstDecisive (outcome : Nat → Except RpcError CreateVolumeResponse)
    (steps : Nat) :
    (∀ j < steps, TimedOut (outcome j)) ∨
      ∃ first < steps, (∀ j < first, TimedOut (outcome j)) ∧ ¬ TimedOut (outcome first) := by
  induction steps with
  | zero => exact .inl fun j below => absurd below (Nat.not_lt_zero j)
  | succ steps inductionHypothesis =>
      rcases inductionHypothesis with allTimedOut | ⟨first, below, before, decisive⟩
      · by_cases last : TimedOut (outcome steps)
        · refine .inl fun j below => ?_
          rcases Nat.lt_succ_iff_lt_or_eq.mp below with earlier | rfl
          exacts [allTimedOut j earlier, last]
        · exact .inr ⟨steps, Nat.lt_succ_self steps, allTimedOut, last⟩
      · exact .inr ⟨first, Nat.lt_succ_of_lt below, before, decisive⟩

section Loop

variable {driver : ControllerClient} {req : CreateVolumeRequest}

@[simp] theorem attemptLog_zero : attemptLog driver req 0 = [] := rfl

@[simp] theorem length_attemptLog (count : Nat) : (attemptLog driver req count).length = count := by
  simp [attemptLog]

theorem attemptLog_succ (count : Nat) :
    attemptLog driver req (count + 1) =
      attemptLog driver req count ++ [.createVolume req (driver.createVolume count req)] := by
  simp [attemptLog, List.range_succ]

theorem mem_attemptLog {call : DriverCall} {count : Nat} :
    call ∈ attemptLog driver req count ↔
      ∃ attempt < count, call = .createVolume req (driver.createVolume attempt req) := by
  simp [attemptLog, eq_comm]

@[simp] theorem deleteRequests_attemptLog (count : Nat) :
    deleteRequests (attemptLog driver req count) = [] := by
  simp [deleteRequests, attemptLog, DriverCall.deleteRequest?]

@[simp] theorem createRequests_attemptLog (count : Nat) :
    createRequests (attemptLog driver req count) = List.replicate count req := by
  induction count with
  | zero => rfl
  | succ count inductionHypothesis =>
    rw [attemptLog_succ, createRequests_append, inductionHypothesis, List.replicate_succ']
    rfl

theorem createVolumeVerdict_retry_iff {outcome : Except RpcError CreateVolumeResponse} :
    createVolumeVerdict outcome = (false, none) ↔ TimedOut outcome := by
  cases outcome with
  | ok _ => simp [createVolumeVerdict, TimedOut]
  | error err =>
      by_cases deadline : err.statusCode = some .deadlineExceeded <;>
        simp [createVolumeVerdict, TimedOut, deadline]

/-- One attempt from the state the earlier attempts left: the closure logs the next call. -/
theorem createVolumeCondition_attemptLog (rep : Option CreateVolumeResponse) (count : Nat) :
    createVolumeCondition driver req ⟨rep, attemptLog driver req count⟩ =
      (createVolumeVerdict (driver.createVolume count req),
        ⟨(driver.createVolume count req).toOption, attemptLog driver req (count + 1)⟩) := by
  simp [createVolumeCondition, attemptLog_succ]

/-- Attempts that time out only move the loop on: after `skipped` of them it stands at the
next attempt with as many steps fewer. -/
theorem exponentialBackoffSteps_timedOut (steps : Nat) :
    ∀ (skipped first : Nat) (rep : Option CreateVolumeResponse),
      (∀ j < skipped, TimedOut (driver.createVolume (first + j) req)) →
      Wait.exponentialBackoffSteps (createVolumeCondition driver req) (skipped + steps)
          ⟨rep, attemptLog driver req first⟩ =
        Wait.exponentialBackoffSteps (createVolumeCondition driver req) steps
          ⟨if skipped = 0 then rep else none, attemptLog driver req (first + skipped)⟩
  | 0, first, rep, _ => by simp
  | skipped + 1, first, rep, timedOut => by
      have retry := createVolumeVerdict_retry_iff.mpr (by simpa using timedOut 0 (by omega))
      rw [show skipped + 1 + steps = (skipped + steps) + 1 by omega,
        Wait.exponentialBackoffSteps_of_retry _
          ((createVolumeCondition_attemptLog rep first).trans (by rw [retry])),
        show (driver.createVolume first req).toOption = none by
          obtain ⟨err, failed, -⟩ := createVolumeVerdict_retry_iff.mp retry
          rw [failed]; rfl,
        exponentialBackoffSteps_timedOut steps skipped (first + 1) none
          (fun j below => by
            simpa [Nat.add_assoc, Nat.add_comm 1] using timedOut (j + 1) (by omega))]
      simp [Nat.add_assoc, Nat.add_comm 1]

/-- An attempt that does not time out ends the loop with its own outcome. -/
theorem exponentialBackoffSteps_decisive (steps first : Nat) (rep : Option CreateVolumeResponse)
    (decisive : ¬ TimedOut (driver.createVolume first req)) :
    Wait.exponentialBackoffSteps (createVolumeCondition driver req) (steps + 1)
        ⟨rep, attemptLog driver req first⟩ =
      (createVolumeWaitResult (driver.createVolume first req),
        ⟨(driver.createVolume first req).toOption, attemptLog driver req (first + 1)⟩) := by
  have condition := @createVolumeCondition_attemptLog driver req rep first
  cases outcome : driver.createVolume first req with
  | ok response =>
      rw [outcome] at condition
      exact Wait.exponentialBackoffSteps_of_done steps condition
  | error err =>
      rw [outcome] at condition decisive
      have notDeadline : err.statusCode ≠ some .deadlineExceeded :=
        fun deadline => decisive ⟨err, rfl, deadline⟩
      simp only [createVolumeVerdict, notDeadline, if_false] at condition
      exact Wait.exponentialBackoffSteps_of_failed steps condition

/-- With a budget of `steps`, the loop makes attempts up to the first that does not time out,
and ends with that attempt's outcome. -/
theorem createVolumeWithBackoff_of_decisive {steps first : Nat} (below : first < steps)
    (before : ∀ j < first, TimedOut (driver.createVolume j req))
    (decisive : ¬ TimedOut (driver.createVolume first req)) :
    createVolumeWithBackoff ⟨steps⟩ driver req =
      (createVolumeWaitResult (driver.createVolume first req),
        ⟨(driver.createVolume first req).toOption, attemptLog driver req (first + 1)⟩) := by
  obtain ⟨rest, rfl⟩ : ∃ rest, steps = first + (rest + 1) := ⟨steps - first - 1, by omega⟩
  have skipped := @exponentialBackoffSteps_timedOut driver req (rest + 1)
    first 0 (some { volume := none }) (by simpa using before)
  rw [Nat.zero_add] at skipped
  rw [createVolumeWithBackoff, Wait.exponentialBackoff, ← attemptLog_zero, skipped,
    exponentialBackoffSteps_decisive rest first _ decisive]

/-- When every one of `steps` attempts times out, the loop makes all of them and times out. -/
theorem createVolumeWithBackoff_of_timedOut {steps : Nat} (positive : 0 < steps)
    (allTimedOut : ∀ j < steps, TimedOut (driver.createVolume j req)) :
    createVolumeWithBackoff ⟨steps⟩ driver req =
      (.timedOut, ⟨none, attemptLog driver req steps⟩) := by
  have skipped := @exponentialBackoffSteps_timedOut driver req 0
    steps 0 (some { volume := none }) (by simpa using allTimedOut)
  rw [Nat.add_zero, Nat.zero_add, if_neg positive.ne'] at skipped
  rw [createVolumeWithBackoff, Wait.exponentialBackoff, ← attemptLog_zero, skipped]
  rfl

end Loop

section Run

variable {p : CsiProvisioner} {store : ObjectStore} {driver : ControllerClient}
  {options : VolumeOptions} {prepared : PreparedVolume}

/-- A run of `Provision` past its preparation, ended by the first outcome that does not time
out: the error, or the rest of `Provision` with the successful reply. -/
theorem provision_of_decisive (prepared_ok : prepareProvision p store options = .ok prepared)
    {first : Nat} (below : first < backoffSteps)
    (before : ∀ j < first, TimedOut (driver.createVolume j prepared.request))
    (decisive : ¬ TimedOut (driver.createVolume first prepared.request)) :
    provision p store driver options =
      match driver.createVolume first prepared.request with
      | .ok rep => finishProvision p driver options prepared
          ⟨some rep, attemptLog driver prepared.request (first + 1)⟩
      | .error err => ⟨.error (.rpc err), attemptLog driver prepared.request (first + 1)⟩ := by
  rw [provision, prepared_ok]
  dsimp only
  rw [createVolumeBackoff, createVolumeWithBackoff_of_decisive below before decisive]
  cases driver.createVolume first prepared.request <;> rfl

/-- A run of `Provision` past its preparation in which every attempt times out. -/
theorem provision_of_timedOut (prepared_ok : prepareProvision p store options = .ok prepared)
    (allTimedOut : ∀ j < backoffSteps, TimedOut (driver.createVolume j prepared.request)) :
    provision p store driver options =
      ⟨.error .waitTimeout, attemptLog driver prepared.request backoffSteps⟩ := by
  rw [provision, prepared_ok]
  dsimp only
  rw [createVolumeBackoff, createVolumeWithBackoff_of_timedOut (by decide) allTimedOut]

/-- The retry contract of the CreateVolume loop, for the request `prepared.request`. With any
budget of steps the loop makes attempts up to the first outcome that is a success or an error
other than `DeadlineExceeded` and ends with that outcome, or makes all of them when each times
out. With its budget of `backoffSteps`, `Provision` then returns that error unchanged, goes on
with that reply, or returns `ErrWaitTimeout`. Every attempt sends the one prepared request. -/
structure CreateVolumeRetries (p : CsiProvisioner) (store : ObjectStore)
    (driver : ControllerClient) (options : VolumeOptions) (prepared : PreparedVolume) : Prop where
  loop_decisive : ∀ steps first, first < steps →
    (∀ j < first, TimedOut (driver.createVolume j prepared.request)) →
    ¬ TimedOut (driver.createVolume first prepared.request) →
    createVolumeWithBackoff ⟨steps⟩ driver prepared.request =
      (createVolumeWaitResult (driver.createVolume first prepared.request),
        ⟨(driver.createVolume first prepared.request).toOption,
          attemptLog driver prepared.request (first + 1)⟩)
  loop_timedOut : ∀ steps, 0 < steps →
    (∀ j < steps, TimedOut (driver.createVolume j prepared.request)) →
    createVolumeWithBackoff ⟨steps⟩ driver prepared.request =
      (.timedOut, ⟨none, attemptLog driver prepared.request steps⟩)
  provision_decisive : ∀ first, first < backoffSteps →
    (∀ j < first, TimedOut (driver.createVolume j prepared.request)) →
    ¬ TimedOut (driver.createVolume first prepared.request) →
    provision p store driver options =
      match driver.createVolume first prepared.request with
      | .ok rep => finishProvision p driver options prepared
          ⟨some rep, attemptLog driver prepared.request (first + 1)⟩
      | .error err => ⟨.error (.rpc err), attemptLog driver prepared.request (first + 1)⟩
  provision_timedOut : (∀ j < backoffSteps, TimedOut (driver.createVolume j prepared.request)) →
    provision p store driver options =
      ⟨.error .waitTimeout, attemptLog driver prepared.request backoffSteps⟩

theorem provision_retries_createVolume
    (prepared_ok : prepareProvision p store options = .ok prepared) :
    CreateVolumeRetries p store driver options prepared :=
  ⟨fun _ _ => createVolumeWithBackoff_of_decisive, fun _ => createVolumeWithBackoff_of_timedOut,
    fun _ => provision_of_decisive prepared_ok, provision_of_timedOut prepared_ok⟩

/-- A driver whose first CreateVolume times out and whose second creates a one-gibibyte
volume. -/
def retryingDriver : ControllerClient :=
  { createVolume := fun attempt _ =>
      if attempt = 0 then .error (.status .deadlineExceeded "context deadline exceeded")
      else .ok { volume := some ⟨2 ^ 30, "vol-1", ∅⟩ },
    deleteVolume := fun _ _ => .ok () }

theorem provision_retries_createVolume_sample :
    ∃ prepared, prepareProvision sampleProvisioner emptyStore (sampleOptions (2 ^ 30) none) =
        .ok prepared ∧
      CreateVolumeRetries sampleProvisioner emptyStore retryingDriver
        (sampleOptions (2 ^ 30) none) prepared ∧
      createRequests (provision sampleProvisioner emptyStore retryingDriver
        (sampleOptions (2 ^ 30) none)).calls = [prepared.request, prepared.request] ∧
      ∃ pv, (provision sampleProvisioner emptyStore retryingDriver
        (sampleOptions (2 ^ 30) none)).result = .ok pv :=
  ⟨_, rfl, provision_retries_createVolume rfl, rfl, _, rfl⟩

/-- When every attempt times out, `Provision` returns `ErrWaitTimeout`, not the last
`DeadlineExceeded` error, after `backoffSteps` attempts. -/
theorem provision_timeout_is_not_deadline_error :
    let deadline : RpcError := .status .deadlineExceeded "context deadline exceeded"
    let run := provision sampleProvisioner emptyStore (constantDriver (.error deadline))
      (sampleOptions (2 ^ 30) none)
    run.result = .error .waitTimeout ∧ run.result ≠ .error (.rpc deadline) ∧
      run.calls.length = backoffSteps := by
  intro deadline run
  have timedOut : run.result = .error .waitTimeout := rfl
  exact ⟨timedOut, by simp [timedOut], rfl⟩

end Run

end CsiLvm
