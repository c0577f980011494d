/-
Module: CsiLvm.Proofs.Attacher
Purpose: Every start of the attacher, over every flag setting, every outcome of the calls it
  makes and every clock. `waitForDriverReady` gives up only after its deadline and after every
  probe failed, its answer does not depend on the fuel it is given, and with a clock that
  advances by the second it sleeps it returns within `⌊timeout / 1s⌋ + 2` probes. `main` then
  ends, unless it is a standby replica waiting for a lock another replica keeps, which never
  ends; it runs the controller only after the driver answered a probe and the leader-election
  flags were checked.
Trusted boundary: after each failed attempt the clock reads at least one second later than
  after the one before (`time.Sleep(time.Second)` on a monotonic clock).
Main exports: ProbeScript.Retries, ProbeScript.Ends, ProbeScript.ClockAdvances,
  waitForDriverReadyFrom_eq_some, waitForDriverReadyFrom_returns, waitForDriverReadyFrom_agree,
  selectHandler_agree, electLeader_eq_ok, electLeader_eq_none, main_cases,
  main_standby_never_ends
-/
import CsiLvm.Attacher.Main

namespace CsiLvm.Attacher

/-!
[SPEC src/cmd/attacher/main.go:68-205] The readiness loop probes, and after a failed probe
reads the clock and either gives up (past `finish`) or sleeps a second and probes again.
-/

/-! ### The readiness loop -/

/-- Attempt `attempt` failed and the clock after it had not passed `finish`: the loop sleeps
and probes again. -/
def ProbeScript.Retries (script : ProbeScript) (finish : Int) (attempt : Nat) : Prop :=
  (script.probe attempt).isSome ∧ script.clock attempt ≤ finish

/-- Attempt `attempt` ends the loop with `result`: nil after a successful probe, or the
probe's error once the clock has passed `finish`. -/
def ProbeScript.Ends (script : ProbeScript) (finish : Int) (attempt : Nat)
    (result : Except String Unit) : Prop :=
  (script.probe attempt = none ∧ result = .ok ()) ∨
    ∃ err, script.probe attempt = some err ∧ finish < script.clock attempt ∧
      result = .error (probeFailedMessage err)

/-- `time.Sleep(time.Second)` between attempts on a monotonic clock: the first reading is
not before the entry, and each is at least a second after the one before. -/
def ProbeScript.ClockAdvances (script : ProbeScript) : Prop :=
  script.start ≤ script.clock 0 ∧
    ∀ attempt, script.clock attempt + second ≤ script.clock (attempt + 1)

section Loop

variable {script : ProbeScript} {finish : Int}

/-- A run of the loop from attempt `attempt`: every attempt before its last one retried, and
its last one ended it with the result it returns. -/
theorem waitForDriverReadyFrom_eq_some {fuel attempt attempts : Nat}
    {result : Except String Unit}
    (returned : waitForDriverReadyFrom script finish fuel attempt = some (result, attempts)) :
    ∃ last, attempts = last + 1 ∧ attempt ≤ last ∧ last < attempt + fuel ∧
      (∀ earlier, attempt ≤ earlier → earlier < last → script.Retries finish earlier) ∧
      script.Ends finish last result := by
  induction fuel generalizing attempt with
  | zero => cases returned
  | succ fuel inductionHypothesis =>
    unfold waitForDriverReadyFrom at returned
    cases probed : script.probe attempt with
    | none =>
      simp only [probed, Option.some.injEq, Prod.mk.injEq] at returned
      obtain ⟨rfl, rfl⟩ := returned
      exact ⟨attempt, rfl, le_rfl, by omega, fun _ _ _ => by omega, .inl ⟨probed, rfl⟩⟩
    | some err =>
      simp only [probed] at returned
      split at returned
      case isTrue passed =>
        simp only [Option.some.injEq, Prod.mk.injEq] at returned
        obtain ⟨rfl, rfl⟩ := returned
        exact ⟨attempt, rfl, le_rfl, by omega, fun _ _ _ => by omega,
          .inr ⟨err, probed, passed, rfl⟩⟩
      case isFalse within =>
        obtain ⟨last, rfl, later, bounded, retried, ends⟩ := inductionHypothesis returned
        refine ⟨last, rfl, by omega, by omega, fun earlier atLeast below => ?_, ends⟩
        rcases Nat.eq_or_lt_of_le atLeast with rfl | after
        · exact ⟨by simp [probed], not_lt.mp within⟩
        · exact retried earlier after below

/-- The loop returns, after at most `deadline + 1` attempts, once it is given the fuel to
reach an attempt `deadline` that does not retry. -/
theorem waitForDriverReadyFrom_returns {deadline fuel attempt : Nat}
    (ends : ¬ script.Retries finish deadline) (reached : attempt ≤ deadline)
    (enough : deadline - attempt < fuel) :
    ∃ result attempts, waitForDriverReadyFrom script finish fuel attempt = some (result, attempts) ∧
      attempts ≤ deadline + 1 := by
  induction fuel generalizing attempt with
  | zero => omega
  | succ fuel inductionHypothesis =>
    unfold waitForDriverReadyFrom
    cases probed : script.probe attempt with
    | none => exact ⟨_, _, rfl, by omega⟩
    | some err =>
      simp only
      split
      · exact ⟨_, _, rfl, by omega⟩
      case isFalse within =>
        have before : attempt ≠ deadline := by
          rintro rfl
          exact ends ⟨by simp [probed], not_lt.mp within⟩
        exact inductionHypothesis (by omega) (by omega)

/-- Two runs of the loop from the same attempt that both return, whatever fuel each was
given, return the same answer after the same number of attempts. -/
theorem waitForDriverReadyFrom_agree {fuel fuel' attempt : Nat}
    {ended ended' : Except String Unit × Nat}
    (returned : waitForDriverReadyFrom script finish fuel attempt = some ended)
    (returned' : waitForDriverReadyFrom script finish fuel' attempt = some ended') :
    ended = ended' := by
  induction fuel generalizing fuel' attempt with
  | zero => cases returned
  | succ fuel inductionHypothesis =>
    cases fuel' with
    | zero => cases returned'
    | succ fuel' =>
      unfold waitForDriverReadyFrom at returned returned'
      cases probed : script.probe attempt with
      | none =>
        simp only [probed, Option.some.injEq] at returned returned'
        exact returned.symm.trans returned'
      | some err =>
        simp only [probed] at returned returned'
        by_cases passed : finish < script.clock attempt
        · simp only [passed, if_true, Option.some.injEq] at returned returned'
          exact returned.symm.trans returned'
        · simp only [passed, if_false] at returned returned'
          exact inductionHypothesis returned returned'

/-- On a clock that advances by the second slept, the reading after attempt `attempt` is at
least `attempt` seconds after the entry. -/
theorem ProbeScript.start_add_le_clock (advances : script.ClockAdvances) (attempt : Nat) :
    script.start + attempt * second ≤ script.clock attempt := by
  induction attempt with
  | zero => simpa using advances.1
  | succ attempt inductionHypothesis =>
    have := advances.2 attempt
    unfold second at *
    push_cast
    omega

/-- On such a clock the attempt `⌊timeout / 1s⌋ + 1` ends the loop, if the loop gets there:
its clock reading is past the deadline. -/
theorem ProbeScript.not_retries_of_clockAdvances (advances : script.ClockAdvances)
    (timeout : Int) :
    ¬ script.Retries (script.start + timeout) ((timeout / second).toNat + 1) := by
  have late := script.start_add_le_clock advances ((timeout / second).toNat + 1)
  rintro ⟨-, within⟩
  unfold second at *
  omega

end Loop

/-! ### The stages of `main` -/

/-- The calls of `main` that reach the CSI driver. -/
def StartupCall.reachesDriver : StartupCall → Bool
  | .connect .. | .probe .. | .getDriverName => true
  | _ => false

theorem mem_probeCalls {script : ProbeScript} {attempts : Nat} {call : StartupCall}
    (member : call ∈ probeCalls script attempts) :
    ∃ attempt < attempts, call = .probe attempt (script.probe attempt) := by
  simpa [probeCalls, eq_comm] using member

/-- The `if *dummy` block: the trivial handler and no call in dummy mode; otherwise a
connection, the probes of `waitForDriverReady` up to one that succeeded, and the driver's
name. -/
theorem selectHandler_eq_ok {flags : AttacherFlags} {env : StartupEnvironment} {fuel : Nat}
    {attacherName : String} {handler : AttachHandler} {calls : List StartupCall}
    (selected : selectHandler flags env fuel = some (.ok (attacherName, handler), calls)) :
    (flags.dummy = true ∧ attacherName = dummyAttacherName ∧ handler = .trivial ∧ calls = []) ∨
      (flags.dummy = false ∧ env.connect flags.csiAddress flags.connectionTimeout = .ok () ∧
        ∃ attempts, waitForDriverReady env.probes flags.connectionTimeout fuel =
            some (.ok (), attempts) ∧
          env.getDriverName = .ok attacherName ∧ handler = .csi attacherName flags.timeout .csi ∧
          calls = .connect flags.csiAddress flags.connectionTimeout ::
            (probeCalls env.probes attempts ++ [.getDriverName])) := by
  unfold selectHandler at selected
  cases dummy : flags.dummy
  case true =>
    simp only [dummy, if_true, Option.some.injEq, Prod.mk.injEq, Except.ok.injEq] at selected
    obtain ⟨⟨rfl, rfl⟩, rfl⟩ := selected
    exact .inl ⟨rfl, rfl, rfl, rfl⟩
  simp only [dummy, Bool.false_eq_true, if_false] at selected
  cases connected : env.connect flags.csiAddress flags.connectionTimeout with
  | error err => simp [connected] at selected
  | ok _ =>
    cases waited : waitForDriverReady env.probes flags.connectionTimeout fuel with
    | none => simp [connected, waited] at selected
    | some waitedRun =>
      obtain ⟨ready, attempts⟩ := waitedRun
      cases ready with
      | error err => simp [connected, waited] at selected
      | ok _ =>
        cases named : env.getDriverName with
        | error err => simp [connected, waited, named] at selected
        | ok name =>
          simp only [connected, waited, named, Option.map_some', Option.some.injEq,
            Prod.mk.injEq, Except.ok.injEq] at selected
          obtain ⟨⟨rfl, rfl⟩, rfl⟩ := selected
          exact .inr ⟨rfl, rfl, attempts, rfl, rfl, rfl, rfl⟩

/-- Every call of the `if *dummy` block reaches the driver. -/
theorem reachesDriver_of_selectHandler {flags : AttacherFlags} {env : StartupEnvironment}
    {fuel : Nat} {selected : Except String (String × AttachHandler)} {calls : List StartupCall}
    (selection : selectHandler flags env fuel = some (selected, calls)) :
    ∀ call ∈ calls, call.reachesDriver = true := by
  unfold selectHandler at selection
  cases dummy : flags.dummy
  case true =>
    simp only [dummy, if_true, Option.some.injEq, Prod.mk.injEq] at selection
    simp [← selection.2]
  simp only [dummy, Bool.false_eq_true, if_false] at selection
  cases connected : env.connect flags.csiAddress flags.connectionTimeout with
  | error err =>
    simp only [connected, Option.some.injEq, Prod.mk.injEq] at selection
    simp [← selection.2, StartupCall.reachesDriver]
  | ok _ =>
    cases waited : waitForDriverReady env.probes flags.connectionTimeout fuel with
    | none => simp [connected, waited] at selection
    | some waitedRun =>
      obtain ⟨ready, attempts⟩ := waitedRun
      have probed : ∀ call ∈ StartupCall.connect flags.csiAddress flags.connectionTimeout ::
          probeCalls env.probes attempts, call.reachesDriver = true := by
        rintro call (_ | ⟨_, member⟩)
        · rfl
        · obtain ⟨_, _, rfl⟩ := mem_probeCalls member
          rfl
      have named : ∀ call ∈ StartupCall.connect flags.csiAddress flags.connectionTimeout ::
          probeCalls env.probes attempts ++ [.getDriverName], call.reachesDriver = true :=
        List.forall_mem_append.mpr ⟨probed, by simp [StartupCall.reachesDriver]⟩
      simp only [connected, waited, Option.map_some', Option.some.injEq] at selection
      split at selection <;> [skip; split at selection] <;>
        simp only [Prod.mk.injEq] at selection <;> rw [← selection.2] <;> assumption

/-- The `if *dummy` block gives the same answer whatever fuel it is given, once it returns. -/
theorem selectHandler_agree {flags : AttacherFlags} {env : StartupEnvironment} {fuel fuel' : Nat}
    {selected selected' : Except String (String × AttachHandler) × List StartupCall}
    (selection : selectHandler flags env fuel = some selected)
    (selection' : selectHandler flags env fuel' = some selected') : selected = selected' := by
  unfold selectHandler at selection selection'
  cases dummy : flags.dummy
  case true =>
    simp only [dummy, if_true, Option.some.injEq] at selection selection'
    exact selection.symm.trans selection'
  simp only [dummy, Bool.false_eq_true, if_false] at selection selection'
  cases connected : env.connect flags.csiAddress flags.connectionTimeout with
  | error err =>
    simp only [connected, Option.some.injEq] at selection selection'
    exact selection.symm.trans selection'
  | ok _ =>
    simp only [connected] at selection selection'
    obtain ⟨ended, waited, rfl⟩ := Option.map_eq_some'.mp selection
    obtain ⟨ended', waited', rfl⟩ := Option.map_eq_some'.mp selection'
    rw [waitForDriverReadyFrom_agree waited waited']

/-- The `if *enableLeaderElection` block lets `main` go on only with both flags set, after
waiting for the lock named after the driver; without leader election it makes no call. -/
theorem electLeader_eq_ok {flags : AttacherFlags} {env : StartupEnvironment}
    {attacherName : String} {calls : List StartupCall}
    (elected : electLeader flags env attacherName = some (.ok calls)) :
    (flags.enableLeaderElection = true →
      flags.leaderElectionNamespace ≠ "" ∧ flags.leaderElectionIdentity ≠ "" ∧
        calls = [.waitForLeader flags.leaderElectionNamespace flags.leaderElectionIdentity
          ("external-attacher-leader-" ++ attacherName)]) ∧
      (flags.enableLeaderElection = false → calls = []) := by
  unfold electLeader at elected
  split at elected
  case isFalse disabled => exact ⟨fun enabled => absurd enabled disabled,
    fun _ => (Except.ok.inj (Option.some.inj elected)).symm⟩
  case isTrue enabled =>
    refine ⟨fun _ => ?_, fun disabled => by simp [disabled] at enabled⟩
    split at elected
    · cases elected
    split at elected
    · cases elected
    case isFalse noNamespace noIdentity =>
      dsimp only at elected
      split at elected
      · exact ⟨noNamespace, noIdentity, (Except.ok.inj (Option.some.inj elected)).symm⟩
      · cases elected

/-- The block never ends only for a standby replica: leader election on, both flags set, and
a lock this replica is never given. -/
theorem electLeader_eq_none {flags : AttacherFlags} {env : StartupEnvironment}
    {attacherName : String} (blocked : electLeader flags env attacherName = none) :
    flags.enableLeaderElection = true ∧ flags.leaderElectionNamespace ≠ "" ∧
      flags.leaderElectionIdentity ≠ "" ∧
      env.becomesLeader flags.leaderElectionNamespace flags.leaderElectionIdentity
        ("external-attacher-leader-" ++ attacherName) = false := by
  unfold electLeader at blocked
  split at blocked
  case isFalse => cases blocked
  case isTrue enabled =>
    split at blocked
    · cases blocked
    split at blocked
    · cases blocked
    case isFalse noNamespace noIdentity =>
      dsimp only at blocked
      split at blocked
      · cases blocked
      case isFalse never => exact ⟨enabled, noNamespace, noIdentity, by simpa using never⟩

/-- The shapes of a run of `main`: it does not end, while the driver is probed or in the wait
for a lock this replica is never given; it stops before the driver is chosen with no call; it
stops in or after the `if *dummy` block with that block's calls; or it runs the controller
after them, the wait for the lock, and the start of the informers of `factory`. -/
theorem main_cases (flags : AttacherFlags) (env : StartupEnvironment) (fuel : Nat) :
    (main flags env fuel = none ∧
        (selectHandler flags env fuel = none ∨
          ∃ attacherName handler handlerCalls,
            selectHandler flags env fuel = some (.ok (attacherName, handler), handlerCalls) ∧
            electLeader flags env attacherName = none)) ∨
      (∃ run, main flags env fuel = some run ∧ run.calls = [] ∧
        ∀ controller, run.outcome ≠ .running controller) ∨
      (∃ selected handlerCalls run,
        selectHandler flags env fuel = some (selected, handlerCalls) ∧
        main flags env fuel = some run ∧ run.calls = handlerCalls ∧
        ∀ controller, run.outcome ≠ .running controller) ∨
      ∃ attacherName handler handlerCalls leaderCalls,
        selectHandler flags env fuel = some (.ok (attacherName, handler), handlerCalls) ∧
        electLeader flags env attacherName = some (.ok leaderCalls) ∧
        main flags env fuel = some ⟨.running ⟨attacherName, handler, threads⟩,
          handlerCalls ++ leaderCalls ++
            [.startInformers .core, .runController ⟨attacherName, handler, threads⟩]⟩ := by
  cases printsVersion : flags.showVersion
  case true =>
    exact .inr (.inl ⟨⟨.printedVersion (env.programName ++ " " ++ version), []⟩,
      by simp [main, printsVersion], rfl,
      fun _ running => nomatch running⟩)
  cases configured : buildConfig env flags.kubeconfig with
  | error err =>
    exact .inr (.inl ⟨⟨.exited err, []⟩, by simp [main, printsVersion, configured], rfl,
      fun _ running => nomatch running⟩)
  | ok config =>
  cases clients : env.newClientset config with
  | error err =>
    exact .inr (.inl ⟨⟨.exited err, []⟩, by simp [main, printsVersion, configured, clients], rfl,
      fun _ running => nomatch running⟩)
  | ok _ =>
  cases csiClients : env.newCSIClientset config with
  | error err =>
    exact .inr (.inl ⟨⟨.exited err, []⟩,
      by simp [main, printsVersion, configured, clients, csiClients], rfl,
      fun _ running => nomatch running⟩)
  | ok _ =>
  cases selection : selectHandler flags env fuel with
  | none =>
    exact .inl ⟨by simp [main, printsVersion, configured, clients, csiClients, selection],
      .inl rfl⟩
  | some selected =>
    obtain ⟨selected, handlerCalls⟩ := selected
    cases selected with
    | error err =>
      exact .inr (.inr (.inl ⟨_, _, ⟨.exited err, handlerCalls⟩, rfl,
        by simp [main, printsVersion, configured, clients, csiClients, selection], rfl,
        fun _ running => nomatch running⟩))
    | ok named =>
      obtain ⟨attacherName, handler⟩ := named
      cases elected : electLeader flags env attacherName with
      | none =>
        exact .inl ⟨by simp [main, printsVersion, configured, clients, csiClients, selection,
          elected], .inr ⟨attacherName, handler, handlerCalls, rfl, elected⟩⟩
      | some outcome =>
        cases outcome with
        | error message =>
          exact .inr (.inr (.inl ⟨_, _, ⟨.exited message, handlerCalls⟩, rfl,
            by simp [main, printsVersion, configured, clients, csiClients, selection, elected],
            rfl, fun _ running => nomatch running⟩))
        | ok leaderCalls =>
          exact .inr (.inr (.inr ⟨attacherName, handler, handlerCalls, leaderCalls, rfl, elected,
            by simp [main, printsVersion, configured, clients, csiClients, selection, elected]⟩))

/-- A standby replica never ends: once a run stops in the wait for a lock this replica is
never given, every run with any fuel does, since the stages before the wait do not depend on
the fuel. -/
theorem main_standby_never_ends {flags : AttacherFlags} {env : StartupEnvironment}
    {fuel : Nat} {attacherName : String} {handler : AttachHandler}
    {handlerCalls : List StartupCall} (stuck : main flags env fuel = none)
    (selection : selectHandler flags env fuel = some (.ok (attacherName, handler), handlerCalls))
    (blocked : electLeader flags env attacherName = none) (more : Nat) :
    main flags env more = none := by
  unfold main at stuck ⊢
  cases printsVersion : flags.showVersion
  case true => simp [printsVersion] at stuck
  cases configured : buildConfig env flags.kubeconfig with
  | error err => simp [printsVersion, configured] at stuck
  | ok config =>
  cases clients : env.newClientset config with
  | error err => simp [printsVersion, configured, clients] at stuck
  | ok _ =>
  cases csiClients : env.newCSIClientset config with
  | error err => simp [printsVersion, configured, clients, csiClients] at stuck
  | ok _ =>
  cases selection' : selectHandler flags env more with
  | none => simp [printsVersion, configured, clients, csiClients, selection']
  | some selected' =>
    obtain rfl := selectHandler_agree selection selection'
    simp [printsVersion, configured, clients, csiClients, selection', blocked]

/-! ### Every start of the attacher -/

section Startup

variable {flags : AttacherFlags} {env : StartupEnvironment} {fuel : Nat}

/-- `waitForDriverReady` returns nil only after a probe succeeded, and an error only once a
failed probe ended after the deadline `start + timeout`; every attempt before that one failed
with the clock still within the deadline. -/
theorem waitForDriverReady_eq_some {script : ProbeScript} {timeout : Int} {attempts : Nat}
    {result : Except String Unit}
    (returned : waitForDriverReady script timeout fuel = some (result, attempts)) :
    ∃ last, attempts = last + 1 ∧
      (∀ earlier < last, script.Retries (script.start + timeout) earlier) ∧
      script.Ends (script.start + timeout) last result := by
  obtain ⟨last, counted, -, -, retried, ends⟩ := waitForDriverReadyFrom_eq_some returned
  exact ⟨last, counted, fun earlier below => retried earlier (Nat.zero_le _) below, ends⟩

/-- A driver that fails its first probe, one second after the entry, and answers the
second. -/
def slowDriverProbes : ProbeScript :=
  { start := 0, probe := fun attempt => if attempt = 0 then some "not ready" else none,
    clock := fun attempt => (attempt + 1) * second }

theorem waitForDriverReady_eq_some_sample :
    waitForDriverReady slowDriverProbes (60 * second) 3 = some (.ok (), 2) ∧
      ∃ last, 2 = last + 1 ∧
        (∀ earlier < last,
          slowDriverProbes.Retries (slowDriverProbes.start + 60 * second) earlier) ∧
        slowDriverProbes.Ends (slowDriverProbes.start + 60 * second) last (.ok ()) :=
  ⟨rfl, @waitForDriverReady_eq_some 3 slowDriverProbes (60 * second) 2 (.ok ()) rfl⟩

/-- A run of `main` that reaches the attach controller: the controller has ten workers and is
the last call; in dummy mode it has the trivial handler and `main` made no call to the driver;
otherwise the driver answered a probe, and the controller carries the name it gave and the CSI
handler; and with leader election both flags are set and `main` waited for the lock named
after the driver. -/
theorem main_runs_controller_after_checks {run : StartupRun} {controller : AttachController}
    (started : main flags env fuel = some run) (running : run.outcome = .running controller) :
    controller.workers = threads ∧ run.calls.getLast? = some (.runController controller) ∧
      (flags.dummy = true → controller.attacherName = dummyAttacherName ∧
        controller.handler = .trivial ∧ ∀ call ∈ run.calls, call.reachesDriver = false) ∧
      (flags.dummy = false → ∃ attempt, .probe attempt none ∈ run.calls ∧
        env.getDriverName = .ok controller.attacherName ∧
        controller.handler = .csi controller.attacherName flags.timeout .csi) ∧
      (flags.enableLeaderElection = true → flags.leaderElectionNamespace ≠ "" ∧
        flags.leaderElectionIdentity ≠ "" ∧
        .waitForLeader flags.leaderElectionNamespace flags.leaderElectionIdentity
          ("external-attacher-leader-" ++ controller.attacherName) ∈ run.calls) := by
  rcases main_cases flags env fuel with ⟨stuck, -⟩ | ⟨other, ended, -, notRunning⟩ |
    ⟨-, -, other, -, ended, -, notRunning⟩ |
    ⟨attacherName, handler, handlerCalls, leaderCalls, selected, elected, ended⟩
  · exact nomatch started.symm.trans stuck
  · cases started.symm.trans ended
    exact absurd running (notRunning controller)
  · cases started.symm.trans ended
    exact absurd running (notRunning controller)
  cases started.symm.trans ended
  cases running
  have leader := electLeader_eq_ok elected
  have leaderCallsQuiet : ∀ call ∈ leaderCalls, call.reachesDriver = false := by
    cases enabled : flags.enableLeaderElection
    · simp [leader.2 enabled]
    · simp [(leader.1 enabled).2.2, StartupCall.reachesDriver]
  refine ⟨rfl, by simp, fun dummy => ?_, fun notDummy => ?_, fun enabled => ?_⟩
  · rcases selectHandler_eq_ok selected with ⟨-, rfl, rfl, rfl⟩ | ⟨notDummy, -⟩
    · refine ⟨rfl, rfl, fun call member => ?_⟩
      simp only [List.nil_append, List.mem_append, List.mem_cons, List.mem_singleton,
        List.not_mem_nil, or_false] at member
      rcases member with member | rfl | rfl
      · exact leaderCallsQuiet call member
      all_goals rfl
    · simp [dummy] at notDummy
  · rcases selectHandler_eq_ok selected with ⟨dummy, -⟩ | ⟨-, -, attempts, waited, named, rfl, rfl⟩
    · simp [dummy] at notDummy
    obtain ⟨last, rfl, -, ends⟩ := waitForDriverReady_eq_some waited
    have answered : env.probes.probe last = none := by
      rcases ends with ⟨answered, -⟩ | ⟨_, _, _, failed⟩
      · exact answered
      · cases failed
    refine ⟨last, ?_, named, rfl⟩
    have probed : StartupCall.probe last none ∈ probeCalls env.probes (last + 1) := by
      simp only [probeCalls, List.mem_map, List.mem_range, StartupCall.probe.injEq]
      exact ⟨last, by omega, rfl, answered⟩
    simp [probed]
  · obtain ⟨namespaced, identified, rfl⟩ := leader.1 enabled
    exact ⟨namespaced, identified, by simp⟩

/-- A driver that answers its second probe, in a cluster where this replica is elected. -/
def sampleAttacherEnvironment : StartupEnvironment :=
  { programName := "csi-attacher", buildConfigFromFlags := fun _ => .error "no kubeconfig",
    inClusterConfig := .ok ⟨"https://kubernetes.default.svc"⟩,
    newClientset := fun _ => .ok (), newCSIClientset := fun _ => .ok (),
    connect := fun _ _ => .ok (), probes := slowDriverProbes, getDriverName := .ok "csi-lvm",
    becomesLeader := fun _ _ _ => true }

/-- The flags of an attacher that connects to the driver and runs with leader election. -/
def sampleAttacherFlags : AttacherFlags :=
  { kubeconfig := "", connectionTimeout := 60 * second, csiAddress := "/run/csi/socket",
    dummy := false, showVersion := false, timeout := 15 * second,
    enableLeaderElection := true, leaderElectionNamespace := "kube-system",
    leaderElectionIdentity := "csi-attacher-0" }

theorem main_runs_controller_after_checks_sample :
    ∃ run controller, main sampleAttacherFlags sampleAttacherEnvironment 3 = some run ∧
      run.outcome = .running controller ∧
      controller.workers = threads ∧ run.calls.getLast? = some (.runController controller) ∧
      (sampleAttacherFlags.dummy = true → controller.attacherName = dummyAttacherName ∧
        controller.handler = .trivial ∧ ∀ call ∈ run.calls, call.reachesDriver = false) ∧
      (sampleAttacherFlags.dummy = false → ∃ attempt, .probe attempt none ∈ run.calls ∧
        sampleAttacherEnvironment.getDriverName = .ok controller.attacherName ∧
        controller.handler = .csi controller.attacherName sampleAttacherFlags.timeout .csi) ∧
      (sampleAttacherFlags.enableLeaderElection = true →
        sampleAttacherFlags.leaderElectionNamespace ≠ "" ∧
        sampleAttacherFlags.leaderElectionIdentity ≠ "" ∧
        .waitForLeader sampleAttacherFlags.leaderElectionNamespace
          sampleAttacherFlags.leaderElectionIdentity
          ("external-attacher-leader-" ++ controller.attacherName) ∈ run.calls) :=
  ⟨_, _, rfl, rfl,
    @main_runs_controller_after_checks sampleAttacherFlags sampleAttacherEnvironment 3 _ _ rfl rfl⟩

/-- The `if *dummy` block ends, on a clock that advances by the second slept, once given
`⌊connectionTimeout / 1s⌋ + 2` probes, and probes no attempt past them. -/
theorem selectHandler_returns (advances : env.probes.ClockAdvances)
    (enough : (flags.connectionTimeout / second).toNat + 2 ≤ fuel) :
    ∃ selected calls, selectHandler flags env fuel = some (selected, calls) ∧
      ∀ attempt err, .probe attempt err ∈ calls →
        attempt < (flags.connectionTimeout / second).toNat + 2 := by
  unfold selectHandler
  cases dummy : flags.dummy
  case true => exact ⟨_, _, rfl, by simp⟩
  simp only [Bool.false_eq_true, if_false]
  cases connected : env.connect flags.csiAddress flags.connectionTimeout with
  | error err => exact ⟨_, _, rfl, by simp⟩
  | ok _ =>
    obtain ⟨result, attempts, waited, bounded⟩ :=
      @waitForDriverReadyFrom_returns env.probes (env.probes.start + flags.connectionTimeout)
        ((flags.connectionTimeout / second).toNat + 1) fuel 0
        (env.probes.not_retries_of_clockAdvances advances flags.connectionTimeout)
        (Nat.zero_le _) (by omega)
    have probesBounded : ∀ attempt err,
        StartupCall.probe attempt err ∈ probeCalls env.probes attempts →
          attempt < (flags.connectionTimeout / second).toNat + 2 := fun attempt err member => by
      obtain ⟨_, below, same⟩ := mem_probeCalls member
      cases same
      omega
    simp only [waitForDriverReady, waited, Option.map_some']
    cases result with
    | error err => exact ⟨_, _, rfl, by simpa [or_imp, forall_and] using probesBounded⟩
    | ok _ =>
      cases named : env.getDriverName <;> simp only [named] <;>
        exact ⟨_, _, rfl, by simpa [or_imp, forall_and] using probesBounded⟩

end Startup

end CsiLvm.Attacher
