/-
Module: CsiLvm.Attacher.Main
Purpose: `cmd/attacher/main.go`, the start of the external attacher: the parsed flags, the
  readiness loop `waitForDriverReady` against its deadline, and `main` from the client
  configuration to the start of the attach controller, with the calls it makes to the CSI
  driver and the cluster.
Trusted boundary: the libraries `main` calls are given by their outcomes, as the object store
  and the driver are for `Provision`; `time.Now()` by one clock reading per attempt, in
  nanoseconds; `waitForLeader`, whose body is not in the repository's source, by whether this
  replica is ever elected for the lock: the call returns then, and blocks for good otherwise.
Main exports: AttacherFlags, defaultAttacherFlags, ProbeScript, waitForDriverReady,
  StartupEnvironment, StartupCall, StartupRun,
  selectHandler, electLeader, main
-/
import CsiLvm.Lib.Runtime

namespace CsiLvm.Attacher

/-!
[SPEC src/cmd/attacher/main.go:38-205] `main` builds the client configuration and the two
clientsets, chooses the trivial handler (`-dummy`) or connects to the driver, waits until it
answers a probe and asks its name, checks the leader-election flags, and starts the informers
and the controller. Every failing step logs its error and exits with status 1.
-/

/-- `threads`: the workers of the attach controller. -/
def threads : Nat := 10

/-- `dummyAttacherName`. -/
def dummyAttacherName : String := "csi/dummy"

/-- `version`, unless the build sets it with `-ldflags`. -/
def version : String := "unknown"

/-- `time.Second`, in nanoseconds. -/
def second : Int := 1000000000

/-- The flags `main` reads after `flag.Parse()`. Durations are in nanoseconds. -/
structure AttacherFlags where
  kubeconfig : String
  connectionTimeout : Int
  csiAddress : String
  dummy : Bool
  showVersion : Bool
  timeout : Int
  enableLeaderElection : Bool
  leaderElectionNamespace : String
  leaderElectionIdentity : String
deriving Repr, DecidableEq

/-- The flags when none is given on the command line: the defaults of the `flag` calls. -/
def defaultAttacherFlags : AttacherFlags where
  kubeconfig := ""
  connectionTimeout := 60 * second
  csiAddress := "/run/csi/socket"
  dummy := false
  showVersion := false
  timeout := 15 * second
  enableLeaderElection := false
  leaderElectionNamespace := ""
  leaderElectionIdentity := ""

/-! ### `waitForDriverReady` -/

/-- What `waitForDriverReady` observes: `time.Now()` on entry, the error the probe of each
attempt returns (`none` for nil), and `time.Now()` after each failed probe. -/
structure ProbeScript where
  start : Int
  probe : Nat → Option String
  clock : Nat → Int

/-- The text of the error `waitForDriverReady` returns once the deadline has passed. -/
def probeFailedMessage (err : String) : String :=
  "Failed to probe the attacher: " ++ err

/-- The `for` loop of `waitForDriverReady` from the attempt `attempt` on, for at most `fuel`
more attempts: its result and the number of attempts made, or `none` when the fuel runs out
before the loop returns. -/
def waitForDriverReadyFrom (script : ProbeScript) (finish : Int) : Nat → Nat →
    Option (Except String Unit × Nat)
  | 0, _ => none
  | fuel + 1, attempt =>
      match script.probe attempt with
      | none => some (.ok (), attempt + 1)
      | some err =>
          if finish < script.clock attempt then
            some (.error (probeFailedMessage err), attempt + 1)
          else waitForDriverReadyFrom script finish fuel (attempt + 1)

/-- `waitForDriverReady(csiConn, timeout)`, allowed `fuel` attempts: `finish` is the entry
time plus `timeout`, and the loop probes until a probe succeeds or a failed probe ends after
`finish`, sleeping a second between attempts. -/
def waitForDriverReady (script : ProbeScript) (timeout : Int) (fuel : Nat) :
    Option (Except String Unit × Nat) :=
  waitForDriverReadyFrom script (script.start + timeout) fuel 0

/-! ### `main` -/

/-- A `*rest.Config`: the cluster the clients talk to. -/
structure RestConfig where
  host : String
deriving Repr, DecidableEq

/-- The outcomes of the calls `main` makes outside its own code. -/
structure StartupEnvironment where
  /-- `os.Args[0]`. -/
  programName : String
  /-- `clientcmd.BuildConfigFromFlags("", kubeconfig)`. -/
  buildConfigFromFlags : String → Except String RestConfig
  /-- `rest.InClusterConfig()`. -/
  inClusterConfig : Except String RestConfig
  /-- `kubernetes.NewForConfig(config)`. -/
  newClientset : RestConfig → Except String Unit
  /-- `csiclient.NewForConfig(config)`. -/
  newCSIClientset : RestConfig → Except String Unit
  /-- `attacher.New(csiAddress, connectionTimeout)`. -/
  connect : String → Int → Except String Unit
  /-- What `waitForDriverReady` observes. -/
  probes : ProbeScript
  /-- `csiConn.GetDriverName(ctx)`. -/
  getDriverName : Except String String
  /-- Whether `waitForLeader(clientset, namespace, identity, lockName)` returns: it waits until
  this replica is elected for the lock, for good while another replica keeps it. -/
  becomesLeader : String → String → String → Bool

/-- The two informer factories of `main`: `factory`, over the core and storage APIs, and
`csiFactory`, over the csi-api objects (`CSINodeInfo`). -/
inductive InformerFactory where
  | core
  | csi
deriving Repr, DecidableEq

/-- The handler the controller attaches with. -/
inductive AttachHandler where
  /-- `attacher.NewTrivialHandler(clientset)`. -/
  | trivial
  /-- `attacher.NewCSIHandler(...)` for the driver `attacherName`, with the attach timeout
  `timeout`, reading `CSINodeInfo` objects through a lister of `nodeInfoInformers`. -/
  | csi (attacherName : String) (timeout : Int) (nodeInfoInformers : InformerFactory)
deriving Repr, DecidableEq

/-- `attacher.NewCSIAttachController(...)`, run with `threads` workers. -/
structure AttachController where
  attacherName : String
  handler : AttachHandler
  workers : Nat
deriving Repr, DecidableEq

/-- A call of `main` to the CSI driver or the cluster. -/
inductive StartupCall where
  | connect (address : String) (timeout : Int)
  | probe (attempt : Nat) (err : Option String)
  | getDriverName
  | waitForLeader («namespace» identity lockName : String)
  | startInformers (factory : InformerFactory)
  | runController (controller : AttachController)
deriving Repr, DecidableEq

/-- How `main` ends: it prints the version and returns, logs an error and exits with status
1, or runs the controller until the process is interrupted. -/
inductive StartupOutcome where
  | printedVersion (line : String)
  | exited (message : String)
  | running (controller : AttachController)
deriving Repr, DecidableEq

/-- The outcome of `main`, and its calls to the driver and the cluster in order. -/
structure StartupRun where
  outcome : StartupOutcome
  calls : List StartupCall

/-- The probes of the first `attempts` attempts, with their outcomes. -/
def probeCalls (script : ProbeScript) (attempts : Nat) : List StartupCall :=
  (List.range attempts).map fun attempt => .probe attempt (script.probe attempt)

/-- `buildConfig(kubeconfig)`: the kubeconfig file when one is named, the in-cluster
configuration otherwise. -/
def buildConfig (env : StartupEnvironment) (kubeconfig : String) : Except String RestConfig :=
  if kubeconfig ≠ "" then env.buildConfigFromFlags kubeconfig else env.inClusterConfig

/-- The `if *dummy` block of `main`: the driver's name and the handler, or the error that
stops `main`, with the calls made to the driver; `none` when the fuel runs out while the
driver is still being probed. -/
def selectHandler (flags : AttacherFlags) (env : StartupEnvironment) (fuel : Nat) :
    Option (Except String (String × AttachHandler) × List StartupCall) :=
  if flags.dummy then some (.ok (dummyAttacherName, .trivial), [])
  else
    let connected := [StartupCall.connect flags.csiAddress flags.connectionTimeout]
    match env.connect flags.csiAddress flags.connectionTimeout with
    | .error err => some (.error err, connected)
    | .ok () =>
        (waitForDriverReady env.probes flags.connectionTimeout fuel).map fun (ready, attempts) =>
          let probed := connected ++ probeCalls env.probes attempts
          match ready with
          | .error err => (.error err, probed)
          | .ok () =>
              -- the `csiFactory :=` of this block is its own variable, read by the
              -- handler's `nodeInfoLister` only
              match env.getDriverName with
              | .error err => (.error err, probed ++ [.getDriverName])
              | .ok attacherName =>
                  (.ok (attacherName, .csi attacherName flags.timeout .csi),
                    probed ++ [.getDriverName])

/-- The `if *enableLeaderElection` block of `main`: the message of the flag that is missing,
or the wait for the lock named after the driver, which returns once this replica is elected;
`none` when it never is, and `waitForLeader` blocks for good. -/
def electLeader (flags : AttacherFlags) (env : StartupEnvironment) (attacherName : String) :
    Option (Except String (List StartupCall)) :=
  if flags.enableLeaderElection then
    if flags.leaderElectionNamespace = "" then
      some (.error "-leader-election-namespace must not be empty")
    else if flags.leaderElectionIdentity = "" then
      some (.error "-leader-election-identity must not be empty")
    else
      let lockName := "external-attacher-leader-" ++ attacherName
      if env.becomesLeader flags.leaderElectionNamespace flags.leaderElectionIdentity lockName then
        some (.ok [.waitForLeader flags.leaderElectionNamespace flags.leaderElectionIdentity
          lockName])
      else none
  else some (.ok [])

/-- `main()` after `flag.Parse()`, allowed `fuel` probes of the driver; `none` when the fuel
runs out while the driver is still being probed, or when this replica waits for a lock it is
never given. The outer `csiFactory` is declared nil and never assigned, since the CSI branch
declares its own with `:=`, so only `factory` is started. -/
def main (flags : AttacherFlags) (env : StartupEnvironment) (fuel : Nat) :
    Option StartupRun :=
  if flags.showVersion then some ⟨.printedVersion (env.programName ++ " " ++ version), []⟩
  else
    match buildConfig env flags.kubeconfig with
    | .error err => some ⟨.exited err, []⟩
    | .ok config =>
    match env.newClientset config with
    | .error err => some ⟨.exited err, []⟩
    | .ok () =>
    match env.newCSIClientset config with
    | .error err => some ⟨.exited err, []⟩
    | .ok () =>
    let csiFactory : Option InformerFactory := none
    (selectHandler flags env fuel).bind fun (selected, handlerCalls) =>
      match selected with
      | .error err => some ⟨.exited err, handlerCalls⟩
      | .ok (attacherName, handler) =>
          (electLeader flags env attacherName).map fun elected =>
            match elected with
            | .error message => ⟨.exited message, handlerCalls⟩
            | .ok leaderCalls =>
                let controller : AttachController := ⟨attacherName, handler, threads⟩
                ⟨.running controller,
                  handlerCalls ++ leaderCalls ++ [.startInformers .core] ++
                    csiFactory.toList.map StartupCall.startInformers ++
                    [.runController controller]⟩

end CsiLvm.Attacher
