import Ravel.Bgp.Types

/-! The bgp worker as goroutines over the shared fields of bgpserver: periodic() reconcile
loops, watches() loops, and the owner calling Start() and Stop(). A step is one statement of
the source that touches those fields or calls out; steps of all goroutines interleave in any
order, timers fire at any step, and every external call may return any result.
-/

namespace Ravel.Bgp

/-- The next statement of a configure() (v4) or configure6() (v6) run that touches b or
calls out: `loops` holds the Del and Add calls setAddresses still has to make.
-/
inductive ConfigurePc
  | getDevices
  | compare (configured : List String)
  | loops (pending : List Call)
  | setMtu
  | bgpGet
  | bgpSet (configured : List String)
  | setIpvs
  | stamp
  deriving DecidableEq, Repr

/-- The two ways periodic() reconciles: the 30 s reconfigureTicker case and the 2 s
bgpTicker case, which goes through performReconfigure.
-/
inductive Task
  | forced
  | fast
  deriving DecidableEq, Repr

/-- Where a periodic() goroutine stands. `select watch` waits in the select having read
`b.ctxWatch = watch`; `parity addresses` holds the devices Get returned and is at
configReady(); `checkParity addresses newConfig` has taken the flag and is at the
CheckConfigParity call; `sendDone` blocks on `b.doneChan <- struct{}{}`.
-/
inductive PeriodicPc
  | top
  | select (watch : Nat)
  | checkReady
  | observe
  | parity (addresses : List String)
  | checkParity (addresses : List String) (newConfig : Bool)
  | reconcile (task : Task) (fam : Family) (run : ConfigurePc)
  | sendDone
  | exited
  deriving DecidableEq, Repr

/-- Where a watches() goroutine stands. -/
inductive WatchesPc
  | top
  | select (watch : Nat)
  | exited
  deriving DecidableEq, Repr

/-- Where the owner of the worker stands: before Start or after Stop returned, after Start
returned, inside Stop waiting on doneChan or the 5 s timer, and inside cleanup.
-/
inductive OwnerPc
  | stopped
  | started
  | waiting
  | cleaning
  deriving DecidableEq, Repr

/-- The fields of bgpserver the goroutines share, the clock read by time.Now(), and the
world they act on: `crashed` records a nil dereference of `b.config`, which panics the
process, and `calls` the calls made to the outside world.
-/
structure Shared where
  config : Option ClusterConfig
  nodes : NodesList
  newConfig : Bool
  lastInboundUpdate : Nat
  lastReconfigure : Nat
  clock : Nat
  crashed : Bool
  calls : List Call
  deriving DecidableEq, Repr

/-- The shared fields with the contexts and every goroutine's position. Watch contexts are
numbered by the Start that created them.
-/
structure Server extends Shared where
  ctxWatch : Nat
  cancelled : List Nat
  rootDone : Bool
  periodic : List PeriodicPc
  watches : List WatchesPc
  owner : OwnerPc
  deriving DecidableEq, Repr

/-- The worker as NewBGPWorker returns it: `config` is nil, the time stamps are zero. -/
def Server.initial : Server where
  config := none
  nodes := []
  newConfig := false
  lastInboundUpdate := 0
  lastReconfigure := 0
  clock := 0
  crashed := false
  calls := []
  ctxWatch := 0
  cancelled := []
  rootDone := false
  periodic := []
  watches := []
  owner := .stopped

/-- noUpdatesReady: `b.lastReconfigure.Sub(b.lastInboundUpdate) > 0`. -/
def Server.noUpdatesReady (s : Server) : Bool := s.lastInboundUpdate < s.lastReconfigure

/-- The watch context `watch` is done: its cxlWatch ran, or its parent `b.ctx` ended. -/
def Server.watchDone (s : Server) (watch : Nat) : Bool := watch ∈ s.cancelled || s.rootDone

-----------------------------------------------------------------------------------------
-- What a goroutine writes
-----------------------------------------------------------------------------------------

/-- The writes of a periodic() step or of cleanup to the shared fields: a call made,
configReady() clearing `newConfig` under the mutex, the stamp at the end of configure(), and
a nil dereference.
-/
inductive Effect
  | none
  | call (made : Call)
  | clearNewConfig
  | stamp
  | panic
  deriving DecidableEq, Repr

/-- The shared fields after an effect. -/
def Effect.apply (m : Shared) : Effect → Shared
  | .none => m
  | .call made => { m with calls := m.calls ++ [made] }
  | .clearNewConfig => { m with newConfig := false }
  | .stamp => { m with lastReconfigure := m.clock }
  | .panic => { m with crashed := true }

/-- What a watches() step writes under the mutex: nothing, a node list, or a ConfigMap,
which also raises `newConfig`. Both deliveries stamp `lastInboundUpdate`.
-/
inductive Delivery
  | none
  | nodes (list : NodesList)
  | config (delivered : ClusterConfig)
  deriving DecidableEq, Repr

/-- The shared fields after a delivery. -/
def Delivery.apply (m : Shared) : Delivery → Shared
  | .none => m
  | .nodes list => { m with nodes := list, lastInboundUpdate := m.clock }
  | .config delivered =>
      { m with config := some delivered, newConfig := true, lastInboundUpdate := m.clock }

/-- Read `b.config` for `use`; a nil config panics. -/
def readConfig {α : Type} (config : Option ClusterConfig) (stay : α)
    (use : ClusterConfig → α × Effect) : α × Effect :=
  match config with
  | none => (stay, .panic)
  | some config => use config

-----------------------------------------------------------------------------------------
-- One step of a goroutine
-----------------------------------------------------------------------------------------

/-- What an external call returns. -/
inductive Reply
  | err
  | ok
  | devices (v4 v6 : List String)
  | addrs (configured : List String)
  | parity (same : Bool)
  deriving DecidableEq, Repr

/-- The result of a call that only returns an error. -/
def Reply.status : Reply → Option Bool
  | .ok => some true
  | .err => some false
  | _ => none

/-- The choice the environment makes at a periodic() step: a statement that decides alone,
a select case (a ticker, `b.ctx.Done()`, `b.ctxWatch.Done()`), or a call's result.
-/
inductive PeriodicAct
  | run
  | queueDepthTick
  | reconfigureTick
  | bgpTick
  | done
  | watchDone
  | reply (reply : Reply)
  deriving DecidableEq, Repr

/-- How a configure step ends: at the next statement, or returning nil (`true`) or an
error.
-/
inductive Progress
  | next (run : ConfigurePc)
  | returned (ok : Bool)
  deriving DecidableEq, Repr

/-- Where configure goes after SetMTU: bgp.Get for v4; configure6 announces without it. -/
def Family.afterMtu : Family → ConfigurePc
  | .v4 => .bgpGet
  | .v6 => .bgpSet []

/-- The announcement call: `b.bgp.Set(addrs, configuredAddrs)` or `b.bgp.SetV6(addrs)`. -/
def Family.announce (fam : Family) (addrs configured : List String) : Call :=
  match fam with
  | .v4 => .bgpSet addrs configured
  | .v6 => .bgpSetV6 addrs

/-- Where configure goes after SetIPVS: the stamp for v4; configure6 returns nil. -/
def Family.afterIpvs : Family → Progress
  | .v4 => .next .stamp
  | .v6 => .returned true

/-- One step of a configure() or configure6() run, reading `s` and returning its effect. -/
def configureStep (helpers : Helpers) (fam : Family) (s : Server)
    : ConfigurePc → PeriodicAct → Option (Progress × Effect)
  | .getDevices, .reply .err => some (.returned false, .call .get)
  | .getDevices, .reply (.devices v4 v6) =>
      some (.next (.compare (fam.observed v4 v6)), .call .get)
  | .compare configured, .run =>
      some <| readConfig s.config (.next (.compare configured)) fun config =>
        (.next (.loops (fam.diffCalls helpers config configured)), .none)
  | .loops (call :: rest), .reply reply =>
      reply.status.map fun ok => (if ok then .next (.loops rest) else .returned false, .call call)
  | .loops [], .run => some (.next .setMtu, .none)
  | .setMtu, .reply reply =>
      reply.status.map fun ok => readConfig s.config (.next .setMtu) fun config =>
        (if ok then .next fam.afterMtu else .returned false, .call (.setMtu (fam.mtu config) fam.isV6))
  | .bgpGet, .reply .err => some (.returned false, .call .bgpGet)
  | .bgpGet, .reply (.addrs configured) => some (.next (.bgpSet configured), .call .bgpGet)
  | .bgpSet configured, .reply reply =>
      reply.status.map fun ok => readConfig s.config (.next (.bgpSet configured)) fun config =>
        (if ok then .next .setIpvs else .returned false,
          .call (fam.announce (fam.vips config) configured))
  | .setIpvs, .reply reply =>
      reply.status.map fun ok =>
        (if ok then fam.afterIpvs else .returned false, .call (.setIpvs s.nodes s.config fam.isV6))
  | .stamp, .run => some (.returned true, .stamp)
  | _, _ => none

/-- Where periodic() goes when a configure run returns: the forced case runs configure6
after configure whatever the result; performReconfigure returns on a failed configure.
-/
def Task.after : Task → Family → Bool → PeriodicPc
  | .forced, .v4, _ => .reconcile .forced .v6 .getDevices
  | .forced, .v6, _ => .top
  | .fast, .v4, true => .reconcile .fast .v6 .getDevices
  | .fast, .v4, false => .top
  | .fast, .v6, _ => .top

/-- A step of periodic() inside configure() or configure6(); when the run returns, the task
decides where the goroutine goes.
-/
def reconcileStep (helpers : Helpers) (s : Server) (task : Task) (fam : Family)
    (run : ConfigurePc) (act : PeriodicAct) : Option (PeriodicPc × Effect) :=
  (configureStep helpers fam s run act).map fun (progress, effect) =>
    match progress with
    | .next run => (.reconcile task fam run, effect)
    | .returned ok => (task.after fam ok, effect)

/-- One step of a periodic() goroutine at `pc`, reading `s`. In
`CheckConfigParity(b.nodes, b.config, addresses, b.configReady())` configReady() is a step of
its own, the lock, test-and-clear and unlock of the flag; `b.nodes` and `b.config` are read
at the call after it, as gc orders operands that are not calls after the calls.
-/
def periodicStep (helpers : Helpers) (s : Server)
    : PeriodicPc → PeriodicAct → Option (PeriodicPc × Effect)
  | .top, .run => some (.select s.ctxWatch, .none)
  | .select _, .queueDepthTick => some (.top, .none)
  | .select _, .reconfigureTick => some (.reconcile .forced .v4 .getDevices, .none)
  | .select _, .bgpTick => some (.checkReady, .none)
  | .select _, .done => if s.rootDone then some (.sendDone, .none) else none
  | .select watch, .watchDone => if s.watchDone watch then some (.exited, .none) else none
  | .checkReady, .run => some (if s.noUpdatesReady then .top else .observe, .none)
  | .observe, .reply .err => some (.top, .call .get)
  | .observe, .reply (.devices v4 v6) => some (.parity (v4 ++ v6), .call .get)
  | .parity addresses, .run => some (.checkParity addresses s.newConfig, .clearNewConfig)
  | .checkParity addresses newConfig, .reply reply =>
      let call := Call.checkConfigParity s.nodes s.config addresses newConfig
      match reply with
      | .err => some (.top, .call call)
      | .parity true => some (.top, .call call)
      | .parity false => some (.reconcile .fast .v4 .getDevices, .call call)
      | _ => none
  | .reconcile task fam run, act => reconcileStep helpers s task fam run act
  | _, _ => none

/-- The choice the environment makes at a watches() step. A ConfigMap on configChan is a
`ClusterConfig`, never nil: a nil one would panic in the debug loop over `configs.Config`
before `b.config` is written.
-/
inductive WatchesAct
  | run
  | nodes (nodes : NodesList)
  | config (config : ClusterConfig)
  | done
  | watchDone
  deriving DecidableEq, Repr

/-- One step of a watches() goroutine at `pc`: a node list NodesEqual to `b.nodes` is
dropped; a delivery is written under the mutex as one step.
-/
def watchesStep (helpers : Helpers) (s : Server)
    : WatchesPc → WatchesAct → Option (WatchesPc × Delivery)
  | .top, .run => some (.select s.ctxWatch, .none)
  | .select _, .nodes nodes =>
      some (.top, if helpers.nodesEqual s.nodes nodes then .none else .nodes nodes)
  | .select _, .config config => some (.top, .config config)
  | .select _, .done => if s.rootDone then some (.exited, .none) else none
  | .select watch, .watchDone => if s.watchDone watch then some (.exited, .none) else none
  | _, _ => none

-----------------------------------------------------------------------------------------
-- The whole system
-----------------------------------------------------------------------------------------

/-- One step of the system: the owner's Start, Stop and the two ways Stop's select wakes
(the 5 s timer, or a periodic goroutine's send on doneChan), cleanup's Teardown, the end of
`b.ctx`, time passing, or a step of the `i`-th periodic or watches goroutine.
-/
inductive Label
  | start
  | stop
  | timeout
  | receiveDone (i : Nat)
  | cleanup (reply : Reply)
  | cancelRoot
  | advance (ticks : Nat)
  | periodic (i : Nat) (act : PeriodicAct)
  | watches (i : Nat) (act : WatchesAct)
  deriving DecidableEq, Repr

/-- A step, or `none` when the label cannot be taken; a crashed process takes no step.
Start runs setup, which replaces `b.ctxWatch`, and spawns watches() and periodic(); Stop
calls `b.cxlWatch()`; cleanup reads `b.config` for Teardown.
-/
def Server.step (helpers : Helpers) (s : Server) (label : Label) : Option Server :=
  if s.crashed then none
  else
    match label with
    | .start =>
        if s.owner = .stopped then
          some { s with
            ctxWatch := s.ctxWatch + 1, owner := .started,
            watches := s.watches ++ [.top], periodic := s.periodic ++ [.top] }
        else none
    | .stop =>
        if s.owner = .started then
          some { s with cancelled := s.ctxWatch :: s.cancelled, owner := .waiting }
        else none
    | .timeout => if s.owner = .waiting then some { s with owner := .cleaning } else none
    | .receiveDone i =>
        if s.owner = .waiting ∧ s.periodic[i]? = some .sendDone then
          some { s with owner := .cleaning, periodic := s.periodic.set i .exited }
        else none
    | .cleanup reply =>
        if s.owner = .cleaning ∧ reply.status.isSome then
          let teardown := readConfig s.config () fun config =>
            ((), .call (.teardown config.config config.config6))
          some { s with toShared := teardown.2.apply s.toShared, owner := .stopped }
        else none
    | .cancelRoot => some { s with rootDone := true }
    | .advance ticks => some { s with clock := s.clock + ticks }
    | .periodic i act =>
        match s.periodic[i]? with
        | some pc =>
            (periodicStep helpers s pc act).map fun (pc, effect) =>
              { s with toShared := effect.apply s.toShared, periodic := s.periodic.set i pc }
        | none => none
    | .watches i act =>
        match s.watches[i]? with
        | some pc =>
            (watchesStep helpers s pc act).map fun (pc, delivery) =>
              { s with toShared := delivery.apply s.toShared, watches := s.watches.set i pc }
        | none => none

/-- The state after a sequence of steps, if each can be taken. -/
def Server.exec (helpers : Helpers) (s : Server) : List Label → Option Server
  | [] => some s
  | label :: rest => (s.step helpers label).bind (·.exec helpers rest)

/-- The states the worker can reach from NewBGPWorker. -/
def Server.Reachable (helpers : Helpers) (s : Server) : Prop :=
  ∃ labels, Server.initial.exec helpers labels = some s

end Ravel.Bgp
