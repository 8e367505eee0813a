import Ravel.Bgp.Sequential
import Ravel.Bgp.Reconfigure

/-! A whole reconcile of periodic(), the forced 30 s tick or performReconfigure after drift,
against the sequential model of configure() and configure6(): run without interruption and
answered as the kernel model answers, with bgp.Get reporting what the BGP speaker announces,
it makes the calls of the sequential model, returns to the top of periodic()'s loop, and
stamps `lastReconfigure` exactly when configure() returned nil.
-/

namespace Ravel.Bgp

/-- The calls configure() or configure6() makes once setAddresses returned nil: bgp.Get,
which reports `announced`, and bgp.Set for v4, bgp.SetV6 for v6, then SetIPVS or SetIPVS6
with the nodes and the config.
-/
def Family.bgpCalls : Family → List String → NodesList → ClusterConfig → List Call
  | .v4, announced, nodes, config =>
      [.bgpGet, .bgpSet config.config announced, .setIpvs nodes (some config) false]
  | .v6, _, nodes, config => [.bgpSetV6 config.config6, .setIpvs nodes (some config) true]

/-- configure() (v4) and configure6() (v6) against the kernel model: setAddresses, then the
calls of `bgpCalls`, each returning its error at once. The flag is the returned error.
-/
def configureFor (fam : Family) (helpers : Helpers) (fails : Nat → Bool)
    (announced : List String) (nodes : NodesList) (config : ClusterConfig) (kernel : Loopback)
    : Loopback × Bool :=
  let loopback := setAddressesFor fam helpers fails config kernel
  if loopback.2 then loopback
  else loopback.1.issueAll helpers fails (fam.bgpCalls announced nodes config)

/-- configure(): the IPv4 VIPs of `b.config.Config`, announced beside what bgp.Get reports. -/
def configure (helpers : Helpers) (fails : Nat → Bool) (announced : List String)
    (nodes : NodesList) (config : ClusterConfig) (kernel : Loopback) : Loopback × Bool :=
  configureFor .v4 helpers fails announced nodes config kernel

/-- configure6(): the IPv6 VIPs of `b.config.Config6`; it makes no bgp.Get. -/
def configure6 (helpers : Helpers) (fails : Nat → Bool) (nodes : NodesList)
    (config : ClusterConfig) (kernel : Loopback) : Loopback × Bool :=
  configureFor .v6 helpers fails [] nodes config kernel

/-- The reconcile periodic() runs for `task`: configure(), then configure6(), which the
forced tick runs whatever configure() returned and performReconfigure only after it
returned nil. The flag says whether configure() returned nil.
-/
def reconcile (task : Task) (helpers : Helpers) (fails : Nat → Bool) (announced : List String)
    (nodes : NodesList) (config : ClusterConfig) (kernel : Loopback) : Loopback × Bool :=
  let v4 := configure helpers fails announced nodes config kernel
  if task = .fast ∧ v4.2 then (v4.1, false)
  else ((configure6 helpers fails nodes config v4.1).1, !v4.2)

/-- performReconfigure against the kernel model, from what it reads of b: nothing once
noUpdatesReady holds (`ready`); else ipDevices.Get(), returning on its error; then
CheckConfigParity over the devices of both families, passed the flag configReady() hands
over and answered `parity` (`none` for an error); on drift the reconcile of the fast path.
The two flags say whether `lastReconfigure` was stamped and whether configReady() took
`newConfig`.
-/
def performReconfigure (ready newConfig : Bool) (parity : Option Bool) (helpers : Helpers)
    (fails : Nat → Bool) (announced : List String) (nodes : NodesList) (config : ClusterConfig)
    (kernel : Loopback) : Loopback × Bool × Bool :=
  if ready then (kernel, false, false)
  else
    let got := kernel.issue helpers fails .get
    if got.2 then (got.1, false, false)
    else
      let checked := got.1.apply helpers (.checkConfigParity nodes (some config)
        (kernel.devices4 ++ kernel.devices6) newConfig)
      if parity = some false then
        let drift := reconcile .fast helpers fails announced nodes config checked
        (drift.1, drift.2, true)
      else (checked, false, true)

-----------------------------------------------------------------------------------------
-- The steps of a reconcile answered by the kernel model
-----------------------------------------------------------------------------------------

/-- Where reconcileStep sends the goroutine after a configure step. -/
def Task.resume (task : Task) (fam : Family) : Progress → PeriodicPc
  | .next run => .reconcile task fam run
  | .returned ok => task.after fam ok

/-- The steps periodic goroutine `i` takes after SetMTU, each call answered by the kernel
model and bgp.Get by `announced`, up to the first error: bgp.Get, bgp.Set, SetIPVS and the
stamp for v4; bgp.SetV6 and SetIPVS6 for v6.
-/
def bgpReplies (fam : Family) (helpers : Helpers) (fails : Nat → Bool) (announced : List String)
    (nodes : NodesList) (config : ClusterConfig) (kernel : Loopback) (i : Nat) : List Label :=
  match fam with
  | .v4 =>
      if fails kernel.calls.length then [.periodic i (.reply .err)]
      else
        let rest := (Family.v4.bgpCalls announced nodes config).tail
        .periodic i (.reply (.addrs announced)) ::
          ((kernel.apply helpers .bgpGet).replies helpers fails i rest
            ++ if ((kernel.apply helpers .bgpGet).issueAll helpers fails rest).2 then []
              else [.periodic i .run])
  | .v6 => kernel.replies helpers fails i (Family.v6.bgpCalls announced nodes config)

/-- The steps of a whole configure() or configure6() run answered by the kernel model. -/
def configureReplies (fam : Family) (helpers : Helpers) (fails : Nat → Bool)
    (announced : List String) (nodes : NodesList) (config : ClusterConfig) (kernel : Loopback)
    (i : Nat) : List Label :=
  setAddressesReplies fam helpers fails config kernel i
    ++ let loopback := setAddressesFor fam helpers fails config kernel
      if loopback.2 then [] else bgpReplies fam helpers fails announced nodes config loopback.1 i

/-- The steps of a whole reconcile answered by the kernel model: configure(), then
configure6() where the task runs it.
-/
def reconcileReplies (task : Task) (helpers : Helpers) (fails : Nat → Bool)
    (announced : List String) (nodes : NodesList) (config : ClusterConfig) (kernel : Loopback)
    (i : Nat) : List Label :=
  configureReplies .v4 helpers fails announced nodes config kernel i
    ++ let v4 := configure helpers fails announced nodes config kernel
      if task = .fast ∧ v4.2 then []
      else configureReplies .v6 helpers fails [] nodes config v4.1 i

/-- What CheckConfigParity answers: parity or drift, or an error. -/
def parityReply : Option Bool → Reply
  | some same => .parity same
  | none => .err

/-- The steps of the 2 s tick's performReconfigure answered by the kernel model, with
CheckConfigParity answering `parity`: noUpdatesReady, Get, CheckConfigParity, and on drift
the reconcile of the fast path.
-/
def performReconfigureReplies (ready newConfig : Bool) (parity : Option Bool)
    (helpers : Helpers) (fails : Nat → Bool) (announced : List String) (nodes : NodesList)
    (config : ClusterConfig) (kernel : Loopback) (i : Nat) : List Label :=
  .periodic i .run ::
    if ready then []
    else if fails kernel.calls.length then [.periodic i (.reply .err)]
    else
      .periodic i (.reply (.devices kernel.devices4 kernel.devices6))
        :: .periodic i .run :: .periodic i (.reply (parityReply parity))
        :: if parity = some false then
            reconcileReplies .fast helpers fails announced nodes config
              ((kernel.apply helpers .get).apply helpers (.checkConfigParity nodes (some config)
                (kernel.devices4 ++ kernel.devices6) newConfig)) i
          else []

section Phases

variable {helpers : Helpers} {fails : Nat → Bool} {s : Server} {i : Nat} {task : Task}
  {fam : Family} {config : ClusterConfig}

/-- A configure step moves the goroutine where reconcileStep sends it. -/
theorem Server.step_configure {run : ConfigurePc} {act : PeriodicAct} {progress : Progress}
    {e : Effect} (hpc : s.periodic[i]? = some (.reconcile task fam run))
    (hlive : s.crashed = false) (hrun : configureStep helpers fam s run act = some (progress, e))
    : ∃ s', s.step helpers (.periodic i act) = some s' ∧ s'.toShared = e.apply s.toShared
      ∧ s'.periodic[i]? = some (task.resume fam progress) := by
  cases progress with
  | next run' => exact Server.step_next hpc hlive hrun
  | returned ok => exact Server.step_returned hpc hlive hrun

/-- One call of a configure run answered as the kernel model answers it: the call is
recorded, and the goroutine goes on or returns the error to its task.
-/
theorem Server.step_status {run : ConfigurePc} {call : Call} {ok : Progress}
    {kernel : Loopback} (hpc : s.periodic[i]? = some (.reconcile task fam run))
    (hlive : s.crashed = false)
    (hok : configureStep helpers fam s run (.reply .ok) = some (ok, .call call))
    (herr : configureStep helpers fam s run (.reply .err) = some (.returned false, .call call))
    : ∃ s', s.step helpers (.periodic i (.reply (kernel.status fails))) = some s'
      ∧ s'.toShared = { s.toShared with calls := s.calls ++ [call] }
      ∧ s'.periodic[i]? = some (task.resume fam
          (if fails kernel.calls.length then .returned false else ok)) := by
  unfold Loopback.status
  cases fails kernel.calls.length
  · simpa [Effect.apply] using Server.step_configure hpc hlive hok
  · simpa [Effect.apply] using Server.step_configure hpc hlive herr

/-- bgp.Set (v4) or bgp.SetV6 (v6), then SetIPVS, answered by the kernel model: the calls
issueAll makes, and the goroutine goes past SetIPVS or returns the error to its task.
-/
theorem Server.exec_announce {configured : List String} {kernel : Loopback}
    (hpc : s.periodic[i]? = some (.reconcile task fam (.bgpSet configured)))
    (hconfig : s.config = some config) (hlive : s.crashed = false)
    : ∃ s' made, s.exec helpers (kernel.replies helpers fails i
          [fam.announce (fam.vips config) configured, .setIpvs s.nodes (some config) fam.isV6])
          = some s'
      ∧ s'.toShared = { s.toShared with calls := s.calls ++ made }
      ∧ (kernel.issueAll helpers fails [fam.announce (fam.vips config) configured,
          .setIpvs s.nodes (some config) fam.isV6]).1.calls = kernel.calls ++ made
      ∧ s'.periodic[i]? = some (if (kernel.issueAll helpers fails
          [fam.announce (fam.vips config) configured, .setIpvs s.nodes (some config) fam.isV6]).2
          then task.after fam false else task.resume fam fam.afterIpvs) := by
  have hset : ∀ reply, configureStep helpers fam s (.bgpSet configured) (.reply reply)
      = reply.status.map fun ok => (if ok then .next .setIpvs else .returned false,
          .call (fam.announce (fam.vips config) configured)) := by
    intro reply
    show reply.status.map (fun ok => readConfig s.config _ _) = _
    rw [hconfig]
    rfl
  obtain ⟨s₁, hstep₁, hshared₁, hpc₁⟩ :=
    @Server.step_status helpers fails s i task fam _ _ _ kernel hpc hlive (hset .ok) (hset .err)
  have hipvs : ∀ reply, configureStep helpers fam s₁ .setIpvs (.reply reply)
      = reply.status.map fun ok => (if ok then fam.afterIpvs else .returned false,
          .call (.setIpvs s.nodes (some config) fam.isV6)) := by
    intro reply
    have hnodes : s₁.nodes = s.nodes := by simp [hshared₁]
    have hconfig₁ : s₁.config = some config := by simp [hshared₁, hconfig]
    show reply.status.map
      (fun ok => (_, Effect.call (.setIpvs s₁.nodes s₁.config fam.isV6))) = _
    rw [hnodes, hconfig₁]
  cases h₁ : fails kernel.calls.length
  · rw [h₁] at hpc₁
    obtain ⟨s₂, hstep₂, hshared₂, hpc₂⟩ :=
      @Server.step_status helpers fails s₁ i task fam _ _ _
      (kernel.apply helpers (fam.announce (fam.vips config) configured)) hpc₁
      (by simp [hshared₁, hlive]) (hipvs .ok) (hipvs .err)
    refine ⟨s₂, [fam.announce (fam.vips config) configured, .setIpvs s.nodes (some config)
      fam.isV6], by simp [Loopback.replies, h₁, Server.exec_cons, hstep₁, hstep₂],
      by simp [hshared₂, hshared₁], ?_⟩
    cases h₂ : fails (kernel.calls.length + 1) <;>
      simpa [Loopback.issueAll, Loopback.issue, h₁, h₂] using hpc₂
  · refine ⟨s₁, [fam.announce (fam.vips config) configured],
      by simp [Loopback.replies, h₁, Server.exec_cons, hstep₁], by simp [hshared₁], ?_⟩
    simpa [Loopback.issueAll, Loopback.issue, h₁] using hpc₁

/-- After SetMTU, the rest of configure() or configure6() answered by the kernel model and
bgp.Get by `announced`: the calls issueAll makes of `bgpCalls`, the stamp of configure() once
they all return nil, and the goroutine back with its task. By `Server.exec_announce`, with
bgp.Get before it and the stamp after it for v4.
-/
theorem Server.exec_bgp {announced : List String} {kernel : Loopback}
    (hpc : s.periodic[i]? = some (.reconcile task fam fam.afterMtu))
    (hconfig : s.config = some config) (hlive : s.crashed = false)
    : ∃ s' made,
        s.exec helpers (bgpReplies fam helpers fails announced s.nodes config kernel i) = some s'
      ∧ s'.toShared = { s.toShared with
          calls := s.calls ++ made
          lastReconfigure := if !fam.isV6 && !(kernel.issueAll helpers fails
            (fam.bgpCalls announced s.nodes config)).2 then s.clock else s.lastReconfigure }
      ∧ (kernel.issueAll helpers fails (fam.bgpCalls announced s.nodes config)).1.calls
          = kernel.calls ++ made
      ∧ s'.periodic[i]? = some (task.after fam
          !(kernel.issueAll helpers fails (fam.bgpCalls announced s.nodes config)).2) := by
  cases fam with
  | v6 =>
      obtain ⟨s', made, hexec, hshared, hissued, hpc'⟩ :=
        @Server.exec_announce helpers fails s i task .v6 config [] kernel hpc hconfig hlive
      have hcalls : Family.v6.bgpCalls announced s.nodes config = [Family.v6.announce
          (Family.v6.vips config) [], .setIpvs s.nodes (some config) Family.v6.isV6] := rfl
      rw [hcalls]
      refine ⟨s', made, hexec, by simpa [Family.isV6] using hshared, hissued, ?_⟩
      cases h : (kernel.issueAll helpers fails [Family.v6.announce (Family.v6.vips config) [],
        .setIpvs s.nodes (some config) Family.v6.isV6]).2 <;>
        simpa [h, Task.resume, Family.afterIpvs] using hpc'
  | v4 =>
      cases hget : fails kernel.calls.length
      · obtain ⟨s₁, hstep₁, hshared₁, hpc₁⟩ := Server.step_next hpc hlive
          (show configureStep helpers .v4 s .bgpGet (.reply (.addrs announced))
            = some (.next (.bgpSet announced), .call .bgpGet) from rfl)
        have hnodes : s₁.nodes = s.nodes := by simp [hshared₁, Effect.apply]
        obtain ⟨s₂, made, hexec₂, hshared₂, hissued₂, hpc₂⟩ :=
          @Server.exec_announce helpers fails s₁ i task .v4 config announced
            (kernel.apply helpers .bgpGet) hpc₁ (by simp [hshared₁, hconfig])
            (by simp [hshared₁, Effect.apply, hlive])
        have htail : (Family.v4.bgpCalls announced s.nodes config).tail
            = [Family.v4.announce (Family.v4.vips config) announced,
                .setIpvs s.nodes (some config) Family.v4.isV6] := rfl
        rw [hnodes, ← htail] at hexec₂ hissued₂ hpc₂
        have hrun₂ : s.exec helpers (.periodic i (.reply (.addrs announced))
            :: (kernel.apply helpers .bgpGet).replies helpers fails i
              (Family.v4.bgpCalls announced s.nodes config).tail) = some s₂ := by
          rw [Server.exec_cons, hstep₁, Option.some_bind]
          exact hexec₂
        have hall : kernel.issueAll helpers fails (Family.v4.bgpCalls announced s.nodes config)
            = (kernel.apply helpers .bgpGet).issueAll helpers fails
              (Family.v4.bgpCalls announced s.nodes config).tail := by
          simp [Family.bgpCalls, Loopback.issueAll, Loopback.issue, hget]
        rw [hall]
        cases hrest : ((kernel.apply helpers .bgpGet).issueAll helpers fails
            (Family.v4.bgpCalls announced s.nodes config).tail).2
        · have hpc₂' : s₂.periodic[i]? = some (.reconcile task .v4 .stamp) := by
            simpa [hrest] using hpc₂
          obtain ⟨s₃, hstep₃, hshared₃, hpc₃⟩ := Server.step_returned hpc₂'
            (by simp [hshared₂, hshared₁, Effect.apply, hlive])
            (show configureStep helpers .v4 s₂ .stamp .run
              = some (.returned true, .stamp) from rfl)
          refine ⟨s₃, .bgpGet :: made, ?_,
            by simp [hshared₃, hshared₂, hshared₁, Effect.apply, Family.isV6],
            by simp [hissued₂], hpc₃⟩
          simp only [bgpReplies, hget, Bool.false_eq_true, ite_false, hrest]
          rw [← List.cons_append, Server.exec_append, hrun₂, Option.some_bind, Server.exec_cons,
            hstep₃]
          rfl
        · refine ⟨s₂, .bgpGet :: made, ?_, by simp [hshared₂, hshared₁, Effect.apply],
            by simp [hissued₂], by simpa [hrest] using hpc₂⟩
          simpa [bgpReplies, hget, hrest] using hrun₂
      · obtain ⟨s₁, hstep₁, hshared₁, hpc₁⟩ := Server.step_returned hpc hlive
          (show configureStep helpers .v4 s .bgpGet (.reply .err)
            = some (.returned false, .call .bgpGet) from rfl)
        refine ⟨s₁, [.bgpGet], by simp [bgpReplies, hget, Server.exec_cons, hstep₁], ?_, ?_⟩
        · simp [hshared₁, Effect.apply, Family.bgpCalls, Loopback.issueAll, Loopback.issue, hget,
            Family.isV6]
        · simpa [Family.bgpCalls, Loopback.issueAll, Loopback.issue, hget] using hpc₁

/-- Run without interruption and answered by the kernel model, with bgp.Get reporting
`announced`, a whole configure() or configure6() run makes the calls of the sequential model,
stamps `lastReconfigure` when configure() returns nil, and hands the goroutine back to its
task with the returned error. By `Server.setAddresses_refines` and `Server.exec_bgp`.
-/
theorem Server.configure_refines {announced : List String} {kernel : Loopback}
    (hpc : s.periodic[i]? = some (.reconcile task fam .getDevices))
    (hconfig : s.config = some config) (hlive : s.crashed = false)
    : ∃ s' made, s.exec helpers
          (configureReplies fam helpers fails announced s.nodes config kernel i) = some s'
      ∧ s'.toShared = { s.toShared with
          calls := s.calls ++ made
          lastReconfigure := if !fam.isV6 && !(configureFor fam helpers fails announced s.nodes
            config kernel).2 then s.clock else s.lastReconfigure }
      ∧ (configureFor fam helpers fails announced s.nodes config kernel).1.calls
          = kernel.calls ++ made
      ∧ s'.periodic[i]? = some (task.after fam
          !(configureFor fam helpers fails announced s.nodes config kernel).2) := by
  obtain ⟨s₁, made₁, hexec₁, hshared₁, hseq₁, hpc₁⟩ :=
    @Server.setAddresses_refines helpers fails s i task fam config kernel hpc hconfig hlive
  cases hset : (setAddressesFor fam helpers fails config kernel).2
  · have hnodes : s₁.nodes = s.nodes := by simp [hshared₁]
    obtain ⟨s₂, made₂, hexec₂, hshared₂, hseq₂, hpc₂⟩ :=
      @Server.exec_bgp helpers fails s₁ i task fam config announced
        (setAddressesFor fam helpers fails config kernel).1 (by simpa [hset] using hpc₁)
        (by simp [hshared₁, hconfig]) (by simp [hshared₁, hlive])
    rw [hnodes] at hexec₂ hshared₂ hseq₂ hpc₂
    have hcfg : configureFor fam helpers fails announced s.nodes config kernel
        = (setAddressesFor fam helpers fails config kernel).1.issueAll helpers fails
          (fam.bgpCalls announced s.nodes config) := by
      simp [configureFor, hset]
    refine ⟨s₂, made₁ ++ made₂, ?_, by simp [hshared₂, hshared₁, hcfg],
      by rw [hcfg, hseq₂, hseq₁, List.append_assoc], by rw [hcfg]; exact hpc₂⟩
    simp only [configureReplies, hset, Bool.false_eq_true, ite_false]
    rw [Server.exec_append, hexec₁, Option.some_bind, hexec₂]
  · have hcfg : configureFor fam helpers fails announced s.nodes config kernel
        = setAddressesFor fam helpers fails config kernel := by
      simp [configureFor, hset]
    refine ⟨s₁, made₁, by simpa [configureReplies, hset] using hexec₁,
      by simp [hshared₁, hcfg, hset], by rw [hcfg, hseq₁], by simpa [hcfg, hset] using hpc₁⟩

/-- The 2 s tick and noUpdatesReady(): periodic() goes back to the top of its loop when no
update waits and on to ipDevices.Get() otherwise, and nothing shared changes.
-/
theorem Server.exec_checkReady {w : Nat} (hpc : s.periodic[i]? = some (.select w))
    (hlive : s.crashed = false)
    : ∃ s', s.exec helpers [.periodic i .bgpTick, .periodic i .run] = some s'
      ∧ s'.toShared = s.toShared
      ∧ s'.periodic[i]? = some (if s.noUpdatesReady then .top else .observe) := by
  obtain ⟨s₀, hstep₀, hshared₀, hpc₀⟩ := Server.step_at hpc hlive
    (show periodicStep helpers s (.select w) .bgpTick = some (.checkReady, .none) from rfl)
  have hsame : s₀.toShared = s.toShared := hshared₀
  obtain ⟨s₁, hstep₁, hshared₁, hpc₁⟩ := Server.step_at hpc₀
    (by rw [← hlive]; exact congrArg Shared.crashed hsame)
    (show periodicStep helpers s₀ .checkReady .run
      = some (if s.noUpdatesReady then .top else .observe, .none) by
        have hready : s₀.noUpdatesReady = s.noUpdatesReady := by
          simp only [Server.noUpdatesReady, hsame]
        rw [← hready]
        rfl)
  exact ⟨s₁, by simp [Server.exec_cons, hstep₀, hstep₁], hshared₁.trans hsame, hpc₁⟩

/-- configReady() and CheckConfigParity's answer: configReady() takes `newConfig` and
clears it, the call is passed the flag taken, and the goroutine goes to the fast reconcile
on drift, else back to the top of its loop.
-/
theorem Server.exec_parity {addresses : List String} {parity : Option Bool}
    (hpc : s.periodic[i]? = some (.parity addresses)) (hlive : s.crashed = false)
    : ∃ s' : Server, (∀ rest, s.exec helpers (.periodic i .run
          :: .periodic i (.reply (parityReply parity)) :: rest) = s'.exec helpers rest)
      ∧ s'.toShared = { s.toShared with
          newConfig := false
          calls := s.calls ++ [.checkConfigParity s.nodes s.config addresses s.newConfig] }
      ∧ s'.periodic[i]? = some (if parity = some false then .reconcile .fast .v4 .getDevices
          else .top) := by
  obtain ⟨s₁, hstep₁, hshared₁, hpc₁⟩ := Server.step_at hpc hlive
    (show periodicStep helpers s (.parity addresses) .run
      = some (.checkParity addresses s.newConfig, .clearNewConfig) from rfl)
  obtain ⟨s₂, hstep₂, hshared₂, hpc₂⟩ := Server.step_at hpc₁
    (by rw [← hlive]; exact (congrArg Shared.crashed hshared₁ :))
    (show periodicStep helpers s₁ (.checkParity addresses s.newConfig)
      (.reply (parityReply parity)) = some (if parity = some false then
        .reconcile .fast .v4 .getDevices else .top,
          .call (.checkConfigParity s₁.nodes s₁.config addresses s.newConfig)) by
    rcases parity with _ | _ | _ <;> rfl)
  refine ⟨s₂, fun rest => by simp [Server.exec_cons, hstep₁, hstep₂], ?_, hpc₂⟩
  rw [hshared₂, hshared₁]
  rfl

end Phases

/-- After a configure() that returned nil, both tasks go on to configure6(). -/
@[simp] theorem Task.after_v4_ok (task : Task)
    : task.after .v4 true = .reconcile task .v6 .getDevices := by
  cases task <;> rfl

/-- configure6() returns periodic() to the top of its loop whatever the task. -/
@[simp] theorem Task.after_v6 (task : Task) (ok : Bool) : task.after .v6 ok = .top := by
  cases task <;> rfl

/-- A whole reconcile of periodic() run without interruption, each call answered as the
kernel model answers it and bgp.Get reporting `announced`, makes the calls of `reconcile`,
returns periodic() to the top of its loop, and stamps `lastReconfigure` exactly when
configure() returned nil. By `Server.configure_refines` for each family.
-/
theorem Server.exec_reconcile {helpers : Helpers} {fails : Nat → Bool} {s : Server} {i : Nat}
    {task : Task} {config : ClusterConfig} {announced : List String} {kernel : Loopback}
    (hpc : s.periodic[i]? = some (.reconcile task .v4 .getDevices))
    (hconfig : s.config = some config) (hlive : s.crashed = false)
    : ∃ s' made, s.exec helpers
          (reconcileReplies task helpers fails announced s.nodes config kernel i) = some s'
      ∧ s'.toShared = { s.toShared with
          calls := s.calls ++ made
          lastReconfigure := if (reconcile task helpers fails announced s.nodes config kernel).2
            then s.clock else s.lastReconfigure }
      ∧ (reconcile task helpers fails announced s.nodes config kernel).1.calls
          = kernel.calls ++ made
      ∧ s'.periodic[i]? = some .top := by
  obtain ⟨s₁, made₁, hexec₁, hshared₁, hseq₁, hpc₁⟩ :=
    @Server.configure_refines helpers fails s i task .v4 config announced kernel hpc hconfig hlive
  have hnodes : s₁.nodes = s.nodes := by simp [hshared₁]
  have six (hsix : s₁.periodic[i]? = some (.reconcile task .v6 .getDevices)) :
      ∃ s' made, s₁.exec helpers (configureReplies .v6 helpers fails [] s.nodes config
          (configure helpers fails announced s.nodes config kernel).1 i) = some s'
        ∧ s'.toShared = { s₁.toShared with calls := s₁.calls ++ made }
        ∧ (configure6 helpers fails s.nodes config
            (configure helpers fails announced s.nodes config kernel).1).1.calls
          = (configure helpers fails announced s.nodes config kernel).1.calls ++ made
        ∧ s'.periodic[i]? = some .top := by
    obtain ⟨s₂, made₂, hexec₂, hshared₂, hseq₂, hpc₂⟩ :=
      @Server.configure_refines helpers fails s₁ i task .v6 config []
        (configure helpers fails announced s.nodes config kernel).1 hsix
        (by simp [hshared₁, hconfig]) (by simp [hshared₁, hlive])
    rw [hnodes] at hexec₂ hshared₂ hseq₂ hpc₂
    exact ⟨s₂, made₂, hexec₂, by simpa [Family.isV6] using hshared₂, hseq₂,
      by simpa using hpc₂⟩
  simp only [reconcileReplies, reconcile, configure] at hexec₁ hshared₁ hseq₁ hpc₁ six ⊢
  cases task <;> cases hv4 : (configureFor .v4 helpers fails announced s.nodes config kernel).2
  case fast.true =>
    exact ⟨s₁, made₁, by simpa [hv4] using hexec₁, by simp [hshared₁, hv4, Family.isV6],
      by simp [hseq₁, hv4], by simpa [hv4] using hpc₁⟩
  all_goals
    obtain ⟨s₂, made₂, hexec₂, hshared₂, hseq₂, hpc₂⟩ :=
      six (by simpa [hv4] using hpc₁)
    exact ⟨s₂, made₁ ++ made₂, by simp [Server.exec_append, hexec₁, hexec₂, hv4],
      by simp [hshared₂, hshared₁, hv4, Family.isV6], by simp [hseq₂, hseq₁, hv4], hpc₂⟩

/-- The 30 s tick of periodic() taken from its select, then the forced reconcile run
without interruption and answered by the kernel model, by `Server.exec_reconcile`.
-/
theorem Server.exec_forcedTick {helpers : Helpers} {fails : Nat → Bool} {s : Server}
    {i : Nat} {w : Nat} {config : ClusterConfig} {announced : List String} {kernel : Loopback}
    (hpc : s.periodic[i]? = some (.select w)) (hconfig : s.config = some config)
    (hlive : s.crashed = false)
    : ∃ s' made, s.exec helpers (.periodic i .reconfigureTick
          :: reconcileReplies .forced helpers fails announced s.nodes config kernel i) = some s'
      ∧ s'.toShared = { s.toShared with
          calls := s.calls ++ made
          lastReconfigure := if (reconcile .forced helpers fails announced s.nodes config
            kernel).2 then s.clock else s.lastReconfigure }
      ∧ (reconcile .forced helpers fails announced s.nodes config kernel).1.calls
          = kernel.calls ++ made
      ∧ s'.periodic[i]? = some .top := by
  obtain ⟨s₀, hstep₀, hshared₀, hpc₀⟩ := Server.step_at hpc hlive
    (show periodicStep helpers s (.select w) .reconfigureTick
      = some (.reconcile .forced .v4 .getDevices, .none) from rfl)
  have hsame : s₀.toShared = s.toShared := hshared₀
  obtain ⟨s', made, hexec, hshared, hseq, hpc'⟩ :=
    @Server.exec_reconcile helpers fails s₀ i .forced config announced kernel hpc₀
      (by rw [← hconfig]; exact congrArg Shared.config hsame)
      (by rw [← hlive]; exact congrArg Shared.crashed hsame)
  rw [hsame] at hexec hshared hseq
  exact ⟨s', made, by rw [Server.exec_cons, hstep₀, Option.some_bind]; exact hexec, hshared,
    hseq, hpc'⟩

/-- The 30 s tick of periodic(): from its select, the forced reconcile run without
interruption and answered by the kernel model makes the calls of configure() and then of
configure6(), which runs whatever configure() returned; periodic() is back at the top of its
loop, and `lastReconfigure` is stamped exactly when configure() returned nil.
-/
theorem Server.forcedTick_refines {helpers : Helpers} {fails : Nat → Bool} {s : Server}
    {i : Nat} {w : Nat} {config : ClusterConfig} {announced : List String} {kernel : Loopback}
    (hpc : s.periodic[i]? = some (.select w)) (hconfig : s.config = some config)
    (hlive : s.crashed = false)
    : ∃ s' made, s.exec helpers (.periodic i .reconfigureTick
          :: reconcileReplies .forced helpers fails announced s.nodes config kernel i) = some s'
      ∧ s'.toShared = { s.toShared with
          calls := s.calls ++ made
          lastReconfigure := if (configure helpers fails announced s.nodes config kernel).2
            then s.lastReconfigure else s.clock }
      ∧ (configure6 helpers fails s.nodes config
          (configure helpers fails announced s.nodes config kernel).1).1.calls
          = kernel.calls ++ made
      ∧ s'.periodic[i]? = some .top := by
  obtain ⟨s', made, hexec, hshared, hseq, hpc'⟩ :=
    @Server.exec_forcedTick helpers fails s i w config announced kernel hpc hconfig hlive
  refine ⟨s', made, hexec, ?_, by simpa [reconcile] using hseq, hpc'⟩
  cases hv4 : (configure helpers fails announced s.nodes config kernel).2 <;>
    simp [hshared, reconcile, hv4]

/-- `tickReady` leaves periodic() waiting in its select, live and with its ConfigMap read. -/
theorem Server.exec_tickReady : ∃ s, Server.initial.exec Helpers.byVip tickReady = some s
    ∧ s.periodic[0]? = some (.select 1) ∧ s.config = some ⟨["10.0.0.1"], [], [], []⟩
    ∧ s.crashed = false :=
  ⟨_, rfl, rfl, rfl, rfl⟩

/-- The forced tick from the select `tickReady` reaches, on an empty kernel. -/
theorem Server.forcedTick_refines_tickReady : ∃ s,
    Server.initial.exec Helpers.byVip tickReady = some s ∧ s.periodic[0]? = some (.select 1)
      ∧ s.config = some ⟨["10.0.0.1"], [], [], []⟩ ∧ s.crashed = false
      ∧ ∃ s' made, s.exec Helpers.byVip (.periodic 0 .reconfigureTick
          :: reconcileReplies .forced Helpers.byVip (fun _ => false) [] s.nodes
            ⟨["10.0.0.1"], [], [], []⟩ ⟨[], [], []⟩ 0) = some s'
        ∧ s'.toShared = { s.toShared with
            calls := s.calls ++ made
            lastReconfigure := if (configure Helpers.byVip (fun _ => false) [] s.nodes
              ⟨["10.0.0.1"], [], [], []⟩ ⟨[], [], []⟩).2
              then s.lastReconfigure else s.clock }
        ∧ (configure6 Helpers.byVip (fun _ => false) s.nodes ⟨["10.0.0.1"], [], [], []⟩
            (configure Helpers.byVip (fun _ => false) [] s.nodes ⟨["10.0.0.1"], [], [], []⟩
              ⟨[], [], []⟩).1).1.calls = [] ++ made
        ∧ s'.periodic[0]? = some .top := by
  obtain ⟨s, hs, hpc, hconfig, hlive⟩ := Server.exec_tickReady
  exact ⟨s, hs, hpc, hconfig, hlive, Server.forcedTick_refines hpc hconfig hlive⟩

/-- The 2 s tick of periodic(): from its select, performReconfigure run without
interruption, answered by the kernel model and with CheckConfigParity answering `parity`,
makes the calls of the sequential performReconfigure; periodic() is back at the top of its
loop, `newConfig` is cleared exactly when configReady() was called, and `lastReconfigure`
is stamped exactly when the reconcile after drift had configure() return nil.
-/
theorem Server.bgpTick_refines {helpers : Helpers} {fails : Nat → Bool} {s : Server}
    {i : Nat} {w : Nat} {config : ClusterConfig} {announced : List String} {kernel : Loopback}
    {parity : Option Bool}
    (hpc : s.periodic[i]? = some (.select w)) (hconfig : s.config = some config)
    (hlive : s.crashed = false)
    : ∃ s' made, s.exec helpers (.periodic i .bgpTick :: performReconfigureReplies
          s.noUpdatesReady s.newConfig parity helpers fails announced s.nodes config kernel i)
          = some s'
      ∧ s'.toShared = { s.toShared with
          calls := s.calls ++ made
          newConfig := if (performReconfigure s.noUpdatesReady s.newConfig parity helpers fails
            announced s.nodes config kernel).2.2 then false else s.newConfig
          lastReconfigure := if (performReconfigure s.noUpdatesReady s.newConfig parity helpers
            fails announced s.nodes config kernel).2.1 then s.clock else s.lastReconfigure }
      ∧ (performReconfigure s.noUpdatesReady s.newConfig parity helpers fails announced s.nodes
          config kernel).1.calls = kernel.calls ++ made
      ∧ s'.periodic[i]? = some .top := by
  obtain ⟨s₁, hpre, hsame₁, hpc₁⟩ := @Server.exec_checkReady helpers s i w hpc hlive
  have hrun (rest : List Label) : s.exec helpers (.periodic i .bgpTick :: .periodic i .run :: rest)
      = s₁.exec helpers rest := by
    have happ : s.exec helpers ([.periodic i .bgpTick, .periodic i .run] ++ rest) = _ :=
      Server.exec_append _ _ _
    rwa [hpre, Option.some_bind] at happ
  cases hr : s.noUpdatesReady
  case true =>
    refine ⟨s₁, [], ?_, by simp [hsame₁, performReconfigure, hr],
      by simp [performReconfigure, hr], by simpa [hr] using hpc₁⟩
    simp [performReconfigureReplies, hr, hrun]
  case false =>
  have hobs : s₁.periodic[i]? = some .observe := by simpa [hr] using hpc₁
  have hlive₁ : s₁.crashed = false := by rw [← hlive]; exact congrArg Shared.crashed hsame₁
  cases hget : fails kernel.calls.length
  case true =>
    obtain ⟨s₂, hstep₂, hshared₂, hpc₂⟩ := Server.step_at hobs hlive₁
      (show periodicStep helpers s₁ .observe (.reply .err) = some (.top, .call .get) from rfl)
    refine ⟨s₂, [.get], ?_, ?_, by simp [performReconfigure, hr, Loopback.issue, hget],
      hpc₂⟩
    · simp [performReconfigureReplies, hr, hget, hrun, Server.exec_cons, hstep₂]
    · simp [hshared₂, hsame₁, Effect.apply, performReconfigure, hr, Loopback.issue, hget]
  case false =>
  obtain ⟨s₂, hstep₂, hshared₂, hpc₂⟩ := Server.step_at hobs hlive₁
    (show periodicStep helpers s₁ .observe (.reply (.devices kernel.devices4 kernel.devices6))
      = some (.parity (kernel.devices4 ++ kernel.devices6), .call .get) from rfl)
  have hsame₂ : s₂.toShared = { s.toShared with calls := s.calls ++ [.get] } := by
    rw [hshared₂, hsame₁]; rfl
  obtain ⟨s₃, hstep₃, hshared₃, hpc₃⟩ :=
    @Server.exec_parity helpers s₂ i _ parity hpc₂ (by simp [hsame₂, hlive])
  rw [hsame₂] at hshared₃
  have hissue : kernel.issue helpers fails .get = (kernel.apply helpers .get, false) := by
    simp [Loopback.issue, hget]
  by_cases hdrift : parity = some false
  case neg =>
    refine ⟨s₃, [.get, .checkConfigParity s.nodes (some config)
      (kernel.devices4 ++ kernel.devices6) s.newConfig], ?_, ?_, ?_,
      by simpa [hdrift] using hpc₃⟩
    · simp [performReconfigureReplies, hr, hget, hdrift, hrun, Server.exec_cons s₁, hstep₂,
        hstep₃]
    · simp [hshared₃, performReconfigure, hr, hissue, hdrift, hconfig]
    · simp [performReconfigure, hr, hissue, hdrift]
  case pos =>
  subst hdrift
  obtain ⟨s', made, hexec, hshared, hseq, hpc'⟩ :=
    @Server.exec_reconcile helpers fails s₃ i .fast config announced
      ((kernel.apply helpers .get).apply helpers (.checkConfigParity s.nodes (some config)
        (kernel.devices4 ++ kernel.devices6) s.newConfig)) hpc₃
      (by simp [hshared₃, hconfig]) (by simp [hshared₃, hlive])
  have hnodes : s₃.nodes = s.nodes := by simp [hshared₃]
  rw [hnodes] at hexec hshared hseq
  refine ⟨s', .get :: .checkConfigParity s.nodes (some config)
    (kernel.devices4 ++ kernel.devices6) s.newConfig :: made, ?_, ?_, ?_, hpc'⟩
  · simp [performReconfigureReplies, hr, hget, hrun, Server.exec_cons s₁, hstep₂, hstep₃, hexec]
  · simp [hshared, hshared₃, performReconfigure, hr, hissue, hconfig]
  · simp [hseq, performReconfigure, hr, hissue]

/-- The 2 s tick from the select `tickReady` reaches, where updates wait and the parity check
reports drift, on an empty kernel.
-/
theorem Server.bgpTick_refines_tickReady : ∃ s,
    Server.initial.exec Helpers.byVip tickReady = some s ∧ s.periodic[0]? = some (.select 1)
      ∧ s.config = some ⟨["10.0.0.1"], [], [], []⟩ ∧ s.crashed = false
      ∧ ∃ s' made, s.exec Helpers.byVip (.periodic 0 .bgpTick :: performReconfigureReplies
            s.noUpdatesReady s.newConfig (some false) Helpers.byVip (fun _ => false) [] s.nodes
            ⟨["10.0.0.1"], [], [], []⟩ ⟨[], [], []⟩ 0) = some s'
        ∧ s'.toShared = { s.toShared with
            calls := s.calls ++ made
            newConfig := if (performReconfigure s.noUpdatesReady s.newConfig (some false)
              Helpers.byVip (fun _ => false) [] s.nodes ⟨["10.0.0.1"], [], [], []⟩
              ⟨[], [], []⟩).2.2 then false else s.newConfig
            lastReconfigure := if (performReconfigure s.noUpdatesReady s.newConfig (some false)
              Helpers.byVip (fun _ => false) [] s.nodes ⟨["10.0.0.1"], [], [], []⟩
              ⟨[], [], []⟩).2.1 then s.clock else s.lastReconfigure }
        ∧ (performReconfigure s.noUpdatesReady s.newConfig (some false) Helpers.byVip
            (fun _ => false) [] s.nodes ⟨["10.0.0.1"], [], [], []⟩ ⟨[], [], []⟩).1.calls
            = [] ++ made
        ∧ s'.periodic[0]? = some .top := by
  obtain ⟨s, hs, hpc, hconfig, hlive⟩ := Server.exec_tickReady
  exact ⟨s, hs, hpc, hconfig, hlive, Server.bgpTick_refines hpc hconfig hlive⟩

/-- With no failing call, the forced reconcile of ConfigMap `10.0.0.1` on an empty kernel
adds its device, announces it beside nothing, and programs IPVS for both families. -/
example : (reconcile .forced Helpers.byVip (fun _ => false) [] [] ⟨["10.0.0.1"], [], [], []⟩
      ⟨[], [], []⟩).1.calls
    = [.get, .add "10.0.0.1" false, .setMtu [] false, .bgpGet, .bgpSet ["10.0.0.1"] [],
        .setIpvs [] (some ⟨["10.0.0.1"], [], [], []⟩) false, .get, .setMtu [] true,
        .bgpSetV6 [], .setIpvs [] (some ⟨["10.0.0.1"], [], [], []⟩) true] := by
  decide

end Ravel.Bgp
