import Ravel.Bgp.Reconcile

/-! A forced tick of periodic() in which no call fails, against the kernel model. It leaves
each family with exactly the loopback devices its VIPs want, as long as no device the v4
config wants is also a stale v6 device: configure6() deletes that one after configure()
added it. Once both families hold their devices, the tick adds and deletes nothing.
-/

namespace Ravel.Bgp

/-- The family holds exactly the devices its VIPs want. -/
def Family.Holds (fam : Family) (helpers : Helpers) (config : ClusterConfig)
    (kernel : Loopback) : Prop :=
  ∀ name, name ∈ fam.devices kernel ↔ name ∈ fam.desired helpers config

-----------------------------------------------------------------------------------------
-- Runs in which no call fails
-----------------------------------------------------------------------------------------

section NoFailure

variable {helpers : Helpers}

/-- With no failing call, issueAll applies every call, by induction on the calls. -/
theorem Loopback.issueAll_noFail (kernel : Loopback) (calls : List Call)
    : kernel.issueAll helpers (fun _ => false) calls
      = (calls.foldl (Loopback.apply helpers) kernel, false) := by
  induction calls generalizing kernel with
  | nil => rfl
  | cons call rest ih => simp [Loopback.issueAll, Loopback.issue, ih]

/-- A kernel reached by applying calls is reached by applying the calls it recorded. -/
theorem Loopback.foldl_apply_of_calls {kernel next : Loopback} {calls made : List Call}
    (h : next = calls.foldl (Loopback.apply helpers) kernel)
    (hcalls : next.calls = kernel.calls ++ made)
    : next = made.foldl (Loopback.apply helpers) kernel := by
  obtain rfl : calls = made := by simpa [h] using hcalls
  exact h

/-- setAddresses or setAddresses6 with no failing call: Get, then its plan and SetMTU. -/
theorem setAddressesFor_noFail (fam : Family) (config : ClusterConfig) (kernel : Loopback)
    : setAddressesFor fam helpers (fun _ => false) config kernel
      = ((fam.diffCalls helpers config (fam.devices kernel)
          ++ [Call.setMtu (fam.mtu config) fam.isV6]).foldl (Loopback.apply helpers)
            (kernel.apply helpers .get), false) := by
  simp [setAddressesFor, Loopback.issue, Loopback.issueAll_noFail]

/-- configure() or configure6() with no failing call: setAddresses, then `bgpCalls`. -/
theorem configureFor_noFail (fam : Family) (announced : List String) (nodes : NodesList)
    (config : ClusterConfig) (kernel : Loopback)
    : configureFor fam helpers (fun _ => false) announced nodes config kernel
      = ((fam.bgpCalls announced nodes config).foldl (Loopback.apply helpers)
          (setAddressesFor fam helpers (fun _ => false) config kernel).1, false) := by
  simp [configureFor, setAddressesFor_noFail, Loopback.issueAll_noFail]

/-- configure() or configure6() with no failing call applies its calls one after the
other: Get, the plan, SetMTU, then `bgpCalls`.
-/
theorem configureFor_noFail_foldl (fam : Family) (announced : List String)
    (nodes : NodesList) (config : ClusterConfig) (kernel : Loopback)
    : (configureFor fam helpers (fun _ => false) announced nodes config kernel).1
      = (.get :: (fam.diffCalls helpers config (fam.devices kernel)
          ++ [Call.setMtu (fam.mtu config) fam.isV6]) ++ fam.bgpCalls announced nodes config).foldl
            (Loopback.apply helpers) kernel := by
  simp [configureFor_noFail, setAddressesFor_noFail, List.foldl_append]

/-- bgp.Get, bgp.Set, bgp.SetV6 and SetIPVS change no device. -/
@[simp] theorem Family.devices_foldl_bgpCalls (fam fam' : Family) (announced : List String)
    (nodes : NodesList) (config : ClusterConfig) (kernel : Loopback)
    : fam'.devices ((fam.bgpCalls announced nodes config).foldl (Loopback.apply helpers)
        kernel) = fam'.devices kernel := by
  cases fam <;> cases fam' <;> rfl

/-- The Adds of one family leave the other family's devices alone, by induction on the
addresses.
-/
theorem Family.devices_foldl_add_other {fam fam' : Family} (h : fam' ≠ fam)
    (kernel : Loopback) (addrs : List String)
    : fam'.devices ((addrs.map (Call.add · fam.isV6)).foldl (Loopback.apply helpers) kernel)
      = fam'.devices kernel := by
  induction addrs generalizing kernel with
  | nil => rfl
  | cons addr rest ih =>
      rw [List.map_cons, List.foldl_cons, ih]
      cases fam <;> cases fam' <;> first | exact absurd rfl h | rfl

/-- The plan of one family deletes its removals from the other family as well, and adds
nothing there: Del names a device, whichever family holds it.
-/
theorem Family.devices_diffCalls_other {fam fam' : Family} (h : fam' ≠ fam)
    (config : ClusterConfig) (observed : List String) (kernel : Loopback)
    : fam'.devices ((fam.diffCalls helpers config observed).foldl (Loopback.apply helpers)
        kernel)
      = (fam'.devices kernel).filter
          (· ∉ (fam.compare helpers observed (fam.desired helpers config)).1) := by
  simp only [Family.diffCalls, List.foldl_append, Family.devices_foldl_add_other h,
    Family.devices_foldl_del]

/-- The forced tick runs configure6() whatever configure() returned. -/
theorem reconcile_forced (fails : Nat → Bool) (announced : List String) (nodes : NodesList)
    (config : ClusterConfig) (kernel : Loopback)
    : reconcile .forced helpers fails announced nodes config kernel
      = ((configureFor .v6 helpers fails [] nodes config
          (configureFor .v4 helpers fails announced nodes config kernel).1).1,
        !(configureFor .v4 helpers fails announced nodes config kernel).2) := by
  simp [reconcile, configure, configure6]

end NoFailure

-----------------------------------------------------------------------------------------
-- What a reconcile with no failing call leaves in the kernel
-----------------------------------------------------------------------------------------

section Converge

variable {helpers : Helpers} {announced : List String} {nodes : NodesList}
  {config : ClusterConfig}

/-- configure() or configure6() with no failing call leaves its family holding exactly the
desired devices, by `Family.devices_plan`.
-/
theorem configureFor_noFail_holds {fam : Family} (hdiff : DiffSpec (fam.compare helpers))
    (kernel : Loopback)
    : fam.Holds helpers config
        (configureFor fam helpers (fun _ => false) announced nodes config kernel).1 := by
  intro name
  rw [configureFor_noFail, Family.devices_foldl_bgpCalls, setAddressesFor_noFail]
  exact Family.devices_plan hdiff config kernel name

/-- configure() or configure6() with no failing call deletes its removals from the other
family and otherwise leaves it alone.
-/
theorem configureFor_noFail_other {fam fam' : Family} (h : fam' ≠ fam) (kernel : Loopback)
    : fam'.devices (configureFor fam helpers (fun _ => false) announced nodes config kernel).1
      = (fam'.devices kernel).filter (· ∉ (fam.compare helpers (fam.devices kernel)
          (fam.desired helpers config)).1) := by
  rw [configureFor_noFail, Family.devices_foldl_bgpCalls, setAddressesFor_noFail,
    List.foldl_append, List.foldl_cons, List.foldl_nil, Family.devices_apply_setMtu,
    Family.devices_diffCalls_other h, Family.devices_apply_get]

/-- The forced reconcile with no failing call leaves both families holding exactly their
desired devices when no device the v4 config wants is a v6 device configure6() would
delete: configure6()'s Dels would remove it after configure() added it.
-/
theorem reconcile_noFail_holds (hdiff4 : DiffSpec (Family.v4.compare helpers))
    (hdiff6 : DiffSpec (Family.v6.compare helpers)) (kernel : Loopback)
    (hstale : ∀ name ∈ Family.v4.desired helpers config, name ∈ kernel.devices6
      → name ∈ Family.v6.desired helpers config)
    : Family.v4.Holds helpers config
        (reconcile .forced helpers (fun _ => false) announced nodes config kernel).1
      ∧ Family.v6.Holds helpers config
        (reconcile .forced helpers (fun _ => false) announced nodes config kernel).1 := by
  set mid := (configureFor .v4 helpers (fun _ => false) announced nodes config kernel).1
  have hv4 : Family.v4.Holds helpers config mid := configureFor_noFail_holds hdiff4 kernel
  have hkept : ∀ name, name ∈ Family.v6.devices mid → name ∈ kernel.devices6 :=
    fun name h => by
      rw [configureFor_noFail_other (by decide)] at h
      exact (List.mem_filter.mp h).1
  refine ⟨fun name => ?_, configureFor_noFail_holds hdiff6 mid⟩
  rw [reconcile_forced, configureFor_noFail_other (by decide), List.mem_filter,
    decide_eq_true_iff, hv4 name, (hdiff6 _ _ name).1]
  exact ⟨fun h => h.1, fun h => ⟨h, fun ⟨hseen, hunwanted⟩ =>
    hunwanted (hstale name h (hkept name hseen))⟩⟩

/-- Once both families hold their desired devices, the forced reconcile with no failing call
makes no Del or Add: Get and SetMTU for each family, bgp.Get, bgp.Set and SetIPVS for v4,
bgp.SetV6 and SetIPVS6 for v6, by `Family.diffCalls_eq_nil` for each family.
-/
theorem reconcile_noFail_steady (hdiff4 : DiffSpec (Family.v4.compare helpers))
    (hdiff6 : DiffSpec (Family.v6.compare helpers)) {kernel : Loopback}
    (h4 : Family.v4.Holds helpers config kernel) (h6 : Family.v6.Holds helpers config kernel)
    : (reconcile .forced helpers (fun _ => false) announced nodes config kernel).1.calls
      = kernel.calls ++ [.get, .setMtu config.mtuConfig false, .bgpGet,
          .bgpSet config.config announced, .setIpvs nodes (some config) false, .get,
          .setMtu config.mtuConfig6 true, .bgpSetV6 config.config6,
          .setIpvs nodes (some config) true] := by
  have hplan4 := Family.diffCalls_eq_nil hdiff4 fun name => (h4 name).symm
  have hmid : Family.v6.devices (configureFor .v4 helpers (fun _ => false) announced nodes
      config kernel).1 = Family.v6.devices kernel := by
    rw [configureFor_noFail, Family.devices_foldl_bgpCalls, setAddressesFor_noFail, hplan4]
    rfl
  have hplan6 : Family.v6.diffCalls helpers config (Family.v6.devices (configureFor .v4 helpers
      (fun _ => false) announced nodes config kernel).1) = [] :=
    Family.diffCalls_eq_nil hdiff6 fun name => by rw [hmid]; exact (h6 name).symm
  rw [reconcile_forced, configureFor_noFail .v6, setAddressesFor_noFail .v6, hplan6,
    configureFor_noFail .v4, setAddressesFor_noFail .v4, hplan4]
  simp [Family.bgpCalls, Family.mtu, Family.isV6]

end Converge

-----------------------------------------------------------------------------------------
-- The forced tick in the goroutine model
-----------------------------------------------------------------------------------------

/-- A forced tick in which no call fails converges: from any live select of periodic() with
a ConfigMap read, the tick and its reconcile run to the top of the loop and stamp
`lastReconfigure`, and the calls they make, applied to the kernel, leave each family with
exactly its desired devices, unless a device the v4 config wants is a stale v6 device. By
`Server.exec_forcedTick` and `reconcile_noFail_holds`.
-/
theorem Server.forcedTick_converges {helpers : Helpers} {s : Server} {i w : Nat}
    {config : ClusterConfig} {announced : List String} {kernel : Loopback}
    (hdiff4 : DiffSpec (Family.v4.compare helpers)) (hdiff6 : DiffSpec (Family.v6.compare helpers))
    (hpc : s.periodic[i]? = some (.select w)) (hconfig : s.config = some config)
    (hlive : s.crashed = false)
    (hstale : ∀ name ∈ Family.v4.desired helpers config, name ∈ kernel.devices6
      → name ∈ Family.v6.desired helpers config)
    : ∃ s' made, s.exec helpers (.periodic i .reconfigureTick :: reconcileReplies .forced helpers
          (fun _ => false) announced s.nodes config kernel i) = some s'
      ∧ s'.calls = s.calls ++ made ∧ s'.lastReconfigure = s.clock
      ∧ s'.periodic[i]? = some .top
      ∧ Family.v4.Holds helpers config (made.foldl (Loopback.apply helpers) kernel)
      ∧ Family.v6.Holds helpers config (made.foldl (Loopback.apply helpers) kernel) := by
  obtain ⟨s', made, hexec, hshared, hseq, hpc'⟩ :=
    @Server.exec_forcedTick helpers (fun _ => false) s i w config announced kernel hpc hconfig
      hlive
  have hok : (reconcile .forced helpers (fun _ => false) announced s.nodes config kernel).2
      = true := by
    simp [reconcile_forced, configureFor_noFail]
  have hreplay : (reconcile .forced helpers (fun _ => false) announced s.nodes config kernel).1
      = made.foldl (Loopback.apply helpers) kernel := by
    rw [reconcile_forced, configureFor_noFail_foldl, configureFor_noFail_foldl,
      ← List.foldl_append] at hseq ⊢
    exact Loopback.foldl_apply_of_calls rfl hseq
  obtain ⟨h4, h6⟩ := @reconcile_noFail_holds helpers announced s.nodes config hdiff4 hdiff6
    kernel hstale
  rw [hreplay] at h4 h6
  exact ⟨s', made, hexec, by simp [hshared], by simp [hshared, hok], hpc', h4, h6⟩

/-- A forced tick from `tickReady` on a kernel holding a stale v4 device. -/
theorem Server.forcedTick_converges_tickReady : ∃ s,
    Server.initial.exec Helpers.byVip tickReady = some s ∧ s.periodic[0]? = some (.select 1)
      ∧ s.config = some ⟨["10.0.0.1"], [], [], []⟩ ∧ s.crashed = false
      ∧ ∃ s' made, s.exec Helpers.byVip (.periodic 0 .reconfigureTick
            :: reconcileReplies .forced Helpers.byVip (fun _ => false) [] s.nodes
              ⟨["10.0.0.1"], [], [], []⟩ ⟨["10.0.0.9"], [], []⟩ 0) = some s'
        ∧ s'.calls = s.calls ++ made ∧ s'.lastReconfigure = s.clock
        ∧ s'.periodic[0]? = some .top
        ∧ Family.v4.Holds Helpers.byVip ⟨["10.0.0.1"], [], [], []⟩
            (made.foldl (Loopback.apply Helpers.byVip) ⟨["10.0.0.9"], [], []⟩)
        ∧ Family.v6.Holds Helpers.byVip ⟨["10.0.0.1"], [], [], []⟩
            (made.foldl (Loopback.apply Helpers.byVip) ⟨["10.0.0.9"], [], []⟩) := by
  obtain ⟨s, hs, hpc, hconfig, hlive⟩ := Server.exec_tickReady
  exact ⟨s, hs, hpc, hconfig, hlive,
    Server.forcedTick_converges listDiff_spec listDiff_spec hpc hconfig hlive (by decide)⟩

/-- In the steady state the forced tick adds and deletes nothing: from any live select of
periodic() with a ConfigMap read, on a kernel whose families already hold their desired
devices, a tick in which no call fails makes Get and SetMTU for each family, bgp.Get,
bgp.Set and SetIPVS for v4, bgp.SetV6 and SetIPVS6 for v6, and nothing else. By
`Server.exec_forcedTick` and `reconcile_noFail_steady`.
-/
theorem Server.forcedTick_steady {helpers : Helpers} {s : Server} {i w : Nat}
    {config : ClusterConfig} {announced : List String} {kernel : Loopback}
    (hdiff4 : DiffSpec (Family.v4.compare helpers)) (hdiff6 : DiffSpec (Family.v6.compare helpers))
    (hpc : s.periodic[i]? = some (.select w)) (hconfig : s.config = some config)
    (hlive : s.crashed = false)
    (h4 : Family.v4.Holds helpers config kernel) (h6 : Family.v6.Holds helpers config kernel)
    : ∃ s', s.exec helpers (.periodic i .reconfigureTick :: reconcileReplies .forced helpers
          (fun _ => false) announced s.nodes config kernel i) = some s'
      ∧ s'.calls = s.calls ++ [.get, .setMtu config.mtuConfig false, .bgpGet,
          .bgpSet config.config announced, .setIpvs s.nodes (some config) false, .get,
          .setMtu config.mtuConfig6 true, .bgpSetV6 config.config6,
          .setIpvs s.nodes (some config) true]
      ∧ s'.periodic[i]? = some .top := by
  obtain ⟨s', made, hexec, hshared, hseq, hpc'⟩ :=
    @Server.exec_forcedTick helpers (fun _ => false) s i w config announced kernel hpc hconfig
      hlive
  rw [reconcile_noFail_steady hdiff4 hdiff6 h4 h6, List.append_cancel_left_eq] at hseq
  exact ⟨s', hexec, by simp [hshared, hseq], hpc'⟩

/-- The steady forced tick from `tickReady` on a kernel holding exactly ConfigMap
`10.0.0.1`'s device.
-/
theorem Server.forcedTick_steady_tickReady : ∃ s,
    Server.initial.exec Helpers.byVip tickReady = some s ∧ s.periodic[0]? = some (.select 1)
      ∧ s.config = some ⟨["10.0.0.1"], [], [], []⟩ ∧ s.crashed = false
      ∧ Family.v4.Holds Helpers.byVip ⟨["10.0.0.1"], [], [], []⟩ ⟨["10.0.0.1"], [], []⟩
      ∧ Family.v6.Holds Helpers.byVip ⟨["10.0.0.1"], [], [], []⟩ ⟨["10.0.0.1"], [], []⟩
      ∧ ∃ s', s.exec Helpers.byVip (.periodic 0 .reconfigureTick
            :: reconcileReplies .forced Helpers.byVip (fun _ => false) [] s.nodes
              ⟨["10.0.0.1"], [], [], []⟩ ⟨["10.0.0.1"], [], []⟩ 0) = some s'
        ∧ s'.calls = s.calls ++ [.get, .setMtu [] false, .bgpGet, .bgpSet ["10.0.0.1"] [],
            .setIpvs s.nodes (some ⟨["10.0.0.1"], [], [], []⟩) false, .get, .setMtu [] true,
            .bgpSetV6 [], .setIpvs s.nodes (some ⟨["10.0.0.1"], [], [], []⟩) true]
        ∧ s'.periodic[0]? = some .top := by
  obtain ⟨s, hs, hpc, hconfig, hlive⟩ := Server.exec_tickReady
  have h4 :
      Family.v4.Holds Helpers.byVip ⟨["10.0.0.1"], [], [], []⟩ ⟨["10.0.0.1"], [], []⟩ :=
    fun name => by
      rw [show Family.v4.desired Helpers.byVip ⟨["10.0.0.1"], [], [], []⟩ = ["10.0.0.1"] by
        decide]
      rfl
  have h6 :
      Family.v6.Holds Helpers.byVip ⟨["10.0.0.1"], [], [], []⟩ ⟨["10.0.0.1"], [], []⟩ :=
    fun name => by
      rw [show Family.v6.desired Helpers.byVip ⟨["10.0.0.1"], [], [], []⟩ = [] by decide]
      rfl
  exact ⟨s, hs, hpc, hconfig, hlive, h4, h6,
    Server.forcedTick_steady listDiff_spec listDiff_spec hpc hconfig hlive h4 h6⟩

end Ravel.Bgp
