import Ravel.Bgp.Types

/-! setAddresses and setAddresses6 against the loopback interface: from any observed device
list and any map iteration order they remove what is not desired before adding what is
missing, add each device from its own VIP, and leave exactly the desired devices.
-/

namespace Ravel.Bgp

/-- The loopback devices the kernel holds for each family, and the calls made on ipDevices
so far, oldest first.
-/
structure Loopback where
  devices4 : List String
  devices6 : List String
  calls : List Call
  deriving DecidableEq, Repr

/-- The family's devices: what ipDevices.Get() reports for it. -/
def Family.devices (fam : Family) (kernel : Loopback) : List String :=
  fam.observed kernel.devices4 kernel.devices6

/-- What a successful call does to the devices: Del removes the device, Add and Add6 create
the device that Device names for the address, and the other calls change no device.
-/
def Loopback.effect (helpers : Helpers) (kernel : Loopback) : Call → Loopback
  | .del device =>
      { kernel with
        devices4 := kernel.devices4.filter (· ≠ device)
        devices6 := kernel.devices6.filter (· ≠ device) }
  | .add addr true => { kernel with devices6 := kernel.devices6 ++ [helpers.device addr true] }
  | .add addr false => { kernel with devices4 := kernel.devices4 ++ [helpers.device addr false] }
  | _ => kernel

/-- A successful call: its effect, and the call recorded. -/
def Loopback.apply (helpers : Helpers) (kernel : Loopback) (call : Call) : Loopback :=
  { kernel.effect helpers call with calls := kernel.calls ++ [call] }

/-- Make `call` on ipDevices: it fails when the schedule `fails` says so for its position
among all calls, and then only the call is recorded. The flag is the returned error.
-/
def Loopback.issue (helpers : Helpers) (fails : Nat → Bool) (kernel : Loopback) (call : Call)
    : Loopback × Bool :=
  if fails kernel.calls.length then ({ kernel with calls := kernel.calls ++ [call] }, true)
  else (kernel.apply helpers call, false)

/-- Make the calls in order, returning at the first error. -/
def Loopback.issueAll (helpers : Helpers) (fails : Nat → Bool) (kernel : Loopback)
    : List Call → Loopback × Bool
  | [] => (kernel, false)
  | call :: rest =>
      let step := kernel.issue helpers fails call
      if step.2 then step else step.1.issueAll helpers fails rest

/-- setAddresses (v4) and setAddresses6 (v6): ipDevices.Get(), then the Del loop, the Add
loop and SetMTU, each returning its error at once; so after Get they make the calls of
`diffCalls` and SetMTU up to the first that fails. The flag is the returned error.
-/
def setAddressesFor (fam : Family) (helpers : Helpers) (fails : Nat → Bool)
    (config : ClusterConfig) (kernel : Loopback) : Loopback × Bool :=
  let got := kernel.issue helpers fails .get
  if got.2 then got
  else
    got.1.issueAll helpers fails
      (fam.diffCalls helpers config (fam.devices got.1) ++ [.setMtu (fam.mtu config) fam.isV6])

/-- setAddresses: the IPv4 loopback addresses of `b.config.Config`. -/
def setAddresses (helpers : Helpers) (fails : Nat → Bool) (config : ClusterConfig)
    (kernel : Loopback) : Loopback × Bool :=
  setAddressesFor .v4 helpers fails config kernel

/-- setAddresses6: the IPv6 loopback addresses of `b.config.Config6`. -/
def setAddresses6 (helpers : Helpers) (fails : Nat → Bool) (config : ClusterConfig)
    (kernel : Loopback) : Loopback × Bool :=
  setAddressesFor .v6 helpers fails config kernel

-----------------------------------------------------------------------------------------
-- Successful calls
-----------------------------------------------------------------------------------------

section Issue

variable {helpers : Helpers} {fails : Nat → Bool}

/-- A call returns nil exactly when the schedule lets it succeed, and then it takes effect.
-/
theorem Loopback.issue_ok {kernel next : Loopback} {call : Call}
    : kernel.issue helpers fails call = (next, false)
      ↔ fails kernel.calls.length = false ∧ next = kernel.apply helpers call := by
  unfold Loopback.issue
  cases fails kernel.calls.length <;> simp [eq_comm]

/-- Calls that all return nil apply one after the other, by induction on the calls. -/
theorem Loopback.issueAll_ok {kernel next : Loopback} {calls : List Call}
    (h : kernel.issueAll helpers fails calls = (next, false))
    : next = calls.foldl (Loopback.apply helpers) kernel := by
  induction calls generalizing kernel with
  | nil => simpa [Loopback.issueAll, eq_comm] using h
  | cons call rest ih =>
      unfold Loopback.issueAll at h
      cases hs : kernel.issue helpers fails call with
      | mk step failed =>
          cases failed
          · rw [hs] at h
            rw [List.foldl_cons, ← (Loopback.issue_ok.mp hs).2]
            exact ih h
          · simp [hs] at h

@[simp] theorem Loopback.apply_calls (kernel : Loopback) (call : Call)
    : (kernel.apply helpers call).calls = kernel.calls ++ [call] := rfl

/-- Applied calls are recorded in order. -/
@[simp] theorem Loopback.foldl_apply_calls (kernel : Loopback) (calls : List Call)
    : (calls.foldl (Loopback.apply helpers) kernel).calls = kernel.calls ++ calls := by
  induction calls generalizing kernel with
  | nil => simp
  | cons call rest ih => simp [ih]

end Issue

-----------------------------------------------------------------------------------------
-- What the loops do to the family's devices
-----------------------------------------------------------------------------------------

section Devices

variable (helpers : Helpers) (fam : Family)

/-- Del loop: every removed device is gone from the family, by induction on the removals. -/
theorem Family.devices_foldl_del (kernel : Loopback) (removals : List String)
    : fam.devices ((removals.map .del).foldl (Loopback.apply helpers) kernel)
      = (fam.devices kernel).filter (· ∉ removals) := by
  induction removals generalizing kernel with
  | nil => simp
  | cons device rest ih =>
      rw [List.map_cons, List.foldl_cons, ih]
      cases fam <;>
        simp [Family.devices, Family.observed, Loopback.apply, Loopback.effect,
          List.filter_filter, Bool.and_comm]

/-- Add loop: each address adds its device to the family, by induction on the addresses. -/
theorem Family.devices_foldl_add (kernel : Loopback) (addrs : List String)
    : fam.devices ((addrs.map (Call.add · fam.isV6)).foldl (Loopback.apply helpers) kernel)
      = fam.devices kernel ++ addrs.map (helpers.device · fam.isV6) := by
  induction addrs generalizing kernel with
  | nil => simp
  | cons addr rest ih =>
      rw [List.map_cons, List.foldl_cons, ih]
      cases fam <;>
        simp [Family.devices, Family.observed, Family.isV6, Loopback.apply, Loopback.effect]

/-- SetMTU changes no device. -/
@[simp] theorem Family.devices_apply_setMtu (kernel : Loopback) (mtu : List (String × Nat))
    (v6 : Bool)
    : fam.devices (kernel.apply helpers (.setMtu mtu v6)) = fam.devices kernel := by
  cases fam <;> rfl

/-- Get changes no device. -/
@[simp] theorem Family.devices_apply_get (kernel : Loopback)
    : fam.devices (kernel.apply helpers .get) = fam.devices kernel := by
  cases fam <;> rfl

end Devices

-----------------------------------------------------------------------------------------
-- devToAddr names each desired device's own VIP
-----------------------------------------------------------------------------------------

/-- devToAddr holds one assignment per VIP, the last VIP first, by induction on the VIPs
with the map built so far.
-/
theorem devToAddr_eq (device : String → String) (vips : List String)
    : devToAddr device vips = (vips.map fun ip => (device ip, ip)).reverse := by
  suffices ∀ m : AddrMap, vips.foldl (fun m ip => (device ip, ip) :: m) m
      = (vips.map fun ip => (device ip, ip)).reverse ++ m by simpa using this []
  induction vips with
  | nil => simp
  | cons ip rest ih => intro m; simp [ih]

/-- A desired device reads back a VIP of the family whose device name it is: the loop never
hands Add a blank or unrelated address.
-/
theorem devToAddr_get_desired {device : String → String} {vips : List String} {name : String}
    (h : name ∈ desiredDevices device vips)
    : (devToAddr device vips).get name ∈ vips
      ∧ device ((devToAddr device vips).get name) = name := by
  obtain ⟨ip, hip, rfl⟩ := List.mem_map.mp (List.mem_filter.mp h).1
  have stored : (device ip, ip) ∈ devToAddr device vips := by
    simpa [devToAddr_eq] using hip
  obtain ⟨entry, hfind⟩ := Option.isSome_iff_exists.mp
    (List.find?_isSome.mpr ⟨_, stored, by simp⟩ :
      ((devToAddr device vips).find? (·.1 = device ip)).isSome)
  have hkey : entry.1 = device ip := by simpa using List.find?_some hfind
  obtain ⟨vip, hvip, rfl⟩ : ∃ vip ∈ vips, (device vip, vip) = entry := by
    simpa [devToAddr_eq] using List.mem_of_find?_eq_some hfind
  simp only [AddrMap.get, hfind, Option.map_some', Option.getD_some]
  exact ⟨hvip, hkey⟩

-----------------------------------------------------------------------------------------
-- A successful run reaches the desired devices
-----------------------------------------------------------------------------------------

/-- Compare4 or Compare6 as the loop expects it: the first list holds the observed devices
that are not desired, the second the desired devices that are not observed.
-/
def DiffSpec (compare : List String → List String → List String × List String) : Prop :=
  ∀ observed desired name,
    (name ∈ (compare observed desired).1 ↔ name ∈ observed ∧ name ∉ desired)
    ∧ (name ∈ (compare observed desired).2 ↔ name ∈ desired ∧ name ∉ observed)

/-- Every Del precedes every Add: the calls split into a part with no Add followed by a part
with no Del.
-/
def DelsBeforeAdds (calls : List Call) : Prop :=
  ∃ before after, calls = before ++ after
    ∧ (∀ call ∈ before, call.isAdd = false) ∧ ∀ call ∈ after, call.isDel = false

section Run

variable {fam : Family} {helpers : Helpers} {fails : Nat → Bool} {config : ClusterConfig}

/-- A call is recorded whether or not it fails. -/
@[simp] theorem Loopback.issue_calls (kernel : Loopback) (call : Call)
    : (kernel.issue helpers fails call).1.calls = kernel.calls ++ [call] := by
  unfold Loopback.issue
  split <;> rfl

/-- The calls made on a list are a prefix of it, by induction on the list. -/
theorem Loopback.issueAll_calls (kernel : Loopback) (calls : List Call)
    : ∃ made, made <+: calls ∧ (kernel.issueAll helpers fails calls).1.calls = kernel.calls ++ made := by
  induction calls generalizing kernel with
  | nil => exact ⟨[], List.nil_prefix, by simp [Loopback.issueAll]⟩
  | cons call rest ih =>
      unfold Loopback.issueAll
      dsimp only
      split
      · exact ⟨[call], by simp, by simp⟩
      · obtain ⟨made, hp, hc⟩ := ih (kernel.issue helpers fails call).1
        exact ⟨call :: made, List.cons_prefix_cons.mpr ⟨rfl, hp⟩, by simp [hc]⟩

/-- The calls a run of setAddresses makes are a prefix of Get followed by its plan. -/
theorem setAddressesFor_calls (kernel : Loopback)
    : ∃ made, made <+: (.get :: fam.diffCalls helpers config (fam.devices kernel)
        ++ [.setMtu (fam.mtu config) fam.isV6])
      ∧ (setAddressesFor fam helpers fails config kernel).1.calls = kernel.calls ++ made := by
  unfold setAddressesFor
  dsimp only
  split
  · exact ⟨[.get], by simp, by simp⟩
  · rename_i hget
    have got : (kernel.issue helpers fails .get).1 = kernel.apply helpers .get :=
      (Loopback.issue_ok.mp (Prod.ext rfl (eq_false_of_ne_true hget))).2
    rw [got, Family.devices_apply_get]
    obtain ⟨made, hp, hc⟩ := @Loopback.issueAll_calls helpers fails (kernel.apply helpers .get)
      (fam.diffCalls helpers config (fam.devices kernel) ++ [.setMtu (fam.mtu config) fam.isV6])
    exact ⟨.get :: made, List.cons_prefix_cons.mpr ⟨rfl, hp⟩, by simp [hc]⟩

/-- A run that returns nil made Get and its whole plan, every call succeeding. -/
theorem setAddressesFor_ok {kernel next : Loopback}
    (h : setAddressesFor fam helpers fails config kernel = (next, false))
    : next = (fam.diffCalls helpers config (fam.devices kernel)
        ++ [Call.setMtu (fam.mtu config) fam.isV6]).foldl (Loopback.apply helpers)
          (kernel.apply helpers .get) := by
  unfold setAddressesFor at h
  dsimp only at h
  split at h
  · rename_i hget
    simp [h] at hget
  · rename_i hget
    have got : (kernel.issue helpers fails .get).1 = kernel.apply helpers .get :=
      (Loopback.issue_ok.mp (Prod.ext rfl (eq_false_of_ne_true hget))).2
    rw [got, Family.devices_apply_get] at h
    exact Loopback.issueAll_ok h

end Run

/-- A desired device is the non-blank device name of one of the VIPs. -/
@[simp] theorem mem_desiredDevices {device : String → String} {vips : List String} {name : String}
    : name ∈ desiredDevices device vips ↔ (∃ ip ∈ vips, device ip = name) ∧ hasText name := by
  simp [desiredDevices]

/-- The plan's Dels all come before its Adds. -/
theorem Family.diffCalls_dels_before_adds (fam : Family) (helpers : Helpers)
    (config : ClusterConfig) (configured : List String) (last : Call) (hlast : last.isDel = false)
    : DelsBeforeAdds (.get :: fam.diffCalls helpers config configured ++ [last]) := by
  unfold Family.diffCalls
  generalize fam.compare helpers configured (fam.desired helpers config) = diff
  refine ⟨.get :: diff.1.map .del, (diff.2.map (fam.addrs helpers config).get).map
    (.add · fam.isV6) ++ [last], by simp, ?_, ?_⟩
  · simp only [List.mem_cons, List.mem_map]
    rintro call (rfl | ⟨_, -, rfl⟩) <;> rfl
  · simp only [List.mem_append, List.mem_map, List.mem_singleton]
    rintro call (⟨_, -, rfl⟩ | rfl)
    exacts [rfl, hlast]

/-- Under DiffSpec, the Adds of the plan each carry a VIP of the config whose device name is
non-blank and was not observed, by devToAddr_get_desired.
-/
theorem Family.diffCalls_add {fam : Family} {helpers : Helpers}
    (hdiff : DiffSpec (fam.compare helpers)) {config : ClusterConfig} {configured : List String}
    {addr : String} {v6 : Bool} (h : Call.add addr v6 ∈ fam.diffCalls helpers config configured)
    : addr ∈ fam.vips config ∧ v6 = fam.isV6 ∧ hasText (helpers.device addr v6)
      ∧ helpers.device addr v6 ∉ configured := by
  simp only [Family.diffCalls, List.map_map, List.mem_append, List.mem_map, Function.comp,
    reduceCtorEq, and_false, exists_false, Call.add.injEq, false_or] at h
  obtain ⟨name, hname, rfl, rfl⟩ := h
  obtain ⟨desired, unseen⟩ := (hdiff _ _ name).2.mp hname
  obtain ⟨hvip, hdev⟩ := devToAddr_get_desired desired
  refine ⟨hvip, rfl, ?_, ?_⟩ <;> simp only [Family.addrs, hdev]
  exacts [(mem_desiredDevices.mp desired).2, unseen]

/-- Under DiffSpec, the plan's Dels and Adds leave the family with exactly the desired
devices, from any observed list: kept are the observed desired ones, added the rest.
-/
theorem Family.devices_diffCalls {fam : Family} {helpers : Helpers}
    (hdiff : DiffSpec (fam.compare helpers)) (config : ClusterConfig) (kernel : Loopback)
    (name : String)
    : name ∈ fam.devices ((fam.diffCalls helpers config (fam.devices kernel)).foldl
        (Loopback.apply helpers) kernel)
      ↔ name ∈ fam.desired helpers config := by
  have adds : ∀ added ∈ (fam.compare helpers (fam.devices kernel) (fam.desired helpers config)).2,
      helpers.device ((fam.addrs helpers config).get added) fam.isV6 = added :=
    fun added h => (devToAddr_get_desired ((hdiff _ _ added).2.mp h).1).2
  rw [Family.diffCalls, List.foldl_append, Family.devices_foldl_add, Family.devices_foldl_del,
    List.map_map]
  simp only [List.mem_append, List.mem_filter, decide_eq_true_eq, List.mem_map,
    Function.comp]
  constructor
  · rintro (⟨seen, kept⟩ | ⟨added, hadded, rfl⟩)
    · by_contra hnot
      exact kept ((hdiff _ _ name).1.mpr ⟨seen, hnot⟩)
    · rw [adds added hadded]
      exact ((hdiff _ _ added).2.mp hadded).1
  · intro hname
    by_cases seen : name ∈ fam.devices kernel
    · exact .inl ⟨seen, fun h => ((hdiff _ _ name).1.mp h).2 hname⟩
    · have added := (hdiff _ _ name).2.mpr ⟨hname, seen⟩
      exact .inr ⟨name, added, adds name added⟩

/-- After Get, the plan and SetMTU, every call succeeding, the family holds exactly the
desired devices, by `Family.devices_diffCalls`: SetMTU and Get change no device.
-/
theorem Family.devices_plan {fam : Family} {helpers : Helpers}
    (hdiff : DiffSpec (fam.compare helpers)) (config : ClusterConfig) (kernel : Loopback)
    (name : String)
    : name ∈ fam.devices ((fam.diffCalls helpers config (fam.devices kernel)
        ++ [Call.setMtu (fam.mtu config) fam.isV6]).foldl (Loopback.apply helpers)
          (kernel.apply helpers .get))
      ↔ name ∈ fam.desired helpers config := by
  rw [List.foldl_append, List.foldl_cons, List.foldl_nil, Family.devices_apply_setMtu,
    ← Family.devices_apply_get helpers fam kernel]
  exact Family.devices_diffCalls hdiff config _ name

/-- Under DiffSpec, a family that already holds exactly the desired devices gets an empty
plan: nothing to remove, nothing to add.
-/
theorem Family.diffCalls_eq_nil {fam : Family} {helpers : Helpers}
    (hdiff : DiffSpec (fam.compare helpers)) {config : ClusterConfig} {observed : List String}
    (h : ∀ name, name ∈ fam.desired helpers config ↔ name ∈ observed)
    : fam.diffCalls helpers config observed = [] := by
  have gone : ∀ name, name ∉ (fam.compare helpers observed (fam.desired helpers config)).1 :=
    fun name hn => by
      obtain ⟨seen, unwanted⟩ := (hdiff _ _ name).1.mp hn
      exact unwanted ((h name).mpr seen)
  have fresh : ∀ name, name ∉ (fam.compare helpers observed (fam.desired helpers config)).2 :=
    fun name hn => by
      obtain ⟨wanted, unseen⟩ := (hdiff _ _ name).2.mp hn
      exact unseen ((h name).mp wanted)
  simp [Family.diffCalls, List.eq_nil_iff_forall_not_mem.mpr gone,
    List.eq_nil_iff_forall_not_mem.mpr fresh]

/-- A run of setAddresses or setAddresses6 that returns nil, from any kernel and any map
iteration order, with Compare meeting DiffSpec: every Del precedes every Add, each Add
carries a VIP of the config whose device is non-blank and missing, and the family is left
with exactly the desired devices, so a repeated run over the same VIPs adds and removes
nothing.
-/
theorem setAddresses_converges (fam : Family) (helpers : Helpers)
    (hdiff : DiffSpec (fam.compare helpers)) (fails : Nat → Bool) (config : ClusterConfig)
    (kernel next : Loopback) (hok : setAddressesFor fam helpers fails config kernel = (next, false))
    : DelsBeforeAdds (next.calls.drop kernel.calls.length)
      ∧ (∀ addr v6, Call.add addr v6 ∈ next.calls.drop kernel.calls.length
          → addr ∈ fam.vips config ∧ v6 = fam.isV6 ∧ hasText (helpers.device addr v6)
            ∧ helpers.device addr v6 ∉ fam.devices kernel)
      ∧ (∀ name, name ∈ fam.devices next ↔ name ∈ fam.desired helpers config)
      ∧ ∀ (fails' : Nat → Bool) (config' : ClusterConfig),
          (∀ vip, vip ∈ fam.vips config' ↔ vip ∈ fam.vips config)
          → ∀ call ∈ (setAddressesFor fam helpers fails' config' next).1.calls.drop
              next.calls.length, call.isAdd = false ∧ call.isDel = false := by
  have hnext := setAddressesFor_ok hok
  have issued : next.calls.drop kernel.calls.length
      = .get :: fam.diffCalls helpers config (fam.devices kernel)
        ++ [.setMtu (fam.mtu config) fam.isV6] := by
    simp [hnext]
  have devices : ∀ name, name ∈ fam.devices next ↔ name ∈ fam.desired helpers config :=
    hnext ▸ Family.devices_plan hdiff config kernel
  refine ⟨issued ▸ Family.diffCalls_dels_before_adds fam helpers config _ _ rfl,
    fun addr v6 h => ?_, devices, fun fails' config' same call hcall => ?_⟩
  · rw [issued] at h
    simp only [List.cons_append, List.mem_cons, reduceCtorEq, List.mem_append,
      List.mem_singleton, List.not_mem_nil, false_or, or_false] at h
    exact Family.diffCalls_add hdiff h
  · obtain ⟨made, hmade, hcalls⟩ := @setAddressesFor_calls fam helpers fails' config' next
    have empty : fam.diffCalls helpers config' (fam.devices next) = [] :=
      Family.diffCalls_eq_nil hdiff fun name => by
        simp only [devices, Family.desired, mem_desiredDevices, same]
    rw [hcalls, List.drop_left] at hcall
    rw [empty] at hmade
    rcases List.mem_cons.mp (hmade.subset hcall) with rfl | h
    · exact ⟨rfl, rfl⟩
    · obtain rfl : call = .setMtu (fam.mtu config') fam.isV6 := by simpa using h
      exact ⟨rfl, rfl⟩

/-- Set difference both ways, in list order: a Compare that meets DiffSpec. -/
def listDiff (observed desired : List String) : List String × List String :=
  (observed.filter (· ∉ desired), desired.filter (· ∉ observed))

theorem listDiff_spec : DiffSpec listDiff := by
  intro observed desired name
  simp [listDiff]

/-- Helpers that name each VIP's device after the VIP itself. -/
def Helpers.byVip : Helpers := ⟨fun ip _ => ip, listDiff, listDiff, fun a b => a == b⟩

/-- One stale device replaced by the configured VIP's device. -/
theorem setAddresses_converges_replaces_stale
    : DiffSpec (Family.v4.compare Helpers.byVip)
      ∧ setAddressesFor .v4 Helpers.byVip (fun _ => false) ⟨["10.0.0.1"], [], [], []⟩
          ⟨["10.0.0.9"], [], []⟩
        = (⟨["10.0.0.1"], [], [.get, .del "10.0.0.9", .add "10.0.0.1" false, .setMtu [] false]⟩,
            false)
      ∧ (DelsBeforeAdds ([Call.get, .del "10.0.0.9", .add "10.0.0.1" false, .setMtu [] false].drop 0)
        ∧ (∀ addr v6, Call.add addr v6
            ∈ [Call.get, .del "10.0.0.9", .add "10.0.0.1" false, .setMtu [] false].drop 0
            → addr ∈ Family.v4.vips ⟨["10.0.0.1"], [], [], []⟩ ∧ v6 = Family.v4.isV6
              ∧ hasText (Helpers.byVip.device addr v6)
              ∧ Helpers.byVip.device addr v6 ∉ Family.v4.devices ⟨["10.0.0.9"], [], []⟩)
        ∧ (∀ name, name ∈ Family.v4.devices ⟨["10.0.0.1"], [], [.get, .del "10.0.0.9",
              .add "10.0.0.1" false, .setMtu [] false]⟩
            ↔ name ∈ Family.v4.desired Helpers.byVip ⟨["10.0.0.1"], [], [], []⟩)
        ∧ ∀ (fails' : Nat → Bool) (config' : ClusterConfig),
            (∀ vip, vip ∈ Family.v4.vips config' ↔ vip ∈ Family.v4.vips ⟨["10.0.0.1"], [], [], []⟩)
            → ∀ call ∈ (setAddressesFor .v4 Helpers.byVip fails' config'
                ⟨["10.0.0.1"], [], [.get, .del "10.0.0.9", .add "10.0.0.1" false,
                  .setMtu [] false]⟩).1.calls.drop 4,
              call.isAdd = false ∧ call.isDel = false) :=
  ⟨listDiff_spec, by decide,
    setAddresses_converges .v4 Helpers.byVip listDiff_spec (fun _ => false)
      ⟨["10.0.0.1"], [], [], []⟩ ⟨["10.0.0.9"], [], []⟩
      ⟨["10.0.0.1"], [], [.get, .del "10.0.0.9", .add "10.0.0.1" false, .setMtu [] false]⟩
      (by decide)⟩

end Ravel.Bgp
