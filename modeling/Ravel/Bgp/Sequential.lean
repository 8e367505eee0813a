import Ravel.Bgp.Steps
import Ravel.Bgp.Addresses

/-! The loopback part of a configure() run in the goroutine model against the sequential
model of setAddresses: run without interruption and answered as the kernel model answers,
it makes the same calls and returns the same error.
-/

namespace Ravel.Bgp

/-- The answer the kernel model gives a call at its position: the error the schedule sets
there, else nil.
-/
def Loopback.status (fails : Nat → Bool) (kernel : Loopback) : Reply :=
  if fails kernel.calls.length then .err else .ok

/-- The steps periodic goroutine `i` takes through `calls`, each answered as the kernel
model answers it, up to the first error: the Del and Add loops of setAddresses.
-/
def Loopback.replies (helpers : Helpers) (fails : Nat → Bool) (i : Nat) (kernel : Loopback)
    : List Call → List Label
  | [] => []
  | call :: rest =>
      .periodic i (.reply (kernel.status fails)) ::
        if fails kernel.calls.length then []
        else (kernel.apply helpers call).replies helpers fails i rest

/-- The steps periodic goroutine `i` takes from ipDevices.Get() to SetMTU, each call
answered as the kernel model answers it: Get, the loop building `desired`, the Del and Add
loops, and SetMTU.
-/
def setAddressesReplies (fam : Family) (helpers : Helpers) (fails : Nat → Bool)
    (config : ClusterConfig) (kernel : Loopback) (i : Nat) : List Label :=
  if fails kernel.calls.length then [.periodic i (.reply .err)]
  else
    [.periodic i (.reply (.devices kernel.devices4 kernel.devices6)), .periodic i .run]
      ++ (kernel.apply helpers .get).replies helpers fails i
          (fam.diffCalls helpers config (fam.devices kernel))
      ++ let loops := (kernel.apply helpers .get).issueAll helpers fails
            (fam.diffCalls helpers config (fam.devices kernel))
        if loops.2 then [] else [.periodic i .run, .periodic i (.reply (loops.1.status fails))]

/-- Making two lists of calls is making the first, then, if it returned nil, the second; by
induction on the first.
-/
theorem Loopback.issueAll_append (helpers : Helpers) (fails : Nat → Bool) (kernel : Loopback)
    (first second : List Call)
    : kernel.issueAll helpers fails (first ++ second)
      = if (kernel.issueAll helpers fails first).2 then kernel.issueAll helpers fails first
        else (kernel.issueAll helpers fails first).1.issueAll helpers fails second := by
  induction first generalizing kernel with
  | nil => simp [Loopback.issueAll]
  | cons call rest ih =>
      simp only [List.cons_append, Loopback.issueAll]
      split <;> simp_all

/-- Making one call is issuing it. -/
theorem Loopback.issueAll_singleton (helpers : Helpers) (fails : Nat → Bool)
    (kernel : Loopback) (call : Call)
    : kernel.issueAll helpers fails [call] = kernel.issue helpers fails call := by
  simp only [Loopback.issueAll]
  split
  · rfl
  · exact Prod.ext rfl (eq_false_of_ne_true ‹_›).symm

/-- A call returns the error its position is scheduled for. -/
@[simp] theorem Loopback.issue_snd (helpers : Helpers) (fails : Nat → Bool)
    (kernel : Loopback) (call : Call)
    : (kernel.issue helpers fails call).2 = fails kernel.calls.length := by
  unfold Loopback.issue
  split <;> simp_all

/-- After a successful Get, setAddresses makes its Del and Add loops over what the kernel
holds and, if they return nil, SetMTU.
-/
theorem setAddressesFor_of_get {fam : Family} {helpers : Helpers} {fails : Nat → Bool}
    {config : ClusterConfig} {kernel : Loopback} (hget : fails kernel.calls.length = false)
    : setAddressesFor fam helpers fails config kernel
      = if ((kernel.apply helpers .get).issueAll helpers fails
            (fam.diffCalls helpers config (fam.devices kernel))).2
        then (kernel.apply helpers .get).issueAll helpers fails
            (fam.diffCalls helpers config (fam.devices kernel))
        else ((kernel.apply helpers .get).issueAll helpers fails
            (fam.diffCalls helpers config (fam.devices kernel))).1.issue helpers fails
              (.setMtu (fam.mtu config) fam.isV6) := by
  simp [setAddressesFor, Loopback.issue, hget, Loopback.issueAll_append,
    Loopback.issueAll_singleton]

section Loops

variable {helpers : Helpers} {fails : Nat → Bool} {s : Server} {i : Nat} {task : Task}
  {fam : Family}

/-- A live periodic goroutine steps as its statement says. -/
theorem Server.step_periodic {pc : PeriodicPc} {act : PeriodicAct}
    (hpc : s.periodic[i]? = some pc) (hlive : s.crashed = false)
    : s.step helpers (.periodic i act) = (periodicStep helpers s pc act).map fun r =>
        { s with toShared := r.2.apply s.toShared, periodic := s.periodic.set i r.1 } := by
  simp [Server.step, hlive, hpc]

/-- A step of periodic goroutine `i` moves it to the statement periodicStep names and
applies the effect.
-/
theorem Server.step_at {pc pc' : PeriodicPc} {act : PeriodicAct} {e : Effect}
    (hpc : s.periodic[i]? = some pc) (hlive : s.crashed = false)
    (h : periodicStep helpers s pc act = some (pc', e))
    : ∃ s', s.step helpers (.periodic i act) = some s' ∧ s'.toShared = e.apply s.toShared
      ∧ s'.periodic[i]? = some pc' := by
  have hlen := (List.getElem?_eq_some_iff.mp hpc).1
  refine ⟨{ s with toShared := e.apply s.toShared, periodic := s.periodic.set i pc' }, ?_, rfl,
    by simp [List.getElem?_set, hlen]⟩
  rw [Server.step_periodic hpc hlive, h]
  rfl

/-- A configure() step that goes on moves the goroutine to the statement it names. -/
theorem Server.step_next {run run' : ConfigurePc} {act : PeriodicAct} {e : Effect}
    (hpc : s.periodic[i]? = some (.reconcile task fam run)) (hlive : s.crashed = false)
    (hrun : configureStep helpers fam s run act = some (.next run', e))
    : ∃ s', s.step helpers (.periodic i act) = some s' ∧ s'.toShared = e.apply s.toShared
      ∧ s'.periodic[i]? = some (.reconcile task fam run') :=
  Server.step_at hpc hlive <| by
    show reconcileStep helpers s task fam run act = _
    simp [reconcileStep, hrun]

/-- A configure() step that returns hands the goroutine to its task. -/
theorem Server.step_returned {run : ConfigurePc} {act : PeriodicAct} {ok : Bool} {e : Effect}
    (hpc : s.periodic[i]? = some (.reconcile task fam run)) (hlive : s.crashed = false)
    (hrun : configureStep helpers fam s run act = some (.returned ok, e))
    : ∃ s', s.step helpers (.periodic i act) = some s' ∧ s'.toShared = e.apply s.toShared
      ∧ s'.periodic[i]? = some (task.after fam ok) :=
  Server.step_at hpc hlive <| by
    show reconcileStep helpers s task fam run act = _
    simp [reconcileStep, hrun]

/-- Answered by the kernel model, the Del and Add loops make the calls issueAll makes and
return its error, by induction on the calls.
-/
theorem Server.exec_replies {kernel : Loopback} {calls : List Call}
    (hpc : s.periodic[i]? = some (.reconcile task fam (.loops calls)))
    (hlive : s.crashed = false)
    : ∃ s' made, s.exec helpers (kernel.replies helpers fails i calls) = some s'
      ∧ s'.toShared = { s.toShared with calls := s.calls ++ made }
      ∧ (kernel.issueAll helpers fails calls).1.calls = kernel.calls ++ made
      ∧ s'.periodic[i]? = some (if (kernel.issueAll helpers fails calls).2
          then task.after fam false else .reconcile task fam (.loops [])) := by
  induction calls generalizing kernel s with
  | nil => exact ⟨s, [], rfl, by simp, by simp [Loopback.issueAll], by simpa [Loopback.issueAll]⟩
  | cons call rest ih =>
      cases hfail : fails kernel.calls.length
      · obtain ⟨s₁, hstep, hshared₁, hpc₁⟩ := Server.step_next hpc hlive
          (show configureStep helpers fam s (.loops (call :: rest)) (.reply .ok)
            = some (.next (.loops rest), .call call) from rfl)
        obtain ⟨s', made, hexec, hshared, hissued, hpc'⟩ :=
          @ih s₁ (kernel.apply helpers call) hpc₁ (by simp [hshared₁, Effect.apply, hlive])
        refine ⟨s', call :: made, ?_, by simp [hshared, hshared₁, Effect.apply], ?_, ?_⟩
        · simp [Loopback.replies, Loopback.status, hfail, Server.exec_cons, hstep, hexec]
        · simp [Loopback.issueAll, Loopback.issue, hfail, hissued]
        · simpa [Loopback.issueAll, Loopback.issue, hfail] using hpc'
      · obtain ⟨s₁, hstep, hshared₁, hpc₁⟩ := Server.step_returned hpc hlive
          (show configureStep helpers fam s (.loops (call :: rest)) (.reply .err)
            = some (.returned false, .call call) from rfl)
        refine ⟨s₁, [call], ?_, by simp [hshared₁, Effect.apply], ?_, ?_⟩
        · simp [Loopback.replies, Loopback.status, hfail, Server.exec_cons, hstep]
        · simp [Loopback.issueAll, Loopback.issue, hfail]
        · simpa [Loopback.issueAll, Loopback.issue, hfail] using hpc₁

/-- Get answered with the kernel's devices, then the loop building `desired` over the
config it reads: the goroutine reaches the Del and Add loops of the plan for what the
kernel holds.
-/
theorem Server.exec_get_compare {config : ClusterConfig} {kernel : Loopback}
    (hpc : s.periodic[i]? = some (.reconcile task fam .getDevices))
    (hconfig : s.config = some config) (hlive : s.crashed = false)
    : ∃ s', s.exec helpers [.periodic i (.reply (.devices kernel.devices4 kernel.devices6)),
          .periodic i .run] = some s'
      ∧ s'.periodic[i]? = some (.reconcile task fam
          (.loops (fam.diffCalls helpers config (fam.devices kernel))))
      ∧ s'.toShared = { s.toShared with calls := s.calls ++ [.get] } := by
  obtain ⟨s₁, hstep₁, hshared₁, hpc₁⟩ := Server.step_next hpc hlive
    (show configureStep helpers fam s .getDevices (.reply (.devices kernel.devices4
      kernel.devices6)) = some (.next (.compare (fam.devices kernel)), .call .get) from rfl)
  obtain ⟨s₂, hstep₂, hshared₂, hpc₂⟩ := Server.step_next hpc₁
    (by simp [hshared₁, Effect.apply, hlive])
    (show configureStep helpers fam s₁ (.compare (fam.devices kernel)) .run
      = some (.next (.loops (fam.diffCalls helpers config (fam.devices kernel))), .none) by
        unfold configureStep; simp [readConfig, hshared₁, hconfig])
  exact ⟨s₂, by simp [Server.exec_cons, hstep₁, hstep₂], hpc₂,
    by simp [hshared₂, hshared₁, Effect.apply]⟩

/-- From the end of the loops, SetMTU answered as the kernel model answers it: one call,
and the goroutine goes on after SetMTU or returns its error.
-/
theorem Server.exec_setMtu {config : ClusterConfig} {kernel : Loopback}
    (hpc : s.periodic[i]? = some (.reconcile task fam (.loops [])))
    (hconfig : s.config = some config) (hlive : s.crashed = false)
    : ∃ s', s.exec helpers [.periodic i .run, .periodic i (.reply (kernel.status fails))]
          = some s'
      ∧ s'.toShared = { s.toShared with calls := s.calls ++ [.setMtu (fam.mtu config) fam.isV6] }
      ∧ s'.periodic[i]? = some (if fails kernel.calls.length then task.after fam false
          else .reconcile task fam fam.afterMtu) := by
  obtain ⟨s₁, hstep₁, hshared₁, hpc₁⟩ := Server.step_next hpc hlive
    (show configureStep helpers fam s (.loops []) .run = some (.next .setMtu, .none) from rfl)
  have hlive₁ : s₁.crashed = false := by simp [hshared₁, Effect.apply, hlive]
  have hconfig₁ : s₁.config = some config := by simp [hshared₁, hconfig]
  cases hf : fails kernel.calls.length
  · obtain ⟨s₂, hstep₂, hshared₂, hpc₂⟩ := Server.step_next hpc₁ hlive₁
      (show configureStep helpers fam s₁ .setMtu (.reply .ok)
        = some (.next fam.afterMtu, .call (.setMtu (fam.mtu config) fam.isV6)) by
          unfold configureStep; simp [readConfig, Reply.status, hconfig₁])
    exact ⟨s₂, by simp [Server.exec_cons, hstep₁, Loopback.status, hf, hstep₂],
      by simp [hshared₂, hshared₁, Effect.apply], hpc₂⟩
  · obtain ⟨s₂, hstep₂, hshared₂, hpc₂⟩ := Server.step_returned hpc₁ hlive₁
      (show configureStep helpers fam s₁ .setMtu (.reply .err)
        = some (.returned false, .call (.setMtu (fam.mtu config) fam.isV6)) by
          unfold configureStep; simp [readConfig, Reply.status, hconfig₁])
    exact ⟨s₂, by simp [Server.exec_cons, hstep₁, Loopback.status, hf, hstep₂],
      by simp [hshared₂, hshared₁, Effect.apply], hpc₂⟩

/-- Run without interruption and answered as the kernel model answers, the steps of a
configure() or configure6() run from ipDevices.Get() through SetMTU make the calls of the
sequential setAddresses model, in order, and end where its error sends them; so what is
proved of `setAddressesFor` holds of these steps. By the phase lemmas and
`Server.exec_replies` for the loops.
-/
theorem Server.setAddresses_refines {config : ClusterConfig} {kernel : Loopback}
    (hpc : s.periodic[i]? = some (.reconcile task fam .getDevices))
    (hconfig : s.config = some config) (hlive : s.crashed = false)
    : ∃ s' made, s.exec helpers (setAddressesReplies fam helpers fails config kernel i) = some s'
      ∧ s'.toShared = { s.toShared with calls := s.calls ++ made }
      ∧ (setAddressesFor fam helpers fails config kernel).1.calls = kernel.calls ++ made
      ∧ s'.periodic[i]? = some (if (setAddressesFor fam helpers fails config kernel).2
          then task.after fam false else .reconcile task fam fam.afterMtu) := by
  cases hget : fails kernel.calls.length
  · rw [setAddressesFor_of_get hget]
    obtain ⟨s₂, hexec₂, hpc₂, hshared₂⟩ :=
      @Server.exec_get_compare helpers s i task fam config kernel hpc hconfig hlive
    obtain ⟨s₃, made, hexec₃, hshared₃, hissued, hpc₃⟩ :=
      @Server.exec_replies helpers fails s₂ i task fam (kernel.apply helpers .get) _ hpc₂
        (by simp [hshared₂, hlive])
    have hrun₃ : s.exec helpers ([.periodic i (.reply (.devices kernel.devices4
        kernel.devices6)), .periodic i .run] ++ (kernel.apply helpers .get).replies helpers
        fails i (fam.diffCalls helpers config (fam.devices kernel))) = some s₃ := by
      rw [Server.exec_append, hexec₂, Option.some_bind, hexec₃]
    cases hloops : ((kernel.apply helpers .get).issueAll helpers fails
        (fam.diffCalls helpers config (fam.devices kernel))).2
    · obtain ⟨s₄, hexec₄, hshared₄, hpc₄⟩ :=
        @Server.exec_setMtu helpers fails s₃ i task fam config
          ((kernel.apply helpers .get).issueAll helpers fails
            (fam.diffCalls helpers config (fam.devices kernel))).1
          (by simpa [hloops] using hpc₃) (by simp [hshared₃, hshared₂, hconfig])
          (by simp [hshared₃, hshared₂, hlive])
      refine ⟨s₄, .get :: made ++ [.setMtu (fam.mtu config) fam.isV6], ?_,
        by simp [hshared₄, hshared₃, hshared₂], by simp [hloops, hissued],
        by simpa [hloops] using hpc₄⟩
      simp only [setAddressesReplies, hget, hloops, Bool.false_eq_true, ite_false]
      rw [Server.exec_append, hrun₃, Option.some_bind, hexec₄]
    · refine ⟨s₃, .get :: made, ?_, by simp [hshared₃, hshared₂], by simp [hloops, hissued],
        by simpa [hloops] using hpc₃⟩
      simpa [setAddressesReplies, hget, hloops] using hrun₃
  · obtain ⟨s₁, hstep₁, hshared₁, hpc₁⟩ := Server.step_returned hpc hlive
      (show configureStep helpers fam s .getDevices (.reply .err)
        = some (.returned false, .call .get) from rfl)
    refine ⟨s₁, [.get], by simp [setAddressesReplies, hget, Server.exec_cons, hstep₁],
      by simp [hshared₁, Effect.apply], by simp [setAddressesFor, Loopback.issue, hget], ?_⟩
    simpa [setAddressesFor, Loopback.issue, hget] using hpc₁

/-- Run without interruption and answered as the kernel model answers under any failure
schedule, the loopback part of a configure() or configure6() run makes the calls of the
sequential setAddresses, a prefix of Get, the plan for what the kernel holds and SetMTU.
Either the sequential model returns an error and the run returns it to the task, or neither
does and the run made all of them, every Del before every Add, and with Compare meeting
DiffSpec the kernel then holds exactly the family's desired devices. By
`Server.setAddresses_refines` and the lemmas of the sequential model.
-/
theorem Server.setAddresses_steps_converge {config : ClusterConfig} {kernel : Loopback}
    (hdiff : DiffSpec (fam.compare helpers))
    (hpc : s.periodic[i]? = some (.reconcile task fam .getDevices))
    (hconfig : s.config = some config) (hlive : s.crashed = false)
    : ∃ s' made, s.exec helpers (setAddressesReplies fam helpers fails config kernel i) = some s'
      ∧ s'.calls = s.calls ++ made
      ∧ (setAddressesFor fam helpers fails config kernel).1.calls = kernel.calls ++ made
      ∧ made <+: .get :: fam.diffCalls helpers config (fam.devices kernel)
          ++ [.setMtu (fam.mtu config) fam.isV6]
      ∧ (((setAddressesFor fam helpers fails config kernel).2 = true
          ∧ s'.periodic[i]? = some (task.after fam false))
        ∨ ((setAddressesFor fam helpers fails config kernel).2 = false
          ∧ s'.periodic[i]? = some (.reconcile task fam fam.afterMtu)
          ∧ made = .get :: fam.diffCalls helpers config (fam.devices kernel)
              ++ [.setMtu (fam.mtu config) fam.isV6]
          ∧ DelsBeforeAdds made
          ∧ ∀ name, name ∈ fam.devices (made.foldl (Loopback.apply helpers) kernel)
              ↔ name ∈ fam.desired helpers config)) := by
  obtain ⟨s', made, hexec, hshared, hseq, hpc'⟩ :=
    @Server.setAddresses_refines helpers fails s i task fam config kernel hpc hconfig hlive
  have hcalls : s'.calls = s.calls ++ made := by simp [hshared]
  obtain ⟨made', hprefix, hseq'⟩ := @setAddressesFor_calls fam helpers fails config kernel
  obtain rfl : made' = made := List.append_cancel_left (hseq'.symm.trans hseq)
  refine ⟨s', made', hexec, hcalls, hseq, hprefix, ?_⟩
  cases hflag : (setAddressesFor fam helpers fails config kernel).2
  · have hnext := setAddressesFor_ok (Prod.ext rfl hflag)
    obtain rfl : made' = .get :: fam.diffCalls helpers config (fam.devices kernel)
        ++ [.setMtu (fam.mtu config) fam.isV6] := by
      simpa using hseq'.symm.trans (congrArg Loopback.calls hnext)
    exact .inr ⟨rfl, by simpa [hflag] using hpc', rfl,
      Family.diffCalls_dels_before_adds fam helpers config _ _ rfl,
      Family.devices_plan hdiff config kernel⟩
  · exact .inl ⟨rfl, by simpa [hflag] using hpc'⟩

end Loops

/-- A forced configure() at ipDevices.Get() over the ConfigMap `10.0.0.1`. -/
def atGetDevices : Server :=
  { Server.initial with
    config := some ⟨["10.0.0.1"], [], [], []⟩
    periodic := [.reconcile .forced .v4 .getDevices] }

/-- On a kernel with no loopback devices and no failing call, the goroutine's steps make
Get, Add(10.0.0.1) and SetMTU, and the kernel then holds the device of 10.0.0.1. -/
theorem Server.setAddresses_steps_converge_atGetDevices
    : DiffSpec (Family.v4.compare Helpers.byVip)
      ∧ atGetDevices.periodic[0]? = some (.reconcile .forced .v4 .getDevices)
      ∧ atGetDevices.config = some ⟨["10.0.0.1"], [], [], []⟩ ∧ atGetDevices.crashed = false
      ∧ ∃ s' made, atGetDevices.exec Helpers.byVip (setAddressesReplies .v4 Helpers.byVip
            (fun _ => false) ⟨["10.0.0.1"], [], [], []⟩ ⟨[], [], []⟩ 0) = some s'
        ∧ s'.calls = atGetDevices.calls ++ made
        ∧ (setAddressesFor .v4 Helpers.byVip (fun _ => false) ⟨["10.0.0.1"], [], [], []⟩
            ⟨[], [], []⟩).1.calls = [] ++ made
        ∧ made <+: .get :: Family.v4.diffCalls Helpers.byVip ⟨["10.0.0.1"], [], [], []⟩
            (Family.v4.devices ⟨[], [], []⟩) ++ [.setMtu [] false]
        ∧ (((setAddressesFor .v4 Helpers.byVip (fun _ => false) ⟨["10.0.0.1"], [], [], []⟩
              ⟨[], [], []⟩).2 = true
            ∧ s'.periodic[0]? = some (Task.forced.after .v4 false))
          ∨ ((setAddressesFor .v4 Helpers.byVip (fun _ => false) ⟨["10.0.0.1"], [], [], []⟩
              ⟨[], [], []⟩).2 = false
            ∧ s'.periodic[0]? = some (.reconcile .forced .v4 Family.v4.afterMtu)
            ∧ made = .get :: Family.v4.diffCalls Helpers.byVip ⟨["10.0.0.1"], [], [], []⟩
                (Family.v4.devices ⟨[], [], []⟩) ++ [.setMtu [] false]
            ∧ DelsBeforeAdds made
            ∧ ∀ name, name ∈ Family.v4.devices (made.foldl (Loopback.apply Helpers.byVip)
                  ⟨[], [], []⟩)
                ↔ name ∈ Family.v4.desired Helpers.byVip ⟨["10.0.0.1"], [], [], []⟩)) :=
  ⟨listDiff_spec, rfl, rfl, rfl, Server.setAddresses_steps_converge listDiff_spec rfl rfl rfl⟩

end Ravel.Bgp
