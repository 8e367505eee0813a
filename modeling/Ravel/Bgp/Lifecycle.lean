import Ravel.Bgp.Steps
import Ravel.Bgp.Addresses

/-! Start() and Stop() against the goroutines they spawn: Stop waits on a channel only the
end of the root context fills, so cleanup can run beside a reconcile; and a read of a nil
`b.config`, in configure() or in cleanup, panics.
-/

namespace Ravel.Bgp

-----------------------------------------------------------------------------------------
-- Stop beside a running reconcile
-----------------------------------------------------------------------------------------

/-- Start the worker, deliver ConfigMap `10.0.0.1`, take the forced tick, then Stop: its
wait ends by the 5 s timer and cleanup tears the loopback addresses down.
-/
def stopDuringReconcile : List Label :=
  [.start, .watches 0 .run, .watches 0 (.config ⟨["10.0.0.1"], [], [], []⟩), .periodic 0 .run,
    .periodic 0 .reconfigureTick, .stop, .timeout, .cleanup .ok]

/-- Then let that reconcile fail, start the worker again, and let both periodic() loops
reach their select.
-/
def restartDuringReconcile : List Label :=
  stopDuringReconcile ++ [.periodic 0 (.reply .err), .periodic 0 (.reply .err), .start,
    .periodic 0 .run, .periodic 1 .run]

/-- After `stopDuringReconcile` Stop has returned, yet the reconcile it did not wait for adds
the address of `10.0.0.1` back after Teardown; and once the worker is started again, the
old periodic() loop selects on the new watch context beside the new one.
-/
theorem Server.stop_overlaps_reconcile
    : (Server.initial.exec Helpers.byVip (stopDuringReconcile
        ++ [.periodic 0 (.reply (.devices [] [])), .periodic 0 .run, .periodic 0 (.reply .ok)])).map
        (fun s => (s.owner, s.calls))
      = some (.stopped, [.teardown ["10.0.0.1"] [], .get, .add "10.0.0.1" false])
    ∧ (Server.initial.exec Helpers.byVip restartDuringReconcile).map
        (fun s => (s.periodic, s.watchDone 2))
      = some ([.select 2, .select 2], false) := by
  decide

-----------------------------------------------------------------------------------------
-- What Start and Stop keep
-----------------------------------------------------------------------------------------

/-- What the owner's Start and Stop calls keep: one watches() and one periodic() goroutine
per Start, every watch context before the current one cancelled, and the current one
cancelled exactly while the worker is not started.
-/
structure Server.Owned (s : Server) : Prop where
  periodicCount : s.periodic.length = s.ctxWatch
  watchesCount : s.watches.length = s.ctxWatch
  older : ∀ w, 0 < w → w < s.ctxWatch → w ∈ s.cancelled
  current : 0 < s.ctxWatch → (s.ctxWatch ∈ s.cancelled ↔ s.owner ≠ .started)
  unstarted : s.ctxWatch = 0 → s.owner = .stopped
  issued : ∀ w ∈ s.cancelled, 0 < w ∧ w ≤ s.ctxWatch

section Owned

variable {helpers : Helpers} {s s' : Server} {label : Label}

/-- A step that keeps the contexts, whether the worker is started, and the number of
goroutines keeps `Server.Owned`.
-/
theorem Server.Owned.frame (hs : s.Owned) (hc : s'.ctxWatch = s.ctxWatch)
    (hcan : s'.cancelled = s.cancelled) (ho : s'.owner = .started ↔ s.owner = .started)
    (hstop : s.owner = .stopped → s'.owner = .stopped)
    (hp : s'.periodic.length = s.periodic.length) (hw : s'.watches.length = s.watches.length)
    : s'.Owned where
  periodicCount := by rw [hp, hc, hs.periodicCount]
  watchesCount := by rw [hw, hc, hs.watchesCount]
  older w := by rw [hc, hcan]; exact hs.older w
  current := by rw [hc, hcan, Ne, ho]; exact hs.current
  unstarted := by rw [hc]; exact fun h => hstop (hs.unstarted h)
  issued := by rw [hc, hcan]; exact hs.issued

/-- Every step keeps `Server.Owned`: Start opens a context no one has cancelled, Stop
cancels the current one, and no other step touches the contexts or the number of
goroutines. By cases on the label.
-/
theorem Server.Owned.step (hs : s.Owned) (h : s.step helpers label = some s') : s'.Owned := by
  unfold Server.step at h
  split at h
  · cases h
  cases label <;> dsimp only at h
  case start =>
    split at h
    · rename_i stopped
      cases h
      refine ⟨by simp [hs.periodicCount], by simp [hs.watchesCount], ?_, ?_, by simp, ?_⟩
        <;> dsimp only
      · intro w hw hlt
        rcases Nat.lt_succ_iff_lt_or_eq.mp hlt with hlt | rfl
        · exact hs.older w hw hlt
        · exact (hs.current hw).mpr (by simp [stopped])
      · simp only [ne_eq, not_true_eq_false, iff_false]
        intro _ hmem
        have := (hs.issued _ hmem).2
        omega
      · intro w hw
        have := hs.issued w hw
        exact ⟨this.1, by omega⟩
    · cases h
  case stop =>
    split at h
    · rename_i started
      cases h
      refine ⟨hs.periodicCount, hs.watchesCount, fun w hw hlt => .tail _ (hs.older w hw hlt),
        fun _ => by simp, fun h0 => absurd (hs.unstarted h0) (by simp [started]), ?_⟩
      intro w hw
      rcases List.mem_cons.mp hw with rfl | hw
      · exact ⟨Nat.pos_of_ne_zero fun h0 => by simp [hs.unstarted h0] at started, le_rfl⟩
      · exact hs.issued w hw
    · cases h
  case timeout =>
    split at h
    · rename_i waiting
      cases h
      exact hs.frame rfl rfl (by simp [waiting]) (by simp [waiting]) rfl rfl
    · cases h
  case receiveDone i =>
    split at h
    · rename_i ready
      cases h
      exact hs.frame rfl rfl (by simp [ready.1]) (by simp [ready.1]) (by simp) rfl
    · cases h
  case cleanup reply =>
    split at h
    · rename_i ready
      cases h
      exact hs.frame rfl rfl (by simp [ready.1]) (by simp [ready.1]) rfl rfl
    · cases h
  case periodic i act =>
    split at h
    · obtain ⟨⟨pc, e⟩, -, rfl⟩ := Option.map_eq_some'.mp h
      exact hs.frame rfl rfl Iff.rfl id (by simp) rfl
    · cases h
  case watches i act =>
    split at h
    · obtain ⟨⟨pc, d⟩, -, rfl⟩ := Option.map_eq_some'.mp h
      exact hs.frame rfl rfl Iff.rfl id rfl (by simp)
    · cases h
  all_goals
    cases h
    exact hs.frame rfl rfl Iff.rfl id rfl rfl

end Owned

/-- In every reachable state of the worker there is one watches() and one periodic()
goroutine per Start, every watch context but the current one is cancelled, and the current
one is cancelled exactly while the worker is not started: a loop that outlives its Stop
is never the one the owner's context belongs to. By `Server.Owned.step` along the run from
NewBGPWorker.
-/
theorem Server.reachable_owned {helpers : Helpers} {s : Server} (hs : s.Reachable helpers)
    : s.Owned := by
  obtain ⟨labels, h⟩ := hs
  suffices ∀ s₀ : Server, s₀.Owned → s₀.exec helpers labels = some s → s.Owned from
    this _ ⟨rfl, rfl, fun _ _ h => absurd h (Nat.not_lt_zero _), fun h => absurd h (by decide),
      fun _ => rfl, fun _ h => absurd h (List.not_mem_nil _)⟩ h
  clear h
  induction labels with
  | nil => intro s₀ hs₀ h; cases h; exact hs₀
  | cons label rest ih =>
      intro s₀ hs₀ h
      obtain ⟨s₁, hstep, hrest⟩ := Server.exec_cons_some h
      exact ih s₁ (hs₀.step hstep) hrest

/-- `restartDuringReconcile` keeps `Server.Owned`: its two loops belong to two Starts, and
only the first context is cancelled.
-/
theorem Server.reachable_owned_restarted : ∃ s,
    Server.initial.exec Helpers.byVip restartDuringReconcile = some s ∧ s.Owned := by
  have hrun := (Option.some_get (by decide :
    (Server.initial.exec Helpers.byVip restartDuringReconcile).isSome = true)).symm
  exact ⟨_, hrun, Server.reachable_owned ⟨_, hrun⟩⟩

-----------------------------------------------------------------------------------------
-- Reads of a nil config
-----------------------------------------------------------------------------------------

/-- Before any ConfigMap arrives, the forced tick's configure() and a Stop's cleanup both
read the nil `b.config`, whatever the helpers do.
-/
theorem Server.nil_config_panics (helpers : Helpers)
    : (Server.initial.exec helpers [.start, .periodic 0 .run, .periodic 0 .reconfigureTick,
        .periodic 0 (.reply (.devices [] [])), .periodic 0 .run]).map (·.crashed) = some true
      ∧ (Server.initial.exec helpers [.start, .stop, .timeout, .cleanup .ok]).map (·.crashed)
        = some true :=
  ⟨rfl, rfl⟩

end Ravel.Bgp
