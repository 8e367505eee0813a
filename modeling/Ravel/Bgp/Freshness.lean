import Ravel.Bgp.Steps
import Ravel.Bgp.Addresses

/-! What noUpdatesReady() tells the 2 s fast path: nothing has been delivered since the
stamp that ended the last configure(), though that run may have read an older ConfigMap.
-/

namespace Ravel.Bgp

/-- The time stamps never run ahead of the clock. -/
structure Server.Clocked (s : Server) : Prop where
  inbound : s.lastInboundUpdate ≤ s.clock
  reconfigure : s.lastReconfigure ≤ s.clock

section Step

variable {helpers : Helpers} {s s' : Server} {label : Label}

/-- A step keeps `lastReconfigure` unless it is the stamp, and keeps what a reconcile reads
unless it is a delivery of watches(), which stamps `lastInboundUpdate` with the clock; by
`Server.step_cases`.
-/
theorem Server.step_freshness (h : s.step helpers label = some s')
    : (s'.lastReconfigure = s.lastReconfigure
        ∨ (s.StampsAt label ∧ s'.lastReconfigure = s.clock))
      ∧ ((s'.config = s.config ∧ s'.nodes = s.nodes
          ∧ s'.lastInboundUpdate = s.lastInboundUpdate)
        ∨ ((∃ i act, label = .watches i act) ∧ s'.lastInboundUpdate = s.clock)) := by
  obtain ⟨-, ⟨ticks, -, hs⟩ | ⟨i, act, d, rfl, -, hs⟩ | ⟨e, fits, hs⟩⟩ := Server.step_cases h
  · simp [hs]
  · refine ⟨.inl (by simp [hs]), ?_⟩
    rcases Delivery.apply_snapshot s.toShared d with same | stamped
    · exact .inl (by simpa [hs] using same)
    · exact .inr ⟨⟨i, act, rfl⟩, by simpa [hs] using stamped⟩
  · refine ⟨?_, .inl (by simp [hs])⟩
    rcases Effect.apply_lastReconfigure s.toShared e with same | ⟨rfl, stamped⟩
    · exact .inl (by simpa [hs] using same)
    · exact .inr ⟨fits, by simpa [hs] using stamped⟩

/-- The clock bounds both stamps after every step, by `Server.step_freshness`. -/
theorem Server.Clocked.step (hc : s.Clocked) (h : s.step helpers label = some s')
    : s'.Clocked := by
  have later := Server.step_clock h
  have ⟨inbound, reconfigure⟩ := hc
  obtain ⟨hr | ⟨-, hr⟩, ⟨-, -, hi⟩ | ⟨-, hi⟩⟩ := Server.step_freshness h <;>
    exact ⟨by omega, by omega⟩

end Step

/-- Along a run from a state whose stamps do not run ahead of the clock, a state where
noUpdatesReady() holds either has the reconcile reads and `lastReconfigure` of the start,
or follows a stamp after which nothing was delivered; by induction on the run, since a
delivery stamps `lastInboundUpdate` no earlier than `lastReconfigure`.
-/
theorem Server.exec_ready {helpers : Helpers} {s₀ s : Server} {labels : List Label}
    (hc : s₀.Clocked) (h : s₀.exec helpers labels = some s) (hready : s.noUpdatesReady = true)
    : (s₀.noUpdatesReady = true ∧ s.config = s₀.config ∧ s.nodes = s₀.nodes
        ∧ s.lastReconfigure = s₀.lastReconfigure)
      ∨ ∃ pre i task fam post s₁ s₂, labels = pre ++ .periodic i .run :: post
        ∧ s₀.exec helpers pre = some s₁ ∧ s₁.periodic[i]? = some (.reconcile task fam .stamp)
        ∧ s₁.step helpers (.periodic i .run) = some s₂ ∧ s₂.exec helpers post = some s
        ∧ s.lastReconfigure = s₁.clock ∧ s.config = s₁.config ∧ s.nodes = s₁.nodes := by
  induction labels generalizing s₀ with
  | nil => cases h; exact .inl ⟨hready, rfl, rfl, rfl⟩
  | cons label rest ih =>
      obtain ⟨s', hstep, hrest⟩ := Server.exec_cons_some h
      rcases ih (hc.step hstep) hrest with
        ⟨ready, hconfig, hnodes, hrec⟩ | ⟨pre, i, task, fam, post, s₁, s₂, rfl, hpre, more⟩
      · obtain ⟨hr | ⟨⟨i, task, fam, rfl, hpc⟩, hr⟩, hsnap⟩ := Server.step_freshness hstep
        · simp only [Server.noUpdatesReady, decide_eq_true_eq] at ready ⊢
          rcases hsnap with ⟨hc', hn', hi'⟩ | ⟨-, hi'⟩
          · exact .inl ⟨by omega, hconfig.trans hc', hnodes.trans hn', hrec.trans hr⟩
          · exact absurd ready (by have := hc.reconfigure; omega)
        · obtain ⟨hc', hn', -⟩ : s'.config = s₀.config ∧ s'.nodes = s₀.nodes ∧ _ := by
            simpa using hsnap
          exact .inr ⟨[], i, task, fam, rest, s₀, s', rfl, rfl, hpc, hstep, hrest,
            hrec.trans hr, hconfig.trans hc', hnodes.trans hn'⟩
      · exact .inr ⟨label :: pre, i, task, fam, post, s₁, s₂, rfl,
          by rw [Server.exec_cons, hstep]; exact hpre, more⟩

/-- Wherever noUpdatesReady() holds, the run so far ends with the stamp of a configure()
run followed by steps that deliver nothing: `b.config` and `b.nodes` are those current at
that stamp and `lastReconfigure` is its time. By `Server.exec_ready` from NewBGPWorker,
where noUpdatesReady() is false.
-/
theorem Server.noUpdatesReady_since_stamp {helpers : Helpers} {labels : List Label}
    {s : Server} (h : Server.initial.exec helpers labels = some s)
    (hready : s.noUpdatesReady = true)
    : ∃ pre i task fam post s₁ s₂, labels = pre ++ .periodic i .run :: post
      ∧ Server.initial.exec helpers pre = some s₁
      ∧ s₁.periodic[i]? = some (.reconcile task fam .stamp)
      ∧ s₁.step helpers (.periodic i .run) = some s₂ ∧ s₂.exec helpers post = some s
      ∧ s.lastReconfigure = s₁.clock ∧ s.config = s₁.config ∧ s.nodes = s₁.nodes := by
  rcases Server.exec_ready ⟨Nat.le_refl 0, Nat.le_refl 0⟩ h hready with ⟨fresh, -⟩ | split
  · exact absurd fresh (by decide)
  · exact split

/-- A forced reconcile of ConfigMap `10.0.0.1`, during which ConfigMap `10.0.0.2` arrives
after the last read of configure() and before its stamp, one tick later.
-/
def lateDelivery : List Label :=
  [.start, .watches 0 .run, .watches 0 (.config ⟨["10.0.0.1"], [], [], []⟩),
    .periodic 0 .run, .periodic 0 .reconfigureTick, .periodic 0 (.reply (.devices [] [])),
    .periodic 0 .run, .periodic 0 (.reply .ok), .periodic 0 .run, .periodic 0 (.reply .ok),
    .periodic 0 (.reply (.addrs [])), .periodic 0 (.reply .ok), .periodic 0 (.reply .ok),
    .watches 0 .run, .watches 0 (.config ⟨["10.0.0.2"], [], [], []⟩), .advance 1,
    .periodic 0 .run]

/-- After `lateDelivery` noUpdatesReady() holds, though SetIPVS was never called with the
current config.
-/
theorem Server.fast_path_skips_late_delivery
    : ¬ ∀ labels s, Server.initial.exec Helpers.byVip labels = some s →
        s.noUpdatesReady = true → Call.setIpvs s.nodes s.config false ∈ s.calls := by
  intro h
  have hrun := (Option.some_get (by decide :
    (Server.initial.exec Helpers.byVip lateDelivery).isSome = true)).symm
  exact absurd (h _ _ hrun (by decide)) (by decide)

/-- `lateDelivery` splits at the stamp of its configure() run. -/
theorem Server.noUpdatesReady_since_stamp_late : ∃ s,
    Server.initial.exec Helpers.byVip lateDelivery = some s ∧ s.noUpdatesReady = true
      ∧ ∃ pre i task fam post s₁ s₂, lateDelivery = pre ++ .periodic i .run :: post
        ∧ Server.initial.exec Helpers.byVip pre = some s₁
        ∧ s₁.periodic[i]? = some (.reconcile task fam .stamp)
        ∧ s₁.step Helpers.byVip (.periodic i .run) = some s₂
        ∧ s₂.exec Helpers.byVip post = some s
        ∧ s.lastReconfigure = s₁.clock ∧ s.config = s₁.config ∧ s.nodes = s₁.nodes := by
  have hrun := (Option.some_get (by decide :
    (Server.initial.exec Helpers.byVip lateDelivery).isSome = true)).symm
  exact ⟨_, hrun, by decide, Server.noUpdatesReady_since_stamp hrun (by decide)⟩

end Ravel.Bgp
