import Ravel.Bgp.Server

/-! What one step of the bgp worker can do to the shared fields, said once: the field
lemmas of effects and deliveries, an inversion lemma over every label, and runs of steps.
-/

namespace Ravel.Bgp

-----------------------------------------------------------------------------------------
-- Effects and deliveries, field by field
-----------------------------------------------------------------------------------------

section Fields

variable (m : Shared)

@[simp] theorem Effect.apply_config (e : Effect) : (e.apply m).config = m.config := by
  cases e <;> rfl

@[simp] theorem Effect.apply_nodes (e : Effect) : (e.apply m).nodes = m.nodes := by
  cases e <;> rfl

@[simp] theorem Effect.apply_lastInboundUpdate (e : Effect)
    : (e.apply m).lastInboundUpdate = m.lastInboundUpdate := by
  cases e <;> rfl

@[simp] theorem Effect.apply_clock (e : Effect) : (e.apply m).clock = m.clock := by
  cases e <;> rfl

@[simp] theorem Delivery.apply_lastReconfigure (d : Delivery)
    : (d.apply m).lastReconfigure = m.lastReconfigure := by
  cases d <;> rfl

@[simp] theorem Delivery.apply_clock (d : Delivery) : (d.apply m).clock = m.clock := by
  cases d <;> rfl

@[simp] theorem Delivery.apply_crashed (d : Delivery) : (d.apply m).crashed = m.crashed := by
  cases d <;> rfl

@[simp] theorem Delivery.apply_calls (d : Delivery) : (d.apply m).calls = m.calls := by
  cases d <;> rfl

/-- Only the stamp moves `lastReconfigure`, to the clock. -/
theorem Effect.apply_lastReconfigure (e : Effect)
    : (e.apply m).lastReconfigure = m.lastReconfigure
      ∨ (e = .stamp ∧ (e.apply m).lastReconfigure = m.clock) := by
  cases e <;> simp [Effect.apply]

/-- An effect appends to the calls the call it makes, and nothing else. -/
theorem Effect.apply_calls (e : Effect)
    : ∃ more, (e.apply m).calls = m.calls ++ more ∧ ∀ made, made ∈ more ↔ e = .call made := by
  cases e
  case call made => exact ⟨[made], rfl, fun _ => by simp [eq_comm]⟩
  all_goals exact ⟨[], by simp [Effect.apply], fun _ => by simp⟩

/-- Only configReady() writes `newConfig`. -/
theorem Effect.apply_newConfig_of_ne {e : Effect} (he : e ≠ .clearNewConfig)
    : (e.apply m).newConfig = m.newConfig := by
  cases e
  case clearNewConfig => exact absurd rfl he
  all_goals rfl

/-- A delivery either changes nothing a reconcile reads or stamps `lastInboundUpdate`. -/
theorem Delivery.apply_snapshot (d : Delivery)
    : ((d.apply m).config = m.config ∧ (d.apply m).nodes = m.nodes
        ∧ (d.apply m).lastInboundUpdate = m.lastInboundUpdate)
      ∨ (d.apply m).lastInboundUpdate = m.clock := by
  cases d <;> simp [Delivery.apply]

end Fields

-----------------------------------------------------------------------------------------
-- What each kind of step can write
-----------------------------------------------------------------------------------------

/-- `label` is the step of a periodic goroutine at `b.lastReconfigure = time.Now()`, the
last statement of configure().
-/
def Server.StampsAt (s : Server) (label : Label) : Prop :=
  ∃ i task fam, label = .periodic i .run ∧ s.periodic[i]? = some (.reconcile task fam .stamp)

/-- What an effect tells about the step that made it: the stamp is made at the stamp
statement.
-/
def Effect.Fits (s : Server) (label : Label) : Effect → Prop
  | .stamp => s.StampsAt label
  | _ => True

/-- A delivery is the value the watcher handed over. -/
def Delivery.Fits (act : WatchesAct) : Delivery → Prop
  | .none => True
  | .nodes list => act = .nodes list
  | .config delivered => act = .config delivered

section Fits

variable {helpers : Helpers} {s : Server}

/-- The effect of a statement that reads `b.config`: a panic on a nil config, or what the
statement does with the config it read.
-/
theorem readConfig_effect {α : Type} {config : Option ClusterConfig} {stay : α}
    {use : ClusterConfig → α × Effect} {e : Effect} (h : (readConfig config stay use).2 = e)
    : (e = .panic ∧ config = none) ∨ ∃ read, (use read).2 = e := by
  cases config
  · exact .inl ⟨h.symm, rfl⟩
  · exact .inr ⟨_, h⟩

/-- A reconcile step makes the effect of its configure step. -/
theorem reconcileStep_effect {task : Task} {fam : Family} {run : ConfigurePc}
    {act : PeriodicAct} {pc' : PeriodicPc} {e : Effect}
    (h : reconcileStep helpers s task fam run act = some (pc', e))
    : ∃ progress, configureStep helpers fam s run act = some (progress, e) := by
  obtain ⟨⟨progress, e'⟩, hrun, heq⟩ := Option.map_eq_some'.mp h
  cases progress <;> cases heq <;> exact ⟨_, hrun⟩

/-- What a configure step can do to the shared fields: make a call, nothing, the stamp at
the stamp statement, or panic on a nil `b.config`; by cases on the statement.
-/
theorem configureStep_effect {fam : Family} {run : ConfigurePc} {act : PeriodicAct}
    {progress : Progress} {e : Effect}
    (h : configureStep helpers fam s run act = some (progress, e))
    : (∃ call, e = .call call) ∨ e = .none ∨ (e = .stamp ∧ run = .stamp ∧ act = .run)
      ∨ (e = .panic ∧ s.config = none) := by
  unfold configureStep at h
  split at h <;> try simp only [Option.some.injEq, Prod.mk.injEq, Option.map_eq_some',
    reduceCtorEq] at h
  case h_3 =>
    rcases readConfig_effect (congrArg Prod.snd h) with ⟨rfl, hc⟩ | ⟨_, rfl⟩
    exacts [.inr (.inr (.inr ⟨rfl, hc⟩)), .inr (.inl rfl)]
  case h_6 | h_9 =>
    obtain ⟨_, -, h⟩ := h
    rcases readConfig_effect (congrArg Prod.snd h) with ⟨rfl, hc⟩ | ⟨_, rfl⟩
    exacts [.inr (.inr (.inr ⟨rfl, hc⟩)), .inl ⟨_, rfl⟩]
  case h_4 | h_10 => obtain ⟨_, -, -, rfl⟩ := h; exact .inl ⟨_, rfl⟩
  case h_5 => exact .inr (.inl h.2.symm)
  case h_11 => exact .inr (.inr (.inl ⟨h.2.symm, rfl, rfl⟩))
  all_goals exact .inl ⟨_, h.2.symm⟩

/-- What a periodic() step can do: inside configure() or configure6() what the configure
step does, at configReady() clear the flag it takes to CheckConfigParity, elsewhere make a
call or nothing; by cases on the statement.
-/
theorem periodicStep_effect {pc pc' : PeriodicPc} {act : PeriodicAct} {e : Effect}
    (h : periodicStep helpers s pc act = some (pc', e))
    : (∃ task fam run progress, pc = .reconcile task fam run
        ∧ configureStep helpers fam s run act = some (progress, e))
      ∨ (∃ addresses, pc = .parity addresses ∧ pc' = .checkParity addresses s.newConfig
        ∧ e = .clearNewConfig)
      ∨ (∃ call, e = .call call) ∨ e = .none := by
  unfold periodicStep at h
  split at h <;> (try split at h) <;>
    try simp only [Option.some.injEq, Prod.mk.injEq, reduceCtorEq] at h
  case h_10 => exact .inr (.inl ⟨_, rfl, h.1.symm, h.2.symm⟩)
  case h_12 =>
    obtain ⟨progress, hrun⟩ := reconcileStep_effect h
    exact .inl ⟨_, _, _, progress, rfl, hrun⟩
  all_goals obtain ⟨-, rfl⟩ := h
  all_goals first | exact .inr (.inr (.inr rfl)) | exact .inr (.inr (.inl ⟨_, rfl⟩))

/-- The effect of a periodic() step fits it: only configure()'s stamp statement stamps, by
`periodicStep_effect` and `configureStep_effect`.
-/
theorem periodicStep_fits {i : Nat} {pc pc' : PeriodicPc} {act : PeriodicAct} {e : Effect}
    (hpc : s.periodic[i]? = some pc) (h : periodicStep helpers s pc act = some (pc', e))
    : e.Fits s (.periodic i act) := by
  cases e with
  | stamp =>
      obtain ⟨task, fam, run, _, rfl, hrun⟩ | ⟨_, -, -, ⟨⟩⟩ | ⟨_, ⟨⟩⟩ | ⟨⟨⟩⟩ :=
        periodicStep_effect h
      obtain ⟨_, ⟨⟩⟩ | ⟨⟨⟩⟩ | ⟨-, rfl, rfl⟩ | ⟨⟨⟩, -⟩ := configureStep_effect hrun
      exact ⟨i, task, fam, rfl, hpc⟩
  | _ => trivial

/-- The delivery of a watches() step fits its choice, by cases on the statement. -/
theorem watchesStep_fits {pc pc' : WatchesPc} {act : WatchesAct} {d : Delivery}
    (h : watchesStep helpers s pc act = some (pc', d)) : d.Fits act := by
  unfold watchesStep at h
  split at h <;> (try split at h) <;>
    simp only [Option.some.injEq, Prod.mk.injEq, reduceCtorEq] at h <;>
    obtain ⟨-, rfl⟩ := h <;> trivial

end Fits

-----------------------------------------------------------------------------------------
-- One step
-----------------------------------------------------------------------------------------

section Step

variable {helpers : Helpers} {s s' : Server} {label : Label}

/-- Every step a live process takes either lets time pass, or applies a delivery of a
watches() goroutine, or applies an effect (none for the owner's Start and Stop), by cases
on the label.
-/
theorem Server.step_cases (h : s.step helpers label = some s')
    : s.crashed = false
      ∧ ((∃ ticks, label = .advance ticks
            ∧ s'.toShared = { s.toShared with clock := s.clock + ticks })
        ∨ (∃ i act, ∃ d : Delivery, label = .watches i act ∧ d.Fits act
            ∧ s'.toShared = d.apply s.toShared)
        ∨ (∃ e : Effect, e.Fits s label ∧ s'.toShared = e.apply s.toShared)) := by
  unfold Server.step at h
  split at h
  · cases h
  rename_i live
  refine ⟨by simpa using live, ?_⟩
  have quiet : Effect.Fits s label .none := trivial
  cases label <;> dsimp only at h
  case advance ticks => exact .inl ⟨ticks, rfl, by cases h; rfl⟩
  case watches i act =>
    split at h
    · obtain ⟨⟨pc, d⟩, hstep, rfl⟩ := Option.map_eq_some'.mp h
      exact .inr (.inl ⟨i, act, d, rfl, watchesStep_fits hstep, rfl⟩)
    · cases h
  case periodic i act =>
    split at h
    · rename_i pc hpc
      obtain ⟨⟨pc', e⟩, hstep, rfl⟩ := Option.map_eq_some'.mp h
      exact .inr (.inr ⟨e, periodicStep_fits hpc hstep, rfl⟩)
    · cases h
  case cleanup reply =>
    split at h
    · cases h
      refine .inr (.inr ⟨_, ?_, rfl⟩)
      cases hc : s.config <;> simp [readConfig, hc, Effect.Fits]
    · cases h
  all_goals
    (try split at h) <;> (try cases h)
    all_goals exact .inr (.inr ⟨.none, quiet, rfl⟩)

/-- Time only moves forward, by `Server.step_cases`. -/
theorem Server.step_clock (h : s.step helpers label = some s') : s.clock ≤ s'.clock := by
  obtain ⟨-, ⟨ticks, -, hs⟩ | ⟨i, act, d, -, -, hs⟩ | ⟨e, -, hs⟩⟩ := Server.step_cases h <;>
    simp [hs]

end Step

-----------------------------------------------------------------------------------------
-- Runs of steps
-----------------------------------------------------------------------------------------

section Exec

variable {helpers : Helpers}

@[simp] theorem Server.exec_nil (s : Server) : s.exec helpers [] = some s := rfl

theorem Server.exec_cons (s : Server) (label : Label) (rest : List Label)
    : s.exec helpers (label :: rest) = (s.step helpers label).bind (·.exec helpers rest) := rfl

/-- Running two label sequences one after the other, by induction on the first. -/
theorem Server.exec_append (s : Server) (first second : List Label)
    : s.exec helpers (first ++ second) = (s.exec helpers first).bind (·.exec helpers second) := by
  induction first generalizing s with
  | nil => rfl
  | cons label rest ih =>
      simp only [List.cons_append, Server.exec_cons, ih, Option.bind_assoc]

/-- A run that reaches a state splits at its first step. -/
theorem Server.exec_cons_some {s s'' : Server} {label : Label} {rest : List Label}
    (h : s.exec helpers (label :: rest) = some s'')
    : ∃ s', s.step helpers label = some s' ∧ s'.exec helpers rest = some s'' := by
  rw [Server.exec_cons] at h
  exact Option.bind_eq_some.mp h

/-- A reachable state steps to a reachable state. -/
theorem Server.Reachable.step {s s' : Server} {label : Label} (hs : s.Reachable helpers)
    (h : s.step helpers label = some s') : s'.Reachable helpers := by
  obtain ⟨labels, hrun⟩ := hs
  exact ⟨labels ++ [label], by simp [Server.exec_append, hrun, Server.exec_cons, h]⟩

end Exec

end Ravel.Bgp
