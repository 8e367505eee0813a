import Ravel.Bgp.Reconfigure

/-! The drift path of performReconfigure against the forced tick: until a configure()
returns an error, the task of a reconcile is not observable, so both issue the same calls
under every interleaving and every call result.
-/

namespace Ravel.Bgp

/-- A periodic goroutine's position with the task of its reconcile forgotten: a drift
reconcile is read as the forced tick's.
-/
def PeriodicPc.asForced : PeriodicPc → PeriodicPc
  | .reconcile _ fam run => .reconcile .forced fam run
  | pc => pc

/-- The state with the task of every reconcile forgotten. -/
def Server.forget (s : Server) : Server :=
  { s with periodic := s.periodic.map PeriodicPc.asForced }

/-- The step is a periodic goroutine whose configure() (v4) returns an error, the one
place the two tasks part.
-/
def Server.failsConfigure (helpers : Helpers) (s : Server) : Label → Bool
  | .periodic j act =>
      match s.periodic[j]? with
      | some (.reconcile _ .v4 run) =>
          (configureStep helpers .v4 s run act).map (·.1) == some (.returned false)
      | _ => false
  | _ => false

/-- Some step of the run from `s` is a configure() returning an error. -/
def Server.failsAlong (helpers : Helpers) (s : Server) : List Label → Bool
  | [] => false
  | label :: rest =>
      s.failsConfigure helpers label
        || match s.step helpers label with
          | some s' => s'.failsAlong helpers rest
          | none => false

-----------------------------------------------------------------------------------------
-- Positions up to the task
-----------------------------------------------------------------------------------------

/-- Positions equal up to the task are equal or the same statement of two reconciles, by
cases on both.
-/
theorem PeriodicPc.asForced_eq {pc pc' : PeriodicPc} (h : pc.asForced = pc'.asForced)
    : pc = pc' ∨ ∃ task task' fam run,
        pc = .reconcile task fam run ∧ pc' = .reconcile task' fam run := by
  cases pc <;> cases pc' <;> cases h <;> first
    | exact .inl rfl
    | exact .inr ⟨_, _, _, _, rfl, rfl⟩

/-- Where a returning run leaves periodic() does not depend on the task, except after a
failed configure(), by cases on the task, the family and the result.
-/
theorem Task.after_asForced (task task' : Task) (fam : Family) (ok : Bool)
    (h : fam = .v6 ∨ ok = true)
    : (task.after fam ok).asForced = (task'.after fam ok).asForced := by
  rcases h with rfl | rfl <;> cases task <;> cases task' <;> (try cases fam) <;> rfl

/-- Positions equal up to the task step alike up to the task, unless the step is a
configure() returning an error; by `PeriodicPc.asForced_eq` and `Task.after_asForced`.
-/
theorem periodicStep_asForced {helpers : Helpers} {s : Server} {pc pc' : PeriodicPc}
    {act : PeriodicAct} (hpc : pc.asForced = pc'.asForced)
    (hok : ∀ task run, pc = .reconcile task .v4 run →
      (configureStep helpers .v4 s run act).map (·.1) ≠ some (.returned false))
    : (periodicStep helpers s pc act).map (fun r => (r.1.asForced, r.2))
      = (periodicStep helpers s pc' act).map (fun r => (r.1.asForced, r.2)) := by
  rcases PeriodicPc.asForced_eq hpc with rfl | ⟨task, task', fam, run, rfl, rfl⟩
  · rfl
  show (reconcileStep helpers s task fam run act).map _
    = (reconcileStep helpers s task' fam run act).map _
  simp only [reconcileStep, Option.map_map]
  cases hstep : configureStep helpers fam s run act with
  | none => rfl
  | some r =>
      obtain ⟨progress, e⟩ := r
      cases progress with
      | next run' => rfl
      | returned ok =>
          have hfam : fam = .v6 ∨ ok = true := by
            cases fam
            · cases ok
              · exact absurd (by simp [hstep]) (hok task run rfl)
              · exact .inr rfl
            · exact .inl rfl
          simp [Task.after_asForced task task' fam ok hfam]

-----------------------------------------------------------------------------------------
-- Steps up to the task
-----------------------------------------------------------------------------------------

/-- States equal up to the task differ only in their periodic goroutines' positions. -/
theorem Server.forget_eq {s t : Server} (h : t.forget = s.forget)
    : t = { s with periodic := t.periodic }
      ∧ t.periodic.map PeriodicPc.asForced = s.periodic.map PeriodicPc.asForced := by
  cases s
  cases t
  simp only [Server.forget, Server.mk.injEq] at h
  obtain ⟨rfl, rfl, rfl, rfl, hp, rfl, rfl⟩ := h
  exact ⟨rfl, hp⟩

/-- Positions equal up to the task agree on where a goroutine blocks on doneChan. -/
theorem PeriodicPc.getElem?_sendDone {p q : List PeriodicPc}
    (h : p.map PeriodicPc.asForced = q.map PeriodicPc.asForced) {i : Nat}
    (hq : q[i]? = some .sendDone) : p[i]? = some .sendDone := by
  have := congrArg (·[i]?) h
  simp only [List.getElem?_map, hq, Option.map_some'] at this
  obtain ⟨pc, hp, hpc⟩ := Option.map_eq_some'.mp this
  cases pc <;> cases hpc
  exact hp

section Step

variable {helpers : Helpers} {s s' : Server} {p : List PeriodicPc}

/-- A step from a state equal up to the task reaches a state equal up to the task, unless
it is a configure() returning an error; by cases on the label, the periodic case by
`periodicStep_asForced`. Only the periodic goroutines' positions differ, and no step reads
them beyond `sendDone`.
-/
theorem Server.step_forget {label : Label} (h : s.step helpers label = some s')
    (hp : p.map PeriodicPc.asForced = s.periodic.map PeriodicPc.asForced)
    (hok : s.failsConfigure helpers label = false)
    : ∃ t', ({ s with periodic := p } : Server).step helpers label = some t'
      ∧ t'.forget = s'.forget := by
  unfold Server.step at h ⊢
  split at h
  · cases h
  rename_i live
  rw [if_neg live]
  cases label <;> dsimp only at h ⊢
  case periodic j act =>
    split at h
    · rename_i pc hpc
      obtain ⟨⟨q, e⟩, hstep, rfl⟩ := Option.map_eq_some'.mp h
      have hmap := congrArg (·[j]?) hp
      simp only [List.getElem?_map, hpc, Option.map_some'] at hmap
      obtain ⟨pc', hpc', hsame⟩ := Option.map_eq_some'.mp hmap
      have hok' : ∀ task run, pc = .reconcile task .v4 run →
          (configureStep helpers .v4 s run act).map (·.1) ≠ some (.returned false) := by
        rintro task run rfl
        simp only [Server.failsConfigure, hpc] at hok
        exact ne_of_beq_false hok
      have := periodicStep_asForced hsame.symm hok'
      rw [hstep] at this
      obtain ⟨⟨q', e'⟩, hstep', heq⟩ := Option.map_eq_some'.mp this.symm
      simp only [Prod.mk.injEq] at heq
      obtain ⟨hq, rfl⟩ := heq
      refine ⟨_, by rw [hpc']; exact Option.map_eq_some'.mpr ⟨_, hstep', rfl⟩, ?_⟩
      simp [Server.forget, List.map_set, hp, hq]
    · cases h
  case receiveDone i =>
    split at h
    · rename_i ready
      cases h
      exact ⟨_, if_pos ⟨ready.1, PeriodicPc.getElem?_sendDone hp ready.2⟩,
        by simp [Server.forget, List.map_set, hp]⟩
    · cases h
  case watches i act =>
    split at h
    · obtain ⟨⟨q, d⟩, hstep, rfl⟩ := Option.map_eq_some'.mp h
      exact ⟨_, Option.map_eq_some'.mpr ⟨_, hstep, rfl⟩, by simp [Server.forget, hp]⟩
    · cases h
  all_goals
    first
    | (cases h; exact ⟨_, rfl, by simp [Server.forget, hp]⟩)
    | (split at h
       · cases h
         exact ⟨_, if_pos ‹_›, by simp [Server.forget, hp]⟩
       · cases h)

end Step

/-- Along a run with no failed configure(), a state equal up to the task runs alike, by
induction on the run and `Server.step_forget`.
-/
theorem Server.exec_forget {helpers : Helpers} {s s' t : Server} {labels : List Label}
    (h : s.exec helpers labels = some s') (ht : t.forget = s.forget)
    (hok : s.failsAlong helpers labels = false)
    : ∃ t', t.exec helpers labels = some t' ∧ t'.forget = s'.forget := by
  induction labels generalizing s t with
  | nil => cases h; exact ⟨t, rfl, ht⟩
  | cons label rest ih =>
      obtain ⟨s₁, hstep, hrest⟩ := Server.exec_cons_some h
      simp only [Server.failsAlong, Bool.or_eq_false_iff, hstep] at hok
      obtain ⟨hshape, hp⟩ := Server.forget_eq ht
      obtain ⟨t₁, hstep', ht₁⟩ := Server.step_forget hstep hp hok.1
      obtain ⟨t', hrun, hend⟩ := ih hrest ht₁ hok.2
      refine ⟨t', ?_, hend⟩
      rw [hshape, Server.exec_cons, hstep']
      exact hrun

/-- A drift reconcile makes the calls the forced tick's reconcile makes from the same
state, under every interleaving and every call result, as long as no configure() returns
an error: both runs reach the same shared fields and the same positions up to the task.
By `Server.exec_forget`, since the two start states are equal up to the task.
-/
theorem Server.drift_runs_as_forced {helpers : Helpers} {s s' : Server} {i : Nat}
    {labels : List Label} (hpc : s.periodic[i]? = some (.reconcile .fast .v4 .getDevices))
    (h : s.exec helpers labels = some s') (hok : s.failsAlong helpers labels = false)
    : ∃ t', ({ s with periodic := s.periodic.set i (.reconcile .forced .v4 .getDevices) }
          : Server).exec helpers labels = some t'
      ∧ t'.toShared = s'.toShared ∧ t'.forget = s'.forget := by
  have hstart : ({ s with periodic := s.periodic.set i (.reconcile .forced .v4 .getDevices) }
      : Server).forget = s.forget := by
    simp only [Server.forget, List.map_set]
    congr 1
    apply List.ext_getElem?
    intro j
    by_cases hj : i = j
    · subst hj
      have hlen := (List.getElem?_eq_some_iff.mp hpc).1
      rw [List.getElem?_set, List.getElem?_map, hpc]
      simp [hlen, PeriodicPc.asForced]
    · simp [List.getElem?_set, hj]
  obtain ⟨t', hrun, hend⟩ := Server.exec_forget h hstart hok
  exact ⟨t', hrun, congrArg (·.toShared) hend, hend⟩

/-- The 2 s tick of `tickReady` up to a parity check that reports drift. -/
def driftReady : List Label :=
  tickReady ++ [.periodic 0 .bgpTick, .periodic 0 .run, .periodic 0 (.reply (.devices [] [])),
    .periodic 0 .run, .periodic 0 (.reply (.parity false))]

/-- A configure() and configure6() run of periodic goroutine 0 in which every call
succeeds.
-/
def reconcileOk : List Label :=
  [.periodic 0 (.reply (.devices [] [])), .periodic 0 .run, .periodic 0 (.reply .ok),
    .periodic 0 .run, .periodic 0 (.reply .ok), .periodic 0 (.reply (.addrs [])),
    .periodic 0 (.reply .ok), .periodic 0 (.reply .ok), .periodic 0 .run,
    .periodic 0 (.reply (.devices [] [])), .periodic 0 .run, .periodic 0 .run,
    .periodic 0 (.reply .ok), .periodic 0 (.reply .ok), .periodic 0 (.reply .ok)]

/-- The drift reconcile of `driftReady` runs `reconcileOk` as the forced one would. -/
theorem Server.drift_runs_as_forced_ok : ∃ s s',
    Server.initial.exec Helpers.byVip driftReady = some s
      ∧ s.periodic[0]? = some (.reconcile .fast .v4 .getDevices)
      ∧ s.exec Helpers.byVip reconcileOk = some s'
      ∧ s.failsAlong Helpers.byVip reconcileOk = false
      ∧ ∃ t', ({ s with periodic := s.periodic.set 0 (.reconcile .forced .v4 .getDevices) }
            : Server).exec Helpers.byVip reconcileOk = some t'
        ∧ t'.toShared = s'.toShared ∧ t'.forget = s'.forget := by
  obtain ⟨s', hall⟩ := Option.isSome_iff_exists.mp (by decide :
    (Server.initial.exec Helpers.byVip (driftReady ++ reconcileOk)).isSome = true)
  rw [Server.exec_append] at hall
  obtain ⟨s, hpre, hrun⟩ := Option.bind_eq_some.mp hall
  have facts : (Server.initial.exec Helpers.byVip driftReady).map
      (fun s => (s.periodic[0]?, s.failsAlong Helpers.byVip reconcileOk))
      = some (some (.reconcile .fast .v4 .getDevices), false) := by
    decide
  rw [hpre] at facts
  obtain ⟨hpc, hok⟩ := Prod.mk.inj (Option.some.inj facts)
  exact ⟨s, s', hpre, hpc, hrun, hok, Server.drift_runs_as_forced hpc hrun hok⟩

end Ravel.Bgp
