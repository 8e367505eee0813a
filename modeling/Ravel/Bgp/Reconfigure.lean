import Ravel.Bgp.Steps
import Ravel.Bgp.Addresses

/-! performReconfigure() beside the forced tick: configReady() takes `newConfig` and clears
it whatever follows, the flag it took goes to CheckConfigParity, and a drift reconcile
returns on a failed configure() where the forced tick goes on to configure6().
-/

namespace Ravel.Bgp

/-- Start the worker, deliver ConfigMap `10.0.0.1`, and reach the select of periodic(). -/
def tickReady : List Label :=
  [.start, .watches 0 .run, .watches 0 (.config ⟨["10.0.0.1"], [], [], []⟩), .periodic 0 .run]

/-- A 2 s tick whose performReconfigure finds updates, sees drift in its parity check, and
whose configure() fails at its first call.
-/
def failedDrift : List Label :=
  [.periodic 0 .bgpTick, .periodic 0 .run, .periodic 0 (.reply (.devices [] [])),
    .periodic 0 .run, .periodic 0 (.reply (.parity false)), .periodic 0 (.reply .err)]

/-- From the select of `tickReady`, a drift reconcile whose configure() fails returns to the
top of periodic(), while the forced tick goes on to configure6() after the same failure.
-/
theorem Server.drift_skips_configure6 (helpers : Helpers)
    : (Server.initial.exec helpers (tickReady ++ failedDrift)).map (·.periodic) = some [.top]
      ∧ (Server.initial.exec helpers
          (tickReady ++ [.periodic 0 .reconfigureTick, .periodic 0 (.reply .err)])).map
        (·.periodic) = some [.reconcile .forced .v6 .getDevices] :=
  ⟨rfl, rfl⟩

-----------------------------------------------------------------------------------------
-- The hand-off of newConfig
-----------------------------------------------------------------------------------------

/-- The forceReconfigure flag a CheckConfigParity call is passed; other calls pass none. -/
def Call.parityFlag : Call → Option Bool
  | .checkConfigParity _ _ _ newConfig => some newConfig
  | .get | .del _ | .add .. | .setMtu .. | .teardown .. | .bgpGet | .bgpSet .. | .bgpSetV6 _
  | .setIpvs .. => none

/-- A raised flag is kept: it is still in `b.newConfig`, or a periodic() goroutine took it
with configReady() and stands at its CheckConfigParity call, or it was passed to a
CheckConfigParity call among `made`.
-/
def Server.FlagKept (s : Server) (made : List Call) : Prop :=
  s.newConfig = true
    ∨ (∃ (j : Nat) (addresses : List String),
        s.periodic[j]? = some (PeriodicPc.checkParity addresses true))
    ∨ ∃ call ∈ made, call.parityFlag = some true

section Handoff

variable {helpers : Helpers} {s s' : Server}

/-- configReady() is the only periodic() statement that clears the flag, and the goroutine
takes the flag it read to its CheckConfigParity call; by `periodicStep_effect`, since no
configure step clears it.
-/
theorem periodicStep_clearNewConfig {pc pc' : PeriodicPc} {act : PeriodicAct}
    (h : periodicStep helpers s pc act = some (pc', .clearNewConfig))
    : ∃ addresses, pc' = .checkParity addresses s.newConfig := by
  obtain ⟨_, _, _, _, -, hrun⟩ | ⟨addresses, -, rfl, -⟩ | ⟨_, ⟨⟩⟩ | ⟨⟨⟩⟩ :=
    periodicStep_effect h
  · obtain ⟨_, ⟨⟩⟩ | ⟨⟨⟩⟩ | ⟨⟨⟩, -⟩ | ⟨⟨⟩, -⟩ := configureStep_effect hrun
  · exact ⟨addresses, rfl⟩

/-- At its CheckConfigParity call a goroutine passes the flag it took, whatever the call
returns.
-/
theorem periodicStep_checkParity {addresses : List String} {newConfig : Bool}
    {act : PeriodicAct} {pc' : PeriodicPc} {e : Effect}
    (h : periodicStep helpers s (.checkParity addresses newConfig) act = some (pc', e))
    : e = .call (.checkConfigParity s.nodes s.config addresses newConfig) := by
  obtain _ | _ | _ | _ | _ | _ | (_ | _ | _ | _ | (_ | _)) := act <;> cases h <;> rfl

/-- The flag is kept if each place that holds it in `s` still holds it, or hands it on, in
`s'`.
-/
theorem Server.FlagKept.elim {made more : List Call} (hk : s.FlagKept made)
    (hn : s.newConfig = true → s'.FlagKept (made ++ more))
    (hp : ∀ (j : Nat) (addresses : List String),
      s.periodic[j]? = some (PeriodicPc.checkParity addresses true) → s'.FlagKept (made ++ more))
    : s'.FlagKept (made ++ more) := by
  rcases hk with hk | ⟨j, addresses, hk⟩ | ⟨call, hmem, hk⟩
  · exact hn hk
  · exact hp j addresses hk
  · exact Or.inr (Or.inr ⟨call, List.mem_append_left _ hmem, hk⟩)

/-- A step that keeps `newConfig` and every goroutine holding the flag keeps the flag. -/
theorem Server.FlagKept.frame {made more : List Call} (hk : s.FlagKept made)
    (hn : s.newConfig = true → s'.newConfig = true)
    (hp : ∀ (j : Nat) (addresses : List String),
      s.periodic[j]? = some (PeriodicPc.checkParity addresses true)
        → s'.periodic[j]? = some (PeriodicPc.checkParity addresses true))
    : s'.FlagKept (made ++ more) :=
  hk.elim (fun h => Or.inl (hn h))
    fun j addresses h => Or.inr (Or.inl ⟨j, addresses, hp j addresses h⟩)

/-- One step keeps the flag, by cases on the label: a periodic() step by
`periodicStep_clearNewConfig` and `periodicStep_checkParity`, the other steps since they
neither clear the flag nor move a goroutine that holds one.
-/
theorem Server.step_flagKept {label : Label} {made : List Call} (hk : s.FlagKept made)
    (h : s.step helpers label = some s')
    : ∃ more, s'.calls = s.calls ++ more ∧ s'.FlagKept (made ++ more) := by
  unfold Server.step at h
  split at h
  · cases h
  cases label <;> dsimp only at h
  case start =>
    split at h <;> cases h
    refine ⟨[], by simp, hk.frame id fun j _ hj => ?_⟩
    rw [List.getElem?_append_left (List.getElem?_eq_some_iff.mp hj).1, hj]
  case receiveDone i =>
    split at h <;> cases h
    rename_i ready
    refine ⟨[], by simp, hk.frame id fun j _ hj => ?_⟩
    have hij : i ≠ j := by rintro rfl; rw [ready.2] at hj; cases hj
    simpa [List.getElem?_set, hij] using hj
  case cleanup reply =>
    split at h <;> cases h
    obtain ⟨more, hcalls, -⟩ := Effect.apply_calls s.toShared _
    refine ⟨more, hcalls, hk.frame (fun hn => ?_) fun _ _ => id⟩
    show (Effect.apply _ _).newConfig = true
    unfold readConfig
    split <;> exact hn
  case periodic i act =>
    split at h
    · rename_i pc hpc
      obtain ⟨⟨pc', e⟩, hstep, rfl⟩ := Option.map_eq_some'.mp h
      obtain ⟨more, hcalls, hmade⟩ := Effect.apply_calls s.toShared e
      refine ⟨more, hcalls, hk.elim (fun hn => ?_) fun j addresses hj => ?_⟩
      · by_cases he : e = .clearNewConfig
        · subst he
          obtain ⟨addresses, rfl⟩ := periodicStep_clearNewConfig hstep
          refine Or.inr (Or.inl ⟨i, addresses, ?_⟩)
          simp [List.getElem?_set, (List.getElem?_eq_some_iff.mp hpc).1, hn]
        · exact Or.inl ((Effect.apply_newConfig_of_ne _ he).trans hn)
      · by_cases hij : i = j
        · subst hij
          rw [hpc] at hj
          cases hj
          have hcall := (hmade _).mpr (periodicStep_checkParity hstep)
          exact Or.inr (Or.inr ⟨_, List.mem_append_right _ hcall, rfl⟩)
        · exact Or.inr (Or.inl ⟨j, addresses, by simpa [List.getElem?_set, hij] using hj⟩)
    · cases h
  case watches i act =>
    split at h
    · obtain ⟨⟨pc', d⟩, -, rfl⟩ := Option.map_eq_some'.mp h
      exact ⟨[], by simp, hk.frame (fun hn => by cases d <;> simp [Delivery.apply, hn])
        fun _ _ => id⟩
    · cases h
  all_goals (try split at h) <;> cases h; exact ⟨[], by simp, hk.frame id fun _ _ => id⟩

/-- Along any run the calls only grow and the flag is kept, by induction on the run and
`Server.step_flagKept`.
-/
theorem Server.exec_flagKept {labels : List Label} {made : List Call} (hk : s.FlagKept made)
    (h : s.exec helpers labels = some s')
    : ∃ more, s'.calls = s.calls ++ more ∧ s'.FlagKept (made ++ more) := by
  induction labels generalizing s made with
  | nil => cases h; exact ⟨[], by simp, by simpa using hk⟩
  | cons label rest ih =>
      obtain ⟨s₁, hstep, hrest⟩ := Server.exec_cons_some h
      obtain ⟨first, hcalls₁, hk₁⟩ := Server.step_flagKept hk hstep
      obtain ⟨later, hcalls, hk'⟩ := ih hk₁ hrest
      exact ⟨first ++ later, by rw [hcalls, hcalls₁, List.append_assoc],
        by simpa [List.append_assoc] using hk'⟩

end Handoff

/-- A ConfigMap delivery is never lost on its way from watches() to CheckConfigParity. From
any state with `newConfig` raised, under every interleaving of the goroutines, deliveries,
Start/Stop and call results, the run only adds calls, and at its end the flag is still
raised, or a periodic() goroutine took it with configReady() and stands at its
CheckConfigParity call, or a CheckConfigParity call of the run was passed
forceReconfigure = true. An earlier call of the same run may pass false: its configReady()
ran before the delivery.
-/
theorem Server.newConfig_never_lost {helpers : Helpers} {s s' : Server} {labels : List Label}
    (h : s.exec helpers labels = some s') (hraised : s.newConfig = true)
    : ∃ made, s'.calls = s.calls ++ made
      ∧ (s'.newConfig = true
        ∨ (∃ (j : Nat) (addresses : List String),
            s'.periodic[j]? = some (PeriodicPc.checkParity addresses true))
        ∨ ∃ call ∈ made, call.parityFlag = some true) := by
  obtain ⟨made, hcalls, hk⟩ := Server.exec_flagKept (show s.FlagKept [] from Or.inl hraised) h
  exact ⟨made, hcalls, hk⟩

/-- After `tickReady` the flag is raised, and the drift reconcile of `failedDrift` passes it
to CheckConfigParity. -/
theorem Server.newConfig_never_lost_failedDrift : ∃ s s',
    Server.initial.exec Helpers.byVip tickReady = some s
      ∧ s.exec Helpers.byVip failedDrift = some s' ∧ s.newConfig = true
      ∧ ∃ made, s'.calls = s.calls ++ made
        ∧ (s'.newConfig = true
          ∨ (∃ (j : Nat) (addresses : List String),
              s'.periodic[j]? = some (PeriodicPc.checkParity addresses true))
          ∨ ∃ call ∈ made, call.parityFlag = some true) := by
  obtain ⟨s', hall⟩ := Option.isSome_iff_exists.mp (by decide : (Server.initial.exec
    Helpers.byVip (tickReady ++ failedDrift)).isSome = true)
  rw [Server.exec_append] at hall
  obtain ⟨s, hpre, hrest⟩ := Option.bind_eq_some.mp hall
  have hn : (Server.initial.exec Helpers.byVip tickReady).map (·.newConfig) = some true := by
    decide
  rw [hpre] at hn
  exact ⟨s, s', hpre, hrest, Option.some.inj hn,
    Server.newConfig_never_lost hrest (Option.some.inj hn)⟩

end Ravel.Bgp
