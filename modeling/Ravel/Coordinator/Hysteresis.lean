import Ravel.Coordinator.Loop

/-! Hysteresis of blockForever over every probe sequence: Start and Stop strictly
alternate, an outage of `maxTries` probes fails over exactly once, and a Start ends a run
of down probes except on the very first probe.
-/

namespace Ravel.Coordinator

/-- One control message does one of four things, by the four branches of the select case.
-/
theorem Loop.receive_cases (maxTries : Int) (loop : Loop) (masterRunning : Bool)
    : (masterRunning = true ∧ loop.lastMasterStatus = false
        ∧ loop.receive maxTries masterRunning = (⟨1, true⟩, some .stop))
      ∨ (masterRunning = false ∧ loop.lastMasterStatus = true ∧ maxTries ≤ loop.tries
        ∧ loop.receive maxTries masterRunning = (⟨1, false⟩, some .start))
      ∨ (masterRunning = false ∧ loop.lastMasterStatus = true ∧ loop.tries < maxTries
        ∧ loop.receive maxTries masterRunning = (⟨loop.tries + 1, true⟩, none))
      ∨ (masterRunning = loop.lastMasterStatus
        ∧ loop.receive maxTries masterRunning = (⟨1, masterRunning⟩, none)) := by
  obtain ⟨tries, _ | _⟩ := loop <;> cases masterRunning
  · simp
  · simp
  · by_cases h : maxTries ≤ tries
    · simp [Loop.receive_start h, h]
    · simp [Loop.receive_hazard (Int.not_le.mp h), Int.not_le.mp h]
  · simp

/-- Only the second outcome starts the worker. -/
theorem Loop.receive_eq_start {maxTries : Int} {loop : Loop} {masterRunning : Bool}
    : (loop.receive maxTries masterRunning).2 = some .start
      ↔ masterRunning = false ∧ loop.lastMasterStatus = true ∧ maxTries ≤ loop.tries := by
  rcases Loop.receive_cases maxTries loop masterRunning
    with ⟨hm, -, he⟩ | ⟨hm, hs, ht, he⟩ | ⟨-, -, ht, he⟩ | ⟨hm, he⟩ <;> rw [he]
  · simp [hm]
  · simp [hm, hs, ht]
  · simp [Int.not_le.mpr ht]
  · cases masterRunning <;> simp_all

-----------------------------------------------------------------------------------------
-- Start and Stop alternate
-----------------------------------------------------------------------------------------

/-- The loop agrees with the calls it issued: the worker runs exactly when the director was
last seen down, and the calls alternate, beginning with Start.
-/
structure Loop.Consistent (loop : Loop) (calls : List WorkerCall) : Prop where
  running : Running calls ↔ loop.lastMasterStatus = false
  alternate : calls.Chain' (· ≠ ·)
  startsFirst : calls.head? ≠ some .stop

/-- No call has been issued to the loop as declared. -/
theorem Loop.consistent_initial (maxTries : Int) : (Loop.initial maxTries).Consistent [] :=
  ⟨by simp [Running, Loop.initial], List.chain'_nil, by simp⟩

/-- A step that keeps the status and issues nothing keeps the loop consistent. -/
theorem Loop.Consistent.quiet {loop next : Loop} {calls : List WorkerCall}
    (h : loop.Consistent calls) (hnext : next.lastMasterStatus = loop.lastMasterStatus)
    : next.Consistent calls :=
  ⟨hnext ▸ h.running, h.alternate, h.startsFirst⟩

/-- Starting a stopped worker keeps the loop consistent. -/
theorem Loop.Consistent.start {loop next : Loop} {calls : List WorkerCall}
    (h : loop.Consistent calls) (hs : loop.lastMasterStatus = true)
    (hnext : next.lastMasterStatus = false)
    : next.Consistent (calls ++ [.start]) := by
  have stopped : calls.getLast? ≠ some .start := fun hr => by simpa [hs] using h.running.mp hr
  refine ⟨by simp [Running, hnext], h.alternate.append (List.chain'_singleton _) ?_, ?_⟩
  · rintro last hl _ ⟨⟩ rfl
    exact stopped hl
  · have := h.startsFirst
    cases calls <;> simp_all

/-- Stopping a running worker keeps the loop consistent. -/
theorem Loop.Consistent.stop {loop next : Loop} {calls : List WorkerCall}
    (h : loop.Consistent calls) (hs : loop.lastMasterStatus = false)
    (hnext : next.lastMasterStatus = true)
    : next.Consistent (calls ++ [.stop]) := by
  have started : calls.getLast? = some .start := h.running.mpr hs
  refine ⟨by simp [Running, hnext], h.alternate.append (List.chain'_singleton _) ?_, ?_⟩
  · rintro last hl _ ⟨⟩ rfl
    simp [started] at hl
  · obtain ⟨before, rfl⟩ := List.getLast?_eq_some_iff.mp started
    have := h.startsFirst
    cases before <;> simp_all

/-- One control message keeps the loop consistent, by the four outcomes. -/
theorem Loop.Consistent.receive {loop : Loop} {calls : List WorkerCall}
    (h : loop.Consistent calls) (maxTries : Int) (masterRunning : Bool)
    : (loop.receive maxTries masterRunning).1.Consistent
        (calls ++ (loop.receive maxTries masterRunning).2.toList) := by
  rcases Loop.receive_cases maxTries loop masterRunning
    with ⟨-, hs, he⟩ | ⟨-, hs, -, he⟩ | ⟨-, hs, -, he⟩ | ⟨hm, he⟩ <;> rw [he]
  · exact h.stop hs rfl
  · exact h.start hs rfl
  · simpa using h.quiet hs.symm
  · simpa using h.quiet hm

/-- Any probe sequence keeps the loop consistent, by induction on the probes. -/
theorem Loop.Consistent.run {loop : Loop} {calls : List WorkerCall}
    (h : loop.Consistent calls) (maxTries : Int) (probes : List Bool)
    : (loop.run maxTries probes).1.Consistent (calls ++ (loop.run maxTries probes).2) := by
  induction probes generalizing loop calls with
  | nil => simpa using h
  | cons masterRunning rest ih =>
      simpa [List.append_assoc] using ih (h.receive maxTries masterRunning)

/-- The calls of blockForever on any probe sequence: the worker runs exactly when the
director was last seen down, Start and Stop alternate beginning with Start, and after a
probe that sees the director the worker is stopped.
-/
theorem blockForever_start_stop_alternate (maxTries : Int) (probes : List Bool)
    : (Running (Loop.after maxTries probes).2
        ↔ (Loop.after maxTries probes).1.lastMasterStatus = false)
      ∧ (Loop.after maxTries probes).2.Chain' (· ≠ ·)
      ∧ (Loop.after maxTries probes).2.head? ≠ some .stop
      ∧ (probes.getLast? = some true → ¬ Running (Loop.after maxTries probes).2) := by
  have h := (Loop.consistent_initial maxTries).run maxTries probes
  rw [List.nil_append] at h
  refine ⟨h.running, h.alternate, h.startsFirst, fun hl => ?_⟩
  obtain ⟨earlier, rfl⟩ := List.getLast?_eq_some_iff.mp hl
  rw [Loop.after, h.running]
  simp [Loop.run_append, Loop.receive_true_status]

-----------------------------------------------------------------------------------------
-- A Start ends an outage
-----------------------------------------------------------------------------------------

/-- The worker call issued on probe `i` of a probe sequence fed to blockForever. -/
def Loop.callAt (maxTries : Int) (probes : List Bool) (i : Nat) : Option WorkerCall :=
  probes[i]?.bind fun masterRunning =>
    ((Loop.after maxTries (probes.take i)).1.receive maxTries masterRunning).2

/-- After a non-empty probe history, while the director is seen up, the counter is one
more than the length of an outage that ends the history.
-/
def Loop.Tracks (probes : List Bool) (loop : Loop) : Prop :=
  probes ≠ [] → loop.lastMasterStatus = true
    → 1 ≤ loop.tries ∧ List.replicate (loop.tries - 1).toNat false <:+ probes

/-- A counter reset to one tracks any history. -/
theorem Loop.tracks_reset (probes : List Bool) (status : Bool) : (Loop.mk 1 status).Tracks probes :=
  fun _ _ => by simp

/-- A shorter run of `false` is a suffix of a longer one. -/
theorem replicate_false_suffix {m n : Nat} (h : m ≤ n)
    : List.replicate m false <:+ List.replicate n false := by
  rw [← Nat.sub_add_cancel h, List.replicate_add]
  exact List.suffix_append _ _

/-- One control message after a non-empty history keeps the counter tracking, by the four
outcomes; the hazard branch extends the outage by one probe.
-/
theorem Loop.Tracks.receive {probes : List Bool} {loop : Loop} (h : loop.Tracks probes)
    (hne : probes ≠ []) (maxTries : Int) (masterRunning : Bool)
    : (loop.receive maxTries masterRunning).1.Tracks (probes ++ [masterRunning]) := by
  rcases Loop.receive_cases maxTries loop masterRunning
    with ⟨-, -, he⟩ | ⟨-, -, -, he⟩ | ⟨rfl, hs, -, he⟩ | ⟨-, he⟩ <;> rw [he] <;> dsimp only
  · exact Loop.tracks_reset _ _
  · exact Loop.tracks_reset _ _
  · obtain ⟨pos, outage⟩ := h hne hs
    intro _ _
    dsimp only
    refine ⟨by omega, ?_⟩
    have : (loop.tries + 1 - 1).toNat = (loop.tries - 1).toNat + 1 := by omega
    rw [this, List.replicate_succ', List.suffix_concat_iff]
    exact .inr ⟨_, rfl, outage⟩
  · exact Loop.tracks_reset _ _

/-- Every probe history from the declared loop is tracked, by induction on the history
from its end; the first probe resets the counter or starts the worker.
-/
theorem Loop.tracks_after (maxTries : Int) (probes : List Bool)
    : (Loop.after maxTries probes).1.Tracks probes := by
  rw [Loop.after]
  induction probes using List.reverseRecOn with
  | nil => exact fun hne => absurd rfl hne
  | append_singleton earlier masterRunning ih =>
      rw [Loop.run_append]
      simp only [Loop.run_cons, Loop.run_nil]
      by_cases hne : earlier = []
      · subst hne
        cases masterRunning
        · simp [Loop.initial, Loop.receive_start (Int.le_refl maxTries), Loop.Tracks]
        · simpa [Loop.initial] using Loop.tracks_reset [true] true
      · exact ih.receive hne maxTries masterRunning

/-- With `maxTries = 2`, a first probe that misses the director starts the worker on that
very probe, though no run of two down probes ends there.
-/
theorem Loop.first_probe_down_starts_worker
    : ¬ ∀ maxTries : Int, 1 ≤ maxTries → ∀ (probes : List Bool) (i : Nat),
        Loop.callAt maxTries probes i = some .start
        → List.replicate maxTries.toNat false <:+ probes.take (i + 1) := by
  intro h
  have := (h 2 (by decide) [false, true] 0 (by decide)).length_le
  simp at this

/-- A Start on probe `i` answers a down probe, and unless it is the very first probe it
ends an outage of at least `maxTries` probes, by the tracking invariant.
-/
theorem Loop.start_answers_outage (maxTries : Int) (probes : List Bool) (i : Nat)
    (h : Loop.callAt maxTries probes i = some .start)
    : probes[i]? = some false
      ∧ (i = 0 ∨ List.replicate maxTries.toNat false <:+ probes.take (i + 1)) := by
  cases hp : probes[i]? with
  | none => simp [Loop.callAt, hp] at h
  | some masterRunning =>
      simp only [Loop.callAt, hp, Option.bind_some] at h
      have tracks := Loop.tracks_after maxTries (probes.take i)
      generalize (Loop.after maxTries (probes.take i)).1 = loop at h tracks
      obtain ⟨rfl, hs, hle⟩ := Loop.receive_eq_start.mp h
      refine ⟨rfl, or_iff_not_imp_left.mpr fun hi => ?_⟩
      have hne : probes.take i ≠ [] := by
        obtain ⟨hlen, -⟩ := List.getElem?_eq_some_iff.mp hp
        simp only [ne_eq, List.take_eq_nil_iff, hi, false_or]
        rintro rfl
        simp at hlen
      obtain ⟨pos, outage⟩ := tracks hne hs
      rw [List.take_succ, hp, Option.toList_some]
      by_cases hm : maxTries ≤ 0
      · have : maxTries.toNat = 0 := by omega
        simp [this]
      · have : maxTries.toNat = (maxTries - 1).toNat + 1 := by omega
        rw [this, List.replicate_succ', List.suffix_concat_iff]
        exact .inr ⟨_, rfl, (replicate_false_suffix (by omega)).trans outage⟩

/-- A Start on probe `i` answers a down probe, and unless it is the very first probe it
ends an outage of at least `maxTries` probes. So with `maxTries ≥ 2` a lone down probe among
up probes starts the worker only when it is the first probe: an outage of `maxTries` probes
holds `maxTries` down probes.
-/
theorem Loop.callAt_start_ends_outage (maxTries : Int) (probes : List Bool) (i : Nat)
    (h : Loop.callAt maxTries probes i = some .start)
    : probes[i]? = some false
      ∧ (i = 0 ∨ List.replicate maxTries.toNat false <:+ probes.take (i + 1))
      ∧ (2 ≤ maxTries → probes.count false = 1 → i = 0) := by
  obtain ⟨hdown, houtage⟩ := Loop.start_answers_outage maxTries probes i h
  refine ⟨hdown, houtage, fun hmax hlone => houtage.resolve_right fun hsuffix => ?_⟩
  have hcount : maxTries.toNat ≤ probes.count false := calc
    maxTries.toNat = (List.replicate maxTries.toNat false).count false :=
      (List.count_replicate_self _ _).symm
    _ ≤ (probes.take (i + 1)).count false := hsuffix.sublist.count_le _
    _ ≤ probes.count false := (List.take_sublist _ _).count_le _
  omega

/-- A Start on the third probe, after one up probe and two down ones. -/
theorem Loop.callAt_start_ends_outage_third
    : Loop.callAt 2 [true, false, false] 2 = some .start
      ∧ ([true, false, false][2]? = some false
        ∧ (2 = 0 ∨ List.replicate (2 : Int).toNat false <:+ [true, false, false].take (2 + 1))
        ∧ (2 ≤ (2 : Int) → [true, false, false].count false = 1 → 2 = 0)) :=
  ⟨by decide, Loop.callAt_start_ends_outage 2 _ 2 (by decide)⟩

-----------------------------------------------------------------------------------------
-- An outage of maxTries probes fails over once
-----------------------------------------------------------------------------------------

/-- Reachable counters are positive or at the threshold, and never pass `max maxTries 1`,
so the hazard branch's `tries++` never wraps.
-/
structure Loop.Bounded (maxTries : Int) (loop : Loop) : Prop where
  pos : 1 ≤ loop.tries ∨ maxTries ≤ loop.tries
  le : loop.tries ≤ max maxTries 1

/-- One control message keeps the counter bounded, by the four outcomes. -/
theorem Loop.Bounded.receive {maxTries : Int} {loop : Loop} (h : loop.Bounded maxTries)
    (masterRunning : Bool)
    : (loop.receive maxTries masterRunning).1.Bounded maxTries := by
  have := h.pos
  rcases Loop.receive_cases maxTries loop masterRunning
    with ⟨-, -, he⟩ | ⟨-, -, -, he⟩ | ⟨-, -, ht, he⟩ | ⟨-, he⟩ <;> rw [he] <;>
    exact ⟨by simp only; omega, by simp only; omega⟩

/-- Every reachable counter is bounded, by induction on the probes. -/
theorem Loop.bounded_after (maxTries : Int) (probes : List Bool)
    : (Loop.after maxTries probes).1.Bounded maxTries := by
  rw [Loop.after]
  suffices ∀ loop : Loop, loop.Bounded maxTries → (loop.run maxTries probes).1.Bounded maxTries
    from this _ ⟨.inr (Int.le_refl _), Int.le_max_left _ _⟩
  induction probes with
  | nil => exact fun _ h => h
  | cons masterRunning rest ih => exact fun loop h => ih _ (h.receive masterRunning)

/-- Down probes leave a running worker alone. -/
theorem Loop.run_down_of_running {loop : Loop} (hs : loop.lastMasterStatus = false)
    (maxTries : Int) (n : Nat)
    : (loop.run maxTries (List.replicate n false)).1.lastMasterStatus = false
      ∧ (loop.run maxTries (List.replicate n false)).2 = [] := by
  induction n generalizing loop with
  | zero => simpa using hs
  | succ n ih =>
      obtain ⟨tries, status⟩ := loop
      subst hs
      simpa using @ih ⟨1, false⟩ rfl

/-- From a seen-up director, enough down probes start the worker exactly once, by induction
on the probes, one hazard step at a time.
-/
theorem Loop.run_down_starts {maxTries : Int} (n : Nat) (tries : Int) (hn : 1 ≤ n)
    (hreach : maxTries + 1 ≤ tries + n)
    : ((Loop.mk tries true).run maxTries (List.replicate n false)).1.lastMasterStatus = false
      ∧ ((Loop.mk tries true).run maxTries (List.replicate n false)).2 = [.start] := by
  induction n generalizing tries with
  | zero => omega
  | succ n ih =>
      by_cases ht : maxTries ≤ tries
      · simpa [List.replicate_succ, Loop.receive_start ht]
          using @Loop.run_down_of_running ⟨1, false⟩ rfl maxTries n
      · simpa [List.replicate_succ, Loop.receive_hazard (Int.not_le.mp ht)]
          using ih (tries + 1) (by omega) (by omega)

/-- From any reachable loop, `max maxTries 1` down probes leave the worker running and
issue at most one Start, by the bounds on the counter.
-/
theorem blockForever_outage_fails_over (maxTries : Int) (history : List Bool)
    : Running ((Loop.after maxTries history).2
        ++ ((Loop.after maxTries history).1.run maxTries
          (List.replicate (max maxTries 1).toNat false)).2)
      ∧ ((Loop.after maxTries history).1.run maxTries
          (List.replicate (max maxTries 1).toNat false)).2.count .start ≤ 1 := by
  have consistent := (Loop.consistent_initial maxTries).run maxTries history
  have bounded := Loop.bounded_after maxTries history
  rw [List.nil_append, ← Loop.after] at consistent
  generalize Loop.after maxTries history = before at consistent bounded
  obtain ⟨⟨tries, status⟩, calls⟩ := before
  cases status
  · obtain ⟨-, hcalls⟩ := @Loop.run_down_of_running ⟨tries, false⟩ rfl maxTries (max maxTries 1).toNat
    simpa [hcalls] using consistent.running
  · have : 1 ≤ tries ∨ maxTries ≤ tries := bounded.pos
    obtain ⟨-, hcalls⟩ :=
      @Loop.run_down_starts maxTries (max maxTries 1).toNat tries (by omega) (by omega)
    simp [hcalls, Running]

end Ravel.Coordinator
