import Mathlib.Data.List.Chain
import Mathlib.Tactic.SplitIfs

/-! The real-server side of role coordination: the loop of blockForever, which turns the
once-a-second director probes of watchForMaster into Start and Stop calls on the worker.
-/

namespace Ravel.Coordinator

/-- The calls blockForever issues to the real-server worker. -/
inductive WorkerCall
  | start
  | stop
  deriving DecidableEq, Repr

/-- The loop variables of blockForever: the probe counter and the last director status.
Go's `int` counter is an `Int`; it only grows while below `maxTries`, so it never wraps.
-/
structure Loop where
  tries : Int
  lastMasterStatus : Bool
  deriving DecidableEq, Repr

/-- The loop variables as blockForever declares them: `tries := maxTries`,
`lastMasterStatus := true`.
-/
def Loop.initial (maxTries : Int) : Loop := ⟨maxTries, true⟩

/-- One control message `masterRunning` received from controlChan, with the worker call it
issues; worker.Start and worker.Stop are taken to succeed. The third branch is the hazard
branch, which counts the probe and continues without touching `lastMasterStatus`.
-/
def Loop.receive (maxTries : Int) (loop : Loop) (masterRunning : Bool)
    : Loop × Option WorkerCall :=
  if masterRunning && masterRunning != loop.lastMasterStatus then
    (⟨1, masterRunning⟩, some .stop)
  else if masterRunning != loop.lastMasterStatus && loop.tries ≥ maxTries then
    (⟨1, masterRunning⟩, some .start)
  else if masterRunning != loop.lastMasterStatus then
    (⟨loop.tries + 1, loop.lastMasterStatus⟩, none)
  else
    (⟨1, masterRunning⟩, none)

/-- The loop after a sequence of control messages, with the worker calls issued on them,
oldest first.
-/
def Loop.run (maxTries : Int) (loop : Loop) : List Bool → Loop × List WorkerCall
  | [] => (loop, [])
  | masterRunning :: rest =>
      let next := loop.receive maxTries masterRunning
      let after := next.1.run maxTries rest
      (after.1, next.2.toList ++ after.2)

/-- The loop variables and the worker calls once blockForever has received `probes`. -/
def Loop.after (maxTries : Int) (probes : List Bool) : Loop × List WorkerCall :=
  (Loop.initial maxTries).run maxTries probes

/-- The events the select of blockForever takes: a probe result, or the end of `ctx`. -/
inductive Signal
  | control (masterRunning : Bool)
  | done
  deriving DecidableEq, Repr

/-- Where a blockForever run stands: still in its loop, or returned, with nil (`none`) or
an error.
-/
inductive Outcome
  | looping
  | returned (err : Option String)
  deriving DecidableEq, Repr

/-- A whole blockForever run: the worker calls it made, oldest first, and where it stands.
`worker k` is what worker.Start or worker.Stop returned to the `k`-th call; a failed call is
returned at once, and the end of `ctx` returns what a last worker.Stop() returns.
-/
def blockForever (maxTries : Int) (worker : Nat → Option String) (signals : List Signal)
    : List WorkerCall × Outcome :=
  go (Loop.initial maxTries) [] signals
where
  go (loop : Loop) (calls : List WorkerCall) : List Signal → List WorkerCall × Outcome
    | [] => (calls, .looping)
    | .done :: _ => (calls ++ [.stop], .returned (worker calls.length))
    | .control masterRunning :: rest =>
        let next := loop.receive maxTries masterRunning
        match next.2 with
        | none => go next.1 calls rest
        | some call =>
            match worker calls.length with
            | some err => (calls ++ [call], .returned (some err))
            | none => go next.1 (calls ++ [call]) rest

/-- The worker is running after `calls` when it was started more recently than stopped. -/
def Running (calls : List WorkerCall) : Prop := calls.getLast? = some .start

instance (calls : List WorkerCall) : Decidable (Running calls) :=
  inferInstanceAs (Decidable (calls.getLast? = _))

-----------------------------------------------------------------------------------------
-- The four outcomes of one control message
-----------------------------------------------------------------------------------------

section Receive

variable {maxTries tries : Int}

/-- A director that is back stops the worker at once. -/
@[simp] theorem Loop.receive_stop
    : (Loop.mk tries false).receive maxTries true = (⟨1, true⟩, some .stop) := rfl

/-- An unchanged status resets the counter and issues nothing. -/
@[simp] theorem Loop.receive_same (status : Bool)
    : (Loop.mk tries status).receive maxTries status = (⟨1, status⟩, none) := by
  cases status <;> rfl

/-- A director that went away starts the worker once the counter reached `maxTries`. -/
theorem Loop.receive_start (h : maxTries ≤ tries)
    : (Loop.mk tries true).receive maxTries false = (⟨1, false⟩, some .start) := by
  simp [Loop.receive, h]

/-- Below `maxTries`, a director that went away only counts one more probe. -/
theorem Loop.receive_hazard (h : tries < maxTries)
    : (Loop.mk tries true).receive maxTries false = (⟨tries + 1, true⟩, none) := by
  simp [Loop.receive, Int.not_le.mpr h]

/-- A probe that sees the director leaves the loop with `lastMasterStatus = true`, by the
four outcomes. -/
theorem Loop.receive_true_status (loop : Loop)
    : (loop.receive maxTries true).1.lastMasterStatus = true := by
  obtain ⟨tries, _ | _⟩ := loop <;> simp

end Receive

@[simp] theorem Loop.run_nil (maxTries : Int) (loop : Loop) : loop.run maxTries [] = (loop, []) :=
  rfl

@[simp] theorem Loop.run_cons (maxTries : Int) (loop : Loop) (masterRunning : Bool)
    (rest : List Bool)
    : loop.run maxTries (masterRunning :: rest)
      = (((loop.receive maxTries masterRunning).1.run maxTries rest).1,
          (loop.receive maxTries masterRunning).2.toList
            ++ ((loop.receive maxTries masterRunning).1.run maxTries rest).2) :=
  rfl

/-- Running two probe sequences one after the other, by induction on the first. -/
theorem Loop.run_append (maxTries : Int) (loop : Loop) (first second : List Bool)
    : loop.run maxTries (first ++ second)
      = (((loop.run maxTries first).1.run maxTries second).1,
          (loop.run maxTries first).2 ++ ((loop.run maxTries first).1.run maxTries second).2) := by
  induction first generalizing loop with
  | nil => simp
  | cons masterRunning rest ih => simp [ih]

-----------------------------------------------------------------------------------------
-- Failed worker calls and the end of ctx
-----------------------------------------------------------------------------------------

section Worker

variable {maxTries : Int} {worker : Nat → Option String} {loop : Loop}
  {calls : List WorkerCall} {masterRunning : Bool}

/-- A control message that issues no call leaves the calls as they are. -/
theorem blockForever.go_quiet (rest : List Signal)
    (h : (loop.receive maxTries masterRunning).2 = none)
    : blockForever.go maxTries worker loop calls (.control masterRunning :: rest)
      = blockForever.go maxTries worker (loop.receive maxTries masterRunning).1 calls rest := by
  simp [blockForever.go, h]

/-- A call that returns nil is recorded and the loop goes on. -/
theorem blockForever.go_ok {call : WorkerCall} (rest : List Signal)
    (h : (loop.receive maxTries masterRunning).2 = some call)
    (hok : worker calls.length = none)
    : blockForever.go maxTries worker loop calls (.control masterRunning :: rest)
      = blockForever.go maxTries worker (loop.receive maxTries masterRunning).1
          (calls ++ [call]) rest := by
  simp [blockForever.go, h, hok]

/-- A call that returns an error is recorded, and blockForever returns the error. -/
theorem blockForever.go_err {call : WorkerCall} {err : String} (rest : List Signal)
    (h : (loop.receive maxTries masterRunning).2 = some call)
    (herr : worker calls.length = some err)
    : blockForever.go maxTries worker loop calls (.control masterRunning :: rest)
      = (calls ++ [call], .returned (some err)) := by
  simp [blockForever.go, h, herr]

/-- Probes whose calls all return nil make the calls of the loop, by induction on the
probes. -/
theorem blockForever.go_controls (loop : Loop) (calls : List WorkerCall) (probes : List Bool)
    (tail : List Signal)
    (hok : ∀ k < (loop.run maxTries probes).2.length, worker (calls.length + k) = none)
    : blockForever.go maxTries worker loop calls (probes.map .control ++ tail)
      = blockForever.go maxTries worker (loop.run maxTries probes).1
          (calls ++ (loop.run maxTries probes).2) tail := by
  induction probes generalizing loop calls with
  | nil => simp
  | cons masterRunning rest ih =>
      rw [List.map_cons, List.cons_append]
      cases hcall : (loop.receive maxTries masterRunning).2 with
      | none =>
          rw [blockForever.go_quiet _ hcall]
          simpa [hcall] using ih _ calls (by simpa [hcall] using hok)
      | some call =>
          rw [blockForever.go_ok _ hcall (by simpa using hok 0 (by simp [hcall]))]
          have hrest : ∀ k < ((loop.receive maxTries masterRunning).1.run maxTries rest).2.length,
              worker ((calls ++ [call]).length + k) = none := fun k hk => by
            rw [List.length_append, List.length_singleton, Nat.add_assoc, Nat.add_comm 1 k]
            exact hok (k + 1) (by simp [hcall]; omega)
          simpa [hcall] using ih _ (calls ++ [call]) hrest

/-- The first call that returns an error ends the run with that error, by induction on the
probes. -/
theorem blockForever.go_first_error (loop : Loop) (calls : List WorkerCall) (probes : List Bool)
    (tail : List Signal) {before after : List WorkerCall} {call : WorkerCall} {err : String}
    (hcalls : (loop.run maxTries probes).2 = before ++ call :: after)
    (hok : ∀ k < before.length, worker (calls.length + k) = none)
    (herr : worker (calls.length + before.length) = some err)
    : blockForever.go maxTries worker loop calls (probes.map .control ++ tail)
      = (calls ++ before ++ [call], .returned (some err)) := by
  induction probes generalizing loop calls before with
  | nil => simp at hcalls
  | cons masterRunning rest ih =>
      rw [Loop.run_cons] at hcalls
      rw [List.map_cons, List.cons_append]
      cases hcall : (loop.receive maxTries masterRunning).2 with
      | none =>
          rw [blockForever.go_quiet _ hcall]
          exact ih _ calls (by simpa [hcall] using hcalls) hok herr
      | some first =>
          rw [hcall] at hcalls
          cases before with
          | nil =>
              obtain ⟨rfl, -⟩ := List.cons_eq_cons.mp hcalls
              rw [blockForever.go_err _ hcall (by simpa using herr)]
              simp
          | cons b before =>
              obtain ⟨rfl, hrest⟩ := List.cons_eq_cons.mp hcalls
              rw [blockForever.go_ok _ hcall (by simpa using hok 0 (by simp))]
              have hshift (k : Nat) : (calls ++ [first]).length + k = calls.length + (k + 1) := by
                simp only [List.length_append, List.length_singleton]; omega
              simpa using ih _ (calls ++ [first]) hrest
                (fun k hk => hshift k ▸ hok (k + 1) (by simp; omega))
                (by rw [hshift]; simpa using herr)

end Worker

/-- blockForever against a worker whose Start and Stop may fail. It makes the calls of the
loop up to the first call that returns an error, returns that error at once and makes no
other call. While every call returns nil it stays in its loop, and the end of `ctx` makes
one more Stop, whether or not the worker runs, and returns what that Stop returns.
-/
theorem blockForever_returns_first_error (maxTries : Int) (worker : Nat → Option String)
    (probes : List Bool) (tail : List Signal)
    : ((∀ k < (Loop.after maxTries probes).2.length, worker k = none) →
        blockForever maxTries worker (probes.map .control)
            = ((Loop.after maxTries probes).2, .looping)
        ∧ blockForever maxTries worker (probes.map .control ++ .done :: tail)
            = ((Loop.after maxTries probes).2 ++ [.stop],
                .returned (worker (Loop.after maxTries probes).2.length)))
      ∧ ∀ before call after err, (Loop.after maxTries probes).2 = before ++ call :: after →
        (∀ k < before.length, worker k = none) → worker before.length = some err →
        blockForever maxTries worker (probes.map .control ++ tail)
          = (before ++ [call], .returned (some err)) := by
  refine ⟨fun hok => ⟨?_, ?_⟩, fun before call after err hcalls hok herr => ?_⟩
  · simpa [blockForever.go] using
      @blockForever.go_controls maxTries worker (Loop.initial maxTries) [] probes []
        (by simpa using hok)
  · simpa [blockForever.go] using
      @blockForever.go_controls maxTries worker (Loop.initial maxTries) [] probes
        (.done :: tail) (by simpa using hok)
  · simpa using @blockForever.go_first_error maxTries worker (Loop.initial maxTries) []
      probes tail before after call err hcalls (by simpa using hok) (by simpa using herr)

/-- With `maxTries = 1`, a first probe that misses the director starts the worker; a Start
that fails is returned. -/
theorem blockForever_returns_first_error_start
    : blockForever 1 (fun _ => some "start failed") ([false].map .control)
      = ([.start], .returned (some "start failed")) :=
  (blockForever_returns_first_error 1 (fun _ => some "start failed") [false] []).2 [] .start []
    "start failed" rfl (fun _ h => absurd h (Nat.not_lt_zero _)) rfl

end Ravel.Coordinator
