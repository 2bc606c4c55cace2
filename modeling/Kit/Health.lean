import Kit.Basic
import Mathlib.Algebra.Group.Int

/-
  `Database.Health` and `Cache.Health`: one closure under a
  deadline, three checks in order, and the switch that classifies
  the closure's error.

  The two methods differ in the first check. The database pool
  reports its connections as an `int32` and compares them with
  `int32(*DatabaseMinConns)`; the cache reports a `uint32` and
  compares with `uint32(*MinConns)`. For a minimum in the range of
  an `int32` the database check is the comparison of the two
  numbers, while the cache check also fails for every negative
  minimum, which the conversion to `uint32` turns into one above
  any pool's count.

  Correctness is proven by:
    * `health_run`: what either method returns, check by check
    * `health_below_minimum`: when each method reports its count
      below the minimum

  Main declarations:
    * `Unhealthy`, `HealthError`
    * `check`, `health`, `databaseHealth`, `cacheHealth`
-/

------------------------------------------------------------
-- The Checks
------------------------------------------------------------

namespace Kit

namespace Health

/- The calls `Health` makes, each with its answer. -/
inductive Event where
  | ping (result : Option String)
  | contextErr (result : Option String)
deriving DecidableEq, Repr

/- Computations against the pool; they keep no state of their own. -/
abbrev HealthRun := Run Unit Event

/- `ErrXUnhealthy()`, with what the failed check adds to it. -/
inductive Unhealthy where
  /- `.Withf("current conns %d below minimum %d", ...)` -/
  | belowMinimum (message : String)
  /- `.WrapAs(err)` -/
  | cause (err : String)
deriving DecidableEq, Repr

/- The error of the closure, or the deadline's. -/
inductive Failure where
  | unhealthy (err : Unhealthy)
  | deadlineExceeded
deriving DecidableEq, Repr

/- What `Health` returns: `ErrXTimedOut()`, or `ErrXGeneric().Wrap(err)`. -/
inductive HealthError where
  | timedOut
  | generic (err : Unhealthy)
deriving DecidableEq, Repr

/-
  The closure: the count against the minimum, then `Ping`, then
  `ctx.Err()`, each failure returned at once.
-/
def check
    (below : Bool)
    (current minimum : Int) : HealthRun (Option Failure) :=
  if below then
    return some (.unhealthy
      (.belowMinimum s!"current conns {current} below minimum {minimum}"))
  else
    ifErr (call .ping) (fun e => return some (.unhealthy (.cause e))) <|
    ifErr (call .contextErr) (fun e => return some (.unhealthy (.cause e))) <|
    return none

/- The switch after `util.Deadline`. -/
def healthResult : Option Failure → Option HealthError
  | none => none
  | some .deadlineExceeded => some .timedOut
  | some (.unhealthy err) => some (.generic err)

/- The body both `Health` methods share, given the outcome of the first check. -/
def health
    (below : Bool)
    (current minimum : Int)
    (fired : Bool) : HealthRun (Option HealthError) :=
  healthResult <$> deadline fired .deadlineExceeded (check below current minimum)

/-
  `Database.Health`: `currentConns < int32(*DatabaseMinConns)` on
  the pool's `int32` count.
-/
def databaseHealth
    (totalConns : BitVec 32)
    (databaseMinConns : BitVec 64)
    (fired : Bool) : HealthRun (Option HealthError) :=
  health (totalConns.slt (databaseMinConns.setWidth 32))
    totalConns.toInt databaseMinConns.toInt fired

/-
  `Cache.Health`: `currentConns < uint32(*MinConns)` on the pool's
  `uint32` count. A reply other than `PONG` comes with an error
  here.
-/
def cacheHealth
    (totalConns : BitVec 32)
    (minConns : BitVec 64)
    (fired : Bool) : HealthRun (Option HealthError) :=
  health (totalConns.ult (minConns.setWidth 32))
    totalConns.toNat minConns.toInt fired

end Health

end Kit

------------------------------------------------------------
-- What Health Returns
------------------------------------------------------------

namespace Kit

namespace Health

/-
  A deadline that fires is `TimedOut`; otherwise the first failed
  check is `Generic` wrapping its `Unhealthy` error.
-/
theorem health_run
    (below : Bool)
    (current minimum : Int)
    (fired : Bool)
    (w : World Unit Event) :
    ((health below current minimum fired).run w).1 =
      if fired then some .timedOut
      else if below then
        some (.generic (.belowMinimum s!"current conns {current} below minimum {minimum}"))
      else match w.answers.headD none, w.answers.tail.headD none with
        | some e, _ => some (.generic (.cause e))
        | none, some e => some (.generic (.cause e))
        | none, none => none := by
  simp only [health, check, deadline, map_run, run_bind, pure_run]
  cases fired with
  | true => rfl
  | false =>
      cases below with
      | true => rfl
      | false =>
          simp only [ite_run, Bool.false_eq_true, if_false, ifErr_call_run]
          rcases w.answers with _ | ⟨_ | e, _ | _ | _⟩ <;> rfl

/- The count is below an `int32` minimum as a signed number. -/
theorem slt_setWidth_iff
    (c : BitVec 32)
    (hc : c.toNat < 2 ^ 31)
    (m : BitVec 64)
    (hm : -2 ^ 31 ≤ m.toInt ∧ m.toInt < 2 ^ 31) :
    c.slt (m.setWidth 32) = decide ((c.toNat : Int) < m.toInt) := by
  simp only [BitVec.slt, BitVec.toInt_eq_toNat_cond, BitVec.toNat_setWidth] at *
  have := m.isLt
  congr 1
  apply propext
  split_ifs at * <;> omega

/- Below a `uint32` minimum: a negative one is above every count. -/
theorem ult_setWidth_iff
    (c : BitVec 32)
    (hc : c.toNat < 2 ^ 31)
    (m : BitVec 64)
    (hm : -2 ^ 31 ≤ m.toInt ∧ m.toInt < 2 ^ 31) :
    c.ult (m.setWidth 32) = decide ((c.toNat : Int) < m.toInt ∨ m.toInt < 0) := by
  simp only [BitVec.ult, BitVec.toInt_eq_toNat_cond, BitVec.toNat_setWidth] at *
  have := m.isLt
  congr 1
  apply propext
  split_ifs at * <;> omega

/- `health` reports the count below the minimum exactly when the first check fails. -/
theorem health_belowMinimum_iff
    (below : Bool)
    (current minimum : Int)
    (w : World Unit Event) :
    (∃ message, ((health below current minimum false).run w).1 =
      some (.generic (.belowMinimum message))) ↔ below = true := by
  rw [health_run]
  cases below with
  | true => simp
  | false =>
      simp only [Bool.false_eq_true, if_false, iff_false, not_exists]
      intro message
      split <;> simp

/-
  For a pool of fewer than `2^31` connections and a minimum in the
  range of an `int32`, under a deadline that does not fire,
  `Database.Health` reports the count below the minimum exactly
  when it is, and `Cache.Health` also whenever the minimum is
  negative.
-/
theorem health_below_minimum
    (totalConns : BitVec 32)
    (hConns : totalConns.toNat < 2 ^ 31)
    (minConns : BitVec 64)
    (hMin : -2 ^ 31 ≤ minConns.toInt ∧ minConns.toInt < 2 ^ 31)
    (w : World Unit Event) :
    ((∃ message, ((databaseHealth totalConns minConns false).run w).1 =
        some (.generic (.belowMinimum message))) ↔
      (totalConns.toNat : Int) < minConns.toInt) ∧
    ((∃ message, ((cacheHealth totalConns minConns false).run w).1 =
        some (.generic (.belowMinimum message))) ↔
      (totalConns.toNat : Int) < minConns.toInt ∨ minConns.toInt < 0) := by
  simp only [databaseHealth, cacheHealth, health_belowMinimum_iff,
    slt_setWidth_iff _ hConns _ hMin, ult_setWidth_iff _ hConns _ hMin, decide_eq_true_eq,
    iff_self, and_self]

/- With `DatabaseMinConns` and `MinConns` at `-1`, an empty pool passes one check and fails the other. -/
theorem health_below_minimum_negative :
    (0 : BitVec 32).toNat < 2 ^ 31 ∧
      (-2 ^ 31 ≤ (-1 : BitVec 64).toInt ∧ (-1 : BitVec 64).toInt < 2 ^ 31) ∧
      ((∃ message, ((databaseHealth 0 (-1) false).run ⟨[], (), []⟩).1 =
          some (.generic (.belowMinimum message))) ↔
        ((0 : BitVec 32).toNat : Int) < (-1 : BitVec 64).toInt) ∧
      ((∃ message, ((cacheHealth 0 (-1) false).run ⟨[], (), []⟩).1 =
          some (.generic (.belowMinimum message))) ↔
        ((0 : BitVec 32).toNat : Int) < (-1 : BitVec 64).toInt ∨ (-1 : BitVec 64).toInt < 0) :=
  ⟨by decide, by decide, health_below_minimum 0 (by decide) (-1) (by decide) _⟩

end Health

end Kit
