import Kit.Migrator.Tool

/-
  The migrator's operations against the migration tool.

  `Version`, `Assert`, `Apply` and `Rollback` each run one closure
  under `util.Deadline`; this file models the closures and what
  the call returns. Go's `int` is `BitVec 64`: `uint(d)` reads its
  bits as a natural number, and `Migrate(uint(d))` hands the tool
  the same bits, which it reads back as `int(d)`. The done channel
  the closures close is modelled in `Kit.Migrator.Done`.

  Main declarations:
    * `MigratorError`, `VersionResult.read`
    * `assertStep`, `applyStep`, `rollbackTo`, `rollbackStep`
    * `assert`, `apply`, `rollback`, `version`
-/

------------------------------------------------------------
-- The Operations
------------------------------------------------------------

namespace Kit

namespace Migrator

variable (files : Migrations)

/- The errors the migrator returns. -/
inductive MigratorError where
  | dirty (current : Nat)
  | behind (desired : Int) (current : Nat)
  | ahead (desired : Int) (current : Nat)
  | cause (text : String)
  | deadlineExceeded
  | timedOut
deriving DecidableEq, Repr

/- `err != nil && err != migrate.ErrNilVersion`, with the version read. -/
def VersionResult.read : VersionResult → Except String (Nat × Bool)
  | .ok v dirty => .ok (v, dirty)
  | .nilVersion => .ok (0, false)
  | .error e => .error e

/- The closure of `Assert`. -/
def assertStep
    (schemaVersion : BitVec 64) : MigRun (Option MigratorError) := do
  return match (← Migrate.version).read with
    | .error e => some (.cause e)
    | .ok (current, bad) =>
        if bad then some (.dirty current)
        else if current > schemaVersion.toNat then
          some (.behind schemaVersion.toInt current)
        else if current < schemaVersion.toNat then
          some (.ahead schemaVersion.toInt current)
        else none

/- `err = ...; if err != nil { return ErrMigratorGeneric.Raise().Cause(err) }` -/
def causeOf : Option String → Option MigratorError
  | some e => some (.cause e)
  | none => none

@[simp]
theorem causeOf_eq_none
    (e : Option String) :
    causeOf e = none ↔ e = none := by
  cases e <;> simp [causeOf]

/- The closure of `Apply`. -/
def applyStep
    (schemaVersion : BitVec 64) : MigRun (Option MigratorError) := do
  match (← Migrate.version).read with
  | .error e => return some (.cause e)
  | .ok (current, bad) =>
      if bad then return some (.dirty current)
      else if current = schemaVersion.toNat then return none
      else if current > schemaVersion.toNat then
        return some (.behind schemaVersion.toInt current)
      else causeOf <$> Migrate.migrate files schemaVersion

/-
  The part of `Rollback`'s closure after the dirty check, with the
  desired version as it then stands.
-/
def rollbackTo
    (current : Nat)
    (schemaVersion : BitVec 64) : MigRun (Option MigratorError) :=
  if current = schemaVersion.toNat then return none
  else if current < schemaVersion.toNat then
    return some (.ahead schemaVersion.toInt current)
  else if schemaVersion = 0 then causeOf <$> Migrate.down files
  else causeOf <$> Migrate.migrate files schemaVersion

/-
  The closure of `Rollback`: no `ErrNilVersion` exemption, and a
  dirty schema is forced clean at its version before the desired
  version is decremented.
-/
def rollbackStep
    (schemaVersion : BitVec 64) : MigRun (Option MigratorError) := do
  match ← Migrate.version with
  | .error e => return some (.cause e)
  | .nilVersion => return some (.cause "no migration")
  | .ok current bad =>
      if bad then
        match ← Migrate.force (BitVec.ofNat 64 current) with
        | some e => return some (.cause e)
        | none => rollbackTo files current (schemaVersion - 1)
      else rollbackTo files current schemaVersion

/- `ErrMigratorTimedOut` when `util.Deadline` reports the deadline. -/
def timedOutResult : Option MigratorError → Option MigratorError
  | some .deadlineExceeded => some .timedOut
  | err => err

@[simp]
theorem timedOutResult_eq_none
    (e : Option MigratorError) :
    timedOutResult e = none ↔ e = none := by
  unfold timedOutResult
  split <;> simp_all

/- `Migrator.Assert` -/
def assert
    (schemaVersion : BitVec 64)
    (fired : Bool) : MigRun (Option MigratorError) :=
  timedOutResult <$> deadline fired .deadlineExceeded (assertStep schemaVersion)

/- `Migrator.Apply` -/
def apply
    (schemaVersion : BitVec 64)
    (fired : Bool) : MigRun (Option MigratorError) :=
  timedOutResult <$>
    deadline fired .deadlineExceeded (applyStep files schemaVersion)

/- `Migrator.Rollback` -/
def rollback
    (schemaVersion : BitVec 64)
    (fired : Bool) : MigRun (Option MigratorError) :=
  timedOutResult <$>
    deadline fired .deadlineExceeded (rollbackStep files schemaVersion)

/- `Migrator.Version`: `int(schemaVersion)` and the dirty flag. -/
def version
    (fired : Bool) : MigRun (Except MigratorError (BitVec 64 × Bool)) := do
  let read := (← Migrate.version).read
  return if fired then .error .timedOut
    else match read with
      | .error e => .error (.cause e)
      | .ok (v, dirty) => .ok (BitVec.ofNat 64 v, dirty)

end Migrator

end Kit
