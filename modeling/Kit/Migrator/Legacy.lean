import Kit.Migrator.Runs

/-
  The earlier migrator of `migrator.go`, against the same tool.

  Its `Assert` and `Apply` run the closures of the later one,
  `assertStep` and `applyStep`, and wrap any error but the
  deadline's as `Generic` once more. Its `Rollback` differs: a
  dirty row is forced clean at its version and compared with the
  desired version as given, not one below it, and the schema is
  always moved by `Migrate`, never by `Down`. `Migrate(0)` finds no
  file, so `Rollback` never removes a stored version; only
  `Apply(d)` with `d < 0` does, through `Migrate(uint(d))`, which
  the tool reads as a migration down. Once the schema has a
  version, calls that apply no version below 0 keep one.

  Correctness is proven by:
    * `rollbackStep_preserves`: the forced and migrated rows keep a
      version
    * `runOps_keeps_version`: over any sequence of calls in which
      no `Apply` is given a version below 0

  Main declarations:
    * `LegacyError`, `genericResult`
    * `rollbackTo`, `rollbackStep`, `assert`, `apply`, `rollback`
    * `Op`, `Op.run`, `runOps`
-/

------------------------------------------------------------
-- Operations
------------------------------------------------------------

namespace Kit

namespace Migrator

namespace Legacy

variable (files : Migrations)

/-
  What the earlier operations return: `ErrMigratorTimedOut()` or
  `ErrMigratorGeneric().Wrap(err)`.
-/
inductive LegacyError where
  | timedOut
  | generic (err : MigratorError)
deriving DecidableEq, Repr

/- The switch after `Utils.Deadline`. -/
def genericResult : Option MigratorError → Option LegacyError
  | none => none
  | some .deadlineExceeded => some .timedOut
  | some err => some (.generic err)

/- The part of `Rollback`'s closure after the dirty check. -/
def rollbackTo
    (current : Nat)
    (schemaVersion : BitVec 64) : MigRun (Option MigratorError) :=
  if current = schemaVersion.toNat then return none
  else if current < schemaVersion.toNat then
    return some (.ahead schemaVersion.toInt current)
  else causeOf <$> Migrate.migrate files schemaVersion

/-
  The closure of `Rollback`: no `ErrNilVersion` exemption, and a
  dirty schema forced clean at its version.
-/
def rollbackStep
    (schemaVersion : BitVec 64) : MigRun (Option MigratorError) := do
  match ← Migrate.version with
  | .error e => return some (.cause e)
  | .nilVersion => return some (.cause "no migration")
  | .ok current bad =>
      if bad then
        match ← Migrate.force (BitVec.ofNat 64 current) with
        | some e => return some (.cause e)
        | none => rollbackTo files current schemaVersion
      else rollbackTo files current schemaVersion

/- `Migrator.Assert` of `migrator.go` -/
def assert
    (schemaVersion : BitVec 64)
    (fired : Bool) : MigRun (Option LegacyError) :=
  genericResult <$> deadline fired .deadlineExceeded (assertStep schemaVersion)

/- `Migrator.Apply` of `migrator.go` -/
def apply
    (schemaVersion : BitVec 64)
    (fired : Bool) : MigRun (Option LegacyError) :=
  genericResult <$> deadline fired .deadlineExceeded (applyStep files schemaVersion)

/- `Migrator.Rollback` of `migrator.go` -/
def rollback
    (schemaVersion : BitVec 64)
    (fired : Bool) : MigRun (Option LegacyError) :=
  genericResult <$> deadline fired .deadlineExceeded (rollbackStep files schemaVersion)

/- A call of the earlier API, with whether its deadline fires. -/
inductive Op where
  | assert (schemaVersion : BitVec 64) (fired : Bool)
  | apply (schemaVersion : BitVec 64) (fired : Bool)
  | rollback (schemaVersion : BitVec 64) (fired : Bool)
deriving DecidableEq, Repr

/- One call, its result dropped. -/
def Op.run : Op → MigRun Unit
  | .assert d fired => do let _ ← Legacy.assert d fired
  | .apply d fired => do let _ ← Legacy.apply files d fired
  | .rollback d fired => do let _ ← Legacy.rollback files d fired

/- The calls one after another. -/
def runOps : List Op → MigRun Unit
  | [] => pure ()
  | op :: ops => do
      Op.run files op
      runOps ops

end Legacy

end Migrator

end Kit

------------------------------------------------------------
-- A Stored Version Stays
------------------------------------------------------------

namespace Kit

namespace Migrator

namespace Legacy

variable (files : Migrations)

/- The schema has a version. -/
def Stored
    (s : SchemaState) : Prop :=
  s.version.isSome

/-
  `Migrate(d)` with `d ≥ 0` sends only migrations to files, never
  the nil migration.
-/
theorem read_stored
    (d : BitVec 64)
    (hd : 0 ≤ d.toInt)
    (s : SchemaState) :
    ∀ m ∈ (files.read s.version d.toInt).1, ∀ b, Stored (m.row b) := fun m hm b => by
  show m.targetVersion.isSome
  cases hv : m.targetVersion with
  | none => exact absurd (files.mem_read_nil hm hv) (by omega)
  | some v => rfl

/- Below a stored version, `uint(d)` is `d`, so `Rollback` migrates to a file. -/
theorem rollbackTo_preserves
    (current : Nat)
    (d : BitVec 64)
    (hCurrent : current < 2 ^ 63) :
    Preserves Stored (rollbackTo files current d) := by
  unfold rollbackTo
  split_ifs
  · exact .pure _
  · exact .pure _
  · refine .map _ (migrate_preserves files d fun s _ => read_stored files d ?_ s)
    rcases toInt_cases d with h | h <;> omega

/- `Force` at the version read leaves that version, clean or dirty. -/
theorem rollbackStep_preserves
    (d : BitVec 64) :
    Preserves Stored (rollbackStep files d) := by
  intro w hStored
  rw [rollbackStep, run_bind]
  cases hRead : (Migrate.version.run w).1 with
  | error e => rwa [pure_run, version_state]
  | nilVersion => rwa [pure_run, version_state]
  | ok current bad =>
      obtain ⟨-, hVersion, -⟩ := Migrate.version_ok w current bad hRead
      have hAfter := version_state w
      simp only
      split_ifs
      · rw [run_bind]
        obtain ⟨-, hWorld⟩ :=
          Migrate.force_current (Migrate.version.run w).2 current (hAfter ▸ hVersion)
        have hForced : Stored ((Migrate.force (BitVec.ofNat 64 current)).run
            (Migrate.version.run w).2).2.state := by
          rw [hWorld]
          split_ifs
          · rfl
          · rwa [hAfter]
        split
        · exact hForced
        · exact rollbackTo_preserves files current d (w.state.bounded _ hVersion) _ hForced
      · exact rollbackTo_preserves files current d (w.state.bounded _ hVersion) _
          (hAfter ▸ hStored)

/- Each call of the earlier API but an `Apply` below `0` keeps a stored version. -/
theorem Op.run_preserves
    (op : Op)
    (hOp : ∀ d fired, op = .apply d fired → 0 ≤ d.toInt) :
    Preserves Stored (Op.run files op) := by
  cases op with
  | assert d fired =>
      exact ((assertStep_preserves _ d).deadline fired _ |>.map _).bind fun _ => .pure _
  | apply d fired =>
      exact ((applyStep_preserves files d fun s _ => read_stored files d (hOp d fired rfl) s)
        |>.deadline fired _ |>.map _).bind fun _ => .pure _
  | rollback d fired =>
      exact ((rollbackStep_preserves files d).deadline fired _ |>.map _).bind
        fun _ => .pure _

/-
  Once the schema has a version, no sequence of the earlier
  `Assert`, `Apply` and `Rollback` calls, whatever the tool answers
  and whichever deadlines fire, leaves it without one, unless an
  `Apply` is given a desired version below `0`.
-/
theorem runOps_keeps_version
    (ops : List Op)
    (w : World SchemaState Call)
    (h : w.state.version.isSome)
    (hOps : ∀ d fired, Op.apply d fired ∈ ops → 0 ≤ d.toInt) :
    ((runOps files ops).run w).2.state.version.isSome := by
  induction ops generalizing w with
  | nil => exact h
  | cons op ops ih =>
      rw [runOps, run_bind]
      exact ih _ (Op.run_preserves files op
        (fun d fired hop => hOps d fired (hop ▸ List.mem_cons_self _ _)) w h)
        fun d fired hd => hOps d fired (List.mem_cons_of_mem _ hd)

/-
  From version `1`, `Rollback(0)` of the earlier migrator with files
  up to `3` keeps it, where the later one runs `Down`.
-/
theorem runOps_keeps_version_rollback_zero :
    let files : Migrations := ⟨3, by decide⟩
    let w : World SchemaState Call := ⟨[], Migrate.clean 1 (by decide), []⟩
    w.state.version.isSome ∧
      (∀ d fired, Op.apply d fired ∈ [Op.rollback 0 false] → 0 ≤ d.toInt) ∧
      ((runOps files [.rollback 0 false]).run w).2.state.version.isSome ∧
      ((Migrator.rollback files 0 false).run w).2.state.version = none :=
  ⟨rfl, fun _ _ h => by simp at h, runOps_keeps_version _ _ _ rfl fun _ _ h => by simp at h,
    by decide⟩

/- `Apply(-1)` is the exception: from version `1` it removes every migration. -/
example :
    ((runOps ⟨3, by decide⟩ [.apply (-1) false]).run
      ⟨[], Migrate.clean 1 (by decide), []⟩).2.state.version = none := by
  decide

end Legacy

end Migrator

end Kit
