import Kit.Migrator.Contract
import Kit.Migrator.Faults

/-
  The migrator over whole runs: any sequence of `Version`,
  `Assert`, `Apply` and `Rollback` calls issued one after another,
  with any answers of the tool and any deadlines.

  No call stores a version past the last migration file. `Apply`
  and `Rollback` only reach versions the tool has a file for, and
  `Rollback` forces a dirty row at the version it read, never at
  another. Every row a run reaches therefore meets the hypothesis
  of `Contract`.

  Main declarations:
    * `Op`, `Op.run`, `runOps`
    * `Preserves` and its composition lemmas
    * `Within`, `Op.run_within`, `runOps_within`
    * `runOps_keeps_contract`
-/

------------------------------------------------------------
-- Calls One After Another
------------------------------------------------------------

namespace Kit

namespace Migrator

variable (files : Migrations)

/- A call of the migrator's API, with whether its deadline fires. -/
inductive Op where
  | version (fired : Bool)
  | assert (schemaVersion : BitVec 64) (fired : Bool)
  | apply (schemaVersion : BitVec 64) (fired : Bool)
  | rollback (schemaVersion : BitVec 64) (fired : Bool)
deriving DecidableEq, Repr

/- One call, its result dropped. -/
def Op.run : Op → MigRun Unit
  | .version fired => do let _ ← Migrator.version fired
  | .assert d fired => do let _ ← Migrator.assert d fired
  | .apply d fired => do let _ ← Migrator.apply files d fired
  | .rollback d fired => do let _ ← Migrator.rollback files d fired

/- The calls one after another. -/
def runOps : List Op → MigRun Unit
  | [] => pure ()
  | op :: ops => do
      Op.run files op
      runOps ops

end Migrator

end Kit

------------------------------------------------------------
-- Invariants of the Row
------------------------------------------------------------

namespace Kit

namespace Migrator

/- From every world whose row satisfies `P`, `m` leaves a row that does. -/
def Preserves
    {α : Type}
    (P : SchemaState → Prop)
    (m : MigRun α) : Prop :=
  ∀ w, P w.state → P (m.run w).2.state

namespace Preserves

variable {α β : Type} {P : SchemaState → Prop}

/- A computation that leaves the row as it is. -/
theorem of_state
    {m : MigRun α}
    (h : ∀ w, (m.run w).2.state = w.state) :
    Preserves P m := fun w hP =>
  (h w).symm ▸ hP

theorem pure
    (a : α) :
    Preserves P (Pure.pure a : MigRun α) :=
  of_state fun _ => rfl

theorem bind
    {m : MigRun α}
    {f : α → MigRun β}
    (hm : Preserves P m)
    (hf : ∀ a, Preserves P (f a)) :
    Preserves P (m >>= f) := fun w hP =>
  hf _ _ (hm w hP)

theorem map
    (f : α → β)
    {m : MigRun α}
    (hm : Preserves P m) :
    Preserves P (f <$> m) :=
  hm

theorem deadline
    {E : Type}
    (fired : Bool)
    (exceeded : E)
    {fn : MigRun (Option E)}
    (hfn : Preserves P fn) :
    Preserves P (Kit.deadline fired exceeded fn) :=
  hfn.bind fun _ => pure _

end Preserves

theorem version_preserves
    (P : SchemaState → Prop) :
    Preserves P Migrate.version :=
  .of_state version_state

/-
  A row property that holds of every row the migrations `Migrate(t)`
  sends from a row with it can leave.
-/
theorem migrate_preserves
    {P : SchemaState → Prop}
    (files : Migrations)
    (t : BitVec 64)
    (hRow : ∀ s, P s → ∀ m ∈ (files.read s.version t.toInt).1, ∀ b, P (m.row b)) :
    Preserves P (Migrate.migrate files t) := fun w hP =>
  Migrate.runRead_preserves files _ _ w hP (hRow _ hP)

/- `Apply`'s closure moves the row only by `Migrate`. -/
theorem applyStep_preserves
    {P : SchemaState → Prop}
    (files : Migrations)
    (d : BitVec 64)
    (hRow : ∀ s, P s → ∀ m ∈ (files.read s.version d.toInt).1, ∀ b, P (m.row b)) :
    Preserves P (applyStep files d) := by
  refine (version_preserves P).bind fun r => ?_
  split
  · exact .pure _
  · split_ifs <;> first | exact .pure _ | exact .map _ (migrate_preserves files _ hRow)

theorem assertStep_preserves
    (P : SchemaState → Prop)
    (d : BitVec 64) :
    Preserves P (assertStep d) :=
  (version_preserves P).bind fun _ => .pure _

end Migrator

end Kit

------------------------------------------------------------
-- No Version Past the Last File
------------------------------------------------------------

namespace Kit

namespace Migrator

variable (files : Migrations)

/- The stored version, absent reading as `0`, has a file. -/
def Within
    (s : SchemaState) : Prop :=
  s.reads.1 ≤ files.last

/- Each call keeps the stored version at or below the last file. -/
theorem Op.run_within
    (op : Op) :
    Preserves (Within files) (Op.run files op) := by
  have hRow : ∀ t : Int, ∀ s, Within files s → ∀ m ∈ (files.read s.version t).1, ∀ b,
      Within files (m.row b) := fun _ _ _ m _ b => by
    unfold Within
    rw [Migration.row_reads]
    cases hv : m.targetVersion with
    | none => exact Nat.zero_le _
    | some v => exact m.hasFile v hv
  cases op with
  | version fired => exact ((version_preserves _).bind fun _ => .pure _).bind fun _ => .pure _
  | assert d fired =>
      exact ((assertStep_preserves _ d).deadline fired _ |>.map _).bind fun _ => .pure _
  | apply d fired =>
      exact ((applyStep_preserves files d (hRow _)).deadline fired _ |>.map _).bind
        fun _ => .pure _
  | rollback d fired =>
      refine Preserves.bind (fun w hW => ?_) fun _ => .pure _
      exact (rollbackStep_neverRaises files d w).trans hW

theorem runOps_within
    (ops : List Op) :
    Preserves (Within files) (runOps files ops) := by
  induction ops with
  | nil => exact .pure _
  | cons op ops ih => exact (Op.run_within files op).bind fun _ => ih

/-
  From a row at or below the last file, any sequence of calls,
  whatever the tool answers and whichever deadlines fire, reaches
  only rows at or below it, and at each of them `Assert`, `Apply`
  and `Rollback` behave as `Contract` says.
-/
theorem runOps_keeps_contract
    (ops : List Op)
    (w : World SchemaState Call)
    (h : w.state.reads.1 ≤ files.last) :
    ((runOps files ops).run w).2.state.reads.1 ≤ files.last ∧
      ∀ d calls, Contract files ((runOps files ops).run w).2.state d calls := by
  have hWithin := runOps_within files ops w h
  exact ⟨hWithin, fun d calls =>
    ⟨assert_spec _ d calls, apply_spec files _ d calls hWithin,
      apply_negative_spec files _ d calls hWithin, rollback_spec files _ d calls hWithin⟩⟩

/- From an absent version, `Apply(2)` then `Rollback(1)` with files up to `3`. -/
theorem runOps_keeps_contract_sample :
    let files : Migrations := ⟨3, by decide⟩
    let w : World SchemaState Call := ⟨[], ⟨none, false, fun _ h => nomatch h⟩, []⟩
    let ops := [Op.apply 2 false, Op.rollback 1 false]
    w.state.reads.1 ≤ files.last ∧
      ((runOps files ops).run w).2.state.reads.1 ≤ files.last ∧
        ∀ d calls, Contract files ((runOps files ops).run w).2.state d calls :=
  ⟨by decide, runOps_keeps_contract _ _ _ (by decide)⟩

end Migrator

end Kit
