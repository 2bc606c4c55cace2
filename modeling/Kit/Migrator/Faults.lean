import Kit.Migrator.Schema

/-
  What `Assert`, `Apply` and `Rollback` leave in the bookkeeping
  row when they run no `Migrate` or `Down` step, for every answer
  of the tool and whether or not the deadline fires.

  `Assert` and `Apply` then leave the row as they found it.
  `Rollback` keeps the version, but on a dirty row it forces the
  version clean before it compares the desired one, so a
  `Rollback` that fails afterwards leaves the row clean. Whatever
  steps they run, `Apply` of a desired version `d ≥ 0` only raises
  the version and `Rollback` only lowers it; `Apply(d)` with
  `d < 0` runs `Migrate(uint(d))`, which the tool reads as a
  migration down.

  Correctness is proven by:
    * `schema_moves_only_by_step`: the row moves only by a step,
      or by a successful `Force` that clears the flag
    * `operations_move_monotonically`: the direction each
      operation moves the version in

  Main declarations:
    * `Keeps`, `KeepsVersion` and their composition lemmas
    * `schema_moves_only_by_step`
    * `NeverLowers`, `NeverRaises`, `operations_move_monotonically`
-/

------------------------------------------------------------
-- Computations That Keep the Row
------------------------------------------------------------

namespace Kit

namespace Migrator

/- The calls that move the schema. -/
def Call.isStep : Call → Bool
  | .migrate _ _ => true
  | .down _ => true
  | _ => false

/-
  From any world, `m` leaves the row as it found it unless it
  records a `Migrate` or `Down` step.
-/
def Keeps
    {α : Type}
    (m : MigRun α) : Prop :=
  ∀ w, ∃ evs, (m.run w).2.trace = w.trace ++ evs ∧
    ((m.run w).2.state = w.state ∨ ∃ e ∈ evs, e.isStep)

namespace Keeps

variable {α β : Type}

theorem pure
    (a : α) :
    Keeps (pure a : MigRun α) :=
  fun _ => ⟨[], (List.append_nil _).symm, .inl rfl⟩

theorem bind
    {m : MigRun α}
    {f : α → MigRun β}
    (hm : Keeps m)
    (hf : ∀ a, Keeps (f a)) :
    Keeps (m >>= f) := by
  intro w
  obtain ⟨evs₁, ht₁, hs₁⟩ := hm w
  obtain ⟨evs₂, ht₂, hs₂⟩ := hf (m.run w).1 (m.run w).2
  refine ⟨evs₁ ++ evs₂, by rw [run_bind, ht₂, ht₁, List.append_assoc], ?_⟩
  rw [run_bind]
  rcases hs₂ with h₂ | ⟨e, he, hStep⟩
  · rcases hs₁ with h₁ | ⟨e, he, hStep⟩
    · exact .inl (h₂.trans h₁)
    · exact .inr ⟨e, List.mem_append_left _ he, hStep⟩
  · exact .inr ⟨e, List.mem_append_right _ he, hStep⟩

theorem map
    (f : α → β)
    {m : MigRun α}
    (hm : Keeps m) :
    Keeps (f <$> m) :=
  hm

theorem deadline
    {E : Type}
    (fired : Bool)
    (exceeded : E)
    {fn : MigRun (Option E)}
    (hfn : Keeps fn) :
    Keeps (Kit.deadline fired exceeded fn) :=
  hfn.bind fun _ => .pure _

end Keeps

theorem version_keeps : Keeps Migrate.version := fun w =>
  ⟨_, by rw [Migrate.version_run], .inl (by rw [Migrate.version_run])⟩

theorem migrate_keeps
    (files : Migrations)
    (t : BitVec 64) :
    Keeps (Migrate.migrate files t) := fun w =>
  let ⟨_, h⟩ := (Migrate.runRead_run files _ _ w).1
  ⟨_, h, .inr ⟨_, List.mem_singleton_self _, rfl⟩⟩

theorem down_keeps
    (files : Migrations) :
    Keeps (Migrate.down files) := fun w =>
  let ⟨_, h⟩ := (Migrate.runRead_run files _ _ w).1
  ⟨_, h, .inr ⟨_, List.mem_singleton_self _, rfl⟩⟩

end Migrator

end Kit

------------------------------------------------------------
-- Computations That Keep the Version
------------------------------------------------------------

namespace Kit

namespace Migrator

/-
  From `s` to `s'` over the calls `evs`: the version kept, and the
  dirty flag too unless a recorded `Force` succeeded, which clears
  it.
-/
def Settled
    (s s' : SchemaState)
    (evs : List Call) : Prop :=
  s'.version = s.version ∧
    (s'.dirty = s.dirty ∨ s'.dirty = false ∧ ∃ v, Call.force v none ∈ evs)

theorem Settled.refl
    (s : SchemaState)
    (evs : List Call) :
    Settled s s evs :=
  ⟨rfl, .inl rfl⟩

theorem Settled.mono
    {s s' : SchemaState}
    {evs evs' : List Call}
    (h : Settled s s' evs)
    (hSub : evs ⊆ evs') :
    Settled s s' evs' := by
  obtain ⟨hv, hd | ⟨hd, v, hForce⟩⟩ := h
  · exact ⟨hv, .inl hd⟩
  · exact ⟨hv, .inr ⟨hd, v, hSub hForce⟩⟩

/-
  From any world, `m` settles the row unless it records a
  `Migrate` or `Down` step.
-/
def KeepsVersion
    {α : Type}
    (m : MigRun α) : Prop :=
  ∀ w, ∃ evs, (m.run w).2.trace = w.trace ++ evs ∧
    (Settled w.state (m.run w).2.state evs ∨ ∃ e ∈ evs, e.isStep)

theorem KeepsVersion.bind_keeps
    {α β : Type}
    {m : MigRun α}
    {f : α → MigRun β}
    (hm : KeepsVersion m)
    (hf : ∀ a, Keeps (f a)) :
    KeepsVersion (m >>= f) := by
  intro w
  obtain ⟨evs₁, ht₁, hs₁⟩ := hm w
  obtain ⟨evs₂, ht₂, hs₂⟩ := hf (m.run w).1 (m.run w).2
  refine ⟨evs₁ ++ evs₂, by rw [run_bind, ht₂, ht₁, List.append_assoc], ?_⟩
  rw [run_bind]
  rcases hs₂ with h₂ | ⟨e, he, hStep⟩
  · rcases hs₁ with h₁ | ⟨e, he, hStep⟩
    · exact .inl (h₂ ▸ h₁.mono (List.subset_append_left _ _))
    · exact .inr ⟨e, List.mem_append_left _ he, hStep⟩
  · exact .inr ⟨e, List.mem_append_right _ he, hStep⟩

theorem KeepsVersion.map
    {α β : Type}
    (f : α → β)
    {m : MigRun α}
    (hm : KeepsVersion m) :
    KeepsVersion (f <$> m) :=
  hm

theorem KeepsVersion.deadline
    {E : Type}
    (fired : Bool)
    (exceeded : E)
    {fn : MigRun (Option E)}
    (hfn : KeepsVersion fn) :
    KeepsVersion (Kit.deadline fired exceeded fn) :=
  hfn.bind_keeps fun _ => .pure _

end Migrator

end Kit

------------------------------------------------------------
-- The Operations
------------------------------------------------------------

namespace Kit

namespace Migrator

variable (files : Migrations)

theorem assertStep_keeps
    (d : BitVec 64) :
    Keeps (assertStep d) :=
  version_keeps.bind fun _ => .pure _

theorem applyStep_keeps
    (d : BitVec 64) :
    Keeps (applyStep files d) := by
  refine version_keeps.bind fun r => ?_
  split
  · exact .pure _
  · split_ifs
    all_goals first | exact .pure _ | exact .map _ (migrate_keeps _ _)

theorem rollbackTo_keeps
    (v : Nat)
    (d : BitVec 64) :
    Keeps (rollbackTo files v d) := by
  unfold rollbackTo
  split_ifs
  · exact .pure _
  · exact .pure _
  · exact .map _ (down_keeps _)
  · exact .map _ (migrate_keeps _ _)

/-
  `Rollback`'s closure: the read keeps the row, a `Force` at the
  stored version settles it, and the rest keeps it.
-/
theorem rollbackStep_keepsVersion
    (d : BitVec 64) :
    KeepsVersion (rollbackStep files d) := by
  intro w
  have hw₁ : (Migrate.version.run w).2 =
      { w with
        answers := w.answers.tail
        trace := w.trace ++ [.version (w.answers.headD none)] } := by
    rw [Migrate.version_run]
  rw [rollbackStep, run_bind, hw₁]
  generalize hres : (Migrate.version.run w).1 = res
  cases res with
  | error e => exact ⟨_, rfl, .inl (Settled.refl _ _)⟩
  | nilVersion => exact ⟨_, rfl, .inl (Settled.refl _ _)⟩
  | ok v b =>
    obtain ⟨-, hv, rfl⟩ := Migrate.version_ok w v _ hres
    cases hb : w.state.dirty
    · -- a clean row
      obtain ⟨evs, ht, hs⟩ := rollbackTo_keeps files v d
        { w with
          answers := w.answers.tail
          trace := w.trace ++ [.version (w.answers.headD none)] }
      simp only [Bool.false_eq_true, if_false]
      refine ⟨_ :: evs, by rw [ht, List.append_assoc]; rfl, ?_⟩
      rcases hs with hs | ⟨e, he, hStep⟩
      · exact .inl (by rw [hs]; exact Settled.refl _ _)
      · exact .inr ⟨e, List.mem_cons_of_mem _ he, hStep⟩
    · -- a dirty row: `Force` first
      simp only [if_true, run_bind]
      have hForce := Migrate.force_current
        { w with
          answers := w.answers.tail
          trace := w.trace ++ [.version (w.answers.headD none)] } v hv
      rw [hForce.2]
      generalize ((Migrate.force _).run _).1 = r
      cases r with
      | some e =>
        exact ⟨[.version (w.answers.headD none), .force (BitVec.ofNat 64 v) (some e)],
          by simp, .inl (by simpa using Settled.refl _ _)⟩
      | none =>
        obtain ⟨evs, ht, hs⟩ := rollbackTo_keeps files v (d - 1)
          { w with
            answers := w.answers.tail.tail
            state := Migrate.clean v (w.state.bounded v hv)
            trace := w.trace ++ [.version (w.answers.headD none)] ++
              [.force (BitVec.ofNat 64 v) none] }
        simp only [if_true]
        refine ⟨.version (w.answers.headD none) :: .force (BitVec.ofNat 64 v) none :: evs,
          by rw [ht]; simp, ?_⟩
        rcases hs with hs | ⟨e, he, hStep⟩
        · exact .inl ⟨by rw [hs, hv]; rfl,
            .inr ⟨by rw [hs]; rfl, _, List.mem_cons_of_mem _ (List.mem_cons_self _ _)⟩⟩
        · exact .inr ⟨e, List.mem_cons_of_mem _ (List.mem_cons_of_mem _ he), hStep⟩

/-
  Whatever the tool answers and whether or not the deadline fires,
  `Assert` and `Apply` leave the row as they found it unless they
  record a `Migrate` or `Down` step, and `Rollback` keeps the
  version and clears no flag but by a successful `Force`.
-/
theorem schema_moves_only_by_step
    (d : BitVec 64)
    (fired : Bool) :
    Keeps (assert d fired) ∧
      Keeps (apply files d fired) ∧
      KeepsVersion (rollback files d fired) :=
  ⟨.map _ (.deadline _ _ (assertStep_keeps d)),
    .map _ (.deadline _ _ (applyStep_keeps files d)),
    .map _ (.deadline _ _ (rollbackStep_keepsVersion files d))⟩

/-
  A dirty row at `3`: `Rollback(5)` forces it clean, then finds
  `4` ahead of `3` and fails, without a `Migrate` or `Down` step.
-/
theorem rollback_error_clears_dirty :
    let files : Migrations := ⟨5, by decide⟩
    let dirty : SchemaState := ⟨some 3, true, (Migrate.clean 3 (by decide)).bounded⟩
    let r := (rollback files 5 false).run ⟨[], dirty, []⟩
    r.1 = some (.ahead 4 3) ∧
      (∀ e ∈ r.2.trace, e.isStep = false) ∧
      r.2.state ≠ dirty := by
  decide

end Migrator

end Kit

------------------------------------------------------------
-- The Direction of a Move
------------------------------------------------------------

namespace Kit

namespace Migrator

theorem version_state
    (w : World SchemaState Call) :
    (Migrate.version.run w).2.state = w.state := by
  rw [Migrate.version_run]

/- A read that succeeds names the row as `Version` reports it. -/
theorem version_read_ok
    (w : World SchemaState Call)
    (cur : Nat)
    (bad : Bool)
    (h : (Migrate.version.run w).1.read = .ok (cur, bad)) :
    w.state.reads = (cur, bad) := by
  rw [Migrate.version_run] at h
  unfold SchemaState.reads
  split at h
  · simp [VersionResult.read] at h
  · split at h <;> simp_all [VersionResult.read]

/- From any world, `m` never lowers the version the row reads as. -/
def NeverLowers
    {α : Type}
    (m : MigRun α) : Prop :=
  ∀ w, w.state.reads.1 ≤ (m.run w).2.state.reads.1

/- From any world, `m` never raises the version the row reads as. -/
def NeverRaises
    {α : Type}
    (m : MigRun α) : Prop :=
  ∀ w, (m.run w).2.state.reads.1 ≤ w.state.reads.1

variable (files : Migrations)

/-
  `Apply` with `d ≥ 0` migrates only up from the version it read:
  each migration `read` sends on the way to `d` sets a version
  above it.
-/
theorem applyStep_neverLowers
    (d : BitVec 64)
    (hd : 0 ≤ d.toInt) :
    NeverLowers (applyStep files d) := by
  intro w
  rw [applyStep, run_bind]
  cases hRead : (Migrate.version.run w).1.read with
  | error e => simp [version_state]
  | ok r =>
      obtain ⟨cur, bad⟩ := r
      have hReads := version_read_ok w cur bad hRead
      simp only
      split_ifs with hBad hEq hGt
      · simp [version_state]
      · simp [version_state]
      · simp [version_state]
      · -- `Migrate(d)` with `d` above the version read
        have hd' : d.toInt = d.toNat := by rcases toInt_cases d with h | h <;> omega
        have hState := version_state w
        rw [map_run]
        refine Migrate.runRead_preserves files _ _ (P := fun s => w.state.reads.1 ≤ s.reads.1)
          _ (by rw [hState]) fun m hm b => ?_
        rw [hState] at hm
        obtain ⟨v, hv, hlt⟩ :=
          files.mem_read_up hm (by rw [← SchemaState.reads_fst, hReads]; omega)
        rw [Migration.row_reads, hv, Option.getD_some, SchemaState.reads_fst]
        exact hlt.le

/- The rest of `Rollback`, from a row read at `cur`, moves only below it. -/
theorem rollbackTo_lowers
    (cur : Nat)
    (d : BitVec 64)
    (w : World SchemaState Call)
    (hCur : w.state.reads.1 = cur) :
    ((rollbackTo files cur d).run w).2.state.reads.1 ≤ cur := by
  have hlt := w.state.reads_lt
  have hBelow : ∀ target : Int, target < cur → ∀ m ∈ (files.read w.state.version target).1,
      ∀ b, (m.row b).reads.1 ≤ cur := fun target ht m hm b => by
    rw [Migration.row_reads]
    rw [← hCur, SchemaState.reads_fst] at ht ⊢
    cases hv : m.targetVersion with
    | none => exact Nat.zero_le _
    | some v => exact (files.mem_read_down hm ht v hv).le
  simp only [rollbackTo, ite_run]
  split_ifs with hEq hLt hZero
  · exact hCur.le
  · exact hCur.le
  · -- `Down`: what `Migrate(uint(-1))` sends
    rw [map_run]
    refine Migrate.runRead_preserves files _ _ (P := fun s => s.reads.1 ≤ cur) _ hCur.le ?_
    rw [Migrations.readDown_eq_read]
    exact hBelow (-1) (by omega)
  · -- `Migrate(d)` with `d` below the version read
    have hd' : d.toInt = d.toNat := by rcases toInt_cases d with h | h <;> omega
    rw [map_run]
    exact Migrate.runRead_preserves files _ _ (P := fun s => s.reads.1 ≤ cur) _ hCur.le
      (hBelow d.toInt (by omega))

theorem rollbackStep_neverRaises
    (d : BitVec 64) :
    NeverRaises (rollbackStep files d) := by
  intro w
  rw [rollbackStep, run_bind]
  generalize hres : (Migrate.version.run w).1 = res
  cases res with
  | error e => simp [version_state]
  | nilVersion => simp [version_state]
  | ok v b =>
      obtain ⟨-, hv, rfl⟩ := Migrate.version_ok w v _ hres
      have hReads : w.state.reads.1 = v := by simp [SchemaState.reads, hv]
      cases hb : w.state.dirty
      · -- a clean row
        simp only [Bool.false_eq_true, if_false]
        exact (rollbackTo_lowers files v d _ (by rw [version_state, hReads])).trans hReads.ge
      · -- a dirty row: `Force` at the version read first
        simp only [if_true, run_bind]
        have hForce := Migrate.force_current (Migrate.version.run w).2 v
          (by rw [version_state]; exact hv)
        rw [hForce.2]
        generalize ((Migrate.force _).run _).1 = r
        cases r with
        | some e => simp [version_state]
        | none =>
            simp only [if_true]
            exact (rollbackTo_lowers files v (d - 1) _ (by rfl)).trans hReads.ge

/-
  Whatever the tool answers and whether or not the deadline fires,
  `Assert` leaves the row as it is, `Apply` with `d ≥ 0` never
  lowers the version the row reads as, and `Rollback` never raises
  it.
-/
theorem operations_move_monotonically
    (d : BitVec 64)
    (fired : Bool) :
    (∀ w, ((assert d fired).run w).2.state = w.state) ∧
      (0 ≤ d.toInt → NeverLowers (apply files d fired)) ∧
      NeverRaises (rollback files d fired) :=
  ⟨version_state, applyStep_neverLowers files d, rollbackStep_neverRaises files d⟩

theorem operations_move_monotonically_five :
    0 ≤ (5 : BitVec 64).toInt ∧ NeverLowers (apply ⟨5, by decide⟩ 5 false) :=
  ⟨by decide, (operations_move_monotonically ⟨5, by decide⟩ 5 false).2.1 (by decide)⟩

/- Below `0` the direction is lost: `Apply(-1)` removes every migration. -/
example :
    ¬NeverLowers (apply ⟨5, by decide⟩ (-1) false) := fun h =>
  absurd (h ⟨[], Migrate.clean 3 (by decide), []⟩) (by decide)

end Migrator

end Kit
