import Kit.Migrator.Schema

/-
  What `Assert`, `Apply` and `Rollback` do to the bookkeeping row
  when the tool fails no call of its own accord and the deadline
  does not fire.

  `Assert` and `Apply` read an absent version as a clean `0`;
  `Rollback` refuses it. On a dirty row `Rollback` forces the
  stored version clean and then decrements the desired version,
  with Go's wrapping `int` arithmetic, before it compares.

  Below `2^63` the tool refuses `Migrate(t)` for a `t` without a
  file and changes nothing, and a stored `0`, which has no file, is
  refused as a starting point. `Apply` hands a negative desired
  version to `Migrate` as a `uint` above every file, which the tool
  reads back as the negative `int`: `-1` undoes every migration,
  and a lower one undoes them down to the first file and fails
  there.

  Main declarations:
    * `outcome_refused`, `outcome_up`, `outcome_down`,
      `outcome_readDown`, `migrate_without_file`
    * `assert_spec`, `apply_spec`, `apply_negative_spec`,
      `rollback_spec`
    * `Contract`, the three together, and `migrator_contract`
-/

------------------------------------------------------------
-- Reading the Desired Version
------------------------------------------------------------

namespace Kit

namespace Migrator

/- Below `2^63`, `uint(d)` and `d` agree. -/
theorem toNat_le_iff
    (d : BitVec 64)
    (v : Nat)
    (hv : v < 2 ^ 63) :
    d.toNat ≤ v ↔ 0 ≤ d.toInt ∧ d.toInt ≤ v := by
  rcases toInt_cases d with ⟨h, h'⟩ | ⟨h, h'⟩ <;> omega

theorem version_read
    (s : SchemaState)
    (calls : List Call) :
    (Migrate.version.run ⟨[], s, calls⟩).1.read = .ok s.reads := by
  obtain ⟨_ | v, dirty, hb⟩ := s <;> rfl

theorem version_run_nil
    (s : SchemaState)
    (calls : List Call) :
    (Migrate.version.run ⟨[], s, calls⟩).2 = ⟨[], s, calls ++ [.version none]⟩ := by
  rw [Migrate.version_run]
  rfl

end Migrator

end Kit

------------------------------------------------------------
-- The Tool Without Faults
------------------------------------------------------------

namespace Kit

namespace Migrator

variable (files : Migrations)

/-
  `Migrate(t)` refuses, changing nothing, a row flagged dirty, a
  stored `0`, and a `t` below `2^63` without a file.
-/
theorem outcome_refused
    (s : SchemaState)
    (target : Int)
    (h : s.dirty = true ∨ s.version = some 0 ∨
      0 ≤ target ∧ ¬(1 ≤ target ∧ target ≤ files.last)) :
    (Migrate.outcome files (fun cur => files.read cur target) s).1 ≠ none ∧
      (Migrate.outcome files (fun cur => files.read cur target) s).2 = s := by
  unfold Migrate.outcome
  split_ifs with hDirty
  · exact ⟨Option.some_ne_none _, rfl⟩
  · have hRead : files.read s.version target = ([], some errNotExist) := by
      cases hv : s.version with
      | none =>
          simp only [hv, reduceCtorEq, false_or] at h
          simp only [Migrations.read, dif_pos (h.resolve_left (by simpa using hDirty))]
      | some f =>
          have hFile : f = 0 ∨ 0 ≤ target ∧ ¬(1 ≤ target ∧ target ≤ files.last) := by
            simpa [hv, hDirty] using h
          by_cases hf : 1 ≤ f ∧ f ≤ files.last <;>
            simp (disch := omega) only [Migrations.read, dif_pos, dif_neg]
    simp [hRead]

/- Up from a stored file, or from none, to a file above it. -/
theorem outcome_up
    (s : SchemaState)
    (target : Int)
    (hClean : s.dirty = false)
    (hCur : ∀ f ∈ s.version, 1 ≤ f)
    (hlt : (s.reads.1 : Int) < target)
    (hLast : target ≤ files.last)
    (hFile : s.reads.1 ≤ files.last) :
    Migrate.outcome files (fun cur => files.read cur target) s =
      (none, Migrate.clean target.toNat (by have := files.fits; omega)) := by
  rw [SchemaState.reads_fst] at hlt hFile
  simp only [Migrate.outcome, hClean, Bool.false_eq_true, if_false,
    files.read_up _ _ hCur hlt hLast hFile]
  obtain ⟨hv, hd⟩ := files.landing_stepsUp s (s.version.getD 0)
    (target.toNat - s.version.getD 0) (by omega) (by omega)
  exact Prod.ext rfl (SchemaState.ext (hv.trans (congrArg some (by omega))) hd)

/- Down from a stored file to a file below it. -/
theorem outcome_down
    (s : SchemaState)
    (f : Nat)
    (target : Int)
    (hClean : s.dirty = false)
    (hv : s.version = some f)
    (hTarget : 1 ≤ target)
    (hlt : target < f)
    (hFile : f ≤ files.last) :
    Migrate.outcome files (fun cur => files.read cur target) s =
      (none, Migrate.clean target.toNat (by have := files.fits; omega)) := by
  simp only [Migrate.outcome, hClean, Bool.false_eq_true, if_false, hv,
    files.read_down f target hTarget hlt hFile]
  obtain ⟨hv', hd⟩ := files.landing_stepsDown s f (f - target.toNat) hFile (by omega)
  exact Prod.ext rfl (SchemaState.ext (hv'.trans (congrArg some (by omega))) hd)

/- `Down` from a stored file undoes every migration. -/
theorem outcome_readDown
    (s : SchemaState)
    (f : Nat)
    (hClean : s.dirty = false)
    (hv : s.version = some f)
    (hf : 1 ≤ f ∧ f ≤ files.last) :
    Migrate.outcome files files.readDown s = (none, ⟨none, false, fun _ h => nomatch h⟩) := by
  simp only [Migrate.outcome, hClean, Bool.false_eq_true, if_false, hv, Migrations.readDown,
    dif_pos hf, Migrations.landing_append_singleton]
  rfl

/-
  The premise the migrator's contract rests on, as the tool
  behaves: below `2^63`, `Migrate(t)` for a `t` without a file
  fails and changes nothing.
-/
theorem migrate_without_file
    (t : BitVec 64)
    (s : SchemaState)
    (calls : List Call)
    (ht : 0 ≤ t.toInt)
    (hFile : ¬(1 ≤ t.toInt ∧ t.toInt ≤ files.last)) :
    let r := (Migrate.migrate files t).run ⟨[], s, calls⟩
    r.1 ≠ none ∧ r.2.state = s := by
  simp only [Migrate.migrate, Migrate.runRead_run_nil]
  exact outcome_refused files s t.toInt (.inr (.inr ⟨ht, hFile⟩))

end Migrator

end Kit

------------------------------------------------------------
-- The Operations Without Faults
------------------------------------------------------------

namespace Kit

namespace Migrator

variable (files : Migrations)

/- `Assert(d)` succeeds exactly on a clean row at `d`. -/
theorem assert_spec
    (s : SchemaState)
    (d : BitVec 64)
    (calls : List Call) :
    let r := (assert d false).run ⟨[], s, calls⟩
    (r.1 = none ↔ s.reads.2 = false ∧ d.toInt = s.reads.1) ∧
    r.2.state = s := by
  have hlt := s.reads_lt
  simp only [assert, map_run, deadline_false_run, assertStep, run_bind, version_read,
    version_run_nil]
  refine ⟨?_, rfl⟩
  rcases toInt_cases d with ⟨h, h'⟩ | ⟨h, h'⟩ <;> split_ifs <;> simp_all <;> omega

/-
  `Apply(d)` from a row read below `uint(d)`: refused when flagged
  dirty, otherwise `Migrate(d)` decides.
-/
theorem apply_above
    (s : SchemaState)
    (d : BitVec 64)
    (calls : List Call)
    (hAbove : s.reads.1 < d.toNat) :
    let r := (apply files d false).run ⟨[], s, calls⟩
    let o := Migrate.outcome files (fun cur => files.read cur d.toInt) s
    (r.1 = none ↔ s.reads.2 = false ∧ o.1 = none) ∧
      r.2.state = if s.reads.2 then s else o.2 := by
  simp only [apply, map_run, deadline_false_run, applyStep, run_bind, version_read,
    version_run_nil]
  split_ifs with hBad hEq hGt <;> try omega
  · simp [hBad]
  · simp only [Bool.not_eq_true] at hBad
    simp [Migrate.migrate, Migrate.runRead_run_nil, hBad]

/-
  `Apply(d)` with `d ≥ 0` succeeds on a clean row at most `d`, with
  `d` a file, and leaves it clean at `d`. To move, the tool needs a
  row with no dirty flag stored and a stored version with a file:
  an absent version still flagged dirty, or a stored `0`, makes
  `Migrate` refuse.
-/
theorem apply_spec
    (s : SchemaState)
    (d : BitVec 64)
    (calls : List Call)
    (hLast : s.reads.1 ≤ files.last)
    (hd : 0 ≤ d.toInt) :
    let r := (apply files d false).run ⟨[], s, calls⟩
    (r.1 = none ↔
      s.reads.2 = false ∧ ↑s.reads.1 ≤ d.toInt ∧ d.toInt ≤ files.last ∧
        (d.toInt = s.reads.1 ∨ s.dirty = false ∧ s.version ≠ some 0)) ∧
    (r.1 = none → r.2.state.reads = (d.toNat, false)) ∧
    (r.1 ≠ none → r.2.state = s) := by
  have hlt := s.reads_lt
  have hd' : d.toInt = d.toNat := by rcases toInt_cases d with h | h <;> omega
  rcases lt_or_ge s.reads.1 d.toNat with hAbove | hBelow
  · -- `Migrate(d)`, with `d` above the version read
    obtain ⟨hr, hs⟩ := apply_above files s d calls hAbove
    by_cases hMove : s.reads.2 = false ∧ s.dirty = false ∧ s.version ≠ some 0 ∧
      d.toInt ≤ files.last
    · obtain ⟨hBad, hClean, h0, hLe⟩ := hMove
      have hCur : ∀ f ∈ s.version, 1 ≤ f := fun f hf =>
        Nat.pos_of_ne_zero fun h => h0 (h ▸ hf)
      rw [outcome_up files s d.toInt hClean hCur (by omega) hLe hLast] at hr hs
      simp only [hBad, Bool.false_eq_true, if_false] at hr hs
      have hOk := hr.mpr (by simp)
      refine ⟨iff_of_true hOk ⟨hBad, by omega, hLe, .inr ⟨hClean, h0⟩⟩,
        fun _ => ?_, fun h => absurd hOk h⟩
      rw [hs, Migrate.clean_reads]
      exact Prod.ext (by omega) rfl
    · have hStay : s.reads.2 = true ∨ s.dirty = true ∨ s.version = some 0 ∨
          0 ≤ d.toInt ∧ ¬(1 ≤ d.toInt ∧ d.toInt ≤ files.last) := by
        by_cases h1 : s.reads.2 = true
        · exact .inl h1
        by_cases h2 : s.dirty = true
        · exact .inr (.inl h2)
        by_cases h3 : s.version = some 0
        · exact .inr (.inr (.inl h3))
        exact .inr (.inr (.inr ⟨hd, fun h => hMove ⟨by simpa using h1, by simpa using h2,
          h3, h.2⟩⟩))
      have hNe : ((apply files d false).run ⟨[], s, calls⟩).1 ≠ none := by
        rcases hStay with h1 | hRefused
        · simp [hr, h1]
        · simp [hr, (outcome_refused files s d.toInt hRefused).1]
      refine ⟨iff_of_false hNe ?_, fun h => absurd h hNe, fun _ => ?_⟩
      · rintro ⟨hBad, -, hLe, hAt | ⟨hClean, h0⟩⟩
        · omega
        · exact hMove ⟨hBad, hClean, h0, hLe⟩
      · rw [hs]
        split_ifs
        · rfl
        · rcases hStay with h1 | hRefused
          · simp_all
          · exact (outcome_refused files s d.toInt hRefused).2
  · -- at or beyond `d`: nothing moves
    simp only [apply, map_run, deadline_false_run, applyStep, run_bind, version_read,
      version_run_nil]
    split_ifs with hBad hEq hGt
    · simp [hBad]
    · simp only [Bool.not_eq_true] at hBad
      simp [hBad, Prod.ext_iff, hEq]
      omega
    · simp
      omega
    · omega

/-
  `Apply(d)` with `d < 0` runs `Migrate` to the negative version.
  From a clean stored file it undoes every migration: down to no
  version, returning `nil`, when `d = -1`, and down to the first
  file, returning an error, below `-1`. From a clean absent version
  it changes nothing and returns `nil` below `-1`. Any other row it
  leaves as it is, with an error.
-/
theorem apply_negative_spec
    (s : SchemaState)
    (d : BitVec 64)
    (calls : List Call)
    (hLast : s.reads.1 ≤ files.last)
    (hd : d.toInt < 0) :
    let r := (apply files d false).run ⟨[], s, calls⟩
    (s.dirty = false ∧ 1 ≤ s.reads.1 →
      (r.1 = none ↔ d.toInt = -1) ∧
        r.2.state.reads = (if d.toInt = -1 then 0 else 1, false)) ∧
    (s.dirty = true ∨ s.reads.1 = 0 →
      (r.1 = none ↔ s.dirty = false ∧ s.version = none ∧ d.toInt < -1) ∧
        r.2.state = s) := by
  have hlt := s.reads_lt
  have hAbove : s.reads.1 < d.toNat := by rcases toInt_cases d with h | h <;> omega
  obtain ⟨hr, hs⟩ := apply_above files s d calls hAbove
  refine ⟨fun ⟨hClean, hOne⟩ => ?_, fun h => ?_⟩
  · -- a clean stored file: the way down
    obtain ⟨f, hv⟩ : ∃ f, s.version = some f := by
      cases hv : s.version <;> simp_all [SchemaState.reads]
    have hf : 1 ≤ f ∧ f ≤ files.last := by simp_all [SchemaState.reads]
    simp only [SchemaState.reads, hv, hClean, Migrate.outcome, Bool.false_eq_true, if_false,
      files.read_below_zero f _ hd hf, true_and] at hr hs hOne ⊢
    split_ifs at hr hs ⊢ with hMinus
    · -- `-1`: the nil migration last
      rw [Migrations.landing_append_singleton] at hs
      exact ⟨iff_of_true (by simpa using hr) hMinus, by rw [hs]; rfl⟩
    · -- below `-1`: stopped at the first file
      refine ⟨iff_of_false (by simpa using hr) hMinus, ?_⟩
      rw [hs]
      rcases Nat.lt_or_ge 1 f with h2 | h1
      · obtain ⟨hv', hd'⟩ := files.landing_stepsDown s f (f - 1) hf.2 (by omega)
        simp only [SchemaState.reads, hv', hd']
        exact Prod.ext (by omega) rfl
      · obtain rfl : f = 1 := by omega
        simp [SchemaState.reads, hv, hClean, Migrations.stepsDown]
  · -- a flagged row, a stored `0` or no version: nothing moves
    rcases hv : s.version with _ | f <;> cases hDirty : s.dirty
    · -- no version, clean
      simp only [SchemaState.reads, hv, Migrate.outcome, hDirty, Bool.false_eq_true, if_false,
        files.read_none_below_zero _ hd, Migrations.landing_nil, true_and] at hr hs
      refine ⟨?_, hs⟩
      rw [hr]
      split_ifs <;> simp <;> omega
    · -- no version, flagged dirty
      simp [SchemaState.reads, hv, Migrate.outcome, hDirty] at hr hs
      simp [hr, hs]
    · -- a clean stored `0`
      have h0 : f = 0 := by simpa [SchemaState.reads, hv, hDirty] using h
      subst h0
      obtain ⟨hNe, hState⟩ := outcome_refused files s d.toInt (.inr (.inl hv))
      simp only [SchemaState.reads, hv, hDirty, Bool.false_eq_true, if_false, true_and] at hr hs
      exact ⟨iff_of_false (hr.not.mpr hNe) (by simp), hs.trans hState⟩
    · -- a stored version flagged dirty
      simp [SchemaState.reads, hv, hDirty] at hr hs
      simp [hr, hs]

/- From a clean row at `3`, `Apply(-1)` removes every migration. -/
example :
    let r := (apply ⟨5, by decide⟩ (-1) false).run ⟨[], Migrate.clean 3 (by decide), []⟩
    r.1 = none ∧ r.2.state.version = none := by
  decide

/- The rest of `Rollback` on a clean row at `v`. -/
theorem rollbackTo_spec
    (v : Nat)
    (d : BitVec 64)
    (s : SchemaState)
    (calls : List Call)
    (hv : s.version = some v)
    (hClean : s.dirty = false)
    (hLast : v ≤ files.last) :
    let r := (rollbackTo files v d).run ⟨[], s, calls⟩
    (r.1 = none ↔ d.toNat ≤ v) ∧
    (r.1 = none → r.2.state.reads = (d.toNat, false)) ∧
    (r.1 ≠ none → r.2.state = s) := by
  have hlt := s.bounded v hv
  simp only [rollbackTo, ite_run]
  split_ifs with hEq hLt hZero
  · -- already at `d`
    simp [SchemaState.reads, hv, hClean, hEq]
  · -- ahead
    simp [hLt]
  · -- `Down`, from a file above `0`
    subst hZero
    have hf : 1 ≤ v ∧ v ≤ files.last := ⟨by simp at hEq; omega, hLast⟩
    simp [Migrate.down, Migrate.runRead_run_nil, outcome_readDown files s v hClean hv hf,
      SchemaState.reads]
  · -- `Migrate(d)`, down to a file below
    have h0 : d.toNat ≠ 0 := fun h => hZero (BitVec.eq_of_toNat_eq h)
    have hd' : d.toInt = d.toNat := by rcases toInt_cases d with h | h <;> omega
    simp only [map_run, Migrate.migrate, Migrate.runRead_run_nil,
      outcome_down files s v d.toInt hClean hv (by omega) (by omega) hLast]
    exact ⟨iff_of_true rfl (by omega),
      fun _ => Prod.ext (show d.toInt.toNat = d.toNat by omega) rfl, fun h => absurd rfl h⟩

/- The desired version `Rollback` compares: one less on a dirty row. -/
def rollbackTarget
    (s : SchemaState)
    (d : BitVec 64) : BitVec 64 :=
  if s.dirty then d - 1 else d

/-
  `Rollback(d)` refuses an absent version; on a stored version `v`
  it succeeds when its target is in `0..v`, leaving the row clean
  there, and otherwise leaves `v` clean.
-/
theorem rollback_spec
    (s : SchemaState)
    (d : BitVec 64)
    (calls : List Call)
    (hLast : s.reads.1 ≤ files.last) :
    let r := (rollback files d false).run ⟨[], s, calls⟩
    (s.version = none → r.1 ≠ none ∧ r.2.state = s) ∧
    ∀ v, s.version = some v →
      (r.1 = none ↔
        0 ≤ (rollbackTarget s d).toInt ∧ (rollbackTarget s d).toInt ≤ v) ∧
      (r.1 = none → r.2.state.reads = ((rollbackTarget s d).toNat, false)) ∧
      (r.1 ≠ none → r.2.state.version = some v ∧ r.2.state.dirty = false) := by
  simp only [rollback, map_run, deadline_false_run, rollbackStep, run_bind,
    Migrate.version_run, List.headD_nil, List.tail_nil]
  refine ⟨fun hv => by simp [hv], fun v hv => ?_⟩
  have hv' : v ≤ files.last := by simpa [SchemaState.reads, hv] using hLast
  rw [← toNat_le_iff _ _ (s.bounded v hv)]
  simp only [hv, rollbackTarget]
  cases hb : s.dirty
  · -- a clean row
    obtain ⟨h1, h2, h3⟩ := rollbackTo_spec files v d s (calls ++ [.version none]) hv hb hv'
    simp only [Bool.false_eq_true, if_false, timedOutResult_eq_none, ne_eq]
    exact ⟨h1, h2, fun h => by rw [h3 h]; exact ⟨hv, hb⟩⟩
  · -- a dirty row, forced clean first
    obtain ⟨hr, hw⟩ := Migrate.force_current ⟨[], s, calls ++ [.version none]⟩ v hv
    simp only [List.headD_nil] at hr
    simp only [hr, if_true, List.tail_nil] at hw
    obtain ⟨h1, h2, h3⟩ :=
      rollbackTo_spec files v (d - 1) (Migrate.clean v (s.bounded v hv)) _ rfl rfl hv'
    simp only [if_true, run_bind, hr, hw, timedOutResult_eq_none, ne_eq]
    exact ⟨h1, h2, fun h => by rw [h3 h]; exact ⟨rfl, rfl⟩⟩

/- What the three operations do from row `s` with desired version `d`. -/
structure Contract
    (s : SchemaState)
    (d : BitVec 64)
    (calls : List Call) : Prop where
  assertSpec :
    let r := (assert d false).run ⟨[], s, calls⟩
    (r.1 = none ↔ s.reads.2 = false ∧ d.toInt = s.reads.1) ∧
    r.2.state = s
  applySpec :
    0 ≤ d.toInt →
    let r := (apply files d false).run ⟨[], s, calls⟩
    (r.1 = none ↔
      s.reads.2 = false ∧ ↑s.reads.1 ≤ d.toInt ∧ d.toInt ≤ files.last ∧
        (d.toInt = s.reads.1 ∨ s.dirty = false ∧ s.version ≠ some 0)) ∧
    (r.1 = none → r.2.state.reads = (d.toNat, false)) ∧
    (r.1 ≠ none → r.2.state = s)
  applyNegativeSpec :
    d.toInt < 0 →
    let r := (apply files d false).run ⟨[], s, calls⟩
    (s.dirty = false ∧ 1 ≤ s.reads.1 →
      (r.1 = none ↔ d.toInt = -1) ∧
        r.2.state.reads = (if d.toInt = -1 then 0 else 1, false)) ∧
    (s.dirty = true ∨ s.reads.1 = 0 →
      (r.1 = none ↔ s.dirty = false ∧ s.version = none ∧ d.toInt < -1) ∧
        r.2.state = s)
  rollbackSpec :
    let r := (rollback files d false).run ⟨[], s, calls⟩
    (s.version = none → r.1 ≠ none ∧ r.2.state = s) ∧
    ∀ v, s.version = some v →
      (r.1 = none ↔
        0 ≤ (rollbackTarget s d).toInt ∧ (rollbackTarget s d).toInt ≤ v) ∧
      (r.1 = none → r.2.state.reads = ((rollbackTarget s d).toNat, false)) ∧
      (r.1 ≠ none → r.2.state.version = some v ∧ r.2.state.dirty = false)

end Migrator

end Kit
