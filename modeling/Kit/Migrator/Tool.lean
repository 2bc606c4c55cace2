import Kit.Basic
import Mathlib.Algebra.Group.Int

/-
  The migration tool the migrator drives, `golang-migrate`, over
  the migration files `1..last`.

  The tool keeps one row: a schema version, absent before the
  first migration, and a dirty flag. `Migrate(version)` reads the
  row, refuses a dirty one, and runs the migrations that
  `read(curVersion, int(version))` sends, one at a time: each sets
  its version dirty, runs its body and sets the version clean, so
  a body that fails leaves the row dirty at that version. Going
  down to `-1` ends with the nil migration, which leaves no
  version; going below `-1` stops at the first file with an error.
  `Down()` runs what `readDown(curVersion, -1)` sends the same way.
  The tool's code is not in the repository; it is modelled from
  its `v4` sources.

  Correctness is proven by:
    * `runRead_run`: every call is recorded once, and the row ends
      as it was or as one of the migrations left it
    * `mem_read_up`, `mem_read_down`, `mem_read_nil`: the direction
      of every migration `read` sends
    * `runRead_run_nil`, `read_up`, `read_down`, `landing_stepsUp`,
      `landing_stepsDown`: where a run without failures ends

  Main declarations:
    * `SchemaState`, `Migrations`, `Migration`
    * `read`, `readDown`, `runMigrations`
    * `Migrate.version`, `Migrate.migrate`, `Migrate.down`,
      `Migrate.force`
-/

------------------------------------------------------------
-- The Row and the Files
------------------------------------------------------------

namespace Kit

namespace Migrator

/-
  The bookkeeping row. A version is stored as a `bigint` and read
  back as a `uint` that must not be negative, so it lies below
  `2^63`.
-/
@[ext]
structure SchemaState where
  version : Option Nat
  dirty : Bool
  bounded : ∀ v ∈ version, v < 2 ^ 63
deriving DecidableEq

/-
  The row as `Version` reports it to `Assert` and `Apply`: an
  absent version reads as a clean `0`, whatever flag is stored.
-/
def SchemaState.reads
    (s : SchemaState) : Nat × Bool :=
  match s.version with
  | none => (0, false)
  | some v => (v, s.dirty)

theorem SchemaState.reads_lt
    (s : SchemaState) :
    s.reads.1 < 2 ^ 63 := by
  unfold SchemaState.reads
  split
  · decide
  · exact s.bounded _ ‹_›

theorem SchemaState.reads_fst
    (s : SchemaState) :
    s.reads.1 = s.version.getD 0 := by
  unfold SchemaState.reads
  split <;> simp_all

/- Go's `int` below and above `MaxInt64`. -/
theorem toInt_cases
    (d : BitVec 64) :
    (d.toInt = d.toNat ∧ d.toNat < 2 ^ 63) ∨
      (d.toInt = d.toNat - 2 ^ 64 ∧ 2 ^ 63 ≤ d.toNat) := by
  rw [BitVec.toInt_eq_toNat_cond]
  split <;> omega

/-
  The migration files `1..last`. The tool converts versions to
  `int`, so the last one lies below `2^63`.
-/
structure Migrations where
  last : Nat
  fits : last < 2 ^ 63

/-
  A migration `read` sends: the version it sets, `none` for the nil
  version `-1`. Every version a migration sets has a file.
-/
structure Migration
    (files : Migrations) where
  targetVersion : Option Nat
  hasFile : ∀ v ∈ targetVersion, v ≤ files.last

/- The row `SetVersion(TargetVersion, dirty)` leaves. -/
def Migration.row
    {files : Migrations}
    (m : Migration files)
    (dirty : Bool) : SchemaState :=
  ⟨m.targetVersion, dirty, fun v hv => Nat.lt_of_le_of_lt (m.hasFile v hv) files.fits⟩

@[simp]
theorem Migration.row_reads
    {files : Migrations}
    (m : Migration files)
    (dirty : Bool) :
    (m.row dirty).reads.1 = m.targetVersion.getD 0 :=
  SchemaState.reads_fst _

/- The errors of the tool, by their texts. -/
def errNoChange : String := "no change"

/- `ErrDirty{version}`, without the version. -/
def errDirty : String := "Dirty database version"

/- What `versionExists` and a missing `Prev` wrap: `os.ErrNotExist`. -/
def errNotExist : String := "file does not exist"

def errInvalidVersion : String := "invalid version"

end Migrator

end Kit

------------------------------------------------------------
-- What the Tool Reads
------------------------------------------------------------

namespace Kit

namespace Migrator

namespace Migrations

variable (files : Migrations)

/- The migration to file `v`. -/
def migration
    (v : Nat)
    (h : v ≤ files.last) : Migration files :=
  ⟨some v, fun _ hv => Option.some_inj.mp hv ▸ h⟩

/- The nil migration, from the first file down to `-1`. -/
def nilMigration : Migration files :=
  ⟨none, fun _ h => nomatch h⟩

/-
  The loop `for from < to` of `read`: `Next(from)` is `from + 1`,
  sent as the migration to it, `k` times.
-/
def stepsUp : (cur k : Nat) → cur + k ≤ files.last → List (Migration files)
  | _, 0, _ => []
  | cur, k + 1, h => files.migration (cur + 1) (by omega) :: stepsUp (cur + 1) k (by omega)

/-
  The loop `for from > to && from >= 0`: `Prev(from)` is
  `from - 1`, sent as the migration to it, `k` times.
-/
def stepsDown : (cur : Nat) → cur ≤ files.last → Nat → List (Migration files)
  | _, _, 0 => []
  | cur, h, k + 1 => files.migration (cur - 1) (by omega) :: stepsDown (cur - 1) (by omega) k

/-
  `read(from, to)`: the migrations the tool sends to
  `runMigrations`, and the error it sends after them. `cur` is the
  stored version, `none` for `-1`, and `target` is
  `int(version)`. `versionExists` finds the files `1..last`; from
  `-1` the first migration is `First()`, file `1`, and a missing
  `Prev(1)` ends the way down: with the nil migration when the
  target is `-1`, with `ErrNotExist` below it.
-/
def read
    (cur : Option Nat)
    (target : Int) : List (Migration files) × Option String :=
  match cur with
  | none =>
      if hTarget : 0 ≤ target ∧ ¬(1 ≤ target ∧ target ≤ files.last) then
        ([], some errNotExist)
      else if target = -1 then ([], some errNoChange)
      else if h : 0 ≤ target then (files.stepsUp 0 target.toNat (by omega), none)
      else ([], none)
  | some f =>
      if hf : 1 ≤ f ∧ f ≤ files.last then
        if hTarget : 0 ≤ target ∧ ¬(1 ≤ target ∧ target ≤ files.last) then
          ([], some errNotExist)
        else if (f : Int) = target then ([], some errNoChange)
        else if h : (f : Int) < target then
          (files.stepsUp f (target.toNat - f) (by omega), none)
        else if 0 ≤ target then (files.stepsDown f hf.2 (f - target.toNat), none)
        else if target = -1 then
          (files.stepsDown f hf.2 (f - 1) ++ [files.nilMigration], none)
        else (files.stepsDown f hf.2 (f - 1), some errNotExist)
      else ([], some errNotExist)

/-
  `readDown(from, -1)`, what `Down` runs: every migration down from
  the stored version, then the nil migration.
-/
def readDown
    (cur : Option Nat) : List (Migration files) × Option String :=
  match cur with
  | none => ([], some errNoChange)
  | some f =>
      if hf : 1 ≤ f ∧ f ≤ files.last then
        (files.stepsDown f hf.2 (f - 1) ++ [files.nilMigration], none)
      else ([], some errNotExist)

/- `Down` sends what `Migrate(uint(-1))` sends. -/
theorem readDown_eq_read
    (cur : Option Nat) :
    files.readDown cur = files.read cur (-1) := by
  cases cur with
  | none => simp [readDown, read]
  | some f =>
      simp (disch := omega) only [readDown, read, dif_pos, dif_neg, if_pos, if_neg, if_true]

/- The row the migrations leave when every body succeeds. -/
def landing
    (s : SchemaState)
    (ms : List (Migration files)) : SchemaState :=
  ms.foldl (fun _ m => m.row false) s

end Migrations

end Migrator

end Kit

------------------------------------------------------------
-- The Direction of Each Migration
------------------------------------------------------------

namespace Kit

namespace Migrator

namespace Migrations

variable (files : Migrations)

theorem mem_stepsUp
    {m : Migration files}
    {cur k : Nat}
    {h : cur + k ≤ files.last}
    (hm : m ∈ files.stepsUp cur k h) :
    ∃ v, m.targetVersion = some v ∧ cur < v := by
  induction k generalizing cur with
  | zero => cases hm
  | succ k ih =>
      rcases List.mem_cons.mp hm with rfl | hm
      · exact ⟨_, rfl, Nat.lt_succ_self _⟩
      · obtain ⟨v, hv, hlt⟩ := ih hm
        exact ⟨v, hv, by omega⟩

theorem mem_stepsDown
    {m : Migration files}
    {cur k : Nat}
    {h : cur ≤ files.last}
    (hm : m ∈ files.stepsDown cur h k)
    (hk : k ≤ cur) :
    ∃ v, m.targetVersion = some v ∧ v < cur := by
  induction k generalizing cur with
  | zero => cases hm
  | succ k ih =>
      rcases List.mem_cons.mp hm with rfl | hm
      · exact ⟨_, rfl, by omega⟩
      · obtain ⟨v, hv, hlt⟩ := ih hm (by omega)
        exact ⟨v, hv, by omega⟩

/-
  Every migration `read` sends is on the way up from the stored
  version, on the way down from it, or the nil migration on the
  way to `-1`.
-/
theorem mem_read
    {m : Migration files}
    {cur : Option Nat}
    {target : Int}
    (hm : m ∈ (files.read cur target).1) :
    (∃ v, m.targetVersion = some v ∧ cur.getD 0 < v ∧ (cur.getD 0 : Int) < target) ∨
      (∃ v, m.targetVersion = some v ∧ v < cur.getD 0 ∧ target < (cur.getD 0 : Int)) ∨
      (m.targetVersion = none ∧ target = -1) := by
  cases cur with
  | none =>
      simp only [read, Option.getD_none] at hm ⊢
      split_ifs at hm
      all_goals first
        | cases hm
        | exact .inl ((files.mem_stepsUp hm).imp fun _ h => ⟨h.1, h.2, by omega⟩)
  | some f =>
      simp only [read, Option.getD_some] at hm ⊢
      have hDown : ∀ {k h}, m ∈ files.stepsDown f h k → k ≤ f → target < f →
          (∃ v, m.targetVersion = some v ∧ v < f ∧ target < (f : Int)) := fun hm hk ht =>
        (files.mem_stepsDown hm hk).imp fun _ h => ⟨h.1, h.2, ht⟩
      by_cases hf : 1 ≤ f ∧ f ≤ files.last
      · rw [dif_pos hf] at hm
        split_ifs at hm
        all_goals first
          | cases hm
          | exact .inl ((files.mem_stepsUp hm).imp fun _ h => ⟨h.1, h.2, by omega⟩)
          | exact .inr (.inl (hDown hm (by omega) (by omega)))
          | (rcases List.mem_append.mp hm with hm | hm
             exacts [.inr (.inl (hDown hm (by omega) (by omega))),
               .inr (.inr ⟨List.mem_singleton.mp hm ▸ rfl, by assumption⟩)])
      · rw [dif_neg hf] at hm
        cases hm

/- Up to a target above the stored version, every migration raises it. -/
theorem mem_read_up
    {m : Migration files}
    {cur : Option Nat}
    {target : Int}
    (hm : m ∈ (files.read cur target).1)
    (hlt : (cur.getD 0 : Int) < target) :
    ∃ v, m.targetVersion = some v ∧ cur.getD 0 < v := by
  rcases files.mem_read hm with ⟨v, hv, hUp, -⟩ | ⟨_, -, -, hDown⟩ | ⟨-, rfl⟩
  · exact ⟨v, hv, hUp⟩
  all_goals omega

/- Down to a target below the stored version, every migration lowers it. -/
theorem mem_read_down
    {m : Migration files}
    {cur : Option Nat}
    {target : Int}
    (hm : m ∈ (files.read cur target).1)
    (hlt : target < (cur.getD 0 : Int)) :
    ∀ v ∈ m.targetVersion, v < cur.getD 0 := by
  intro v hv
  rcases files.mem_read hm with ⟨_, -, -, hUp⟩ | ⟨w, hw, hDown, -⟩ | ⟨hNone, -⟩
  · omega
  · exact Option.some_inj.mp (hw.symm.trans hv) ▸ hDown
  · exact Option.noConfusion (hNone.symm.trans hv)

/- Only the way down to `-1` sends the nil migration. -/
theorem mem_read_nil
    {m : Migration files}
    {cur : Option Nat}
    {target : Int}
    (hm : m ∈ (files.read cur target).1)
    (hNil : m.targetVersion = none) :
    target = -1 := by
  rcases files.mem_read hm with ⟨_, hv, -⟩ | ⟨_, hv, -⟩ | ⟨-, h⟩
  · exact Option.noConfusion (hNil.symm.trans hv)
  · exact Option.noConfusion (hNil.symm.trans hv)
  · exact h

end Migrations

end Migrator

end Kit

------------------------------------------------------------
-- Runs Without Failures
------------------------------------------------------------

namespace Kit

namespace Migrator

namespace Migrations

variable (files : Migrations)

@[simp]
theorem landing_nil
    (s : SchemaState) :
    files.landing s [] = s :=
  rfl

@[simp]
theorem landing_cons
    (s : SchemaState)
    (m : Migration files)
    (ms : List (Migration files)) :
    files.landing s (m :: ms) = files.landing (m.row false) ms :=
  rfl

theorem landing_append_singleton
    (s : SchemaState)
    (ms : List (Migration files))
    (m : Migration files) :
    files.landing s (ms ++ [m]) = m.row false := by
  simp [landing, List.foldl_append]

/- Up `k ≥ 1` files from `cur`, the row ends clean at `cur + k`. -/
theorem landing_stepsUp
    (s : SchemaState)
    (cur k : Nat)
    (h : cur + k ≤ files.last)
    (hk : 0 < k) :
    (files.landing s (files.stepsUp cur k h)).version = some (cur + k) ∧
      (files.landing s (files.stepsUp cur k h)).dirty = false := by
  induction k generalizing cur s with
  | zero => omega
  | succ k ih =>
      rcases Nat.eq_zero_or_pos k with rfl | hk
      · exact ⟨rfl, rfl⟩
      · have := ih (files.migration (cur + 1) (by omega) |>.row false) (cur + 1) (by omega) hk
        exact ⟨this.1.trans (congrArg some (by omega)), this.2⟩

/- Down `k ≥ 1` files from `cur`, the row ends clean at `cur - k`. -/
theorem landing_stepsDown
    (s : SchemaState)
    (cur k : Nat)
    (h : cur ≤ files.last)
    (hk : 0 < k) :
    (files.landing s (files.stepsDown cur h k)).version = some (cur - k) ∧
      (files.landing s (files.stepsDown cur h k)).dirty = false := by
  induction k generalizing cur s with
  | zero => omega
  | succ k ih =>
      rcases Nat.eq_zero_or_pos k with rfl | hk
      · exact ⟨rfl, rfl⟩
      · have := ih (files.migration (cur - 1) (by omega) |>.row false) (cur - 1) (by omega) hk
        exact ⟨this.1.trans (congrArg some (by omega)), this.2⟩

/- From a stored file or none, up to a file above it. -/
theorem read_up
    (cur : Option Nat)
    (target : Int)
    (hCur : ∀ f ∈ cur, 1 ≤ f)
    (hlt : (cur.getD 0 : Int) < target)
    (hLast : target ≤ files.last)
    (hFile : cur.getD 0 ≤ files.last) :
    files.read cur target =
      (files.stepsUp (cur.getD 0) (target.toNat - cur.getD 0) (by omega), none) := by
  cases cur with
  | none =>
      simp only [Option.getD_none, Nat.sub_zero] at hlt ⊢
      simp (disch := omega) only [read, dif_pos, dif_neg, if_pos, if_neg]
  | some f =>
      have := hCur f rfl
      simp only [Option.getD_some] at hlt hFile ⊢
      simp (disch := omega) only [read, dif_pos, dif_neg, if_pos, if_neg]

/- Below `0`, from no version: nothing to send. -/
theorem read_none_below_zero
    (target : Int)
    (hTarget : target < 0) :
    files.read none target = ([], if target = -1 then some errNoChange else none) := by
  by_cases h : target = -1 <;>
    simp (disch := omega) only [read, h, dif_neg, if_pos, if_neg, if_true, if_false]

/- Below `0`, from a stored file: the way down to `-1`, or to the first file and an error. -/
theorem read_below_zero
    (f : Nat)
    (target : Int)
    (hTarget : target < 0)
    (hf : 1 ≤ f ∧ f ≤ files.last) :
    files.read (some f) target =
      if target = -1 then (files.stepsDown f hf.2 (f - 1) ++ [files.nilMigration], none)
      else (files.stepsDown f hf.2 (f - 1), some errNotExist) := by
  simp (disch := omega) only [read, dif_pos, dif_neg, if_pos, if_neg]

/- From a stored file down to a file below it. -/
theorem read_down
    (f : Nat)
    (target : Int)
    (hTarget : 1 ≤ target)
    (hlt : target < f)
    (hFile : f ≤ files.last) :
    files.read (some f) target = (files.stepsDown f hFile (f - target.toNat), none) := by
  simp (disch := omega) only [read, dif_pos, dif_neg, if_pos, if_neg]

end Migrations

end Migrator

end Kit

------------------------------------------------------------
-- The Tool's Calls
------------------------------------------------------------

namespace Kit

namespace Migrator

/- The calls made to the tool, each with its result. -/
inductive Call where
  | version (result : Option String)
  | migrate (version : BitVec 64) (result : Option String)
  | down (result : Option String)
  | force (version : BitVec 64) (result : Option String)
deriving DecidableEq, Repr

abbrev MigRun := Run SchemaState Call

/- What `migrate.Version()` returns. -/
inductive VersionResult where
  | ok (version : Nat) (dirty : Bool)
  | nilVersion
  | error (text : String)
deriving DecidableEq, Repr

namespace Migrate

/-
  `m.Version()`: `ErrNilVersion` when no version is stored; the
  environment may fail the read.
-/
def version : MigRun VersionResult := do
  match ← ask with
  | some e =>
      emit (.version (some e))
      return .error e
  | none =>
      let s := (← get).state
      emit (.version none)
      return match s.version with
        | none => .nilVersion
        | some v => .ok v s.dirty

theorem version_run
    (w : World SchemaState Call) :
    version.run w =
      (match w.answers.headD none with
        | some e => .error e
        | none =>
            match w.state.version with
            | none => .nilVersion
            | some v => .ok v w.state.dirty,
        { w with
          answers := w.answers.tail
          trace := w.trace ++ [.version (w.answers.headD none)] }) := by
  obtain ⟨_ | ⟨_ | e, as⟩, s, t⟩ := w <;> rfl

/- A successful read names the stored version and its flag. -/
theorem version_ok
    (w : World SchemaState Call)
    (v : Nat)
    (b : Bool)
    (h : (version.run w).1 = .ok v b) :
    w.answers.headD none = none ∧
      w.state.version = some v ∧
      w.state.dirty = b := by
  rw [version_run] at h
  split at h
  · cases h
  · split at h
    · cases h
    · cases h
      exact ⟨‹_›, ‹_›, rfl⟩

/- The schema clean at version `v`. -/
def clean
    (v : Nat)
    (hv : v < 2 ^ 63) : SchemaState :=
  ⟨some v, false, fun _ h => Option.some_inj.mp h ▸ hv⟩

@[simp]
theorem clean_reads
    (v : Nat)
    (hv : v < 2 ^ 63) :
    (clean v hv).reads = (v, false) :=
  rfl

/- Set the state and record the call. -/
def settle
    (s : SchemaState)
    (event : Call) : MigRun (Option String) := do
  modify fun w => { w with state := s }
  emit event
  return none

@[simp]
theorem settle_run
    (s : SchemaState)
    (event : Call)
    (w : World SchemaState Call) :
    (settle s event).run w =
      (none, { w with state := s, trace := w.trace ++ [event] }) :=
  rfl

/- Record the call and return its result. -/
def answer
    (event : Option String → Call)
    (r : Option String) : MigRun (Option String) := do
  emit (event r)
  return r

@[simp]
theorem answer_run
    (event : Option String → Call)
    (r : Option String)
    (w : World SchemaState Call) :
    (answer event r).run w = (r, { w with trace := w.trace ++ [event r] }) :=
  rfl

/-
  `runMigrations`: each migration sets its version dirty, runs its
  body and sets the version clean, so a body that fails leaves the
  row dirty at the migration's version and ends the run with its
  error. The bookkeeping writes themselves are taken to succeed.
-/
def runMigrations
    {files : Migrations} : List (Migration files) → MigRun (Option String)
  | [] => return none
  | m :: ms => do
      match ← ask with
      | some e =>
          modify fun w => { w with state := m.row true }
          return some e
      | none =>
          modify fun w => { w with state := m.row false }
          runMigrations ms

variable (files : Migrations)

/-
  What `Migrate` and `Down` share: take the lock and read the row,
  either of which may fail; refuse a dirty row with `ErrDirty`;
  otherwise run the migrations `plan` sends from the stored version
  and return the first error, of a migration or of `plan`.
-/
def runRead
    (event : Option String → Call)
    (plan : Option Nat → List (Migration files) × Option String) :
    MigRun (Option String) := do
  match ← ask with
  | some e => answer event (some e)
  | none =>
      let s := (← get).state
      if s.dirty then answer event (some errDirty)
      else
        let r ← runMigrations (plan s.version).1
        answer event (r <|> (plan s.version).2)

/- `m.Migrate(version)`: the migrations `read(curVersion, int(version))` sends. -/
def migrate
    (version : BitVec 64) : MigRun (Option String) :=
  runRead files (.migrate version) fun cur => files.read cur version.toInt

/- `m.Down()`: the migrations `readDown(curVersion, -1)` sends. -/
def down : MigRun (Option String) :=
  runRead files .down files.readDown

/-
  `m.Force(v)`: refuses a version below `-1` before it takes the
  lock; otherwise marks `v` clean, `-1` standing for no version.
-/
def force
    (v : BitVec 64) : MigRun (Option String) :=
  if v.toInt < -1 then answer (.force v) (some errInvalidVersion)
  else do
    match ← ask with
    | some e => answer (.force v) (some e)
    | none =>
        if h : 0 ≤ v.toInt then
          settle (clean v.toNat (by
            rw [BitVec.toInt_eq_toNat_cond] at h
            split at h <;> omega)) (.force v none)
        else settle ⟨none, false, fun _ h => nomatch h⟩ (.force v none)

end Migrate

end Migrator

end Kit

------------------------------------------------------------
-- What One Call Does
------------------------------------------------------------

namespace Kit

namespace Migrator

namespace Migrate

/-
  From any world, the migrations take answers and move the row,
  recording nothing; the row ends as it was or as one of them left
  it, clean or dirty.
-/
theorem runMigrations_run
    {files : Migrations}
    (ms : List (Migration files))
    (w : World SchemaState Call) :
    ((runMigrations ms).run w).2.trace = w.trace ∧
      (((runMigrations ms).run w).2.state = w.state ∨
        ∃ m ∈ ms, ∃ b, ((runMigrations ms).run w).2.state = m.row b) := by
  induction ms generalizing w with
  | nil => exact ⟨rfl, .inl rfl⟩
  | cons m ms ih =>
      simp only [runMigrations, run_bind, ask_run]
      split
      · exact ⟨rfl, .inr ⟨m, List.mem_cons_self _ _, true, rfl⟩⟩
      · obtain ⟨ht, hs⟩ := ih { w with answers := w.answers.tail, state := m.row false }
        refine ⟨ht, .inr ?_⟩
        rcases hs with hs | ⟨m', hm', b, hs⟩
        · exact ⟨m, List.mem_cons_self _ _, false, hs⟩
        · exact ⟨m', List.mem_cons_of_mem _ hm', b, hs⟩

/- With no failures, the migrations end at their `landing`. -/
theorem runMigrations_run_nil
    {files : Migrations}
    (ms : List (Migration files))
    (s : SchemaState)
    (calls : List Call) :
    (runMigrations ms).run ⟨[], s, calls⟩ = (none, ⟨[], files.landing s ms, calls⟩) := by
  induction ms generalizing s with
  | nil => rfl
  | cons m ms ih => exact ih _

variable (files : Migrations)

/-
  From any world, `Migrate` or `Down` records its call once, and
  leaves the row as it was or as one of the migrations `plan` sends
  left it.
-/
theorem runRead_run
    (event : Option String → Call)
    (plan : Option Nat → List (Migration files) × Option String)
    (w : World SchemaState Call) :
    (∃ r, ((runRead files event plan).run w).2.trace = w.trace ++ [event r]) ∧
      (((runRead files event plan).run w).2.state = w.state ∨
        ∃ m ∈ (plan w.state.version).1, ∃ b,
          ((runRead files event plan).run w).2.state = m.row b) := by
  simp only [runRead, run_bind, ask_run]
  split
  · exact ⟨⟨_, rfl⟩, .inl rfl⟩
  · simp only [run_bind, get_run, ite_run]
    split_ifs
    · exact ⟨⟨_, rfl⟩, .inl rfl⟩
    · obtain ⟨ht, hs⟩ := runMigrations_run (plan w.state.version).1
        { w with answers := w.answers.tail }
      exact ⟨⟨_, by rw [answer_run, ht]⟩, hs⟩

/-
  A property of the row that holds where the call starts and of
  every row the migrations `plan` sends can leave holds where it
  ends.
-/
theorem runRead_preserves
    (event : Option String → Call)
    (plan : Option Nat → List (Migration files) × Option String)
    {P : SchemaState → Prop}
    (w : World SchemaState Call)
    (h0 : P w.state)
    (hm : ∀ m ∈ (plan w.state.version).1, ∀ b, P (m.row b)) :
    P ((runRead files event plan).run w).2.state := by
  rcases (runRead_run files event plan w).2 with h | ⟨m, hm', b, h⟩
  · exact h ▸ h0
  · exact h ▸ hm m hm' b

/- What `Migrate` or `Down` returns and leaves when the tool fails nothing. -/
def outcome
    (plan : Option Nat → List (Migration files) × Option String)
    (s : SchemaState) : Option String × SchemaState :=
  if s.dirty then (some errDirty, s)
  else ((plan s.version).2, files.landing s (plan s.version).1)

theorem runRead_run_nil
    (event : Option String → Call)
    (plan : Option Nat → List (Migration files) × Option String)
    (s : SchemaState)
    (calls : List Call) :
    (runRead files event plan).run ⟨[], s, calls⟩ =
      ((outcome files plan s).1,
        ⟨[], (outcome files plan s).2, calls ++ [event (outcome files plan s).1]⟩) := by
  simp only [runRead, outcome, run_bind, ask_run, List.headD_nil, get_run, ite_run]
  split_ifs
  · rfl
  · simp only [List.tail_nil, runMigrations_run_nil, answer_run]
    rfl

/-
  `Force(int(v))` at the stored version `v`: on success the same
  version, clean.
-/
theorem force_current
    (w : World SchemaState Call)
    (v : Nat)
    (hv : w.state.version = some v) :
    let r := (force (BitVec.ofNat 64 v)).run w
    r.1 = w.answers.headD none ∧
    r.2 =
      { w with
        answers := w.answers.tail
        state := if r.1 = none then clean v (w.state.bounded v hv) else w.state
        trace := w.trace ++ [.force (BitVec.ofNat 64 v) r.1] } := by
  have hlt := w.state.bounded v hv
  have h0 : 0 ≤ (BitVec.ofNat 64 v).toInt := by
    rw [BitVec.toInt_eq_toNat_cond, BitVec.toNat_ofNat]
    split <;> omega
  simp only [force, show ¬(BitVec.ofNat 64 v).toInt < -1 by omega, if_false, run_bind, ask_run]
  split
  · simp_all
  · simp_all [clean]
    omega

end Migrate

end Migrator

end Kit
