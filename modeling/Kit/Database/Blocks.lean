import Kit.Database.Body

/-
  Whole programs against the database: the calls of any body run
  outside a transaction, checked against the protocol of a
  transaction.

  Such a body runs statements on the pool, checks of the context
  and outermost `Transaction` calls, one after another and inside
  helpers that recover. Each outermost call begins one
  transaction, with the next serial, and its transaction then goes
  through phases: begun, running once the check after `BeginTx`
  passes, committed, and failing after a failed `Commit` or a
  failed check after it. Its stretch ends at its `Rollback`, at the
  check after a `Commit` that passes, and at a failed check right
  after `BeginTx`, which leaves the transaction open. Outside a
  stretch only statements on the pool and checks may come, and
  inside one only calls of its own transaction. So no transaction
  is touched after its outermost call returns, whatever the driver
  answers.

  Correctness is proven by:
    * `Moves` and its composition lemmas: a computation takes the
      check from one phase to another
    * `finish_moves`, `transaction_outermost_moves`: the outermost
      call, from `BeginTx` to the end of its stretch
    * `Body.run_walk`: every body run outside a transaction passes
      the check and leaves it outside any stretch

  Main declarations:
    * `Phase`, `Phase.step`, `Phase.walk`
    * `Moves`
-/

------------------------------------------------------------
-- The Check
------------------------------------------------------------

namespace Kit

namespace Database

/-
  Where the client's calls stand with respect to a transaction:
  outside any, or in the stretch of `t`, begun, running, committed
  or failing.
-/
inductive Phase where
  | idle
  | begun (t : Tx)
  | running (t : Tx)
  | committed (t : Tx)
  | failing (t : Tx)
deriving DecidableEq, Repr

/-
  One call of the check: the least serial a new transaction may
  have and the phase after the call, `none` for a call out of place.
    * Outside a stretch: statements on the pool, scans and checks;
      a `BeginTx` above every serial before, which starts a stretch
      when it succeeds.
    * After `BeginTx`: the check, which ends the stretch when it
      fails.
    * Running: statements on the transaction, scans and checks;
      its `Commit`, and its `Rollback`, which ends the stretch.
    * Committed: the check, which ends the stretch when it passes.
    * Failing: the `Rollback`, which ends the stretch.
-/
def Phase.step
    (lo : Nat) : Phase → Event → Option (Nat × Phase)
  | .idle, .beginTx _ _ t r =>
      if lo ≤ t.serial then some (t.serial + 1, if r = none then .begun t else .idle) else none
  | .idle, .query (.pool _) _ => some (lo, .idle)
  | .idle, .exec (.pool _) _ => some (lo, .idle)
  | .idle, .scan _ => some (lo, .idle)
  | .idle, .contextErr _ => some (lo, .idle)
  | .begun t, .contextErr r => some (lo, if r = none then .running t else .idle)
  | .running t, .query (.tx t') _ => if t' = t then some (lo, .running t) else none
  | .running t, .exec (.tx t') _ => if t' = t then some (lo, .running t) else none
  | .running t, .scan _ => some (lo, .running t)
  | .running t, .contextErr _ => some (lo, .running t)
  | .running t, .commit t' r =>
      if t' = t then some (lo, if r = none then .committed t else .failing t) else none
  | .running t, .rollback t' _ => if t' = t then some (lo, .idle) else none
  | .committed t, .contextErr r => some (lo, if r = none then .idle else .failing t)
  | .failing t, .rollback t' _ => if t' = t then some (lo, .idle) else none
  | _, _ => none

/- The check over the calls, left to right. -/
def Phase.walk
    (lo : Nat)
    (p : Phase) : List Event → Option (Nat × Phase)
  | [] => some (lo, p)
  | e :: evs => (p.step lo e).bind fun q => Phase.walk q.1 q.2 evs

/- A transaction found cancelled right after `BeginTx` is never touched again. -/
example :
    Phase.walk 0 .idle [.beginTx 0 ⟨Pgx.readCommitted, Pgx.readWrite⟩ ⟨0, 0⟩ none,
      .contextErr (some "context canceled"), .query (.tx ⟨0, 0⟩) none] = none := by
  decide

/- Nor is a transaction after its `Rollback`, or once its commit has been checked. -/
example :
    Phase.walk 0 .idle [.beginTx 0 ⟨Pgx.readCommitted, Pgx.readWrite⟩ ⟨0, 0⟩ none,
      .contextErr none, .rollback ⟨0, 0⟩ none, .exec (.tx ⟨0, 0⟩) none] = none ∧
    Phase.walk 0 .idle [.beginTx 0 ⟨Pgx.readCommitted, Pgx.readWrite⟩ ⟨0, 0⟩ none,
      .contextErr none, .commit ⟨0, 0⟩ none, .contextErr none,
      .rollback ⟨0, 0⟩ none] = none := by
  decide

theorem Phase.walk_append
    (lo : Nat)
    (p : Phase)
    (xs ys : List Event) :
    Phase.walk lo p (xs ++ ys) = (Phase.walk lo p xs).bind fun q => Phase.walk q.1 q.2 ys := by
  induction xs generalizing lo p with
  | nil => rfl
  | cons e xs ih =>
      simp only [List.cons_append, Phase.walk]
      cases p.step lo e with
      | none => rfl
      | some q => exact ih q.1 q.2

end Database

end Kit

------------------------------------------------------------
-- Computations Between Phases
------------------------------------------------------------

namespace Kit

namespace Database

variable {α β : Type}

/-
  From any world whose serial counter is the check's least serial,
  `m` takes the check from phase `p` to phase `q`, leaving the
  least serial at the counter it ends with.
-/
def Moves
    (p q : Phase)
    (m : DbRun α) : Prop :=
  ∀ w, ∃ evs, (m.run w).2.trace = w.trace ++ evs ∧
    Phase.walk w.state p evs = some ((m.run w).2.state, q)

namespace Moves

variable {p q r : Phase}

theorem pure
    (a : α) :
    Moves p p (Pure.pure a : DbRun α) :=
  fun _ => ⟨[], (List.append_nil _).symm, rfl⟩

theorem bind
    {m : DbRun α}
    {f : α → DbRun β}
    (hm : Moves p q m)
    (hf : ∀ a, Moves q r (f a)) :
    Moves p r (m >>= f) := by
  intro w
  obtain ⟨evs₁, hTrace₁, hWalk₁⟩ := hm w
  obtain ⟨evs₂, hTrace₂, hWalk₂⟩ := hf (m.run w).1 (m.run w).2
  refine ⟨evs₁ ++ evs₂, by rw [run_bind, hTrace₂, hTrace₁, List.append_assoc], ?_⟩
  rw [Phase.walk_append, hWalk₁, Option.some_bind, run_bind]
  exact hWalk₂

/- A call the check takes in phase `p` to phase `q`, whatever it answers. -/
theorem call
    {event : Option String → Event}
    (h : ∀ a lo, p.step lo (event a) = some (lo, q)) :
    Moves p q (Kit.call event : DbRun _) := fun w => by
  rw [call_run]
  exact ⟨_, rfl, by simp [Phase.walk, h]⟩

/- A call checked for an error, the phase after it depending on its answer. -/
theorem ifErr_call
    {x y : Phase}
    {event : Option String → Event}
    {handle : String → DbRun α}
    {k : DbRun α}
    (hSome : ∀ e lo, p.step lo (event (some e)) = some (lo, x))
    (hNone : ∀ lo, p.step lo (event none) = some (lo, y))
    (hh : ∀ e, Moves x r (handle e))
    (hk : Moves y r k) :
    Moves p r (Kit.ifErr (Kit.call event) handle k) := by
  intro w
  rw [ifErr_call_run]
  cases hAnswer : w.answers.headD none with
  | some e =>
      obtain ⟨evs, hTrace, hWalk⟩ := hh e
        { w with answers := w.answers.tail, trace := w.trace ++ [event (some e)] }
      exact ⟨_ :: evs, by simpa using hTrace, by simpa [Phase.walk, hSome] using hWalk⟩
  | none =>
      obtain ⟨evs, hTrace, hWalk⟩ := hk
        { w with answers := w.answers.tail, trace := w.trace ++ [event none] }
      exact ⟨_ :: evs, by simpa using hTrace, by simpa [Phase.walk, hNone] using hWalk⟩

/- A call checked for an error, in a phase that it does not leave. -/
theorem ifErr_stay
    {event : Option String → Event}
    {handle : String → DbRun α}
    {k : DbRun α}
    (h : ∀ a lo, p.step lo (event a) = some (lo, p))
    (hh : ∀ e, Moves p r (handle e))
    (hk : Moves p r k) :
    Moves p r (Kit.ifErr (Kit.call event) handle k) :=
  ifErr_call (fun _ => h _) (h _) hh hk

end Moves

/- `continueWith` returns at once or runs `k`, so it has what every `pure` and `k` have. -/
theorem continueWith_of
    {Q : DbRun Outcome → Prop}
    (hPure : ∀ r, Q (Pure.pure r))
    {k : DbRun Outcome}
    (hk : Q k)
    (propagate : Bool)
    (r : Outcome) :
    Q (continueWith propagate r k) := by
  cases r with
  | ok => exact hk
  | err e => cases propagate <;> simp only [continueWith] <;> first | exact hk | exact hPure _
  | panic v => exact hPure _

end Database

end Kit

------------------------------------------------------------
-- Inside the Stretch of a Transaction
------------------------------------------------------------

namespace Kit

namespace Database

variable {db : Database} {ctx : Context} {t : Tx}

theorem query_moves_running
    (hCtx : ctx.transaction = some t) :
    Moves (.running t) (.running t) (db.query ctx) := by
  unfold query
  rw [conn_of_transaction hCtx]
  exact .ifErr_stay (fun _ _ => by simp [Phase.step]) (fun _ => .pure _) <|
    .ifErr_stay (fun _ _ => rfl) (fun _ => .pure _) <|
    .ifErr_stay (fun _ _ => rfl) (fun _ => .pure _) (.pure _)

theorem exec_moves_running
    (hCtx : ctx.transaction = some t) :
    Moves (.running t) (.running t) (db.exec ctx) := by
  unfold exec
  rw [conn_of_transaction hCtx]
  exact .ifErr_stay (fun _ _ => by simp [Phase.step]) (fun _ => .pure _) <|
    .ifErr_stay (fun _ _ => rfl) (fun _ => .pure _) (.pure _)

/- A body on a context that carries `t` keeps the stretch of `t` running. -/
theorem Body.run_moves_running
    (b : Body)
    (hCtx : ctx.transaction = some t) :
    Moves (.running t) (.running t) (b.run ctx) := by
  induction b with
  | ret err => exact .pure _
  | panic v => exact .pure _
  | query db propagate rest ih =>
      exact (query_moves_running hCtx).bind fun _ => continueWith_of Moves.pure ih propagate _
  | exec db propagate rest ih =>
      exact (exec_moves_running hCtx).bind fun _ => continueWith_of Moves.pure ih propagate _
  | transaction db level fn propagate rest ihFn ih =>
      rw [Body.run, transaction_nested level _ hCtx]
      exact (ihFn.bind fun r => .pure (nestedResult r)).bind fun _ =>
        continueWith_of Moves.pure ih propagate _
  | recover fn propagate rest ihFn ih =>
      exact ihFn.bind fun _ => continueWith_of Moves.pure ih propagate _

/- A `Rollback` ends the stretch, from a running or a failing transaction. -/
theorem rollbackWith_moves
    {p : Phase}
    (hp : p = .running t ∨ p = .failing t)
    (e : Error) :
    Moves p .idle (rollbackWith t e) :=
  (Moves.call fun _ _ => by rcases hp with rfl | rfl <;> simp [Phase.step]).bind fun _ =>
    .pure _

/-
  After the body, the outermost call ends the stretch: by a
  `Rollback`, or by the check after a `Commit` that passes.
-/
theorem finish_moves
    (r : Outcome) :
    Moves (.running t) .idle (finish t r) := by
  have hRunning := rollbackWith_moves (t := t) (.inl rfl)
  have hFailing := rollbackWith_moves (t := t) (.inr rfl)
  cases r with
  | ok =>
      exact .ifErr_stay (fun _ _ => rfl) (fun _ => hRunning _) <|
        .ifErr_call (x := .failing t) (y := .committed t) (fun _ _ => by simp [Phase.step])
          (fun _ => by simp [Phase.step]) (fun _ => hFailing _) <|
        .ifErr_call (x := .failing t) (y := .idle) (fun _ _ => rfl) (fun _ => rfl)
          (fun _ => hFailing _) (.pure _)
  | err e => exact hRunning e
  | panic v => exact (Moves.call fun _ _ => by simp [Phase.step]).bind fun _ => .pure _

/-
  An outermost `Transaction` begins its transaction above every
  serial before, and its stretch is over when it returns.
-/
theorem transaction_outermost_moves
    (level : Option IsolationLevel)
    {fn : Context → DbRun Outcome}
    (hCtx : ctx.transaction = none)
    (hFn : ∀ t, Moves (.running t) (.running t) (fn ⟨some t⟩)) :
    Moves .idle .idle (db.transaction ctx level fn) := by
  intro w
  let options : TxOptions :=
    ⟨kisoLevelToPisoLevel (level.getD db.defaultIsolationLevel), Pgx.readWrite⟩
  let begun : Tx := ⟨db.pool, w.state⟩
  simp only [transaction, hCtx]
  rw [run_bind, beginTx_run]
  cases hAnswer : w.answers.headD none with
  | some e =>
      -- `BeginTx` fails: no stretch
      exact ⟨_, rfl, by simp [Phase.walk, Phase.step]⟩
  | none =>
      -- the check, the body and the settling
      have hMoves : Moves (.begun begun) .idle
          (ifErr (call .contextErr) (fun e => return transactionFailed (.raw e))
            (fn ⟨some begun⟩ >>= finish begun)) :=
        .ifErr_call (x := .idle) (y := .running begun) (fun _ _ => rfl) (fun _ => rfl)
          (fun _ => .pure _) ((hFn begun).bind finish_moves)
      obtain ⟨evs, hTrace, hWalk⟩ := hMoves
        ⟨w.answers.tail, w.state + 1, w.trace ++ [.beginTx db.pool options begun none]⟩
      exact ⟨_ :: evs, by simpa using hTrace, by simpa [Phase.walk, Phase.step] using hWalk⟩

end Database

end Kit

------------------------------------------------------------
-- Every Run Outside a Transaction
------------------------------------------------------------

namespace Kit

namespace Database

variable {db : Database} {ctx : Context}

theorem conn_of_outside
    (hCtx : ctx.transaction = none) :
    db.conn ctx = .pool db.pool := by
  simp [conn, hCtx]

theorem query_moves_idle
    (hCtx : ctx.transaction = none) :
    Moves .idle .idle (db.query ctx) := by
  unfold query
  rw [conn_of_outside hCtx]
  exact .ifErr_stay (fun _ _ => rfl) (fun _ => .pure _) <|
    .ifErr_stay (fun _ _ => rfl) (fun _ => .pure _) <|
    .ifErr_stay (fun _ _ => rfl) (fun _ => .pure _) (.pure _)

theorem exec_moves_idle
    (hCtx : ctx.transaction = none) :
    Moves .idle .idle (db.exec ctx) := by
  unfold exec
  rw [conn_of_outside hCtx]
  exact .ifErr_stay (fun _ _ => rfl) (fun _ => .pure _) <|
    .ifErr_stay (fun _ _ => rfl) (fun _ => .pure _) (.pure _)

/- A body on a context without a transaction starts and ends outside any stretch. -/
theorem Body.run_moves_idle
    (b : Body)
    (hCtx : ctx.transaction = none) :
    Moves .idle .idle (b.run ctx) := by
  induction b with
  | ret err => exact .pure _
  | panic v => exact .pure _
  | query db propagate rest ih =>
      exact (query_moves_idle hCtx).bind fun _ => continueWith_of Moves.pure ih propagate _
  | exec db propagate rest ih =>
      exact (exec_moves_idle hCtx).bind fun _ => continueWith_of Moves.pure ih propagate _
  | transaction db level fn propagate rest _ ih =>
      exact (transaction_outermost_moves level hCtx fun _ => Body.run_moves_running fn rfl).bind
        fun _ => continueWith_of Moves.pure ih propagate _
  | recover fn propagate rest ihFn ih =>
      exact ihFn.bind fun _ => continueWith_of Moves.pure ih propagate _

/-
  For every body run on a context without a transaction, from any
  world, whatever the driver answers: its calls pass the check,
  which ends outside any stretch with the serial counter the run
  leaves. Each statement on a transaction, each `Commit` and each
  `Rollback` comes in that transaction's own stretch, which no
  statement on the pool and no other `BeginTx` interrupts, every
  transaction is begun above every serial before, and none is
  touched once its stretch is over.
-/
theorem Body.run_walk
    (b : Body)
    (ctx : Context)
    (hCtx : ctx.transaction = none)
    (w : World Nat Event) :
    ∃ evs, ((b.run ctx).run w).2.trace = w.trace ++ evs ∧
      Phase.walk w.state .idle evs = some (((b.run ctx).run w).2.state, .idle) :=
  Body.run_moves_idle b hCtx w

/- Two outermost transactions around a statement on the pool, a nested call in the second. -/
theorem Body.run_walk_sample :
    let db : Database := ⟨0, ⟨"", none, some isoLvlReadCommitted⟩, rfl⟩
    let b : Body :=
      .transaction db none (.query db true (.ret none)) true <|
      .query db true <|
      .transaction db none
        (.transaction db none (.exec db true (.ret none)) true (.ret none)) true <|
      .ret none
    let ctx : Context := ⟨none⟩
    let w : World Nat Event := ⟨[], 0, []⟩
    ctx.transaction = none ∧
      ∃ evs, ((b.run ctx).run w).2.trace = w.trace ++ evs ∧
        Phase.walk w.state .idle evs = some (((b.run ctx).run w).2.state, .idle) :=
  ⟨rfl, Body.run_walk _ _ rfl _⟩

end Database

end Kit
