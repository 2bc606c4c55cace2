import Kit.Database.Client

/-
  Bodies: the functions a caller passes to `Transaction`, at any
  nesting depth.

  A body is a Go function of a context. It issues `Query`, `Exec`
  and `Transaction` calls of any `Database` on its context,
  returns early on an error or ignores it, recovers the panics of
  a helper it calls, and ends by returning `nil`, an error, or by
  panicking. `Body.run` runs one, and the transaction calls it
  makes run their own bodies through `Database.transaction`.

  Main declarations:
    * `Body`, `Body.run`
    * `Event.InsideTx`, `Body.run_insideTx`
    * `transaction_outermost_trace`
-/

------------------------------------------------------------
-- Bodies
------------------------------------------------------------

namespace Kit

namespace Database

/-
  A body. Each call is followed by `if err != nil { return err }`
  when `propagate` holds, and by nothing otherwise.
-/
inductive Body where
  | ret (err : Option Error)
  | panic (value : Nat)
  | query (db : Database) (propagate : Bool) (rest : Body)
  | exec (db : Database) (propagate : Bool) (rest : Body)
  | transaction (db : Database) (level : Option IsolationLevel)
      (fn : Body) (propagate : Bool) (rest : Body)
  | recover (fn : Body) (propagate : Bool) (rest : Body)

/-
  Go on after a call that ended with `r`: a panic unwinds, an
  error returns when the body checks it.
-/
def continueWith
    (propagate : Bool)
    (r : Outcome)
    (k : DbRun Outcome) : DbRun Outcome :=
  match r with
  | .panic v => return .panic v
  | .err e => if propagate then return .err e else k
  | .ok => k

/- The outcome of a call that returns an `error`. -/
def Outcome.ofError : Option Error → Outcome
  | none => .ok
  | some e => .err e

/-
  A helper whose deferred `recover()` stops its panic: it then
  returns `nil`.
-/
def Outcome.recovered : Outcome → Outcome
  | .panic _ => .ok
  | r => r

/- Run a body on a context. -/
def Body.run : Body → Context → DbRun Outcome
  | .ret err, _ => return .ofError err
  | .panic v, _ => return .panic v
  | .query db propagate rest, ctx => do
      let err ← db.query ctx
      continueWith propagate (.ofError err) (rest.run ctx)
  | .exec db propagate rest, ctx => do
      let err ← db.exec ctx
      continueWith propagate (.ofError err) (rest.run ctx)
  | .transaction db level fn propagate rest, ctx => do
      let r ← db.transaction ctx level fn.run
      continueWith propagate r (rest.run ctx)
  | .recover fn propagate rest, ctx => do
      let r ← fn.run ctx
      continueWith propagate r.recovered (rest.run ctx)

end Database

end Kit

------------------------------------------------------------
-- Inside a Transaction
------------------------------------------------------------

namespace Kit

namespace Database

/-
  A call made inside the transaction `tx`: a statement on `tx`, a
  scan, or a check of the context.
-/
def Event.InsideTx
    (tx : Tx) : Event → Prop
  | .query conn _ => conn = .tx tx
  | .exec conn _ => conn = .tx tx
  | .scan _ => True
  | .contextErr _ => True
  | _ => False

variable {db : Database} {ctx : Context} {tx : Tx}

theorem conn_of_transaction
    (hCtx : ctx.transaction = some tx) :
    db.conn ctx = .tx tx := by
  simp [conn, hCtx]

theorem query_insideTx
    (hCtx : ctx.transaction = some tx) :
    Emits (Event.InsideTx tx) (db.query ctx) := by
  unfold query
  rw [conn_of_transaction hCtx]
  exact .ifErr (.call fun _ => rfl) (fun _ => .pure _) <|
    .ifErr (.call fun _ => trivial) (fun _ => .pure _) <|
    .ifErr (.call fun _ => trivial) (fun _ => .pure _) (.pure _)

theorem exec_insideTx
    (hCtx : ctx.transaction = some tx) :
    Emits (Event.InsideTx tx) (db.exec ctx) := by
  unfold exec
  rw [conn_of_transaction hCtx]
  exact .ifErr (.call fun _ => rfl) (fun _ => .pure _) <|
    .ifErr (.call fun _ => trivial) (fun _ => .pure _) (.pure _)

/- `Query` on a context that carries `tx` issues its statement on `tx` first. -/
theorem query_trace_of_tx
    (hCtx : ctx.transaction = some tx)
    (w : World Nat Event) :
    ∃ evs, ((db.query ctx).run w).2.trace =
      w.trace ++ .query (.tx tx) (w.answers.headD none) :: evs ∧
        ∀ e ∈ evs, e.InsideTx tx := by
  unfold query
  rw [conn_of_transaction hCtx]
  exact Emits.ifErr_call_head (fun _ => .pure _)
    (.ifErr (.call fun _ => trivial) (fun _ => .pure _) <|
      .ifErr (.call fun _ => trivial) (fun _ => .pure _) (.pure _)) w

/- `Exec` on a context that carries `tx` issues its statement on `tx` first. -/
theorem exec_trace_of_tx
    (hCtx : ctx.transaction = some tx)
    (w : World Nat Event) :
    ∃ evs, ((db.exec ctx).run w).2.trace =
      w.trace ++ .exec (.tx tx) (w.answers.headD none) :: evs ∧ ∀ e ∈ evs, e.InsideTx tx := by
  unfold exec
  rw [conn_of_transaction hCtx]
  exact Emits.ifErr_call_head (fun _ => .pure _)
    (.ifErr (.call fun _ => trivial) (fun _ => .pure _) (.pure _)) w

/-
  A `Transaction` on a context that carries a transaction runs
  its body on that very context and begins, commits and rolls
  back nothing.
-/
theorem transaction_nested
    (level : Option IsolationLevel)
    (fn : Context → DbRun Outcome)
    (hCtx : ctx.transaction = some tx) :
    db.transaction ctx level fn = nestedResult <$> fn ctx := by
  simp [transaction, hCtx]

theorem continueWith_insideTx
    (propagate : Bool)
    (r : Outcome)
    {k : DbRun Outcome}
    (hk : Emits (Event.InsideTx tx) k) :
    Emits (Event.InsideTx tx) (continueWith propagate r k) := by
  cases r with
  | ok => exact hk
  | err e => cases propagate <;> simp only [continueWith] <;> first | exact hk | exact .pure _
  | panic v => exact .pure _

/-
  Every call a body makes, at any depth, on a context that carries
  the transaction `tx` is a statement on `tx` or a check: no
  nested `Transaction` begins, commits or rolls back.
-/
theorem Body.run_insideTx
    (b : Body)
    (hCtx : ctx.transaction = some tx) :
    Emits (Event.InsideTx tx) (b.run ctx) := by
  induction b with
  | ret err => exact .pure _
  | panic v => exact .pure _
  | query db propagate rest ih =>
      exact (query_insideTx hCtx).bind fun _ =>
        continueWith_insideTx propagate _ ih
  | exec db propagate rest ih =>
      exact (exec_insideTx hCtx).bind fun _ =>
        continueWith_insideTx propagate _ ih
  | transaction db level fn propagate rest ihFn ih =>
      rw [Body.run, transaction_nested level _ hCtx]
      exact (ihFn.bind fun r => .pure (nestedResult r)).bind fun _ =>
        continueWith_insideTx propagate _ ih
  | recover fn propagate rest ihFn ih =>
      exact ihFn.bind fun _ => continueWith_insideTx propagate _ ih

end Database

end Kit

------------------------------------------------------------
-- The Outermost Transaction
------------------------------------------------------------

namespace Kit

namespace Database

/-
  A call the outermost `Transaction` of `tx` makes after its
  `BeginTx`: one inside `tx`, or its own `Commit` or `Rollback`
  of `tx`.
-/
def Event.OfTx
    (tx : Tx) : Event → Prop
  | .commit t _ => t = tx
  | .rollback t _ => t = tx
  | .query conn _ => conn = .tx tx
  | .exec conn _ => conn = .tx tx
  | .scan _ => True
  | .contextErr _ => True
  | .beginTx _ _ _ _ => False

theorem Event.ofTx_of_insideTx
    {tx : Tx}
    {e : Event}
    (h : e.InsideTx tx) :
    e.OfTx tx := by
  cases e <;> first | exact h | exact h.elim

variable {db : Database} {ctx : Context}

/- `BeginTx` hands out the next serial and records itself. -/
theorem beginTx_run
    (pool : Nat)
    (options : TxOptions)
    (w : World Nat Event) :
    (beginTx pool options).run w =
      ((⟨pool, w.state⟩, w.answers.headD none),
        { answers := w.answers.tail
          state := w.state + 1
          trace := w.trace ++
            [.beginTx pool options ⟨pool, w.state⟩
              (w.answers.headD none)] }) := by
  obtain ⟨_ | _, _, _⟩ := w <;> rfl

/-
  Once `BeginTx` and the check after it succeed, the outermost call
  runs its body on a context that carries the transaction it began,
  then settles it.
-/
theorem transaction_outermost_run
    (level : Option IsolationLevel)
    (fn : Context → DbRun Outcome)
    (hCtx : ctx.transaction = none)
    (w : World Nat Event)
    (hBegin : w.answers.headD none = none)
    (hCheck : w.answers.tail.headD none = none) :
    let tx : Tx := ⟨db.pool, w.state⟩
    let inner : World Nat Event :=
      ⟨w.answers.tail.tail, w.state + 1,
        w.trace ++ [.beginTx db.pool ⟨kisoLevelToPisoLevel (level.getD db.defaultIsolationLevel),
          Pgx.readWrite⟩ tx none, .contextErr none]⟩
    (db.transaction ctx level fn).run w =
      (finish tx ((fn ⟨some tx⟩).run inner).1).run ((fn ⟨some tx⟩).run inner).2 := by
  simp only [transaction, hCtx]
  rw [run_bind, beginTx_run]
  simp only [hBegin]
  rw [ifErr_call_run]
  simp only [hCheck]
  simp [run_bind]

theorem rollbackWith_ofTx
    (tx : Tx)
    (e : Error) :
    Emits (Event.OfTx tx) (rollbackWith tx e) :=
  Emits.bind (Emits.call (P := Event.OfTx tx) fun _ => rfl) fun _ =>
    .pure _

/- After the body, the outermost call only commits or rolls back `tx`. -/
theorem finish_ofTx
    (tx : Tx)
    (r : Outcome) :
    Emits (Event.OfTx tx) (finish tx r) := by
  cases r with
  | ok =>
      exact .ifErr (.call fun _ => trivial) (fun _ => rollbackWith_ofTx _ _) <|
        .ifErr (.call fun _ => rfl) (fun _ => rollbackWith_ofTx _ _) <|
        .ifErr (.call fun _ => trivial) (fun _ => rollbackWith_ofTx _ _) (.pure _)
  | err e => exact rollbackWith_ofTx _ _
  | panic v =>
      exact Emits.bind (Emits.call (P := Event.OfTx tx) fun _ => rfl)
        fun _ => .pure _

/-
  The outermost `Transaction` begins one transaction, at the level
  requested or the default one, on its own pool; every later call,
  of the body at any depth included, runs inside that transaction
  or commits or rolls it back.
-/
theorem transaction_outermost_trace
    (level : Option IsolationLevel)
    (fn : Context → DbRun Outcome)
    (hCtx : ctx.transaction = none)
    (hFn : ∀ t, Emits (Event.InsideTx t) (fn { ctx with transaction := some t }))
    (w : World Nat Event) :
    ∃ r evs,
      ((db.transaction ctx level fn).run w).2.trace =
        w.trace ++
          .beginTx db.pool
            ⟨kisoLevelToPisoLevel (level.getD db.defaultIsolationLevel),
              Pgx.readWrite⟩
            ⟨db.pool, w.state⟩ r :: evs ∧
      ∀ e ∈ evs, e.OfTx ⟨db.pool, w.state⟩ := by
  have hRest : ∀ err, Emits (Event.OfTx ⟨db.pool, w.state⟩)
      (match ((⟨db.pool, w.state⟩ : Tx), err) with
        | (_, some e) => (pure (transactionFailed (.raw e)) : DbRun Outcome)
        | (tx, none) =>
            ifErr (call .contextErr)
              (fun e => return transactionFailed (.raw e)) do
              let r ← fn { ctx with transaction := some tx }
              finish tx r) := fun
    | some e => .pure _
    | none => .ifErr (.call fun _ => trivial) (fun _ => .pure _) <|
        ((hFn _).mono fun _ => Event.ofTx_of_insideTx).bind
          (finish_ofTx _)
  obtain ⟨evs, hEvs, hOf⟩ := hRest (w.answers.headD none)
    ((beginTx db.pool ⟨kisoLevelToPisoLevel
      (level.getD db.defaultIsolationLevel), Pgx.readWrite⟩).run w).2
  refine ⟨w.answers.headD none, evs, ?_, hOf⟩
  simp only [transaction, hCtx]
  rw [run_bind, beginTx_run] at *
  simpa using hEvs

end Database

end Kit
