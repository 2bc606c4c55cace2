import Kit.Database.Body

/-
  Nesting: one physical transaction per outermost call.

  The transaction travels in the context under one key, the same
  for every `Database`. From a context without one, the outermost
  `Transaction` begins it; every call below, of any client and at
  any depth, finds it in its context and runs on it.

  Main declarations:
    * `SingleTransaction`, `transaction_single_transaction`
    * `transaction_key_shared`
    * `transaction_isolation_collapsed`
-/

------------------------------------------------------------
-- One Transaction per Outermost Call
------------------------------------------------------------

namespace Kit

namespace Database

/- Whether a call is a `BeginTx`. -/
def Event.isBeginTx : Event → Bool
  | .beginTx _ _ _ _ => true
  | _ => false

/- The connection a statement runs on. -/
def Event.conn? : Event → Option Conn
  | .query conn _ => some conn
  | .exec conn _ => some conn
  | _ => none

theorem Event.OfTx.not_beginTx
    {tx : Tx}
    {e : Event}
    (h : e.OfTx tx) :
    e.isBeginTx = false := by
  cases e <;> first | rfl | exact h.elim

theorem Event.OfTx.conn_eq
    {tx : Tx}
    {e : Event}
    (h : e.OfTx tx)
    {conn : Conn}
    (hConn : e.conn? = some conn) :
    conn = .tx tx := by
  cases e <;> simp_all [Event.conn?, Event.OfTx]

/-
  What the outermost `Transaction` of `db`, from a context `ctx`
  without a transaction, does with body `b` from world `w`.
-/
structure SingleTransaction
    (db : Database)
    (ctx : Context)
    (level : Option IsolationLevel)
    (b : Body)
    (w : World Nat Event) : Prop where
  /- one `BeginTx`, and every later statement on its transaction -/
  beginsOnce :
    ∃ r evs,
      ((db.transaction ctx level b.run).run w).2.trace =
        w.trace ++
          .beginTx db.pool
            ⟨kisoLevelToPisoLevel (level.getD db.defaultIsolationLevel),
              Pgx.readWrite⟩
            ⟨db.pool, w.state⟩ r :: evs ∧
      (∀ e ∈ evs, e.isBeginTx = false) ∧
      ∀ e ∈ evs, ∀ conn, e.conn? = some conn → conn = .tx ⟨db.pool, w.state⟩
  /- once begun and checked, the body runs on a context carrying that transaction -/
  runsBody :
    w.answers.headD none = none → w.answers.tail.headD none = none →
    let tx : Tx := ⟨db.pool, w.state⟩
    let inner : World Nat Event :=
      ⟨w.answers.tail.tail, w.state + 1,
        w.trace ++ [.beginTx db.pool ⟨kisoLevelToPisoLevel (level.getD db.defaultIsolationLevel),
          Pgx.readWrite⟩ tx none, .contextErr none]⟩
    (db.transaction ctx level b.run).run w =
      (finish tx ((b.run ⟨some tx⟩).run inner).1).run ((b.run ⟨some tx⟩).run inner).2
  /-
    on a context carrying a transaction: every body calls only inside
    it, each `Query` and `Exec` issues its statement on it, and a
    nested `Transaction` runs its body on the context unchanged
  -/
  nested :
    ∀ (ctx' : Context) (tx : Tx), ctx'.transaction = some tx →
      (∀ b' : Body, Emits (Event.InsideTx tx) (b'.run ctx')) ∧
      (∀ w', ∃ evs, ((db.query ctx').run w').2.trace =
        w'.trace ++ .query (.tx tx) (w'.answers.headD none) :: evs ∧
          ∀ e ∈ evs, e.InsideTx tx) ∧
      (∀ w', ∃ evs, ((db.exec ctx').run w').2.trace =
        w'.trace ++ .exec (.tx tx) (w'.answers.headD none) :: evs ∧
          ∀ e ∈ evs, e.InsideTx tx) ∧
      ∀ level' (fn : Context → DbRun Outcome),
        db.transaction ctx' level' fn = nestedResult <$> fn ctx'

/-
  From a context without a transaction, `Transaction` invokes
  `BeginTx` exactly once, at the requested or the default level,
  and runs its body on a context that carries the transaction it
  began. Below it, at any depth, every `Query` and `Exec` issues
  its statement on that transaction, and a nested `Transaction`
  begins, commits and rolls back nothing and runs its body on its
  own context unchanged.
-/
theorem transaction_single_transaction
    (db : Database)
    (ctx : Context)
    (level : Option IsolationLevel)
    (b : Body)
    (hCtx : ctx.transaction = none)
    (w : World Nat Event) :
    SingleTransaction db ctx level b w where
  beginsOnce := by
    obtain ⟨r, evs, hTrace, hOf⟩ := @transaction_outermost_trace db ctx
      level b.run hCtx (fun _ => b.run_insideTx rfl) w
    exact ⟨r, evs, hTrace, fun e he => (hOf e he).not_beginTx,
      fun e he _ hConn => (hOf e he).conn_eq hConn⟩
  runsBody := transaction_outermost_run level b.run hCtx w
  nested := fun _ _ hTx =>
    ⟨fun b' => b'.run_insideTx hTx, query_trace_of_tx hTx, exec_trace_of_tx hTx,
      fun level' fn => transaction_nested level' fn hTx⟩

/- A transaction with a query and a nested transaction in its body. -/
theorem transaction_single_transaction_sample :
    let db : Database := ⟨0, ⟨"", none, some isoLvlSerializable⟩, rfl⟩
    let b : Body :=
      .query db true (.transaction db (some isoLvlReadCommitted) (.ret none) true (.ret none))
    (⟨none⟩ : Context).transaction = none ∧
      SingleTransaction db ⟨none⟩ none b ⟨[], 0, []⟩ :=
  ⟨rfl, transaction_single_transaction _ _ _ _ rfl _⟩

end Database

end Kit

------------------------------------------------------------
-- One Key for Every Client
------------------------------------------------------------

namespace Kit

namespace Database

/-
  Two clients on pools `0` and `1`. Inside `A.Transaction`, `B`'s
  query and the exec of `B`'s nested transaction both run on `A`'s
  transaction, and nothing runs on `B`'s pool.
-/
theorem transaction_other_client_joins :
    let A : Database := ⟨0, ⟨"", none, some isoLvlReadCommitted⟩, rfl⟩
    let B : Database := ⟨1, ⟨"", none, some isoLvlReadCommitted⟩, rfl⟩
    let trace := ((A.transaction ⟨none⟩ none
      (Body.query B true
        (.transaction B none (.exec B true (.ret none)) true
          (.ret none))).run).run ⟨[], 0, []⟩).2.trace
    A.pool ≠ B.pool ∧
      Event.query (.tx ⟨A.pool, 0⟩) none ∈ trace ∧
      Event.exec (.tx ⟨A.pool, 0⟩) none ∈ trace ∧
      trace.countP Event.isBeginTx = 1 ∧
      ∀ e ∈ trace, ∀ conn, e.conn? = some conn → conn ≠ .pool B.pool := by
  decide

/-
  The transaction key is the same for every client. On a context
  that carries a transaction begun by `A`, the `Query` and `Exec`
  of any client `B` issue their statements on `A`'s transaction,
  and `B.Transaction` begins nothing: it runs its body on that
  context, inside `A`'s transaction.
-/
theorem transaction_key_shared
    (A B : Database)
    (ctx : Context)
    (serial : Nat)
    (hCtx : ctx.transaction = some ⟨A.pool, serial⟩) :
    (∀ w, ∃ evs, ((B.query ctx).run w).2.trace =
      w.trace ++ .query (.tx ⟨A.pool, serial⟩) (w.answers.headD none) :: evs ∧
        ∀ e ∈ evs, e.InsideTx ⟨A.pool, serial⟩) ∧
    (∀ w, ∃ evs, ((B.exec ctx).run w).2.trace =
      w.trace ++ .exec (.tx ⟨A.pool, serial⟩) (w.answers.headD none) :: evs ∧
        ∀ e ∈ evs, e.InsideTx ⟨A.pool, serial⟩) ∧
    ∀ level (fn : Body),
      B.transaction ctx level fn.run = nestedResult <$> fn.run ctx ∧
        Emits (Event.InsideTx ⟨A.pool, serial⟩) (B.transaction ctx level fn.run) :=
  ⟨query_trace_of_tx hCtx, exec_trace_of_tx hCtx, fun level fn =>
    ⟨transaction_nested level _ hCtx, by
      rw [transaction_nested level _ hCtx]
      exact (fn.run_insideTx hCtx).bind fun r => .pure (nestedResult r)⟩⟩

/- Client `1` on a context that carries transaction `0` of pool `0`. -/
theorem transaction_key_shared_sample :
    let A : Database := ⟨0, ⟨"", none, some isoLvlReadCommitted⟩, rfl⟩
    let B : Database := ⟨1, ⟨"", none, some isoLvlReadCommitted⟩, rfl⟩
    let ctx : Context := ⟨some ⟨0, 0⟩⟩
    ctx.transaction = some ⟨A.pool, 0⟩ ∧
    (∀ w, ∃ evs, ((B.query ctx).run w).2.trace =
      w.trace ++ .query (.tx ⟨A.pool, 0⟩) (w.answers.headD none) :: evs ∧
        ∀ e ∈ evs, e.InsideTx ⟨A.pool, 0⟩) ∧
    (∀ w, ∃ evs, ((B.exec ctx).run w).2.trace =
      w.trace ++ .exec (.tx ⟨A.pool, 0⟩) (w.answers.headD none) :: evs ∧
        ∀ e ∈ evs, e.InsideTx ⟨A.pool, 0⟩) ∧
    ∀ level (fn : Body),
      B.transaction ctx level fn.run = nestedResult <$> fn.run ctx ∧
        Emits (Event.InsideTx ⟨A.pool, 0⟩) (B.transaction ctx level fn.run) :=
  ⟨rfl, transaction_key_shared _ _ _ 0 rfl⟩

end Database

end Kit

------------------------------------------------------------
-- Isolation Levels of the Transaction
------------------------------------------------------------

namespace Kit

namespace Database

/-
  The four levels being one value, a transaction requested at
  Read Committed is begun serializable, the requested levels give
  one pgx level, and `NewDatabase` sets every connection's default
  to serializable where its default configuration names Read
  Committed.
-/
theorem transaction_isolation_collapsed :
    ((Database.transaction ⟨0, ⟨"", none, some isoLvlSerializable⟩, rfl⟩
        ⟨none⟩ (some isoLvlReadCommitted) (Body.ret none).run).run
        ⟨[], 0, []⟩).2.trace.head? =
      some (.beginTx 0 ⟨Pgx.serializable, Pgx.readWrite⟩ ⟨0, 0⟩ none) ∧
    kisoLevelToPisoLevel isoLvlReadUncommitted =
      kisoLevelToPisoLevel isoLvlSerializable ∧
    (runtimeParams ⟨"", none, none⟩).lookup "default_transaction_isolation" =
      some Pgx.serializable.text := by
  decide

end Database

end Kit
