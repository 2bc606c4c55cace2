import Kit.Database.Nesting

/-
  How the outermost `Transaction`, a transaction-less `Exec` and
  `Query` end.

  Once the deferred `recover` is installed, every exit of the
  outermost call passes through `Commit` or `Rollback`, and a
  panic of the body is raised again with its value. The check of
  the context that comes between a successful `BeginTx` and that
  `defer` returns without either. A `nil` result of the outermost
  call is always a committed transaction, but an error may be
  reported for one: the context is checked once more after the
  commit.

  A `Query` whose statement succeeds holds rows, and with them a
  connection of the pool or the transaction's connection, until
  the scan closes them. The check of the context between the two
  returns without closing them.

  Main declarations:
    * `finish_settles`, `transaction_settles_once_begun`
    * `transaction_cancelled_after_begin`
    * `finish_ok_iff`, `transaction_ok_iff_committed`
    * `rowsOpen`, `query_leaves_rows_open`
-/

------------------------------------------------------------
-- Every Exit After the Defer Settles the Transaction
------------------------------------------------------------

namespace Kit

namespace Database

variable {db : Database} {ctx : Context}

theorem rollbackWith_run
    (tx : Tx)
    (e : Error)
    (w : World Nat Event) :
    (rollbackWith tx e).run w =
      (transactionFailed e,
        { w with
          answers := w.answers.tail
          trace := w.trace ++ [.rollback tx (w.answers.headD none)] }) := by
  simp only [rollbackWith, run_bind, call_run]
  rfl

/- After a panic of the body: a rollback, and the panic goes on. -/
theorem finish_panic
    (tx : Tx)
    (v : Nat)
    (w : World Nat Event) :
    (finish tx (.panic v)).run w =
      (.panic v,
        { w with
          answers := w.answers.tail
          trace := w.trace ++ [.rollback tx (w.answers.headD none)] }) := by
  simp only [finish, run_bind, call_run]
  rfl

/-
  Whatever the body ended with, the outermost call's own calls
  include a `Commit` or a `Rollback` of its transaction.
-/
theorem finish_settles
    (tx : Tx)
    (r : Outcome)
    (w : World Nat Event) :
    ∃ own,
      ((finish tx r).run w).2.trace = w.trace ++ own ∧
      ∃ a, .commit tx a ∈ own ∨ .rollback tx a ∈ own := by
  cases r with
  | panic v =>
      rw [finish_panic]
      exact ⟨_, rfl, ⟨_, .inr (List.mem_singleton_self _)⟩⟩
  | err e =>
      rw [finish, rollbackWith_run]
      exact ⟨_, rfl, ⟨_, .inr (List.mem_singleton_self _)⟩⟩
  | ok =>
      have hRollback : ∀ (e : Error) (w₁ : World Nat Event) pre,
          w₁.trace = w.trace ++ pre →
          ∃ own, ((rollbackWith tx e).run w₁).2.trace = w.trace ++ own ∧
            ∃ a, .commit tx a ∈ own ∨ .rollback tx a ∈ own := by
        intro e w₁ pre hPre
        rw [rollbackWith_run, hPre, List.append_assoc]
        exact ⟨_, rfl, ⟨_, .inr (List.mem_append_right _ (List.mem_singleton_self _))⟩⟩
      simp only [finish, ifErr_call_run]
      split
      · exact hRollback _ _ _ rfl
      · split
        · exact hRollback _ _ _ (List.append_assoc _ _ _)
        · split
          · exact hRollback _ _ _ (by simp only [List.append_assoc]; rfl)
          · exact ⟨[.contextErr none, .commit tx none, .contextErr none], by simp,
              ⟨none, .inl (by simp)⟩⟩

/-
  The options the outermost call begins its transaction with.
-/
def beginOptions
    (db : Database)
    (level : Option IsolationLevel) : TxOptions :=
  ⟨kisoLevelToPisoLevel (level.getD db.defaultIsolationLevel),
    Pgx.readWrite⟩

/-
  Once `BeginTx` has succeeded and the context was found live, the
  outermost call is its body on a context carrying the transaction,
  followed by `finish`.
-/
theorem transaction_run_live
    (level : Option IsolationLevel)
    (fn : Context → DbRun Outcome)
    (hCtx : ctx.transaction = none)
    (w : World Nat Event)
    (rest : List (Option String))
    (hAnswers : w.answers = none :: none :: rest) :
    (db.transaction ctx level fn).run w =
      let tx : Tx := ⟨db.pool, w.state⟩
      let body := (fn { ctx with transaction := some tx }).run
        ⟨rest, w.state + 1,
          w.trace ++ [.beginTx db.pool (beginOptions db level) tx none,
            .contextErr none]⟩
      (finish tx body.1).run body.2 := by
  simp only [transaction, hCtx]
  rw [run_bind, beginTx_run]
  simp only [hAnswers, List.headD_cons, List.tail_cons, ifErr_call_run,
    run_bind, List.append_assoc, List.singleton_append]
  rfl

/-
  Once `BeginTx` has succeeded and the context was found live, the
  outermost call commits or rolls back its transaction before it
  returns, whatever the body does; a panic of the body is raised
  again, with its value, right after the rollback.
-/
theorem transaction_settles_once_begun
    (level : Option IsolationLevel)
    (fn : Context → DbRun Outcome)
    (hCtx : ctx.transaction = none)
    (w : World Nat Event)
    (rest : List (Option String))
    (hAnswers : w.answers = none :: none :: rest) :
    let tx : Tx := ⟨db.pool, w.state⟩
    let body := (fn { ctx with transaction := some tx }).run
      ⟨rest, w.state + 1,
        w.trace ++ [.beginTx db.pool (beginOptions db level) tx none,
          .contextErr none]⟩
    let result := (db.transaction ctx level fn).run w
    ∃ own,
      result.2.trace = body.2.trace ++ own ∧
      (∃ a, .commit tx a ∈ own ∨ .rollback tx a ∈ own) ∧
      ∀ v, body.1 = .panic v →
        result.1 = .panic v ∧ ∃ a, own = [.rollback tx a] := by
  intro tx body result
  have hResult : result = (finish tx body.1).run body.2 :=
    transaction_run_live level fn hCtx w rest hAnswers
  obtain ⟨own, hOwn, hSettled⟩ := finish_settles tx body.1 body.2
  refine ⟨own, hResult ▸ hOwn, hSettled, fun v hv => ?_⟩
  have hFinish := finish_panic tx v body.2
  rw [← hv] at hFinish
  rw [hFinish] at hOwn
  exact ⟨by rw [hResult, hFinish]; exact hv, _, (List.append_cancel_left hOwn).symm⟩

/- A sample: a body that panics with `7`, all calls succeeding. -/
theorem transaction_settles_once_begun_sample :
    (⟨none⟩ : Context).transaction = none ∧
    ([none, none] : List (Option String)) = none :: none :: [] ∧
    (let db : Database := ⟨0, ⟨"", none, some isoLvlReadCommitted⟩, rfl⟩
    let fn : Context → DbRun Outcome := fun _ => pure (.panic 7)
    let w : World Nat Event := ⟨[none, none], 0, []⟩
    let tx : Tx := ⟨db.pool, w.state⟩
    let body := (fn { (⟨none⟩ : Context) with transaction := some tx }).run
      ⟨[], w.state + 1,
        w.trace ++ [.beginTx db.pool (beginOptions db none) tx none,
          .contextErr none]⟩
    let result := (db.transaction ⟨none⟩ none fn).run w
    ∃ own,
      result.2.trace = body.2.trace ++ own ∧
      (∃ a, .commit tx a ∈ own ∨ .rollback tx a ∈ own) ∧
      ∀ v, body.1 = .panic v →
        result.1 = .panic v ∧ ∃ a, own = [.rollback tx a]) :=
  ⟨rfl, rfl, @transaction_settles_once_begun ⟨0, ⟨"", none,
    some isoLvlReadCommitted⟩, rfl⟩ ⟨none⟩ none (fun _ => pure (.panic 7)) rfl
    ⟨[none, none], 0, []⟩ [] rfl⟩

/-
  A context cancelled right after a successful `BeginTx`: the call
  returns an error before the deferred rollback is installed, with
  the transaction neither committed nor rolled back.
-/
theorem transaction_cancelled_after_begin
    (db : Database)
    (level : Option IsolationLevel)
    (fn : Context → DbRun Outcome)
    (serial : Nat)
    (rest : List (Option String)) :
    (db.transaction ⟨none⟩ level fn).run
        ⟨none :: some "context canceled" :: rest, serial, []⟩ =
      (transactionFailed (.raw "context canceled"),
        ⟨rest, serial + 1,
          [.beginTx db.pool (beginOptions db level) ⟨db.pool, serial⟩ none,
            .contextErr (some "context canceled")]⟩) :=
  rfl

end Database

end Kit

------------------------------------------------------------
-- Results After a Commit
------------------------------------------------------------

namespace Kit

namespace Database

variable {db : Database} {ctx : Context}

/- A trace that ends with `[x, y]` ends with `y`. -/
theorem last_of_suffix
    {x y a : Event}
    {L : List Event}
    (h : [x, y] <:+ L ++ [a]) :
    y = a := by
  obtain ⟨t, ht⟩ := h
  simpa using congrArg List.getLast? ht

/-
  A path that rolls back returns an error, and its trace ends with
  the rollback.
-/
theorem rollbackWith_not_committed
    (tx tx' : Tx)
    (e : Error)
    (w : World Nat Event) :
    ((rollbackWith tx e).run w).1 ≠ .ok ∧
      ¬ [.commit tx' none, .contextErr none] <:+
        ((rollbackWith tx e).run w).2.trace := by
  rw [rollbackWith_run]
  exact ⟨fun h => (nomatch h), fun h => (nomatch last_of_suffix h)⟩

/-
  After the body, the outermost call returns `nil` exactly when its
  last calls are a successful `Commit` and a check that finds the
  context live.
-/
theorem finish_ok_iff
    (tx : Tx)
    (r : Outcome)
    (w : World Nat Event) :
    ((finish tx r).run w).1 = .ok ↔
      [.commit tx none, .contextErr none] <:+
        ((finish tx r).run w).2.trace := by
  have hRollback := fun e w₁ =>
    iff_of_false (rollbackWith_not_committed tx tx e w₁).1
      (rollbackWith_not_committed tx tx e w₁).2
  cases r with
  | panic v =>
      rw [finish_panic]
      exact ⟨fun h => (nomatch h), fun h => (nomatch last_of_suffix h)⟩
  | err e => exact hRollback _ _
  | ok =>
      simp only [finish, ifErr_call_run]
      split
      · exact hRollback _ _
      · split
        · exact hRollback _ _
        · split
          · exact hRollback _ _
          · exact iff_of_true rfl ⟨w.trace ++ [.contextErr none], by simp⟩

/-
  An outermost `Transaction` returns `nil` exactly when its last
  calls are a successful `Commit` of its transaction and a check
  that finds the context live; `Exec` on a context without a
  transaction returns `nil` exactly when its last calls are a
  successful `Exec` on the pool and such a check.
-/
theorem transaction_ok_iff_committed
    (level : Option IsolationLevel)
    (fn : Context → DbRun Outcome)
    (hCtx : ctx.transaction = none)
    (w : World Nat Event) :
    (((db.transaction ctx level fn).run w).1 = .ok ↔
      [.commit ⟨db.pool, w.state⟩ none, .contextErr none] <:+
        ((db.transaction ctx level fn).run w).2.trace) ∧
    (((db.exec ctx).run w).1 = none ↔
      [.exec (.pool db.pool) none, .contextErr none] <:+
        ((db.exec ctx).run w).2.trace) := by
  constructor
  · simp only [transaction, hCtx]
    rw [run_bind, beginTx_run]
    cases w.answers.headD none with
    | some e =>
        exact ⟨fun h => (nomatch h), fun h => (nomatch last_of_suffix h)⟩
    | none =>
        simp only [ifErr_call_run]
        split
        · exact ⟨fun h => (nomatch h), fun h => (nomatch last_of_suffix h)⟩
        · rw [run_bind]
          exact finish_ok_iff _ _ _
  · have hConn : db.conn ctx = .pool db.pool := by simp [conn, hCtx]
    simp only [exec, hConn, ifErr_call_run]
    split
    · exact ⟨fun h => (nomatch h), fun h => (nomatch last_of_suffix h)⟩
    · split
      · exact ⟨fun h => (nomatch h), fun h => (nomatch last_of_suffix h)⟩
      · exact iff_of_true rfl ⟨w.trace, by simp⟩

/- A sample: a body that returns `nil`, all calls succeeding. -/
theorem transaction_ok_iff_committed_sample :
    (⟨none⟩ : Context).transaction = none ∧
    let db : Database := ⟨0, ⟨"", none, some isoLvlReadCommitted⟩, rfl⟩
    let w : World Nat Event := ⟨[], 0, []⟩
    (((db.transaction ⟨none⟩ none fun _ => pure .ok).run w).1 = .ok ↔
      [.commit ⟨db.pool, w.state⟩ none, .contextErr none] <:+
        ((db.transaction ⟨none⟩ none fun _ => pure .ok).run w).2.trace) ∧
    (((db.exec ⟨none⟩).run w).1 = none ↔
      [.exec (.pool db.pool) none, .contextErr none] <:+
        ((db.exec ⟨none⟩).run w).2.trace) :=
  ⟨rfl, @transaction_ok_iff_committed ⟨0, ⟨"", none,
    some isoLvlReadCommitted⟩, rfl⟩ ⟨none⟩ none _ rfl ⟨[], 0, []⟩⟩

/-
  The context cancelled between a successful `Commit` and the check
  after it: the committed transaction is reported as failed (and
  rolled back after its commit). Likewise an `Exec` on the pool
  that succeeded is reported as failed.
-/
theorem transaction_error_after_commit :
    let db : Database := ⟨0, ⟨"", none, some isoLvlReadCommitted⟩, rfl⟩
    let tx := (db.transaction ⟨none⟩ none fun _ => pure .ok).run
      ⟨[none, none, none, none, some "context canceled"], 0, []⟩
    let exec := (db.exec ⟨none⟩).run ⟨[none, some "context canceled"], 0, []⟩
    tx.1 ≠ .ok ∧ Event.commit ⟨0, 0⟩ none ∈ tx.2.trace ∧
      exec.1.isSome ∧ Event.exec (.pool 0) none ∈ exec.2.trace := by
  decide

end Database

end Kit

------------------------------------------------------------
-- The Rows of a Query
------------------------------------------------------------

namespace Kit

namespace Database

/-
  A statement that succeeds returns open rows; one that fails
  returns rows pgx has already closed.
-/
def Event.opensRows : Event → Bool
  | .query _ none => true
  | _ => false

/- pgxscan's `Scan` reads the rows to the end and closes them, whatever it returns. -/
def Event.closesRows : Event → Bool
  | .scan _ => true
  | _ => false

/- Whether rows opened by the calls `evs` are still open after them. -/
def rowsOpen
    (evs : List Event) : Bool :=
  evs.foldl (fun held e => e.opensRows || (held && !e.closesRows)) false

/-
  `Query` leaves its rows open exactly when its statement succeeds
  and `ctx.Err()` then reports an error: it returns that error
  without `rows.Close()`.
-/
theorem query_leaves_rows_open
    (self : Database)
    (ctx : Context)
    (w : World Nat Event) :
    rowsOpen (((self.query ctx).run w).2.trace.drop w.trace.length) = true ↔
      w.answers.headD none = none ∧ w.answers.tail.headD none ≠ none := by
  simp only [query, ifErr_call_run]
  cases w.answers.headD none with
  | some e₁ =>
      -- the statement failed
      simp [rowsOpen, Event.opensRows]
  | none =>
      cases w.answers.tail.headD none with
      | some e₂ =>
          -- the context is done
          simp [rowsOpen, Event.opensRows, Event.closesRows]
      | none =>
          -- scanned
          cases w.answers.tail.tail.headD none <;>
            simp [rowsOpen, Event.opensRows, Event.closesRows]

end Database

end Kit
