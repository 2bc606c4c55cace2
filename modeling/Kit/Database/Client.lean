import Kit.Database.Classify

/-
  The database client: its configuration, its isolation levels,
  and `Query`, `Exec` and `Transaction` against the driver.

  `ctx.Value(KeyDatabaseTransaction)` is the only part of a
  context these functions read. The contexts a caller derives
  (`WithCancel`, `WithTimeout`, `WithValue` under its own keys,
  the tracing context of `TraceQuery`) keep that value, and
  whether the context is cancelled is asked of the environment
  at each `ctx.Err()`.

  Correctness is proven by:
    * `kisoLevelToPisoLevel_eq`: the map literal keeps one entry
    * `Database.merge_default_isSome`: the merge with the defaults
      sets the default isolation level, so `Database.ofConfig`
      builds a client whose invariant holds

  Main declarations:
    * `IsolationLevel`, `kisoLevelToPisoLevel`
    * `DatabaseConfig`, `Database`, `Database.ofConfig`,
      `runtimeParams`
    * `Database.query`, `Database.exec`, `Database.transaction`
-/

------------------------------------------------------------
-- Isolation Levels
------------------------------------------------------------

namespace Kit

namespace Database

/- `type IsolationLevel int` -/
structure IsolationLevel where
  val : Int
deriving DecidableEq, Repr

/-
  The four levels are declared in one `var` block in which only
  the first has an initializer; a `var` without one holds the
  zero value.
-/
def isoLvlReadUncommitted : IsolationLevel := ⟨0⟩
def isoLvlReadCommitted : IsolationLevel := ⟨0⟩
def isoLvlRepeatableRead : IsolationLevel := ⟨0⟩
def isoLvlSerializable : IsolationLevel := ⟨0⟩

/- `pgx.TxIsoLevel`, a string type. -/
structure TxIsoLevel where
  text : String
deriving DecidableEq, Repr

/- `pgx.TxAccessMode`, a string type. -/
structure TxAccessMode where
  text : String
deriving DecidableEq, Repr

namespace Pgx

def serializable : TxIsoLevel := ⟨"serializable"⟩
def repeatableRead : TxIsoLevel := ⟨"repeatable read"⟩
def readCommitted : TxIsoLevel := ⟨"read committed"⟩
def readUncommitted : TxIsoLevel := ⟨"read uncommitted"⟩
def readWrite : TxAccessMode := ⟨"read write"⟩

end Pgx

/-
  Indexing a Go map literal: the entries are stored in order, a
  later one replacing an earlier one with an equal key, and a
  missing key gives the zero value.
-/
def goMapIndex
    {K V : Type}
    [DecidableEq K]
    (entries : List (K × V))
    (zero : V)
    (k : K) : V :=
  entries.foldl (fun acc e => if e.1 = k then e.2 else acc) zero

/- `_KisoLevelToPisoLevel[level]` -/
def kisoLevelToPisoLevel
    (level : IsolationLevel) : TxIsoLevel :=
  goMapIndex
    [(isoLvlReadUncommitted, Pgx.readUncommitted),
      (isoLvlReadCommitted, Pgx.readCommitted),
      (isoLvlRepeatableRead, Pgx.repeatableRead),
      (isoLvlSerializable, Pgx.serializable)]
    ⟨""⟩ level

/-
  All four keys of the literal are `0`, so the map holds one
  entry, the last: every level is `serializable` or missing.
-/
theorem kisoLevelToPisoLevel_eq
    (level : IsolationLevel) :
    kisoLevelToPisoLevel level =
      if level = ⟨0⟩ then Pgx.serializable else ⟨""⟩ := by
  by_cases hLevel : level = ⟨0⟩
  · simp [kisoLevelToPisoLevel, goMapIndex, hLevel, isoLvlReadUncommitted,
      isoLvlReadCommitted, isoLvlRepeatableRead, isoLvlSerializable]
  · simp [kisoLevelToPisoLevel, goMapIndex, hLevel, Ne.symm hLevel,
      isoLvlReadUncommitted, isoLvlReadCommitted, isoLvlRepeatableRead,
      isoLvlSerializable]

end Database

end Kit

------------------------------------------------------------
-- Configuration
------------------------------------------------------------

namespace Kit

namespace Database

/- A `time.Duration`, in nanoseconds. -/
structure Duration where
  ns : Int
deriving DecidableEq, Repr

/- `Duration.Milliseconds()`: Go's division truncates toward zero. -/
def Duration.milliseconds (d : Duration) : Int :=
  d.ns.tdiv 1000000

/-
  The fields of `DatabaseConfig` that the modelled functions read;
  `none` is a nil pointer.
-/
structure DatabaseConfig where
  appName : String
  databaseStatementTimeout : Option Duration
  databaseDefaultIsolationLevel : Option IsolationLevel
deriving DecidableEq, Repr

/- `_DATABASE_DEFAULT_CONFIG`, for those fields. -/
def databaseDefaultConfig : DatabaseConfig where
  appName := ""
  databaseStatementTimeout := some ⟨30 * 1000000000⟩
  databaseDefaultIsolationLevel := some isoLvlReadCommitted

/-
  Modelled from the spec: `util.Merge(&config, defaults)` fills
  every unset field from the defaults.
-/
def DatabaseConfig.merge
    (config defaults : DatabaseConfig) : DatabaseConfig where
  appName := config.appName
  databaseStatementTimeout :=
    config.databaseStatementTimeout.orElse fun _ =>
      defaults.databaseStatementTimeout
  databaseDefaultIsolationLevel :=
    config.databaseDefaultIsolationLevel.orElse fun _ =>
      defaults.databaseDefaultIsolationLevel

/-
  The runtime parameters `NewDatabase` sets on every connection,
  read from the merged configuration.
-/
def runtimeParams
    (config : DatabaseConfig) : List (String × String) :=
  let config := config.merge databaseDefaultConfig
  let timeout :=
    toString (config.databaseStatementTimeout.getD ⟨0⟩).milliseconds
  [("standard_conforming_strings", "on"),
    ("application_name", config.appName),
    ("default_transaction_isolation",
      (kisoLevelToPisoLevel
        (config.databaseDefaultIsolationLevel.getD ⟨0⟩)).text),
    ("statement_timeout", timeout),
    ("lock_timeout", timeout)]

end Database

/-
  A client built by `NewDatabase`: its pool and its configuration,
  in which the merge has set the default isolation level.
-/
structure Database where
  pool : Nat
  config : Database.DatabaseConfig
  merged : config.databaseDefaultIsolationLevel.isSome

/- `*self.config.DatabaseDefaultIsolationLevel` -/
def Database.defaultIsolationLevel
    (self : Database) : Database.IsolationLevel :=
  self.config.databaseDefaultIsolationLevel.get self.merged

/- Merged with the defaults, every configuration names a default isolation level. -/
theorem Database.merge_default_isSome
    (config : Database.DatabaseConfig) :
    (config.merge Database.databaseDefaultConfig).databaseDefaultIsolationLevel.isSome := by
  cases h : config.databaseDefaultIsolationLevel <;>
    simp [Database.DatabaseConfig.merge, h, Database.databaseDefaultConfig]

/- The client `NewDatabase` returns on a pool, its configuration merged with the defaults. -/
def Database.ofConfig
    (pool : Nat)
    (config : Database.DatabaseConfig) : Database :=
  ⟨pool, config.merge Database.databaseDefaultConfig, Database.merge_default_isSome config⟩

/- The default level is the configured one, or Read Committed. -/
theorem Database.ofConfig_defaultIsolationLevel
    (pool : Nat)
    (config : Database.DatabaseConfig) :
    (Database.ofConfig pool config).defaultIsolationLevel =
      config.databaseDefaultIsolationLevel.getD Database.isoLvlReadCommitted := by
  cases h : config.databaseDefaultIsolationLevel <;>
    simp [Database.ofConfig, Database.defaultIsolationLevel, Database.DatabaseConfig.merge, h,
      Database.databaseDefaultConfig]

end Kit

------------------------------------------------------------
-- Driver Calls
------------------------------------------------------------

namespace Kit

namespace Database

/- A `pgx.Tx`: the pool it was begun on and its serial there. -/
structure Tx where
  pool : Nat
  serial : Nat
deriving DecidableEq, Repr

/- Where a statement runs: on a pool, or on a transaction. -/
inductive Conn where
  | pool (id : Nat)
  | tx (t : Tx)
deriving DecidableEq, Repr

/- `pgx.TxOptions` -/
structure TxOptions where
  isoLevel : TxIsoLevel
  accessMode : TxAccessMode
deriving DecidableEq, Repr

/- The calls the client makes, each with its answer. -/
inductive Event where
  | beginTx (pool : Nat) (options : TxOptions) (tx : Tx)
      (result : Option String)
  | commit (tx : Tx) (result : Option String)
  | rollback (tx : Tx) (result : Option String)
  | query (conn : Conn) (result : Option String)
  | scan (result : Option String)
  | exec (conn : Conn) (result : Option String)
  | contextErr (result : Option String)
deriving DecidableEq, Repr

/-
  Computations against the driver; the state is the serial the
  next transaction gets.
-/
abbrev DbRun := Run Nat Event

/- The request-scoped context: `ctx.Value(KeyDatabaseTransaction)`. -/
structure Context where
  transaction : Option Tx
deriving DecidableEq, Repr

/-
  How a call ends: returning `nil`, returning an error, or
  panicking with a value (never `nil` since Go 1.21, which the
  code's use of the `max` builtin requires).
-/
inductive Outcome where
  | ok
  | err (e : Error)
  | panic (value : Nat)
deriving DecidableEq, Repr

/- `pool.BeginTx(ctx, options)`: the handle it returns, and its error. -/
def beginTx
    (pool : Nat)
    (options : TxOptions) : DbRun (Tx × Option String) := do
  let w ← get
  let tx : Tx := ⟨pool, w.state⟩
  set { w with state := w.state + 1 }
  let err ← call (.beginTx pool options tx)
  return (tx, err)

end Database

end Kit

------------------------------------------------------------
-- Query, Exec and Transaction
------------------------------------------------------------

namespace Kit

namespace Database

/-
  `if ctx.Value(KeyDatabaseTransaction) != nil { tx... } else
  { self.pool... }`, shared by `Query` and `Exec`.
-/
def conn
    (self : Database)
    (ctx : Context) : Conn :=
  match ctx.transaction with
  | some tx => .tx tx
  | none => .pool self.pool

/- `Database.Query`: the statement, the `ctx.Err()` check, the scan. -/
def query
    (self : Database)
    (ctx : Context) : DbRun (Option Error) :=
  ifErr (call (.query (self.conn ctx)))
    (fun e => return dbErrToError (some e)) <|
  ifErr (call .contextErr)
    (fun e => return dbErrToError (some e)) <|
  ifErr (call .scan)
    (fun e => return dbErrToError (some e)) <|
  return none

/- `Database.Exec`, without the affected-row count. -/
def exec
    (self : Database)
    (ctx : Context) : DbRun (Option Error) :=
  ifErr (call (.exec (self.conn ctx)))
    (fun e => return dbErrToError (some e)) <|
  ifErr (call .contextErr)
    (fun e => return dbErrToError (some e)) <|
  return none

/- `ErrDatabaseTransactionFailed().Wrap(err)` -/
def transactionFailed (e : Error) : Outcome :=
  .err (.wrap .databaseTransactionFailed e)

/- A nested call: the body's error wrapped, anything else unchanged. -/
def nestedResult : Outcome → Outcome
  | .err e => transactionFailed e
  | r => r

/- `_ = transaction.Rollback(ctx)`, then return the wrapped error. -/
def rollbackWith
    (tx : Tx)
    (e : Error) : DbRun Outcome := do
  let _ ← call (.rollback tx)
  return transactionFailed e

/-
  What the outermost call does once the body has returned or
  panicked: the deferred `recover`, or the checks around
  `Commit`, each failure rolling back.
-/
def finish
    (tx : Tx) : Outcome → DbRun Outcome
  | .panic v => do
      let _ ← call (.rollback tx)
      return .panic v
  | .err e => rollbackWith tx e
  | .ok =>
      ifErr (call .contextErr) (fun e => rollbackWith tx (.raw e)) <|
      ifErr (call (.commit tx)) (fun e => rollbackWith tx (.raw e)) <|
      ifErr (call .contextErr) (fun e => rollbackWith tx (.raw e)) <|
      return .ok

/-
  `Database.Transaction`. A context that already carries a
  transaction runs the body on that context; otherwise a
  transaction is begun at the requested level, or at the default
  one, and the body runs on a context that carries it.
-/
def transaction
    (self : Database)
    (ctx : Context)
    (level : Option IsolationLevel)
    (fn : Context → DbRun Outcome) : DbRun Outcome :=
  let level := level.getD self.defaultIsolationLevel
  match ctx.transaction with
  | some _ => nestedResult <$> fn ctx
  | none => do
      match ← beginTx self.pool ⟨kisoLevelToPisoLevel level, Pgx.readWrite⟩ with
      | (_, some e) => return transactionFailed (.raw e)
      | (tx, none) =>
          ifErr (call .contextErr)
            (fun e => return transactionFailed (.raw e)) do
            let r ← fn { ctx with transaction := some tx }
            finish tx r

end Database

end Kit
