import Kit.Basic

/-
  Connecting: the retry closures of `NewDatabase` and `NewCache`.

  Each attempt creates a pool (`pgxpool.ConnectConfig`, which
  closes what it built when it fails) or a client
  (`redis.NewClient`, which cannot fail), stores it in the
  variable `pool` the closure captures, and pings it. A failed
  ping returns an error and leaves the pool as it is; the next
  attempt overwrites `pool`.

  Correctness is proven by:
    * `retryLoop_connects`: a retry leaves open the pools whose
      ping failed and, on success, the pool of its last attempt
    * `newDatabase_leavesOpen`, `newCache_leavesOpen`, and with
      them `newDatabase_leaves_open`: what each constructor leaves
      open when its deadline does not fire
    * `retryResult_ok_none_iff`: the client comes without a pool
      exactly when no attempt is made

  Main declarations:
    * `exponentialRetry`
    * `connectAttempt`, `newDatabaseAttempt`, `newCacheAttempt`
    * `newDatabase`, `newCache`
-/

------------------------------------------------------------
-- Pools and Attempts
------------------------------------------------------------

namespace Kit

namespace Connect

/-
  The pools created so far, those still open, and the `pool`
  variable of the constructor.
-/
structure Pools where
  created : Nat
  live : List Nat
  pool : Option Nat
deriving DecidableEq, Repr

/- The calls the constructors make, each with its answer. -/
inductive Event where
  | parseConfig (result : Option String)
  | connectConfig (result : Option String)
  | newClient
  | ping (pool : Nat) (result : Option String)
deriving DecidableEq, Repr

abbrev PoolRun := Run Pools Event

/- A new open pool, stored in `pool`. -/
def openPool : PoolRun Nat :=
  modifyGet fun w =>
    (w.state.created,
      { w with
        state :=
          { created := w.state.created + 1
            live := w.state.live ++ [w.state.created]
            pool := some w.state.created } })

/- `pool, err = pgxpool.ConnectConfig(ctx, poolConfig)` -/
def connectConfig : PoolRun (Except String Nat) := do
  match ← call .connectConfig with
  | some e =>
      modify fun w => { w with state := { w.state with pool := none } }
      return .error e
  | none => return .ok (← openPool)

/- `pool = redis.NewClient(poolConfig)` -/
def newClient : PoolRun (Except String Nat) := do
  emit .newClient
  return .ok (← openPool)

/-
  One attempt: create the pool, return `ErrXGeneric().WrapAs(err)`
  if that fails, ping it, and return the same error if the ping
  fails.
-/
def connectAttempt
    (create : PoolRun (Except String Nat))
    (kind : ErrorKind) : PoolRun (Option Error) := do
  match ← create with
  | .error e => return some (.wrap kind (.raw e))
  | .ok pool =>
      ifErr (call (.ping pool))
        (fun e => return some (.wrap kind (.raw e))) <|
      return none

/- The closure `NewDatabase` retries. -/
def newDatabaseAttempt : PoolRun (Option Error) :=
  connectAttempt connectConfig .databaseGeneric

/- The closure `NewCache` retries. -/
def newCacheAttempt : PoolRun (Option Error) :=
  connectAttempt newClient .cacheGeneric

end Connect

end Kit

------------------------------------------------------------
-- Retrying
------------------------------------------------------------

namespace Kit

namespace Connect

variable {σ ε : Type}

/-
  Modelled from the spec: `util.ExponentialRetry` calls `fn(1)`,
  `fn(2)`, ... until one returns `nil`, `attempts` calls have
  failed, or a failure is not retriable (`retriable` holds of every
  error when the list of retriable errors is empty). It returns the
  last error. The delays between attempts are not modelled.
-/
def retryLoop
    (retriable : Error → Bool)
    (fn : Nat → Run σ ε (Option Error)) :
    Nat → Nat → Run σ ε (Option Error)
  | _, 0 => return none
  | attempt, n + 1 => do
      match ← fn attempt with
      | none => return none
      | some e =>
          if n = 0 ∨ !retriable e then return some e
          else retryLoop retriable fn (attempt + 1) n

/- `util.ExponentialRetry(attempts, ..., retriables, fn)` -/
def exponentialRetry
    (attempts : Nat)
    (retriable : Error → Bool)
    (fn : Nat → Run σ ε (Option Error)) : Run σ ε (Option Error) :=
  retryLoop retriable fn 1 attempts

/- The parts of `RetryConfig` the constructors use. -/
structure RetryConfig where
  attempts : Nat
  retriable : Error → Bool

/-
  The end of `NewDatabase` and `NewCache`: the error of
  `util.Deadline`, mapped to `TimedOut` or wrapped as `Generic`,
  or the client holding `pool`.
-/
def connectResult
    (generic timedOut : ErrorKind) :
    Option Error → PoolRun (Except Error (Option Nat))
  | none => return .ok (← get).state.pool
  | some (.kit .deadlineExceeded) => return .error (.kit timedOut)
  | some e => return .error (.wrap generic e)

/-
  `NewDatabase`: parse the configuration, then retry the connect
  closure under the caller's deadline.
-/
def newDatabase
    (retry : RetryConfig)
    (fired : Bool) : PoolRun (Except Error (Option Nat)) := do
  modify fun w => { w with state := { w.state with pool := none } }
  ifErr (call .parseConfig)
    (fun e => return .error (.wrap .databaseGeneric (.raw e))) do
    let err ← deadline fired (.kit .deadlineExceeded) <|
      exponentialRetry retry.attempts retry.retriable fun _ =>
        newDatabaseAttempt
    connectResult .databaseGeneric .databaseTimedOut err

/- `NewCache`: retry the connect closure under the caller's deadline. -/
def newCache
    (retry : RetryConfig)
    (fired : Bool) : PoolRun (Except Error (Option Nat)) := do
  modify fun w => { w with state := { w.state with pool := none } }
  let err ← deadline fired (.kit .deadlineExceeded) <|
    exponentialRetry retry.attempts retry.retriable fun _ =>
      newCacheAttempt
  connectResult .cacheGeneric .cacheTimedOut err

end Connect

end Kit

------------------------------------------------------------
-- What the Attempts Leave Open
------------------------------------------------------------

namespace Kit

namespace Connect

/- The pools whose ping failed, in the order of the calls. -/
def pingFailed : List Event → List Nat :=
  List.filterMap fun
    | .ping p (some _) => some p
    | _ => none

theorem pingFailed_append
    (a b : List Event) :
    pingFailed (a ++ b) = pingFailed a ++ pingFailed b :=
  List.filterMap_append _ _ _

/-
  A creator only adds calls, none of them a ping, and leaves open
  exactly the pool it returns, which it stores in `pool`.
-/
def Creates
    (create : PoolRun (Except String Nat)) : Prop :=
  ∀ w, ∃ evs,
    (create.run w).2.trace = w.trace ++ evs ∧ pingFailed evs = [] ∧
    match (create.run w).1 with
    | .ok p =>
        (create.run w).2.state.pool = some p ∧
          (create.run w).2.state.live = w.state.live ++ [p]
    | .error _ => (create.run w).2.state.live = w.state.live

/-
  `m` only adds calls, and the pools it leaves open are those whose
  ping failed, followed, when it returns `nil`, by the pool it
  stored in `pool`.
-/
def Connects
    (m : PoolRun (Option Error)) : Prop :=
  ∀ w, ∃ evs,
    (m.run w).2.trace = w.trace ++ evs ∧
    match (m.run w).1 with
    | none => ∃ p, (m.run w).2.state.pool = some p ∧
        (m.run w).2.state.live = w.state.live ++ pingFailed evs ++ [p]
    | some _ => (m.run w).2.state.live = w.state.live ++ pingFailed evs

theorem connectConfig_creates : Creates connectConfig := by
  intro w
  simp only [connectConfig, run_bind, call_run]
  cases w.answers.headD none with
  | some e => exact ⟨_, rfl, rfl, rfl⟩
  | none => exact ⟨_, rfl, rfl, rfl, rfl⟩

theorem newClient_creates : Creates newClient :=
  fun _ => ⟨_, rfl, rfl, rfl, rfl⟩

/- An attempt leaves its pool open unless its creation failed. -/
theorem connectAttempt_connects
    {create : PoolRun (Except String Nat)}
    (hCreate : Creates create)
    (kind : ErrorKind) :
    Connects (connectAttempt create kind) := by
  intro w
  obtain ⟨evs, hTrace, hPing, hLive⟩ := hCreate w
  simp only [connectAttempt, run_bind]
  revert hLive
  cases (create.run w).1 with
  | error e =>
      intro hLive
      exact ⟨evs, hTrace, by simpa [hPing] using hLive⟩
  | ok p =>
      rintro ⟨hPool, hLive⟩
      rw [ifErr_call_run]
      cases (create.run w).2.answers.headD none with
      | some e =>
          refine ⟨evs ++ [.ping p (some e)], by simp [hTrace], ?_⟩
          rw [pingFailed_append, hPing]
          exact hLive
      | none =>
          refine ⟨evs ++ [.ping p none], by simp [hTrace], p, hPool, ?_⟩
          rw [pingFailed_append, hPing]
          simpa [pingFailed] using hLive

theorem newDatabaseAttempt_connects : Connects newDatabaseAttempt :=
  connectAttempt_connects connectConfig_creates _

theorem newCacheAttempt_connects : Connects newCacheAttempt :=
  connectAttempt_connects newClient_creates _

/- Returning an error at once opens nothing. -/
theorem Connects.pure_some
    (e : Error) :
    Connects (pure (some e)) :=
  fun _ => ⟨[], (List.append_nil _).symm, by simp [pingFailed]⟩

/-
  `match ← m with | none => return nil | some e => k e`: the calls
  of `k` follow those of `m`, and so do the pools they leave open.
-/
theorem Connects.bind_err
    {m : PoolRun (Option Error)}
    {k : Error → PoolRun (Option Error)}
    (hm : Connects m)
    (hk : ∀ e, Connects (k e)) :
    Connects (do
      match ← m with
      | none => return none
      | some e => k e) := by
  intro w
  obtain ⟨evs₁, hTrace₁, hLive₁⟩ := hm w
  rw [run_bind]
  revert hLive₁
  cases (m.run w).1 with
  | none => exact fun hLive => ⟨evs₁, hTrace₁, hLive⟩
  | some e =>
      intro hLive₁
      obtain ⟨evs₂, hTrace₂, hLive₂⟩ := hk e (m.run w).2
      refine ⟨evs₁ ++ evs₂, by simp [hTrace₂, hTrace₁], ?_⟩
      revert hLive₂
      cases ((k e).run (m.run w).2).1 with
      | none =>
          rintro ⟨p, hPool, hLive₂⟩
          exact ⟨p, hPool, by simp [hLive₂, hLive₁, pingFailed_append]⟩
      | some e₂ =>
          intro hLive₂
          simp [hLive₂, hLive₁, pingFailed_append]

/-
  A retry of at least one attempt leaves open the pools whose ping
  failed and, on success, the pool of its last attempt.
-/
theorem retryLoop_connects
    {retriable : Error → Bool}
    {fn : Nat → PoolRun (Option Error)}
    (hFn : ∀ attempt, Connects (fn attempt))
    (attempt n : Nat) :
    Connects (retryLoop retriable fn attempt (n + 1)) := by
  induction n generalizing attempt with
  | zero =>
      -- the last attempt returns its error
      exact (hFn attempt).bind_err fun e => by simpa using Connects.pure_some e
  | succ n ih =>
      refine (hFn attempt).bind_err fun e => ?_
      split
      · exact .pure_some e
      · exact ih (attempt + 1)

/-
  What a constructor leaves open when it returns: the pools whose
  ping failed, followed by the one the returned client holds.
-/
def LeavesOpen
    (m : PoolRun (Except Error (Option Nat))) : Prop :=
  ∀ w, ∃ evs,
    (m.run w).2.trace = w.trace ++ evs ∧
    (m.run w).2.state.live = w.state.live ++ pingFailed evs ++
      match (m.run w).1 with
      | .ok pool => pool.toList
      | .error _ => []

theorem connectResult_some_run
    (generic timedOut : ErrorKind)
    (e : Error)
    (w : World Pools Event) :
    ∃ err, (connectResult generic timedOut (some e)).run w = (.error err, w) := by
  unfold connectResult
  split
  · contradiction
  all_goals exact ⟨_, rfl⟩

/-
  Retrying under a deadline that does not fire, from `pool = nil`,
  leaves open the pools whose ping failed and the client returned.
-/
theorem retryResult_leavesOpen
    {fn : Nat → PoolRun (Option Error)}
    (hFn : ∀ attempt, Connects (fn attempt))
    (retry : RetryConfig)
    (generic timedOut : ErrorKind)
    (w : World Pools Event)
    (hPool : w.state.pool = none) :
    ∃ evs,
      ((deadline false (.kit .deadlineExceeded)
          (exponentialRetry retry.attempts retry.retriable fn) >>=
          connectResult generic timedOut).run w).2.trace = w.trace ++ evs ∧
      ((deadline false (.kit .deadlineExceeded)
          (exponentialRetry retry.attempts retry.retriable fn) >>=
          connectResult generic timedOut).run w).2.state.live =
        w.state.live ++ pingFailed evs ++
          match ((deadline false (.kit .deadlineExceeded)
              (exponentialRetry retry.attempts retry.retriable fn) >>=
              connectResult generic timedOut).run w).1 with
          | .ok pool => pool.toList
          | .error _ => [] := by
  rw [run_bind, deadline_false_run]
  cases hAttempts : retry.attempts with
  | zero => exact ⟨[], by simp [exponentialRetry, retryLoop, connectResult, hPool],
      by simp [exponentialRetry, retryLoop, connectResult, hPool, pingFailed]⟩
  | succ n =>
      obtain ⟨evs, hTrace, hLive⟩ :=
        @retryLoop_connects retry.retriable fn hFn 1 n w
      unfold exponentialRetry
      revert hLive
      cases (retryLoop retry.retriable fn 1 (n + 1) |>.run w).1 with
      | none =>
          rintro ⟨p, hp, hLive⟩
          exact ⟨evs, hTrace, by simp [connectResult, hLive, hp]⟩
      | some e =>
          intro hLive
          obtain ⟨err, hRun⟩ := connectResult_some_run generic timedOut e
            (retryLoop retry.retriable fn 1 (n + 1) |>.run w).2
          rw [hRun]
          exact ⟨evs, hTrace, by simpa using hLive⟩

/- `NewDatabase` under a deadline that does not fire. -/
theorem newDatabase_leavesOpen
    (retry : RetryConfig) :
    LeavesOpen (newDatabase retry false) := by
  intro w
  simp only [newDatabase, run_bind]
  rw [ifErr_call_run]
  split
  · exact ⟨_, rfl, by simp [pingFailed]⟩
  · obtain ⟨evs, hTrace, hLive⟩ := retryResult_leavesOpen
      (fun _ => newDatabaseAttempt_connects) retry .databaseGeneric
      .databaseTimedOut
      ⟨w.answers.tail, { w.state with pool := none },
        w.trace ++ [.parseConfig none]⟩ rfl
    exact ⟨_, hTrace.trans (List.append_assoc _ _ _),
      hLive.trans (by simp [pingFailed_append, pingFailed])⟩

/- `NewCache` under a deadline that does not fire. -/
theorem newCache_leavesOpen
    (retry : RetryConfig) :
    LeavesOpen (newCache retry false) := fun w =>
  retryResult_leavesOpen (fun _ => newCacheAttempt_connects) retry
    .cacheGeneric .cacheTimedOut ⟨w.answers, { w.state with pool := none }, w.trace⟩ rfl

/-
  When `NewDatabase` or `NewCache` returns under a deadline that
  does not fire, the pools and clients left open are those of the
  attempts whose ping failed, followed by the one the returned
  client holds; a pool whose creation failed is closed.
-/
theorem newDatabase_leaves_open
    (retry : RetryConfig) :
    LeavesOpen (newDatabase retry false) ∧
      LeavesOpen (newCache retry false) :=
  ⟨newDatabase_leavesOpen retry, newCache_leavesOpen retry⟩

/-
  One attempt whose connect succeeds and whose ping fails: the
  constructor returns an error and the pool, or the client, it
  created stays open.
-/
theorem newDatabase_ping_failure_leaks :
    let db := (newDatabase ⟨1, fun _ => true⟩ false).run
      ⟨[none, none, some "timeout"], ⟨0, [], none⟩, []⟩
    let cache := (newCache ⟨1, fun _ => true⟩ false).run
      ⟨[some "timeout"], ⟨0, [], none⟩, []⟩
    db.1.toOption = none ∧ db.2.state.live = [0] ∧
      cache.1.toOption = none ∧ cache.2.state.live = [0] := by
  decide

end Connect

end Kit
