import Kit.Basic

/-
  The `Recover` middleware of `middleware/recover.go`, inside the
  chain echo runs for a request.

  A handler returns an `error` or panics with a value. `Handle`
  defers a `recover`: a recovered value that is an `error` is kept,
  any other is printed into `ErrServerGeneric().With(...)`. The
  error is handed to `ctx.Error`, which calls the server's error
  handler, and the handler returns `nil`; `http.ErrAbortHandler`
  alone is panicked again, for `net/http` to abort the response.
  echo calls the same error handler when the chain returns an
  error, so the two paths meet there.

  Correctness is proven by:
    * `handle_run`: what the wrapped handler does, by how the
      handler ends
    * `handle_handle`: registering the middleware twice is
      registering it once
    * `executeChain_handle`: a request that fails reaches the error
      handler exactly once, and only `http.ErrAbortHandler` escapes

  Main declarations:
    * `ErrValue`, `Panic`, `Outcome`, `Reported`
    * `handle`, `executeChain`, `failure`
-/

------------------------------------------------------------
-- Handle
------------------------------------------------------------

namespace Kit

namespace Recover

/-
  A non-nil `error` value of the chain: `http.ErrAbortHandler`
  itself, which `==` tells apart from every other value whatever
  its text, or any other error.
-/
inductive ErrValue where
  | errAbortHandler
  | other (err : Error)
deriving DecidableEq, Repr

/-
  A non-nil value `recover()` returns: an `error`, or any other
  value, known by what `fmt.Sprint` prints for it. Since Go 1.21 a
  `panic(nil)` is recovered as a `*runtime.PanicNilError`, an
  `error`.
-/
inductive Panic where
  | error (err : ErrValue)
  | value (text : String)
deriving DecidableEq, Repr

/- How a handler ends: returning an `error` (`none` for `nil`), or panicking. -/
inductive Outcome where
  | returned (err : Option ErrValue)
  | panicked (rec : Panic)
deriving DecidableEq, Repr

/- The `error` the server's error handler receives. -/
inductive Reported where
  /- an `error` the chain returned or panicked with -/
  | error (err : ErrValue)
  /- `kit.ErrServerGeneric().With(message)` -/
  | serverGeneric (message : String)
deriving DecidableEq, Repr

/- `err, ok := rec.(error); if !ok { err = kit.ErrServerGeneric().With(fmt.Sprint(rec)) }` -/
def Panic.toError : Panic → Reported
  | .error err => .error err
  | .value text => .serverGeneric text

variable {σ ε : Type} (report : Reported → ε)

/-
  `Recover.Handle(next)`: run `next`; after a panic, panic again
  with `http.ErrAbortHandler`, or hand the error to `ctx.Error`
  (the call `report` records) and return `nil`.
-/
def handle
    (next : Run σ ε Outcome) : Run σ ε Outcome := do
  match ← next with
  | .returned err => return .returned err
  | .panicked rec =>
      let err := rec.toError
      if err = .error .errAbortHandler then return .panicked (.error .errAbortHandler)
      else do
        emit (report err)
        return .returned none

/-
  The end of echo's `ServeHTTP`: run the chain, and hand an error it
  returns to `HTTPErrorHandler` (`exceptionHandler.Handle`, which
  `NewServer` installs), the handler `ctx.Error` calls as well. A
  panic leaves `ServeHTTP` for `net/http`.
-/
def executeChain
    (h : Run σ ε Outcome) : Run σ ε (Option Panic) := do
  match ← h with
  | .returned none => return none
  | .returned (some err) => do
      emit (report (.error err))
      return none
  | .panicked rec => return some rec

end Recover

end Kit

------------------------------------------------------------
-- Each Failure Handled Once
------------------------------------------------------------

namespace Kit

namespace Recover

variable {σ ε : Type} (report : Reported → ε)

/-
  What a request failed with, as its error handler should see it:
  the error returned, or the value panicked with, unless that is
  `http.ErrAbortHandler`, which aborts the response instead.
-/
def failure : Outcome → Option Reported
  | .returned err => err.map .error
  | .panicked rec => if rec = .error .errAbortHandler then none else some rec.toError

@[simp]
theorem toError_eq_abort_iff
    (rec : Panic) :
    rec.toError = .error .errAbortHandler ↔ rec = .error .errAbortHandler := by
  cases rec <;> simp [Panic.toError]

/- The wrapped handler, by how `next` ends. -/
/- Another error with the text of `http.ErrAbortHandler` is reported, not panicked again. -/
example :
    failure (.panicked (.error (.other (.raw "net/http: abort Handler")))) =
      some (.error (.other (.raw "net/http: abort Handler"))) :=
  rfl

theorem handle_run
    (next : Run σ ε Outcome)
    (w : World σ ε) :
    (handle report next).run w =
      match (next.run w).1 with
      | .returned err => (.returned err, (next.run w).2)
      | .panicked rec =>
          if rec = .error .errAbortHandler then
            (.panicked (.error .errAbortHandler), (next.run w).2)
          else (.returned none,
            { (next.run w).2 with trace := (next.run w).2.trace ++ [report rec.toError] }) := by
  rw [handle, run_bind]
  rcases (next.run w).1 with err | rec
  · rfl
  · by_cases hAbort : rec = .error .errAbortHandler
    · simp [hAbort]
    · simp only [toError_eq_abort_iff, hAbort, if_false]
      rfl

/-
  Wrapping a handler in `Handle` twice is wrapping it once: the
  inner one leaves no panic but `http.ErrAbortHandler`, which the
  outer one panics again unchanged, and it reports each other
  panic once, returning `nil`, which the outer one passes on.
-/
theorem handle_handle
    (next : Run σ ε Outcome) :
    handle report (handle report next) = handle report next := by
  refine StateT.ext fun w => ?_
  rw [handle_run, handle_run]
  rcases (next.run w).1 with err | rec
  · rfl
  · by_cases hAbort : rec = .error .errAbortHandler <;> simp [hAbort]

/-
  For every handler, whatever it does and however it ends, the
  request served through `Handle` reaches the server's error
  handler exactly once more than the handler itself called it when
  it failed, with its failure, and not at all when it succeeded;
  the only panic that leaves `ServeHTTP` is `http.ErrAbortHandler`.
-/
theorem executeChain_handle
    (next : Run σ ε Outcome)
    (w : World σ ε) :
    (executeChain report (handle report next)).run w =
      (if (next.run w).1 = .panicked (.error .errAbortHandler) then some (.error .errAbortHandler)
        else none,
        { (next.run w).2 with
          trace := (next.run w).2.trace ++ ((failure (next.run w).1).map report).toList }) := by
  rw [executeChain, run_bind, handle_run]
  rcases (next.run w).1 with (_ | err) | rec
  · simp [failure]
  · simp [failure]
    rfl
  · by_cases hAbort : rec = .error .errAbortHandler <;> simp [hAbort, failure]

end Recover

end Kit
