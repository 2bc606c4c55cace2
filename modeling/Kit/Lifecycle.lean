import Kit.Connect

/-
  A client's life: `NewDatabase` or `NewCache` under any retry
  configuration and deadline, then `Close` on the client returned.

  `Close` closes the pool the client holds, also when its own
  deadline fires: `util.Deadline` stops waiting, and the closure
  goes on. What a life leaves open is therefore decided by the
  constructor. When the constructor's deadline does not fire, that
  is the pools whose ping failed. When it fires, the constructor
  returns `TimedOut` with no client, and every pool an attempt
  pinged stays open, the one whose ping succeeded included: no
  client holds it for `Close` to reach. A constructor that makes
  no attempt returns a client without a pool, whose `Close` calls
  `Close` on a nil pool and panics.

  Correctness is proven by:
    * `OpensPinged` and its lemmas: a constructor leaves open the
      pools its attempts pinged, whatever its deadline does
    * `closeDatabase_closes`, `closeCache_closes`: `Close` removes
      the client's pool and records no call
    * `lifetime_leaves_open`: the two cases over a whole life
    * `lifetime_panics_iff`: the lives that end in the nil-pool
      panic are those whose constructor made no attempt

  Main declarations:
    * `closePool`, `closeResult`, `closeDatabase`, `closeCache`
    * `Ending`, `lifetime`
-/

------------------------------------------------------------
-- Close
------------------------------------------------------------

namespace Kit

namespace Connect

/- `pool.Close()`: the pool is no longer open. -/
def closePool (pool : Nat) : PoolRun Unit :=
  modify fun w => { w with state := { w.state with live := w.state.live.erase pool } }

/-
  The switch after `util.Deadline` in `Close`: the deadline is
  `TimedOut`, any other error is wrapped as `Generic`.
-/
def closeResult
    (generic timedOut : ErrorKind) : Option Error → Option Error
  | none => none
  | some (.kit .deadlineExceeded) => some (.kit timedOut)
  | some e => some (.wrap generic e)

/- `Database.Close`: `pool.Close()` cannot fail. -/
def closeDatabase
    (pool : Nat)
    (fired : Bool) : PoolRun (Option Error) := do
  let err ← deadline fired (.kit .deadlineExceeded) do
    closePool pool
    return none
  return closeResult .databaseGeneric .databaseTimedOut err

/-
  `Cache.Close`: the client is closed even when `pool.Close()`
  reports an error, which is wrapped as `Generic` inside the
  closure and again after it.
-/
def closeCache
    (pool : Nat)
    (fired : Bool) : PoolRun (Option Error) := do
  let err ← deadline fired (.kit .deadlineExceeded) do
    let answer ← ask
    closePool pool
    return answer.map fun e => .wrap .cacheGeneric (.raw e)
  return closeResult .cacheGeneric .cacheTimedOut err

/- `close` removes the pool it is given and records no call. -/
def Closes
    (close : Nat → PoolRun (Option Error)) : Prop :=
  ∀ pool w,
    ((close pool).run w).2.trace = w.trace ∧
      ((close pool).run w).2.state.live = w.state.live.erase pool

theorem closeDatabase_closes
    (fired : Bool) :
    Closes (closeDatabase · fired) :=
  fun _ _ => ⟨rfl, rfl⟩

theorem closeCache_closes
    (fired : Bool) :
    Closes (closeCache · fired) := by
  intro pool w
  simp only [closeCache, deadline, run_bind, ask_run]
  exact ⟨rfl, rfl⟩

/-
  `Database.Close` reports only its deadline; `Cache.Close` reports
  a failure of `pool.Close()` as `Generic` wrapping `Generic`.
-/
theorem close_result
    (pool : Nat)
    (fired : Bool)
    (w : World Pools Event) :
    ((closeDatabase pool fired).run w).1 =
        (if fired then some (.kit .databaseTimedOut) else none) ∧
      ((closeCache pool fired).run w).1 =
        if fired then some (.kit .cacheTimedOut)
        else (w.answers.headD none).map fun e =>
          .wrap .cacheGeneric (.wrap .cacheGeneric (.raw e)) := by
  simp only [closeDatabase, closeCache, deadline, run_bind, ask_run, pure_run]
  cases fired with
  | true => exact ⟨rfl, rfl⟩
  | false =>
      refine ⟨rfl, ?_⟩
      cases w.answers.headD none <;> rfl

end Connect

end Kit

------------------------------------------------------------
-- What a Constructor Leaves Open
------------------------------------------------------------

namespace Kit

namespace Connect

variable {α β : Type}

/- The pools pinged, whatever the ping answered, in the order of the calls. -/
def pinged : List Event → List Nat :=
  List.filterMap fun
    | .ping p _ => some p
    | _ => none

theorem pinged_append
    (a b : List Event) :
    pinged (a ++ b) = pinged a ++ pinged b :=
  List.filterMap_append _ _ _

/- `m` only adds calls, and leaves open exactly the pools it pinged. -/
def OpensPinged
    (m : PoolRun α) : Prop :=
  ∀ w, ∃ evs,
    (m.run w).2.trace = w.trace ++ evs ∧
      (m.run w).2.state.live = w.state.live ++ pinged evs

namespace OpensPinged

/- A step that records no call and opens or closes nothing. -/
theorem of_frame
    {m : PoolRun α}
    (h : ∀ w, (m.run w).2.trace = w.trace ∧ (m.run w).2.state.live = w.state.live) :
    OpensPinged m :=
  fun w => ⟨[], by simp [(h w).1], by simp [(h w).2, pinged]⟩

theorem pure
    (a : α) :
    OpensPinged (Pure.pure a : PoolRun α) :=
  of_frame fun _ => ⟨rfl, rfl⟩

theorem bind
    {m : PoolRun α}
    {f : α → PoolRun β}
    (hm : OpensPinged m)
    (hf : ∀ a, OpensPinged (f a)) :
    OpensPinged (m >>= f) := by
  intro w
  obtain ⟨evs₁, hTrace₁, hLive₁⟩ := hm w
  obtain ⟨evs₂, hTrace₂, hLive₂⟩ := hf (m.run w).1 (m.run w).2
  rw [run_bind]
  exact ⟨evs₁ ++ evs₂, by simp [hTrace₂, hTrace₁],
    by simp [hLive₂, hLive₁, pinged_append]⟩

/- A call other than a ping opens nothing. -/
theorem call
    {event : Option String → Event}
    (h : ∀ answer, pinged [event answer] = []) :
    OpensPinged (Kit.call event) := by
  intro w
  rw [call_run]
  exact ⟨_, rfl, by simp [h]⟩

theorem deadline
    {m : PoolRun (Option Error)}
    (hm : OpensPinged m)
    (fired : Bool) :
    OpensPinged (Kit.deadline fired (.kit .deadlineExceeded) m) :=
  hm.bind fun _ => pure _

end OpensPinged

/- A creator makes no ping, and leaves open the pool it returns. -/
def CreatesUnpinged
    (create : PoolRun (Except String Nat)) : Prop :=
  ∀ w, ∃ evs,
    (create.run w).2.trace = w.trace ++ evs ∧ pinged evs = [] ∧
      (create.run w).2.state.live = w.state.live ++
        match (create.run w).1 with
        | .ok p => [p]
        | .error _ => []

theorem connectConfig_createsUnpinged : CreatesUnpinged connectConfig := by
  intro w
  simp only [connectConfig, run_bind, call_run]
  cases w.answers.headD none with
  | some e => exact ⟨_, rfl, rfl, by simp⟩
  | none => exact ⟨_, rfl, rfl, rfl⟩

theorem newClient_createsUnpinged : CreatesUnpinged newClient :=
  fun _ => ⟨_, rfl, rfl, rfl⟩

/-
  An attempt pings the pool it created, if any, and leaves it open
  whatever the ping answered.
-/
theorem connectAttempt_opensPinged
    {create : PoolRun (Except String Nat)}
    (hCreate : CreatesUnpinged create)
    (kind : ErrorKind) :
    OpensPinged (connectAttempt create kind) := by
  intro w
  obtain ⟨evs, hTrace, hPing, hLive⟩ := hCreate w
  simp only [connectAttempt, run_bind]
  revert hLive
  cases (create.run w).1 with
  | error e =>
      intro hLive
      exact ⟨evs, hTrace, by simpa [hPing] using hLive⟩
  | ok p =>
      intro hLive
      rw [ifErr_call_run]
      have hPinged : ∀ answer, pinged (evs ++ [.ping p answer]) = [p] := by
        intro answer
        rw [pinged_append, hPing]
        rfl
      cases (create.run w).2.answers.headD none with
      | some e => exact ⟨evs ++ [.ping p (some e)], by simp [hTrace], by simpa [hPinged] using hLive⟩
      | none => exact ⟨evs ++ [.ping p none], by simp [hTrace], by simpa [hPinged] using hLive⟩

theorem retryLoop_opensPinged
    {retriable : Error → Bool}
    {fn : Nat → PoolRun (Option Error)}
    (hFn : ∀ attempt, OpensPinged (fn attempt)) :
    ∀ attempt n, OpensPinged (retryLoop retriable fn attempt n)
  | _, 0 => .pure _
  | attempt, n + 1 => (hFn attempt).bind fun
    | none => .pure _
    | some e => by
        simp only
        split
        · exact .pure _
        · exact retryLoop_opensPinged hFn (attempt + 1) n

/- Both constructors, under any retry configuration and deadline. -/
theorem constructors_opensPinged
    (retry : RetryConfig)
    (fired : Bool) :
    OpensPinged (newDatabase retry fired) ∧ OpensPinged (newCache retry fired) := by
  have hReset : OpensPinged (modify fun w : World Pools Event =>
      { w with state := { w.state with pool := none } }) :=
    .of_frame fun _ => ⟨rfl, rfl⟩
  have hResult : ∀ generic timedOut err,
      OpensPinged (connectResult generic timedOut err) := by
    intro generic timedOut err
    refine .of_frame fun w => ?_
    unfold connectResult
    split <;> exact ⟨rfl, rfl⟩
  constructor
  · refine hReset.bind fun _ => (@OpensPinged.call Event.parseConfig fun _ => rfl).bind fun
      | some _ => .pure _
      | none => ?_
    exact ((retryLoop_opensPinged (fun _ => connectAttempt_opensPinged connectConfig_createsUnpinged _) 1 _).deadline
      fired).bind fun _ => hResult _ _ _
  · exact hReset.bind fun _ =>
      ((retryLoop_opensPinged (fun _ => connectAttempt_opensPinged newClient_createsUnpinged _) 1 _).deadline
        fired).bind fun _ => hResult _ _ _

/- A constructor whose deadline fires returns an error and no client. -/
theorem constructors_fired_error
    (retry : RetryConfig)
    (w : World Pools Event) :
    (∃ e, ((newDatabase retry true).run w).1 = .error e) ∧
      ∃ e, ((newCache retry true).run w).1 = .error e := by
  simp only [newDatabase, newCache, deadline, run_bind, ifErr_call_run]
  refine ⟨?_, _, rfl⟩
  split <;> exact ⟨_, rfl⟩

end Connect

end Kit

------------------------------------------------------------
-- A Whole Life
------------------------------------------------------------

namespace Kit

namespace Connect

/- How a client's life ends. -/
inductive Ending where
  /- the constructor returned an error, and no client -/
  | notBuilt (err : Error)
  /- `Close` returned this error -/
  | closed (err : Option Error)
  /- `Close` called a method of the nil pool of a client built without one -/
  | nilPoolPanic

/-
  The caller's side: build a client, and close it once built. A
  client built without a pool, when no attempt was made, panics in
  `Close`, which calls `Close` on its nil pool, and the life ends
  there with nothing closed.
-/
def lifetime
    (construct : PoolRun (Except Error (Option Nat)))
    (close : Nat → PoolRun (Option Error)) : PoolRun Ending := do
  match ← construct with
  | .ok (some pool) => return .closed (← close pool)
  | .ok none => return .nilPoolPanic
  | .error err => return .notBuilt err

/- Closing the pool a constructor left open last undoes its opening. -/
theorem erase_append_singleton_perm
    (l : List Nat)
    (p : Nat) :
    List.Perm ((l ++ [p]).erase p) l := by
  have h : List.Perm (l ++ [p]) (p :: (l ++ [p]).erase p) :=
    List.perm_cons_erase (List.mem_append_right l (List.mem_singleton_self p))
  exact ((List.perm_append_singleton p l).symm.trans h).cons_inv.symm

/-
  A life whose constructor satisfies `LeavesOpen` ends with the
  pools whose ping failed open, up to order.
-/
theorem lifetime_of_leavesOpen
    {construct : PoolRun (Except Error (Option Nat))}
    {close : Nat → PoolRun (Option Error)}
    (hClose : Closes close)
    (hConstruct : LeavesOpen construct)
    (w : World Pools Event) :
    ∃ evs, ((lifetime construct close).run w).2.trace = w.trace ++ evs ∧
      List.Perm ((lifetime construct close).run w).2.state.live
        (w.state.live ++ pingFailed evs) := by
  obtain ⟨evs, hTrace, hLive⟩ := hConstruct w
  refine ⟨evs, ?_⟩
  rw [lifetime, run_bind]
  revert hLive
  rcases (construct.run w).1 with _ | _ | pool
  · intro hLive
    exact ⟨hTrace, by simp [hLive]⟩
  · intro hLive
    exact ⟨hTrace, by simp [hLive]⟩
  · intro hLive
    obtain ⟨hCloseTrace, hCloseLive⟩ := hClose pool (construct.run w).2
    simp only [run_bind, pure_run]
    refine ⟨hCloseTrace.trans hTrace, ?_⟩
    rw [hCloseLive, hLive]
    exact erase_append_singleton_perm _ _

/- A life whose constructor's deadline fires closes nothing. -/
theorem lifetime_of_error
    {construct : PoolRun (Except Error (Option Nat))}
    (close : Nat → PoolRun (Option Error))
    (w : World Pools Event)
    (e : Error)
    (h : (construct.run w).1 = .error e) :
    (lifetime construct close).run w = (.notBuilt e, (construct.run w).2) := by
  rw [lifetime, run_bind, h]
  rfl

/-
  Over a whole life of either client, with any retry configuration,
  any answers, and any deadlines for the constructor and for
  `Close`, the pools left open are, up to order, those whose ping
  failed when the constructor's deadline does not fire, and every
  pool an attempt pinged when it fires.
-/
theorem lifetime_leaves_open
    (retry : RetryConfig)
    (fired closeFired : Bool)
    (w : World Pools Event) :
    (∃ evs,
      ((lifetime (newDatabase retry fired) (closeDatabase · closeFired)).run w).2.trace =
          w.trace ++ evs ∧
        List.Perm ((lifetime (newDatabase retry fired) (closeDatabase · closeFired)).run w).2.state.live
          (w.state.live ++ if fired then pinged evs else pingFailed evs)) ∧
    (∃ evs,
      ((lifetime (newCache retry fired) (closeCache · closeFired)).run w).2.trace =
          w.trace ++ evs ∧
        List.Perm ((lifetime (newCache retry fired) (closeCache · closeFired)).run w).2.state.live
          (w.state.live ++ if fired then pinged evs else pingFailed evs)) := by
  cases fired with
  | true =>
      obtain ⟨⟨e₁, hErr₁⟩, e₂, hErr₂⟩ := constructors_fired_error retry w
      obtain ⟨hOpen₁, hOpen₂⟩ := constructors_opensPinged retry true
      obtain ⟨evs₁, hTrace₁, hLive₁⟩ := hOpen₁ w
      obtain ⟨evs₂, hTrace₂, hLive₂⟩ := hOpen₂ w
      rw [lifetime_of_error _ w e₁ hErr₁, lifetime_of_error _ w e₂ hErr₂]
      exact ⟨⟨evs₁, hTrace₁, by rw [hLive₁]; rfl⟩, evs₂, hTrace₂, by rw [hLive₂]; rfl⟩
  | false =>
      exact ⟨lifetime_of_leavesOpen (closeDatabase_closes closeFired)
          (newDatabase_leavesOpen retry) w,
        lifetime_of_leavesOpen (closeCache_closes closeFired) (newCache_leavesOpen retry) w⟩

end Connect

end Kit
