import Mathlib.Data.List.Basic

/-
  The migrator's done channel, across the goroutines that use it.

  Every operation (`Version`, `Assert`, `Apply`, `Rollback`) stores
  a fresh channel in the shared field `self.done` and runs its
  body under `util.Deadline`. The body makes its migration step,
  then runs

    select {
    case <-self.done:
    default:
      close(self.done)
    }

  reading the field once to receive and once more to close. When
  the call's deadline fires, `util.Deadline` returns without
  waiting and the body runs on. `Close` receives from the channel
  in the field and then calls `self.migrator.Close()`. A single
  caller makes the calls one after another.

  A state records the field, every channel made so far, every
  body's phase, the caller, and `Close`'s body; a schedule is a
  list of actions, each taken by the caller or by one body.

  Main declarations:
    * `State`, `Action`, `step`, `run`
    * `Safe`: no channel closed twice, and `migrator.Close` only
      once no body is in its migration step
    * `Calm`, the states reached when no deadline fires, and
      `run_safe_of_no_expire`
-/

------------------------------------------------------------
-- States and Actions
------------------------------------------------------------

namespace Kit

namespace Migrator

namespace Done

/- Where an operation's body is. -/
inductive Phase where
  | migrating
  | selecting
  | closing
  | finished
deriving DecidableEq, Repr

/- Where the single caller is. -/
inductive Caller where
  | idle
  | waiting (body : Nat)
  | closing
deriving DecidableEq, Repr

/- Where the body of `Close` is. -/
inductive Closer where
  | notCalled
  | stopping
  | receiving (chan : Nat)
  | closedMigrator
deriving DecidableEq, Repr

/-
  `done` is the field `self.done`, an index into `chans`, which
  says of every channel made so far whether it is closed.
  `panicked` records a `close` of a closed channel.
-/
structure State where
  done : Nat
  chans : List Bool
  bodies : List Phase
  caller : Caller
  closer : Closer
  panicked : Bool
deriving DecidableEq, Repr

/- `NewMigrator`: `done := make(chan struct{}, 1); close(done)`. -/
def init : State :=
  ⟨0, [true], [], .idle, .notCalled, false⟩

inductive Action where
  | call
  | stepDone (body : Nat)
  | select (body : Nat)
  | close (body : Nat)
  | ret
  | expire
  | closeCall
  | receive
  | closeMigrator
deriving DecidableEq, Repr

def State.isClosed
    (s : State)
    (c : Nat) : Bool :=
  s.chans.getD c false

/-
  One action, `none` when it cannot be taken.
    * `call`: `self.done = make(chan struct{}, 1)`, and the body
      starts.
    * `stepDone i`: body `i`'s migration step returns.
    * `select i`: body `i` evaluates `<-self.done`; a closed
      channel is ready, an open one is not and `default` runs.
    * `close i`: body `i` evaluates `close(self.done)`.
    * `ret`: `util.Deadline` returns once the body is finished.
    * `expire`: the call's deadline fires; `util.Deadline` returns
      and the body runs on.
    * `closeCall`, `receive`, `closeMigrator`: `Close` starts,
      evaluates `<-self.done`, and once that channel is closed
      calls `self.migrator.Close()`.
-/
def step
    (s : State) : Action → Option State
  | .call =>
      match s.caller with
      | .idle =>
          some { s with
            done := s.chans.length
            chans := s.chans ++ [false]
            bodies := s.bodies ++ [.migrating]
            caller := .waiting s.bodies.length }
      | _ => none
  | .stepDone i =>
      if s.bodies[i]? = some .migrating then
        some { s with bodies := s.bodies.set i .selecting }
      else none
  | .select i =>
      if s.bodies[i]? = some .selecting then
        some { s with
          bodies := s.bodies.set i (if s.isClosed s.done then .finished else .closing) }
      else none
  | .close i =>
      if s.bodies[i]? = some .closing then
        some { s with
          bodies := s.bodies.set i .finished
          chans := s.chans.set s.done true
          panicked := s.panicked || s.isClosed s.done }
      else none
  | .ret =>
      match s.caller with
      | .waiting i =>
          if s.bodies[i]? = some .finished then some { s with caller := .idle }
          else none
      | _ => none
  | .expire =>
      match s.caller with
      | .waiting _ => some { s with caller := .idle }
      | _ => none
  | .closeCall =>
      match s.caller with
      | .idle => some { s with caller := .closing, closer := .stopping }
      | _ => none
  | .receive =>
      match s.closer with
      | .stopping => some { s with closer := .receiving s.done }
      | _ => none
  | .closeMigrator =>
      match s.closer with
      | .receiving c =>
          if s.isClosed c then some { s with closer := .closedMigrator } else none
      | _ => none

def run
    (s : State) : List Action → Option State
  | [] => some s
  | a :: as => (step s a).bind fun s' => run s' as

theorem run_cons
    (s : State)
    (a : Action)
    (as : List Action) :
    run s (a :: as) = (step s a).bind fun s' => run s' as :=
  rfl

/-
  No done channel closed twice, and `migrator.Close` reached only
  once no body is in its migration step.
-/
def Safe
    (s : State) : Prop :=
  s.panicked = false ∧ (s.closer = .closedMigrator → .migrating ∉ s.bodies)

instance : DecidablePred Safe :=
  fun _ => inferInstanceAs (Decidable (_ ∧ _))

end Done

end Migrator

end Kit

------------------------------------------------------------
-- Abandoned Bodies
------------------------------------------------------------

namespace Kit

namespace Migrator

namespace Done

/-
  Two calls, the first abandoned by its deadline. Its body ends
  its step during the second call and closes the second call's
  channel; the second call is abandoned too, and `Close` goes
  through while the second body is still migrating. In the second
  schedule both bodies find the second channel open, and both
  close it.
-/
theorem done_channel_shared :
    (∃ s, run init [.call, .expire, .call, .stepDone 0, .select 0, .close 0, .expire,
        .closeCall, .receive, .closeMigrator] = some s ∧
      s.closer = .closedMigrator ∧ s.bodies[1]? = some .migrating) ∧
    (∃ s, run init [.call, .expire, .call, .stepDone 0, .select 0, .stepDone 1, .select 1,
        .close 0, .close 1] = some s ∧
      s.panicked = true) :=
  ⟨⟨_, rfl, rfl, rfl⟩, ⟨_, rfl, rfl⟩⟩

end Done

end Migrator

end Kit

------------------------------------------------------------
-- Runs Without a Firing Deadline
------------------------------------------------------------

namespace Kit

namespace Migrator

namespace Done

/- `n` finished calls, the caller and `Close` as given. -/
def quiet
    (n : Nat)
    (caller : Caller)
    (closer : Closer) : State :=
  ⟨n, List.replicate (n + 1) true, List.replicate n .finished, caller, closer, false⟩

/- `n` finished calls and the caller waiting for call `n`. -/
def busy
    (n : Nat)
    (p : Phase) : State :=
  ⟨n + 1, List.replicate (n + 1) true ++ [decide (p = .finished)],
    List.replicate n .finished ++ [p], .waiting n, .notCalled, false⟩

/- The states reachable when no deadline fires. -/
inductive Calm : State → Prop where
  | idle (n : Nat) : Calm (quiet n .idle .notCalled)
  | busy (n : Nat) (p : Phase) : Calm (busy n p)
  | stopping (n : Nat) : Calm (quiet n .closing .stopping)
  | receiving (n : Nat) : Calm (quiet n .closing (.receiving n))
  | closed (n : Nat) : Calm (quiet n .closing .closedMigrator)

theorem calm_init : Calm init :=
  .idle 0

/- Of `n` finished bodies and one more, only the last may be unfinished. -/
theorem eq_last_of_getElem?
    {n i : Nat}
    {p q : Phase}
    (h : (List.replicate n Phase.finished ++ [p])[i]? = some q)
    (hq : q ≠ .finished) :
    i = n ∧ q = p := by
  by_cases hi : i < n
  · rw [List.getElem?_append_left (by simpa using hi)] at h
    simp [List.getElem?_replicate, hi] at h
    exact absurd h.symm hq
  · rw [List.getElem?_append_right (by simp; omega)] at h
    simp only [List.length_replicate] at h
    match hk : i - n, h with
    | 0, h => exact ⟨by omega, (Option.some_inj.mp h).symm⟩
    | _ + 1, h => simp at h

/- Setting the last of `n` finished bodies and one more. -/
theorem set_last
    (n : Nat)
    (p q : Phase) :
    (List.replicate n Phase.finished ++ [p]).set n q = List.replicate n Phase.finished ++ [q] := by
  simp [List.set_append]

theorem getD_replicate_append
    (n : Nat)
    (b : Bool) :
    (List.replicate n true ++ [b]).getD n false = b := by
  simp [List.getD_eq_getElem?_getD, List.getElem?_append_right]

/-
  Without `expire`, a calm state steps to a calm state: the caller
  waits for each body, so only the last body runs and the channel
  in the field is its own.
-/
theorem step_calm
    {s s' : State}
    {a : Action}
    (hs : Calm s)
    (ha : a ≠ .expire)
    (h : step s a = some s') :
    Calm s' := by
  cases hs with
  | idle n =>
      cases a <;> simp [step, quiet, List.getElem?_replicate] at h
      · -- call
        subst h
        exact .busy n .migrating
      · -- closeCall
        subst h
        exact .stopping n
  | busy n p =>
      cases a <;> simp [step, Done.busy, State.isClosed] at h
      · -- stepDone
        obtain ⟨hi, rfl⟩ := h
        obtain ⟨rfl, rfl⟩ := eq_last_of_getElem? hi (by decide)
        rw [set_last]
        exact .busy _ .selecting
      · -- select
        obtain ⟨hi, rfl⟩ := h
        obtain ⟨rfl, rfl⟩ := eq_last_of_getElem? hi (by decide)
        simp only [set_last, getD_replicate_append]
        exact .busy _ .closing
      · -- close
        obtain ⟨hi, rfl⟩ := h
        obtain ⟨rfl, rfl⟩ := eq_last_of_getElem? hi (by decide)
        simp only [set_last, getD_replicate_append]
        exact .busy _ .finished
      · -- ret
        obtain ⟨rfl, rfl⟩ := h
        simpa [quiet, List.replicate_succ'] using Calm.idle (n + 1)
      · -- expire
        exact absurd rfl ha
  | stopping n =>
      cases a <;> simp [step, quiet, List.getElem?_replicate] at h
      subst h
      exact .receiving n
  | receiving n =>
      cases a <;> simp [step, quiet, List.getElem?_replicate] at h
      exact h.2 ▸ .closed n
  | closed n =>
      cases a <;> simp [step, quiet, List.getElem?_replicate] at h

theorem run_calm
    {s s' : State}
    {as : List Action}
    (hs : Calm s)
    (hNo : .expire ∉ as)
    (h : run s as = some s') :
    Calm s' := by
  induction as generalizing s with
  | nil =>
      cases h
      exact hs
  | cons a as ih =>
      rw [run_cons] at h
      obtain ⟨s₁, h₁, h⟩ := Option.bind_eq_some.mp h
      exact ih (step_calm hs (fun he => hNo (he ▸ List.mem_cons_self _ _)) h₁)
        (fun he => hNo (List.mem_cons_of_mem _ he)) h

theorem Calm.safe
    {s : State}
    (hs : Calm s) :
    Safe s := by
  cases hs <;> simp [Safe, quiet, Done.busy]

/-
  When no call's deadline fires, no done channel is closed twice
  and `migrator.Close` waits for every body.
-/
theorem run_safe_of_no_expire
    (as : List Action)
    (s : State)
    (hNo : .expire ∉ as)
    (h : run init as = some s) :
    Safe s :=
  (run_calm calm_init hNo h).safe

theorem run_safe_of_no_expire_sample :
    Action.expire ∉ [.call, .stepDone 0, .select 0, .close 0, .ret, .closeCall, .receive,
        .closeMigrator] ∧
      run init [.call, .stepDone 0, .select 0, .close 0, .ret, .closeCall, .receive,
        .closeMigrator] = some (quiet 1 .closing .closedMigrator) ∧
      Safe (quiet 1 .closing .closedMigrator) :=
  ⟨by decide, rfl, run_safe_of_no_expire [.call, .stepDone 0, .select 0, .close 0, .ret,
    .closeCall, .receive, .closeMigrator] _ (by decide) rfl⟩

end Done

end Migrator

end Kit
