import Mathlib.Data.List.Basic

/-
  The outside world as the kit sees it, and the kit's error
  values.

  Every call the kit makes to a driver, a pool, the migration
  tool or a context is answered by the environment: `none` is
  success, `some text` an error whose `Error()` text is `text`.
  A computation of the kit (`Run`) takes these answers one by
  one, acts on a state, and records every call it makes.
  Quantifying over the answers quantifies over every outcome of
  every call, cancellation of the context included.

  Main declarations:
    * `Error`, `ErrorKind`
    * `World`, `Run`, `ask`, `emit`, `call`, `ifErr`
    * `Emits` and its composition lemmas
    * `deadline` (`util.Deadline`)
-/

------------------------------------------------------------
-- Error Values
------------------------------------------------------------

namespace Kit

/- The kit's `*Error` constructors that the modelled code raises. -/
inductive ErrorKind where
  | databaseGeneric
  | databaseTimedOut
  | databaseTransactionFailed
  | databaseIntegrityViolation
  | databaseNoRows
  | cacheGeneric
  | cacheTimedOut
  | cacheMiss
  | deadlineExceeded
deriving DecidableEq, Repr

/-
  An `error` value: one of a driver, a context or a caller,
  known by its `Error()` text, or one of the kit's `*Error`
  values, bare (`ErrX()`) or wrapping a cause (`Wrap`, `WrapAs`
  and `WrapWithDepth` all keep the cause).
-/
inductive Error where
  | raw (text : String)
  | kit (kind : ErrorKind)
  | wrap (kind : ErrorKind) (cause : Error)
deriving DecidableEq, Repr

/- The kind of a kit error; `none` for any other error. -/
def Error.kind? : Error → Option ErrorKind
  | .raw _ => none
  | .kit kind => some kind
  | .wrap kind _ => some kind

end Kit

------------------------------------------------------------
-- The Environment
------------------------------------------------------------

namespace Kit

/-
  The answers still to come, the state the calls act on, and
  the calls made so far.
-/
structure World (σ ε : Type) where
  answers : List (Option String)
  state : σ
  trace : List ε
deriving DecidableEq, Repr

/- A computation of the kit against the world. -/
abbrev Run (σ ε α : Type) := StateM (World σ ε) α

variable {σ ε α β : Type}

/-
  The answer to the next call. Once the answers run out every
  call succeeds.
-/
def ask : Run σ ε (Option String) :=
  modifyGet fun w =>
    match w.answers with
    | [] => (none, w)
    | a :: rest => (a, { w with answers := rest })

/- Record a call. -/
def emit (e : ε) : Run σ ε Unit :=
  modify fun w => { w with trace := w.trace ++ [e] }

/- Make a call: take its answer and record it. -/
def call (event : Option String → ε) : Run σ ε (Option String) := do
  let answer ← ask
  emit (event answer)
  return answer

/- `err := m; if err != nil { return handle(err) }; k` -/
def ifErr
    (m : Run σ ε (Option String))
    (handle : String → Run σ ε α)
    (k : Run σ ε α) : Run σ ε α := do
  match ← m with
  | some e => handle e
  | none => k

theorem run_bind
    (m : Run σ ε α)
    (f : α → Run σ ε β)
    (w : World σ ε) :
    (m >>= f).run w = (f (m.run w).1).run (m.run w).2 :=
  rfl

@[simp]
theorem pure_run
    (a : α)
    (w : World σ ε) :
    (pure a : Run σ ε α).run w = (a, w) :=
  rfl

theorem map_run
    (f : α → β)
    (m : Run σ ε α)
    (w : World σ ε) :
    (f <$> m).run w = (f (m.run w).1, (m.run w).2) :=
  rfl

theorem get_run
    (w : World σ ε) :
    (get : Run σ ε (World σ ε)).run w = (w, w) :=
  rfl

theorem ite_run
    {c : Prop}
    [Decidable c]
    (a b : Run σ ε α)
    (w : World σ ε) :
    (if c then a else b).run w = if c then a.run w else b.run w := by
  by_cases c <;> simp [*]

theorem dite_run
    {c : Prop}
    [Decidable c]
    (a : c → Run σ ε α)
    (b : ¬c → Run σ ε α)
    (w : World σ ε) :
    (if h : c then a h else b h).run w =
      if h : c then (a h).run w else (b h).run w := by
  by_cases c <;> simp [*]

/- An answer is the head of the answers, `nil` once they run out. -/
theorem ask_run
    (w : World σ ε) :
    ask.run w = (w.answers.headD none, { w with answers := w.answers.tail }) := by
  obtain ⟨_ | _, _, _⟩ := w <;> rfl

/- A call takes the head of the answers, `nil` once they run out. -/
theorem call_run
    (event : Option String → ε)
    (w : World σ ε) :
    (call event).run w =
      (w.answers.headD none,
        { w with
          answers := w.answers.tail
          trace := w.trace ++ [event (w.answers.headD none)] }) := by
  obtain ⟨_ | _, _, _⟩ := w <;> rfl

theorem ifErr_call_run
    (event : Option String → ε)
    (handle : String → Run σ ε α)
    (k : Run σ ε α)
    (w : World σ ε) :
    (ifErr (call event) handle k).run w =
      match w.answers.headD none with
      | some e =>
          (handle e).run
            { w with
              answers := w.answers.tail
              trace := w.trace ++ [event (some e)] }
      | none =>
          k.run
            { w with
              answers := w.answers.tail
              trace := w.trace ++ [event none] } := by
  simp only [ifErr, run_bind, call_run]
  cases w.answers.headD none <;> rfl

end Kit

------------------------------------------------------------
-- What a Computation Records
------------------------------------------------------------

namespace Kit

variable {σ ε α β : Type}

/-
  Every call that `m` makes, from any world, satisfies `P`; the
  calls made before are kept.
-/
def Emits
    (P : ε → Prop)
    (m : Run σ ε α) : Prop :=
  ∀ w, ∃ evs,
    (m.run w).2.trace = w.trace ++ evs ∧ ∀ e ∈ evs, P e

namespace Emits

variable {P : ε → Prop}

theorem pure
    (a : α) :
    Emits P (Pure.pure a : Run σ ε α) :=
  fun w => ⟨[], by simp [StateT.run, Pure.pure, StateT.pure]⟩

theorem bind
    {m : Run σ ε α}
    {f : α → Run σ ε β}
    (hm : Emits P m)
    (hf : ∀ a, Emits P (f a)) :
    Emits P (m >>= f) := by
  intro w
  obtain ⟨evs₁, h₁, hP₁⟩ := hm w
  obtain ⟨evs₂, h₂, hP₂⟩ := hf (m.run w).1 (m.run w).2
  refine ⟨evs₁ ++ evs₂, ?_, ?_⟩
  · rw [run_bind, h₂, h₁, List.append_assoc]
  · intro e he
    rcases List.mem_append.mp he with he | he
    · exact hP₁ e he
    · exact hP₂ e he

theorem call
    {event : Option String → ε}
    (h : ∀ a, P (event a)) :
    Emits P (Kit.call event : Run σ ε _) := by
  intro w
  exact ⟨_, by rw [call_run], by simpa using h _⟩

theorem ifErr
    {m : Run σ ε (Option String)}
    {handle : String → Run σ ε α}
    {k : Run σ ε α}
    (hm : Emits P m)
    (hh : ∀ e, Emits P (handle e))
    (hk : Emits P k) :
    Emits P (Kit.ifErr m handle k) :=
  hm.bind fun
    | some e => hh e
    | none => hk

/-
  A call checked for an error comes first, with the answer it
  takes; every call after it satisfies `P`.
-/
theorem ifErr_call_head
    {event : Option String → ε}
    {handle : String → Run σ ε α}
    {k : Run σ ε α}
    (hh : ∀ e, Emits P (handle e))
    (hk : Emits P k)
    (w : World σ ε) :
    ∃ evs, ((Kit.ifErr (Kit.call event) handle k).run w).2.trace =
      w.trace ++ event (w.answers.headD none) :: evs ∧ ∀ e ∈ evs, P e := by
  rw [ifErr_call_run]
  cases w.answers.headD none with
  | some e =>
      obtain ⟨evs, h, hP⟩ :=
        hh e { w with answers := w.answers.tail, trace := w.trace ++ [event (some e)] }
      exact ⟨evs, by simpa using h, hP⟩
  | none =>
      obtain ⟨evs, h, hP⟩ :=
        hk { w with answers := w.answers.tail, trace := w.trace ++ [event none] }
      exact ⟨evs, by simpa using h, hP⟩

theorem mono
    {Q : ε → Prop}
    {m : Run σ ε α}
    (hm : Emits P m)
    (hPQ : ∀ e, P e → Q e) :
    Emits Q m := fun w =>
  let ⟨evs, h, hP⟩ := hm w
  ⟨evs, h, fun e he => hPQ e (hP e he)⟩

end Emits

end Kit

------------------------------------------------------------
-- Deadlines
------------------------------------------------------------

namespace Kit

variable {σ ε : Type}

/-
  Modelled from the spec: `util.Deadline(ctx, fn)` runs `fn`;
  when the context's deadline fires before `fn` returns it
  returns `ErrDeadlineExceeded` (`exceeded`) without waiting, and
  `fn` runs on abandoned, so its effects still take place.
-/
def deadline
    {E : Type}
    (fired : Bool)
    (exceeded : E)
    (fn : Run σ ε (Option E)) : Run σ ε (Option E) := do
  let err ← fn
  return if fired then some exceeded else err

/- A deadline that does not fire returns what `fn` returns. -/
theorem deadline_false_run
    {E : Type}
    (exceeded : E)
    (fn : Run σ ε (Option E))
    (w : World σ ε) :
    (deadline false exceeded fn).run w = fn.run w :=
  rfl

end Kit
