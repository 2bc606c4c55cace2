import Kit.Regexp

/-
  The body limits `NewServer` installs in front of the router.

  `NewServer` registers two `Pre` middlewares of echo's
  `BodyLimitWithConfig`, which run in the order they are
  registered. Each one that does not skip the request refuses it
  with a 413 when its declared `Content-Length` is above the limit,
  and otherwise wraps its body in a reader that fails with a 413
  once more than the limit is read. A body of unknown length, as a
  chunked one, always reaches the handler, behind the reader. The
  first limit is `RequestBodyMaxSize`, skipped when the file-path
  pattern matches the request's `RequestURI`; the second is
  `RequestFileMaxSize`. The URI is the request target as the client
  sent it, query string included, and `MatchString` looks for the
  pattern anywhere in it.

  Correctness is proven by:
    * `serveHTTP_bodyLimits`: a chain of body limits acts as the
      least limit of those that do not skip the request
    * `chainLimit_newServer`: for `NewServer`'s two, that is
      `bodyLimit`
    * `serveHTTP_newServer`: the chain `NewServer` builds
    * `matchString_default_iff`: the default pattern matches the
      URIs in which `/file` occurs

  Main declarations:
    * `Request`, `Context`, `bodyLimitWithConfig`, `chainLimit`
    * `ServerConfig`, `newServer`, `Server.serveHTTP`, `Server.use`,
      `bodyLimit`
-/

------------------------------------------------------------
-- Requests and Body Limits
------------------------------------------------------------

namespace Kit

namespace Server

/-
  An HTTP request as the body limits see it: its path and query
  as sent, and the number of bytes its body holds.
-/
structure Request where
  path : String
  rawQuery : Option String
  bodySize : Nat
deriving DecidableEq, Repr

/- `Request.RequestURI`: the target of the request line, `?` and query included. -/
def Request.requestURI (req : Request) : String :=
  match req.rawQuery with
  | some q => req.path ++ "?" ++ q
  | none => req.path

/-
  What a handler of the chain is given: the request, the
  `ContentLength` its client declared, `-1` when unknown as for a
  chunked body, and the limit of the readers around its body,
  `none` while no body limit has wrapped it.
-/
structure Context where
  request : Request
  contentLength : Int
  readLimit : Option Nat
deriving DecidableEq, Repr

/-
  `req.Body = r` for a `limitedReader` of `limit` bytes around the
  body: reading through nested readers fails at the least limit.
-/
def Context.limitRead
    (ctx : Context)
    (limit : Nat) : Context :=
  { ctx with readLimit := some (ctx.readLimit.elim limit (min · limit)) }

@[simp]
theorem Context.limitRead_request
    (ctx : Context)
    (limit : Nat) :
    (ctx.limitRead limit).request = ctx.request :=
  rfl

@[simp]
theorem Context.limitRead_contentLength
    (ctx : Context)
    (limit : Nat) :
    (ctx.limitRead limit).contentLength = ctx.contentLength :=
  rfl

theorem Context.limitRead_limitRead
    (ctx : Context)
    (a b : Nat) :
    (ctx.limitRead a).limitRead b = ctx.limitRead (min a b) := by
  cases h : ctx.readLimit <;> simp only [Context.limitRead, h, Option.elim, min_assoc]

/- `echo.HTTPError`, by its status code. -/
structure HTTPError where
  code : Nat
deriving DecidableEq, Repr

/- `echo.ErrStatusRequestEntityTooLarge` -/
def errStatusRequestEntityTooLarge : HTTPError :=
  ⟨413⟩

/- Reading the whole body: its size, or the 413 error once more than the limit is read. -/
def Context.readBody (ctx : Context) : Except HTTPError Nat :=
  match ctx.readLimit with
  | some limit =>
      if limit < ctx.request.bodySize then .error errStatusRequestEntityTooLarge
      else .ok ctx.request.bodySize
  | none => .ok ctx.request.bodySize

/- `echo.HandlerFunc`: the error it returns, `none` for `nil`. -/
abbrev HandlerFunc := Context → Option HTTPError

/- `echo.MiddlewareFunc` -/
abbrev MiddlewareFunc := HandlerFunc → HandlerFunc

/-
  `middleware.BodyLimitConfig`, with the limit in bytes.
  `NewServer` gives the limit as `util.ByteSize(n)`, a string echo
  parses back with `bytes.Parse`; that round trip is taken to give
  `n` back exactly.
-/
structure BodyLimitConfig where
  skipper : Request → Bool
  limit : Nat

/- `middleware.DefaultSkipper`, which a config without a `Skipper` gets. -/
def defaultSkipper : Request → Bool :=
  fun _ => false

/-
  echo's `BodyLimitWithConfig`: a skipped request goes on; any
  other whose `ContentLength` is above the limit gets a 413, and
  the rest go on with their body behind a reader of the limit.
-/
def bodyLimitWithConfig
    (config : BodyLimitConfig) : MiddlewareFunc :=
  fun next ctx =>
    if config.skipper ctx.request then next ctx
    else if (config.limit : Int) < ctx.contentLength then some errStatusRequestEntityTooLarge
    else next (ctx.limitRead config.limit)

end Server

end Kit

------------------------------------------------------------
-- NewServer
------------------------------------------------------------

namespace Kit

namespace Server

/- `_SERVER_DEFAULT_REQUEST_BODY_MAX_SIZE`: 4 KB -/
def serverDefaultRequestBodyMaxSize : Nat :=
  4 <<< 10

/- `_SERVER_DEFAULT_REQUEST_FILE_MAX_SIZE`: 2 MB -/
def serverDefaultRequestFileMaxSize : Nat :=
  2 <<< 20

/- `_SERVER_DEFAULT_REQUEST_FILE_PATH_PATTERN`, `.*/file.*`, as `regexp` parses it. -/
def serverDefaultRequestFilePathPattern : Regexp :=
  .concat (.star .anyCharNotNL)
    (.concat (.literal "/file".data) (.star .anyCharNotNL))

/-
  The fields of `ServerConfig` the body limits read, `none` for a
  nil pointer; the pattern is given parsed.
-/
structure ServerConfig where
  requestBodyMaxSize : Option Nat
  requestFileMaxSize : Option Nat
  requestFilePathPattern : Option Regexp
deriving DecidableEq, Repr

/- `*config.RequestBodyMaxSize`, once `NewServer` has set a nil one to the default. -/
def ServerConfig.bodyMaxSize (config : ServerConfig) : Nat :=
  config.requestBodyMaxSize.getD serverDefaultRequestBodyMaxSize

/- `*config.RequestFileMaxSize`, likewise. -/
def ServerConfig.fileMaxSize (config : ServerConfig) : Nat :=
  config.requestFileMaxSize.getD serverDefaultRequestFileMaxSize

/- `regexp.MustCompile(*config.RequestFilePathPattern)`, likewise. -/
def ServerConfig.filePathPattern (config : ServerConfig) : Regexp :=
  config.requestFilePathPattern.getD serverDefaultRequestFilePathPattern

end Server

/-
  The echo server `NewServer` builds, as far as its `Pre`
  middlewares go, in registration order. The third, which sets
  `RemoteAddr` from `RealIP()`, touches nothing the body limits
  read and is left out.
-/
structure Server where
  premiddleware : List Server.MiddlewareFunc

namespace Server

/- The configurations of `NewServer`'s two body limits. -/
def bodyLimitConfigs (config : ServerConfig) : List BodyLimitConfig :=
  [{ skipper := fun req => config.filePathPattern.matchString req.requestURI
     limit := config.bodyMaxSize },
    { skipper := defaultSkipper
      limit := config.fileMaxSize }]

/- The two body limits of `NewServer`. -/
def newServer (config : ServerConfig) : Server where
  premiddleware := (bodyLimitConfigs config).map bodyLimitWithConfig

/- echo's `ServeHTTP`: the `Pre` middlewares wrap the router, the first registered outermost. -/
def serveHTTP
    (self : Server)
    (router : HandlerFunc) : HandlerFunc :=
  self.premiddleware.foldr (fun m h => m h) router

/- `Server.Use`: `server.Pre(middleware...)`, after the middlewares already registered. -/
def use
    (self : Server)
    (middleware : List MiddlewareFunc) : Server where
  premiddleware := self.premiddleware ++ middleware

/- What `Use` adds runs inside what was registered before it, around the router. -/
theorem serveHTTP_use
    (self : Server)
    (middleware : List MiddlewareFunc)
    (router : HandlerFunc) :
    (self.use middleware).serveHTTP router =
      self.serveHTTP (Server.serveHTTP ⟨middleware⟩ router) := by
  simp only [use, serveHTTP, List.foldr_append]

/-
  The limit a chain of body limits puts on a request: the least
  limit of those that do not skip it, `none` when all of them do.
-/
def chainLimit
    (configs : List BodyLimitConfig)
    (req : Request) : Option Nat :=
  configs.foldr (fun c acc => if c.skipper req then acc else some (acc.elim c.limit (min c.limit)))
    none

/-
  A chain of body limits acts as one, of its `chainLimit`: a
  declared `Content-Length` above it is refused before the router
  runs, and any other request reaches the router with its body
  behind a reader of that limit.
-/
theorem serveHTTP_bodyLimits
    (configs : List BodyLimitConfig)
    (router : HandlerFunc)
    (ctx : Context) :
    Server.serveHTTP ⟨configs.map bodyLimitWithConfig⟩ router ctx =
      match chainLimit configs ctx.request with
      | some limit =>
          if (limit : Int) < ctx.contentLength then some errStatusRequestEntityTooLarge
          else router (ctx.limitRead limit)
      | none => router ctx := by
  induction configs generalizing ctx with
  | nil => rfl
  | cons c cs ih =>
      have hStep : Server.serveHTTP ⟨(c :: cs).map bodyLimitWithConfig⟩ router ctx =
          bodyLimitWithConfig c (Server.serveHTTP ⟨cs.map bodyLimitWithConfig⟩ router) ctx :=
        rfl
      rw [hStep, bodyLimitWithConfig]
      by_cases hSkip : c.skipper ctx.request
      · simp only [hSkip, if_true, chainLimit, List.foldr] at ih ⊢
        exact ih ctx
      · simp only [hSkip, Bool.false_eq_true, if_false, chainLimit, List.foldr]
        rw [ih, Context.limitRead_request, Context.limitRead_contentLength, chainLimit]
        cases cs.foldr (fun c acc => if c.skipper ctx.request then acc
          else some (acc.elim c.limit (min c.limit))) none with
        | none => rfl
        | some l =>
            simp only [Option.elim, Context.limitRead_limitRead]
            split_ifs <;> first | rfl | omega

/-
  The largest body that passes both limits: the file limit when
  the pattern matches the URI, the smaller of the two otherwise.
-/
def bodyLimit
    (config : ServerConfig)
    (req : Request) : Nat :=
  if config.filePathPattern.matchString req.requestURI then config.fileMaxSize
  else min config.bodyMaxSize config.fileMaxSize

/-
  `NewServer`'s two limits, the first skipped by the file-path
  pattern, put `bodyLimit` on a request.
-/
theorem chainLimit_newServer
    (config : ServerConfig)
    (req : Request) :
    chainLimit (bodyLimitConfigs config) req = some (bodyLimit config req) := by
  simp only [chainLimit, bodyLimitConfigs, bodyLimit, List.foldr, defaultSkipper,
    Bool.false_eq_true, if_false, Option.elim]
  split_ifs <;> rfl

/-
  The chain `NewServer` builds: a request whose declared
  `Content-Length` is above `bodyLimit` is refused with a 413
  before the router runs; any other, a chunked one included,
  reaches the router with its body behind a reader of `bodyLimit`
  bytes.
-/
theorem serveHTTP_newServer
    (config : ServerConfig)
    (router : HandlerFunc)
    (ctx : Context) :
    (newServer config).serveHTTP router ctx =
      if (bodyLimit config ctx.request : Int) < ctx.contentLength then
        some errStatusRequestEntityTooLarge
      else router (ctx.limitRead (bodyLimit config ctx.request)) := by
  rw [newServer, serveHTTP_bodyLimits, chainLimit_newServer]

/- A chunked upload of 5 MB to `/file` reaches the router, whose read of it fails. -/
example :
    (newServer ⟨none, none, none⟩).serveHTTP
      (fun ctx => match ctx.readBody with
        | .error e => some e
        | .ok _ => none)
      ⟨⟨"/file", none, 5 <<< 20⟩, -1, none⟩ = some errStatusRequestEntityTooLarge := by
  decide

end Server

end Kit

------------------------------------------------------------
-- The Default Pattern
------------------------------------------------------------

namespace Kit

namespace Server

/- `.*/file.*` matches, somewhere in a string, exactly when `/file` occurs in it. -/
theorem matchString_default_iff
    (s : String) :
    serverDefaultRequestFilePathPattern.matchString s = true ↔
      "/file".data <:+: s.data := by
  rw [Regexp.matchString_iff]
  constructor
  · rintro ⟨p, hp, hMem⟩
    simp only [serverDefaultRequestFilePathPattern, Regexp.mem_lang_concat,
      Regexp.mem_lang_literal] at hMem
    obtain ⟨x, -, _, ⟨_, rfl, y, -, rfl⟩, rfl⟩ := hMem
    exact (List.infix_append' x _ y).trans hp
  · intro h
    refine ⟨_, h, ?_⟩
    simp only [serverDefaultRequestFilePathPattern, Regexp.mem_lang_concat,
      Regexp.mem_lang_literal]
    exact ⟨[], Language.nil_mem_kstar _, _, ⟨_, rfl, [], Language.nil_mem_kstar _,
      List.append_nil _⟩, List.nil_append _⟩

/-
  Under the default configuration two requests for one path get
  different limits exactly when `/file` occurs in one URI and not
  in the other, wherever it occurs: the query decides as much as
  the path.
-/
theorem bodyLimit_query_dependent
    (path : String)
    (q₁ q₂ : Option String)
    (size : Nat) :
    let config : ServerConfig := ⟨none, none, none⟩
    bodyLimit config ⟨path, q₁, size⟩ ≠ bodyLimit config ⟨path, q₂, size⟩ ↔
      ¬("/file".data <:+: (Request.requestURI ⟨path, q₁, size⟩).data ↔
        "/file".data <:+: (Request.requestURI ⟨path, q₂, size⟩).data) := by
  simp only [bodyLimit, ServerConfig.filePathPattern, ServerConfig.fileMaxSize,
    ServerConfig.bodyMaxSize, Option.getD_none, matchString_default_iff]
  by_cases h₁ : "/file".data <:+: (Request.requestURI ⟨path, q₁, size⟩).data <;>
    by_cases h₂ : "/file".data <:+: (Request.requestURI ⟨path, q₂, size⟩).data <;>
    simp [h₁, h₂, serverDefaultRequestBodyMaxSize, serverDefaultRequestFileMaxSize]

/- `/users` against `/users?x=/file`: 4 KB against 2 MB. -/
example :
    bodyLimit ⟨none, none, none⟩ ⟨"/users", none, 0⟩ = 4096 ∧
      bodyLimit ⟨none, none, none⟩ ⟨"/users", some "x=/file", 0⟩ = 2097152 := by
  decide

end Server

end Kit
