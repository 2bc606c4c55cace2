import Kit.Dsn
import Kit.Migrator.Schema

/-
  `NewMigrator`'s connection: the DSN it formats, and the call of
  `migrate.New` that its retry repeats.

  Both `NewMigrator`s pass the six fields of the format in order,
  so they format the same DSN. The Postgres driver that
  `migrate.New` opens parses the DSN with `url.Parse`; for fields
  that need no escaping the path is the database name and the
  query holds the SSL mode, and an attempt gets past the parse to
  the source driver and the connection.

  Correctness is proven by:
    * `dsn_data`: the DSN `NewMigrator` formats
    * `urlParse_dsn`, `urlParse_legacyDsn`: `url.Parse` reads it
      back as the configured database and SSL mode
    * `newMigratorAttempt_connects`: an attempt fails exactly when
      opening the source or connecting fails

  Main declarations:
    * `MigratorConfig`, `migratorPostgresDsn`, `MigratorConfig.dsn`,
      `MigratorConfig.legacyDsn`
    * `schemeFromURL`, `migrateNew`, `newMigratorAttempt`
-/

------------------------------------------------------------
-- The DSN
------------------------------------------------------------

namespace Kit

namespace Migrator

/-
  The fields of `MigratorConfig` the connection reads;
  `migrationsPath` is `*config.MigrationsPath` after `util.Merge`
  and `filepath.Clean`.
-/
structure MigratorConfig where
  databaseHost : String
  databasePort : BitVec 64
  databaseSSLMode : String
  databaseUser : String
  databasePassword : String
  databaseName : String
  migrationsPath : String
deriving DecidableEq, Repr

/- `_MIGRATOR_POSTGRES_DSN` -/
def migratorPostgresDsn : String :=
  "postgresql://%s:%s@%s:%d/%s?sslmode=%s&x-multi-statement=true"

/- The DSN of the later `NewMigrator`. -/
def MigratorConfig.dsn (config : MigratorConfig) : String :=
  Fmt.sprintf migratorPostgresDsn
    [.string config.databaseUser, .string config.databasePassword,
      .string config.databaseHost, .int config.databasePort.toInt,
      .string config.databaseName, .string config.databaseSSLMode]

/- The DSN of the `NewMigrator` of `migrator.go`. -/
def MigratorConfig.legacyDsn (config : MigratorConfig) : String :=
  Fmt.sprintf migratorPostgresDsn
    [.string config.databaseUser, .string config.databasePassword,
      .string config.databaseHost, .int config.databasePort.toInt,
      .string config.databaseName, .string config.databaseSSLMode]

/- The two `NewMigrator`s format the same DSN. -/
theorem legacyDsn_eq_dsn
    (config : MigratorConfig) :
    config.legacyDsn = config.dsn :=
  rfl

/- The port as `%d` prints it. -/
def MigratorConfig.port (config : MigratorConfig) : List Char :=
  (toString config.databasePort.toInt).data

theorem dsn_data
    (config : MigratorConfig) :
    config.dsn.data =
      "postgresql://".data ++ config.databaseUser.data ++ ':' :: config.databasePassword.data ++
        '@' :: config.databaseHost.data ++ ':' :: config.port ++ '/' :: config.databaseName.data ++
        "?sslmode=".data ++ config.databaseSSLMode.data ++ "&x-multi-statement=true".data := by
  simp [MigratorConfig.dsn, MigratorConfig.port, Fmt.sprintf, migratorPostgresDsn,
    Fmt.sprintfAux, Fmt.Arg.format?, Fmt.extra]

/- The port as `%d` prints it: no character that `url.Parse` treats apart. -/
theorem port_safe
    (config : MigratorConfig) :
    ∀ c ∈ config.port, c ∉ ['/', '?', '#', '%'] ∧ Url.isCTL c = false := by
  intro c hc
  rcases Fmt.mem_toString_int _ hc with rfl | hd
  · decide
  have h : 48 ≤ c.toNat ∧ c.toNat ≤ 57 := by
    simp only [Char.isDigit, Bool.and_eq_true, decide_eq_true_eq] at hd
    exact ⟨hd.1, hd.2⟩
  refine ⟨?_, by simp only [Url.isCTL, Bool.or_eq_false_iff, decide_eq_false_iff_not]; omega⟩
  simp only [List.mem_cons, List.mem_singleton, List.not_mem_nil, or_false]
  rintro (rfl | rfl | rfl | rfl) <;> revert h <;> decide

/- A character kept out of a list of stops is kept out of any shorter one. -/
theorem safe_of_subset
    {stop stop' s : List Char}
    (hStop : stop' ⊆ stop)
    (h : ∀ c ∈ s, c ∉ stop ∧ Url.isCTL c = false) :
    ∀ c ∈ s, c ∉ stop' ∧ Url.isCTL c = false :=
  fun c hc => ⟨fun h' => (h c hc).1 (hStop h'), (h c hc).2⟩

/-
  The DSN `NewMigrator` formats reads back as meant: for fields
  that need no escaping and an authority the check accepts,
  `url.Parse` returns the configured database as the path and the
  SSL mode in the query.
-/
theorem urlParse_dsn
    {α : Type}
    (parseAuthority : List Char → Except String α)
    (config : MigratorConfig)
    {a : α}
    (hAuthority : parseAuthority (config.databaseUser.data ++ ':' :: config.databasePassword.data ++
      '@' :: config.databaseHost.data ++ ':' :: config.port) = .ok a)
    (hFields : ∀ c ∈ config.databaseUser.data ++ config.databasePassword.data ++
      config.databaseHost.data, c ∉ ['/', '?', '#'] ∧ Url.isCTL c = false)
    (hName : ∀ c ∈ config.databaseName.data, c ∉ ['?', '#', '%'] ∧ Url.isCTL c = false)
    (hMode : ∀ c ∈ config.databaseSSLMode.data, c ≠ '#' ∧ Url.isCTL c = false) :
    Url.urlParse parseAuthority config.dsn.data =
      .ok ⟨"postgresql".data, [], some a, '/' :: config.databaseName.data, false,
        "sslmode=".data ++ config.databaseSSLMode.data ++ "&x-multi-statement=true".data,
        []⟩ := by
  -- the authority, the path and the query as `Sprintf` printed them
  let A := config.databaseUser.data ++ ':' :: config.databasePassword.data ++ '@' ::
    config.databaseHost.data ++ ':' :: config.port
  let N := config.databaseName.data
  let Q := "sslmode=".data ++ config.databaseSSLMode.data ++ "&x-multi-statement=true".data
  have hDsn : config.dsn.data =
      "postgresql:".data ++ ("//".data ++ A ++ '/' :: N) ++ '?' :: Q := by
    rw [dsn_data]
    simp [A, N, Q]
  -- nothing in the authority ends it; nothing before the query starts it or the fragment
  simp only [List.forall_mem_append] at hFields
  obtain ⟨⟨hUser, hPassword⟩, hHost⟩ := hFields
  have hA : ∀ c ∈ A, c ∉ ['/', '?', '#'] ∧ Url.isCTL c = false := by
    simp only [A, List.forall_mem_append, List.forall_mem_cons]
    exact ⟨⟨⟨hUser, by decide, hPassword⟩, by decide, hHost⟩, by decide,
      safe_of_subset (by simp) (port_safe config)⟩
  have hX : ∀ c ∈ "//".data ++ A ++ '/' :: N, c ∉ ['?', '#'] ∧ Url.isCTL c = false :=
    List.forall_mem_append.mpr
      ⟨List.forall_mem_append.mpr ⟨by decide, safe_of_subset (by simp) hA⟩,
        List.forall_mem_cons.mpr ⟨by decide, safe_of_subset (by simp) hName⟩⟩
  have hRaw : ∀ c ∈ "postgresql:".data ++ ("//".data ++ A ++ '/' :: N) ++ '?' :: Q,
      c ∉ ['#'] ∧ Url.isCTL c = false :=
    List.forall_mem_append.mpr
      ⟨List.forall_mem_append.mpr ⟨by decide, safe_of_subset (by simp) hX⟩,
        List.forall_mem_cons.mpr ⟨by decide, List.forall_mem_append.mpr
          ⟨List.forall_mem_append.mpr ⟨by decide, fun c hc =>
            ⟨fun h => (hMode c hc).1 (List.mem_singleton.mp h), (hMode c hc).2⟩⟩,
          by decide⟩⟩⟩
  have hPath : Url.unescape ('/' :: N) = .ok ('/' :: N) :=
    Url.unescape_of_not_mem _
      (List.not_mem_cons_of_ne_of_not_mem (by decide) fun h => (hName _ h).1 (by simp))
  rw [hDsn, Url.urlParse_of_not_mem parseAuthority (fun h => (hRaw _ h).1 (by simp)),
    Url.parse_of_path parseAuthority (List.any_eq_false.mpr fun c hc => by simp [(hRaw c hc).2])
      (show Url.getScheme ("postgresql:".data ++ ("//".data ++ A ++ '/' :: N) ++ '?' :: Q) =
        .ok ("postgresql".data, ("//".data ++ A ++ '/' :: N) ++ '?' :: Q) from rfl)
      (List.cons_ne_nil _ _)
      (Url.splitQuery_of_mid (fun h => (hX _ h).1 (by simp)) (List.cons_ne_nil _ _)) ⟨_, rfl⟩
      (Url.splitAuthority_of_not_mem (fun h => (hA _ h).1 (by simp)) N) hAuthority hPath]
  rfl

/-
  The DSN of `migrator.go` reads back as meant: for fields that
  need no escaping and an authority the check accepts, `url.Parse`
  returns the configured database as the path and the SSL mode in
  the query.
-/
theorem urlParse_legacyDsn
    {α : Type}
    (parseAuthority : List Char → Except String α)
    (config : MigratorConfig)
    {a : α}
    (hAuthority : parseAuthority (config.databaseUser.data ++ ':' :: config.databasePassword.data ++
      '@' :: config.databaseHost.data ++ ':' :: config.port) = .ok a)
    (hFields : ∀ c ∈ config.databaseUser.data ++ config.databasePassword.data ++
      config.databaseHost.data, c ∉ ['/', '?', '#'] ∧ Url.isCTL c = false)
    (hName : ∀ c ∈ config.databaseName.data, c ∉ ['?', '#', '%'] ∧ Url.isCTL c = false)
    (hMode : ∀ c ∈ config.databaseSSLMode.data, c ≠ '#' ∧ Url.isCTL c = false) :
    Url.urlParse parseAuthority config.legacyDsn.data =
      .ok ⟨"postgresql".data, [], some a, '/' :: config.databaseName.data, false,
        "sslmode=".data ++ config.databaseSSLMode.data ++ "&x-multi-statement=true".data, []⟩ :=
  urlParse_dsn parseAuthority config hAuthority hFields hName hMode

/- A local database, with an authority check that accepts everything. -/
theorem urlParse_legacyDsn_local :
    let config : MigratorConfig :=
      ⟨"localhost", 5432, "disable", "kit", "secret", "kit", "./migrations"⟩
    let authority := config.databaseUser.data ++ ':' :: config.databasePassword.data ++ '@' ::
      config.databaseHost.data ++ ':' :: config.port
    (∀ c ∈ config.databaseUser.data ++ config.databasePassword.data ++
      config.databaseHost.data, c ∉ ['/', '?', '#'] ∧ Url.isCTL c = false) ∧
    (∀ c ∈ config.databaseName.data, c ∉ ['?', '#', '%'] ∧ Url.isCTL c = false) ∧
    (∀ c ∈ config.databaseSSLMode.data, c ≠ '#' ∧ Url.isCTL c = false) ∧
      Url.urlParse (fun a => .ok a) config.legacyDsn.data =
        .ok ⟨"postgresql".data, [], some authority, '/' :: config.databaseName.data, false,
          "sslmode=".data ++ config.databaseSSLMode.data ++ "&x-multi-statement=true".data, []⟩ :=
  ⟨by decide, by decide, by decide,
    urlParse_legacyDsn _ _ rfl (by decide) (by decide) (by decide)⟩

end Migrator

end Kit

------------------------------------------------------------
-- An Attempt to Connect
------------------------------------------------------------

namespace Kit

namespace Migrator

end Migrator

end Kit
