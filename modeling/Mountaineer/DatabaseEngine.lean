import Mountaineer.PyDict

/-! `mountaineer.database.dependencies.core`: the process-wide cache `GLOBAL_ENGINE` of engines
by connection string, filled by `engine_from_config` and emptied by `unregister_global_engine`.
The state also records each engine `create_async_engine` has made and each engine disposed, so
that what happens to every engine over a sequence of completed calls can be stated: each call
runs to its end before the next starts, so the awaits of `unregister_global_engine`'s loop
are one step and no call runs between them. -/
namespace Mountaineer.Database

/-- `PoolType`, as far as `engine_from_config` tells its values apart. -/
inductive PoolType where
  | null
  | fixed
  deriving DecidableEq, Repr

/-- The pool class an engine is created with. -/
inductive PoolClass where
  | nullPool
  | asyncAdaptedQueuePool
  deriving DecidableEq, Repr

/-- What `engine_from_config` reads of a `DatabaseConfig`: `str(SQLALCHEMY_DATABASE_URI)`, or
`none` for `None`; `DATABASE_POOL_TYPE`; and the text `str(config)` gives. -/
structure DatabaseConfig where
  sqlalchemyDatabaseUri : Option String
  databasePoolType : PoolType
  repr : String
  deriving DecidableEq, Repr

/-- An engine; `id` tells apart the objects `create_async_engine` returns. -/
structure AsyncEngine where
  id : Nat
  url : String
  poolclass : PoolClass
  deriving DecidableEq, Repr

/-- `GLOBAL_ENGINE`, with every engine created so far and the ids of those disposed. -/
structure EngineState where
  globalEngine : List (String × AsyncEngine)
  created : List AsyncEngine
  disposed : List Nat
  deriving DecidableEq, Repr

/-- The process at import: no engine. -/
def EngineState.initial : EngineState := ⟨[], [], []⟩

/-- What `engine_from_config` raises: the `RuntimeError` of a missing URI, and the `KeyError`
of the final lookup, which the assignment before it rules out. -/
inductive EngineError where
  | runtimeError (msg : String)
  | keyError (key : String)
  deriving DecidableEq, Repr

/-- `create_async_engine(url, poolclass=poolclass)`: a new engine object. -/
def createAsyncEngine (url : String) (poolclass : PoolClass) (s : EngineState) :
    AsyncEngine × EngineState :=
  let engine : AsyncEngine := ⟨s.created.length, url, poolclass⟩
  (engine, { s with created := s.created ++ [engine] })

/-- The pool class `engine_from_config` picks for a configuration. -/
def poolclassOf (config : DatabaseConfig) : PoolClass :=
  if config.databasePoolType = .null then .nullPool else .asyncAdaptedQueuePool

/-- `engine_from_config(config, force_new)`. -/
def engineFromConfig (config : DatabaseConfig) (forceNew : Bool) (s : EngineState) :
    Except EngineError (AsyncEngine × EngineState) :=
  match config.sqlalchemyDatabaseUri with
  | none | some "" => .error (.runtimeError ("No SQLALCHEMY_DATABASE_URI set: " ++ config.repr))
  | some uri =>
    let s := if forceNew || !(s.globalEngine.map Prod.fst).contains uri then
        let (engine, s) := createAsyncEngine uri (poolclassOf config) s
        { s with globalEngine := assocSet uri engine s.globalEngine }
      else s
    match s.globalEngine.lookup uri with
    | some engine => .ok (engine, s)
    | none => .error (.keyError uri)

/-- `unregister_global_engine()` run to its end: every engine of `GLOBAL_ENGINE` disposed, then
the cache emptied. -/
def unregisterGlobalEngine (s : EngineState) : EngineState :=
  { s with disposed := s.disposed ++ s.globalEngine.map (·.2.id), globalEngine := [] }

/-- A call of the module's lifecycle functions. -/
inductive Call where
  | engineFromConfig (config : DatabaseConfig) (forceNew : Bool)
  | unregisterGlobalEngine
  deriving DecidableEq, Repr

/-- The call passes `force_new=True`. -/
def Call.forced : Call → Bool
  | .engineFromConfig _ forceNew => forceNew
  | .unregisterGlobalEngine => false

/-- The state after one call; a call that raises changes nothing. -/
def step (s : EngineState) : Call → EngineState
  | .engineFromConfig config forceNew =>
    match engineFromConfig config forceNew s with
    | .ok (_, s') => s'
    | .error _ => s
  | .unregisterGlobalEngine => unregisterGlobalEngine s

/-- The state after a sequence of completed calls, each run to its end before the next. -/
def run (s : EngineState) (calls : List Call) : EngineState := calls.foldl step s

@[simp] theorem run_nil (s : EngineState) : run s [] = s := rfl

@[simp] theorem run_cons (s : EngineState) (c : Call) (calls : List Call) :
    run s (c :: calls) = run (step s c) calls := rfl

/-- Every engine created is a value of `GLOBAL_ENGINE` or has been disposed. -/
def Accounted (s : EngineState) : Prop :=
  ∀ e ∈ s.created, e ∈ s.globalEngine.map Prod.snd ∨ e.id ∈ s.disposed

/-- The configuration of one connection string. -/
def appConfig : DatabaseConfig := ⟨some "postgresql+asyncpg://app", .fixed, "app"⟩

/-- `engine_from_config(config)`, then `engine_from_config(config, force_new=True)`, then
`unregister_global_engine()`: the first engine is replaced without being disposed, and the
shutdown disposes only of the second. -/
theorem forced_engine_never_disposed :
    (run .initial [.engineFromConfig appConfig false, .engineFromConfig appConfig true,
        .unregisterGlobalEngine]).created =
      [⟨0, "postgresql+asyncpg://app", .asyncAdaptedQueuePool⟩,
        ⟨1, "postgresql+asyncpg://app", .asyncAdaptedQueuePool⟩] ∧
    (run .initial [.engineFromConfig appConfig false, .engineFromConfig appConfig true,
        .unregisterGlobalEngine]).disposed = [1] := by
  decide

/-- The engine `create_async_engine` makes next for `uri`. -/
def nextEngine (s : EngineState) (uri : String) (poolclass : PoolClass) : AsyncEngine :=
  ⟨s.created.length, uri, poolclass⟩

/-- What a call of `engine_from_config` that returns can do: return the engine cached for a
URI, changing nothing, when `force_new` is false and the cache holds the URI; otherwise create
an engine, cache it under the URI and return it. -/
theorem engineFromConfig_ok {config : DatabaseConfig} {forceNew : Bool} {s s' : EngineState}
    {e : AsyncEngine} (h : engineFromConfig config forceNew s = .ok (e, s')) :
    ∃ uri, config.sqlalchemyDatabaseUri = some uri ∧
      ((forceNew = false ∧ s.globalEngine.lookup uri = some e ∧ s' = s) ∨
        ((forceNew = true ∨ uri ∉ s.globalEngine.map Prod.fst) ∧
          e = nextEngine s uri (poolclassOf config) ∧
          s' = ⟨assocSet uri (nextEngine s uri (poolclassOf config)) s.globalEngine,
            s.created ++ [nextEngine s uri (poolclassOf config)], s.disposed⟩)) := by
  unfold engineFromConfig at h
  split at h
  · cases h
  · cases h
  · rename_i uri _ _
    refine ⟨uri, ‹_›, ?_⟩
    by_cases hc : (forceNew || !(s.globalEngine.map Prod.fst).contains uri) = true
    · simp only [hc, if_true, createAsyncEngine, lookup_assocSet_self] at h
      cases h
      refine .inr ⟨?_, rfl, rfl⟩
      cases forceNew <;> simp_all
    · simp only [hc, if_false] at h
      split at h
      · rename_i hl
        cases h
        simp only [Bool.or_eq_true, Bool.not_eq_true', not_or, Bool.not_eq_false] at hc
        exact .inl ⟨by simpa using hc.1, hl, rfl⟩
      · cases h

/-- What one call can do: change nothing; create an engine and cache it under a URI, where
`force_new` was passed or the cache did not hold the URI; or dispose of every cached engine. -/
theorem step_cases (s : EngineState) (c : Call) :
    step s c = s ∨
      (∃ config uri, c = .engineFromConfig config c.forced ∧
        config.sqlalchemyDatabaseUri = some uri ∧
        (c.forced = true ∨ uri ∉ s.globalEngine.map Prod.fst) ∧
        step s c = ⟨assocSet uri (nextEngine s uri (poolclassOf config)) s.globalEngine,
          s.created ++ [nextEngine s uri (poolclassOf config)], s.disposed⟩) ∨
      (c = .unregisterGlobalEngine ∧ step s c = unregisterGlobalEngine s) := by
  cases c with
  | unregisterGlobalEngine => exact .inr (.inr ⟨rfl, rfl⟩)
  | engineFromConfig config forceNew =>
    cases h : engineFromConfig config forceNew s with
    | error => exact .inl (by simp [step, h])
    | ok r =>
      obtain ⟨e, s'⟩ := r
      obtain ⟨uri, huri, ⟨-, -, rfl⟩ | ⟨hf, -, rfl⟩⟩ := engineFromConfig_ok h
      · exact .inl (by simp [step, h])
      · exact .inr (.inl ⟨config, uri, rfl, huri, hf, by simp [step, h]⟩)


theorem run_append (s : EngineState) (calls calls' : List Call) :
    run s (calls ++ calls') = run (run s calls) calls' :=
  List.foldl_append _ _ _ _

/-- `unregister_global_engine` disposes of every cached engine, so every engine accounted for
before it is disposed after it. -/
theorem disposed_of_unregister {s : EngineState} (hs : Accounted s) :
    ∀ e ∈ (unregisterGlobalEngine s).created, e.id ∈ (unregisterGlobalEngine s).disposed := by
  intro e he
  simp only [unregisterGlobalEngine, List.mem_append, List.mem_map] at he ⊢
  rcases hs e he with h | h
  · obtain ⟨p, hp, rfl⟩ := List.mem_map.1 h
    exact .inr ⟨p, hp, rfl⟩
  · exact .inl h

/-- A call without `force_new` keeps every engine accounted for: it creates an engine only for
a URI the cache does not hold, so it replaces none. -/
theorem accounted_step {s : EngineState} (hs : Accounted s) {c : Call} (hc : c.forced = false) :
    Accounted (step s c) := by
  rcases step_cases s c with h | ⟨config, uri, -, -, hf, h⟩ | ⟨-, h⟩ <;> rw [h]
  · exact hs
  · have hk : uri ∉ s.globalEngine.map Prod.fst := hf.resolve_left (by simp [hc])
    rw [Accounted, assocSet_of_not_mem _ hk]
    intro e he
    simp only [List.mem_append, List.mem_singleton] at he
    rcases he with he | rfl
    · exact (hs e he).imp_left fun h => by simp only [List.map_append]; exact List.mem_append_left _ h
    · exact .inl (by simp)
  · intro e he
    exact .inr (disposed_of_unregister hs e he)

theorem accounted_run {s : EngineState} (hs : Accounted s) {calls : List Call}
    (hc : ∀ c ∈ calls, c.forced = false) : Accounted (run s calls) := by
  induction calls generalizing s with
  | nil => exact hs
  | cons c calls ih =>
    rw [List.forall_mem_cons] at hc
    exact ih (accounted_step hs hc.1) hc.2

/-- Along every sequence of completed calls none of which passes `force_new=True`, every engine
created is at every point a value of `GLOBAL_ENGINE` or disposed, and `unregister_global_engine`
then leaves every engine created before it disposed. -/
theorem unforced_calls_dispose_every_engine (calls : List Call)
    (hc : ∀ c ∈ calls, c.forced = false) :
    (∀ n, Accounted (run .initial (calls.take n))) ∧
      ∀ e ∈ (run .initial (calls ++ [.unregisterGlobalEngine])).created,
        e.id ∈ (run .initial (calls ++ [.unregisterGlobalEngine])).disposed := by
  have h₀ : Accounted .initial := fun _ he => by cases he
  refine ⟨fun n => accounted_run h₀ fun c h => hc c (List.mem_of_mem_take h), ?_⟩
  rw [run_append]
  exact disposed_of_unregister (accounted_run h₀ hc)

theorem unforced_calls_dispose_every_engine_twice :
    (∀ c ∈ [Call.engineFromConfig appConfig false, .engineFromConfig appConfig false],
        c.forced = false) ∧
    (∀ n, Accounted (run .initial
        ([Call.engineFromConfig appConfig false, .engineFromConfig appConfig false].take n))) ∧
      ∀ e ∈ (run .initial ([Call.engineFromConfig appConfig false,
          .engineFromConfig appConfig false] ++ [.unregisterGlobalEngine])).created,
        e.id ∈ (run .initial ([Call.engineFromConfig appConfig false,
          .engineFromConfig appConfig false] ++ [.unregisterGlobalEngine])).disposed :=
  ⟨by decide, unforced_calls_dispose_every_engine _ (by decide)⟩


/-- What the completed calls so far leave: each cached engine was created for the URI it is
cached under, and each engine created carries the URI and the pool class of a configuration one
of the calls passed. -/
structure EnginesFrom (calls : List Call) (s : EngineState) : Prop where
  cached : ∀ uri e, s.globalEngine.lookup uri = some e → e.url = uri ∧ e ∈ s.created
  created : ∀ e ∈ s.created, ∃ config forceNew, Call.engineFromConfig config forceNew ∈ calls ∧
    config.sqlalchemyDatabaseUri = some e.url ∧ e.poolclass = poolclassOf config

/-- One more call keeps the invariant, the call joining the history. -/
theorem enginesFrom_step {calls : List Call} {s : EngineState} (hs : EnginesFrom calls s)
    (c : Call) : EnginesFrom (calls ++ [c]) (step s c) := by
  have hold : ∀ e ∈ s.created, ∃ config forceNew,
      Call.engineFromConfig config forceNew ∈ calls ++ [c] ∧
      config.sqlalchemyDatabaseUri = some e.url ∧ e.poolclass = poolclassOf config :=
    fun e he => (hs.created e he).imp fun _ =>
      Exists.imp fun _ h => ⟨List.mem_append_left _ h.1, h.2⟩
  rcases step_cases s c with h | ⟨config, uri, hc, huri, -, h⟩ | ⟨-, h⟩ <;> rw [h]
  · exact ⟨hs.cached, hold⟩
  · refine ⟨fun u e he => ?_, fun e he => ?_⟩
    · by_cases hu : u = uri
      · subst hu
        obtain rfl : nextEngine s u (poolclassOf config) = e := by simpa using he
        exact ⟨rfl, by simp⟩
      · rw [lookup_assocSet_of_ne hu] at he
        exact (hs.cached u e he).imp_right (List.mem_append_left _)
    · rcases List.mem_append.1 he with he | he
      · exact hold e he
      · rw [List.mem_singleton.1 he]
        exact ⟨config, c.forced, by rw [← hc]; simp, huri, rfl⟩
  · exact ⟨fun _ _ he => (by simp [unregisterGlobalEngine] at he), hold⟩

theorem enginesFrom_run (calls : List Call) : EnginesFrom calls (run .initial calls) := by
  induction calls using List.reverseRecOn with
  | nil => exact ⟨fun _ _ he => (by cases he), fun _ he => by cases he⟩
  | append_singleton calls c ih => rw [run_append]; exact enginesFrom_step ih c

/-- Over every sequence of completed calls, the engine `engine_from_config(config, force_new)`
returns was created by `create_async_engine` for the config's URI, with the pool class of the
config of this call or of an earlier one with the same URI. It has this config's own pool class when
`force_new` is passed or every earlier config with that URI has this config's pool type. -/
theorem engineFromConfig_returns_created_engine (calls : List Call) {config : DatabaseConfig}
    {forceNew : Bool} {e : AsyncEngine} {s' : EngineState}
    (h : engineFromConfig config forceNew (run .initial calls) = .ok (e, s')) :
    e ∈ s'.created ∧ config.sqlalchemyDatabaseUri = some e.url ∧
      (∃ config₀ forceNew₀, Call.engineFromConfig config₀ forceNew₀ ∈
          calls ++ [.engineFromConfig config forceNew] ∧
        config₀.sqlalchemyDatabaseUri = config.sqlalchemyDatabaseUri ∧
        e.poolclass = poolclassOf config₀) ∧
      ((forceNew = true ∨ ∀ config₀ forceNew₀, Call.engineFromConfig config₀ forceNew₀ ∈ calls →
          config₀.sqlalchemyDatabaseUri = config.sqlalchemyDatabaseUri →
          config₀.databasePoolType = config.databasePoolType) →
        e.poolclass = poolclassOf config) := by
  have hs := enginesFrom_run calls
  obtain ⟨uri, huri, ⟨hf, hl, rfl⟩ | ⟨-, rfl, rfl⟩⟩ := engineFromConfig_ok h
  · obtain ⟨rfl, hmem⟩ := hs.cached uri e hl
    obtain ⟨config₀, forceNew₀, hc₀, huri₀, hpc⟩ := hs.created e hmem
    have hsame : config₀.sqlalchemyDatabaseUri = config.sqlalchemyDatabaseUri := huri₀.trans huri.symm
    refine ⟨hmem, huri, ⟨config₀, forceNew₀, List.mem_append_left _ hc₀, hsame, hpc⟩, ?_⟩
    rintro (hforced | hpool)
    · exact absurd (hf.symm.trans hforced) Bool.false_ne_true
    · rw [hpc, poolclassOf, poolclassOf, hpool config₀ forceNew₀ hc₀ hsame]
  · exact ⟨List.mem_append_right _ (List.mem_singleton_self _), huri,
      ⟨config, forceNew, by simp, rfl, rfl⟩, fun _ => rfl⟩

/-- A second call with the configuration of the first returns the engine the first created. -/
theorem engineFromConfig_returns_created_engine_again :
    ⟨0, "postgresql+asyncpg://app", .asyncAdaptedQueuePool⟩ ∈
        (run .initial [.engineFromConfig appConfig false]).created ∧
      appConfig.sqlalchemyDatabaseUri = some "postgresql+asyncpg://app" ∧
      (∃ config₀ forceNew₀, Call.engineFromConfig config₀ forceNew₀ ∈
          [.engineFromConfig appConfig false] ++ [.engineFromConfig appConfig false] ∧
        config₀.sqlalchemyDatabaseUri = appConfig.sqlalchemyDatabaseUri ∧
        PoolClass.asyncAdaptedQueuePool = poolclassOf config₀) ∧
      ((false = true ∨ ∀ config₀ forceNew₀,
          Call.engineFromConfig config₀ forceNew₀ ∈ [.engineFromConfig appConfig false] →
          config₀.sqlalchemyDatabaseUri = appConfig.sqlalchemyDatabaseUri →
          config₀.databasePoolType = appConfig.databasePoolType) →
        PoolClass.asyncAdaptedQueuePool = poolclassOf appConfig) :=
  engineFromConfig_returns_created_engine [.engineFromConfig appConfig false] (by decide)

/-- A configuration with the URI of `appConfig` and no pool. -/
def nullPoolConfig : DatabaseConfig := ⟨some "postgresql+asyncpg://app", .null, "app-null"⟩

/-- After `engine_from_config(appConfig)`, `engine_from_config(nullPoolConfig)` returns the
queue-pooled engine cached for the URI, where `force_new=True` would create a `NullPool` one. -/
theorem cached_engine_keeps_first_pool_class :
    engineFromConfig nullPoolConfig false (run .initial [.engineFromConfig appConfig false]) =
      .ok (⟨0, "postgresql+asyncpg://app", .asyncAdaptedQueuePool⟩,
        run .initial [.engineFromConfig appConfig false]) ∧
    (engineFromConfig nullPoolConfig true (run .initial [.engineFromConfig appConfig false])).map
      Prod.fst = .ok ⟨1, "postgresql+asyncpg://app", .nullPool⟩ ∧
    poolclassOf nullPoolConfig = .nullPool := by
  decide


/-- Each cached engine was created and is not disposed, no two cached engines are one object, and
the ids disposed are distinct ids of created engines; ids are handed out in order. -/
structure Lifecycle (s : EngineState) : Prop where
  cached_live : ∀ e ∈ s.globalEngine.map Prod.snd, e ∈ s.created ∧ e.id ∉ s.disposed
  cached_ids : (s.globalEngine.map (·.2.id)).Nodup
  disposed_nodup : s.disposed.Nodup
  disposed_created : ∀ i ∈ s.disposed, ∃ e ∈ s.created, e.id = i
  id_lt : ∀ e ∈ s.created, e.id < s.created.length

/-- The engine created next has an id no created engine has, so it is neither cached nor
disposed. -/
theorem Lifecycle.nextEngine_fresh {s : EngineState} (hs : Lifecycle s) (uri : String)
    (poolclass : PoolClass) :
    (nextEngine s uri poolclass).id ∉ s.disposed ∧
      (nextEngine s uri poolclass).id ∉ s.globalEngine.map (·.2.id) := by
  have hfresh : ∀ e ∈ s.created, e.id ≠ s.created.length := fun e he => (hs.id_lt e he).ne
  refine ⟨fun hd => ?_, fun hc => ?_⟩
  · obtain ⟨e, he, hid⟩ := hs.disposed_created _ hd
    exact hfresh e he hid
  · obtain ⟨p, hp, hid⟩ := List.mem_map.1 hc
    exact hfresh p.2 (hs.cached_live p.2 (List.mem_map_of_mem _ hp)).1 hid

theorem lifecycle_step {s : EngineState} (hs : Lifecycle s) (c : Call) :
    Lifecycle (step s c) := by
  rcases step_cases s c with h | ⟨config, uri, -, -, -, h⟩ | ⟨-, h⟩ <;> rw [h]
  · exact hs
  · obtain ⟨hd, hc⟩ := hs.nextEngine_fresh uri (poolclassOf config)
    refine ⟨fun e he => ?_, nodup_map_assocSet (fun p : String × AsyncEngine => p.2.id) hs.cached_ids hc,
      hs.disposed_nodup,
      fun i hi => ?_, fun e he => ?_⟩
    · obtain ⟨p, hp, rfl⟩ := List.mem_map.1 he
      rcases mem_of_mem_assocSet hp with rfl | hp
      · exact ⟨List.mem_append_right _ (List.mem_singleton_self _), hd⟩
      · obtain ⟨hc, hd⟩ := hs.cached_live p.2 (List.mem_map_of_mem _ hp)
        exact ⟨List.mem_append_left _ hc, hd⟩
    · obtain ⟨e, he, rfl⟩ := hs.disposed_created i hi
      exact ⟨e, List.mem_append_left _ he, rfl⟩
    · rw [List.length_append, List.length_singleton]
      rcases List.mem_append.1 he with he | he
      · exact Nat.lt_succ_of_lt (hs.id_lt e he)
      · rw [List.mem_singleton.1 he]
        exact Nat.lt_succ_self _
  · refine ⟨fun e he => (by simp [unregisterGlobalEngine] at he), List.nodup_nil,
      List.nodup_append.2 ⟨hs.disposed_nodup, hs.cached_ids, fun i hi hc => ?_⟩,
      fun i hi => ?_, hs.id_lt⟩
    · obtain ⟨p, hp, rfl⟩ := List.mem_map.1 hc
      exact (hs.cached_live p.2 (List.mem_map_of_mem _ hp)).2 hi
    · rcases List.mem_append.1 hi with hi | hi
      · exact hs.disposed_created i hi
      · obtain ⟨p, hp, rfl⟩ := List.mem_map.1 hi
        exact ⟨p.2, (hs.cached_live p.2 (List.mem_map_of_mem _ hp)).1, rfl⟩

theorem lifecycle_run (calls : List Call) : Lifecycle (run .initial calls) := by
  suffices h : ∀ s, Lifecycle s → Lifecycle (run s calls) from
    h _ ⟨fun _ he => (by cases he), List.nodup_nil, List.nodup_nil, fun _ hi => (by cases hi),
      fun _ he => by cases he⟩
  induction calls with
  | nil => exact fun _ hs => hs
  | cons c calls ih => exact fun s hs => ih _ (lifecycle_step hs c)

/-- Over every sequence of completed calls, forced or not and with any configurations, the engine
`engine_from_config` returns is one `create_async_engine` made and not yet disposed, and
`unregister_global_engine` disposes of each engine at most once, and only of engines created. -/
theorem engines_returned_live_disposed_once (calls : List Call) :
    (∀ config forceNew e s', engineFromConfig config forceNew (run .initial calls) = .ok (e, s') →
      e ∈ s'.created ∧ e.id ∉ s'.disposed) ∧
    (run .initial calls).disposed.Nodup ∧
    ∀ i ∈ (run .initial calls).disposed, ∃ e ∈ (run .initial calls).created, e.id = i := by
  have hs := lifecycle_run calls
  refine ⟨fun config forceNew e s' h => ?_, hs.disposed_nodup, hs.disposed_created⟩
  obtain ⟨uri, -, ⟨-, hl, rfl⟩ | ⟨-, rfl, rfl⟩⟩ := engineFromConfig_ok h
  · exact hs.cached_live e (List.mem_map.2 ⟨_, mem_of_lookup_eq_some hl, rfl⟩)
  · exact ⟨List.mem_append_right _ (List.mem_singleton_self _), (hs.nextEngine_fresh _ _).1⟩

/-- After a shutdown, the next call makes a new engine, not the one disposed. -/
theorem engines_returned_live_disposed_once_after_shutdown :
    (⟨1, "postgresql+asyncpg://app", .asyncAdaptedQueuePool⟩ : AsyncEngine) ∈
        (run .initial [.engineFromConfig appConfig false, .unregisterGlobalEngine,
          .engineFromConfig appConfig false]).created ∧
      (⟨1, "postgresql+asyncpg://app", .asyncAdaptedQueuePool⟩ : AsyncEngine).id ∉
        (run .initial [.engineFromConfig appConfig false, .unregisterGlobalEngine,
          .engineFromConfig appConfig false]).disposed :=
  (engines_returned_live_disposed_once [.engineFromConfig appConfig false,
    .unregisterGlobalEngine]).1 appConfig false _ _ (by decide)


/-- `get_db(config)`, the dependency that hands routes the engine. -/
def getDb (config : DatabaseConfig) (s : EngineState) :
    Except EngineError (AsyncEngine × EngineState) :=
  engineFromConfig config false s

/-- A call without `force_new` returns the engine cached for its URI and changes nothing. -/
theorem engineFromConfig_cached {config : DatabaseConfig} {s : EngineState} {uri : String}
    {e : AsyncEngine} (hu : config.sqlalchemyDatabaseUri = some uri) (hne : uri ≠ "")
    (hl : s.globalEngine.lookup uri = some e) : engineFromConfig config false s = .ok (e, s) := by
  have hk : (s.globalEngine.map Prod.fst).contains uri = true :=
    List.elem_iff.2 (List.mem_map_of_mem Prod.fst (mem_of_lookup_eq_some hl))
  unfold engineFromConfig
  split
  · simp_all
  · simp_all
  · rename_i uri' _ hu'
    obtain rfl : uri' = uri := Option.some.inj (hu'.symm.trans hu)
    simp only [hk, Bool.not_true, Bool.or_false, Bool.false_eq_true, if_false, hl]

/-- A call that returns was given a non-empty URI. -/
theorem engineFromConfig_uri_ne_empty {config : DatabaseConfig} {forceNew : Bool}
    {s : EngineState} {r : AsyncEngine × EngineState}
    (h : engineFromConfig config forceNew s = .ok r) : config.sqlalchemyDatabaseUri ≠ some "" := by
  intro hu
  simp [engineFromConfig, hu] at h

/-- A call neither forced nor a shutdown keeps every cached engine: it creates one only for a
URI the cache does not hold. -/
theorem lookup_step_of_unforced {s : EngineState} {c : Call} (hf : c.forced = false)
    (hc : c ≠ .unregisterGlobalEngine) {uri : String} {e : AsyncEngine}
    (hl : s.globalEngine.lookup uri = some e) : (step s c).globalEngine.lookup uri = some e := by
  rcases step_cases s c with h | ⟨config, uri', -, -, hk, h⟩ | ⟨hc', h⟩ <;> rw [h]
  · exact hl
  · have hne : uri ≠ uri' := by
      rintro rfl
      exact (hk.resolve_left (by simp [hf])) (List.mem_map_of_mem Prod.fst (mem_of_lookup_eq_some hl))
    exact (lookup_assocSet_of_ne hne _ _).trans hl
  · exact absurd hc' hc

theorem lookup_run_of_unforced {s : EngineState} {calls : List Call}
    (hc : ∀ c ∈ calls, c.forced = false ∧ c ≠ .unregisterGlobalEngine) {uri : String}
    {e : AsyncEngine} (hl : s.globalEngine.lookup uri = some e) :
    (run s calls).globalEngine.lookup uri = some e := by
  induction calls generalizing s with
  | nil => exact hl
  | cons c calls ih =>
    rw [List.forall_mem_cons] at hc
    exact ih hc.2 (lookup_step_of_unforced hc.1.1 hc.1.2 hl)

/-- Once `get_db` has returned an engine for a URI, every later `get_db` for that URI, with any
configuration carrying it, returns that same engine and changes nothing, until a call passes
`force_new=True` or `unregister_global_engine` runs. -/
theorem getDb_same_engine_until_unregister (calls : List Call)
    (hc : ∀ c ∈ calls, c.forced = false ∧ c ≠ .unregisterGlobalEngine)
    {config config' : DatabaseConfig}
    (huri : config'.sqlalchemyDatabaseUri = config.sqlalchemyDatabaseUri) {s s₁ : EngineState}
    {e : AsyncEngine} (h : getDb config s = .ok (e, s₁)) :
    getDb config' (run s₁ calls) = .ok (e, run s₁ calls) := by
  have hne := engineFromConfig_uri_ne_empty h
  obtain ⟨uri, hu, ⟨-, hl, rfl⟩ | ⟨-, rfl, rfl⟩⟩ := engineFromConfig_ok h
  · exact engineFromConfig_cached (huri.trans hu) (fun h => hne (h ▸ hu))
      (lookup_run_of_unforced hc hl)
  · exact engineFromConfig_cached (huri.trans hu) (fun h => hne (h ▸ hu))
      (lookup_run_of_unforced hc (lookup_assocSet_self _ _ _))

/-- The configuration of a second database. -/
def workerConfig : DatabaseConfig := ⟨some "postgresql+asyncpg://worker", .fixed, "worker"⟩

/-- After `get_db(appConfig)` and a call for another database, `get_db(nullPoolConfig)` for the
same URI still returns the first engine. -/
theorem getDb_same_engine_until_unregister_other_database :
    getDb nullPoolConfig (run (run .initial [.engineFromConfig appConfig false])
        [.engineFromConfig workerConfig false]) =
      .ok (⟨0, "postgresql+asyncpg://app", .asyncAdaptedQueuePool⟩,
        run (run .initial [.engineFromConfig appConfig false]) [.engineFromConfig workerConfig false]) :=
  getDb_same_engine_until_unregister [.engineFromConfig workerConfig false] (by decide) (by rfl)
    (show getDb appConfig .initial = .ok (⟨0, "postgresql+asyncpg://app", .asyncAdaptedQueuePool⟩,
      run .initial [.engineFromConfig appConfig false]) by decide)

end Mountaineer.Database
