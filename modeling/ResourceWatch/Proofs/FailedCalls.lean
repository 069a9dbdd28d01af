import ResourceWatch.Proofs.Outcomes
import ResourceWatch.Proofs.RegistryTables
import ResourceWatch.Registry.Engine

/-! # Calls that fail

A call of a registry goes step by step, and whatever it has done when it fails stays done. The
calls are written in this way here, with each effect at its place, and shown to do what the
functions of the registry say. So a call that fails has done nothing: the tables with their
counts, the world with its epoch and the network stay as they were, and nothing that comes later
can tell that the call was made.
-/

namespace ResourceWatch

/-! ## Calls as steps -/

/-- Steps on a registry that may stop with a failure. The steps that were made before it are
not taken back. -/
abbrev Procedure := ExceptT Failure (StateM Registry)

/-- What a procedure gives or why it fails, and the registry that it leaves. -/
def Procedure.perform {α : Type} (procedure : Procedure α) (registry : Registry) :
    Except Failure α × Registry :=
  Id.run (StateT.run (ExceptT.run procedure) registry)

namespace Procedure

/-- Opens a stream and gives the number of its feed. -/
def openFeed (path : String) (query : List (String × String)) (pump : Nat → Pump) :
    Procedure Nat := do
  let registry ← get
  match streamAddress registry.config.origin path query with
  | .error fault => throw (.validation fault.message)
  | .ok url =>
    let stream := Stream.new url registry.config.reconnectDelay.toNat
    let feed := ⟨stream, pump registry.config.quietWindow.toNat⟩
    set { registry with feeds := registry.feeds ++ [feed] }
    return registry.feeds.length

/-- Opens the stream of a key, and only then enters it for a number of consumers. -/
def openWatch (kind : Kind) (env : String) (filter : QueryFilter) (consumers : Nat) :
    Procedure Unit := do
  let id ← openFeed kind.watchPath (filter.query env) fun window => .watch (.new kind env window)
  modify fun registry =>
    { registry with watches := registry.watches.insert ⟨kind, env⟩ ⟨id, consumers⟩ }

/-- Counts a consumer where the stream is open. Else the stream is opened, and the count of a
former entry is read before that can fail. -/
def subscribe (kind : Kind) (env : String) (filter : QueryFilter) : Procedure Unit := do
  let registry ← get
  match registry.watches.get? ⟨kind, env⟩ with
  | none => openWatch kind env filter 1
  | some entry =>
    if registry.isOpen entry.feed then
      let counted := { entry with consumers := entry.consumers + 1 }
      set { registry with watches := registry.watches.insert ⟨kind, env⟩ counted }
    else openWatch kind env filter (entry.consumers + 1)

/-- Opens the stream of a log unless it is open, and then enters it. -/
def subscribeLog (env pod : String) : Procedure Unit := do
  let registry ← get
  if ((registry.logs.get? ⟨env, pod⟩).filter registry.isOpen).isNone then
    let id ← openFeed Kind.podLogPath [("environment", env), ("name", pod)] fun window =>
      .log (.new env pod window)
    modify fun registry => { registry with logs := registry.logs.insert ⟨env, pod⟩ id }

def setField (kind : Kind) (env name : String) (field : Field) (value : Json) :
    Procedure Nat := do
  modify fun registry => registry.setField kind env name field value
  return (← get).world.epoch

def refreshField (kind : Kind) (env name : String) (field : Field) : Procedure Nat := do
  match (← get).source with
  | none => throw (.unavailable "no field source configured")
  | some fetch =>
    match fetch kind env name field with
    | .error detail => throw (.field detail)
    | .ok value => setField kind env name field value

def getRecord (kind : Kind) (env name : String) : Procedure Record := do
  match (← get).world.record? kind env name with
  | none => throw (.notFound (kind.plural ++ "/" ++ env ++ "/" ++ name))
  | some record => return record

end Procedure

inductive Call where
  | subscribe (kind : Kind) (env : String) (filter : QueryFilter)
  | unsubscribe (kind : Kind) (env : String)
  | subscribeLog (env pod : String)
  | unsubscribeLog (env pod : String)
  | setField (kind : Kind) (env name : String) (field : Field) (value : Json)
  | refreshField (kind : Kind) (env name : String) (field : Field)
  | get (kind : Kind) (env name : String)
  | shutdown

/-- What a call gives. -/
inductive Answer where
  | done
  | epoch (epoch : Nat)
  | record (record : Record)

namespace Call

/-- The steps of a call. One that cannot fail is a single step. -/
def procedure : Call → Procedure Answer
  | subscribe kind env filter => do
    Procedure.subscribe kind env filter
    return .done
  | unsubscribe kind env => do
    modify fun registry => registry.unsubscribe kind env
    return .done
  | subscribeLog env pod => do
    Procedure.subscribeLog env pod
    return .done
  | unsubscribeLog env pod => do
    modify fun registry => registry.unsubscribeLog env pod
    return .done
  | setField kind env name field value => do
    return .epoch (← Procedure.setField kind env name field value)
  | refreshField kind env name field => do
    return .epoch (← Procedure.refreshField kind env name field)
  | get kind env name => do
    return .record (← Procedure.getRecord kind env name)
  | shutdown => do
    modify Registry.shutdown
    return .done

/-- What the functions of the registry say about a call: what it gives, and the registry that
it leads to. -/
def outcome (registry : Registry) : Call → Except Failure (Answer × Registry)
  | subscribe kind env filter => (registry.subscribe kind env filter).map (.done, ·)
  | unsubscribe kind env => .ok (.done, registry.unsubscribe kind env)
  | subscribeLog env pod => (registry.subscribeLog env pod).map (.done, ·)
  | unsubscribeLog env pod => .ok (.done, registry.unsubscribeLog env pod)
  | setField kind env name field value =>
    let next := registry.setField kind env name field value
    .ok (.epoch next.world.epoch, next)
  | refreshField kind env name field =>
    (registry.refreshField kind env name field).map fun next => (.epoch next.world.epoch, next)
  | get kind env name =>
    (registry.get kind env name).map fun record => (.record record, registry)
  | shutdown => .ok (.done, registry.shutdown)

end Call

/-! ## What the steps come to -/

/-- What is said to come of a call, with the registry of before where it fails. -/
def Registry.leaving {α : Type} (registry : Registry) :
    Except Failure (α × Registry) → Except Failure α × Registry
  | .ok (answer, next) => (.ok answer, next)
  | .error failure => (.error failure, registry)

namespace Procedure

variable {α β : Type} (registry : Registry)

/-- What comes second starts from what the first part leaves, and is not made where the first
part fails. -/
theorem perform_bind (first : Procedure α) (second : α → Procedure β) :
    (first >>= second).perform registry =
      match first.perform registry with
      | (.ok answer, next) => (second answer).perform next
      | (.error failure, next) => (.error failure, next) := by
  unfold perform
  rw [ExceptT.run_bind, StateT.run_bind, Id.run_bind]
  rcases Id.run (StateT.run (ExceptT.run first) registry) with ⟨_ | _, next⟩ <;> rfl

theorem perform_get_bind (second : Registry → Procedure β) :
    (MonadState.get >>= second).perform registry = (second registry).perform registry := rfl

theorem perform_openFeed (path : String) (query : List (String × String)) (pump : Nat → Pump) :
    (openFeed path query pump).perform registry =
      registry.leaving ((registry.openFeed path query pump).map (registry.feeds.length, ·)) := by
  unfold openFeed Registry.openFeed
  rw [perform_get_bind]
  cases streamAddress registry.config.origin path query <;> rfl

theorem perform_openWatch (kind : Kind) (env : String) (filter : QueryFilter)
    (consumers : Nat) :
    (openWatch kind env filter consumers).perform registry =
      registry.leaving ((registry.openFeed kind.watchPath (filter.query env) fun window =>
        .watch (.new kind env window)).map fun opened =>
          ((), { opened with
            watches := opened.watches.insert ⟨kind, env⟩
              ⟨registry.feeds.length, consumers⟩ })) := by
  rw [openWatch, perform_bind, perform_openFeed]
  cases registry.openFeed kind.watchPath (filter.query env) fun window =>
    .watch (.new kind env window) <;> rfl

theorem perform_subscribe (kind : Kind) (env : String) (filter : QueryFilter) :
    (subscribe kind env filter).perform registry =
      registry.leaving ((registry.subscribe kind env filter).map ((), ·)) := by
  -- Only an open stream is counted at once. In the other two cases nothing is done before
  -- `openWatch`, which gets the count of the former entry or none.
  rw [subscribe, perform_get_bind, Registry.subscribe]
  cases hformer : registry.watches.get? ⟨kind, env⟩ with
  | none =>
      simp only [perform_openWatch, Option.filter_none]
      cases registry.openFeed kind.watchPath (filter.query env) fun window =>
        .watch (.new kind env window) <;> rfl
  | some entry =>
      by_cases hopen : registry.isOpen entry.feed = true
      · simp only [Option.filter_some, if_pos hopen]
        rfl
      · simp only [Option.filter_some, if_neg hopen, perform_openWatch]
        cases registry.openFeed kind.watchPath (filter.query env) fun window =>
          .watch (.new kind env window) <;> rfl

theorem perform_subscribeLog (env pod : String) :
    (subscribeLog env pod).perform registry =
      registry.leaving ((registry.subscribeLog env pod).map ((), ·)) := by
  rw [subscribeLog, perform_get_bind, Registry.subscribeLog]
  cases (registry.logs.get? ⟨env, pod⟩).filter registry.isOpen with
  | some id => rfl
  | none =>
      simp only [Option.isNone_none, if_true, perform_bind, perform_openFeed]
      cases registry.openFeed Kind.podLogPath [("environment", env), ("name", pod)] fun window =>
        .log (.new env pod window) <;> rfl

theorem perform_refreshField (kind : Kind) (env name : String) (field : Field) :
    (refreshField kind env name field).perform registry =
      registry.leaving ((registry.refreshField kind env name field).map fun next =>
        (next.world.epoch, next)) := by
  rw [refreshField, perform_get_bind, Registry.refreshField]
  cases registry.source with
  | none => rfl
  | some fetch =>
      simp only
      cases fetch kind env name field <;> rfl

theorem perform_getRecord (kind : Kind) (env name : String) :
    (getRecord kind env name).perform registry =
      registry.leaving ((registry.get kind env name).map fun record => (record, registry)) := by
  rw [getRecord, perform_get_bind, Registry.get]
  cases registry.world.record? kind env name <;> rfl

end Procedure

/-- The steps of a call come to what the functions of the registry say about it, and where the
call fails to nothing. -/
theorem Call.perform_procedure (call : Call) (registry : Registry) :
    call.procedure.perform registry = registry.leaving (call.outcome registry) := by
  cases call with
  | subscribe kind env filter =>
      rw [procedure, Procedure.perform_bind, Procedure.perform_subscribe, outcome]
      cases registry.subscribe kind env filter <;> rfl
  | unsubscribe kind env => rfl
  | subscribeLog env pod =>
      rw [procedure, Procedure.perform_bind, Procedure.perform_subscribeLog, outcome]
      cases registry.subscribeLog env pod <;> rfl
  | unsubscribeLog env pod => rfl
  | setField kind env name field value => rfl
  | refreshField kind env name field =>
      rw [procedure, Procedure.perform_bind, Procedure.perform_refreshField, outcome]
      cases registry.refreshField kind env name field <;> rfl
  | get kind env name =>
      rw [procedure, Procedure.perform_bind, Procedure.perform_getRecord, outcome]
      cases registry.get kind env name <;> rfl
  | shutdown => rfl

/-! ## An engine under calls -/

/-- What can happen to a registry at work: a call, that everything that is ready runs, that time
passes, or that the far side becomes another one. -/
inductive EngineAction where
  | call (call : Call)
  | settle
  | sleep (span : Nat)
  | outside (network : Network)

namespace Engine

variable (engine : Engine)

def call (call : Call) : Except Failure Answer × Engine :=
  let (result, registry) := call.procedure.perform engine.registry
  (result, { engine with registry := registry })

/-- The engine after an action, with the result of a call. -/
def act : EngineAction → List (Except Failure Answer) × Engine
  | .call call => ((engine.call call).map ([·]) id)
  | .settle => ([], engine.settle)
  | .sleep span => ([], engine.sleep span)
  | .outside network => ([], { engine with network := network })

def run (engine : Engine) : List EngineAction → List (Except Failure Answer) × Engine
  | [] => ([], engine)
  | action :: rest =>
    let (results, next) := engine.act action
    let (more, last) := next.run rest
    (results ++ more, last)

end Engine

/-! ## Which calls fail -/

namespace Registry

variable (registry : Registry)

/-- Why no stream can be opened, if none can. -/
def originFailure? : Option Failure :=
  match Origin.parse registry.config.origin with
  | .ok _ => none
  | .error fault => some (.validation fault.message)

/-- Why a call fails, if it does: a stream that has to be opened has no address, a field has no
source or cannot be fetched, and a record is not there. -/
def failure? : Call → Option Failure
  | .subscribe kind env _ =>
    if registry.isSubscribed kind env then none else registry.originFailure?
  | .subscribeLog env pod =>
    if registry.hasStream (.log ⟨env, pod⟩) then none else registry.originFailure?
  | .refreshField kind env name field =>
    match registry.source with
    | none => some (.unavailable "no field source configured")
    | some fetch =>
      match fetch kind env name field with
      | .ok _ => none
      | .error detail => some (.field detail)
  | .get kind env name =>
    match registry.world.record? kind env name with
    | some _ => none
    | none => some (.notFound (kind.plural ++ "/" ++ env ++ "/" ++ name))
  | .unsubscribe _ _ | .unsubscribeLog _ _ | .setField _ _ _ _ _ | .shutdown => none

variable {registry}

theorem openFeed_eq_error_iff {path : String} {query : List (String × String)}
    {pump : Nat → Pump} {failure : Failure} :
    registry.openFeed path query pump = .error failure ↔
      registry.originFailure? = some failure := by
  unfold openFeed originFailure? streamAddress
  cases Origin.parse registry.config.origin with
  | error fault => simp [Except.map]
  | ok origin => simp [Except.map]

theorem subscribe_eq_error_iff {kind : Kind} {env : String} {filter : QueryFilter}
    {failure : Failure} :
    registry.subscribe kind env filter = .error failure ↔
      registry.isSubscribed kind env = false ∧ registry.originFailure? = some failure := by
  cases hsubscribed : registry.isSubscribed kind env with
  | true =>
      obtain ⟨entry, -, hcounted⟩ := subscribe_of_isSubscribed hsubscribed filter
      simp [hcounted]
  | false =>
      simp [subscribe_eq_openFeed hsubscribed, Outcome.map_eq_error_iff, openFeed_eq_error_iff]

theorem subscribeLog_eq_error_iff {env pod : String} {failure : Failure} :
    registry.subscribeLog env pod = .error failure ↔
      registry.hasStream (.log ⟨env, pod⟩) = false ∧
        registry.originFailure? = some failure := by
  cases hstream : registry.hasStream (.log ⟨env, pod⟩) with
  | true => simp [subscribeLog_of_hasStream hstream]
  | false =>
      simp [subscribeLog_eq_openFeed hstream, Outcome.map_eq_error_iff, openFeed_eq_error_iff]

end Registry

/-- A call fails for the reasons that `failure?` gives, and for no other. -/
theorem Call.outcome_eq_error_iff {registry : Registry} {call : Call} {failure : Failure} :
    call.outcome registry = .error failure ↔ registry.failure? call = some failure := by
  cases call with
  | subscribe kind env filter =>
      rw [outcome, Outcome.map_eq_error_iff, Registry.subscribe_eq_error_iff, Registry.failure?]
      cases registry.isSubscribed kind env <;> simp
  | unsubscribe kind env => simp [outcome, Registry.failure?]
  | subscribeLog env pod =>
      rw [outcome, Outcome.map_eq_error_iff, Registry.subscribeLog_eq_error_iff,
        Registry.failure?]
      cases registry.hasStream (.log ⟨env, pod⟩) <;> simp
  | unsubscribeLog env pod => simp [outcome, Registry.failure?]
  | setField kind env name field value => simp [outcome, Registry.failure?]
  | refreshField kind env name field =>
      rw [outcome, Outcome.map_eq_error_iff, Registry.refreshField, Registry.failure?]
      cases registry.source with
      | none => simp
      | some fetch => cases hfetch : fetch kind env name field <;> simp [hfetch]
  | get kind env name =>
      rw [outcome, Outcome.map_eq_error_iff, Registry.get, Registry.failure?]
      cases registry.world.record? kind env name <;> simp
  | shutdown => simp [outcome, Registry.failure?]

namespace Engine

variable (engine : Engine)

theorem call_eq_error_iff {call : Call} {failure : Failure} :
    (engine.call call).1 = .error failure ↔ engine.registry.failure? call = some failure := by
  rw [← Call.outcome_eq_error_iff, Engine.call, Call.perform_procedure]
  cases call.outcome engine.registry <;> simp [Registry.leaving]

theorem call_of_failure {call : Call} {failure : Failure}
    (hfailure : (engine.call call).1 = .error failure) :
    engine.call call = (.error failure, engine) := by
  rw [call_eq_error_iff, ← Call.outcome_eq_error_iff] at hfailure
  rw [Engine.call, Call.perform_procedure, hfailure]
  rfl

theorem call_refreshField {kind : Kind} {env name : String} {field : Field}
    {fetch : FieldSource} (hsource : engine.registry.source = some fetch) {value : Json}
    (hfetch : fetch kind env name field = .ok value) :
    engine.call (.refreshField kind env name field) =
      engine.call (.setField kind env name field value) := by
  simp only [Engine.call, Call.perform_procedure, Call.outcome, Registry.refreshField, hsource,
    hfetch]
  rfl

theorem exists_refreshed_iff (kind : Kind) (env name : String) (field : Field) :
    (∃ answer, (engine.call (.refreshField kind env name field)).1 = .ok answer) ↔
      ∃ fetch value, engine.registry.source = some fetch ∧
        fetch kind env name field = .ok value := by
  constructor
  · rintro ⟨answer, hanswer⟩
    have hnone : engine.registry.failure? (.refreshField kind env name field) = none := by
      rw [Option.eq_none_iff_forall_ne_some]
      intro failure hfailure
      rw [← call_eq_error_iff, hanswer] at hfailure
      cases hfailure
    rw [Registry.failure?] at hnone
    cases hsource : engine.registry.source with
    | none => simp [hsource] at hnone
    | some fetch =>
        cases hfetch : fetch kind env name field with
        | error detail => simp [hsource, hfetch] at hnone
        | ok value => exact ⟨fetch, value, rfl, hfetch⟩
  · rintro ⟨fetch, value, hsource, hfetch⟩
    rw [engine.call_refreshField hsource hfetch]
    exact ⟨_, rfl⟩

/-- Step by step a call does what the functions of the registry say, and it fails exactly for
the reasons that `Registry.failure?` gives. If it does, everything is as it was before it, and
whatever happens from there on happens, with the same results, as if it had not been made. A
refresh succeeds exactly when there is a source that gives a value, and then it is a call that
sets the field to this value. -/
theorem failed_call_is_void :
    (∀ call : Call, call.procedure.perform engine.registry =
      engine.registry.leaving (call.outcome engine.registry)) ∧
    (∀ call failure, (engine.call call).1 = .error failure ↔
      engine.registry.failure? call = some failure) ∧
    (∀ call failure, (engine.call call).1 = .error failure →
      (engine.call call).2 = engine ∧
        ∀ later, engine.run (.call call :: later) =
          (.error failure :: (engine.run later).1, (engine.run later).2)) ∧
    ∀ kind env name field,
      ((∃ answer, (engine.call (.refreshField kind env name field)).1 = .ok answer) ↔
        ∃ fetch value, engine.registry.source = some fetch ∧
          fetch kind env name field = .ok value) ∧
      ∀ fetch value, engine.registry.source = some fetch →
        fetch kind env name field = .ok value →
        engine.call (.refreshField kind env name field) =
          engine.call (.setField kind env name field value) := by
  refine ⟨?_, ?_, ?_, ?_⟩
  · intro call
    exact call.perform_procedure engine.registry
  · intro call failure
    exact engine.call_eq_error_iff
  · intro call failure hfailure
    have hcall := engine.call_of_failure hfailure
    refine ⟨by rw [hcall], ?_⟩
    intro later
    rw [run, act, hcall]
    rfl
  · intro kind env name field
    refine ⟨engine.exists_refreshed_iff kind env name field, ?_⟩
    intro fetch value hsource hfetch
    exact engine.call_refreshField hsource hfetch

/-- An engine whose origin has no scheme, with a source of one field. -/
def misdirected : Engine :=
  .new ⟨"dash.local", 5000, 200⟩
    (some (.ofEntries [⟨.pod, "prod", "a", .spec, .string "small"⟩]))

/-- Calls that fail on the `misdirected` engine. -/
def failingCalls : List (Call × Failure) :=
  [(.subscribe .pod "prod" .none, .validation "origin without scheme: dash.local"),
    (.subscribeLog "prod" "a", .validation "origin without scheme: dash.local"),
    (.refreshField .pod "prod" "a" .service, .field "no Service for pods/prod/a"),
    (.get .pod "prod" "a", .notFound "pods/prod/a")]

theorem failed_call_is_void_misdirected :
    (∀ entry ∈ failingCalls, (misdirected.call entry.1).1 = .error entry.2 ∧
      (misdirected.call entry.1).2 = misdirected) ∧
    misdirected.call (.refreshField .pod "prod" "a" .spec) =
      misdirected.call (.setField .pod "prod" "a" .spec (.string "small")) := by
  obtain ⟨-, hfails, hvoid, hrefresh⟩ := failed_call_is_void misdirected
  refine ⟨?_, ?_⟩
  · intro entry hentry
    have hall : failingCalls.all (fun entry =>
        misdirected.registry.failure? entry.1 = some entry.2) = true := by decide +kernel
    have hreason : misdirected.registry.failure? entry.1 = some entry.2 :=
      of_decide_eq_true (List.all_eq_true.mp hall entry hentry)
    have hfailure := (hfails entry.1 entry.2).mpr hreason
    exact ⟨hfailure, (hvoid entry.1 entry.2 hfailure).1⟩
  · exact (hrefresh .pod "prod" "a" .spec).2 _ (.string "small") rfl rfl

end Engine

end ResourceWatch
