import ResourceWatch.Config
import ResourceWatch.Pump
import ResourceWatch.Stream.Basic
import ResourceWatch.View

/-! # The registry

Consumers declare interest in the resources of a kind and environment, or in the log
of a pod. The registry keeps at most one stream for each of them, counts the
consumers of resources, and owns the world that the streams are written into. A
stream that the server ended is opened again by the next consumer, and the count
goes on from where it was. An operation that fails leaves the registry as it was.
-/

namespace ResourceWatch

/-- The resources of a kind in an environment. -/
structure WatchKey where
  kind : Kind
  env : String
  deriving DecidableEq, Repr

/-- The log of a pod in an environment. -/
structure LogKey where
  env : String
  pod : String
  deriving DecidableEq, Repr

namespace WatchKey

instance : Ord WatchKey := ⟨compareLex (compareOn kind) (compareOn env)⟩

instance : Std.TransOrd WatchKey :=
  inferInstanceAs (Std.TransCmp (compareLex (compareOn kind) (compareOn env)))

instance : Std.LawfulEqOrd WatchKey where
  eq_of_compare {a b} h := by
    obtain ⟨hkind, henv⟩ := Ordering.then_eq_eq.1 h
    cases a; cases b
    simp only [WatchKey.mk.injEq]
    exact ⟨Std.LawfulEqOrd.eq_of_compare hkind, Std.LawfulEqOrd.eq_of_compare henv⟩

end WatchKey

namespace LogKey

instance : Ord LogKey := ⟨compareLex (compareOn env) (compareOn pod)⟩

instance : Std.TransOrd LogKey :=
  inferInstanceAs (Std.TransCmp (compareLex (compareOn env) (compareOn pod)))

instance : Std.LawfulEqOrd LogKey where
  eq_of_compare {a b} h := by
    obtain ⟨henv, hpod⟩ := Ordering.then_eq_eq.1 h
    cases a; cases b
    simp only [LogKey.mk.injEq]
    exact ⟨Std.LawfulEqOrd.eq_of_compare henv, Std.LawfulEqOrd.eq_of_compare hpod⟩

end LogKey

/-- Where fields that are not streamed come from. A fetch gives the value or says
what is wrong. -/
abbrev FieldSource := Kind → String → String → Field → Except String Json

/-- One value that a fixed source holds. -/
structure FieldEntry where
  kind : Kind
  env : String
  name : String
  field : Field
  value : Json

/-- The source that holds some values. The last of several values for one field
counts. -/
def FieldSource.ofEntries (entries : List FieldEntry) : FieldSource :=
  fun kind env name field =>
    let found := entries.reverse.find? fun entry =>
      entry.kind = kind && entry.env = env && entry.name = name && entry.field = field
    match found with
    | some entry => .ok entry.value
    | none =>
      .error ("no " ++ field.label ++ " for " ++ kind.plural ++ "/" ++ env ++ "/" ++ name)

/-- A stream that was opened, with its pump. -/
structure Feed where
  stream : Stream
  pump : Pump

/-- The stream of a key and the number of its consumers. -/
structure Subscription where
  feed : Nat
  consumers : Nat
  deriving DecidableEq, Repr

/-- The streams of all consumers, and the world they are written into. The feeds are
all streams ever opened, and the tables say which of them serve consumers. -/
structure Registry where
  config : Config
  source : Option FieldSource
  feeds : List Feed
  watches : OrderedMap WatchKey Subscription
  logs : OrderedMap LogKey Nat
  world : World

namespace Registry

/-- The registry without streams. -/
def new (config : Config) (source : Option FieldSource) : Registry :=
  ⟨config, source, [], .empty, .empty, .new⟩

variable (registry : Registry)

/-- Whether a feed was opened and is not closed. -/
def isOpen (id : Nat) : Bool :=
  match registry.feeds[id]? with
  | some feed => !feed.stream.closed
  | none => false

/-- Closes the stream of a feed. -/
def closeFeed (id : Nat) : Registry :=
  { registry with
    feeds := registry.feeds.modify id fun feed => { feed with stream := feed.stream.close } }

/-- Opens a stream, which becomes the newest feed. -/
def openFeed (path : String) (query : List (String × String)) (pump : Nat → Pump) :
    Except Failure Registry :=
  match streamAddress registry.config.origin path query with
  | .error fault => .error (.validation fault.message)
  | .ok url =>
    let stream := Stream.new url registry.config.reconnectDelay.toNat
    let feed := ⟨stream, pump registry.config.quietWindow.toNat⟩
    .ok { registry with feeds := registry.feeds ++ [feed] }

/-! ## Resources -/

/-- Registers a consumer of the resources of a kind. The filter counts only when a
stream is opened. -/
def subscribe (kind : Kind) (env : String) (filter : QueryFilter) : Except Failure Registry :=
  let key : WatchKey := ⟨kind, env⟩
  let former := registry.watches.get? key
  match former.filter fun entry => registry.isOpen entry.feed with
  | some entry =>
    let counted := { entry with consumers := entry.consumers + 1 }
    .ok { registry with watches := registry.watches.insert key counted }
  | none =>
    -- A former entry has a stream at its end, and its consumers wait for the new one.
    let consumers := (former.map Subscription.consumers).getD 0 + 1
    (registry.openFeed kind.watchPath (filter.query env) fun window =>
      .watch (.new kind env window)).map fun opened =>
        { opened with
          watches := opened.watches.insert key ⟨registry.feeds.length, consumers⟩ }

/-- Takes back one consumer of the resources of a kind. With the last one the stream
is closed, and an unknown key is passed over. -/
def unsubscribe (kind : Kind) (env : String) : Registry :=
  let key : WatchKey := ⟨kind, env⟩
  match registry.watches.get? key with
  | none => registry
  | some entry =>
    if entry.consumers ≤ 1 then
      { registry.closeFeed entry.feed with watches := registry.watches.erase key }
    else
      let counted := { entry with consumers := entry.consumers - 1 }
      { registry with watches := registry.watches.insert key counted }

def consumers (kind : Kind) (env : String) : Nat :=
  ((registry.watches.get? ⟨kind, env⟩).map Subscription.consumers).getD 0

/-- Whether the resources of a kind have a stream that is not closed. -/
def isSubscribed (kind : Kind) (env : String) : Bool :=
  match registry.watches.get? ⟨kind, env⟩ with
  | some entry => registry.isOpen entry.feed
  | none => false

/-- The keys of resources with a stream that is not closed, in order. -/
def activeWatches : List WatchKey :=
  (registry.watches.filter fun _ entry => registry.isOpen entry.feed).keys

/-! ## Logs -/

/-- Follows the log of a pod, unless it is followed already. -/
def subscribeLog (env pod : String) : Except Failure Registry :=
  let key : LogKey := ⟨env, pod⟩
  match (registry.logs.get? key).filter registry.isOpen with
  | some _ => .ok registry
  | none =>
    (registry.openFeed Kind.podLogPath [("environment", env), ("name", pod)] fun window =>
      .log (.new env pod window)).map fun opened =>
        { opened with logs := opened.logs.insert key registry.feeds.length }

/-- Stops following the log of a pod. -/
def unsubscribeLog (env pod : String) : Registry :=
  let key : LogKey := ⟨env, pod⟩
  match registry.logs.get? key with
  | none => registry
  | some id => { registry.closeFeed id with logs := registry.logs.erase key }

/-- The keys of logs with a stream that is not closed, in order. -/
def activeLogs : List LogKey :=
  (registry.logs.filter fun _ id => registry.isOpen id).keys

/-! ## The world -/

/-- Makes a write of its own. -/
def write (write : Write) : Registry :=
  { registry with world := registry.world.commit write }

/-- Sets a fetched field of a record. -/
def setField (kind : Kind) (env name : String) (field : Field) (value : Json) : Registry :=
  registry.write (.setField kind env name field value)

/-- Fetches a field from the source and sets it. -/
def refreshField (kind : Kind) (env name : String) (field : Field) : Except Failure Registry :=
  match registry.source with
  | none => .error (.unavailable "no field source configured")
  | some fetch =>
    match fetch kind env name field with
    | .ok value => .ok (registry.setField kind env name field value)
    | .error detail => .error (.field detail)

/-- The record of a name, which must be there. -/
def get (kind : Kind) (env name : String) : Except Failure Record :=
  match registry.world.record? kind env name with
  | some record => .ok record
  | none => .error (.notFound (kind.plural ++ "/" ++ env ++ "/" ++ name))

/-- The objects of a kind and environment that a selector selects, or all of them
without one. -/
def view (kind : Kind) (env : String) (selector : Option Selector) : View :=
  match registry.world.store? kind, selector with
  | some store, some selector => store.select env selector
  | some store, none => store.objects env
  | none, _ => .empty

/-- Closes every stream. The world stays as it is. -/
def shutdown : Registry :=
  let ids := registry.watches.toList.map (fun entry => entry.2.feed) ++
    registry.logs.toList.map Prod.snd
  { ids.foldl closeFeed registry with watches := .empty, logs := .empty }

end Registry

end ResourceWatch
