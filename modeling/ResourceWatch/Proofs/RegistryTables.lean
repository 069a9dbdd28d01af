import ResourceWatch.Registry.Basic

/-! # The tables of a registry

The count of consumers, the entry of a table and the mark that a stream is closed move
apart: calls change the first two, and the server can close a stream behind the
registry's back. However the calls and the streams take turns, a key has at most one
stream that is not closed, the table leads to it, and the count is that of the calls.
-/

namespace ResourceWatch

/-! ## Keys of feeds -/

/-- What a feed is for. -/
inductive FeedKey where
  | watch (key : WatchKey)
  | log (key : LogKey)
  deriving DecidableEq, Repr

/-- The key that a pump writes for. -/
def Pump.key : Pump → FeedKey
  | watch pump => .watch ⟨pump.kind, pump.env⟩
  | log pump => .log ⟨pump.env, pump.pod⟩

theorem Pump.key_step (pump : Pump) (input : PumpInput) : (pump.step input).1.key = pump.key := by
  cases pump with
  | watch pump => cases input <;> rfl
  | log pump =>
      have hflush : pump.flush.1.env = pump.env ∧ pump.flush.1.pod = pump.pod := by
        unfold LogPump.flush
        split <;> exact ⟨rfl, rfl⟩
      have hstep : (pump.step input).1.env = pump.env ∧ (pump.step input).1.pod = pump.pod := by
        cases input with
        | event event now =>
            rw [LogPump.step]
            split <;> exact ⟨rfl, rfl⟩
        | due => exact hflush
        | ended => exact hflush
      simp only [step, Prod.map_fst, key, hstep]

theorem Pump.key_run (pump : Pump) (inputs : List PumpInput) :
    (pump.run inputs).1.key = pump.key := by
  induction inputs generalizing pump with
  | nil => rfl
  | cons input rest ih => exact (ih (pump.step input).1).trans (pump.key_step input)

/-- A feed after an input to its stream, with what its pump writes of the event that the
stream passes on. -/
def Feed.take (feed : Feed) (now : Nat) (input : StreamInput) : Feed × List Write :=
  let (stream, event) := feed.stream.step now input
  let (pump, writes) := feed.pump.run (event.toList.map fun event => .event event now)
  (⟨stream, pump⟩, writes)

theorem Feed.key_take (feed : Feed) (now : Nat) (input : StreamInput) :
    (feed.take now input).1.pump.key = feed.pump.key :=
  feed.pump.key_run _

/-- A stream that is closed stays closed. -/
theorem Feed.closed_take {feed : Feed} (hclosed : feed.stream.closed = true) (now : Nat)
    (input : StreamInput) : (feed.take now input).1.stream.closed = true := by
  rw [take, Stream.step_of_closed hclosed]
  exact hclosed

namespace Registry

variable (registry : Registry)

/-- The key that a feed was opened for. -/
def keyOf? (id : Nat) : Option FeedKey :=
  registry.feeds[id]?.map fun feed => feed.pump.key

/-- The feed that the tables name for a key. -/
def current? : FeedKey → Option Nat
  | .watch key => (registry.watches.get? key).map Subscription.feed
  | .log key => registry.logs.get? key

/-- Whether a feed was opened for a key and is not closed. -/
def Serves (id : Nat) (key : FeedKey) : Prop :=
  registry.keyOf? id = some key ∧ registry.isOpen id = true

/-! ## Actions -/

/-- Lets a feed take an input to its stream. -/
def serve (id now : Nat) (input : StreamInput) : Registry :=
  match registry.feeds[id]? with
  | none => registry
  | some feed =>
    let (after, writes) := feed.take now input
    { registry with
      feeds := registry.feeds.set id after
      world := registry.world.commitAll writes }

end Registry

/-- What can happen to a registry: the calls of its consumers, and anything that comes to
the stream of a feed, such as the frame by which the server closes it. -/
inductive RegistryAction where
  | subscribe (kind : Kind) (env : String) (filter : QueryFilter)
  | unsubscribe (kind : Kind) (env : String)
  | subscribeLog (env pod : String)
  | unsubscribeLog (env pod : String)
  | shutdown
  | serve (id now : Nat) (input : StreamInput)

namespace Registry

variable (registry : Registry)

/-- The registry after an action. A call that fails leaves it as it was. -/
def act : RegistryAction → Registry
  | .subscribe kind env filter => (registry.subscribe kind env filter).toOption.getD registry
  | .unsubscribe kind env => registry.unsubscribe kind env
  | .subscribeLog env pod => (registry.subscribeLog env pod).toOption.getD registry
  | .unsubscribeLog env pod => registry.unsubscribeLog env pod
  | .shutdown => registry.shutdown
  | .serve id now input => registry.serve id now input

/-- The registry after some actions. -/
def run (actions : List RegistryAction) : Registry := actions.foldl act registry

end Registry

namespace RegistryAction

/-- The count of the consumers of a key after an action, from the count before it. -/
def recount (key : WatchKey) (count : Nat) : RegistryAction → Nat
  | subscribe kind env _ => if key = ⟨kind, env⟩ then count + 1 else count
  | unsubscribe kind env => if key = ⟨kind, env⟩ then count - 1 else count
  | shutdown => 0
  | _ => count

/-- The count of the consumers of a key after some actions. -/
def count (key : WatchKey) (actions : List RegistryAction) : Nat :=
  actions.foldl (recount key) 0

/-- Whether a log is followed after an action, if it was followed before it or not. -/
def refollow (key : LogKey) (followed : Bool) : RegistryAction → Bool
  | subscribeLog env pod => if key = ⟨env, pod⟩ then true else followed
  | unsubscribeLog env pod => if key = ⟨env, pod⟩ then false else followed
  | shutdown => false
  | _ => followed

/-- Whether a log is followed after some actions. -/
def follows (key : LogKey) (actions : List RegistryAction) : Bool :=
  actions.foldl (refollow key) false

end RegistryAction

namespace Registry

/-! ## Tables -/

section Tables

variable (registry : Registry) (feeds : List Feed)

theorem current?_insert_watch (key : WatchKey) (entry : Subscription) (other : FeedKey) :
    { registry with
      feeds := feeds, watches := registry.watches.insert key entry }.current? other =
      if other = .watch key then some entry.feed else registry.current? other := by
  cases other with
  | watch other =>
      simp only [current?, OrderedMap.get?_insert, Std.LawfulEqCmp.compare_eq_iff_eq,
        FeedKey.watch.injEq]
      split <;> rfl
  | log other => simp [current?]

theorem current?_erase_watch (key : WatchKey) (other : FeedKey) :
    { registry with
      feeds := feeds, watches := registry.watches.erase key }.current? other =
      if other = .watch key then none else registry.current? other := by
  cases other with
  | watch other =>
      simp only [current?, OrderedMap.get?_erase, Std.LawfulEqCmp.compare_eq_iff_eq,
        FeedKey.watch.injEq]
      split <;> rfl
  | log other => simp [current?]

theorem current?_insert_log (key : LogKey) (id : Nat) (other : FeedKey) :
    { registry with feeds := feeds, logs := registry.logs.insert key id }.current? other =
      if other = .log key then some id else registry.current? other := by
  cases other with
  | watch other => simp [current?]
  | log other =>
      simp only [current?, OrderedMap.get?_insert, Std.LawfulEqCmp.compare_eq_iff_eq,
        FeedKey.log.injEq]

theorem current?_erase_log (key : LogKey) (other : FeedKey) :
    { registry with feeds := feeds, logs := registry.logs.erase key }.current? other =
      if other = .log key then none else registry.current? other := by
  cases other with
  | watch other => simp [current?]
  | log other =>
      simp only [current?, OrderedMap.get?_erase, Std.LawfulEqCmp.compare_eq_iff_eq,
        FeedKey.log.injEq]

theorem current?_recounted {key : WatchKey} {entry : Subscription}
    (hget : registry.watches.get? key = some entry) (consumers : Nat) (other : FeedKey) :
    { registry with
      watches := registry.watches.insert key { entry with consumers := consumers } }.current?
        other = registry.current? other := by
  rw [current?_insert_watch]
  split
  next hother => rw [hother, current?, hget]; rfl
  next => rfl

end Tables

variable {registry next : Registry}

/-- What the tables name is among the feeds that a shutdown closes. -/
theorem mem_feeds_of_current? {key : FeedKey} {id : Nat}
    (hcurrent : registry.current? key = some id) :
    id ∈ registry.watches.toList.map (fun entry => entry.2.feed) ++
      registry.logs.toList.map Prod.snd := by
  rw [List.mem_append, List.mem_map, List.mem_map]
  cases key with
  | watch key =>
      obtain ⟨entry, hget, hfeed⟩ := Option.map_eq_some_iff.mp hcurrent
      exact .inl ⟨(key, entry), (registry.watches.mem_toList_iff key entry).mpr hget, hfeed⟩
  | log key => exact .inr ⟨(key, id), (registry.logs.mem_toList_iff key id).mpr hcurrent, rfl⟩

/-! ## Feeds -/

theorem keyOf?_closeFeed (gone id : Nat) :
    (registry.closeFeed gone).keyOf? id = registry.keyOf? id := by
  simp only [keyOf?, closeFeed, List.getElem?_modify, Option.map_eq_map, Option.map_map]
  congr 1
  funext feed
  simp only [Function.comp_apply]
  split <;> rfl

theorem isOpen_closeFeed (gone id : Nat) :
    (registry.closeFeed gone).isOpen id = (registry.isOpen id && gone ≠ id) := by
  simp only [isOpen, closeFeed, List.getElem?_modify, Option.map_eq_map]
  cases registry.feeds[id]? with
  | none => rfl
  | some feed => by_cases hid : gone = id <;> simp [hid, Stream.close]

theorem keyOf?_foldl_closeFeed (ids : List Nat) (id : Nat) :
    (ids.foldl closeFeed registry).keyOf? id = registry.keyOf? id := by
  induction ids generalizing registry with
  | nil => rfl
  | cons gone rest ih => rw [List.foldl_cons, ih, keyOf?_closeFeed]

theorem isOpen_foldl_closeFeed (ids : List Nat) (id : Nat) :
    (ids.foldl closeFeed registry).isOpen id = (registry.isOpen id && id ∉ ids) := by
  induction ids generalizing registry with
  | nil => simp
  | cons gone rest ih =>
      rw [List.foldl_cons, ih, isOpen_closeFeed]
      by_cases hid : gone = id
      · simp [hid]
      · simp [hid, Ne.symm hid]

theorem config_foldl_closeFeed (ids : List Nat) :
    (ids.foldl closeFeed registry).config = registry.config := by
  induction ids generalizing registry with
  | nil => rfl
  | cons gone rest ih => rw [List.foldl_cons, ih, closeFeed]

theorem getElem?_feeds_append {feed : Feed} (hfeeds : next.feeds = registry.feeds ++ [feed])
    (id : Nat) :
    next.feeds[id]? = if id = registry.feeds.length then some feed else registry.feeds[id]? := by
  rw [hfeeds]
  split
  next hid => rw [hid, List.getElem?_concat_length]
  next hid =>
    rcases Nat.lt_or_gt_of_ne hid with hlt | hgt
    · exact List.getElem?_append_left hlt
    · rw [List.getElem?_eq_none (Nat.le_of_lt hgt), List.getElem?_eq_none]
      rw [List.length_append, List.length_singleton]
      omega

theorem keyOf?_append {feed : Feed} (hfeeds : next.feeds = registry.feeds ++ [feed]) (id : Nat) :
    next.keyOf? id =
      if id = registry.feeds.length then some feed.pump.key else registry.keyOf? id := by
  rw [keyOf?, getElem?_feeds_append hfeeds]
  split <;> rfl

theorem isOpen_append {feed : Feed} (hfeeds : next.feeds = registry.feeds ++ [feed]) {id : Nat}
    (hid : id ≠ registry.feeds.length) : next.isOpen id = registry.isOpen id := by
  rw [isOpen, getElem?_feeds_append hfeeds, if_neg hid, isOpen]

theorem getElem?_feeds_serve (served now : Nat) (input : StreamInput) (id : Nat) :
    (registry.serve served now input).feeds[id]? =
      registry.feeds[id]?.map fun feed =>
        if id = served then (feed.take now input).1 else feed := by
  unfold serve
  by_cases hid : id = served
  · subst hid
    cases hfeed : registry.feeds[id]? with
    | none => simp [hfeed]
    | some feed =>
        obtain ⟨hlt, -⟩ := List.getElem?_eq_some_iff.mp hfeed
        simp [hlt]
  · split
    next => simp [hid]
    next => simp [hid, Ne.symm hid]

theorem keyOf?_serve (served now : Nat) (input : StreamInput) (id : Nat) :
    (registry.serve served now input).keyOf? id = registry.keyOf? id := by
  rw [keyOf?, getElem?_feeds_serve, keyOf?, Option.map_map]
  congr 1
  funext feed
  rw [Function.comp_apply]
  split
  next => exact feed.key_take now input
  next => rfl

/-- Whatever is served, no stream comes open again. -/
theorem isOpen_of_isOpen_serve {served now : Nat} {input : StreamInput} {id : Nat}
    (hopen : (registry.serve served now input).isOpen id = true) : registry.isOpen id = true := by
  rw [isOpen, getElem?_feeds_serve] at hopen
  cases hfeed : registry.feeds[id]? with
  | none => simp [hfeed] at hopen
  | some feed =>
      rw [isOpen, hfeed]
      simp only [hfeed, Option.map_some] at hopen
      cases hclosed : feed.stream.closed with
      | false => simp [hclosed]
      | true =>
          split at hopen
          next => simp [Feed.closed_take hclosed now input] at hopen
          next => simp [hclosed] at hopen

/-! ## Calls -/

/-- Whether the table names a stream for a key that is not closed. -/
def hasStream (registry : Registry) (key : FeedKey) : Bool :=
  (registry.current? key).any registry.isOpen

theorem isSubscribed_eq_hasStream (kind : Kind) (env : String) :
    registry.isSubscribed kind env = registry.hasStream (.watch ⟨kind, env⟩) := by
  rw [isSubscribed, hasStream, current?]
  cases registry.watches.get? ⟨kind, env⟩ <;> rfl

/-- A stream of a registry whose origin is usable comes open behind the others. -/
theorem exists_openFeed (husable : registry.config.validate = .ok ()) (path : String)
    (query : List (String × String)) (pump : Nat → Pump) :
    ∃ feed, feed.pump = pump registry.config.quietWindow.toNat ∧ feed.stream.closed = false ∧
      registry.openFeed path query pump =
        .ok { registry with feeds := registry.feeds ++ [feed] } := by
  obtain ⟨url, hurl⟩ := Config.exists_streamAddress husable path query
  refine ⟨⟨.new url registry.config.reconnectDelay.toNat, _⟩, rfl, rfl, ?_⟩
  rw [openFeed, hurl]

theorem subscribe_of_isSubscribed {kind : Kind} {env : String}
    (hsubscribed : registry.isSubscribed kind env = true) (filter : QueryFilter) :
    ∃ entry, registry.watches.get? ⟨kind, env⟩ = some entry ∧
      registry.subscribe kind env filter =
        .ok { registry with
          watches := registry.watches.insert ⟨kind, env⟩
            { entry with consumers := entry.consumers + 1 } } := by
  rw [isSubscribed] at hsubscribed
  cases hget : registry.watches.get? ⟨kind, env⟩ with
  | none => simp [hget] at hsubscribed
  | some entry =>
      simp only [hget] at hsubscribed
      refine ⟨entry, rfl, ?_⟩
      rw [subscribe, hget, Option.filter_some, if_pos hsubscribed]

/-- A consumer of a key without an open stream is counted once a stream could be opened. -/
theorem subscribe_eq_openFeed {kind : Kind} {env : String}
    (hsubscribed : registry.isSubscribed kind env = false) (filter : QueryFilter) :
    registry.subscribe kind env filter =
      (registry.openFeed kind.watchPath (filter.query env) fun window =>
        .watch (.new kind env window)).map fun opened =>
          { opened with
            watches := opened.watches.insert ⟨kind, env⟩
              ⟨registry.feeds.length, registry.consumers kind env + 1⟩ } := by
  have hformer : (registry.watches.get? ⟨kind, env⟩).filter
      (fun entry => registry.isOpen entry.feed) = none := by
    rw [isSubscribed] at hsubscribed
    cases hget : registry.watches.get? ⟨kind, env⟩ with
    | none => rfl
    | some entry => simpa [hget] using hsubscribed
  rw [subscribe, hformer]
  rfl

theorem subscribe_of_not_isSubscribed (husable : registry.config.validate = .ok ())
    {kind : Kind} {env : String} (hsubscribed : registry.isSubscribed kind env = false)
    (filter : QueryFilter) :
    ∃ feed, feed.pump.key = .watch ⟨kind, env⟩ ∧ feed.stream.closed = false ∧
      registry.subscribe kind env filter =
        .ok { registry with
          feeds := registry.feeds ++ [feed]
          watches := registry.watches.insert ⟨kind, env⟩
            ⟨registry.feeds.length, registry.consumers kind env + 1⟩ } := by
  obtain ⟨feed, hpump, hclosed, hopened⟩ := exists_openFeed husable kind.watchPath
    (filter.query env) fun window => .watch (.new kind env window)
  refine ⟨feed, by rw [hpump]; rfl, hclosed, ?_⟩
  rw [subscribe_eq_openFeed hsubscribed, hopened]
  rfl

theorem subscribeLog_of_hasStream {env pod : String}
    (hstream : registry.hasStream (.log ⟨env, pod⟩) = true) :
    registry.subscribeLog env pod = .ok registry := by
  rw [hasStream, current?] at hstream
  cases hget : registry.logs.get? ⟨env, pod⟩ with
  | none => simp [hget] at hstream
  | some id =>
      rw [hget, Option.any_some] at hstream
      rw [subscribeLog, hget, Option.filter_some, if_pos hstream]

theorem subscribeLog_eq_openFeed {env pod : String}
    (hstream : registry.hasStream (.log ⟨env, pod⟩) = false) :
    registry.subscribeLog env pod =
      (registry.openFeed Kind.podLogPath [("environment", env), ("name", pod)] fun window =>
        .log (.new env pod window)).map fun opened =>
          { opened with logs := opened.logs.insert ⟨env, pod⟩ registry.feeds.length } := by
  have hformer : (registry.logs.get? ⟨env, pod⟩).filter registry.isOpen = none := by
    rw [hasStream, current?] at hstream
    cases hget : registry.logs.get? ⟨env, pod⟩ with
    | none => rfl
    | some id => simpa [hget] using hstream
  rw [subscribeLog, hformer]

theorem subscribeLog_of_not_hasStream (husable : registry.config.validate = .ok ())
    {env pod : String} (hstream : registry.hasStream (.log ⟨env, pod⟩) = false) :
    ∃ feed, feed.pump.key = .log ⟨env, pod⟩ ∧ feed.stream.closed = false ∧
      registry.subscribeLog env pod =
        .ok { registry with
          feeds := registry.feeds ++ [feed]
          logs := registry.logs.insert ⟨env, pod⟩ registry.feeds.length } := by
  obtain ⟨feed, hpump, hclosed, hopened⟩ := exists_openFeed husable Kind.podLogPath
    [("environment", env), ("name", pod)] fun window => .log (.new env pod window)
  refine ⟨feed, by rw [hpump]; rfl, hclosed, ?_⟩
  rw [subscribeLog_eq_openFeed hstream, hopened]
  rfl

/-! ## The streams of the tables -/

/-- The tables name feeds that were opened for their keys, and every stream that is not
closed is the one that the tables name for its key. -/
structure Placed (registry : Registry) : Prop where
  keyOf?_current {key : FeedKey} {id : Nat} :
    registry.current? key = some id → registry.keyOf? id = some key
  current_of_serves {id : Nat} {key : FeedKey} :
    registry.Serves id key → registry.current? key = some id

namespace Placed

theorem hasStream_iff (hplaced : registry.Placed) (key : FeedKey) :
    registry.hasStream key = true ↔ ∃ id, registry.Serves id key := by
  constructor
  · intro hstream
    rw [hasStream] at hstream
    cases hcurrent : registry.current? key with
    | none => simp [hcurrent] at hstream
    | some id =>
        rw [hcurrent, Option.any_some] at hstream
        exact ⟨id, hplaced.keyOf?_current hcurrent, hstream⟩
  · rintro ⟨id, hserves⟩
    rw [hasStream, hplaced.current_of_serves hserves]
    exact hserves.2

/-- Streams may be closed, as long as the tables stay. -/
theorem of_narrowed (hplaced : registry.Placed)
    (hcurrent : ∀ key, next.current? key = registry.current? key)
    (hkeys : ∀ id, next.keyOf? id = registry.keyOf? id)
    (hopen : ∀ id, next.isOpen id = true → registry.isOpen id = true) : next.Placed where
  keyOf?_current hid := by
    rw [hcurrent] at hid
    rw [hkeys]
    exact hplaced.keyOf?_current hid
  current_of_serves {id key} hserves := by
    rw [hcurrent]
    exact hplaced.current_of_serves ⟨hkeys id ▸ hserves.1, hopen id hserves.2⟩

/-- An entry may be taken out together with the closing of its stream. -/
theorem of_removed (hplaced : registry.Placed) {key : FeedKey} {gone : Nat}
    (hgone : registry.current? key = some gone)
    (hcurrent : ∀ other, next.current? other =
      if other = key then none else registry.current? other)
    (hkeys : ∀ id, next.keyOf? id = registry.keyOf? id)
    (hopen : ∀ id, next.isOpen id = true → registry.isOpen id = true ∧ gone ≠ id) :
    next.Placed where
  keyOf?_current {other id} hid := by
    rw [hcurrent] at hid
    rw [hkeys]
    split at hid
    next => cases hid
    next => exact hplaced.keyOf?_current hid
  current_of_serves {id other} hserves := by
    obtain ⟨hkey, hid⟩ := hserves
    obtain ⟨hid, hne⟩ := hopen id hid
    rw [hkeys] at hkey
    have hother := hplaced.current_of_serves ⟨hkey, hid⟩
    rw [hcurrent, if_neg, hother]
    rintro rfl
    exact hne (Option.some.inj (hgone.symm.trans hother))

/-- An entry may be put in for a stream that comes open behind all others, as long as no
other stream of its key is open. -/
theorem of_added (hplaced : registry.Placed) {feed : Feed}
    (hidle : registry.hasStream feed.pump.key = false)
    (hfeeds : next.feeds = registry.feeds ++ [feed])
    (hcurrent : ∀ other, next.current? other =
      if other = feed.pump.key then some registry.feeds.length else registry.current? other) :
    next.Placed where
  keyOf?_current {key id} hid := by
    rw [hcurrent] at hid
    rw [keyOf?_append hfeeds]
    split at hid
    next hkey =>
      obtain rfl := Option.some.inj hid
      rw [if_pos rfl, hkey]
    next =>
      have hkey := hplaced.keyOf?_current hid
      rw [if_neg, hkey]
      rintro rfl
      simp [keyOf?] at hkey
  current_of_serves {id key} hserves := by
    obtain ⟨hkey, hopen⟩ := hserves
    rw [hcurrent]
    rw [keyOf?_append hfeeds] at hkey
    split at hkey
    next hid =>
      obtain rfl := Option.some.inj hkey
      rw [if_pos rfl, hid]
    next hid =>
      rw [isOpen_append hfeeds hid] at hopen
      rw [if_neg, hplaced.current_of_serves ⟨hkey, hopen⟩]
      rintro rfl
      have hstream := (hplaced.hasStream_iff feed.pump.key).mpr ⟨id, hkey, hopen⟩
      simp [hstream] at hidle

/-- A shutdown closes the feeds that the tables name, and so leaves no stream open. -/
theorem not_serves_shutdown (hplaced : registry.Placed) (id : Nat) (key : FeedKey) :
    ¬registry.shutdown.Serves id key := by
  rintro ⟨hkey, hopen⟩
  have hkey' := (keyOf?_foldl_closeFeed _ id).symm.trans hkey
  have hopen' := (isOpen_foldl_closeFeed _ id).symm.trans hopen
  rw [Bool.and_eq_true, decide_eq_true_eq] at hopen'
  obtain ⟨hopen', hleft⟩ := hopen'
  exact hleft (mem_feeds_of_current? (hplaced.current_of_serves ⟨hkey', hopen'⟩))

end Placed

/-! ## One action -/

/-- The tables of a usable registry agree with its streams, with a count of consumers for
each key of resources, and with the logs that are followed. -/
structure Agrees (registry : Registry) (count : WatchKey → Nat) (follows : LogKey → Bool) : Prop
    extends registry.Placed where
  usable : registry.config.validate = .ok ()
  counted (key : WatchKey) :
    (registry.watches.get? key).map Subscription.consumers =
      if count key = 0 then none else some (count key)
  followed (key : LogKey) : (registry.logs.get? key).isSome = follows key

namespace Agrees

variable {count : WatchKey → Nat} {follows : LogKey → Bool}

theorem consumers_eq (hagrees : registry.Agrees count follows) (kind : Kind) (env : String) :
    registry.consumers kind env = count ⟨kind, env⟩ := by
  rw [consumers, hagrees.counted]
  split
  next hzero => rw [hzero]; rfl
  next => rfl

theorem contains_iff (hagrees : registry.Agrees count follows) (key : WatchKey) :
    registry.watches.contains key = true ↔ 0 < count key := by
  have hsome : registry.watches.contains key =
      ((registry.watches.get? key).map Subscription.consumers).isSome := Option.isSome_map.symm
  rw [hsome, hagrees.counted]
  split
  next hzero => simp [hzero]
  next hcount => simpa using Nat.pos_of_ne_zero hcount

/-- The counts after a new count for one key. -/
theorem counted_insert (hagrees : registry.Agrees count follows) {key : WatchKey}
    {entry : Subscription} (hconsumers : entry.consumers ≠ 0) {after : WatchKey → Nat}
    (hkey : after key = entry.consumers)
    (hothers : ∀ other, other ≠ key → after other = count other) (other : WatchKey) :
    ((registry.watches.insert key entry).get? other).map Subscription.consumers =
      if after other = 0 then none else some (after other) := by
  simp only [OrderedMap.get?_insert, Std.LawfulEqCmp.compare_eq_iff_eq]
  split
  next hother => rw [hother, hkey, if_neg hconsumers, Option.map_some]
  next hother => rw [hothers other hother, hagrees.counted]

/-- The counts without one key. -/
theorem counted_erase (hagrees : registry.Agrees count follows) {key : WatchKey}
    {after : WatchKey → Nat} (hkey : after key = 0)
    (hothers : ∀ other, other ≠ key → after other = count other) (other : WatchKey) :
    ((registry.watches.erase key).get? other).map Subscription.consumers =
      if after other = 0 then none else some (after other) := by
  simp only [OrderedMap.get?_erase, Std.LawfulEqCmp.compare_eq_iff_eq]
  split
  next hother => rw [hother, if_pos hkey, Option.map_none]
  next hother => rw [hothers other hother, hagrees.counted]

theorem subscribe (hagrees : registry.Agrees count follows) (kind : Kind) (env : String)
    (filter : QueryFilter) :
    (registry.act (.subscribe kind env filter)).Agrees
      (fun key => RegistryAction.recount key (count key) (.subscribe kind env filter))
      (fun key => RegistryAction.refollow key (follows key) (.subscribe kind env filter)) := by
  have hconsumers := hagrees.consumers_eq kind env
  have hothers : ∀ other, other ≠ ⟨kind, env⟩ →
      RegistryAction.recount other (count other) (.subscribe kind env filter) = count other := by
    intro other hother
    rw [RegistryAction.recount, if_neg hother]
  have hkey : RegistryAction.recount ⟨kind, env⟩ (count ⟨kind, env⟩)
      (.subscribe kind env filter) = registry.consumers kind env + 1 := by
    rw [RegistryAction.recount, if_pos rfl, hconsumers]
  cases hsubscribed : registry.isSubscribed kind env with
  | true =>
      obtain ⟨entry, hget, hnext⟩ := subscribe_of_isSubscribed hsubscribed filter
      rw [consumers, hget] at hkey
      rw [act, hnext]
      refine ⟨hagrees.toPlaced.of_narrowed ?_ (fun _ => rfl) (fun _ hopen => hopen),
        hagrees.usable, ?_, hagrees.followed⟩
      · exact registry.current?_recounted hget _
      · exact hagrees.counted_insert (Nat.succ_ne_zero _) hkey hothers
  | false =>
      -- Here a former entry has a closed stream, and its count is carried over to the new one.
      obtain ⟨feed, hfeed, -, hnext⟩ :=
        subscribe_of_not_isSubscribed hagrees.usable hsubscribed filter
      rw [act, hnext]
      refine ⟨hagrees.toPlaced.of_added ?_ rfl ?_, hagrees.usable, ?_, hagrees.followed⟩
      · rw [hfeed, ← isSubscribed_eq_hasStream, hsubscribed]
      · rw [hfeed]
        exact registry.current?_insert_watch _ _ _
      · exact hagrees.counted_insert (Nat.succ_ne_zero _) hkey hothers

theorem unsubscribe (hagrees : registry.Agrees count follows) (kind : Kind) (env : String) :
    (registry.act (.unsubscribe kind env)).Agrees
      (fun key => RegistryAction.recount key (count key) (.unsubscribe kind env))
      (fun key => RegistryAction.refollow key (follows key) (.unsubscribe kind env)) := by
  have hconsumers := hagrees.consumers_eq kind env
  rw [consumers] at hconsumers
  have hothers : ∀ other, other ≠ ⟨kind, env⟩ →
      RegistryAction.recount other (count other) (.unsubscribe kind env) = count other := by
    intro other hother
    rw [RegistryAction.recount, if_neg hother]
  have hkey : RegistryAction.recount ⟨kind, env⟩ (count ⟨kind, env⟩) (.unsubscribe kind env) =
      count ⟨kind, env⟩ - 1 := if_pos rfl
  rw [act, Registry.unsubscribe]
  cases hget : registry.watches.get? ⟨kind, env⟩ with
  | none =>
      rw [hget] at hconsumers
      refine ⟨hagrees.toPlaced, hagrees.usable, ?_, hagrees.followed⟩
      intro other
      rw [hagrees.counted]
      by_cases hother : other = ⟨kind, env⟩
      · rw [hother, hkey, ← hconsumers]
        rfl
      · rw [hothers other hother]
  | some entry =>
      rw [hget] at hconsumers
      have hcount : count ⟨kind, env⟩ = entry.consumers := hconsumers.symm
      dsimp only
      split
      next hlast =>
        -- The entry goes, and with it the only stream of the key that can still be open.
        have hcurrent : registry.current? (.watch ⟨kind, env⟩) = some entry.feed := by
          rw [current?, hget]
          rfl
        refine ⟨hagrees.toPlaced.of_removed hcurrent ?_ (keyOf?_closeFeed entry.feed) ?_,
          hagrees.usable, ?_, hagrees.followed⟩
        · exact registry.current?_erase_watch _ _
        · intro id hopen
          simpa using (isOpen_closeFeed entry.feed id).symm.trans hopen
        · apply hagrees.counted_erase _ hothers
          omega
      next hmore =>
        refine ⟨hagrees.toPlaced.of_narrowed ?_ (fun _ => rfl) (fun _ hopen => hopen),
          hagrees.usable, ?_, hagrees.followed⟩
        · exact registry.current?_recounted hget _
        · have hleft : entry.consumers - 1 ≠ 0 := by omega
          exact hagrees.counted_insert hleft (by rw [hkey, hcount]) hothers

theorem subscribeLog (hagrees : registry.Agrees count follows) (env pod : String) :
    (registry.act (.subscribeLog env pod)).Agrees
      (fun key => RegistryAction.recount key (count key) (.subscribeLog env pod))
      (fun key => RegistryAction.refollow key (follows key) (.subscribeLog env pod)) := by
  cases hstream : registry.hasStream (.log ⟨env, pod⟩) with
  | true =>
      have hact : registry.act (.subscribeLog env pod) = registry := by
        rw [act, subscribeLog_of_hasStream hstream]
        rfl
      rw [hact]
      refine ⟨hagrees.toPlaced, hagrees.usable, hagrees.counted, ?_⟩
      intro other
      rw [RegistryAction.refollow]
      split
      next hother =>
        obtain ⟨id, hserves⟩ := (hagrees.hasStream_iff _).mp hstream
        have hget : registry.logs.get? ⟨env, pod⟩ = some id := hagrees.current_of_serves hserves
        rw [hother, hget]
        rfl
      next => exact hagrees.followed other
  | false =>
      obtain ⟨feed, hkey, -, hnext⟩ := subscribeLog_of_not_hasStream hagrees.usable hstream
      rw [act, hnext]
      refine ⟨hagrees.toPlaced.of_added ?_ rfl ?_, hagrees.usable, hagrees.counted, ?_⟩
      · rw [hkey, hstream]
      · rw [hkey]
        exact registry.current?_insert_log _ _ _
      · intro other
        simp only [Except.toOption, Option.getD_some, OrderedMap.get?_insert,
          Std.LawfulEqCmp.compare_eq_iff_eq, RegistryAction.refollow]
        split
        next => rfl
        next => exact hagrees.followed other

theorem unsubscribeLog (hagrees : registry.Agrees count follows) (env pod : String) :
    (registry.act (.unsubscribeLog env pod)).Agrees
      (fun key => RegistryAction.recount key (count key) (.unsubscribeLog env pod))
      (fun key => RegistryAction.refollow key (follows key) (.unsubscribeLog env pod)) := by
  rw [act, Registry.unsubscribeLog]
  cases hget : registry.logs.get? ⟨env, pod⟩ with
  | none =>
      refine ⟨hagrees.toPlaced, hagrees.usable, hagrees.counted, ?_⟩
      intro other
      rw [RegistryAction.refollow, hagrees.followed]
      split
      next hother => rw [← hagrees.followed, hother, hget]; rfl
      next => rfl
  | some id =>
      have hcurrent : registry.current? (.log ⟨env, pod⟩) = some id := hget
      refine ⟨hagrees.toPlaced.of_removed hcurrent ?_ (keyOf?_closeFeed id) ?_,
        hagrees.usable, hagrees.counted, ?_⟩
      · exact registry.current?_erase_log _ _
      · intro other hopen
        simpa using (isOpen_closeFeed id other).symm.trans hopen
      · intro other
        simp only [OrderedMap.get?_erase, Std.LawfulEqCmp.compare_eq_iff_eq,
          RegistryAction.refollow]
        split
        next => rfl
        next => exact hagrees.followed other

theorem shutdown (hagrees : registry.Agrees count follows) :
    (registry.act .shutdown).Agrees
      (fun key => RegistryAction.recount key (count key) .shutdown)
      (fun key => RegistryAction.refollow key (follows key) .shutdown) := by
  refine ⟨⟨?_, ?_⟩, ?_, fun _ => rfl, fun _ => rfl⟩
  · intro key id hcurrent
    cases key <;> cases hcurrent
  · intro id key hserves
    exact absurd hserves (hagrees.not_serves_shutdown id key)
  · rw [Registry.act, Registry.shutdown, config_foldl_closeFeed]
    exact hagrees.usable

theorem serve (hagrees : registry.Agrees count follows) (id now : Nat) (input : StreamInput) :
    (registry.act (.serve id now input)).Agrees
      (fun key => RegistryAction.recount key (count key) (.serve id now input))
      (fun key => RegistryAction.refollow key (follows key) (.serve id now input)) := by
  have htables : (registry.serve id now input).watches = registry.watches ∧
      (registry.serve id now input).logs = registry.logs ∧
      (registry.serve id now input).config = registry.config := by
    unfold Registry.serve
    split <;> exact ⟨rfl, rfl, rfl⟩
  obtain ⟨hwatches, hlogs, hconfig⟩ := htables
  refine ⟨hagrees.toPlaced.of_narrowed ?_ (keyOf?_serve id now input)
    (fun _ => isOpen_of_isOpen_serve), ?_, ?_, ?_⟩
  · intro key
    cases key <;> simp only [act, current?, hwatches, hlogs]
  · rw [act, hconfig]
    exact hagrees.usable
  · rw [act, hwatches]
    exact hagrees.counted
  · rw [act, hlogs]
    exact hagrees.followed

/-- Every action keeps the agreement, with the counts and the logs followed after it. -/
theorem act (hagrees : registry.Agrees count follows) (action : RegistryAction) :
    (registry.act action).Agrees (fun key => RegistryAction.recount key (count key) action)
      (fun key => RegistryAction.refollow key (follows key) action) := by
  cases action with
  | subscribe kind env filter => exact hagrees.subscribe kind env filter
  | unsubscribe kind env => exact hagrees.unsubscribe kind env
  | subscribeLog env pod => exact hagrees.subscribeLog env pod
  | unsubscribeLog env pod => exact hagrees.unsubscribeLog env pod
  | shutdown => exact hagrees.shutdown
  | serve id now input => exact hagrees.serve id now input

/-- A run keeps the agreement too. The count and the logs followed may be any at its
start. -/
theorem run (hagrees : registry.Agrees count follows) (actions : List RegistryAction) :
    (registry.run actions).Agrees
      (fun key => actions.foldl (RegistryAction.recount key) (count key))
      (fun key => actions.foldl (RegistryAction.refollow key) (follows key)) := by
  induction actions generalizing registry count follows with
  | nil => exact hagrees
  | cons action rest ih => exact ih (hagrees.act action)

end Agrees

/-! ## Every run -/

theorem agrees_new {config : Config} (husable : config.validate = .ok ())
    (source : Option FieldSource) : (new config source).Agrees (fun _ => 0) (fun _ => false) := by
  refine ⟨⟨?_, ?_⟩, husable, fun _ => rfl, fun _ => rfl⟩
  · intro key id hcurrent
    cases key <;> cases hcurrent
  · intro id key hserves
    cases hserves.1

/-- Whether a call left the feeds as they were, or opened exactly one more for a key. -/
def Opens (registry next : Registry) (key : FeedKey) (opens : Bool) : Prop :=
  if opens then
    ∃ feed, next.feeds = registry.feeds ++ [feed] ∧ feed.pump.key = key ∧
      feed.stream.closed = false
  else next.feeds = registry.feeds

/-- How a registry stands after some actions. The count of a key is that of the calls, and
its entry is there as long as it is counted; so is the entry of a log as long as it is
followed. The only stream of a key that may be open is the one that the tables name. A key
counts as subscribed or active exactly if it has such a stream, and the next consumer
opens one exactly if it has none. -/
structure OneStreamPerKey (registry : Registry) (actions : List RegistryAction) : Prop where
  consumers_eq (kind : Kind) (env : String) :
    registry.consumers kind env = RegistryAction.count ⟨kind, env⟩ actions
  watched_iff (key : WatchKey) :
    registry.watches.contains key = true ↔ 0 < RegistryAction.count key actions
  followed_eq (key : LogKey) : registry.logs.contains key = RegistryAction.follows key actions
  current_of_serves (id : Nat) (key : FeedKey) :
    registry.Serves id key → registry.current? key = some id
  isSubscribed_iff (kind : Kind) (env : String) :
    registry.isSubscribed kind env = true ↔ ∃ id, registry.Serves id (.watch ⟨kind, env⟩)
  subscribe_opens (kind : Kind) (env : String) (filter : QueryFilter) :
    ∃ next, registry.subscribe kind env filter = .ok next ∧
      registry.Opens next (.watch ⟨kind, env⟩) (!registry.isSubscribed kind env)
  subscribeLog_opens (env pod : String) :
    ∃ next, registry.subscribeLog env pod = .ok next ∧
      registry.Opens next (.log ⟨env, pod⟩) (⟨env, pod⟩ ∉ registry.activeLogs)
  activeWatches_ascending : registry.activeWatches.Pairwise fun a b => compare a b = .lt
  mem_activeWatches_iff (key : WatchKey) :
    key ∈ registry.activeWatches ↔ ∃ id, registry.Serves id (.watch key)
  activeLogs_ascending : registry.activeLogs.Pairwise fun a b => compare a b = .lt
  mem_activeLogs_iff (key : LogKey) :
    key ∈ registry.activeLogs ↔ ∃ id, registry.Serves id (.log key)

theorem mem_activeWatches_iff_hasStream (key : WatchKey) :
    key ∈ registry.activeWatches ↔ registry.hasStream (.watch key) = true := by
  rw [activeWatches, OrderedMap.mem_keys_iff, OrderedMap.get?_filter, hasStream, current?]
  cases registry.watches.get? key with
  | none => simp
  | some entry => cases hopen : registry.isOpen entry.feed <;> simp [Option.filter, hopen]

theorem mem_activeLogs_iff_hasStream (key : LogKey) :
    key ∈ registry.activeLogs ↔ registry.hasStream (.log key) = true := by
  rw [activeLogs, OrderedMap.mem_keys_iff, OrderedMap.get?_filter, hasStream, current?]
  cases registry.logs.get? key with
  | none => simp
  | some id => cases hopen : registry.isOpen id <;> simp [Option.filter, hopen]

theorem exists_subscribe_opens (husable : registry.config.validate = .ok ()) (kind : Kind)
    (env : String) (filter : QueryFilter) :
    ∃ next, registry.subscribe kind env filter = .ok next ∧
      registry.Opens next (.watch ⟨kind, env⟩) (!registry.isSubscribed kind env) := by
  cases hsubscribed : registry.isSubscribed kind env with
  | true =>
      obtain ⟨entry, -, hnext⟩ := subscribe_of_isSubscribed hsubscribed filter
      exact ⟨_, hnext, rfl⟩
  | false =>
      obtain ⟨feed, hkey, hclosed, hnext⟩ :=
        subscribe_of_not_isSubscribed husable hsubscribed filter
      exact ⟨_, hnext, feed, rfl, hkey, hclosed⟩

theorem exists_subscribeLog_opens (husable : registry.config.validate = .ok ())
    (env pod : String) :
    ∃ next, registry.subscribeLog env pod = .ok next ∧
      registry.Opens next (.log ⟨env, pod⟩) (⟨env, pod⟩ ∉ registry.activeLogs) := by
  have hactive := registry.mem_activeLogs_iff_hasStream ⟨env, pod⟩
  cases hstream : registry.hasStream (.log ⟨env, pod⟩) with
  | true =>
      refine ⟨_, subscribeLog_of_hasStream hstream, ?_⟩
      simp [Opens, hactive, hstream]
  | false =>
      obtain ⟨feed, hkey, hclosed, hnext⟩ := subscribeLog_of_not_hasStream husable hstream
      refine ⟨_, hnext, ?_⟩
      simp [Opens, hactive, hstream, hkey, hclosed]

/-- However consumers come and go and the server closes streams in between, the registry
keeps one stream for each key. -/
theorem oneStreamPerKey_run {config : Config} (husable : config.validate = .ok ())
    (source : Option FieldSource) (actions : List RegistryAction) :
    ((new config source).run actions).OneStreamPerKey actions := by
  have hagrees := (agrees_new husable source).run actions
  exact
    { consumers_eq := hagrees.consumers_eq
      watched_iff := hagrees.contains_iff
      followed_eq := hagrees.followed
      current_of_serves := fun _ _ => hagrees.current_of_serves
      isSubscribed_iff := by
        intro kind env
        rw [isSubscribed_eq_hasStream]
        exact hagrees.hasStream_iff _
      subscribe_opens := exists_subscribe_opens hagrees.usable
      subscribeLog_opens := exists_subscribeLog_opens hagrees.usable
      activeWatches_ascending := OrderedMap.keys_ascending _
      mem_activeWatches_iff := fun key =>
        (mem_activeWatches_iff_hasStream key).trans (hagrees.hasStream_iff _)
      activeLogs_ascending := OrderedMap.keys_ascending _
      mem_activeLogs_iff := fun key =>
        (mem_activeLogs_iff_hasStream key).trans (hagrees.hasStream_iff _) }

/-- A consumer of pods, whose stream the server accepts and closes, and a second one. -/
def closedBetween : List RegistryAction :=
  [.subscribe .pod "prod" .none, .serve 0 0 (.accepted 0),
    .serve 0 0 (.text "\x7b\"type\":\"CLOSED\"\x7d"), .subscribe .pod "prod" .none]

/-- The stream is opened again, and the first consumer still counts. -/
theorem oneStreamPerKey_run_closedBetween :
    Config.default.validate = .ok () ∧
      ((new .default none).run closedBetween).OneStreamPerKey closedBetween ∧
      ((new .default none).run closedBetween).consumers .pod "prod" = 2 ∧
      ((new .default none).run closedBetween).feeds.map (fun feed => feed.stream.closed) =
        [true, false] := by
  have husable : Config.default.validate = .ok () := by rfl
  have hrun := oneStreamPerKey_run husable none closedBetween
  refine ⟨husable, hrun, ?_, by decide +kernel⟩
  rw [hrun.consumers_eq]
  rfl

end Registry

end ResourceWatch
