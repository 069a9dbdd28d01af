import ResourceWatch.Proofs.PercentRoundTrip
import ResourceWatch.Proofs.RegistryTables

/-! # The query of a resource stream

The address that a consumer's stream is opened at is the one without a query, a question mark
and a text that reads back as the query that was asked for. Nothing in the name of an
environment or in a filter can therefore add a parameter or take one away, and streams that ask
for different things have different addresses.
-/

namespace ResourceWatch

open Text Percent

/-! ## Addresses -/

/-- The last question mark of an address stands in front of its query. -/
theorem eq_of_append_question {base otherBase : String} {query otherQuery : List Char}
    (hquery : '?' ∉ query) (hotherQuery : '?' ∉ otherQuery)
    (heq : base ++ "?" ++ String.ofList query = otherBase ++ "?" ++ String.ofList otherQuery) :
    query = otherQuery := by
  have hlast := congrArg (fun url => (splitOn '?' url.toList).getLast?) heq
  simpa [splitOn_append, splitOn_of_not_mem hquery, splitOn_of_not_mem hotherQuery] using hlast

theorem QueryFilter.query_ne_nil (filter : QueryFilter) (env : String) :
    filter.query env ≠ [] := List.cons_ne_nil _ _

/-! ## Subscriptions -/

namespace Registry

/-- Whether a consumer opens a stream, and at which address. -/
def OpensStreamAt (registry : Registry) (kind : Kind) (env : String) (filter : QueryFilter)
    (url : String) : Prop :=
  ∃ opened feed, registry.subscribe kind env filter = .ok opened ∧
    opened.feeds = registry.feeds ++ [feed] ∧ feed.stream.url = url

variable {registry : Registry}

/-- A stream is opened where none is open, at the address of the filter's query. -/
theorem opensStreamAt_iff {kind : Kind} {env url : String} {filter : QueryFilter} :
    registry.OpensStreamAt kind env filter url ↔
      registry.isSubscribed kind env = false ∧
        streamAddress registry.config.origin kind.watchPath (filter.query env) = .ok url := by
  cases hsubscribed : registry.isSubscribed kind env with
  | true =>
      obtain ⟨entry, -, hcounted⟩ := subscribe_of_isSubscribed hsubscribed filter
      simp [OpensStreamAt, hcounted]
  | false =>
      simp only [OpensStreamAt, subscribe_eq_openFeed hsubscribed, openFeed, true_and]
      cases streamAddress registry.config.origin kind.watchPath (filter.query env) with
      | error fault => simp [Except.map]
      | ok address => simp [Except.map, Stream.new]

/-- The address of a stream is that of its path, with the query behind a question mark. -/
theorem OpensStreamAt.exists_base {kind : Kind} {env url : String} {filter : QueryFilter}
    (hopens : registry.OpensStreamAt kind env filter url) :
    ∃ base, url = base ++ "?" ++ String.ofList (encodePairs (filter.query env)) := by
  obtain ⟨-, haddress⟩ := opensStreamAt_iff.mp hopens
  obtain ⟨parsed, -, hurl⟩ := streamAddress_eq_ok_iff.mp haddress
  exact ⟨_, hurl.symm.trans (parsed.address_of_query _ (filter.query_ne_nil env))⟩

/-- The pairs of a query are read back from its written form, whatever they are. So a stream
is opened at the address without a query, a question mark and a text that reads back as the
filter's query, in which the environment comes first. And streams with different queries are
opened at different addresses, whatever their registries and kinds. -/
theorem query_arrives_as_given :
    (∀ pairs, pairs ≠ [] → decodePairs? (encodePairs pairs) = some pairs) ∧
    (∀ (registry : Registry) kind env filter, registry.config.validate = .ok () →
      registry.isSubscribed kind env = false →
      ∃ base query, streamAddress registry.config.origin kind.watchPath [] = .ok base ∧
        registry.OpensStreamAt kind env filter (base ++ "?" ++ query) ∧
        decodePairs? query.toList = some (filter.query env) ∧
        (filter.query env).head? = some ("environment", env)) ∧
    ∀ (registry other : Registry) kind otherKind env otherEnv filter otherFilter url otherUrl,
      registry.OpensStreamAt kind env filter url →
      other.OpensStreamAt otherKind otherEnv otherFilter otherUrl →
      filter.query env ≠ otherFilter.query otherEnv → url ≠ otherUrl := by
  refine ⟨fun pairs => decodePairs?_encodePairs, ?_, ?_⟩
  · intro registry kind env filter husable hsubscribed
    obtain ⟨base, hbase⟩ := Config.exists_streamAddress husable kind.watchPath []
    obtain ⟨parsed, hparsed, rfl⟩ := streamAddress_eq_ok_iff.mp hbase
    have hquery := filter.query_ne_nil env
    refine ⟨_, String.ofList (encodePairs (filter.query env)), hbase, ?_, ?_, rfl⟩
    · rw [opensStreamAt_iff, streamAddress_eq_ok_iff]
      exact ⟨hsubscribed, parsed, hparsed, parsed.address_of_query _ hquery⟩
    · rw [String.toList_ofList, decodePairs?_encodePairs hquery]
  · intro registry other kind otherKind env otherEnv filter otherFilter url otherUrl hopens hother
      hqueries hurls
    obtain ⟨base, hurl⟩ := hopens.exists_base
    obtain ⟨otherBase, hotherUrl⟩ := hother.exists_base
    have hclean : ∀ pairs, '?' ∉ encodePairs pairs :=
      not_mem_encodePairs (by decide) (by decide) (by decide)
    have hforms := eq_of_append_question (hclean _) (hclean _)
      (hurl.symm.trans (hurls.trans hotherUrl))
    apply hqueries
    apply Option.some.inj
    rw [← decodePairs?_encodePairs (filter.query_ne_nil env), hforms,
      decodePairs?_encodePairs (otherFilter.query_ne_nil otherEnv)]

/-- Texts with everything in them that a query is cut at or decoded by. -/
def smuggling : List (String × String) := [("", "a&b=c"), ("%41+#?", "é=&")]

/-- A filter that adds a second environment. -/
def secondEnvironment : QueryFilter := ⟨none, some "", [("environment", "dev")]⟩

/-- The address of a stream for an environment whose name looks like two parameters. -/
def oneEnvironmentUrl : String :=
  "ws://127.0.0.1:8080/api/watch/pods?environment=prod%26environment%3Ddev"

/-- The address of a stream with two environments. -/
def twoEnvironmentsUrl : String :=
  "ws://127.0.0.1:8080/api/watch/pods?environment=prod&environment=dev"

/-- The name of an environment does not become a second one. -/
theorem query_arrives_as_given_smuggling :
    smuggling ≠ [] ∧ decodePairs? (encodePairs smuggling) = some smuggling ∧
    Config.default.validate = .ok () ∧
    (new .default none).isSubscribed .pod "prod&environment=dev" = false ∧
    (∃ base query, streamAddress Config.default.origin Kind.pod.watchPath [] = .ok base ∧
      (new .default none).OpensStreamAt .pod "prod&environment=dev" .none
        (base ++ "?" ++ query) ∧
      decodePairs? query.toList = some [("environment", "prod&environment=dev")]) ∧
    (new .default none).OpensStreamAt .pod "prod&environment=dev" .none oneEnvironmentUrl ∧
    (new .default none).OpensStreamAt .pod "prod" secondEnvironment twoEnvironmentsUrl ∧
    QueryFilter.none.query "prod&environment=dev" ≠ secondEnvironment.query "prod" ∧
    oneEnvironmentUrl ≠ twoEnvironmentsUrl := by
  obtain ⟨hpairs, hopens, hdiffer⟩ := query_arrives_as_given
  have hne : smuggling ≠ [] := List.cons_ne_nil _ _
  have husable : Config.default.validate = .ok () := by rfl
  have hfresh : (new .default none).isSubscribed .pod "prod&environment=dev" = false := rfl
  have hplain : (new .default none).OpensStreamAt .pod "prod&environment=dev" .none
      oneEnvironmentUrl :=
    opensStreamAt_iff.mpr ⟨hfresh, by rfl⟩
  have hextra : (new .default none).OpensStreamAt .pod "prod" secondEnvironment
      twoEnvironmentsUrl :=
    opensStreamAt_iff.mpr ⟨rfl, by rfl⟩
  have hqueries :
      QueryFilter.none.query "prod&environment=dev" ≠ secondEnvironment.query "prod" := by
    decide
  obtain ⟨base, query, hbase, hopen, hdecoded, -⟩ :=
    hopens (new .default none) .pod "prod&environment=dev" .none husable hfresh
  exact ⟨hne, hpairs _ hne, husable, hfresh, ⟨base, query, hbase, hopen, hdecoded⟩, hplain,
    hextra, hqueries, hdiffer _ _ _ _ _ _ _ _ _ _ hplain hextra hqueries⟩

end Registry

end ResourceWatch
