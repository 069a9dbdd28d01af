import ResourceWatch.Label.Selector
import ResourceWatch.Text.Percent

/-! # Addresses of streams

A stream's address is built from the origin of the dashboard's page: the scheme is
swapped for its streaming counterpart, and path and query follow the host. The query
of a resource stream names the environment first.
-/

namespace ResourceWatch

/-- Why an origin gives no address. -/
inductive OriginError where
  | noScheme (origin : String)
  | unsupportedScheme (scheme : String)
  | noHost (origin : String)
  deriving DecidableEq, Repr

/-- The wording of the fault. The origin is repeated as it was given, and the scheme
in lower case. -/
def OriginError.message : OriginError → String
  | noScheme origin => "origin without scheme: " ++ origin
  | unsupportedScheme scheme => "unsupported origin scheme: " ++ scheme
  | noHost origin => "origin without host: " ++ origin

/-- The parts of an address that come from the origin. -/
structure Origin where
  scheme : String
  host : List Char
  deriving DecidableEq, Repr

namespace Origin

/-- The streaming scheme for the scheme of a page. -/
def streamScheme? (scheme : String) : Option String :=
  if scheme = "http" ∨ scheme = "ws" then some "ws"
  else if scheme = "https" ∨ scheme = "wss" then some "wss"
  else none

/-- Reads an origin. Blanks around it and slashes at its end do not count. -/
def parse (text : String) : Except OriginError Origin :=
  match Text.cutAt [':', '/', '/'] (Text.trim text.toList) with
  | none => .error (.noScheme text)
  | some (scheme, rest) =>
    let scheme := String.ofList (scheme.map Char.toLower)
    match streamScheme? scheme with
    | none => .error (.unsupportedScheme scheme)
    | some stream =>
      let host := (rest.reverse.dropWhile (· = '/')).reverse
      if host.isEmpty then .error (.noHost text) else .ok ⟨stream, host⟩

/-- The address of a path and a query. A slash is put before a path that has none,
and nothing is added for an empty query. -/
def address (origin : Origin) (path : String) (query : List (String × String)) : String :=
  let slash := if (Text.afterStart ['/'] path.toList).isSome then [] else ['/']
  let question := if query.isEmpty then [] else '?' :: Text.Percent.encodePairs query
  String.ofList
    (origin.scheme.toList ++ ':' :: '/' :: '/' :: origin.host ++ slash ++ path.toList ++ question)

/-- A query stands behind a question mark. -/
theorem address_of_query (origin : Origin) (path : String)
    {query : List (String × String)} (hne : query ≠ []) :
    origin.address path query =
      origin.address path [] ++ "?" ++ String.ofList (Text.Percent.encodePairs query) := by
  have hquery : query.isEmpty = false := by simpa using hne
  apply String.toList_injective
  simp [address, hquery]

end Origin

/-- The address of a stream below an origin. -/
def streamAddress (origin path : String) (query : List (String × String)) :
    Except OriginError String :=
  (Origin.parse origin).map fun parsed => parsed.address path query

theorem streamAddress_eq_ok_iff {origin path url : String} {query : List (String × String)} :
    streamAddress origin path query = .ok url ↔
      ∃ parsed, Origin.parse origin = .ok parsed ∧ parsed.address path query = url := by
  unfold streamAddress
  cases Origin.parse origin <;> simp [Except.map]

/-- What a resource stream asks the server to leave out. -/
structure QueryFilter where
  labels : Option Selector
  fields : Option String
  extra : List (String × String)

namespace QueryFilter

def none : QueryFilter := ⟨Option.none, Option.none, []⟩

def ofLabels (selector : Selector) : QueryFilter := ⟨some selector, Option.none, []⟩

/-- The query of a stream: the environment, the selectors that ask for something,
and the further pairs as they are. -/
def query (filter : QueryFilter) (env : String) : List (String × String) :=
  let labels := filter.labels.toList.filter fun selector => !selector.isEmpty
  let fields := filter.fields.toList.filter fun text => !text.isEmpty
  ("environment", env) ::
    (labels.map fun selector => ("labelSelector", selector.render)) ++
      (fields.map fun text => ("fieldSelector", text)) ++ filter.extra

end QueryFilter

end ResourceWatch
