import ResourceWatch.Json.Document
import ResourceWatch.Text.Blank

/-! # Resource kinds

The kinds of object that a dashboard streams, their names and the paths of their
streams. Kinds are ordered as they are declared, and everything that lists kinds
lists them in this order.
-/

namespace ResourceWatch

/-- The category of a tracked object. -/
inductive Kind where
  | deployment
  | job
  | pod
  | node
  | configMap
  | jobRun
  | replicaSet
  | release
  deriving DecidableEq, Repr

namespace Kind

instance : Inhabited Kind := ⟨pod⟩

def all : List Kind :=
  [deployment, job, pod, node, configMap, jobRun, replicaSet, release]

/-- The place of a kind in the order. -/
def rank : Kind → Nat
  | deployment => 0
  | job => 1
  | pod => 2
  | node => 3
  | configMap => 4
  | jobRun => 5
  | replicaSet => 6
  | release => 7

instance : Ord Kind := ⟨compareOn rank⟩

theorem rank_injective {a b : Kind} (h : a.rank = b.rank) : a = b := by
  cases a <;> cases b <;> first | rfl | exact absurd h (by decide)

instance : Std.TransOrd Kind := inferInstanceAs (Std.TransCmp (compareOn rank))

instance : Std.LawfulEqOrd Kind where
  eq_of_compare h := rank_injective (Std.LawfulEqOrd.eq_of_compare h)

def name : Kind → String
  | deployment => "deployment"
  | job => "job"
  | pod => "pod"
  | node => "node"
  | configMap => "configmap"
  | jobRun => "jobrun"
  | replicaSet => "replicaset"
  | release => "release"

/-- The plural of the name, which is how messages call the kind. -/
def plural (kind : Kind) : String := kind.name ++ "s"

def watchPath (kind : Kind) : String := "/api/watch/" ++ kind.plural

def podLogPath : String := "/api/watch/pods/log"

/-- The kind of an exact name. -/
def ofName? (name : String) : Option Kind :=
  all.find? fun kind => kind.name = name

/-- The kind that a document names. -/
def ofDocument? (document : Document) : Option Kind :=
  document.variant?.bind ofName?

/-- A text in the form in which kinds are looked up: without blanks at its ends,
dashes and underscores, and in lower case. -/
def normalize (text : String) : List Char :=
  ((Text.trim text.toList).map Char.toLower).filter fun c => c ≠ '-' && c ≠ '_'

/-- A text that names no kind. -/
structure Unknown where
  text : String
  deriving DecidableEq, Repr

/-- The wording of the fault, which repeats the text as it was given. -/
def Unknown.message (unknown : Unknown) : String :=
  "unknown resource kind: " ++ unknown.text

/-- The kind that a text names, in the singular or the plural. -/
def parse (text : String) : Except Unknown Kind :=
  let key := normalize text
  match all.find? fun kind => key = kind.plural.toList || key = kind.name.toList with
  | some kind => .ok kind
  | none => .error ⟨text⟩

end Kind

end ResourceWatch
