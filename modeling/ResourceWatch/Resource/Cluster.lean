import ResourceWatch.Resource.Workload

/-! # Cluster objects and typed views

Nodes and configuration maps, and the view of a resource as the type of its kind.
-/

namespace ResourceWatch

structure Node where
  payload : Json

namespace Node

variable (node : Node)

def isReady : Bool := hasCondition node.payload "Ready"

/-- Whether no new pods may be placed on the node. -/
def isUnschedulable : Bool := flagAt node.payload ["spec", "unschedulable"]

/-- The amount of a resource such as processors or memory that the node has. -/
def capacity? (quantity : String) : Option String :=
  node.payload.stringAt? ["status", "capacity", quantity]

/-- The version of the agent on the node. -/
def kubelet? : Option String :=
  node.payload.stringAt? ["status", "nodeInfo", "kubeletVersion"]

end Node

structure ConfigMap where
  payload : Json

namespace ConfigMap

variable (config : ConfigMap)

/-- The keys of the data, in ascending order. -/
def keys : List String :=
  (((config.payload.member? "data").bind Json.asObject?).getD []).map Prod.fst

def get? (key : String) : Option String := config.payload.stringAt? ["data", key]

end ConfigMap

/-- A resource as the type of its kind. -/
inductive TypedResource where
  | deployment (value : Deployment)
  | job (value : Job)
  | pod (value : Pod)
  | node (value : Node)
  | configMap (value : ConfigMap)
  | jobRun (value : JobRun)
  | replicaSet (value : ReplicaSet)
  | release (value : Release)

/-- The view of a resource as the type of its kind. -/
def Resource.typed (resource : Resource) : TypedResource :=
  match resource.kind with
  | .deployment => .deployment ⟨resource.payload⟩
  | .job => .job ⟨resource.payload⟩
  | .pod => .pod ⟨resource.payload⟩
  | .node => .node ⟨resource.payload⟩
  | .configMap => .configMap ⟨resource.payload⟩
  | .jobRun => .jobRun ⟨resource.payload⟩
  | .replicaSet => .replicaSet ⟨resource.payload⟩
  | .release => .release ⟨resource.payload⟩

end ResourceWatch
