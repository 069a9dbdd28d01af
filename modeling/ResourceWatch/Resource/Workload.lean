import ResourceWatch.Resource.Basic

/-! # Workloads

What the payloads of running things say: deployments and the replica sets they own,
jobs and their runs, pods, and installed releases. Counts have the defaults of the
server that streams them.
-/

namespace ResourceWatch

/-- Whether a condition of a type is reported as true. -/
def hasCondition (payload : Json) (type : String) : Bool :=
  (payload.itemsAt ["status", "conditions"]).any fun condition =>
    condition.stringAt? ["type"] = some type && condition.stringAt? ["status"] = some "True"

/-- A truth value at a path, false where there is none. -/
def flagAt (payload : Json) (path : List String) : Bool :=
  ((payload.at? path).bind Json.asBool?).getD false

/-- The texts of one member of each item of an array, without the items that have
none. -/
def textsOf (items : List Json) (key : String) : List String :=
  items.filterMap fun item => item.stringAt? [key]

structure Deployment where
  payload : Json

namespace Deployment

variable (deployment : Deployment)

def replicas : Int := (deployment.payload.intAt? ["spec", "replicas"]).getD 1

def ready : Int := (deployment.payload.intAt? ["status", "readyReplicas"]).getD 0

/-- How many replicas have the latest template. -/
def updated : Int := (deployment.payload.intAt? ["status", "updatedReplicas"]).getD 0

def available : Int := (deployment.payload.intAt? ["status", "availableReplicas"]).getD 0

def paused : Bool := flagAt deployment.payload ["spec", "paused"]

def images : List String :=
  textsOf (deployment.payload.itemsAt ["spec", "template", "spec", "containers"]) "image"

/-- Whether the latest generation is observed and all wanted replicas are ready. -/
def rolledOut : Bool :=
  let generation := (deployment.payload.intAt? ["metadata", "generation"]).getD 0
  let observed := (deployment.payload.intAt? ["status", "observedGeneration"]).getD 0
  generation ≤ observed && deployment.replicas ≤ deployment.ready

end Deployment

structure ReplicaSet where
  payload : Json

namespace ReplicaSet

variable (replicaSet : ReplicaSet)

/-- The name of the first owner that is a deployment. -/
def owner? : Option String :=
  ((replicaSet.payload.itemsAt ["metadata", "ownerReferences"]).find? fun owner =>
    owner.stringAt? ["kind"] = some "Deployment").bind fun owner => owner.stringAt? ["name"]

def replicas : Int := (replicaSet.payload.intAt? ["spec", "replicas"]).getD 1

def ready : Int := (replicaSet.payload.intAt? ["status", "readyReplicas"]).getD 0

end ReplicaSet

structure Job where
  payload : Json

namespace Job

variable (job : Job)

def completions : Int := (job.payload.intAt? ["spec", "completions"]).getD 1

def succeeded : Int := (job.payload.intAt? ["status", "succeeded"]).getD 0

def failed : Int := (job.payload.intAt? ["status", "failed"]).getD 0

def active : Int := (job.payload.intAt? ["status", "active"]).getD 0

def isComplete : Bool := hasCondition job.payload "Complete"

def isFailed : Bool := hasCondition job.payload "Failed"

end Job

/-- One run of a job. -/
structure JobRun where
  payload : Json

namespace JobRun

variable (run : JobRun)

/-- The job that owns the run, by its own field or else by its label. -/
def job? : Option String :=
  (run.payload.stringAt? ["spec", "jobName"]).or
    ((LabelSet.ofValue (run.payload.at? ["metadata", "labels"])).get? "job-name")

def status? : Option String := run.payload.stringAt? ["status", "phase"]

end JobRun

structure Pod where
  payload : Json

namespace Pod

variable (pod : Pod)

def phase? : Option String := pod.payload.stringAt? ["status", "phase"]

def node? : Option String := pod.payload.stringAt? ["spec", "nodeName"]

def containers : List String := textsOf (pod.payload.itemsAt ["spec", "containers"]) "name"

def images : List String := textsOf (pod.payload.itemsAt ["spec", "containers"]) "image"

/-- How often containers were restarted, over all of them. -/
def restarts : Int :=
  ((pod.payload.itemsAt ["status", "containerStatuses"]).filterMap fun status =>
    status.intAt? ["restartCount"]).foldl (· + ·) 0

def isReady : Bool := hasCondition pod.payload "Ready"

end Pod

/-- An application package installed into an environment. -/
structure Release where
  payload : Json

namespace Release

variable (release : Release)

/-- The name of the package, in its metadata or as plain text. -/
def chart? : Option String :=
  (release.payload.stringAt? ["chart", "metadata", "name"]).or
    (release.payload.stringAt? ["chart"])

def version? : Option String := release.payload.stringAt? ["chart", "metadata", "version"]

/-- The version of the application in the package. -/
def appVersion? : Option String :=
  release.payload.stringAt? ["chart", "metadata", "appVersion"]

def status? : Option String := release.payload.stringAt? ["info", "status"]

def revision? : Option Int := release.payload.intAt? ["version"]

end Release

end ResourceWatch
