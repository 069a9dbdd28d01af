import ResourceWatch.Json.Document
import ResourceWatch.Json.Printer

/-! # Failures

What an operation of the library reports to its caller when it cannot be carried
out: the area of the fault and its wording.
-/

namespace ResourceWatch

/-- A failed operation. -/
inductive Failure where
  | config (detail : String)
  | validation (detail : String)
  | notFound (detail : String)
  | field (detail : String)
  | unavailable (detail : String)
  deriving DecidableEq, Repr

namespace Failure

/-- The name of the area of a failure. -/
def label : Failure → String
  | config _ => "Config"
  | validation _ => "Validation"
  | notFound _ => "NotFound"
  | field _ => "Field"
  | unavailable _ => "Unavailable"

def detail : Failure → String
  | config detail | validation detail | notFound detail | field detail | unavailable detail =>
    detail

/-- The wording of a failure, after its area. -/
def message : Failure → String
  | config detail => "config: " ++ detail
  | validation detail => "validation: " ++ detail
  | notFound detail => "not_found: " ++ detail
  | field detail => "field: " ++ detail
  | unavailable detail => "unavailable: " ++ detail

/-- The text of a failure as data: an object with the label and the detail. -/
def render (failure : Failure) : String :=
  Json.renderMembers [(failure.label, .string failure.detail)]

/-- The failure of a label and a detail. -/
def ofLabel? (label detail : String) : Option Failure :=
  [config detail, validation detail, notFound detail, field detail, unavailable detail].find?
    fun failure => failure.label = label

/-- Reads a failure as data. -/
def ofText? (text : String) : Option Failure :=
  match Document.ofText? text with
  | some (.object [(some label, .string (some detail))]) => ofLabel? label detail
  | _ => none

end Failure

end ResourceWatch
