import NodeProvisioning.Json.Decoding
import NodeProvisioning.Json.Encoding
import NodeProvisioning.Time.Timestamp

/-!
# Conditions

What a controller reports about one aspect of a resource: a type, a three-valued status, and the
reason for it.

## Main definitions

* `Condition` — one report
* `ConditionKind` — the types that matter for a node claim
* `Condition.holds`, `Condition.fails` — status `True` or `False` for a kind
* `Condition.decode`, `Condition.encode` — the written form
-/

namespace NodeProvisioning

/-- Whether a condition holds. -/
inductive ConditionStatus where
  | true
  | false
  | unknown
deriving DecidableEq, Repr

namespace ConditionStatus

/-- The name of a status. -/
def text : ConditionStatus → String
  | .true => "True"
  | .false => "False"
  | .unknown => "Unknown"

/-- Read a status by its name. -/
def decode : Decoder ConditionStatus :=
  Decoder.oneOf [("True", .true), ("False", .false), ("Unknown", .unknown)]

end ConditionStatus

/-- The types of condition that are reported on a node claim. -/
inductive ConditionKind where
  | launched
  | registered
  | initialized
  | ready
  | other (type : String)
deriving DecidableEq, Repr

namespace ConditionKind

/-- The kind that a type names. -/
def ofText (type : String) : ConditionKind :=
  if type = "Launched" then .launched
  else if type = "Registered" then .registered
  else if type = "Initialized" then .initialized
  else if type = "Ready" then .ready
  else .other type

/-- The type of a kind. -/
def text : ConditionKind → String
  | .launched => "Launched"
  | .registered => "Registered"
  | .initialized => "Initialized"
  | .ready => "Ready"
  | .other type => type

/-- A kind keeps the type that it was made of. -/
@[simp] theorem text_ofText (type : String) : (ofText type).text = type := by
  unfold ofText
  repeat' split
  all_goals simp_all [text]

/-- A kind is made of one type only. -/
theorem ofText_eq_iff {a b : String} : ofText a = ofText b ↔ a = b :=
  ⟨fun h => by simpa using congrArg text h, fun h => h ▸ rfl⟩

end ConditionKind

/-- One report about a resource. -/
structure Condition where
  type : String
  status : ConditionStatus
  reason : String
  message : String
  severity : Option String
  lastTransitionTime : Option Timestamp
deriving DecidableEq, Repr

namespace Condition

/-- A condition with neither severity nor time. -/
def of (type : String) (status : ConditionStatus) (reason message : String) : Condition :=
  ⟨type, status, reason, message, none, none⟩

/-- The kind of a condition. -/
def kind (c : Condition) : ConditionKind := .ofText c.type

/-- Whether a condition of the given kind is reported to hold. -/
def holds (c : Condition) (k : ConditionKind) : Bool := c.status = .true && c.kind = k

/-- Whether a condition of the given kind is reported not to hold. -/
def fails (c : Condition) (k : ConditionKind) : Bool := c.status = .false && c.kind = k

end Condition

/-- Read a moment from its written form. -/
def Timestamp.decode : Decoder Timestamp
  | .str s =>
    match Timestamp.read s with
    | .ok t => .ok t
    | .error e => .error (.malformed e.message)
  | v => .error (.mistyped v "an RFC 3339 formatted date and time string")

/-- The written form of a moment. -/
def Timestamp.encode (t : Timestamp) : Json := .str t.text

namespace Condition

/-- The fields of a written condition. -/
def fieldNames : List String :=
  ["type", "status", "reason", "message", "severity", "lastTransitionTime"]

/-- Read a condition. -/
def decode : Decoder Condition := fun v => do
  let fs ← v.record "struct Condition" fieldNames
  let lastTransitionTime ← fs.nullable "lastTransitionTime" Timestamp.decode
  let message ← fs.optional "message" .string
  let reason ← fs.optional "reason" .string
  let severity ← fs.nullable "severity" .string
  let status ← fs.optional "status" ConditionStatus.decode
  let type ← fs.optional "type" .string
  let type ← fs.need "type" type
  return {
    type
    status := status.getD .unknown
    reason := reason.getD ""
    message := message.getD ""
    severity
    lastTransitionTime }

/-- The written form of a condition; empty texts are left out. -/
def encode (c : Condition) : Json :=
  .obj ([("type", .str c.type), ("status", .str c.status.text)] ++
    Json.unlessBlank "reason" c.reason ++
    Json.unlessBlank "message" c.message ++
    Json.present "severity" .str c.severity ++
    Json.present "lastTransitionTime" Timestamp.encode c.lastTransitionTime)

end Condition

end NodeProvisioning
