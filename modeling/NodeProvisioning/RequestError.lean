import NodeProvisioning.Text.Quoted

/-!
# Failed requests

Why a request to the cluster's API did not succeed: the server refused it, its answer could not be
read, the connection failed, or the request never left the client.

## Main definitions

* `RequestError` — the cause, and its wording `RequestError.message`
* `RequestError.isTransient` — whether asking again may help
* `RequestError.isNotFound`, `RequestError.isAlreadyExists` — two refusals with a meaning
-/

namespace NodeProvisioning

/-- What the server says about a request that it refused. -/
structure Refusal where
  status : String
  message : String
  reason : String
  code : Nat
deriving DecidableEq, Repr

/-- Why the client did not let a request pass. -/
inductive Rejection where
  /-- A part of the request will not do. -/
  | invalid (reason : String)
  /-- The target holds a character that may not stand there. -/
  | target
deriving DecidableEq, Repr

/-- Why a request did not succeed. -/
inductive RequestError where
  /-- The server refused it. -/
  | refused (r : Refusal)
  /-- The answer could not be decoded. -/
  | undecodable (detail : String)
  /-- The connection failed. -/
  | transport (detail : String)
  /-- The stream of events broke off. -/
  | eventStream (detail : String)
  /-- A line of the answer did not end. -/
  | openLine
  /-- The server wants an encrypted connection and there is none to be had. -/
  | tlsRequired
  /-- The client itself did not let the request pass. -/
  | rejected (cause : Rejection)
deriving DecidableEq, Repr

/-- The wording of a refusal. -/
def Refusal.text (r : Refusal) : String :=
  "ApiError: " ++ r.message ++ ": " ++ r.reason ++ " (ErrorResponse \x7b status: " ++
    Text.quoted r.status ++ ", message: " ++ Text.quoted r.message ++ ", reason: " ++
    Text.quoted r.reason ++ ", code: " ++ toString r.code ++ " \x7d)"

/-- The wording of a rejection. -/
def Rejection.text : Rejection → String
  | .invalid reason => "failed to validate request: " ++ reason
  | .target => "failed to build request: invalid uri character"

namespace RequestError

/-- A refusal with status `Failure`. -/
def failure (code : Nat) (reason message : String) : RequestError :=
  .refused ⟨"Failure", message, reason, code⟩

/-- The wording of a failed request. -/
def message : RequestError → String
  | .refused r => r.text
  | .undecodable d => "Error deserializing response: " ++ d
  | .transport d => "ServiceError: " ++ d
  | .eventStream d => "Error reading events stream: " ++ d
  | .openLine => "Error finding newline character"
  | .tlsRequired => "TLS required but no TLS stack selected"
  | .rejected cause => "Failed to build request: " ++ cause.text

/-- What was asked for is already there. -/
def isAlreadyExists : RequestError → Bool
  | .refused r => r.code = 409 && r.reason = "AlreadyExists"
  | _ => false

/-- What was asked for is not there. -/
def isNotFound : RequestError → Bool
  | .refused r => r.code = 404
  | _ => false

/-- Asking again may help: a refusal for load or a fault of the server, or anything short of an
undecodable answer that kept the request from being answered. -/
def isTransient : RequestError → Bool
  | .refused r => r.code = 408 || r.code = 429 || 500 ≤ r.code
  | .undecodable _ => false
  | _ => true

/-- What is not there is not asked for again. -/
theorem isTransient_eq_false_of_isNotFound {e : RequestError} (h : e.isNotFound) :
    e.isTransient = false := by
  cases e <;> simp_all [isNotFound, isTransient]

end RequestError

end NodeProvisioning
