import NodeProvisioning.Backend
import NodeProvisioning.Http.Message
import NodeProvisioning.Http.Status
import NodeProvisioning.NodeClaim.Codec
import NodeProvisioning.Workload

/-!
# The cluster's API as a backend

Each call is one request under the path of its resource type and namespace. A refusal is read from
the body of the response; an answer must decode.

## Main definitions

* `Http.ResourceType` — where the resources of a type are found
* `Http.interpret` — what a response means
* `Http.createClaim`, `Http.getClaim`, `Http.listClaims`, `Http.getWorkspace` — the calls
* `Http.backend` — the API as the backend of a run
-/

namespace NodeProvisioning.Http

/-- A type of resource that the API serves. -/
structure ResourceType where
  group : String
  version : String
  plural : String

namespace ResourceType

/-- Node claims. -/
def nodeClaims : ResourceType := ⟨NodeClaim.group, NodeClaim.version, NodeClaim.plural⟩

/-- Workspaces. -/
def workspaces : ResourceType :=
  ⟨WorkspaceObject.group, WorkspaceObject.version, WorkspaceObject.plural⟩

/-- The path of the resources of a namespace. -/
def path (t : ResourceType) (ns : String) : String :=
  "/apis/" ++ t.group ++ "/" ++ t.version ++ "/namespaces/" ++ ns ++ "/" ++ t.plural

end ResourceType

/-! ## Requests -/

/-- A request for a target, if the target may be one. -/
def requestFor (method : Method) (target : String) (body : Option Json) :
    Except RequestError Request :=
  match target? target with
  | some uri => .ok { method, uri, body }
  | none => .error (.rejected .target)

/-- The request that creates a claim. -/
def createRequest (claim : NodeClaim) : Except RequestError Request :=
  requestFor .post (ResourceType.nodeClaims.path claim.nsOrEmpty ++ "?") (some claim.encode)

/-- The request that reads a resource, which must have a name. -/
def getRequest (t : ResourceType) (ns name : String) : Except RequestError Request :=
  if name = "" then .error (.rejected (.invalid "A non-empty name is required"))
  else requestFor .get (t.path ns ++ "/" ++ name) none

/-- The request that lists the claims of a namespace that a selector finds. -/
def listRequest (ns selector : String) : Except RequestError Request :=
  requestFor .get
    (ResourceType.nodeClaims.path ns ++ "?&labelSelector=" ++ formEncode selector) none

/-! ## Responses -/

/-- Read what the server says about a refused request. -/
def decodeRefusal : Decoder Refusal := fun v => do
  let fs ← v.record "struct ErrorResponse" ["status", "message", "reason", "code"]
  let code ← fs.optional "code" (.natural 16)
  let message ← fs.optional "message" .string
  let reason ← fs.optional "reason" .string
  let status ← fs.optional "status" .string
  let status ← fs.need "status" status
  let code ← fs.need "code" code
  return { status, message := message.getD "", reason := reason.getD "", code }

/-- Read the bookkeeping of a list. -/
def decodeListMetadata : Decoder Unit := fun v => do
  let fs ← v.openRecord "ListMeta"
  let _ ← fs.nullable "continue" .string
  let _ ← fs.nullable "remainingItemCount" .int64
  let _ ← fs.nullable "resourceVersion" .string
  let _ ← fs.nullable "selfLink" .string
  return ()

/-- Read a list of claims; null counts as an empty one. -/
def decodeClaimList : Decoder (List NodeClaim) := fun v => do
  let fs ← match v with
    | .obj _ => v.record "struct ObjectList" ["metadata", "items"]
    | v => .error (.mistyped v "struct ObjectList")
  let items ← fs.optional "items" (.nullable (.list NodeClaim.decode))
  let _ ← fs.optional "metadata" decodeListMetadata
  let items ← fs.need "items" items
  return items.getD []

/-- The refusal in a body, or one that quotes a body which holds none. -/
def refusalOf (r : Response) : Refusal :=
  match r.body.read?.map decodeRefusal with
  | some (.ok refusal) => refusal
  | _ => {
      status := statusText r.status
      message := Text.quoted r.body.toText
      reason := "Failed to parse error data"
      code := r.status }

/-- What a response means: a refusal from 400 on, else a value that must decode. -/
def interpret {α : Type} (decode : Decoder α) : Outcome → Except RequestError α
  | .failed reason => .error (.transport reason)
  | .response r =>
    if 400 ≤ r.status ∧ r.status < 600 then .error (.refused (refusalOf r))
    else match r.body.read? with
      | none => .error (.undecodable "not a value")
      | some v =>
        match decode v with
        | .ok a => .ok a
        | .error e => .error (.undecodable e.message)

/-! ## Calls -/

variable {τ α : Type}

/-- Send a request and read the answer. -/
def exchange (t : Transport τ) (decode : Decoder α) (request : Except RequestError Request)
    (s : τ) : τ × Except RequestError α :=
  match request with
  | .error e => (s, .error e)
  | .ok r =>
    let (s, outcome) := t.send r s
    (s, interpret decode outcome)

/-- Create a claim; the answer must be a claim. -/
def createClaim (t : Transport τ) (claim : NodeClaim) (s : τ) : τ × Except RequestError Unit :=
  let (s, r) := exchange t NodeClaim.decode (createRequest claim) s
  (s, r.map fun _ => ())

/-- Look at a claim. -/
def getClaim (t : Transport τ) (key : ClaimKey) (s : τ) : τ × Except RequestError NodeClaim :=
  exchange t NodeClaim.decode (getRequest .nodeClaims key.ns key.name) s

/-- List the claims of a namespace that a selector finds. -/
def listClaims (t : Transport τ) (ns selector : String) (s : τ) :
    τ × Except RequestError (List NodeClaim) :=
  exchange t decodeClaimList (listRequest ns selector) s

/-- Read a workspace. -/
def getWorkspace (t : Transport τ) (ns name : String) (s : τ) :
    τ × Except RequestError WorkspaceObject :=
  exchange t WorkspaceObject.decode (getRequest .workspaces ns name) s

/-- The progress of a call: what is not sent is answered at once, and what is sent is answered when
everything else of the instant has begun. -/
def begin (request : Except RequestError Request) (send : τ → τ × Except RequestError α) (s : τ) :
    τ × Progress τ (Except RequestError α) :=
  match request with
  | .error e => (s, .answered (.error e))
  | .ok _ => (s, .waiting 0 0 fun s =>
      let (s, r) := send s
      (s, some r))

/-- The API as the backend of a run. -/
def backend (t : Transport τ) : Backend τ where
  create _ claim := begin (createRequest claim) (createClaim t claim)
  get _ key := begin (getRequest .nodeClaims key.ns key.name) (getClaim t key)
  list _ ns selector := begin (listRequest ns selector) (listClaims t ns selector)

end NodeProvisioning.Http
