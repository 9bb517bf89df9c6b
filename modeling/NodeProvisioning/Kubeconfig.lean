import NodeProvisioning.Fault
import NodeProvisioning.Http.Address
import NodeProvisioning.Text.Quoted
import NodeProvisioning.Time.Duration
import NodeProvisioning.Yaml.Reading

/-!
# Client configuration

Which cluster a client talks to, from a file that names clusters, users, and contexts of one of
each. A file may hold several documents; what an earlier one says stands.

## Main definitions

* `Kubeconfig` — what a file says
* `Kubeconfig.read` — the configuration in the text of a file
* `Kubeconfig.cluster` — the cluster of the current context
* `Kubeconfig.connect` — both, with the fault of a client that could not be made
-/

namespace NodeProvisioning

/-- How long a client waits for the server. -/
structure ClientTimeouts where
  /-- For a connection. -/
  connect : Duration := .ofSeconds 5
  /-- For an answer. -/
  read : Duration := .ofSeconds 30

/-- The cluster that a client talks to. -/
structure Cluster where
  server : String
  /-- The namespace of requests that name none. -/
  defaultNs : String
deriving DecidableEq, Repr

/-- A context: a cluster, and the namespace used in it. -/
structure ClusterContext where
  cluster : String
  ns : Option String
deriving DecidableEq, Repr

/-- What a file says about clusters. -/
structure Kubeconfig where
  kind : Option String := none
  apiVersion : Option String := none
  currentContext : Option String := none
  /-- Contexts by name; one may have no content. -/
  contexts : List (String × Option ClusterContext) := []
  /-- Servers of clusters by name; a cluster may have no content, and a content no server. -/
  clusters : List (String × Option (Option String)) := []
deriving DecidableEq, Repr

/-- Why there is no cluster to talk to. -/
inductive KubeconfigError where
  /-- There is no such file. -/
  | noFile (path : String)
  /-- The file does not hold documents. -/
  | malformed
  /-- A document does not have the fields of a configuration. -/
  | misshapen
  /-- Two documents disagree about a field. -/
  | mismatch (field : String)
  /-- No context is the current one. -/
  | noCurrentContext
  /-- The current context is not there. -/
  | noContext (name : String)
  /-- The cluster of the context is not there. -/
  | noCluster (name : String)
  /-- The cluster has no server. -/
  | noServer
  /-- The server has no address. -/
  | badServer
deriving DecidableEq, Repr

/-- The wording of an error. -/
def KubeconfigError.message : KubeconfigError → String
  | .noFile path => "failed to read kubeconfig from '" ++ Text.quoted path ++
      "': No such file or directory (os error 2)"
  | .malformed => "failed to parse kubeconfig YAML"
  | .misshapen => "the structure of the parsed kubeconfig is invalid"
  | .mismatch field => "attempted to merge kubeconfigs with mismatching \x60" ++ field ++ "\x60"
  | .noCurrentContext => "failed to determine current context"
  | .noContext name => "failed to load current context: " ++ name
  | .noCluster name => "failed to load the cluster of context: " ++ name
  | .noServer => "cluster url is missing on selected cluster"
  | .badServer => "failed to parse cluster url"

namespace Kubeconfig

open Yaml (Node)

/-! ## The shape of a document -/

/-- A test of a value. -/
abbrev Shape := Node → Bool

/-- A text. -/
def isText : Shape := fun n => n.text?.isSome

/-- A truth value. -/
def isFlag : Shape
  | .bool _ => true
  | _ => false

/-- One of some texts. -/
def isOneOf (choices : List String) : Shape := fun n => n.text?.any choices.contains

/-- Null, or what passes a test. -/
def orNull (shape : Shape) : Shape
  | .null => true
  | n => shape n

/-- A sequence of values that pass a test. -/
def isListOf (shape : Shape) : Shape
  | .sequence l => l.all shape
  | .null => true
  | _ => false

/-- A mapping of texts to texts. -/
def isTextMap : Shape
  | .mapping l => l.all fun m => isText m.2
  | .null => true
  | _ => false

/-- A mapping in which some fields must be there and others may be, and those of either kind pass
their tests. Null has no fields. -/
def isRecord (required optional : List (String × Shape)) : Shape := fun n =>
  match n with
  | .mapping _ => required.all (fun f => (n.member? f.1).any f.2) &&
      optional.all fun f => (n.member? f.1).all f.2
  | .null => required.isEmpty
  | _ => false

/-- Fields that may be null, with one test for all. -/
def fields (shape : Shape) (names : List String) : List (String × Shape) :=
  names.map fun name => (name, orNull shape)

/-- Extensions: a name, and anything. -/
def isExtensionList : Shape :=
  orNull (isListOf (isRecord [("name", isText), ("extension", fun _ => true)] []))

/-- A cluster. -/
def isCluster : Shape := isRecord [] (
  fields isText ["server", "certificate-authority", "certificate-authority-data", "proxy-url",
    "tls-server-name"] ++
  fields isFlag ["insecure-skip-tls-verify", "disable-compression"] ++
  [("extensions", isExtensionList)])

/-- A program that provides credentials. -/
def isCredentialProgram : Shape := isRecord [] (
  fields isText ["apiVersion", "command"] ++
  fields (isListOf isText) ["args"] ++
  fields (isListOf isTextMap) ["env"] ++
  fields (isOneOf ["Never", "IfAvailable", "Always"]) ["interactiveMode"] ++
  [("provideClusterInfo", isFlag)])

/-- A user. -/
def isUser : Shape := isRecord [] (
  fields isText ["username", "password", "token", "tokenFile", "client-certificate",
    "client-certificate-data", "client-key", "client-key-data", "as"] ++
  fields (isListOf isText) ["as-groups"] ++
  fields (isRecord [("name", isText)] [("config", isTextMap)]) ["auth-provider"] ++
  fields isCredentialProgram ["exec"])

/-- A context. -/
def isContext : Shape := isRecord [("cluster", isText)] (
  fields isText ["user", "namespace"] ++ [("extensions", isExtensionList)])

/-- A content under a name; it may be missing. -/
def isNamed (field : String) (shape : Shape) : Shape :=
  isRecord [("name", isText)] (fields shape [field])

/-- A document of a configuration. -/
def isDocument : Shape := isRecord [] (
  fields isText ["current-context", "kind", "apiVersion"] ++
  fields (isListOf (isNamed "cluster" isCluster)) ["clusters"] ++
  fields (isListOf (isNamed "user" isUser)) ["users"] ++
  fields (isListOf (isNamed "context" isContext)) ["contexts"] ++
  fields (isRecord [] (fields isFlag ["colors"] ++ [("extensions", isExtensionList)]))
    ["preferences"] ++
  [("extensions", isExtensionList)])

/-! ## Reading -/

/-- The text of a field. -/
def textOf (n : Node) (name : String) : Option String := (n.member? name).bind Node.text?

/-- The content of a field, unless it is null. -/
def contentOf (n : Node) (name : String) : Option Node :=
  match n.member? name with
  | some .null => none
  | o => o

/-- The contents of a list by name. -/
def namedOf {α : Type} (n : Node) (list field : String) (read : Node → α) :
    List (String × Option α) :=
  (((n.member? list).map Node.items).getD []).map fun item =>
    ((textOf item "name").getD "", (contentOf item field).map read)

/-- What a document of the right shape says. -/
def ofNode (n : Node) : Kubeconfig where
  kind := textOf n "kind"
  apiVersion := textOf n "apiVersion"
  currentContext := textOf n "current-context"
  contexts := namedOf n "contexts" "context" fun c =>
    { cluster := (textOf c "cluster").getD "", ns := textOf c "namespace" }
  clusters := namedOf n "clusters" "cluster" fun c => textOf c "server"

/-- Whether two documents may say different things about a field: not where both say something. -/
def agree (a b : Option String) : Bool :=
  match a, b with
  | some x, some y => x = y
  | _, _ => true

/-- What two documents say together: the first where both say something. -/
def merge (a b : Kubeconfig) : Except KubeconfigError Kubeconfig :=
  if !agree a.kind b.kind then .error (.mismatch "kind")
  else if !agree a.apiVersion b.apiVersion then .error (.mismatch "apiVersion")
  else .ok {
    kind := a.kind.or b.kind
    apiVersion := a.apiVersion.or b.apiVersion
    currentContext := a.currentContext.or b.currentContext
    contexts := a.contexts ++ b.contexts
    clusters := a.clusters ++ b.clusters }

/-- What documents say, each a value if it could be read. -/
def ofDocuments : List (Option Node) → Except KubeconfigError (List Kubeconfig)
  | [] => .ok []
  | none :: _ => .error .malformed
  | some n :: rest =>
    if !isDocument n then .error .misshapen
    else (ofDocuments rest).map (ofNode n :: ·)

/-- What the text of a file says. -/
def read (text : String) : Except KubeconfigError Kubeconfig := do
  let documents ← ofDocuments (Yaml.readStream text)
  documents.foldlM merge {}

/-! ## Choosing a cluster -/

/-- The content of the first entry of a name. -/
def find? {α : Type} (l : List (String × Option α)) (name : String) : Option α :=
  (l.find? (·.1 = name)).bind (·.2)

/-- The cluster of the current context. -/
def cluster (k : Kubeconfig) : Except KubeconfigError Cluster :=
  match k.currentContext with
  | none => .error .noCurrentContext
  | some name =>
    match find? k.contexts name with
    | none => .error (.noContext name)
    | some context =>
      match find? k.clusters context.cluster with
      | none => .error (.noCluster context.cluster)
      | some none => .error .noServer
      | some (some server) =>
        if Http.isAddress server then .ok ⟨server, context.ns.getD "default"⟩
        else .error .badServer

/-- The fault of a client that could not be made. -/
def fault (stage : String) (e : KubeconfigError) : Fault :=
  .internal "create_client" ("failed to " ++ stage ++ " kubeconfig: " ++ e.message)

/-- The cluster of a file, from its contents if it is there. -/
def connect (path : String) (contents : Option String) : Except Fault Cluster :=
  match contents with
  | none => .error (fault "read" (.noFile path))
  | some text =>
    match read text with
    | .error e => .error (fault "read" e)
    | .ok k =>
      match k.cluster with
      | .error e => .error (fault "load" e)
      | .ok c => .ok c

end Kubeconfig

end NodeProvisioning
