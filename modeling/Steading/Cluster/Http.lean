import Steading.Cluster.Reply
import Steading.Cluster.Target
import Steading.Json.Writer

/-!
# Cluster calls over HTTP

Each call is one request below the paths of a namespace, and each reply is read by the same rules:
a status from 400 to 599 is a failure, which the cluster describes in the body or not at all, and
with any other status the body has to be the object that was asked for.
-/

namespace Steading

inductive HttpMethod
  | get
  | post
  | put
  | patch
  | delete
  deriving DecidableEq, Inhabited

def HttpMethod.name : HttpMethod → String
  | get => "GET"
  | post => "POST"
  | put => "PUT"
  | patch => "PATCH"
  | delete => "DELETE"

/-- A request with its body, and the type the body is said to have. -/
structure HttpRequest where
  method : HttpMethod
  uri : String
  content : Option (String × Json)
  deriving Inhabited

inductive HttpReply
  | received (status : Nat) (body : String)
  /-- Nothing came before the deadline. -/
  | nothing
  deriving DecidableEq, Inhabited

/-- A namespace of a cluster, and how long each call may take. -/
structure HttpCluster where
  ns : String
  timeout : Duration

def Kind.path (ns : String) : Kind → String
  | .claim => "/api/v1/namespaces/" ++ ns ++ "/persistentvolumeclaims"
  | .deployment => "/apis/apps/v1/namespaces/" ++ ns ++ "/deployments"

/-- Where the object of a name is. -/
def Kind.objectPath (ns : String) (k : Kind) (name : String) : String :=
  k.path ns ++ "/" ++ name

namespace HttpRequest

def get (path : String) : HttpRequest :=
  ⟨.get, path, none⟩

def sending (method : HttpMethod) (path : String) (body : Json) : HttpRequest :=
  ⟨method, path ++ "?", some ("application/json", body)⟩

/-- Changes the members that are given and leaves the others alone. -/
def merging (path : String) (body : Json) : HttpRequest :=
  ⟨.patch, path ++ "?", some ("application/merge-patch+json", body)⟩

end HttpRequest

namespace ClusterCall

open HttpRequest

/-- The request of a call about the object of a name. -/
def request (ns name : String) : ClusterCall → HttpRequest
  | createClaim c => sending .post (Kind.claim.path ns) c.toJson
  | getClaim _ => get (Kind.claim.objectPath ns name)
  | deleteClaim _ => sending .delete (Kind.claim.objectPath ns name) (.obj [])
  | clearFinalizers _ =>
    merging (Kind.claim.objectPath ns name)
      (.obj [("metadata", .obj [("finalizers", .null)])])
  | createDeployment d => sending .post (Kind.deployment.path ns) d.toJson
  | getDeployment _ => get (Kind.deployment.objectPath ns name)
  | replaceDeployment d => sending .put (Kind.deployment.objectPath ns name) d.toJson
  | deleteDeployment _ =>
    sending .delete (Kind.deployment.objectPath ns name)
      (.obj [("propagationPolicy", .str "Background")])
  | scaleDeployment _ replicas =>
    merging (Kind.deployment.objectPath ns name ++ "/scale")
      (.obj [("spec", .obj [("replicas", Json.int32 replicas)])])

end ClusterCall

def isHttpFailure (status : Nat) : Bool :=
  400 ≤ status && status < 600

namespace HttpCluster

variable (h : HttpCluster)

/-- What a reply to a call about the object of a name means. -/
def interpret (c : ClusterCall) (name : String) : HttpReply → Except ClusterError c.Reply
  | .nothing => .error (.timeout c.kind name h.timeout)
  | .received status body =>
    if isHttpFailure status then
      let failure := HttpFailure.ofReply status body
      if failure.code = 404 then .error (.notFound c.kind name)
      else .error (.api c.kind name (some failure.code) failure.text)
    else
      match (Json.parse body).bind c.decode with
      | some reply => .ok reply
      | none => .error (.api c.kind name none "Error deserializing response")

/-- A call as one exchange; an object without a name is not sent at all, and neither is a request
whose target is not one. -/
def exchange (c : ClusterCall) :
    Except ClusterError (HttpRequest × (HttpReply → Except ClusterError c.Reply)) :=
  match c.target? with
  | none => .error (.api c.kind "" none "descriptor missing metadata.name")
  | some name =>
    let request := c.request h.ns name
    match Target.ofText request.uri with
    | .ok uri => .ok ({ request with uri := uri }, h.interpret c name)
    | .error fault =>
      .error (.api c.kind name none
        ("Failed to build request: failed to build request: " ++ fault.message))

end HttpCluster

/-- An exchange partner with prepared replies, which keeps the requests it was sent. -/
structure HttpScript where
  replies : List HttpReply
  requests : List HttpRequest
  deriving Inhabited

/-- The replies are given out in their order; after the last one there is nothing. -/
def HttpScript.send (s : HttpScript) (r : HttpRequest) : HttpReply × HttpScript :=
  match s.replies with
  | [] => (.nothing, { s with requests := s.requests ++ [r] })
  | reply :: replies => (reply, ⟨replies, s.requests ++ [r]⟩)

def HttpCluster.answer (h : HttpCluster) (c : ClusterCall) (s : HttpScript) :
    Except ClusterError c.Reply × HttpScript :=
  match h.exchange c with
  | .error e => (.error e, s)
  | .ok (request, interpret) =>
    let (reply, s) := s.send request
    (interpret reply, s)

end Steading
