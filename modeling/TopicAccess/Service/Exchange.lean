import TopicAccess.Service
import TopicAccess.Service.CheckRequest
import TopicAccess.Service.Request

/-!
# Requests and responses

A request is handled in a log context of its own, which holds the identifier that the request brings
or a fresh one. Every answer but that to a failure inside the service is counted and logged. A
failure is logged after the context has been cleared.
-/
namespace TopicAccess

/-- What a response carries: a JSON value, the samples of all metrics, or a page of which only the
media type matters. -/
inductive Content where
  | json (value : Json)
  | samples (samples : List Sample)
  | page (mediaType : String)

def Content.mediaType : Content → String
  | json _ => "application/json"
  | samples _ => "text/plain"
  | page mediaType => mediaType

/-- The answer to a request. -/
structure Response where
  status : Nat
  content : Content

/-- A response as it is sent: the answer to a `HEAD` request has no body. -/
def Response.sent (request : Request) (response : Response) : Response :=
  if request.verb = "HEAD" then { response with content := .page response.content.mediaType }
  else response

/-- What an endpoint comes to: a response, a problem of the client's making, or a failure. -/
inductive Outcome where
  | answered (response : Response)
  | refused (problem : Problem)
  | failed (message : String)

/-- The service after an endpoint has run, what the endpoint comes to and the records it leaves. -/
structure Effect where
  service : Service
  outcome : Outcome
  records : List Json.Fields := []

namespace Service

/-- What the service offers. -/
inductive Endpoint where
  | root
  | health
  | metrics
  | check
  | summary
  | reload
  | interface
  | page
deriving DecidableEq, Repr

def Endpoint.methods : Endpoint → List String
  | root | health | metrics | summary => ["GET"]
  | check | reload => ["POST"]
  | interface | page => ["GET", "HEAD"]

def plainPaths : List (String × Endpoint) :=
  [("/openapi.json", .interface), ("/health", .health), ("/metrics", .metrics)]

def rulePaths : List (String × Endpoint) :=
  [("/", .root), ("/acl/check", .check), ("/acl/summary", .summary), ("/acl/reload", .reload)]

/-- The paths of the documentation, which only a local service has. -/
def pagePaths : List (String × Endpoint) :=
  [("/docs", .page), ("/docs/oauth2-redirect", .page), ("/redoc", .page)]

def localEnv : String := "local"

def paths (service : Service) : List (String × Endpoint) :=
  plainPaths ++ (if service.servesRules then rulePaths else []) ++
    (if service.settings.env = localEnv then pagePaths else [])

def answer (status : Nat) (value : Json) : Outcome :=
  .answered ⟨status, .json value⟩

def detail (status : Nat) (reason : String) : Outcome :=
  answer status (.obj [("detail", .str reason)])

def dependencies (service : Service) : Json :=
  if service.servesRules then
    .obj [("acl_file", .str (service.ruleFile?.getD "none")),
      ("mode", .str service.authorizer.mode)]
  else .obj []

def describe : Json :=
  .obj [("service", .str "acl"), ("message", .str "Broker ACL Service"),
    ("version", .str Metrics.version), ("capabilities", .strings ["topic_acl", "reload"])]

def checkHealth (context : Log.Context) (service : Service) : Effect :=
  match service.dependencyFailure with
  | none =>
    { service := { service with metrics := service.metrics.recordHealthCheck "ok" }
      outcome := answer 200 (.obj [("service", .str service.settings.serviceName),
        ("status", .str "ok"), ("dependencies", service.dependencies),
        ("version", .str Metrics.version)]) }
  | some message =>
    { service := { service with metrics := service.metrics.recordHealthCheck "error" }
      outcome := answer 503 (.obj [("service", .str service.settings.serviceName),
        ("status", .str "error"), ("error", .str message)])
      records := Log.records service.threshold context
        [service.event .error "Health check failed" [("error", .str message)]] }

/-- What is said of a JSON value with a number that is not finite. -/
def notFiniteMessage : String := "Out of range float values are not JSON compliant"

/-- Refuse a body. The complaints quote the values complained about, whose numbers must be finite
and whose strings must be texts for that. -/
def refuseBody : BodyFailure → Outcome
  | .faulty faults =>
    let told := Json.obj [("detail", .arr (faults.map (·.json)))]
    if !told.isFinite then .failed notFiniteMessage
    else match told.lone? with
      | some lone => .failed lone.message
      | none => answer 422 (.arr (faults.map (·.fault.json)))
  | .unreadable => detail 400 "There was an error parsing the body"

/-- Answer a permission check. The user of the check is in the context of its own event only. -/
def checkPermission (context : Log.Context) (request : Request) (service : Service) : Effect :=
  match CheckRequest.ofBody request.limits request.hasJson request.body with
  | .error failure => { service, outcome := refuseBody failure }
  | .ok check =>
    let allowed := (service.authorizer.decision Topic.covers check.operation check.topic
      (.ofUser check.user)).allowed
    { service :=
        { service with metrics := service.metrics.recordCheck check.operation.name allowed }
      outcome := answer 200 (.obj [("allowed", .bool allowed),
        ("operation", .str check.operation.name), ("mode", .str service.authorizer.mode)])
      records := Log.records service.threshold (context.setUser check.user)
        [service.event .debug "ACL check" [("topic", .str check.topic),
          ("operation", .str check.operation.name), ("allowed", .bool allowed)]] }

def summary (authorizer : Authorizer) : Json :=
  let store := authorizer.store
  .obj [("mode", .str authorizer.mode), ("empty", .bool store.isEmpty),
    ("global_rules", .nat store.anonymous.length), ("users", .strings store.userNames),
    ("user_rules", .obj (store.users.map fun entry => (entry.1, .nat entry.2.length)))]

def notConfigured : Problem :=
  .general "ACL_NOT_CONFIGURED" "No ACL file configured" []

def reload (files : FileTree) (context : Log.Context) (service : Service) : Effect :=
  match service.ruleFile? with
  | none => { service, outcome := .refused notConfigured }
  | some _ =>
    match service.load files with
    | .error fault => { service, outcome := .failed fault.message }
    | .ok (service, events) =>
      let store := service.authorizer.store
      { service
        outcome := answer 200 (.obj [("mode", .str service.authorizer.mode),
          ("global_rules", .nat store.anonymous.length),
          ("user_rules", .nat store.userRuleCount)])
        records := Log.records service.threshold context events }

def run (files : FileTree) (context : Log.Context) (request : Request) (service : Service) :
    Endpoint → Effect
  | .root => { service, outcome := answer 200 describe }
  | .health => service.checkHealth context
  | .metrics => { service, outcome := .answered ⟨200, .samples service.metrics.samples⟩ }
  | .check => service.checkPermission context request
  | .summary => { service, outcome := answer 200 (summary service.authorizer) }
  | .reload => service.reload files context
  | .interface => { service, outcome := .answered ⟨200, .page "application/json"⟩ }
  | .page => { service, outcome := .answered ⟨200, .page "text/html"⟩ }

def endpointAt? (service : Service) (target : Target) : Option Endpoint :=
  (service.paths.find? fun entry => target.leadsTo entry.1).map (·.2)

/-- The answer where there is no endpoint. A target that leads to one but for slashes at its end is
redirected. -/
def unknownTarget (service : Service) (target : Target) : Outcome :=
  match target.withoutSlash?.bind service.endpointAt? with
  | some _ => .answered ⟨307, .page ""⟩
  | none => detail 404 "Not Found"

def dispatch (files : FileTree) (context : Log.Context) (request : Request) (service : Service) :
    Effect :=
  match service.endpointAt? request.target with
  | none => { service, outcome := service.unknownTarget request.target }
  | some endpoint =>
    if endpoint.methods.contains request.verb then service.run files context request endpoint
    else { service, outcome := detail 405 "Method Not Allowed" }

def contextOf (request : Request) : Log.Context :=
  Log.Context.empty.setRequestId request.id? request.freshId

def conclude (request : Request) (response : Response) (service : Service)
    (records : List Json.Fields) : Service × Response × List Json.Fields :=
  let labels : RequestLabels :=
    { endpoint := request.reportedPath
      method := request.verb
      statusCode := toString response.status }
  let served := service.event .info "HTTP request" [("method", .str request.verb),
    ("path", .str request.reportedPath), ("status_code", .nat response.status)]
  ({ service with metrics := service.metrics.recordRequest labels request.duration },
    response.sent request,
    records ++ Log.records service.threshold (contextOf request) [served])

def failureCode : String := "INTERNAL_ERROR"

/-- What a client is told of a failure inside the service. -/
def failureResponse : Response :=
  ⟨500, .json (Problem.general failureCode "Internal server error" []).response⟩

/-- Handle a request: the service after it, the response and the records that are kept. -/
def handle (files : FileTree) (request : Request) (service : Service) :
    Service × Response × List Json.Fields :=
  let context := contextOf request
  let effect := service.dispatch files context request
  let after := effect.service
  match effect.outcome with
  | .answered response => conclude request response after effect.records
  | .refused problem =>
    let reported := after.event .error "ACL error" [("code", .str problem.code),
      ("message", .ofLoose problem.message), ("details", .obj problem.details)]
    let counted := { after with metrics := after.metrics.recordError problem.code }
    conclude request ⟨400, .json problem.response⟩ counted
      (effect.records ++ Log.records after.threshold context [reported])
  | .failed message =>
    let reported := after.event .error "Unhandled exception" [("error", .str message)]
    ({ after with metrics := after.metrics.recordError failureCode },
      failureResponse.sent request,
      effect.records ++ Log.records after.threshold .empty [reported])

end Service

end TopicAccess
