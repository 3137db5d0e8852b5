import ExamHall.Api.Handle
import ExamHall.Http.Origin

/-!
# Answering requests

Every request gets a reply: from its endpoint, or with the status 404 or 405 if
there is none at its address or none for its method. Replies repeat the identity
of the request and tell browsers what pages of other origins may see. The
metrics stand outside of all this.
-/

namespace ExamHall.Server

/-- A reply without a body and without headers. -/
def bareReply (status : Nat) : HttpReply :=
  { status, headers := [], body := none }

/-- The reply that an ended action gives. -/
def replyOf : Except Refusal Json → HttpReply
  | .ok body => { status := 200, headers := [], body := some body }
  | .error refusal => refusal.reply

/-- The reply to a request as it is sent: without a body if only the head was
asked for. -/
def withoutBodyFor (method : HttpMethod) (reply : HttpReply) : HttpReply :=
  if method = .head then { reply with body := none } else reply

/-- The reply from the routes of the service. -/
def routed (request : HttpRequest) : Action Refusal HttpReply := do
  match Endpoint.route? (← read).settings.apiPath request.path with
  | none => pure (bareReply 404)
  | some route =>
    if route.allows request.method then
      match route.endpoint with
      | none => pure (bareReply 400)
      | some endpoint => do
        let ended ← Action.outcome (Handle.endpoint request endpoint)
        pure (replyOf ended)
    else pure (bareReply 405)

/-- A reply that repeats the identity of its request. -/
def identified (request : HttpRequest) (reply : HttpReply) : HttpReply :=
  match request.headers.find? OriginPolicy.requestIdHeader with
  | some identity => reply.withHeader OriginPolicy.requestIdHeader identity
  | none => reply

/-- The address of the metrics. -/
def metricsPath : String := "/metrics"

/-- The reply to a request for the metrics, of which none have been
collected. -/
def metricsReply (request : HttpRequest) : HttpReply :=
  if request.method = .get ∨ request.method = .head then bareReply 503
  else bareReply 405

/-- Answers a request. -/
def respond (request : HttpRequest) : Action Refusal HttpReply := do
  let settings := (← read).settings
  let policy := OriginPolicy.ofSettings settings
  if settings.metricsEnabled && request.path == metricsPath
    then pure (metricsReply request)
  else if request.method = .options then pure (policy.preflight request)
  else do
    let reply ← routed request
    pure (withoutBodyFor request.method
        (policy.disclose request (identified request reply)))

/-- Whether a service can run under its settings. -/
def canRun (settings : Settings) : Bool :=
  Endpoint.canStandBelow settings.apiPath &&
    (OriginPolicy.ofSettings settings).isEnforceable

end ExamHall.Server
