import ExamHall.Http.Message
import ExamHall.Settings.Basic

/-!
# Requests from other origins

Browsers ask whether pages of other origins may call. Either a list of origins
may, also with credentials, or every origin may, without them.
-/

namespace ExamHall

/-- Which origins may call. -/
inductive OriginPolicy where
  | everyone
  | listed (origins : List String)
deriving DecidableEq, Repr

namespace OriginPolicy

/-- Whether a character may stand in a header. -/
def isHeaderChar (c : Char) : Bool :=
  c == '\t' || decide (32 ≤ c.toNat ∧ c.toNat ≠ 127)

/-- The policy of an installation: the origins of its settings that a header can
hold, or everyone if there are none. -/
def ofSettings (settings : Settings) : OriginPolicy :=
  match settings.origins.filter fun origin =>
    origin.toList.all isHeaderChar with
  | [] => .everyone
  | origins => .listed origins

/-- Whether a policy can be put into force: a list cannot hold the sign for
every origin. -/
def isEnforceable : OriginPolicy → Bool
  | .everyone => true
  | .listed origins => !origins.contains "*"

/-- The headers that say whether the origin of a request may call. -/
def permission (policy : OriginPolicy) (request : HttpRequest) : Headers :=
  match policy with
  | .everyone => [("access-control-allow-origin", "*")]
  | .listed origins =>
    (((request.headers.find? "origin").filter origins.contains).map
      fun origin => ("access-control-allow-origin", origin)).toList ++
      [("access-control-allow-credentials", "true")]

/-- The header that names the identity of a request. -/
def requestIdHeader : String := "x-request-id"

/-- The reply to a request that only asks what may be called. -/
def preflight (policy : OriginPolicy) (request : HttpRequest) : HttpReply :=
  { status := 200
    headers := policy.permission request ++
      [("access-control-allow-methods", "GET,POST,PUT,PATCH,DELETE,OPTIONS"),
        ("access-control-allow-headers",
          "authorization,content-type,accept,origin,x-request-id"),
        ("access-control-max-age", "3600")]
    body := none }

/-- A reply with the headers for pages of other origins. -/
def disclose (policy : OriginPolicy) (request : HttpRequest)
    (reply : HttpReply) : HttpReply :=
  { reply with
    headers := reply.headers ++ policy.permission request ++
      [("access-control-expose-headers", requestIdHeader)] }

end OriginPolicy

end ExamHall
