import ExamHall.Json.Basic
import ExamHall.Text.Case

/-!
# Messages

A request with its method, address, headers and body, and the reply to it. Names
of headers are compared without regard to case.
-/

namespace ExamHall

/-- The method of a request. -/
inductive HttpMethod where
  | get
  | head
  | post
  | put
  | options
  | other (name : String)
deriving DecidableEq, Repr

/-- The method with a name. -/
def HttpMethod.ofWord : String → HttpMethod
  | "GET" => .get
  | "HEAD" => .head
  | "POST" => .post
  | "PUT" => .put
  | "OPTIONS" => .options
  | name => .other name

/-- The headers of a message in their order. -/
abbrev Headers := List (String × String)

namespace Headers

/-- Whether two names are those of one header. -/
def isSameName (left right : String) : Bool :=
  left.toLower == right.toLower

/-- The first value of a header. -/
def find? (headers : Headers) (name : String) : Option String :=
  (List.find? (fun (header : String × String) => isSameName header.1 name)
    headers).map (·.2)

/-- Whether a character stands for itself in the value of a header. -/
def isVisible (c : Char) : Bool :=
  c == '\t' || decide (32 ≤ c.toNat ∧ c.toNat < 127)

/-- The first value of a header, if it is made of visible characters. -/
def visible? (headers : Headers) (name : String) : Option String :=
  (headers.find? name).filter fun value => value.toList.all isVisible

end Headers

/-- A request. -/
structure HttpRequest where
  method : HttpMethod
  path : String
  query : String
  headers : Headers
  body : String

/-- A reply, with a body in JSON or without a body. -/
structure HttpReply where
  status : Nat
  headers : Headers
  body : Option Json

/-- A reply with one more header. -/
def HttpReply.withHeader (reply : HttpReply) (name value : String) :
    HttpReply :=
  { reply with headers := reply.headers ++ [(name, value)] }

end ExamHall
