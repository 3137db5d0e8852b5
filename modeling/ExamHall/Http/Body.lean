import ExamHall.Http.Message
import ExamHall.Json.Shape
import ExamHall.Text.Pieces

/-!
# Request bodies

A body counts only if its type says that it is JSON. Its first value is read by
a form; what follows that value is not looked at. Of two faults the first one
counts: a body that breaks off is unreadable, unless a value before the broken
place is already wrong.
-/

namespace ExamHall

/-- Why a body is not taken. -/
inductive BodyFault where
  | unsupportedType
  | unreadable
  | mismatched
deriving DecidableEq, Repr

/-- The status that answers a body that is not taken. -/
def BodyFault.status : BodyFault → Nat
  | .unsupportedType => 415
  | .unreadable => 400
  | .mismatched => 422

namespace HttpBody

/-- Whether a subtype of a content type is JSON or made of JSON, which its last
part after a plus sign then says. -/
def isJsonSubtype (subtype : List Char) : Bool :=
  let ending := (Text.before '+' subtype.reverse).reverse
  let beginning := (Text.after '+' subtype.reverse).reverse
  ending == ['j', 's', 'o', 'n'] || beginning == ['j', 's', 'o', 'n']

/-- Whether a content type is JSON; its parameters do not matter. -/
def isJsonType (contentType : String) : Bool :=
  let name := Text.before ';' contentType.toLower.toList
  String.ofList (Text.before '/' name) ==
    "application" && isJsonSubtype (Text.after '/' name)

/-- Reads the body of a request. -/
def read {α : Type} (request : HttpRequest) (form : Json.Form α) :
    Except BodyFault α :=
  if (request.headers.visible? "content-type").any isJsonType then
    match form.readLeading (Text.utf8 request.body) with
    | .ok value => .ok value
    | .error .malformed => .error .unreadable
    | .error .mismatch => .error .mismatched
  else .error .unsupportedType

end HttpBody

end ExamHall
