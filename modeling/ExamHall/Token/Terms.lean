import ExamHall.Json.Decode
import ExamHall.Json.Shape

/-!
# Headers and terms of tokens

The header of a token names the algorithm of its signature. It may carry the key
that the token was signed with: such a key is not used, but a header with a
malformed one does not count. A key is an object with members that all keys may
have and with those of one kind of key; others are passed over.

The body of a token says, beside the claims about the caller, on which terms it
holds. Terms that are malformed count as not given; a term that is given twice
makes the whole body invalid.
-/

namespace ExamHall.Token

/-- Whether a value is a text. -/
def isText (json : Json) : Bool := (Json.asText json).isOk

/-- Whether a value is a list of texts. -/
def isTexts (json : Json) : Bool := (Json.asList Json.asText json).isOk

/-- Whether a value is one of a few words. -/
def isWordAmong (words : List String) (json : Json) : Bool :=
  (Json.asWord (fun word => words.find? fun known => known == word) json).isOk

/-- Whether a value names an algorithm, known or not. -/
def namesAlgorithm : Json → Bool
  | .text _ | .record [(_, .null)] | .record [(_, .record [])] => true
  | _ => false

/-- Whether a member that may be absent or `null` is well formed and not
repeated. -/
def isOptionalMember (members : List (String × Json))
    (field : String × (Json → Bool)) : Bool :=
  match members.filter fun member => member.1 == field.1 with
  | [] | [(_, .null)] => true
  | [(_, json)] => field.2 json
  | _ => false

/-- Whether a member is there, well formed and not repeated. -/
def isRequiredMember (members : List (String × Json))
    (field : String × (Json → Bool)) : Bool :=
  match members.filter fun member => member.1 == field.1 with
  | [(_, json)] => field.2 json
  | _ => false

/-- The members that a key of any kind may have. -/
def commonMembers : List (String × (Json → Bool)) :=
  [("use", isText), ("key_ops", isTexts), ("alg", namesAlgorithm),
    ("kid", isText), ("x5u", isText), ("x5c", isTexts), ("x5t", isText),
    ("x5t#S256", isText)]

/-- Whether a value names a curve. -/
def isCurve : Json → Bool := isWordAmong ["P-256", "P-384", "P-521", "Ed25519"]

/-- The members of each kind of key: of a point on a curve, of a modulus with
its exponent, of a shared secret, and of a coordinate on a curve. -/
def keyKinds : List (List (String × (Json → Bool))) :=
  [[("kty", isWordAmong ["EC"]), ("crv", isCurve), ("x", isText),
    ("y", isText)], [("kty", isWordAmong ["RSA"]), ("n", isText),
      ("e", isText)], [("kty", isWordAmong ["oct"]), ("k", isText)],
    [("kty", isWordAmong ["OKP"]), ("crv", isCurve), ("x", isText)]]

/-- Whether a value describes a key. -/
def isKey : Json → Bool
  | .record members =>
    commonMembers.all (isOptionalMember members) &&
      keyKinds.any fun kind => kind.all (isRequiredMember members)
  | _ => false

open Json

/-- The one supported algorithm. -/
def algorithm : String := "HS256"

/-- What the header of a token looks like. -/
def headerShape : Shape :=
  .record [
    ("typ", .inLists, .option .anyText),
    ("alg", .always, .word fun name => name == algorithm),
    ("cty", .inLists, .option .anyText),
    ("jku", .inLists, .option .anyText),
    ("jwk", .inLists, .option (.any isKey)),
    ("kid", .inLists, .option .anyText),
    ("x5u", .inLists, .option .anyText),
    ("x5c", .inLists, .option (.list .anyText)),
    ("x5t", .inLists, .option .anyText),
    ("x5t#S256", .inLists, .option .anyText)]

/-- Whether bytes are a header that names the supported algorithm. -/
def isHeader (bytes : List UInt8) : Bool :=
  (headerShape.readAll bytes).isOk

/-- Which terms the body of a token gives. -/
structure Terms where
  hasExpiry : Bool
  hasSubject : Bool
  hasAudience : Bool
deriving DecidableEq, Repr

namespace Terms

/-- Whether a value is a number of seconds of the epoch. -/
def isSeconds : Json → Bool
  | .number (.integer value) => decide (0 ≤ value)
  | _ => false

/-- Whether a value names one party or several. -/
def isParty (json : Json) : Bool := isText json || isTexts json

/-- Reads which terms are given. -/
def ofJson : Decoder Terms := fun json => do
  let fields ← asRecord ["exp", "nbf", "sub", "iss", "aud"] json
  let expiry ← fields.optional "exp" pure
  let subject ← fields.optional "sub" pure
  let audience ← fields.optional "aud" pure
  pure
    { hasExpiry := expiry.isSome, hasSubject := subject.isSome,
      hasAudience := audience.isSome }

/-- The terms in the body of a token. -/
def form : Form Terms where
  shape := .record [
    ("exp", .never, .lenient (.single isSeconds)),
    ("nbf", .never, .lenient (.single isSeconds)),
    ("sub", .inLists, .lenient (.option .anyText)),
    ("iss", .inLists, .lenient (.option (.any isParty))),
    ("aud", .inLists, .lenient (.option (.any isParty)))]
  decode := ofJson

end Terms

end ExamHall.Token
