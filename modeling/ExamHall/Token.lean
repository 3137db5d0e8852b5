import ExamHall.Calendar.Instant
import ExamHall.Caller
import ExamHall.Digest.Sha256
import ExamHall.Json.Basic
import ExamHall.Settings.Basic
import ExamHall.Text.Pieces
import ExamHall.Token.Terms

/-!
# Bearer tokens

A token has three parts in base 64: a header, the claims, and the keyed hash of
the first two. Its header names the algorithm, its claims say who the caller is
and until when they hold. A token that is meant for a certain audience does not
count. Tokens are issued elsewhere with the same key; `issue` writes such a
token.
-/

namespace ExamHall

/-- The claims of a token: who calls, in which role, and until when in seconds
of the epoch. -/
structure Claims where
  subject : String
  role : Role
  expiresAt : Int
deriving DecidableEq, Repr

namespace Claims

/-- The caller that claims name. -/
def caller (claims : Claims) : Caller :=
  ⟨claims.subject, claims.role⟩

/-- Reads claims. -/
def ofJson : Decoder Claims := fun json => do
  let fields ← Json.asRecord ["sub", "role", "exp"] json
  let subject ← fields.required "sub" Json.asText
  let role ← fields.required "role" (Json.asWord Role.ofWord?)
  let expiresAt ← fields.required "exp" (Json.asSigned 64)
  pure { subject, role, expiresAt }

/-- The claims in the body of a token. -/
def form : Json.Form Claims where
  shape := .record [
    ("sub", .always, .anyText),
    ("role", .always, .word fun name => (Role.ofWord? name).isSome),
    ("exp", .always, .signed 64)]
  decode := ofJson

end Claims

/-- Why a token does not count. -/
inductive TokenError where
  | notVerified
  | unsupportedAlgorithm (name : String)
deriving DecidableEq, Repr

/-- What a token error says. -/
def TokenError.message : TokenError → String
  | .notVerified => "jwt decoding failed"
  | .unsupportedAlgorithm name => "unsupported jwt algorithm: " ++ name

namespace Token

/-- How many seconds a token is accepted after it has expired. -/
def leewaySeconds : Nat := 60

/-- The signature that belongs to the first two parts of a token. -/
def signature (key : String) (header claims : List Char) : List UInt8 :=
  Hmac.sign (Text.utf8 key)
    (Text.utf8 (String.ofList (header ++ '.' :: claims)))

/-- The signature as a part of a token. -/
def signaturePart (key : String) (header claims : List Char) : List Char :=
  (Text.base64 (signature key header claims)).toList

/-- The claims and the terms in the body of a token, which has to say for whom
and until when it holds. -/
def bodyOf? (bytes : List UInt8) : Option (Claims × Terms) :=
  match Claims.form.readAll bytes, Terms.form.readAll bytes with
  | .ok claims, .ok terms =>
    if terms.hasExpiry && terms.hasSubject then some (claims, terms) else none
  | _, _ => none

/-- The claims and the terms of a token that is signed with a key. -/
def signedBody? (key : String) (token : String) : Option (Claims × Terms) :=
  match Text.pieces '.' token.toList with
  | [header, body, signed] => do
    let headerBytes ← Text.ofBase64? header
    let bodyBytes ← Text.ofBase64? body
    if isHeader headerBytes && signed == signaturePart key header body
      then bodyOf? bodyBytes else none
  | _ => none

/-- The earliest expiry that is still accepted at a time. There is none if the
clock has not yet run for as long as expired tokens are accepted. -/
def earliestExpiry? (now : Instant) : Option Nat :=
  if leewaySeconds ≤ now.epochSecondWord
    then some (now.epochSecondWord - leewaySeconds) else none

/-- Verifies a token under the settings of an installation. There is no answer
for a signed token when there is no earliest expiry. -/
def verify? (settings : Settings) (now : Instant) (token : String) :
    Option (Except TokenError Claims) :=
  if settings.algorithm = algorithm then
    match signedBody? settings.secretKey token with
    | none => some (.error .notVerified)
    | some (claims, terms) =>
      (earliestExpiry? now).map fun earliest =>
        if (earliest : Int) ≤ claims.expiresAt ∧ terms.hasAudience = false
          then .ok claims
        else .error .notVerified
  else some (.error (.unsupportedAlgorithm settings.algorithm))

/-- A JSON value as a part of a token. -/
def writePart (json : Json) : List Char :=
  (Text.base64 (Text.utf8 json.render)).toList

/-- A token with given claims. -/
def issue (key : String) (claims : Claims) : String :=
  let header :=
    writePart (.record [("typ", .text "JWT"), ("alg", .text algorithm)])
  let body := writePart (.record [("sub", .text claims.subject),
    ("role", .text claims.role.word), ("exp", .ofInt claims.expiresAt)])
  String.ofList (header ++ '.' :: body ++ '.' :: signaturePart key header body)

end Token

end ExamHall
