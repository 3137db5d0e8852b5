import ExamHall.Proofs.Session.Serving
import ExamHall.Proofs.Text.Bytes
import ExamHall.Proofs.Text.Pieces

/-!
# Issued tokens

Who brings a token that has been issued with the key of the service is known as
the one whom the token names, until the token has expired.
-/

namespace ExamHall

namespace Token

/-- The header of a token as it is written into it. -/
def headerJson : Json :=
  .record [("typ", .text "JWT"), ("alg", .text algorithm)]

/-- The claims of a token as they are written into it. -/
def claimsJson (claims : Claims) : Json :=
  .record [("sub", .text claims.subject), ("role", .text claims.role.word),
    ("exp", .ofInt claims.expiresAt)]

theorem isHeader_headerJson :
    isHeader (Text.utf8 headerJson.render) = true := by
  decide +kernel

/-- The parts of a token are not divided any further. -/
theorem period_not_mem (bytes : List UInt8) :
    '.' ∉ (Text.base64 bytes).toList := by
  rw [Text.base64, String.toList_ofList]
  have free : ∀ value < 64, Text.base64Char value ≠ '.' := by decide +kernel
  intro inside
  obtain ⟨value, small, same⟩ := Text.exists_base64Char_of_mem inside
  exact free value small same

theorem ofBase64?_writePart (json : Json) :
    Text.ofBase64? (writePart json) = some (Text.utf8 json.render) := by
  rw [writePart, Text.base64, String.toList_ofList, Text.ofBase64?_base64Chars]

theorem toList_issue (key : String) (claims : Claims) :
    (issue key claims).toList =
      writePart headerJson ++ '.' :: writePart (claimsJson claims) ++ '.' ::
      signaturePart key (writePart headerJson)
        (writePart (claimsJson claims)) :=
  String.toList_ofList

theorem pieces_issue (key : String) (claims : Claims) :
    Text.pieces '.' (issue key claims).toList =
      [writePart headerJson, writePart (claimsJson claims), signaturePart key
        (writePart headerJson) (writePart (claimsJson claims))] := by
  have whole : ∀ json, '.' ∉ writePart json := fun json => period_not_mem _
  have signed : ∀ header body, '.' ∉ signaturePart key header body :=
    fun _ _ => period_not_mem _
  rw [toList_issue, List.append_assoc, List.cons_append,
    Text.pieces_append_mark (whole _), Text.pieces_append_mark (whole _),
    Text.pieces_of_not_mem (signed _ _)]

/-- The body of an issued token is what has been written into it. -/
theorem signedBody?_issue (key : String) (claims : Claims) :
    signedBody? key (issue key claims) =
      bodyOf? (Text.utf8 (claimsJson claims).render) := by
  unfold signedBody?
  rw [pieces_issue]
  simp only [ofBase64?_writePart, Option.bind_eq_bind, Option.bind_some,
    isHeader_headerJson, beq_self_eq_true, Bool.and_true, if_true]

/-- An issued token counts under the settings of an installation with its key as
long as its claims hold. -/
theorem verify?_issue {settings : Settings} {now : Instant} {claims : Claims}
    {terms : Terms} {earliest : Nat}
    (supported : settings.algorithm = algorithm)
    (read : bodyOf? (Text.utf8 (claimsJson claims).render) =
      some (claims, terms)) (forAll : terms.hasAudience = false)
    (running : earliestExpiry? now = some earliest)
    (current : (earliest : Int) ≤ claims.expiresAt) :
    verify? settings now (issue settings.secretKey claims) =
      some (.ok claims) := by
  rw [verify?, if_pos supported, signedBody?_issue, read]
  dsimp only
  rw [running]
  exact congrArg some (if_pos ⟨current, forAll⟩)

end Token

/-- An issued token can stand in a header. -/
theorem isVisible_issue (key : String) (claims : Claims) :
    ("Bearer " ++ Token.issue key claims).toList.all Headers.isVisible =
      true := by
  have visible : ∀ value < 64,
    Headers.isVisible (Text.base64Char value) = true := by decide +kernel
  have written : ∀ bytes, ∀ c ∈ (Text.base64 bytes).toList,
      Headers.isVisible c = true := by
    intro bytes c inside
    rw [Text.base64, String.toList_ofList] at inside
    obtain ⟨value, small, rfl⟩ := Text.exists_base64Char_of_mem inside
    exact visible value small
  have opens : "Bearer ".toList.all Headers.isVisible = true := by
    decide +kernel
  have parts : Headers.isVisible '.' = true := by decide +kernel
  rw [String.toList_append, Token.toList_issue, List.all_append,
    List.all_append, List.all_append, List.all_cons, List.all_cons,
    opens, parts]
  simp only [Bool.true_and, Bool.and_eq_true, List.all_eq_true]
  exact ⟨⟨written _, written _⟩, written _⟩

namespace Session

/-- The claims of a token that is issued at the time of a session. -/
def claimsOf (session : Session) (subject : String) (role : Role)
    (expiresIn : Int) : Claims :=
  { subject, role, expiresAt := session.now.epochSeconds + expiresIn }

/-- Who brings a token that has just been issued is known. -/
theorem caller?_token {session : Session} (request : HttpRequest)
    {subject : String} {role : Role} {expiresIn : Int} (terms : Token.Terms)
    (earliest : Nat) (supported : session.settings.algorithm = Token.algorithm)
    (read : Token.bodyOf? (Text.utf8
      (Token.claimsJson (session.claimsOf subject role expiresIn)).render) =
      some (session.claimsOf subject role expiresIn, terms))
    (forAll : terms.hasAudience = false)
    (running : Token.earliestExpiry? session.now = some earliest)
    (current : (earliest : Int) ≤ session.now.epochSeconds + expiresIn) :
    Access.caller? session.settings session.now
      (session.signed request (.token subject role expiresIn)) =
      some (.ok ⟨subject, role⟩) := by
  have named : Headers.isSameName "authorization" "authorization" = true := by
    decide +kernel
  have found :
      (session.signed request (.token subject role expiresIn)).headers.find?
        "authorization" =
        some ("Bearer " ++ Token.issue session.settings.secretKey
          (session.claimsOf subject role expiresIn)) := by
    simp [signed, authorization, Headers.find?, named, claimsOf]
  have token :
      Access.tokenOf? (session.signed request (.token subject role expiresIn)) =
        some (Token.issue session.settings.secretKey
          (session.claimsOf subject role expiresIn)) := by
    have kept := isVisible_issue session.settings.secretKey
      (session.claimsOf subject role expiresIn)
    rw [Access.tokenOf?, Headers.visible?, found, Option.filter_some,
      if_pos kept, Option.bind_some, String.toList_append]
    exact congrArg some String.ofList_toList
  rw [Access.caller?, token]
  dsimp only
  rw [Token.verify?_issue supported read forAll running current]
  rfl

/-- The student of the small service. -/
def student : Credential :=
  .token "s" .student 60

/-- The small service knows its student. -/
theorem student_known {session : Session} (request : HttpRequest)
    (settings : session.settings = (withOneStudent Column.origin).settings)
    (now : session.now = Column.origin) :
    Access.caller? session.settings session.now
      (session.signed request student) = some (.ok ⟨"s", .student⟩) := by
  refine caller?_token request ⟨true, true, false⟩ 946684740 ?_ ?_ rfl ?_ ?_
  · rw [settings]
    rfl
  · rw [claimsOf, now]
    decide +kernel
  · rw [now]
    decide +kernel
  · rw [now]
    decide +kernel

end Session

end ExamHall
