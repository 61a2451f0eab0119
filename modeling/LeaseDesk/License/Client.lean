import LeaseDesk.Desk
import LeaseDesk.Json.Decode
import LeaseDesk.Json.Value
import LeaseDesk.Url.Parser

/-!
# Asking the license register

The register is asked by a POST request that tells it the three facts about a driver, and its reply is a
JSON object with a word in it. The client **fails closed**: without an address, without a connection, on
a status outside 200 to 299 and on a reply that cannot be decoded there is a failure, and a word that is
not understood is the verdict *unknown*. None of these lets a driver in.
-/

namespace LeaseDesk.License

/-- A request to the register. -/
structure Inquiry where
  /-- where it is sent -/
  url : Url
  /-- what it says -/
  body : String
deriving DecidableEq

/-- What becomes of a request. -/
inductive Exchange
  /-- no reply was to be had -/
  | failed (reason : String)
  /-- a reply with a status and a body -/
  | replied (status : Nat) (body : List UInt8)

namespace Client

/-- The address of the check, below the base address of the register. -/
def addressBelow (base : String) : String :=
  String.ofList (base.toList.reverse.dropWhile (· == '/')).reverse ++ "/v1/licenses/validate"

/-- What a request says about a driver. -/
def inquiryBody (d : Driver) : String :=
  Json.render (.object [("first_name", .text d.firstName), ("last_name", .text d.lastName),
    ("license_number", .text d.licenseNumber)])

/-- The form in which a request is sent. -/
def contentType : String := "application/json"

/-- The fields of a reply. -/
def replyFields : List Json.Field := [.text "result"]

/-- The reply cannot be decoded. -/
def undecodable : Failure :=
  .internal "invalid license validator response: error decoding response body"

/-- The verdict that a reply amounts to. -/
def judge : Exchange → Except Failure Verdict
  | .failed reason => .error (.registerUnavailable reason)
  | .replied status body =>
    if 200 ≤ status ∧ status < 300 then
      match Json.decodeWhole? replyFields body with
      | none => .error undecodable
      | some (word, ()) => .ok (Verdict.ofRegister word)
    else .error (.registerUnavailable
      ("license validator returned " ++ Text.Decimal.natText status))

/-- Why no request can be made for an address. -/
def unmakeable (url : Option Url) : String :=
  match url with
  | none => "builder error"
  | some url => "builder error for url (" ++ url.text ++ ")"

/-- The request about a driver, if the base address of the register is fit for one, and otherwise the
reason why not. User and password are no part of the address that is asked. -/
def inquiry (base : String) (d : Driver) : Except String Inquiry :=
  match (Url.ofText? (addressBelow base)).map Url.withoutUser with
  | none => .error (unmakeable none)
  | some url => if url.isRequestable then .ok ⟨url, inquiryBody d⟩ else .error (unmakeable (some url))

/-- The register as the client sees it, given what becomes of requests. -/
def register (base : Option String) (send : Inquiry → Exchange) : Register := fun d =>
  match base with
  | none => .error .registerUnconfigured
  | some base =>
    match inquiry base d with
    | .error reason => .error (.registerUnavailable reason)
    | .ok inquiry => judge (send inquiry)

end Client

end LeaseDesk.License
