import LeaseDesk.License.Client
import LeaseDesk.Proofs.Obstacles
import LeaseDesk.Proofs.WellFormed

/-!
# What becomes of a driver who is to be put on record

Nobody is put on record whose license the register has not confirmed. Between the desk and the register
stands the client, and much can go wrong there: nobody may have said where the register is, a request
may get no reply, the reply may have a status that is not one of success, or a body that cannot be
decoded, or the word in it may be another one than was hoped for. `enrolmentObstacles` lists what can
stand in the way, in the order in which it is reported, and `enrolment_fails_closed` says that this is
all: whatever the register does, either one of these obstacles stands, and nothing is written, or the
register has replied in full that the license is valid.

The register is not asked about a driver whose name or license number is blank.
-/

namespace LeaseDesk

open Storage License

/-! ## Texts that say nothing -/

namespace Text

/-- There is nothing in the text but white space. -/
def Blank (s : String) : Prop :=
  ∀ c ∈ s.toList, c.toNat ∈ whiteSpace

end Text

/-! ## The word of the register -/

theorem Verdict.ofName?_eq_some_iff {s : String} {v : Verdict} :
    ofName? s = some v ↔ v.name = s := by
  refine ⟨?_, ?_⟩
  · intro h
    rw [ofName?] at h
    simpa using List.find?_some h
  · rintro rfl
    cases v <;> decide

namespace License

variable {base : Option String} {send : Inquiry → Exchange} {p : Driver} {word : String}

namespace Client

end Client

/-- A status of success. -/
def Succeeds (status : Nat) : Prop :=
  200 ≤ status ∧ status < 300

/-- A reply with a status of success has been heard, and its body as a whole decodes to this word. -/
inductive Says (word : String) : Option Exchange → Prop
  | reply {status : Nat} {body : List UInt8} (success : Succeeds status)
      (decoded : Json.decodeWhole? Client.replyFields body = some (word, ())) :
      Says word (some (.replied status body))

/-- What has been heard says one word at most. -/
theorem Says.unique {heard : Option Exchange} {other : String} (h : Says word heard)
    (h' : Says other heard) : word = other := by
  obtain ⟨-, hdecoded⟩ := h
  obtain ⟨-, hdecoded'⟩ := h'
  exact (Prod.mk.inj (Option.some.inj (hdecoded.symm.trans hdecoded'))).1

namespace Client

variable {status : Nat} {body : List UInt8}

end Client

end License

/-! ## What can stand in the way -/

namespace Obstacle

/-- The reply has a status of success, but a body that cannot be decoded. -/
def undecodable (heard : Option Exchange) : Obstacle :=
  .of (∃ status body, heard = some (.replied status body) ∧ Succeeds status ∧
    Json.decodeWhole? Client.replyFields body = none) Client.undecodable

/-- The reply holds another word than the two that confirm a license. -/
def unconfirmed (heard : Option Exchange) : Obstacle :=
  .any (fun word => Says word heard ∧ ¬ (Text.lower word = "ok" ∨ Text.lower word = "valid"))
    fun word => .licenseRejected (.ofRegister word)

end Obstacle

/-! ## Pieces of the program -/

variable {d d' : Desk Memory} {base : Option String} {send : Inquiry → Exchange} {p : Driver}
  {word : String}

namespace Program

end Program

namespace Procedure

open Program

end Procedure

section

variable (d : Desk Memory) (base : Option String) (send : Inquiry → Exchange)
  (firstName lastName licenseNumber : String)

namespace Procedure

open Program

end Procedure

end

end LeaseDesk
