import LeaseDesk.Program
import LeaseDesk.Text.Numerals

/-!
# The desk

The desk is what the programs of the service run on: a clock, a source of identifiers, the license
register with a note of every driver it was asked about, and a storage. `Desk.host` answers the asks of a
program from these. The clock and the register stand still while a program runs; between two programs
they can be set to anything.
-/

namespace LeaseDesk

open Storage (Attempt)

/-- Identifiers in a fixed order, of which some have been drawn. -/
structure IdSource where
  /-- the identifiers, in the order in which they are drawn -/
  ids : Nat → String
  /-- how many have been drawn -/
  drawn : Nat

namespace IdSource

/-- Identifiers numbered from 1 behind a common beginning. -/
def numbered (beginning : String) : IdSource :=
  ⟨fun n => beginning ++ "-" ++ Text.Decimal.natText (n + 1), 0⟩

/-- The identifiers of a list, and empty ones when the list is used up. -/
def listed (ids : List String) : IdSource :=
  ⟨fun n => ids.getD n "", 0⟩

/-- The identifier drawn next. -/
def next (s : IdSource) : String := s.ids s.drawn

/-- The source after a draw. -/
def advance (s : IdSource) : IdSource := ⟨s.ids, s.drawn + 1⟩

end IdSource

/-- What the license register says of a driver, if it can be asked. -/
abbrev Register : Type := Driver → Except Failure Verdict

/-- The desk, with a storage whose contents are of type `σ`. -/
structure Desk (σ : Type) where
  /-- what the clock shows -/
  clock : Instant
  /-- where identifiers come from -/
  ids : IdSource
  /-- the license register -/
  register : Register
  /-- the drivers the register was asked about, the latest last -/
  inquiries : List Driver
  /-- the contents of the storage -/
  contents : σ

namespace Desk

variable {σ : Type}

/-- What is answered to an ask, and the desk afterwards. -/
def answer (storage : Storage.Backend σ) (request : Ask) (d : Desk σ) :
    Except Failure request.Answer × Desk σ :=
  match request with
  | .clock => (.ok d.clock, d)
  | .freshId => (.ok d.ids.next, { d with ids := d.ids.advance })
  | .verdict driver => (d.register driver, { d with inquiries := d.inquiries ++ [driver] })
  | .storage call =>
    match storage.answer call d.contents with
    | (result, contents) => (result, { d with contents := contents })

/-- The desk as a host of programs. -/
def host (storage : Storage.Backend σ) : Host (Desk σ) := ⟨answer storage⟩

end Desk

end LeaseDesk
