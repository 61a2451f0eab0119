import LeaseDesk.Record

/-!
# Rules of contracts, assignments and vehicles

**Dates against instants.** Whether a contract overlaps the days of another one is decided on dates,
with the last day excluded: a contract may begin on the day on which another one ends. Whether a contract is active is
decided on instants, with the last day and the moment of termination included. The two notions are kept
apart: `Contract.overlaps` guards the making of contracts, `Contract.isActiveAt` the handing out of
vehicles, and `Contract.blocksDriverDeletion` the deletion of drivers.
-/

namespace LeaseDesk

namespace Contract

/-- Somebody has terminated the contract. -/
def isTerminated (c : Contract) : Bool :=
  c.terminatedAt.isSome

/-- The last day for the purpose of overlaps: the agreed one, or the day of termination if that is
earlier. -/
def effectiveEnd (c : Contract) : Date :=
  match c.terminatedAt with
  | none => c.endDate
  | some t => c.endDate.earlier t.date

/-- The contract is between these parties and about this fleet. -/
def covers (c : Contract) (driverId legalEntityId fleetId : String) : Bool :=
  c.driverId == driverId && c.legalEntityId == legalEntityId && c.fleetId == fleetId

/-- The contract effectively ends after `first` and begins before `last`. If it effectively ends after
its first day, and if there are days from `first` up to, but not including, `last`, they have a day in
common then. A contract that was terminated on its first day or before has no day to share, and overlaps
all the same the days that reach from before its end to after its beginning. -/
def overlaps (c : Contract) (first last : Date) : Bool :=
  decide (first < c.effectiveEnd) && decide (c.startDate < last)

/-- The agreed last day has not passed. The last day of the calendar never does. -/
def isWindowOpen (c : Contract) (now : Instant) : Bool :=
  match c.endDate.next? with
  | none => true
  | some dayAfter => decide (now < Instant.startOfDay dayAfter)

/-- Vehicles may be handed out under the contract: it has begun, its last day has not passed, and if it
is terminated at all, then not before now. -/
def isActiveAt (c : Contract) (now : Instant) : Bool :=
  decide (Instant.startOfDay c.startDate ≤ now) && c.isWindowOpen now
    && c.terminatedAt.all fun t => decide (now ≤ t)

/-- The contract stands in the way of deleting its driver: it is not terminated, and its last day has
not passed. It need not have begun. -/
def blocksDriverDeletion (c : Contract) (now : Instant) : Bool :=
  !c.isTerminated && c.isWindowOpen now

end Contract

namespace Assignment

/-- The driver has returned the vehicle. -/
def isReturned (a : Assignment) : Bool :=
  a.endTime.isSome

end Assignment

/-- The driver has the vehicle: the assignment is neither deleted nor returned. -/
def Record.isActive (r : Record Assignment) : Bool :=
  r.isLive && !r.data.isReturned

namespace Vehicle

/-- The first year that is taken for the year a vehicle was built. -/
def firstYear : Int := 1900

/-- The last year that is taken for the year a vehicle was built. -/
def lastYear : Int := 2100

/-- A vehicle may have been built in this year. -/
def isPlausibleYear (year : Int) : Bool :=
  decide (firstYear ≤ year) && decide (year ≤ lastYear)

end Vehicle

end LeaseDesk
