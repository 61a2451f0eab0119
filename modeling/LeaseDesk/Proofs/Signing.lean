import LeaseDesk.Proofs.Days
import LeaseDesk.Proofs.Obstacles
import LeaseDesk.Proofs.Order

/-!
# What becomes of a contract that is asked for

Seven things can stand in the way of a new contract, and `Procedure.decided_createContract` lists
them in the order in which they are reported. Most of them are about the arguments and the records
that these name. One is about all contracts there are: no contract of the same parties about the
same fleet may begin before the new one ends and effectively end after the new one begins
(`Books.Clashes`). If several do, then the one is named that comes first by its first day, and among
those that begin on the same day, by its identifier (`Books.FirstClash`).

If nothing stands in the way, the contract can be looked up afterwards, and it is among the
contracts of its driver (`Signed`).
-/

namespace LeaseDesk

open Storage

namespace Storage.Books

variable {b : Books} {driverId legalEntityId fleetId : String} {first last : Date}
  {c c' : Kind.contract.Record}

/-- The contract is between these parties about this fleet, begins before `last`, and effectively ends
after `first`. -/
structure Clashes (b : Books) (driverId legalEntityId fleetId : String) (first last : Date)
    (c : Kind.contract.Record) : Prop where
  live : b.Live .contract c
  driver : c.data.driverId = driverId
  legalEntity : c.data.legalEntityId = legalEntityId
  fleet : c.data.fleetId = fleetId
  before : first < c.data.effectiveEnd
  after : c.data.startDate < last

/-- The contract clashes, and all others that do begin later, or on the same day under an identifier
that comes later. -/
structure FirstClash (b : Books) (driverId legalEntityId fleetId : String) (first last : Date)
    (c : Kind.contract.Record) : Prop where
  clashes : b.Clashes driverId legalEntityId fleetId first last c
  least : ∀ s, b.Clashes driverId legalEntityId fleetId first last s →
    c.data.startDate < s.data.startDate ∨
      c.data.startDate = s.data.startDate ∧ c.id ≤ s.id

theorem clashes_iff : b.Clashes driverId legalEntityId fleetId first last c ↔
    c ∈ b.list (.contractsOf driverId) ∧
      (c.data.covers driverId legalEntityId fleetId && c.data.overlaps first last) := by
  simp only [Contract.covers, Contract.overlaps, Bool.and_eq_true, beq_iff_eq, decide_eq_true_eq]
  constructor
  · rintro ⟨hlive, hdriver, hentity, hfleet, hbefore, hafter⟩
    have hlisted : c ∈ b.list (.contractsOf driverId) :=
      mem_list.mpr ⟨hlive, beq_iff_eq.mpr hdriver⟩
    exact ⟨hlisted, ⟨⟨hdriver, hentity⟩, hfleet⟩, hbefore, hafter⟩
  · rintro ⟨hlisted, ⟨⟨hdriver, hentity⟩, hfleet⟩, hbefore, hafter⟩
    exact ⟨(mem_list.mp hlisted).1, hdriver, hentity, hfleet, hbefore, hafter⟩

/-- What a search among the contracts of the driver comes upon is the first clash. -/
theorem find?_inTheWay_eq_some_iff :
    (b.list (.contractsOf driverId)).find? (fun r =>
        r.data.covers driverId legalEntityId fleetId && r.data.overlaps first last) = some c ↔
      b.FirstClash driverId legalEntityId fleetId first last c := by
  refine find?_sorted_eq_some_iff.trans ⟨?_, ?_⟩
  · rintro ⟨hc, hleast⟩
    refine ⟨clashes_iff.mpr hc, fun s hs => ?_⟩
    obtain ⟨hlisted, hway⟩ := clashes_iff.mp hs
    exact precedes_contract_iff.mp (hleast s hlisted hway)
  · rintro ⟨hc, hleast⟩
    refine ⟨clashes_iff.mp hc, fun s hlisted hway => ?_⟩
    exact precedes_contract_iff.mpr (hleast s (clashes_iff.mpr ⟨hlisted, hway⟩))

end Storage.Books

/-- A contract clashes with the one that is asked for. The first one is named. -/
def Obstacle.clash (b : Books) (driverId legalEntityId fleetId : String) (first last : Date) :
    Obstacle where
  stands := ∃ c, b.Clashes driverId legalEntityId fleetId first last c
  reports e := ∃ c, b.FirstClash driverId legalEntityId fleetId first last c ∧
    e = .overlapping c.id

variable {d d' : Desk Memory}

/-- A new contract is on record. It can be looked up, and it is among the contracts of its driver. -/
structure Signed (d : Desk Memory) (c : Contract) (r : Kind.contract.Record) (d' : Desk Memory) :
    Prop where
  record : r = .fresh d.ids.next c
  desk : d' = d.enter .contract c
  found : (Procedure.get .contract r.id).Yields d' r d'
  listed : ∃ rs, (Procedure.list (.contractsOf c.driverId)).Yields d' rs d' ∧ r ∈ rs

/-- Entering the contract is all that it takes, if the driver and the contract can be named. -/
theorem signed_iff {c : Contract} {r : Kind.contract.Record} (hnamed : d.ids.next ≠ "")
    (hdriver : c.driverId ≠ "") :
    Signed d c r d' ↔ r = .fresh d.ids.next c ∧ d' = d.enter .contract c := by
  constructor
  · exact fun h => ⟨h.record, h.desk⟩
  · rintro ⟨rfl, rfl⟩
    have hlive := d.live_enter .contract c
    refine ⟨rfl, rfl, Procedure.yields_get.mpr ⟨hnamed, hlive, rfl⟩, _,
      Procedure.yields_list.mpr ⟨?_, rfl, rfl⟩, Books.mem_list.mpr ⟨hlive, beq_self_eq_true _⟩⟩
    rintro _ _ ⟨⟩
    exact hdriver

namespace Procedure

open Program

/-- **Making a contract.** A contract is made between parties on record, if it does not clash with a
contract of theirs. -/
theorem decided_createContract (d : Desk Memory) (driverId legalEntityId fleetId : String)
    (first last : Date) :
    (createContract driverId legalEntityId fleetId first last).Decided d
      [.of (driverId = "" ∨ legalEntityId = "" ∨ fleetId = "") .partiesRequired,
        .of (last ≤ first) .emptyPeriod,
        .absent d.books .driver driverId,
        .absent d.books .legalEntity legalEntityId,
        .absent d.books .fleet fleetId,
        .clash d.books driverId legalEntityId fleetId first last,
        .unnamed d]
      (Signed d ⟨driverId, legalEntityId, fleetId, first, last, none, none⟩) := by
  refine (decided_require ?_).bind_same fun hgiven => ?_
  · rw [Bool.not_eq_false', Bool.or_eq_true, Bool.or_eq_true, String.isEmpty_iff,
      String.isEmpty_iff, String.isEmpty_iff, or_assoc]
  rintro _ rfl
  refine (decided_require ?_).bind_same fun _ => ?_
  · rw [decide_eq_false_iff_not, Date.not_lt]
  rintro _ rfl
  refine decided_requireRecord.bind_same fun _ _ _ => ?_
  refine decided_requireRecord.bind_same fun _ _ _ => ?_
  refine decided_requireRecord.bind_same fun _ _ _ => ?_
  refine (decided_call rfl).bind_same fun _ => ?_
  rintro _ rfl
  rcases hfind : List.find? _ _ with _ | c
  · refine .pass ?_ (decided_enter.of_iff fun hnamed r d' => ?_)
    · rintro ⟨c, hc⟩
      obtain ⟨hlisted, hway⟩ := Books.clashes_iff.mp hc
      exact List.find?_eq_none.mp hfind c hlisted hway
    · rw [clear_cons] at hgiven hnamed
      exact (signed_iff hnamed.1 fun h => hgiven.1 (.inl h)).symm
  · have hfirst := Books.find?_inTheWay_eq_some_iff.mp hfind
    refine decided_of_run_error rfl ⟨c, hfirst.clashes⟩ fun e => ?_
    constructor
    · rintro ⟨c', hc', rfl⟩
      -- only one clash is the first
      obtain rfl := Option.some.inj ((Books.find?_inTheWay_eq_some_iff.mpr hc').symm.trans hfind)
      rfl
    · exact fun he => ⟨c, hfirst, he⟩

end Procedure

end LeaseDesk
