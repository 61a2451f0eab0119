import LeaseDesk.Proofs.Overlap
import LeaseDesk.Proofs.Periods
import LeaseDesk.Proofs.Signing

/-!
# What the end of a contract makes room for

A contract comes to an end when it is terminated or deleted. Either way nothing is taken from anybody
else: all other records are found as before, and of the contracts that are left, none runs longer than
it did (`Books.Frees`). Since a new contract needs the parties to be on record and no other contract to
be in the way, whatever contract could be made before can be made afterwards.

A contract that is terminated effectively ends on that day at the latest. So it is in the way of no
contract that begins on that day or later, however long that one is to run (`ending_frees_days`).
-/

namespace LeaseDesk

open Storage

/-! ## Contracts -/

namespace Contract

variable {c c' : Contract}

/-- The contract is what is left of another one: it is between the same parties about the same fleet,
begins on the same day, and effectively ends on the same day or before. -/
structure IsLeftOf (c' c : Contract) : Prop where
  parties : c'.SameParties c
  start : c'.startDate = c.startDate
  earlier : c'.effectiveEnd ≤ c.effectiveEnd

theorem IsLeftOf.refl (c : Contract) : c.IsLeftOf c :=
  ⟨⟨rfl, rfl, rfl⟩, rfl, Date.le_refl _⟩

/-- A contract that is terminated had its agreed end before it. -/
theorem isLeftOf_terminate (hrunning : c.terminatedAt = none) (now : Instant)
    (terminatedBy : String) : (c.terminate now terminatedBy).IsLeftOf c := by
  refine ⟨⟨rfl, rfl, rfl⟩, rfl, ?_⟩
  rw [effectiveEnd_of_running hrunning]
  exact effectiveEnd_le

theorem effectiveEnd_terminate_le (c : Contract) (now : Instant) (terminatedBy : String) :
    (c.terminate now terminatedBy).effectiveEnd ≤ now.date := by
  have hend : (c.terminate now terminatedBy).effectiveEnd = c.endDate.earlier now.date :=
    effectiveEnd_of_terminated rfl
  rw [hend]
  exact (Date.le_earlier.mp (Date.le_refl _)).2

variable {driverId legalEntityId fleetId : String} {first last : Date}

theorem IsLeftOf.covers (h : c'.IsLeftOf c) :
    c'.covers driverId legalEntityId fleetId = c.covers driverId legalEntityId fleetId := by
  obtain ⟨hdriver, hentity, hfleet⟩ := h.parties
  rw [Contract.covers, Contract.covers, hdriver, hentity, hfleet]

/-- What is left of a contract overlaps nothing that the contract did not overlap. -/
theorem IsLeftOf.overlaps (h : c'.IsLeftOf c) (hover : c'.overlaps first last) :
    c.overlaps first last := by
  obtain ⟨hbefore, hafter⟩ := overlaps_iff.mp hover
  refine overlaps_iff.mpr ⟨Date.lt_of_lt_of_le hbefore h.earlier, ?_⟩
  rwa [← h.start]

end Contract

/-! ## Books -/

namespace Storage.Books

variable {b b' : Books} {r : Kind.contract.Record}

/-- At most contracts have ended. Records of other kinds are found as before, and every contract that
is live is what is left of one that was. -/
structure Frees (b b' : Books) : Prop where
  others : ∀ kind id, kind ≠ .contract → b'.find kind id = b.find kind id
  contracts : ∀ s, b'.Live .contract s → ∃ r, b.Live .contract r ∧ s.data.IsLeftOf r.data

theorem frees_put {s : Kind.contract.Record} (hlive : b.Live .contract r)
    (hs : s.isLive → s.data.IsLeftOf r.data) : b.Frees (b.put .contract s) := by
  refine ⟨?_, ?_⟩
  · intro kind id hkind
    rw [find, lookup_put_of_ne hkind]
    rfl
  · intro t ht
    rcases live_put.mp ht with ⟨rfl, hl⟩ | ⟨-, ht⟩
    · exact ⟨r, hlive, hs hl⟩
    · exact ⟨t, ht, .refl _⟩

end Storage.Books

/-! ## Making contracts -/

/-- The contract under the identifier is terminated, or deleted. -/
inductive Ends (id : String) (d d' : Desk Memory) : Prop
  | terminated {terminatedBy : String} {r : Kind.contract.Record}
      (yields : (Procedure.terminateContract id terminatedBy).Yields d r d')
  | deleted (yields : (Procedure.delete .contract id).Yields d () d')

variable {d d' : Desk Memory} {id : String}

open Procedure

/-- Who ends a contract draws no identifier, and frees whatever the contract was in the way of. -/
theorem Ends.frees (h : Ends id d d') : d'.ids = d.ids ∧ d.books.Frees d'.books := by
  cases h with
  | terminated yields =>
    obtain ⟨-, -, c, hc, hrunning, -, rfl⟩ := yields_terminateContract.mp yields
    obtain ⟨hlive, -⟩ := Books.find_eq_some_iff.mp hc
    exact ⟨rfl, Books.frees_put hlive fun _ => Contract.isLeftOf_terminate hrunning _ _⟩
  | deleted yields =>
    obtain ⟨-, -, c, hc, rfl⟩ := yields_delete.mp yields
    obtain ⟨hlive, -⟩ := Books.find_eq_some_iff.mp hc
    exact ⟨rfl, Books.frees_put hlive fun hl => nomatch hl⟩

variable {driverId legalEntityId fleetId : String} {first last : Date}

/-- A contract that can be made can be made where some other contracts have ended. -/
theorem Storage.Books.Frees.yields_createContract {r : Kind.contract.Record} {f : Desk Memory}
    (hfrees : d.books.Frees d'.books) (hids : d'.ids = d.ids)
    (h : (createContract driverId legalEntityId fleetId first last).Yields d r f) :
    ∃ f', (createContract driverId legalEntityId fleetId first last).Yields d' r f' := by
  obtain ⟨hnamed, hdays, p, hp, e, he, g, hg, hfree, hid, hr, -⟩ :=
    Procedure.yields_createContract.mp h
  have hp' := (hfrees.others .driver driverId nofun).trans hp
  have he' := (hfrees.others .legalEntity legalEntityId nofun).trans he
  have hg' := (hfrees.others .fleet fleetId nofun).trans hg
  rw [← hids] at hid hr
  refine ⟨_, Procedure.yields_createContract.mpr
    ⟨hnamed, hdays, p, hp', e, he', g, hg', ?_, hid, hr, rfl⟩⟩
  -- whatever is in the way now was in the way before
  intro s hs hcovers hover
  obtain ⟨c, hc, hleft⟩ := hfrees.contracts s hs
  rw [hleft.covers] at hcovers
  exact hfree c hc hcovers (hleft.overlaps hover)

open Program in
/-- A contract that is named in a refusal clashes. -/
theorem exists_clash_of_fails
    (h : (createContract driverId legalEntityId fleetId first last).Fails d (.overlapping id)) :
    ∃ c, d.books.Clashes driverId legalEntityId fleetId first last c ∧ c.id = id := by
  obtain ⟨-, h⟩ := fails_require_bind (by rintro ⟨⟩) h
  obtain ⟨-, h⟩ := fails_require_bind (by rintro ⟨⟩) h
  obtain ⟨_, -, h⟩ := fails_requireRecord_bind (by rintro ⟨⟩) h
  obtain ⟨_, -, h⟩ := fails_requireRecord_bind (by rintro ⟨⟩) h
  obtain ⟨_, -, h⟩ := fails_requireRecord_bind (by rintro ⟨⟩) h
  rw [bind_eq, fails_bind_same fun _ _ => yields_call rfl] at h
  obtain ⟨_, rfl, h⟩ := h.resolve_left (not_fails_call rfl)
  rcases hfind : List.find? _ _ with _ | c <;> rw [hfind] at h
  · cases (fails_enter.mp h).2
  · obtain ⟨_, hfail⟩ := h
    have hid : c.id = id := by
      simpa [Failure.overlapping] using (Prod.mk.inj hfail).1
    exact ⟨c, (Books.find?_inTheWay_eq_some_iff.mp hfind).clashes, hid⟩

/-- **The end of a contract only frees days.** Whatever contract could be made before another one was
terminated or deleted can be made afterwards, and is the same. And a contract that was terminated is
in the way of no contract that is to begin on the day of the termination or later. -/
theorem ending_frees_days (hends : Ends id d d') :
    d'.ids = d.ids ∧
    (∀ e e' : Desk Memory, e.books = d.books → e'.books = d'.books → e'.ids = e.ids →
      ∀ driverId legalEntityId fleetId first last r f,
        (createContract driverId legalEntityId fleetId first last).Yields e r f →
        ∃ f', (createContract driverId legalEntityId fleetId first last).Yields e' r f') ∧
    ∀ terminatedBy r, (terminateContract id terminatedBy).Yields d r d' →
      ∀ e' : Desk Memory, e'.books = d'.books →
        ∀ driverId legalEntityId fleetId first last, d.clock.date ≤ first →
          ¬ (createContract driverId legalEntityId fleetId first last).Fails e'
            (.overlapping id) := by
  obtain ⟨hids, hfrees⟩ := hends.frees
  refine ⟨hids, ?_, ?_⟩
  · intro e e' he he' hids' driverId legalEntityId fleetId first last r f h
    rw [← he, ← he'] at hfrees
    exact hfrees.yields_createContract hids' h
  · intro terminatedBy r hyields e' he' driverId legalEntityId fleetId first last hlate hfails
    obtain ⟨-, -, c, hc, -, -, rfl⟩ := yields_terminateContract.mp hyields
    obtain ⟨-, hid⟩ := Books.find_eq_some_iff.mp hc
    obtain ⟨s, hs, hsid⟩ := exists_clash_of_fails hfails
    -- the contract in the way is the one that was terminated
    have hlive := hs.live
    rw [he'] at hlive
    rcases Books.live_put.mp hlive with ⟨rfl, -⟩ | ⟨hother, -⟩
    · have hend := c.data.effectiveEnd_terminate_le d.clock (Text.trim terminatedBy)
      exact Date.not_lt.mpr (Date.le_trans hend hlate) hs.before
    · exact hother (hsid.trans hid.symm)

/-- The desk in the middle of January. The driver has a contract about the whole of it. -/
def midJanuaryDesk : Desk Memory :=
  { history sampleIds (sampleParties ++
      [.on newYear (.createContract "driver" "company" "fleet" newYear januaryEnd)]) with
    clock := .startOfDay midJanuary }

/-- The contract is terminated. The one about February can be made as before, and one that is to begin
at once is not refused on account of it. -/
theorem ending_frees_days_midJanuary :
    let d := midJanuaryDesk
    let d' := d.write .contract
      (.fresh "contract" (januaryContract.terminate (.startOfDay midJanuary) "Ada"))
    Ends "contract" d d' ∧
      (∃ f, (createContract "driver" "company" "fleet" januaryEnd februaryEnd).Yields d
        (.fresh "contract2" februaryContract) f) ∧
      (∃ f, (createContract "driver" "company" "fleet" januaryEnd februaryEnd).Yields d'
        (.fresh "contract2" februaryContract) f) ∧
      ¬ (createContract "driver" "company" "fleet" midJanuary februaryEnd).Fails d'
        (.overlapping "contract") := by
  intro d d'
  have hterminated : (terminateContract "contract" "Ada").Yields d
      (.fresh "contract" (januaryContract.terminate (.startOfDay midJanuary) "Ada")) d' := by
    refine yields_terminateContract.mpr ⟨by decide, by decide +kernel, ?_⟩
    exact ⟨.fresh "contract" januaryContract, by decide +kernel, rfl, by decide +kernel, rfl⟩
  have hmade : (createContract "driver" "company" "fleet" januaryEnd februaryEnd).Yields d
      (.fresh "contract2" februaryContract) (d.enter .contract februaryContract) := by
    refine yields_createContract.mpr ⟨by decide, by decide, ?_⟩
    refine ⟨.fresh "driver" ⟨"Ada", "Byron", "L-1"⟩, by decide +kernel,
      .fresh "company" ⟨"Acme", "T-1"⟩, by decide +kernel,
      .fresh "fleet" ⟨"company", "North"⟩, by decide +kernel, ?_, by decide +kernel,
      by decide +kernel, rfl⟩
    exact find?_inTheWay_eq_none_iff.mp (by decide +kernel)
  have hends : Ends "contract" d d' := .terminated hterminated
  obtain ⟨hids, hmakes, hnames⟩ := ending_frees_days hends
  refine ⟨hends, ⟨_, hmade⟩, hmakes d d' rfl rfl hids _ _ _ _ _ _ _ hmade, ?_⟩
  exact hnames _ _ hterminated d' rfl _ _ _ _ _ (by decide)

end LeaseDesk
