import LeaseDesk.Proofs.History

/-!
# Licensed drivers

The license register is asked about a driver before the driver is put on record, and whatever it says
then or later is noted in the inquiries of the desk. Afterwards the data of a driver never change: they
are not revised, and deleting and restoring leave them alone. So every driver on record, deleted or not,
goes back to a turn in which the register was asked about exactly these data and confirmed the license,
and every later check of the license asks about the same data again (`licensed_history`). Identifiers
may repeat: then a new driver takes the place of an old one, and is licensed too.
-/

namespace LeaseDesk

open Storage

namespace Turn

/-- The turn puts these data of a driver on record under an identifier. It has asked the register about
them, and about nothing else, and the register has confirmed the license. -/
structure Licenses (t : Turn) (d : Desk Memory) (id : String) (p : Driver) : Prop where
  operation : ∃ firstName lastName licenseNumber,
    t.operation = .createDriver firstName lastName licenseNumber ∧
      p = ⟨Text.trim firstName, Text.trim lastName, Text.trim licenseNumber⟩
  asked : (t.after d).inquiries = d.inquiries ++ [p]
  confirmed : t.register p = .ok .valid
  stored : (t.after d).books = d.books.put .driver (.fresh id p)

/-- If the turn checks the license of a driver who is live, it asks the register about these data, and
about nothing else. -/
def ChecksOn (t : Turn) (d : Desk Memory) (id : String) (p : Driver) : Prop :=
  t.operation = .validateLicense id → (∃ r, d.books.find .driver id = some r) →
    (t.after d).inquiries = d.inquiries ++ [p]

variable {t : Turn} {d : Desk Memory}

open Program Procedure in
/-- A driver is put on record on the register's word only. -/
theorem licenses_of_createDriver {firstName lastName licenseNumber : String} {out : Outcome}
    (hop : t.operation = .createDriver firstName lastName licenseNumber)
    (h : t.operation.program.Yields (t.prepare d) out (t.after d)) :
    ∃ p, t.Licenses d d.ids.next p := by
  rw [hop] at h
  obtain ⟨r, hcreate, -⟩ := yields_map.mp h
  obtain ⟨-, -, -, p, hp, hvalid, -, -, hafter⟩ := yields_createDriver.mp hcreate
  refine ⟨p, ⟨firstName, lastName, licenseNumber, hop, hp⟩, ?_, hvalid, ?_⟩
  · rw [hafter]
    rfl
  · rw [hafter]
    rfl

/-- A driver on record after a turn was there before with the same data, or the turn has put the driver
there. -/
theorem stored_or_licenses {r : Kind.driver.Record} (hr : (t.after d).books.Stored .driver r) :
    (∃ s, d.books.Stored .driver s ∧ s.id = r.id ∧ s.data = r.data) ∨
      t.Licenses d r.id r.data := by
  rcases hresult : (t.play d).1 with e | out
  · rw [books_after_of_error hresult] at hr
    exact .inl ⟨r, hr, rfl, rfl⟩
  · have hrun := yields_of_ok hresult
    cases (t.effect d).source hr with
    | kept stored => exact .inl ⟨r, stored, rfl, rfl⟩
    | buried s _ live => exact .inl ⟨s, live.stored, rfl, rfl⟩
    | restored s _ stored => exact .inl ⟨s, stored, rfl, rfl⟩
    | entered data operation =>
      cases hop : t.operation with
      | createDriver =>
        obtain ⟨p, hp⟩ := licenses_of_createDriver hop hrun
        -- the identifier has been given to one driver only
        have hp' : (t.after d).books.Stored .driver (.fresh d.ids.next p) := by
          rw [hp.stored]
          exact Books.stored_put.mpr (.inl rfl)
        obtain rfl : p = data := congrArg Record.data (hp'.eq_of_id_eq hr rfl)
        exact .inr hp
      | _ =>
        rw [hop] at operation
        exact nomatch operation

end Turn

open Program in
/-- The register is asked about the data on record, whatever it says. -/
theorem Procedure.run_validateLicense {d : Desk Memory} {r : Kind.driver.Record} (hid : r.id ≠ "")
    (hr : d.books.Live .driver r) :
    (validateLicense r.id).run memoryHost d = (d.register r.data, d.inquire r.data) := by
  have hgiven : (requireId "id" r.id).Yields d () d :=
    yields_require.mpr ⟨by simpa using hid, rfl⟩
  have hfound : (requireRecord .driver r.id).Yields d r d := yields_requireRecord.mpr ⟨hr, rfl⟩
  rw [validateLicense, bind_eq, hgiven.run_bind, bind_eq, hfound.run_bind, run_verdict]

/-- Who is on record is checked by the data on record. -/
theorem Turn.checksOn_of_stored {t : Turn} {d : Desk Memory} (hd : d.Numbered)
    {r : Kind.driver.Record} (hr : d.books.Stored .driver r) : t.ChecksOn d r.id r.data := by
  rintro hop ⟨s, hs⟩
  obtain ⟨hlive, hid⟩ := Books.find_eq_some_iff.mp hs
  obtain rfl := hlive.stored.eq_of_id_eq hr hid
  have hlive' : (t.prepare d).books.Live .driver s := hlive
  rw [after, play, hop, Operation.program, Program.bind_eq, Program.run_bind,
    Procedure.run_validateLicense (hd.named hr) hlive']
  rcases (t.prepare d).register s.data with e | v <;> rfl

/-! ## All operations -/

/-- Every driver on record was put there in some turn, and has been on record with the same data ever
since. -/
theorem stored_since_licensed (ids : IdSource) (turns : List Turn) :
    ∀ r, (history ids turns).books.Stored .driver r →
      ∃ past t later, turns = past ++ t :: later ∧
        t.Licenses (history ids past) r.id r.data ∧
        ∀ between, between <+: later → ∃ s,
          (history ids (past ++ t :: between)).books.Stored .driver s ∧ s.id = r.id ∧
            s.data = r.data := by
  induction turns using List.reverseRecOn with
  | nil => exact fun r hr => absurd hr Books.not_stored_empty
  | append_singleton turns u ih =>
    intro r hr
    have hafter := hr
    rw [history_append_singleton] at hafter
    rcases Turn.stored_or_licenses hafter with ⟨s, hs, hid, hdata⟩ | hnew
    · obtain ⟨past, t, later, rfl, hlicenses, hsince⟩ := ih s hs
      rw [hid, hdata] at hlicenses hsince
      refine ⟨past, t, later ++ [u], by simp, hlicenses, fun between hbetween => ?_⟩
      rcases List.prefix_concat_iff.mp hbetween with rfl | hearlier
      · exact ⟨r, by simpa using hr, rfl, rfl⟩
      · exact hsince between hearlier
    · refine ⟨turns, u, [], rfl, hnew, fun between hbetween => ?_⟩
      obtain rfl := List.prefix_nil.mp hbetween
      exact ⟨r, hr, rfl, rfl⟩

/-- **Every driver is licensed.** Every driver on record, deleted or not, was put there in a turn that
asked the register about exactly the data on record, and the register confirmed the license. Whenever
the license of the driver, while live, was checked later, the register was asked about the same data
again. -/
theorem licensed_history {ids : IdSource} {turns : List Turn} {r : Kind.driver.Record}
    (hr : (history ids turns).books.Stored .driver r) :
    ∃ past t later, turns = past ++ t :: later ∧
      t.Licenses (history ids past) r.id r.data ∧
      ∀ between u rest, later = between ++ u :: rest →
        u.ChecksOn (history ids (past ++ t :: between)) r.id r.data := by
  obtain ⟨past, t, later, hturns, hlicenses, hsince⟩ := stored_since_licensed ids turns r hr
  refine ⟨past, t, later, hturns, hlicenses, fun between u rest hlater => ?_⟩
  obtain ⟨s, hs, hid, hdata⟩ := hsince between ⟨u :: rest, hlater.symm⟩
  rw [← hid, ← hdata]
  exact Turn.checksOn_of_stored (numbered_history ids _) hs

/-- The driver is put on record, the license is checked again when the register is out of reach, and
the driver is deleted. -/
def driverRechecked : List Turn :=
  sampleParties ++
    [{ Turn.on newYear (.validateLicense "driver") with
      register := fun _ => .error .registerUnconfigured },
    .on newYear (.delete .driver "driver")]

/-- The deleted driver was licensed, and checked on. -/
theorem licensed_driverRechecked :
    let ada : Driver := ⟨"Ada", "Byron", "L-1"⟩
    ∃ past t later, driverRechecked = past ++ t :: later ∧
      t.Licenses (history sampleIds past) "driver" ada ∧
      ∀ between u rest, later = between ++ u :: rest →
        u.ChecksOn (history sampleIds (past ++ t :: between)) "driver" ada := by
  intro ada
  have hr : (history sampleIds driverRechecked).books.Stored .driver
      ((Record.fresh "driver" ada).bury (.startOfDay newYear)) := by
    decide +kernel
  exact licensed_history hr

end LeaseDesk
