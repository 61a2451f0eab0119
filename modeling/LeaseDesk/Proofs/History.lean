import LeaseDesk.Proofs.Effect
import Mathlib.Data.List.GetD
import Mathlib.Data.List.Induction

/-!
# Histories of the desk

A `Turn` is one operation together with what the world outside shows while it runs: the clock, the
clock on the wall that dates the tombstones, and the license register. A history is a list of turns
played one after the other on a desk with empty books. Nothing ties one turn to the next but the
desk itself, so the clock and the register may say anything at any time; where they have to make
sense, a theorem says so.

There are two ways to reason about all histories. An invariant is shown turn by turn
(`history_invariant`). A property that some turns break holds all the time exactly if no such turn
is played (`history_always_iff`).
-/

namespace LeaseDesk

open Storage

/-- One operation, and what the world outside shows while it runs. -/
structure Turn where
  /-- what the clock shows -/
  clock : Instant
  /-- what the clock on the wall shows -/
  wall : Instant
  /-- what the license register says -/
  register : Register
  /-- the operation -/
  operation : Operation

namespace Turn

/-- The desk before the operation of the turn. -/
def prepare (t : Turn) (d : Desk Memory) : Desk Memory :=
  { d with
    clock := t.clock
    register := t.register
    contents := { d.contents with wall := t.wall } }

/-- What the operation of the turn comes to, and the desk afterwards. -/
def play (t : Turn) (d : Desk Memory) : Except Failure Outcome × Desk Memory :=
  t.operation.program.run memoryHost (t.prepare d)

/-- The desk after the turn. -/
def after (t : Turn) (d : Desk Memory) : Desk Memory :=
  (t.play d).2

@[simp] theorem ids_prepare (t : Turn) (d : Desk Memory) : (t.prepare d).ids = d.ids := rfl

theorem run_operation (t : Turn) (d : Desk Memory) :
    t.operation.program.run memoryHost (t.prepare d) = ((t.play d).1, t.after d) := rfl

/-- An operation that comes to a result leaves the desk of the turn behind. -/
theorem yields_of_ok {t : Turn} {d : Desk Memory} {out : Outcome}
    (hok : (t.play d).1 = .ok out) :
    t.operation.program.Yields (t.prepare d) out (t.after d) := by
  have hrun := t.run_operation d
  rwa [hok] at hrun

/-- An operation that fails leaves the books alone. -/
theorem books_after_of_error {t : Turn} {d : Desk Memory} {e : Failure}
    (herror : (t.play d).1 = .error e) : (t.after d).books = d.books := by
  have hrun := t.run_operation d
  rw [herror] at hrun
  exact (Operation.failing hrun).books

theorem effect (t : Turn) (d : Desk Memory) : Effect t.operation (t.prepare d) (t.after d) :=
  Operation.effect (t.run_operation d)

theorem leads_after (t : Turn) (d : Desk Memory) : d.ids.Leads (t.after d).ids := by
  have h := Program.ids_of_run (t.run_operation d)
  rwa [ids_prepare] at h

open Program Procedure in
/-- Nothing keeps a stored record from being restored. -/
theorem books_after_undelete {t : Turn} {d : Desk Memory} {kind : Kind} {r : kind.Record}
    (hop : t.operation = .undelete kind r.id) (hid : r.id ≠ "") (hr : d.books.Stored kind r) :
    (t.after d).books = d.books.put kind r.restore := by
  have h : t.operation.program.Yields (t.prepare d) .nothing
      ((t.prepare d).write kind r.restore) := by
    rw [hop, Operation.program, bind_eq]
    refine (yields_map (f := fun _ => Outcome.nothing)).mpr ⟨(), ?_, rfl⟩
    exact yields_undelete.mpr ⟨hid, r, hr, rfl⟩
  rw [after, play, h]
  rfl

/-- A relation between the live records of a kind is lost when a record is restored that does not
stand in it to another live one. -/
theorem not_livePairwise_after_undelete {t : Turn} {d : Desk Memory} {kind : Kind}
    {R : kind.Record → kind.Record → Prop} {r s : kind.Record}
    (hop : t.operation = .undelete kind r.id) (hnamed : r.id ≠ "") (hr : d.books.Stored kind r)
    (hs : d.books.Live kind s) (hid : s.id ≠ r.id) (hR : ¬ R r.restore s) :
    ¬ (t.after d).books.LivePairwise kind R := by
  intro h
  rw [books_after_undelete hop hnamed hr] at h
  refine hR (h r.restore s ?_ ?_ ?_)
  · exact Books.live_put.mpr (.inl ⟨rfl, rfl⟩)
  · exact Books.live_put.mpr (.inr ⟨hid, hs⟩)
  · rintro rfl
    exact hid rfl

end Turn

/-- A desk with empty books. What its clock and its register say is of no account: every turn sets
them anew. -/
def Desk.opening (ids : IdSource) : Desk Memory :=
  let dawn := Instant.startOfDay ⟨1970, 1, 1, by decide⟩
  ⟨dawn, ids, fun _ => .error .registerUnconfigured, [], ⟨.empty, dawn⟩⟩

/-- The desk after the turns. -/
def history (ids : IdSource) (turns : List Turn) : Desk Memory :=
  turns.foldl (fun d t => t.after d) (.opening ids)

theorem history_append_singleton (ids : IdSource) (past : List Turn) (t : Turn) :
    history ids (past ++ [t]) = t.after (history ids past) := by
  rw [history, List.foldl_append]
  rfl

/-- A property of the turns played so far, kept by every turn, holds after all of them. -/
theorem turns_induction {τ : Type} {P : List τ → Prop} {turns : List τ} (start : P [])
    (step : ∀ past t, past ++ [t] <+: turns → P past → P (past ++ [t])) : P turns := by
  suffices h : ∀ past, past <+: turns → P past from h turns (List.prefix_refl _)
  intro past
  induction past using List.reverseRecOn with
  | nil => exact fun _ => start
  | append_singleton past t ih =>
    intro hp
    exact step past t hp (ih ((List.prefix_append past [t]).trans hp))

/-- **Turn by turn.** What holds at the beginning and is kept by every turn of a history, holds
after all of them. -/
theorem history_invariant {P : Desk Memory → Prop} {ids : IdSource} {turns : List Turn}
    (start : P (.opening ids))
    (step : ∀ past t, past ++ [t] <+: turns → P (history ids past) →
      P (t.after (history ids past))) : P (history ids turns) := by
  refine turns_induction (P := fun past => P (history ids past)) start fun past t hp h => ?_
  rw [history_append_singleton]
  exact step past t hp h

/-- A property of the turns played so far, broken by a turn exactly when it is a bad one, holds all
the time exactly when no bad turn is played. -/
theorem turns_always_iff {P : List Turn → Prop} {Bad : List Turn → Turn → Prop}
    {turns : List Turn} (start : P [])
    (step : ∀ past t, past ++ [t] <+: turns → P past → (P (past ++ [t]) ↔ ¬ Bad past t)) :
    (∀ past, past <+: turns → P past) ↔ ∀ past t, past ++ [t] <+: turns → ¬ Bad past t := by
  constructor
  · intro h past t hp
    have hpast := h past ((List.prefix_append past [t]).trans hp)
    exact (step past t hp hpast).mp (h (past ++ [t]) hp)
  · intro h past hp
    refine turns_induction start fun earlier t he hearlier => ?_
    exact (step earlier t (he.trans hp) hearlier).mpr (h earlier t (he.trans hp))

/-- **All the time.** If a turn breaks a property exactly when it is a bad one, then the property
holds all the time exactly when no bad turn is played. -/
theorem history_always_iff {P : Desk Memory → Prop} {Bad : Turn → Desk Memory → Prop}
    {ids : IdSource} (start : P (.opening ids))
    (step : ∀ past t, P (history ids past) →
      (P (t.after (history ids past)) ↔ ¬ Bad t (history ids past)))
    (turns : List Turn) :
    (∀ past, past <+: turns → P (history ids past)) ↔
      ∀ past t, past ++ [t] <+: turns → ¬ Bad t (history ids past) := by
  refine turns_always_iff (P := fun past => P (history ids past)) start fun past t _ h => ?_
  rw [history_append_singleton]
  exact step past t h

/-! ## Identifiers -/

namespace IdSource

/-- No identifier comes up twice. The empty one may: no record ever gets it. -/
def NeverRepeats (s : IdSource) : Prop :=
  ∀ m n, s.ids m = s.ids n → s.ids m ≠ "" → m = n

/-- The identifiers of a list do not repeat if they are distinct. -/
theorem neverRepeats_listed {ids : List String} (h : ids.Nodup) : (listed ids).NeverRepeats := by
  intro m n heq hne
  have hlt : ∀ k, (listed ids).ids k ≠ "" → k < ids.length := by
    intro k hk
    by_contra hlen
    exact hk (List.getD_eq_default _ _ (Nat.le_of_not_lt hlen))
  exact (List.getD_inj (hlt m hne) (hlt n (heq ▸ hne)) h).mp heq

theorem NeverRepeats.of_leads {s s' : IdSource} (h : s.NeverRepeats) (hs : s.Leads s') :
    s'.NeverRepeats := by
  rw [NeverRepeats, hs.1]
  exact h

end IdSource

/-- Every record in the books stands under an identifier that has been drawn, and not under an empty
one. -/
def Desk.Numbered (d : Desk Memory) : Prop :=
  ∀ kind r, d.books.Stored kind r → r.id ≠ "" ∧ ∃ n < d.ids.drawn, d.ids.ids n = r.id

namespace Desk.Numbered

variable {d d' : Desk Memory}

theorem named (h : d.Numbered) {kind : Kind} {r : kind.Record} (hr : d.books.Stored kind r) :
    r.id ≠ "" :=
  (h kind r hr).1

/-- The next identifier is new, unless identifiers repeat. -/
theorem id_ne_next (h : d.Numbered) (hids : d.ids.NeverRepeats) {kind : Kind} {r : kind.Record}
    (hr : d.books.Stored kind r) : r.id ≠ d.ids.next := by
  intro heq
  obtain ⟨hne, n, hn, hid⟩ := h kind r hr
  have hrep := hids n d.ids.drawn (hid.trans heq) (by rwa [hid])
  exact absurd hrep (Nat.ne_of_lt hn)

theorem prepare (h : d.Numbered) (t : Turn) : (t.prepare d).Numbered := h

theorem of_effect {op : Operation} (h : d.Numbered) (he : Effect op d d')
    (hids : d.ids.Leads d'.ids) : d'.Numbered := by
  intro kind s hs
  cases he.origin hs with
  | revised r stored id rev =>
    obtain ⟨hne, n, hn, hid⟩ := h kind r stored
    rw [id] at hne hid
    exact ⟨hne, n, Nat.lt_of_lt_of_le hn hids.2, by rw [hids.1, hid]⟩
  | entered admits id named ids =>
    refine ⟨named, d.ids.drawn, ?_, ?_⟩
    · rw [ids]
      exact Nat.lt_succ_self _
    · rw [ids, id]
      rfl

end Desk.Numbered

theorem leads_history (ids : IdSource) (turns : List Turn) :
    ids.Leads (history ids turns).ids := by
  refine history_invariant (P := fun d => ids.Leads d.ids) (.refl ids) ?_
  exact fun past t _ h => h.trans (t.leads_after _)

theorem numbered_history (ids : IdSource) (turns : List Turn) : (history ids turns).Numbered := by
  refine history_invariant (fun _ _ hr => absurd hr Books.not_stored_empty) ?_
  exact fun past t _ h => (h.prepare t).of_effect (t.effect _) (t.leads_after _)

/-! ## A sample -/

/-- An operation at the first moment of a day on which the register confirms every license. -/
def Turn.on (day : Date) (operation : Operation) : Turn :=
  ⟨.startOfDay day, .startOfDay day, fun _ => .ok .valid, operation⟩

/-- The first of January. -/
def newYear : Date := ⟨2025, 1, 1, by decide⟩

/-- The last of January. -/
def januaryEnd : Date := ⟨2025, 1, 31, by decide⟩

/-- The last of February. -/
def februaryEnd : Date := ⟨2025, 2, 28, by decide⟩

/-- Identifiers that say what they are drawn for. -/
def sampleIds : IdSource :=
  .listed ["company", "fleet", "driver", "contract", "contract2", "vehicle", "vehicle2",
    "assignment", "assignment2"]

theorem neverRepeats_sampleIds : sampleIds.NeverRepeats :=
  IdSource.neverRepeats_listed (by decide)

/-- A legal entity, its fleet, and a driver. -/
def sampleParties : List Turn :=
  [.on newYear (.createLegalEntity "Acme" "T-1"),
    .on newYear (.createFleet "company" "North"),
    .on newYear (.createDriver "Ada" "Byron" "L-1")]

/-- A fleet of two vehicles, and two contracts about it. -/
def sampleFleet : List Turn :=
  sampleParties ++
    [.on newYear (.createContract "driver" "company" "fleet" newYear januaryEnd),
    .on newYear (.createContract "driver" "company" "fleet" januaryEnd februaryEnd),
    .on newYear (.createVehicle "fleet" "Fiat" "Panda" 2020 "A 1"),
    .on newYear (.createVehicle "fleet" "Fiat" "Panda" 2020 "A 2")]

/-- The driver may use the fleet in January. -/
def januaryContract : Contract :=
  ⟨"driver", "company", "fleet", newYear, januaryEnd, none, none⟩

/-- The driver may use the fleet in February, and on the day before. -/
def februaryContract : Contract :=
  ⟨"driver", "company", "fleet", januaryEnd, februaryEnd, none, none⟩

end LeaseDesk
