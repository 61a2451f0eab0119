import LeaseDesk.Json.Numeral
import Mathlib.Algebra.Order.Field.Power
import Mathlib.Data.List.Induction
import Mathlib.Tactic.Linarith
import Mathlib.Tactic.NormNum
import Mathlib.Tactic.Ring

/-!
# Numerals that fit a double

Whether a numeral is too large is decided by an estimate: of its digits only so many are taken as fit
into 64 bits, these and the power of ten are rounded to doubles, and what is looked at is the product.
Digits left out make the number smaller (`parts_le`), and rounding makes it larger by a fraction of
2⁻⁵³ at most (`roundToDouble_le`). So a numeral that does not exceed `safeMagnitude` is never taken for
too large. The largest double is 1.7976931348623157e308 when it is rounded to as many digits.
-/

namespace LeaseDesk.Json

/-! ## Rounding -/

theorem unit_le {n : Nat} : 2 ^ (n.log2 - 52) = 1 ∨ 2 ^ 52 * 2 ^ (n.log2 - 52) ≤ n := by
  rcases Nat.le_total n.log2 52 with hlog | hlog
  · exact .inl (by rw [Nat.sub_eq_zero_of_le hlog, Nat.pow_zero])
  · have hne : n ≠ 0 := by
      rintro rfl
      exact absurd hlog (by decide)
    refine .inr ?_
    rw [← Nat.pow_add, Nat.add_sub_cancel' hlog]
    exact Nat.log2_self_le hne

/-- Rounding adds no more than one in 2⁵³. -/
theorem roundToDouble_le (n : Nat) : 2 ^ 53 * roundToDouble n ≤ (2 ^ 53 + 1) * n := by
  have hunit := unit_le (n := n)
  rw [roundToDouble, Nat.pow_eq]
  generalize 2 ^ (n.log2 - 52) = unit at hunit
  have hdiv : n / unit * unit + n % unit = n := Nat.div_add_mod' n unit
  have hlow : n / unit % 2 * unit ≤ 1 * unit :=
    Nat.mul_le_mul_right unit (Nat.le_of_lt_succ (Nat.mod_lt _ (by decide)))
  -- wherever something is added, the unit is no more than the number divided by 2⁵²
  split
  · omega
  split
  · rw [Nat.add_mul, Nat.one_mul]
    omega
  · rw [Nat.add_mul]
    omega

/-- The largest magnitude of 17 digits that is certain not to overflow. -/
def safeMagnitude : Nat := 17976931348623154 * 10 ^ 292

/-- The largest double. -/
def largestDouble : Nat := 2 ^ 1024 - 2 ^ 971

theorem safeMagnitude_lt : (2 ^ 53 + 1) ^ 2 * safeMagnitude < 2 ^ 106 * overflowBound := by
  decide +kernel

theorem overflows_eq_false {significand k : Nat} (h : significand * 10 ^ k ≤ safeMagnitude) :
    overflows significand k = false := by
  rw [overflows]
  split
  · rfl
  · next hzero =>
    rw [Bool.or_eq_true, not_or, beq_iff_eq] at hzero
    have hsignificand : 1 ≤ significand := Nat.one_le_iff_ne_zero.mpr hzero.1
    have hpower : ¬ largestPower < k := by
      intro hk
      have hk : 17 + 292 ≤ k := by
        rw [largestPower] at hk
        omega
      have hlarge (n : Nat) (hn : 17 + n ≤ k) : 17976931348623154 * 10 ^ n < significand * 10 ^ k :=
        calc 17976931348623154 * 10 ^ n
            < 10 ^ 17 * 10 ^ n := Nat.mul_lt_mul_of_pos_right (by decide) (Nat.pow_pos (by decide))
          _ = 10 ^ (17 + n) := (Nat.pow_add ..).symm
          _ ≤ 10 ^ k := Nat.pow_le_pow_right (by decide) hn
          _ ≤ significand * 10 ^ k := Nat.le_mul_of_pos_left _ hsignificand
      exact absurd (hlarge 292 hk) (Nat.not_lt.mpr h)
    rw [if_neg hpower, decide_eq_false_iff_not, Nat.not_le, Int.toNat_natCast, Nat.pow_eq]
    have hproduct : 2 ^ 106 * (roundToDouble significand * roundToDouble (10 ^ k)) ≤
        (2 ^ 53 + 1) ^ 2 * (significand * 10 ^ k) := by
      calc 2 ^ 106 * (roundToDouble significand * roundToDouble (10 ^ k))
          = 2 ^ 53 * roundToDouble significand * (2 ^ 53 * roundToDouble (10 ^ k)) := by ring
        _ ≤ (2 ^ 53 + 1) * significand * ((2 ^ 53 + 1) * 10 ^ k) :=
          Nat.mul_le_mul (roundToDouble_le significand) (roundToDouble_le (10 ^ k))
        _ = (2 ^ 53 + 1) ^ 2 * (significand * 10 ^ k) := by ring
    refine Nat.lt_of_mul_lt_mul_left (a := 2 ^ 106) ?_
    calc 2 ^ 106 * (roundToDouble significand * roundToDouble (10 ^ k))
        ≤ (2 ^ 53 + 1) ^ 2 * (significand * 10 ^ k) := hproduct
      _ ≤ (2 ^ 53 + 1) ^ 2 * safeMagnitude := Nat.mul_le_mul_left _ h
      _ < 2 ^ 106 * overflowBound := safeMagnitude_lt

/-! ## Significands -/

namespace Numeral

theorem valueOf_concat (ds : List Nat) (d : Nat) : valueOf (ds ++ [d]) = 10 * valueOf ds + d := by
  rw [valueOf, List.foldl_append]
  rfl

/-- The first digits alone, with zeros for the others, are no larger number. -/
theorem valueOf_mul_le (ds es : List Nat) :
    valueOf ds * 10 ^ es.length ≤ valueOf (ds ++ es) := by
  induction es using List.reverseRecOn with
  | nil => rw [List.length_nil, Nat.pow_zero, Nat.mul_one, List.append_nil]
  | append_singleton es e ih =>
    rw [← List.append_assoc, valueOf_concat, List.length_append, List.length_singleton, Nat.pow_succ,
      ← Nat.mul_assoc]
    omega

/-- These digits have been taken into the significand, and these are left out: what has been taken is
no more than it was, and there was no room for the first digit left out. -/
structure Taken (taken left : List Nat) (significand : Nat) : Prop where
  le : significand ≤ valueOf taken
  full : ∀ d ∈ left.head?, largestSignificand < 10 * significand + d

theorem foldl_takeWhole (ds : List Nat) {taken left : List Nat} {significand : Nat}
    (h : Taken taken left significand) :
    ∃ taken' left' significand', taken ++ left ++ ds = taken' ++ left' ∧
      ds.foldl takeWhole (significand, (left.length : Int)) =
        (significand', (left'.length : Int)) ∧ Taken taken' left' significand' := by
  induction ds generalizing taken left significand with
  | nil => exact ⟨taken, left, significand, List.append_nil _, rfl, h⟩
  | cons d ds ih =>
    rw [List.foldl_cons, takeWhole]
    by_cases hfull : left ≠ [] ∨ largestSignificand < 10 * significand + d
    · have hleft : Taken taken (left ++ [d]) significand := by
        refine ⟨h.le, fun e he => ?_⟩
        cases left with
        | nil =>
          obtain rfl := Option.some.inj he
          exact hfull.resolve_left fun hne => hne rfl
        | cons first left => exact h.full e he
      obtain ⟨taken', left', significand', heq, hfold, htaken⟩ := ih hleft
      refine ⟨taken', left', significand', ?_, ?_, htaken⟩
      · rw [← heq, List.append_assoc, List.append_assoc, List.append_assoc, List.singleton_append]
      · have hcond : 0 < (left.length : Int) ∨ largestSignificand < 10 * significand + d :=
          hfull.imp_left fun hne => Int.natCast_pos.mpr (List.length_pos_iff.mpr hne)
        rw [if_pos (by simpa using hcond), ← hfold, List.length_append, List.length_singleton,
          Int.natCast_add, Int.natCast_one]
    · obtain ⟨hnil, hroom⟩ := not_or.mp hfull
      obtain rfl := not_not.mp hnil
      have htaken : Taken (taken ++ [d]) [] (10 * significand + d) := by
        refine ⟨?_, nofun⟩
        rw [valueOf_concat]
        exact Nat.add_le_add_right (Nat.mul_le_mul_left 10 h.le) d
      obtain ⟨taken', left', significand', heq, hfold, htaken'⟩ := ih htaken
      refine ⟨taken', left', significand', ?_, ?_, htaken'⟩
      · rw [← heq, List.append_nil, List.append_nil, List.append_assoc, List.singleton_append]
      · rw [if_neg (by simpa using hroom), ← hfold]

/-- Digits of a fraction may be put in the place of larger digits left out. -/
theorem takeFraction_le {ds taken left : List Nat} {significand : Nat} (exponent : Int)
    (h : Taken taken left significand) (hleft : ∀ d ∈ left, d < 10) (hds : ∀ d ∈ ds, d < 10) :
    ∃ taken' left', taken ++ left ++ ds = taken' ++ left' ∧
      (takeFraction significand exponent ds).1 ≤ valueOf taken' ∧
      (takeFraction significand exponent ds).2 + taken'.length = exponent + taken.length := by
  induction ds generalizing taken left significand exponent with
  | nil => exact ⟨taken, left, List.append_nil _, h.le, rfl⟩
  | cons d ds ih =>
    obtain ⟨hd, hds⟩ := List.forall_mem_cons.mp hds
    rw [takeFraction]
    split
    · exact ⟨taken, left ++ d :: ds, List.append_assoc .., h.le, rfl⟩
    · next hroom =>
      cases left with
      | nil =>
        have htaken : Taken (taken ++ [d]) [] (10 * significand + d) := by
          refine ⟨?_, nofun⟩
          rw [valueOf_concat]
          exact Nat.add_le_add_right (Nat.mul_le_mul_left 10 h.le) d
        obtain ⟨taken', left', heq, hle, hlength⟩ := ih (exponent - 1) htaken nofun hds
        refine ⟨taken', left', ?_, hle, ?_⟩
        · rw [← heq, List.append_nil, List.append_nil, List.append_assoc, List.singleton_append]
        · rw [hlength, List.length_append, List.length_singleton]
          omega
      | cons first left =>
        -- the digit is less than the first one left out, for which there was no room
        obtain ⟨hfirst, hleft⟩ := List.forall_mem_cons.mp hleft
        have hfull := h.full first rfl
        rw [largestSignificand] at hfull hroom
        have htaken : Taken (taken ++ [first]) (left ++ [d]) (10 * significand + d) := by
          refine ⟨?_, fun e _ => ?_⟩
          · have hle := h.le
            rw [valueOf_concat]
            omega
          · rw [largestSignificand]
            omega
        have hdigits : ∀ e ∈ left ++ [d], e < 10 := by
          rw [List.forall_mem_append, List.forall_mem_singleton]
          exact ⟨hleft, hd⟩
        obtain ⟨taken', left', heq, hle, hlength⟩ := ih (exponent - 1) htaken hdigits hds
        refine ⟨taken', left', ?_, hle, ?_⟩
        · rw [← heq]
          simp only [List.append_assoc, List.cons_append, List.nil_append]
        · rw [hlength, List.length_append, List.length_singleton]
          omega

/-- **Digits left out make a number smaller.** -/
theorem parts_le {n : Numeral} (hwhole : ∀ d ∈ n.whole, d < 10) (hfraction : ∀ d ∈ n.fraction, d < 10) :
    ∃ significand, ∃ left : Nat,
      n.parts = (significand, (left : Int) - n.fraction.length + n.exponent.getD 0) ∧
        significand * 10 ^ left ≤ valueOf (n.whole ++ n.fraction) := by
  have hempty : Taken [] [] 0 := ⟨Nat.zero_le _, nofun⟩
  obtain ⟨taken, left, significand, heq, hfold, htaken⟩ := foldl_takeWhole n.whole hempty
  have hleft : ∀ d ∈ left, d < 10 := fun d hd =>
    hwhole d (show d ∈ [] ++ [] ++ n.whole from heq ▸ List.mem_append_right taken hd)
  obtain ⟨taken', left', heq', hle, hlength⟩ :=
    takeFraction_le (left.length : Int) htaken hleft hfraction
  have hall : n.whole ++ n.fraction = taken' ++ left' := by
    rw [← heq', ← heq, List.append_nil, List.nil_append]
  refine ⟨(takeFraction significand left.length n.fraction).1, left'.length, ?_, ?_⟩
  · have hwidth := congrArg List.length heq
    have hwidth' := congrArg List.length heq'
    simp only [List.length_append, List.length_nil] at hwidth hwidth'
    have hparts : n.parts = ((takeFraction significand left.length n.fraction).1,
        (takeFraction significand left.length n.fraction).2 + n.exponent.getD 0) := by
      rw [parts, show (0 : Int) = (([] : List Nat).length : Int) from rfl, hfold]
    rw [hparts]
    congr 1
    omega
  · rw [hall]
    exact Nat.le_trans (Nat.mul_le_mul_right _ hle) (valueOf_mul_le taken' left')

/-- The magnitude of the number that the numeral denotes. -/
def magnitude (n : Numeral) : ℚ :=
  valueOf (n.whole ++ n.fraction) * (10 : ℚ) ^ (n.exponent.getD 0 - n.fraction.length)

/-- **Numerals that are not too large.** -/
theorem isTooLarge_eq_false {n : Numeral} (hwhole : ∀ d ∈ n.whole, d < 10)
    (hfraction : ∀ d ∈ n.fraction, d < 10) (h : n.magnitude ≤ safeMagnitude) :
    n.isTooLarge = false := by
  obtain ⟨significand, left, hparts, hle⟩ := parts_le hwhole hfraction
  rw [isTooLarge, hparts]
  show overflows significand _ = false
  by_cases hexponent : (left : Int) - n.fraction.length + n.exponent.getD 0 < 0
  · rw [overflows, if_pos (by simpa using .inr hexponent)]
  · obtain ⟨k, hk⟩ := Int.eq_ofNat_of_zero_le (Int.not_lt.mp hexponent)
    rw [hk]
    refine overflows_eq_false ?_
    have hpower : (10 : ℚ) ^ k =
        10 ^ left * (10 : ℚ) ^ (n.exponent.getD 0 - n.fraction.length) := by
      rw [← zpow_natCast, ← zpow_natCast, ← zpow_add₀ (by norm_num), ← hk]
      congr 1
      ring
    have hcast : (significand : ℚ) * 10 ^ k ≤ safeMagnitude := by
      refine le_trans ?_ h
      rw [hpower, ← mul_assoc, magnitude]
      exact mul_le_mul_of_nonneg_right (by exact_mod_cast hle) (zpow_nonneg (by norm_num) _)
    exact_mod_cast hcast

end Numeral

end LeaseDesk.Json
