import LeaseDesk.Json.Bytes

/-!
# Numerals in JSON text

A numeral is an optional minus sign, digits without a needless leading zero, and optionally a fraction
and an exponent. `Numeral.read?` splits one off the front of a text, as long as it gets.

A numeral denotes an integer only if it has neither fraction nor exponent, is not a negative zero and
does not exceed the 64-bit integers. All other numerals denote doubles, and those too large for a double
denote nothing. For a double only so many digits are taken as fit a 64-bit significand: further digits
of the whole part count as powers of ten, further digits of the fraction not at all. Significand and
power of ten are rounded to doubles and multiplied, and the only outcome that matters is whether that
overflows. It is decided in natural numbers: a double has 53 significant bits, and a product is infinite
from the midpoint between the largest double and 2 to the power of 1024 on.
-/

namespace LeaseDesk.Json

/-! ## Doubles -/

/-- The natural number rounded to 53 significant bits; a tie goes to the even neighbour. -/
def roundToDouble (n : Nat) : Nat :=
  let unit := Nat.pow 2 (n.log2 - 52)
  let low := n / unit
  let rest := n % unit
  if 2 * rest < unit then low * unit
  else if unit < 2 * rest then (low + 1) * unit
  else (low + low % 2) * unit

/-- Products from here on round to infinity. -/
def overflowBound : Nat := Nat.pow 2 1024 - Nat.pow 2 970

/-- The largest power of ten that is a double. -/
def largestPower : Int := 308

/-- The significand times ten to the power of the exponent overflows. -/
def overflows (significand : Nat) (exponent : Int) : Bool :=
  if significand == 0 || exponent < 0 then false
  else if largestPower < exponent then true
  else decide (overflowBound ≤ roundToDouble significand * roundToDouble (Nat.pow 10 exponent.toNat))

/-! ## Reading numerals -/

/-- A numeral, as it is written. -/
structure Numeral where
  /-- there is a minus sign -/
  negative : Bool
  /-- the digits of the whole part -/
  whole : List Nat
  /-- the digits of the fraction, none if there is no fraction -/
  fraction : List Nat
  /-- the exponent, if there is one -/
  exponent : Option Int

namespace Numeral

/-- Splits off as many digits as there are. -/
def digitsOf (bs : List UInt8) : List Nat × List UInt8 :=
  ((bs.takeWhile isDigit).map digitValue, bs.dropWhile isDigit)

/-- The number that a row of digits denotes. -/
def valueOf (ds : List Nat) : Nat :=
  ds.foldl (fun v d => 10 * v + d) 0

/-- Splits off a fraction, if one begins here. A point has to be followed by a digit. -/
def fractionOf : List UInt8 → Option (List Nat × List UInt8)
  | [] => some ([], [])
  | b :: rest =>
    if b == ascii '.' then
      if (digitsOf rest).1.isEmpty then none else some (digitsOf rest)
    else some ([], b :: rest)

/-- Splits off a minus sign: whether there is one, and what follows. -/
def minusOf : List UInt8 → Bool × List UInt8
  | [] => (false, [])
  | b :: rest => if b == ascii '-' then (true, rest) else (false, b :: rest)

/-- Splits off a sign: whether it is a minus sign, and what follows. -/
def signOf : List UInt8 → Bool × List UInt8
  | [] => (false, [])
  | b :: rest => if b == ascii '+' then (false, rest) else minusOf (b :: rest)

/-- Splits off an exponent, if one begins here. The letter has to be followed by a digit, with an
optional sign between them. -/
def exponentOf : List UInt8 → Option (Option Int × List UInt8)
  | [] => some (none, [])
  | b :: rest =>
    if b == ascii 'e' || b == ascii 'E' then
      let sign := signOf rest
      let digits := digitsOf sign.2
      let n : Int := valueOf digits.1
      if digits.1.isEmpty then none
      else some (some (if sign.1 then -n else n), digits.2)
    else some (none, b :: rest)

/-- Splits a numeral off the front. -/
def read? (bs : List UInt8) : Option (Numeral × List UInt8) :=
  let sign := minusOf bs
  let whole := digitsOf sign.2
  if whole.1.isEmpty || (whole.1.head? == some 0 && 1 < whole.1.length) then none
  else
    (fractionOf whole.2).bind fun fraction =>
      (exponentOf fraction.2).map fun exponent =>
        (⟨sign.1, whole.1, fraction.1, exponent.1⟩, exponent.2)

/-- The largest significand. -/
def largestSignificand : Nat := 18446744073709551615

/-- Takes a digit of the whole part into significand and exponent. -/
def takeWhole (state : Nat × Int) (d : Nat) : Nat × Int :=
  let (significand, exponent) := state
  if 0 < exponent || largestSignificand < 10 * significand + d then (significand, exponent + 1)
  else (10 * significand + d, exponent)

/-- Takes digits of the fraction into significand and exponent, as long as they fit. -/
def takeFraction (significand : Nat) (exponent : Int) : List Nat → Nat × Int
  | [] => (significand, exponent)
  | d :: ds =>
    if largestSignificand < 10 * significand + d then (significand, exponent)
    else takeFraction (10 * significand + d) (exponent - 1) ds

/-- The significand and the power of ten from which a double is made. -/
def parts (n : Numeral) : Nat × Int :=
  let (significand, exponent) := n.whole.foldl takeWhole (0, 0)
  let (significand, exponent) := takeFraction significand exponent n.fraction
  (significand, exponent + n.exponent.getD 0)

/-- The numeral is too large even for a double. -/
def isTooLarge (n : Numeral) : Bool :=
  let (significand, exponent) := n.parts
  overflows significand exponent

/-- The integer that the numeral denotes, if it denotes one. -/
def integer? (n : Numeral) : Option Int :=
  if !n.fraction.isEmpty || n.exponent.isSome then none
  else
    let v := valueOf n.whole
    if n.negative then
      if v == 0 || 9223372036854775808 < v then none else some (-(v : Int))
    else if largestSignificand < v then none else some (v : Int)

theorem length_digitsOf_le (bs : List UInt8) : (digitsOf bs).2.length ≤ bs.length :=
  length_dropWhile_le _ _

theorem length_digitsOf_lt {bs : List UInt8} (h : (digitsOf bs).1.isEmpty = false) :
    (digitsOf bs).2.length < bs.length := by
  cases bs with
  | nil => simp [digitsOf] at h
  | cons b rest =>
    by_cases hb : isDigit b
    · have := length_dropWhile_le isDigit rest
      simp only [digitsOf, List.dropWhile_cons, hb, if_true, List.length_cons]
      omega
    · simp [digitsOf, hb] at h

theorem length_minusOf_le (bs : List UInt8) : (minusOf bs).2.length ≤ bs.length := by
  unfold minusOf
  split
  · exact Nat.le_refl _
  · split <;> simp

theorem length_signOf_le (bs : List UInt8) : (signOf bs).2.length ≤ bs.length := by
  unfold signOf
  split
  · exact Nat.le_refl _
  · split
    · simp
    · exact length_minusOf_le _

theorem length_fractionOf_le {bs rest : List UInt8} {ds : List Nat}
    (h : fractionOf bs = some (ds, rest)) : rest.length ≤ bs.length := by
  unfold fractionOf at h
  split at h
  · simp only [Option.some.injEq, Prod.mk.injEq] at h
    simp [← h.2]
  · rename_i b rest'
    have l := length_digitsOf_le rest'
    split at h
    · split at h
      · exact absurd h (by simp)
      · rw [Option.some.inj h] at l
        exact Nat.le_succ_of_le l
    · simp only [Option.some.injEq, Prod.mk.injEq] at h
      simp [← h.2]

theorem length_exponentOf_le {bs rest : List UInt8} {e : Option Int}
    (h : exponentOf bs = some (e, rest)) : rest.length ≤ bs.length := by
  unfold exponentOf at h
  split at h
  · simp only [Option.some.injEq, Prod.mk.injEq] at h
    simp [← h.2]
  · rename_i b rest'
    have l₁ := length_signOf_le rest'
    have l₂ := length_digitsOf_le (signOf rest').2
    split at h
    · dsimp only at h
      split at h
      · exact absurd h (by simp)
      · simp only [Option.some.injEq, Prod.mk.injEq] at h
        rw [← h.2, List.length_cons]
        omega
    · simp only [Option.some.injEq, Prod.mk.injEq] at h
      simp [← h.2]

/-- A numeral takes at least one byte. -/
theorem length_read? {bs rest : List UInt8} {n : Numeral} (h : read? bs = some (n, rest)) :
    rest.length < bs.length := by
  unfold read? at h
  dsimp only at h
  have l₁ := length_minusOf_le bs
  split at h
  · exact absurd h (by simp)
  · rename_i hw
    simp only [Bool.or_eq_true, not_or, Bool.not_eq_true] at hw
    have l₂ := length_digitsOf_lt hw.1
    simp only [Option.bind_eq_some_iff, Option.map_eq_some_iff, Prod.mk.injEq] at h
    obtain ⟨fraction, hf, exponent, he, _, rfl⟩ := h
    have l₃ := length_fractionOf_le hf
    have l₄ := length_exponentOf_le he
    omega

end Numeral

end LeaseDesk.Json
