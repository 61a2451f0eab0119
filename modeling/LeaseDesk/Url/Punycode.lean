import LeaseDesk.Text.Numerals

/-!
# Names beyond ASCII

The names of servers are sent in ASCII. A label with other characters is written in Punycode: first
its ASCII characters, then, behind a hyphen, where the others are to be put in. They are put in by
ascending code point, and each one is told by how far it is from the one before, counting one step
for every place of every code point passed over. Such a distance is a numeral with 36 digits, least
significant first, whose thresholds adapt to the distances seen.
-/

namespace LeaseDesk.Url.Punycode

/-- The digit for a number below 36. -/
def digit (n : Nat) : Char :=
  if n < 26 then Char.ofNat ('a'.toNat + n) else Char.ofNat ('0'.toNat + (n - 26))

/-- The number below which a digit ends a numeral, at a position and for a bias. -/
def threshold (position bias : Nat) : Nat :=
  min 26 (max 1 (position - bias))

theorem one_le_threshold (position bias : Nat) : 1 ≤ threshold position bias := by
  unfold threshold
  omega

/-- A distance as a numeral, from a position on. -/
def numeral (bias position n : Nat) : List Char :=
  let t := threshold position bias
  if n < t then [digit n]
  else digit (t + (n - t) % (36 - t)) :: numeral bias (position + 36) ((n - t) / (36 - t))
termination_by n
decreasing_by
  have h1 := one_le_threshold position bias
  have h2 := Nat.div_le_self (n - threshold position bias) (36 - threshold position bias)
  omega

/-- The bias that suits a distance, from a start on. -/
def scale (start distance : Nat) : Nat :=
  if 455 < distance then scale (start + 36) (distance / 35) else start + 36 * distance / (distance + 38)
termination_by distance
decreasing_by omega

/-- The bias after a distance, the first one or a later one, when `count` characters are in place.
-/
def adapt (isFirst : Bool) (distance count : Nat) : Nat :=
  let distance := if isFirst then distance / 700 else distance / 2
  scale 0 (distance + distance / count)

/-- What has been written so far. -/
structure Progress where
  /-- the numerals -/
  written : List Char
  /-- the steps since the last character was put in -/
  distance : Nat
  /-- the bias -/
  bias : Nat
  /-- the number of characters in place -/
  placed : Nat

/-- Passes a place of the label, looking for a code point. -/
def Progress.pass (basic codePoint : Nat) (p : Progress) (c : Char) : Progress :=
  if c.toNat < codePoint then { p with distance := p.distance + 1 }
  else if c.toNat == codePoint then
    ⟨p.written ++ numeral p.bias 36 p.distance, 0,
      adapt (p.placed == basic) p.distance (p.placed + 1), p.placed + 1⟩
  else p

/-- Puts in the characters of each of these ascending code points. The steps are counted from
`next`. -/
def putIn (label : List Char) (basic : Nat) : Nat → Progress → List Nat → Progress
  | _, p, [] => p
  | next, p, codePoint :: rest =>
    let p := { p with distance := p.distance + (codePoint - next) * (p.placed + 1) }
    let p := label.foldl (Progress.pass basic codePoint) p
    putIn label basic (codePoint + 1) { p with distance := p.distance + 1 } rest

/-- Puts a number in its place among ascending ones, once. -/
def insert (n : Nat) : List Nat → List Nat
  | [] => [n]
  | m :: rest => if n < m then n :: m :: rest else if n == m then m :: rest else m :: insert n rest

/-- A label in Punycode. -/
def encode (label : List Char) : List Char :=
  let basic := label.filter fun c => c.toNat < 0x80
  let others := (label.filter fun c => 0x80 ≤ c.toNat).foldr (fun c => insert c.toNat) []
  basic ++ (if basic.isEmpty then [] else ['-'])
    ++ (putIn label basic.length 0x80 ⟨[], 0, 72, basic.length⟩ others).written

end LeaseDesk.Url.Punycode
