import LeaseDesk.Json.Numeral
import LeaseDesk.Text.Basic

/-!
# Reading and skipping in JSON text

Three things can be done at the front of a JSON text. `readText?` reads a string, undoing its escapes;
its bytes have to be UTF-8 and its escaped surrogates have to come in pairs. `skipString?` goes past a
string without looking at what it says: only its outer form has to be right. `skipValue?` goes past any
value, however deeply nested; it keeps the brackets that are open in a list, so the depth of a value
costs no depth of recursion.

All of them give what follows, which is always shorter than what they were given.
-/

namespace LeaseDesk.Json

/-- The characters that are escaped by a backslash and one more character. -/
def shortEscapes : List (UInt8 × Char) :=
  [(ascii '"', '"'), (ascii '\\', '\\'), (ascii '/', '/'), (ascii 'b', '\x08'), (ascii 'f', '\x0c'),
    (ascii 'n', '\n'), (ascii 'r', '\r'), (ascii 't', '\t')]

/-- Splits four hexadecimal digits off the front: the number they denote, and what follows. -/
def readUnit? : List UInt8 → Option (Nat × List UInt8)
  | a :: b :: c :: d :: rest => do
    let a ← hexValue? a
    let b ← hexValue? b
    let c ← hexValue? c
    let d ← hexValue? d
    return (((a * 16 + b) * 16 + c) * 16 + d, rest)
  | _ => none

/-- The first of two units that stand for one character. -/
def isHighSurrogate (n : Nat) : Bool := 0xD800 ≤ n && n ≤ 0xDBFF

/-- The second of two units that stand for one character. -/
def isLowSurrogate (n : Nat) : Bool := 0xDC00 ≤ n && n ≤ 0xDFFF

/-- The character that two units stand for. -/
def joinSurrogates (high low : Nat) : Char :=
  Char.ofNat (0x10000 + (high - 0xD800) * 0x400 + (low - 0xDC00))

/-- Goes past the beginning of a numbered escape. -/
def pastNumberedEscape? : List UInt8 → Option (List UInt8)
  | a :: b :: rest => if a == ascii '\\' && b == ascii 'u' then some rest else none
  | _ => none

/-- Reads the character that is given by its number, or by the numbers of a pair of surrogates. -/
def readNumbered? (bs : List UInt8) : Option (Char × List UInt8) :=
  (readUnit? bs).bind fun (n, rest) =>
    if isLowSurrogate n then none
    else if isHighSurrogate n then
      (pastNumberedEscape? rest).bind fun rest =>
        (readUnit? rest).bind fun (m, rest) =>
          if isLowSurrogate m then some (joinSurrogates n m, rest) else none
    else some (Char.ofNat n, rest)

/-- Reads what follows the backslash of an escape. -/
def readEscape? : List UInt8 → Option (Char × List UInt8)
  | [] => none
  | b :: rest =>
    match shortEscapes.lookup b with
    | some c => some (c, rest)
    | none => if b == ascii 'u' then readNumbered? rest else none

theorem length_readUnit? {bs : List UInt8} {n : Nat} {rest : List UInt8}
    (h : readUnit? bs = some (n, rest)) : rest.length < bs.length := by
  unfold readUnit? at h
  split at h
  · simp only [Option.pure_def, Option.bind_eq_bind, Option.bind_eq_some_iff, Option.some.injEq,
      Prod.mk.injEq] at h
    obtain ⟨_, _, _, _, _, _, _, _, _, rfl⟩ := h
    simp only [List.length_cons]
    omega
  · exact absurd h (by simp)

theorem length_pastNumberedEscape? {bs rest : List UInt8}
    (h : pastNumberedEscape? bs = some rest) : rest.length < bs.length := by
  unfold pastNumberedEscape? at h
  split at h
  · split at h
    · obtain rfl := Option.some.inj h
      simp only [List.length_cons]
      omega
    · exact absurd h (by simp)
  · exact absurd h (by simp)

theorem length_readNumbered? {bs : List UInt8} {c : Char} {rest : List UInt8}
    (h : readNumbered? bs = some (c, rest)) : rest.length < bs.length := by
  simp only [readNumbered?, Option.bind_eq_some_iff] at h
  obtain ⟨⟨n, rest₁⟩, h₁, h⟩ := h
  have l₁ := length_readUnit? h₁
  split at h
  · exact absurd h (by simp)
  · split at h
    · simp only [Option.bind_eq_some_iff] at h
      obtain ⟨rest₂, h₂, ⟨m, rest₃⟩, h₃, h⟩ := h
      have l₂ := length_pastNumberedEscape? h₂
      have l₃ := length_readUnit? h₃
      split at h
      · simp only [Option.some.injEq, Prod.mk.injEq] at h
        obtain ⟨_, rfl⟩ := h
        omega
      · exact absurd h (by simp)
    · simp only [Option.some.injEq, Prod.mk.injEq] at h
      obtain ⟨_, rfl⟩ := h
      exact l₁

theorem length_readEscape? {bs : List UInt8} {c : Char} {rest : List UInt8}
    (h : readEscape? bs = some (c, rest)) : rest.length < bs.length := by
  unfold readEscape? at h
  split at h
  · exact absurd h (by simp)
  · split at h
    · simp only [Option.some.injEq, Prod.mk.injEq] at h
      obtain ⟨_, rfl⟩ := h
      simp
    · split at h
      · have := length_readNumbered? h
        simp only [List.length_cons]
        omega
      · exact absurd h (by simp)

/-- Reads the bytes of a string up to its closing quotation mark, behind the bytes read before, which
are given in reverse. -/
def readBytes? (before : List UInt8) (bs : List UInt8) : Option (List UInt8 × List UInt8) :=
  match bs with
  | [] => none
  | b :: rest =>
    if b == ascii '"' then some (before.reverse, rest)
    else if b == ascii '\\' then
      match _h : readEscape? rest with
      | none => none
      | some (c, rest') => readBytes? ((String.utf8EncodeChar c).reverse ++ before) rest'
    else if b < 0x20 then none
    else readBytes? (b :: before) rest
termination_by bs.length
decreasing_by
  · have := length_readEscape? _h
    simp only [List.length_cons]
    omega
  · simp

/-- Reads a string whose opening quotation mark has been read. -/
def readText? (bs : List UInt8) : Option (String × List UInt8) :=
  (readBytes? [] bs).bind fun (bytes, rest) =>
    (Text.ofBytes? bytes).map fun s => (s, rest)

theorem length_readBytes? {before bs bytes rest : List UInt8}
    (h : readBytes? before bs = some (bytes, rest)) : rest.length < bs.length := by
  fun_induction readBytes? before bs with
  | case1 => simp at h
  | case2 before b rest' hb =>
    simp only [Option.some.injEq, Prod.mk.injEq] at h
    obtain ⟨_, rfl⟩ := h
    simp
  | case3 => simp at h
  | case4 before b rest' hb hb' c rest'' he ih =>
    have := length_readEscape? he
    have := ih h
    simp only [List.length_cons]
    omega
  | case5 => simp at h
  | case6 before b rest' hb hb' hc ih =>
    have := ih h
    simp only [List.length_cons]
    omega

theorem length_readText? {bs : List UInt8} {s : String} {rest : List UInt8}
    (h : readText? bs = some (s, rest)) : rest.length < bs.length := by
  simp only [readText?, Option.bind_eq_some_iff, Option.map_eq_some_iff, Prod.mk.injEq] at h
  obtain ⟨⟨bytes, rest'⟩, h₁, _, _, _, rfl⟩ := h
  exact length_readBytes? h₁

/-- Goes past the digits of a numbered escape, or past the one character of a short one. -/
def skipEscape? : List UInt8 → Option (List UInt8)
  | [] => none
  | b :: rest =>
    if (shortEscapes.lookup b).isSome then some rest
    else if b == ascii 'u' then (readUnit? rest).map (·.2) else none

theorem length_skipEscape? {bs rest : List UInt8} (h : skipEscape? bs = some rest) :
    rest.length < bs.length := by
  unfold skipEscape? at h
  split at h
  · exact absurd h (by simp)
  · split at h
    · obtain rfl := Option.some.inj h
      simp
    · split at h
      · simp only [Option.map_eq_some_iff] at h
        obtain ⟨⟨n, _⟩, h, rfl⟩ := h
        have := length_readUnit? h
        simp only [List.length_cons]
        omega
      · exact absurd h (by simp)

/-- Goes past a string whose opening quotation mark has been read. -/
def skipString? (bs : List UInt8) : Option (List UInt8) :=
  match bs with
  | [] => none
  | b :: rest =>
    if b == ascii '"' then some rest
    else if b == ascii '\\' then
      match _h : skipEscape? rest with
      | none => none
      | some rest' => skipString? rest'
    else if b < 0x20 then none
    else skipString? rest
termination_by bs.length
decreasing_by
  · have := length_skipEscape? _h
    simp only [List.length_cons]
    omega
  · simp

theorem length_skipString? {bs rest : List UInt8} (h : skipString? bs = some rest) :
    rest.length < bs.length := by
  fun_induction skipString? bs with
  | case1 => simp at h
  | case2 b rest' hb =>
    obtain rfl := Option.some.inj h
    simp
  | case3 => simp at h
  | case4 b rest' hb hb' rest'' he ih =>
    have := length_skipEscape? he
    have := ih h
    simp only [List.length_cons]
    omega
  | case5 => simp at h
  | case6 b rest' hb hb' hc ih =>
    have := ih h
    simp only [List.length_cons]
    omega

/-- Goes past the given bytes. -/
def skipWord? (word : List UInt8) (bs : List UInt8) : Option (List UInt8) :=
  if bs.take word.length == word then some (bs.drop word.length) else none

/-- The words that are values, with what follows their first letter. -/
def wordAfter? (b : UInt8) : Option (List UInt8) :=
  if b == ascii 'n' then some ("ull".toList.map ascii)
  else if b == ascii 't' then some ("rue".toList.map ascii)
  else if b == ascii 'f' then some ("alse".toList.map ascii)
  else none

/-- A numeral begins with this byte. -/
def startsNumeral (b : UInt8) : Bool := b == ascii '-' || isDigit b

/-- Goes past a value that is neither a list nor an object and begins with the byte `b`. -/
def skipScalar? (b : UInt8) (rest : List UInt8) : Option (List UInt8) :=
  if b == ascii '"' then skipString? rest
  else if startsNumeral b then (Numeral.read? (b :: rest)).map (·.2)
  else (wordAfter? b).bind fun word => skipWord? word rest

/-- A bracket that is open while a value is skipped. -/
inductive Bracket
  | list
  | object
deriving DecidableEq

/-- The byte that closes a bracket. -/
def Bracket.close : Bracket → UInt8
  | list => ascii ']'
  | object => 0x7D

/-- Goes past the name of a member and the colon behind it. -/
def skipName? (bs : List UInt8) : Option (List UInt8) :=
  match skipSpace bs with
  | [] => none
  | b :: rest =>
    if b == ascii '"' then
      (skipString? rest).bind fun rest =>
        match skipSpace rest with
        | [] => none
        | b :: rest => if b == ascii ':' then some rest else none
    else none

/-- Where the skipping of a value has got to. -/
inductive Stage
  /-- a value has to follow -/
  | wanted
  /-- a bracket has just been opened -/
  | opened
  /-- a value has just ended -/
  | ended
deriving DecidableEq

/-- Goes past what an open bracket wants in front of its next value: the name of a member in an object,
nothing in a list. -/
def skipLabel? : Bracket → List UInt8 → Option (List UInt8)
  | .list, bs => some bs
  | .object, bs => skipName? bs

theorem length_skipWord? {word bs rest : List UInt8} (h : skipWord? word bs = some rest) :
    rest.length ≤ bs.length := by
  unfold skipWord? at h
  split at h
  · obtain rfl := Option.some.inj h
    simp
  · exact absurd h (by simp)

theorem length_skipScalar? {b : UInt8} {bs rest : List UInt8} (h : skipScalar? b bs = some rest) :
    rest.length ≤ bs.length := by
  unfold skipScalar? at h
  split at h
  · exact Nat.le_of_lt (length_skipString? h)
  · split at h
    · simp only [Option.map_eq_some_iff] at h
      obtain ⟨⟨n, _⟩, h, rfl⟩ := h
      exact Nat.le_of_lt_succ (Numeral.length_read? h)
    · simp only [Option.bind_eq_some_iff] at h
      obtain ⟨_, _, h⟩ := h
      exact length_skipWord? h

theorem length_of_skipSpace {bs rest : List UInt8} {b : UInt8} (h : skipSpace bs = b :: rest) :
    rest.length < bs.length := by
  have := length_skipSpace_le bs
  rw [h, List.length_cons] at this
  omega

theorem length_skipName? {bs rest : List UInt8} (h : skipName? bs = some rest) :
    rest.length < bs.length := by
  unfold skipName? at h
  split at h
  · exact absurd h (by simp)
  · rename_i b rest₁ h₁
    have l₁ := length_of_skipSpace h₁
    split at h
    · simp only [Option.bind_eq_some_iff] at h
      obtain ⟨rest₂, h₂, h⟩ := h
      have l₂ := length_skipString? h₂
      split at h
      · exact absurd h (by simp)
      · rename_i b' rest₃ h₃
        have l₃ := length_of_skipSpace h₃
        split at h
        · obtain rfl := Option.some.inj h
          omega
        · exact absurd h (by simp)
    · exact absurd h (by simp)

theorem length_skipLabel? {br : Bracket} {bs rest : List UInt8} (h : skipLabel? br bs = some rest) :
    rest.length ≤ bs.length := by
  cases br with
  | list =>
    obtain rfl := Option.some.inj h
    exact Nat.le_refl _
  | object => exact Nat.le_of_lt (length_skipName? h)

/-- The weight of a stage in the measure by which `skipFrom?` ends: only the step from an opening
bracket to the first value may go past nothing. -/
def Stage.weight : Stage → Nat
  | opened => 1
  | wanted | ended => 0

/-- Goes on skipping from a stage, with these brackets open, the innermost first. -/
def skipFrom? (stage : Stage) (stack : List Bracket) (bs : List UInt8) : Option (List UInt8) :=
  match stage with
  | .wanted =>
    match _h : skipSpace bs with
    | [] => none
    | b :: rest =>
      if b == ascii '[' then skipFrom? .opened (.list :: stack) rest
      else if b == 0x7B then skipFrom? .opened (.object :: stack) rest
      else
        match _hs : skipScalar? b rest with
        | none => none
        | some rest' => skipFrom? .ended stack rest'
  | .opened =>
    match stack with
    | [] => none
    | br :: outer =>
      match _h : skipSpace bs with
      | [] => none
      | b :: rest =>
        if b == br.close then skipFrom? .ended outer rest
        else
          match _hs : skipLabel? br (b :: rest) with
          | none => none
          | some rest' => skipFrom? .wanted (br :: outer) rest'
  | .ended =>
    match stack with
    | [] => some bs
    | br :: outer =>
      match _h : skipSpace bs with
      | [] => none
      | b :: rest =>
        if b == br.close then skipFrom? .ended outer rest
        else if b == ascii ',' then
          match _hs : skipLabel? br rest with
          | none => none
          | some rest' => skipFrom? .wanted (br :: outer) rest'
        else none
termination_by 2 * bs.length + stage.weight
decreasing_by
  all_goals
    have h₁ := length_of_skipSpace _h
    try have h₂ := length_skipScalar? _hs
    try have h₂ := length_skipLabel? _hs
    simp only [List.length_cons, Stage.weight] at *
    omega

/-- Goes past a value. -/
def skipValue? (bs : List UInt8) : Option (List UInt8) :=
  skipFrom? .wanted [] bs

theorem length_skipFrom? {stage : Stage} {stack : List Bracket} {bs rest : List UInt8}
    (h : skipFrom? stage stack bs = some rest) : rest.length ≤ bs.length := by
  fun_induction skipFrom? stage stack bs with
  | case1 | case4 | case6 | case7 | case9 | case12 | case14 | case16 => simp at h
  | case2 _ _ _ _ hs _ ih | case3 _ _ _ _ hs _ _ ih | case8 _ _ _ _ _ hs _ ih
  | case13 _ _ _ _ _ hs _ ih =>
    have := ih h
    have := length_of_skipSpace hs
    omega
  | case5 _ _ _ _ hs _ _ _ hv ih =>
    have := ih h
    have := length_of_skipSpace hs
    have := length_skipScalar? hv
    omega
  | case10 _ _ _ _ _ hs _ _ hl ih =>
    have := ih h
    have := length_of_skipSpace hs
    have := length_skipLabel? hl
    simp only [List.length_cons] at this
    omega
  | case11 =>
    obtain rfl := Option.some.inj h
    exact Nat.le_refl _
  | case15 _ _ _ _ _ hs _ _ _ hl ih =>
    have := ih h
    have := length_of_skipSpace hs
    have := length_skipLabel? hl
    omega

end LeaseDesk.Json
