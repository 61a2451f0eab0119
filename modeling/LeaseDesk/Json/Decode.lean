import LeaseDesk.Json.Scan

/-!
# Decoding JSON bodies into fields

A body is decoded against a list of fields, each with a name, a type and perhaps a value to fall back on.
It is either an object, whose members may come in any order and among which others may stand that are
skipped, or a list of the values in the order of the fields.

The text is read from left to right and the first problem decides: a body is *malformed* where it is not
JSON, and *mismatched* where it is, but not what the fields want: a value of another type, a field given
twice or not at all. What follows the body is left alone.
-/

namespace LeaseDesk.Json

/-- Why a body is refused. -/
inductive Refusal
  /-- it is not JSON -/
  | malformed
  /-- it is JSON, but not of the fields that are wanted -/
  | mismatched
deriving DecidableEq

/-- The types of fields. -/
inductive FieldType
  /-- a string -/
  | text
  /-- an integer of 32 bits -/
  | integer
deriving DecidableEq

/-- The values of a type. -/
@[reducible] def FieldType.Value : FieldType → Type
  | .text => String
  | .integer => Int

/-- A field of a body. -/
structure Field where
  /-- its name -/
  name : String
  /-- the type of its value -/
  type : FieldType
  /-- the value it has when it is not given; without one it has to be given -/
  fallback : Option type.Value

namespace Field

/-- A string that has to be given. -/
def text (name : String) : Field := ⟨name, .text, none⟩

/-- A string that is empty when it is not given. -/
def optionalText (name : String) : Field := ⟨name, .text, some ""⟩

/-- An integer that has to be given. -/
def integer (name : String) : Field := ⟨name, .integer, none⟩

end Field

/-- One value for each field. -/
@[reducible] def Values : List Field → Type
  | [] => Unit
  | f :: fs => f.type.Value × Values fs

/-- Room for one value for each field. -/
@[reducible] def Slots : List Field → Type
  | [] => Unit
  | f :: fs => Option f.type.Value × Slots fs

/-- Room in which no value stands yet. -/
def noSlots : (fs : List Field) → Slots fs
  | [] => ()
  | _ :: fs => (none, noSlots fs)

/-- The values, if every field has one or can fall back on one. -/
def complete? : (fs : List Field) → Slots fs → Option (Values fs)
  | [], () => some ()
  | f :: fs, (v, vs) =>
    (v <|> f.fallback).bind fun v => (complete? fs vs).map fun vs => (v, vs)

/-- The integer fits 32 bits. -/
def isInt32 (n : Int) : Bool :=
  decide (-2147483648 ≤ n) && decide (n ≤ 2147483647)

/-- The problem with a numeral where something else is wanted. -/
def refuseNumeral (n : Numeral) : Refusal :=
  if n.isTooLarge then .malformed else .mismatched

/-- The problem with a value of another type than wanted, which begins with the byte `b`. -/
def refuse (b : UInt8) (rest : List UInt8) : Refusal :=
  if b == ascii '"' then
    if (readText? rest).isSome then .mismatched else .malformed
  else if startsNumeral b then
    match Numeral.read? (b :: rest) with
    | none => .malformed
    | some (n, _) => refuseNumeral n
  else if b == ascii '[' || b == 0x7B then .mismatched
  else if ((wordAfter? b).bind fun word => skipWord? word rest).isSome then .mismatched
  else .malformed

/-- Reads a string that begins with the byte `b`. -/
def readString (b : UInt8) (rest : List UInt8) : Except Refusal (String × List UInt8) :=
  if b == ascii '"' then
    match readText? rest with
    | none => .error .malformed
    | some result => .ok result
  else .error (refuse b rest)

/-- Reads an integer of 32 bits that begins with the byte `b`. -/
def readInteger (b : UInt8) (rest : List UInt8) : Except Refusal (Int × List UInt8) :=
  if startsNumeral b then
    match Numeral.read? (b :: rest) with
    | none => .error .malformed
    | some (n, rest) =>
      match n.integer?.filter isInt32 with
      | some i => .ok (i, rest)
      | none => .error (refuseNumeral n)
  else .error (refuse b rest)

/-- Reads a value of a type. -/
def readValue (type : FieldType) (bs : List UInt8) : Except Refusal (type.Value × List UInt8) :=
  match skipSpace bs with
  | [] => .error .malformed
  | b :: rest =>
    match type with
    | .text => readString b rest
    | .integer => readInteger b rest

/-- Goes past the colon behind the name of a member. -/
def pastColon (bs : List UInt8) : Except Refusal (List UInt8) :=
  match skipSpace bs with
  | [] => .error .malformed
  | b :: rest => if b == ascii ':' then .ok rest else .error .malformed

/-- Goes past a value that is not wanted. -/
def skipMember (bs : List UInt8) : Except Refusal (List UInt8) :=
  match pastColon bs with
  | .error e => .error e
  | .ok rest =>
    match skipValue? rest with
    | none => .error .malformed
    | some rest => .ok rest

/-- Reads a member whose name has been read: into the slot of the field of that name if it is empty, or
past it if there is no such field. -/
def readMember : (fs : List Field) → Slots fs → String → List UInt8 →
    Except Refusal (Slots fs × List UInt8)
  | [], (), _, bs =>
    match skipMember bs with
    | .error e => .error e
    | .ok rest => .ok ((), rest)
  | f :: fs, (v, vs), name, bs =>
    if f.name == name then
      if v.isSome then .error .mismatched
      else
        match pastColon bs with
        | .error e => .error e
        | .ok rest =>
          match readValue f.type rest with
          | .error e => .error e
          | .ok (v, rest) => .ok ((some v, vs), rest)
    else
      match readMember fs vs name bs with
      | .error e => .error e
      | .ok (vs, rest) => .ok ((v, vs), rest)

/-- What follows the comma in front of a member or item, or the text itself in front of the first. -/
def pastComma (first : Bool) (bs : List UInt8) : List UInt8 :=
  if first then bs
  else
    match bs with
    | [] => []
    | b :: rest => if b == ascii ',' then skipSpace rest else []

theorem length_pastComma_le (first : Bool) (bs : List UInt8) :
    (pastComma first bs).length ≤ bs.length := by
  unfold pastComma
  split
  · exact Nat.le_refl _
  · split
    · exact Nat.le_refl _
    · rename_i b rest
      split
      · exact Nat.le_succ_of_le (length_skipSpace_le rest)
      · simp

theorem length_readString {b : UInt8} {bs rest : List UInt8} {s : String}
    (h : readString b bs = .ok (s, rest)) : rest.length ≤ bs.length := by
  unfold readString at h
  split at h
  · split at h
    · simp at h
    · rename_i hr
      rw [Except.ok.inj h] at hr
      exact Nat.le_of_lt (length_readText? hr)
  · simp at h

theorem length_readInteger {b : UInt8} {bs rest : List UInt8} {n : Int}
    (h : readInteger b bs = .ok (n, rest)) : rest.length ≤ bs.length := by
  unfold readInteger at h
  split at h
  · split at h
    · simp at h
    · rename_i hr
      split at h
      · simp only [Except.ok.injEq, Prod.mk.injEq] at h
        rw [h.2] at hr
        exact Nat.le_of_lt_succ (Numeral.length_read? hr)
      · simp at h
  · simp at h

theorem length_readValue {type : FieldType} {bs rest : List UInt8} {v : type.Value}
    (h : readValue type bs = .ok (v, rest)) : rest.length ≤ bs.length := by
  unfold readValue at h
  split at h
  · simp at h
  · rename_i hs
    have := length_of_skipSpace hs
    cases type with
    | text =>
      have := length_readString h
      omega
    | integer =>
      have := length_readInteger h
      omega

theorem length_pastColon {bs rest : List UInt8} (h : pastColon bs = .ok rest) :
    rest.length ≤ bs.length := by
  unfold pastColon at h
  split at h
  · simp at h
  · rename_i hs
    have := length_of_skipSpace hs
    split at h
    · rw [Except.ok.inj h] at this
      omega
    · simp at h

theorem length_skipMember {bs rest : List UInt8} (h : skipMember bs = .ok rest) :
    rest.length ≤ bs.length := by
  unfold skipMember at h
  split at h
  · simp at h
  · rename_i hc
    have := length_pastColon hc
    split at h
    · simp at h
    · rename_i hv
      have := length_skipFrom? hv
      rw [Except.ok.inj h] at this
      omega

theorem length_readMember {fs : List Field} {vs ws : Slots fs} {name : String}
    {bs rest : List UInt8} (h : readMember fs vs name bs = .ok (ws, rest)) :
    rest.length ≤ bs.length := by
  induction fs with
  | nil =>
    unfold readMember at h
    split at h
    · simp at h
    · rename_i hm
      simp only [Except.ok.injEq, Prod.mk.injEq] at h
      rw [← h.2]
      exact length_skipMember hm
  | cons f fs ih =>
    unfold readMember at h
    split at h
    · split at h
      · simp at h
      · split at h
        · simp at h
        · rename_i hc
          have := length_pastColon hc
          split at h
          · simp at h
          · rename_i hv
            have := length_readValue hv
            simp only [Except.ok.injEq, Prod.mk.injEq] at h
            rw [← h.2]
            omega
    · split at h
      · simp at h
      · rename_i hm
        simp only [Except.ok.injEq, Prod.mk.injEq] at h
        obtain ⟨_, rfl⟩ := h
        exact ih hm

/-- Reads the members of an object up to its closing bracket. -/
def readMembers (fs : List Field) (vs : Slots fs) (first : Bool) (bs : List UInt8) :
    Except Refusal (Values fs × List UInt8) :=
  match _hs : skipSpace bs with
  | [] => .error .malformed
  | b :: rest =>
    if b == 0x7D then
      match complete? fs vs with
      | none => .error .mismatched
      | some values => .ok (values, rest)
    else
      match _hc : pastComma first (b :: rest) with
      | [] => .error .malformed
      | q :: afterQuote =>
        if q == ascii '"' then
          match _hn : readText? afterQuote with
          | none => .error .malformed
          | some (name, afterName) =>
            match _hm : readMember fs vs name afterName with
            | .error e => .error e
            | .ok (vs, afterMember) => readMembers fs vs false afterMember
        else .error .malformed
termination_by bs.length
decreasing_by
  have l₁ := length_skipSpace_le bs
  have l₂ := length_pastComma_le first (b :: rest)
  have l₃ := length_readText? _hn
  have l₄ := length_readMember _hm
  rw [_hc] at l₂
  rw [_hs] at l₁
  simp only [List.length_cons] at *
  omega

/-- Reads the items of a list up to its closing bracket. Fields at the end may be left out if they can
fall back on a value. -/
def readItems : (fs : List Field) → Bool → List UInt8 → Except Refusal (Values fs × List UInt8)
  | [], _, bs =>
    match skipSpace bs with
    | [] => .error .malformed
    | b :: rest => if b == ascii ']' then .ok ((), rest) else .error .malformed
  | f :: fs, first, bs =>
    match skipSpace bs with
    | [] => .error .malformed
    | b :: rest =>
      if b == ascii ']' then
        match f.fallback with
        | none => .error .mismatched
        | some v =>
          match readItems fs first (b :: rest) with
          | .error e => .error e
          | .ok (vs, rest) => .ok ((v, vs), rest)
      else
        match pastComma first (b :: rest) with
        | [] => .error .malformed
        | c :: rest =>
          if c == ascii ']' then .error .malformed
          else
            match readValue f.type (c :: rest) with
            | .error e => .error e
            | .ok (v, rest) =>
              match readItems fs false rest with
              | .error e => .error e
              | .ok (vs, rest) => .ok ((v, vs), rest)

/-- Decodes the value at the front of a text: the values of the fields, and what follows. -/
def decode (fs : List Field) (bs : List UInt8) : Except Refusal (Values fs × List UInt8) :=
  match skipSpace bs with
  | [] => .error .malformed
  | b :: rest =>
    if b == 0x7B then readMembers fs (noSlots fs) true rest
    else if b == ascii '[' then readItems fs true rest
    else .error (refuse b rest)

/-- Decodes a text that holds one value and nothing else. -/
def decodeWhole? (fs : List Field) (bs : List UInt8) : Option (Values fs) :=
  match decode fs bs with
  | .error _ => none
  | .ok (values, rest) => if (skipSpace rest).isEmpty then some values else none

end LeaseDesk.Json
