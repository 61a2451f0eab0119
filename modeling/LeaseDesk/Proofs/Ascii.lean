import LeaseDesk.Json.Bytes
import LeaseDesk.Text.Basic
import LeaseDesk.Text.Numerals

/-!
# Characters and their bytes

The bytes of a text are those of its characters, one after the other, and a character in ASCII is one
byte. A fact about the characters in ASCII is a matter of 128 cases (`forall_isAscii`). Hexadecimal
digits are among them, and it makes no difference whether they are read as characters or as bytes.
-/

namespace LeaseDesk.Text

/-- The character is in ASCII. -/
def IsAscii (c : Char) : Prop := c.toNat < 0x80

instance : DecidablePred IsAscii := fun c => inferInstanceAs (Decidable (c.toNat < 0x80))

/-- What is said of the characters of a text is checked for these alone. -/
instance (priority := high) decidableForallMem {p : Char → Prop} [DecidablePred p] (cs : List Char) :
    Decidable (∀ c ∈ cs, p c) :=
  List.decidableBAll p cs

/-- What holds of the characters below 128 holds in ASCII. -/
theorem forall_isAscii {p : Char → Prop} (h : ∀ n < 0x80, p (Char.ofNat n)) {c : Char}
    (hc : IsAscii c) : p c := by
  have hcode := h c.toNat hc
  rwa [Char.ofNat_toNat] at hcode

theorem utf8EncodeChar_of_isAscii {c : Char} (hc : IsAscii c) :
    String.utf8EncodeChar c = [Json.ascii c] := by
  have hle : c.val.toNat ≤ 0x7F := Nat.le_of_lt_succ hc
  rw [String.utf8EncodeChar, if_pos hle]
  rfl

theorem toBytes_ofList (cs : List Char) :
    toBytes (String.ofList cs) = cs.flatMap String.utf8EncodeChar := by
  show (String.ofList cs).toByteArray.data.toList = _
  rw [String.toByteArray_ofList, List.utf8Encode, List.data_toByteArray]

theorem toBytes_eq (s : String) : toBytes s = s.toList.flatMap String.utf8EncodeChar := by
  rw [← toBytes_ofList, String.ofList_toList]

theorem toBytes_of_isAscii {cs : List Char} (h : ∀ c ∈ cs, IsAscii c) :
    toBytes (String.ofList cs) = cs.map Json.ascii := by
  rw [toBytes_ofList]
  induction cs with
  | nil => rfl
  | cons c cs ih =>
    obtain ⟨hc, hcs⟩ := List.forall_mem_cons.mp h
    rw [List.flatMap_cons, utf8EncodeChar_of_isAscii hc, ih hcs]
    rfl

/-! ## Hexadecimal digits -/

theorem isAscii_of_hexValue? {c : Char} {n : Nat} (h : hexValue? c = some n) : IsAscii c := by
  simp only [hexValue?, Char.isDigit, Char.le_def, UInt32.le_iff_toNat_le, ge_iff_le,
    Bool.and_eq_true, decide_eq_true_eq] at h
  show c.val.toNat < 0x80
  split at h
  · next hc => exact Nat.lt_of_le_of_lt hc.2 (by decide)
  split at h
  · next hc => exact Nat.lt_of_le_of_lt hc.2 (by decide)
  split at h
  · next hc => exact Nat.lt_of_le_of_lt hc.2 (by decide)
  exact nomatch h

/-- A digit has its value, in letters of either case. -/
theorem hexValue?_hexDigit {ten : Char} (hten : ten = 'a' ∨ ten = 'A') :
    ∀ n < 16, hexValue? (hexDigit ten n) = some n := by
  rcases hten with rfl | rfl <;> decide

/-- As a byte, a digit has the same value. -/
theorem hexValue?_ascii {c : Char} {n : Nat} (h : hexValue? c = some n) :
    Json.hexValue? (Json.ascii c) = some n := by
  have heq : hexValue? c = Json.hexValue? (Json.ascii c) :=
    forall_isAscii (p := fun c => hexValue? c = Json.hexValue? (Json.ascii c)) (by decide)
      (isAscii_of_hexValue? h)
  rw [← heq, h]

end LeaseDesk.Text
