/-!
# Characters and texts

What is asked of texts everywhere: whether a character is of some sort, what is left of a text without
the blanks around it, which parts it has, and by which bytes it is sent.

A text field counts as given when something other than blanks stands in it, and it is stored without
the blanks around it. *Blank* means the Unicode property `White_Space`: the five ASCII controls from
tabulator to carriage return, the space, and the nineteen characters beyond ASCII listed in `isBlank`.
Characters that merely look empty (zero width space, byte order mark) are ordinary characters.

What comes in over a wire is a list of bytes. `ofBytes?` reads them as UTF-8 and accepts nothing but
well-formed UTF-8; `toBytes` is the way back.
-/

namespace LeaseDesk.Text

/-! ## Sets of characters

A property of characters that no formula describes is given by a table: the ranges of code points
that have it. -/

/-- Ranges of code points, each by its first and its last. -/
abbrev CodePoints : Type := List (Nat × Nat)

/-- The character lies in one of the ranges. -/
def CodePoints.has (ranges : CodePoints) (c : Char) : Bool :=
  ranges.any fun (first, last) => first ≤ c.toNat && c.toNat ≤ last

/-! ## Blanks -/

/-- The characters with the Unicode property `White_Space`. -/
def isBlank (c : Char) : Bool :=
  let n := c.toNat
  (0x09 ≤ n && n ≤ 0x0D) || n == 0x20 || n == 0x85 || n == 0xA0 || n == 0x1680 ||
    (0x2000 ≤ n && n ≤ 0x200A) || n == 0x2028 || n == 0x2029 || n == 0x202F || n == 0x205F ||
    n == 0x3000

/-- The characters without the blanks at either end. -/
def trimChars (cs : List Char) : List Char :=
  ((cs.dropWhile isBlank).reverse.dropWhile isBlank).reverse

/-- The text without the blanks at either end. -/
def trim (s : String) : String :=
  String.ofList (trimChars s.toList)

/-- A text that is trimmed away completely says nothing. -/
def isBlankText (s : String) : Bool :=
  (trim s).isEmpty

@[simp] theorem toList_trim (s : String) : (trim s).toList = trimChars s.toList := by
  simp [trim]

/-! ## Parts -/

/-- Splits a text at every character that satisfies a condition. There is one part more than there
are such characters, and none of them is in a part. -/
def splitWhere (p : Char → Bool) : List Char → List (List Char)
  | [] => [[]]
  | c :: rest =>
    if p c then [] :: splitWhere p rest
    else
      match splitWhere p rest with
      | [] => [[c]]
      | part :: parts => (c :: part) :: parts

/-! ## Bytes -/

/-- The bytes of a text. -/
def toBytes (s : String) : List UInt8 :=
  s.toUTF8.data.toList

/-- The text that the bytes encode, if they are well-formed. -/
def ofBytes? (bytes : List UInt8) : Option String :=
  String.fromUTF8? ⟨bytes.toArray⟩

/-- **Round trip.** The bytes of a text are read back as that text. -/
@[simp] theorem ofBytes?_toBytes (s : String) : ofBytes? (toBytes s) = some s := by
  have h : (⟨(toBytes s).toArray⟩ : ByteArray) = s.toUTF8 := by
    simp [toBytes]
  have hs : (s.toUTF8).IsValidUTF8 := s.isValidUTF8
  simp only [ofBytes?, h, String.fromUTF8?, hs, dif_pos]
  rfl

end LeaseDesk.Text
