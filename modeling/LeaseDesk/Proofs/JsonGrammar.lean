import LeaseDesk.Json.Decode
import LeaseDesk.Json.Value
import LeaseDesk.Proofs.Ascii

/-!
# The grammar of JSON text

What JSON text is, said without reading it: how white space, texts, numerals, values and objects are
written as bytes. There are many ways to write the same. A character in a text may stand for itself or
be escaped in any of three ways, white space may stand around everything, and values may be nested as
deep as one likes.

Where a value is only passed over, less is asked of the texts in it: the escapes have to have the right
form, but nobody looks at what they say (`Quoted`). A text that says something is `Writes`.

One of the ways to write an object is that of the service itself (`writtenObject_bytes`), and in that way
every text can be written (`spellsText_bytes`).
-/

namespace LeaseDesk.Json

/-! ## White space and texts -/

/-- There is nothing but white space. -/
def Blank (bs : List UInt8) : Prop := ∀ b ∈ bs, isSpace b

instance : DecidablePred Blank := fun bs => List.decidableBAll (fun b => isSpace b = true) bs

/-- Four hexadecimal digits, in either case, that denote a number. -/
inductive HexUnit : Nat → List UInt8 → Prop
  | digits {a b c d : UInt8} {w x y z : Nat} (first : hexValue? a = some w)
      (second : hexValue? b = some x) (third : hexValue? c = some y)
      (fourth : hexValue? d = some z) : HexUnit (((w * 16 + x) * 16 + y) * 16 + z) [a, b, c, d]

/-- A character as it may be written in a text: as it is, by a short escape, by its number, or by the
numbers of its two surrogates. -/
inductive Writes : Char → List UInt8 → Prop
  | plain {c : Char} (printing : 0x20 ≤ c.toNat) (no_quote : c ≠ '"') (no_backslash : c ≠ '\\') :
      Writes c (String.utf8EncodeChar c)
  | short {b : UInt8} {c : Char} (escape : (b, c) ∈ shortEscapes) : Writes c [ascii '\\', b]
  | numbered {c : Char} {digits : List UInt8} (number : HexUnit c.toNat digits) :
      Writes c (ascii '\\' :: ascii 'u' :: digits)
  | surrogates {c : Char} {high low : List UInt8} (beyond : 0x10000 ≤ c.toNat)
      (first : HexUnit (0xD800 + (c.toNat - 0x10000) / 0x400) high)
      (second : HexUnit (0xDC00 + (c.toNat - 0x10000) % 0x400) low) :
      Writes c (ascii '\\' :: ascii 'u' :: high ++ ascii '\\' :: ascii 'u' :: low)

/-- Characters one after the other. -/
inductive Spells : List Char → List UInt8 → Prop
  | nil : Spells [] []
  | cons {c : Char} {cs : List Char} {b bs : List UInt8} (first : Writes c b) (rest : Spells cs bs) :
      Spells (c :: cs) (b ++ bs)

/-- A text between quotation marks. -/
def SpellsText (s : String) (bs : List UInt8) : Prop :=
  ∃ inner, Spells s.toList inner ∧ bs = ascii '"' :: inner ++ [ascii '"']

/-- The bytes of a value as the service itself writes it. -/
def bytes (v : Json) : List UInt8 := Text.toBytes v.render

theorem hexUnit_control {n : Nat} (h : n < 0x20) :
    HexUnit n (['0', '0', Text.hexDigit 'a' (n / 16), Text.hexDigit 'a' (n % 16)].map ascii) := by
  have hdigit (m : Nat) (hm : m < 16) : hexValue? (ascii (Text.hexDigit 'a' m)) = some m :=
    Text.hexValue?_ascii (Text.hexValue?_hexDigit (.inl rfl) m hm)
  have hdigits := HexUnit.digits (a := ascii '0') (b := ascii '0') (w := 0) (x := 0) rfl rfl
    (hdigit (n / 16) (by omega)) (hdigit (n % 16) (by omega))
  have hn : ((0 * 16 + 0) * 16 + n / 16) * 16 + n % 16 = n := by omega
  rwa [hn] at hdigits

/-- Quotation marks, backslashes and controls are escaped, and other characters are left as they are. -/
theorem writes_escape (c : Char) : Writes c ((escape c).flatMap String.utf8EncodeChar) := by
  rw [escape]
  simp only [beq_iff_eq]
  split
  · subst c
    exact .short (by decide)
  next hquote =>
  split
  · subst c
    exact .short (by decide)
  next hbackslash =>
  split
  · subst c
    exact .short (by decide)
  split
  · subst c
    exact .short (by decide)
  split
  · subst c
    exact .short (by decide)
  split
  · subst c
    exact .short (by decide)
  split
  · subst c
    exact .short (by decide)
  split
  · next hcontrol =>
    have hdigit (n : Nat) (hn : n < 16) : Text.IsAscii (Text.hexDigit 'a' n) :=
      Text.isAscii_of_hexValue? (Text.hexValue?_hexDigit (.inl rfl) n hn)
    rw [← Text.toBytes_ofList, Text.toBytes_of_isAscii]
    · exact .numbered (hexUnit_control hcontrol)
    · simp only [List.forall_mem_cons]
      exact ⟨by decide, by decide, by decide, by decide, hdigit _ (by omega), hdigit _ (by omega),
        nofun⟩
  · next hprinting =>
    rw [List.flatMap_singleton]
    exact .plain (Nat.not_lt.mp hprinting) hquote hbackslash

theorem spells_escape (cs : List Char) :
    Spells cs ((cs.flatMap escape).flatMap String.utf8EncodeChar) := by
  induction cs with
  | nil => exact .nil
  | cons c cs ih =>
    rw [List.flatMap_cons, List.flatMap_append]
    exact .cons (writes_escape c) ih

theorem spellsText_quote (s : String) :
    SpellsText s ((quote s).flatMap String.utf8EncodeChar) := by
  refine ⟨_, spells_escape s.toList, ?_⟩
  rw [quote, List.flatMap_cons, List.flatMap_append]
  rfl

theorem bytes_eq (v : Json) : v.bytes = v.chars.flatMap String.utf8EncodeChar := by
  rw [bytes, render, Text.toBytes_ofList]

/-- What the service writes for a text spells the text, whatever is in it. -/
theorem spellsText_bytes (s : String) : SpellsText s (text s).bytes := by
  rw [bytes_eq, chars]
  exact spellsText_quote s

/-- What may stand between quotation marks where nobody looks at what it says. -/
inductive Quoted : List UInt8 → Prop
  | nil : Quoted []
  | byte {b : UInt8} {bs : List UInt8} (printing : 0x20 ≤ b) (no_quote : b ≠ ascii '"')
      (no_backslash : b ≠ ascii '\\') (rest : Quoted bs) : Quoted (b :: bs)
  | short {b : UInt8} {c : Char} {bs : List UInt8} (escape : (b, c) ∈ shortEscapes)
      (rest : Quoted bs) : Quoted (ascii '\\' :: b :: bs)
  | numbered {n : Nat} {digits bs : List UInt8} (number : HexUnit n digits) (rest : Quoted bs) :
      Quoted (ascii '\\' :: ascii 'u' :: digits ++ bs)

/-! ## Numerals -/

/-- The digits of a number, written out. -/
def digitBytes (ds : List Nat) : List UInt8 := ds.map fun d => UInt8.ofNat ('0'.toNat + d)

/-- A sign, which may be left out if it is not a minus sign. -/
inductive Sign : Bool → List UInt8 → Prop
  | none : Sign false []
  | plus : Sign false [ascii '+']
  | minus : Sign true [ascii '-']

/-- A fraction, which may be left out. -/
inductive Fraction : List Nat → List UInt8 → Prop
  | none : Fraction [] []
  | digits {ds : List Nat} (nonempty : ds ≠ []) (digits : ∀ d ∈ ds, d < 10) :
      Fraction ds (ascii '.' :: digitBytes ds)

/-- An exponent, which may be left out. -/
inductive Exponent : Option Int → List UInt8 → Prop
  | none : Exponent none []
  | digits {letter : UInt8} {negative : Bool} {sign : List UInt8} {ds : List Nat}
      (letter_e : letter = ascii 'e' ∨ letter = ascii 'E') (sign_written : Sign negative sign)
      (nonempty : ds ≠ []) (digits : ∀ d ∈ ds, d < 10) :
      Exponent (some (if negative then -(Numeral.valueOf ds : Int) else Numeral.valueOf ds))
        (letter :: sign ++ digitBytes ds)

/-- A numeral as it is written. A whole part of several digits does not begin with zero. -/
inductive Numeral.Written : Numeral → List UInt8 → Prop
  | mk {negative : Bool} {whole fraction : List Nat} {exponent : Option Int}
      {fractionBytes exponentBytes : List UInt8} (nonempty : whole ≠ [])
      (digits : ∀ d ∈ whole, d < 10) (no_zero : whole.head? = some 0 → whole = [0])
      (fraction_written : Fraction fraction fractionBytes)
      (exponent_written : Exponent exponent exponentBytes) :
      Written ⟨negative, whole, fraction, exponent⟩
        ((if negative then [ascii '-'] else []) ++ digitBytes whole ++ fractionBytes
          ++ exponentBytes)

/-! ## Values -/

/-- The words that are values. -/
def words : List (List UInt8) := ["null", "true", "false"].map fun w => w.toList.map ascii

/-- The byte that opens a bracket. -/
def Bracket.opens : Bracket → UInt8
  | list => ascii '['
  | object => 0x7B

/-- What stands in front of a value between brackets: its name and a colon in an object, nothing in a
list. -/
inductive Label : Bracket → List UInt8 → Prop
  | list : Label .list []
  | object {before name after : List UInt8} (space_before : Blank before) (quoted : Quoted name)
      (space_after : Blank after) :
      Label .object (before ++ ascii '"' :: name ++ ascii '"' :: after ++ [ascii ':'])

/-- What there is to derive: a value, or what stands between brackets. -/
inductive Phrase
  | value
  | contents (bracket : Bracket)

/-- The grammar of values. -/
inductive Derives : Phrase → List UInt8 → Prop
  | text {inner : List UInt8} (quoted : Quoted inner) :
      Derives .value (ascii '"' :: inner ++ [ascii '"'])
  | numeral {n : Numeral} {bs : List UInt8} (written : n.Written bs) : Derives .value bs
  | word {bs : List UInt8} (word : bs ∈ words) : Derives .value bs
  | empty {br : Bracket} {space : List UInt8} (blank : Blank space) :
      Derives .value (br.opens :: space ++ [br.close])
  | full {br : Bracket} {bs : List UInt8} (contents : Derives (.contents br) bs) :
      Derives .value (br.opens :: bs ++ [br.close])
  | last {br : Bracket} {label before value after : List UInt8} (labelled : Label br label)
      (space_before : Blank before) (item : Derives .value value) (space_after : Blank after) :
      Derives (.contents br) (label ++ before ++ value ++ after)
  | next {br : Bracket} {label before value after rest : List UInt8} (labelled : Label br label)
      (space_before : Blank before) (item : Derives .value value) (space_after : Blank after)
      (others : Derives (.contents br) rest) :
      Derives (.contents br) (label ++ before ++ value ++ after ++ ascii ',' :: rest)

/-- The bytes are a value. -/
abbrev IsValue (bs : List UInt8) : Prop := Derives .value bs

/-! ## Objects -/

/-- A member of an object: its name, and its value as it is written. -/
structure Member where
  /-- the name -/
  name : String
  /-- the value -/
  value : List UInt8

/-- A member as it may be written. -/
inductive Member.Written : Member → List UInt8 → Prop
  | mk {name : String} {quotedName value before beforeColon beforeValue after : List UInt8}
      (space_before : Blank before) (name_spelled : SpellsText name quotedName)
      (space_before_colon : Blank beforeColon) (space_before_value : Blank beforeValue)
      (space_after : Blank after) :
      Written ⟨name, value⟩
        (before ++ quotedName ++ beforeColon ++ ascii ':' :: beforeValue ++ value ++ after)

/-- Members as they may be written between brackets. -/
inductive WrittenMembers : List Member → List UInt8 → Prop
  | last {m : Member} {bs : List UInt8} (written : m.Written bs) : WrittenMembers [m] bs
  | next {m : Member} {ms : List Member} {bs rest : List UInt8} (written : m.Written bs)
      (others : WrittenMembers ms rest) : WrittenMembers (m :: ms) (bs ++ ascii ',' :: rest)

/-- An object as it may be written. -/
inductive WrittenObject : List Member → List UInt8 → Prop
  | empty {space : List UInt8} (blank : Blank space) :
      WrittenObject [] (Bracket.object.opens :: space ++ [Bracket.object.close])
  | full {ms : List Member} {bs : List UInt8} (members : WrittenMembers ms bs) :
      WrittenObject ms (Bracket.object.opens :: bs ++ [Bracket.object.close])

theorem written_quote (name : String) (value : List UInt8) :
    Member.Written ⟨name, value⟩
      ((quote name).flatMap String.utf8EncodeChar ++ ascii ':' :: value) := by
  have hwritten : Member.Written ⟨name, value⟩ ([] ++ (quote name).flatMap String.utf8EncodeChar ++
      [] ++ ascii ':' :: [] ++ value ++ []) := .mk nofun (spellsText_quote name) nofun nofun nofun
  rwa [List.nil_append, List.append_nil, List.append_nil, List.append_assoc, List.singleton_append]
    at hwritten

theorem writtenMembers_memberChars (m : String × Json) (members : List (String × Json)) :
    WrittenMembers ((m :: members).map fun m => ⟨m.1, m.2.bytes⟩)
      ((memberChars (m :: members)).flatMap String.utf8EncodeChar) := by
  induction members generalizing m with
  | nil =>
    rw [memberChars, List.flatMap_append, List.flatMap_cons, ← bytes_eq]
    exact .last (written_quote m.1 m.2.bytes)
  | cons next members ih =>
    rw [memberChars, List.flatMap_append, List.flatMap_cons, List.flatMap_append, List.flatMap_cons,
      ← bytes_eq]
    · have hmembers := WrittenMembers.next (written_quote m.1 m.2.bytes) (ih next)
      rwa [List.append_assoc] at hmembers
    · exact fun hnil => List.cons_ne_nil _ _ hnil

/-- What the service writes for an object is an object of what it writes for the values. -/
theorem writtenObject_bytes (members : List (String × Json)) :
    WrittenObject (members.map fun m => ⟨m.1, m.2.bytes⟩) (object members).bytes := by
  rw [bytes_eq, chars, List.flatMap_cons, List.flatMap_append]
  cases members with
  | nil => exact .empty nofun
  | cons m members => exact .full (writtenMembers_memberChars m members)

end LeaseDesk.Json
