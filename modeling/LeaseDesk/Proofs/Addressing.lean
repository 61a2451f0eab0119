import LeaseDesk.Proofs.Ascii
import LeaseDesk.Proofs.Deciding
import LeaseDesk.Proofs.History
import LeaseDesk.Proofs.Success

/-!
# Every identifier has an address

An identifier can be any text, and an address cannot: where an identifier has a slash, a question mark
or a letter beyond ASCII, its bytes are percent-encoded in the path. The path is taken apart before
anything in it is decoded, so that nothing in an encoded identifier is mistaken for a part of the path
(`Percent.Writes.not_endsPath`), and what is decoded then is the identifier (`Percent.Spells.decode?_eq`). A
request to the encoded place of an identifier is therefore a request about this identifier at this
place, and no other.
-/

namespace LeaseDesk

namespace Http.Percent

open Text (IsAscii)

/-- Letters and digits of ASCII and four signs stand for themselves wherever they stand. -/
def isUnreserved (c : Char) : Bool :=
  c.isAlphanum || ['-', '.', '_', '~'].contains c

theorem isAscii_of_isUnreserved {c : Char} (h : isUnreserved c) : IsAscii c := by
  have hlast {last : UInt32} (hle : c.val ≤ last) (hlast : last.toNat < 0x80) : IsAscii c :=
    Nat.lt_of_le_of_lt (UInt32.le_iff_toNat_le.mp hle) hlast
  rcases Bool.or_eq_true_iff.mp h with hletter | hsign
  · rcases Bool.or_eq_true_iff.mp hletter with halpha | hdigit
    · rcases Bool.or_eq_true_iff.mp halpha with hupper | hlower
      · exact hlast (of_decide_eq_true hupper).2 (by decide)
      · exact hlast (of_decide_eq_true (Bool.and_eq_true_iff.mp hlower).2) (by decide)
    · exact hlast (of_decide_eq_true (Bool.and_eq_true_iff.mp hdigit).2) (by decide)
  · have hsigns : ∀ c ∈ ['-', '.', '_', '~'], IsAscii c := by decide
    exact hsigns c (List.contains_iff_mem.mp hsign)

/-- What stands in a path for bytes: a character that is not reserved for itself, and any byte as a
percent sign and two hexadecimal digits in either case. -/
inductive Writes : List Char → List UInt8 → Prop
  | nil : Writes [] []
  | plain {c : Char} {cs : List Char} {bs : List UInt8} (unreserved : isUnreserved c)
      (rest : Writes cs bs) : Writes (c :: cs) (Json.ascii c :: bs)
  | escaped {high low : Char} {h l : Nat} {cs : List Char} {bs : List UInt8}
      (high_digit : Text.hexValue? high = some h) (low_digit : Text.hexValue? low = some l)
      (rest : Writes cs bs) : Writes ('%' :: high :: low :: cs) (UInt8.ofNat (h * 16 + l) :: bs)

/-- The part of a path stands for a text. -/
def Spells (segment : List Char) (s : String) : Prop := Writes segment (Text.toBytes s)

/-- A byte as it is written in a path, escaped only if it has to be. -/
def encodeByte (b : UInt8) : List Char :=
  if isUnreserved (Char.ofNat b.toNat) then [Char.ofNat b.toNat]
  else ['%', Text.hexDigit 'A' (b.toNat / 16), Text.hexDigit 'A' (b.toNat % 16)]

/-- A text as it is written in a path. -/
def encode (s : String) : List Char :=
  (Text.toBytes s).flatMap encodeByte

theorem ascii_ofNat (b : UInt8) : Json.ascii (Char.ofNat b.toNat) = b := by
  have hall : ∀ n < 256, Json.ascii (Char.ofNat n) = UInt8.ofNat n := by decide +kernel
  rw [hall b.toNat b.toNat_lt, UInt8.ofNat_toNat]

theorem Writes.append {cs ds : List Char} {bs bs' : List UInt8} (h : Writes cs bs)
    (h' : Writes ds bs') : Writes (cs ++ ds) (bs ++ bs') := by
  induction h with
  | nil => exact h'
  | plain unreserved _ ih => exact .plain unreserved ih
  | escaped high_digit low_digit _ ih => exact .escaped high_digit low_digit ih

theorem writes_encodeByte (b : UInt8) : Writes (encodeByte b) [b] := by
  rw [encodeByte]
  split
  · next h =>
    have hplain := Writes.plain h .nil
    rwa [ascii_ofNat] at hplain
  · have h : b.toNat < 256 := b.toNat_lt
    have hescaped := Writes.escaped (Text.hexValue?_hexDigit (.inr rfl) (b.toNat / 16) (by omega))
      (Text.hexValue?_hexDigit (.inr rfl) (b.toNat % 16) (by omega)) .nil
    rwa [show b.toNat / 16 * 16 + b.toNat % 16 = b.toNat by omega, UInt8.ofNat_toNat] at hescaped

/-- Every text can be written in a path. -/
theorem spells_encode (s : String) : Spells (encode s) s := by
  rw [Spells, encode]
  induction Text.toBytes s with
  | nil => exact .nil
  | cons b bs ih => exact (writes_encodeByte b).append ih

/-! ## Decoding -/

theorem isUnreserved_of_hexValue? {c : Char} {n : Nat} (h : Text.hexValue? c = some n) :
    isUnreserved c :=
  Text.forall_isAscii (p := fun c => (Text.hexValue? c).isSome → isUnreserved c) (by decide)
    (Text.isAscii_of_hexValue? h) (by rw [h]; rfl)

theorem Writes.mem {cs : List Char} {bs : List UInt8} (h : Writes cs bs) :
    ∀ c ∈ cs, c = '%' ∨ isUnreserved c := by
  induction h with
  | nil => exact nofun
  | plain unreserved _ ih => exact List.forall_mem_cons.mpr ⟨.inr unreserved, ih⟩
  | escaped high_digit low_digit _ ih =>
    refine List.forall_mem_cons.mpr ⟨.inl rfl, List.forall_mem_cons.mpr ⟨.inr ?_, ?_⟩⟩
    · exact isUnreserved_of_hexValue? high_digit
    · exact List.forall_mem_cons.mpr ⟨.inr (isUnreserved_of_hexValue? low_digit), ih⟩

theorem Writes.isAscii {cs : List Char} {bs : List UInt8} (h : Writes cs bs) :
    ∀ c ∈ cs, IsAscii c := by
  intro c hc
  rcases h.mem c hc with rfl | hfree
  · decide
  · exact isAscii_of_isUnreserved hfree

/-- What stands for bytes has nothing in it that means something in a path. -/
theorem Writes.not_endsPath {cs : List Char} {bs : List UInt8} (h : Writes cs bs) :
    ∀ c ∈ cs, c ≠ '/' ∧ Request.endsPath c = false := by
  intro c hc
  rcases h.mem c hc with rfl | hfree
  · decide
  · exact Text.forall_isAscii
      (p := fun c => isUnreserved c → c ≠ '/' ∧ Request.endsPath c = false) (by decide)
      (isAscii_of_isUnreserved hfree) hfree

theorem decodeBytes_cons_of_ne {b : UInt8} (h : b ≠ Json.ascii '%') (bs : List UInt8) :
    decodeBytes (b :: bs) = b :: decodeBytes bs := by
  rcases bs with _ | ⟨c, _ | ⟨d, bs⟩⟩
  · rfl
  · rfl
  · rw [decodeBytes, escaped?, if_neg (by simpa using h)]

/-- Decoding undoes what was done to write bytes in a path. -/
theorem Writes.decodeBytes_eq {cs : List Char} {bs : List UInt8} (h : Writes cs bs) :
    decodeBytes (cs.map Json.ascii) = bs := by
  induction h with
  | nil => rfl
  | @plain c _ _ unreserved _ ih =>
    have hpercent : Json.ascii c ≠ Json.ascii '%' :=
      Text.forall_isAscii (p := fun c => isUnreserved c → Json.ascii c ≠ Json.ascii '%')
        (by decide) (isAscii_of_isUnreserved unreserved) unreserved
    rw [List.map_cons, decodeBytes_cons_of_ne hpercent, ih]
  | escaped high_digit low_digit _ ih =>
    rw [List.map_cons, List.map_cons, List.map_cons, decodeBytes, escaped?, if_pos (by rfl),
      Text.hexValue?_ascii high_digit, Text.hexValue?_ascii low_digit, ih]

/-- **Decoding.** What stands for a text is decoded to that text. -/
theorem Spells.decode?_eq {segment : List Char} {s : String} (h : Spells segment s) :
    decode? (String.ofList segment) = some s := by
  rw [decode?, Text.toBytes_of_isAscii h.isAscii, h.decodeBytes_eq, Text.ofBytes?_toBytes]

theorem Spells.ne_nil {segment : List Char} {s : String} (h : Spells segment s) (hs : s ≠ "") :
    segment ≠ [] := by
  rintro rfl
  have hdecode := h.decode?_eq
  exact hs (Option.some.inj hdecode).symm

end Http.Percent

namespace Http

/-! ## Addresses -/

/-- The request is sent to a place, with this segment for the identifier, and perhaps with a query. -/
def Request.SentTo (r : Request) (pattern : List Step) (segment : List Char) : Prop :=
  ∃ query : List Char, (∀ c ∈ query.head?, Request.endsPath c) ∧
    r.target.toList = joined (pattern.map (Step.text segment)) ++ query

theorem takeWhile_append_of_head? {α : Type} {p : α → Bool} {l l' : List α}
    (hl : ∀ a ∈ l, p a) (hl' : ∀ a ∈ l'.head?, p a = false) : (l ++ l').takeWhile p = l := by
  rw [List.takeWhile_append_of_pos hl]
  cases l' with
  | nil => exact List.append_nil l
  | cons a l' =>
    rw [List.takeWhile_cons_of_neg (Bool.eq_false_iff.mp (hl' a rfl)), List.append_nil]

/-- The words of the routes have nothing in them that ends a path. -/
theorem words_routes : ∀ route ∈ routes, ∀ step ∈ route.pattern,
    ∀ c ∈ step.text [], Request.endsPath c = false := by
  decide

theorem not_endsPath_joined {segments : List (List Char)}
    (h : ∀ segment ∈ segments, ∀ c ∈ segment, Request.endsPath c = false) :
    ∀ c ∈ joined segments, Request.endsPath c = false := by
  intro c hc
  obtain ⟨segment, hsegment, hc⟩ := List.mem_flatMap.mp hc
  rcases List.mem_cons.mp hc with rfl | hc
  · rfl
  · exact h segment hsegment c hc

theorem path_of_target {r : Request} {segments : List (List Char)} {query : List Char}
    (hne : segments ≠ []) (hplain : ∀ segment ∈ segments, ∀ c ∈ segment, Request.endsPath c = false)
    (hquery : ∀ c ∈ query.head?, Request.endsPath c)
    (htarget : r.target.toList = joined segments ++ query) : r.path = joined segments := by
  have hjoined := not_endsPath_joined hplain
  cases segments with
  | nil => exact absurd rfl hne
  | cons segment segments =>
    rw [joined, List.flatMap_cons, ← joined, List.cons_append] at *
    rw [Request.path, htarget, List.cons_append]
    refine congrArg _ (takeWhile_append_of_head? (fun c hc => ?_) fun c hc => ?_)
    · rw [hjoined c (List.mem_cons_of_mem _ hc), Bool.not_false]
    · rw [hquery c hc, Bool.not_true]

theorem text_step (step : Step) (segment : List Char) :
    step.text segment = step.text [] ∨ step.text segment = segment := by
  cases step with
  | word w => exact .inl rfl
  | id => exact .inr rfl

section

variable {r : Request} {route : Route} {segment : List Char} {id : String}

/-- A request to the place of an identifier is on the path of the route. -/
theorem follows_of_sentTo (hroute : route ∈ routes) (hplace : route.pattern.any Step.isId)
    (hspells : Percent.Spells segment id) (hid : id ≠ "") (h : r.SentTo route.pattern segment) :
    Follows r.path route.pattern (some segment) := by
  have hpattern := isPattern_routes route hroute
  obtain ⟨query, hquery, htarget⟩ := h
  have hwritten : r.path = joined (route.pattern.map (Step.text segment)) := by
    refine path_of_target (mt List.map_eq_nil_iff.mp hpattern.ne_nil) ?_ hquery htarget
    intro part hpart c hc
    obtain ⟨step, hstep, rfl⟩ := List.mem_map.mp hpart
    rcases text_step step segment with htext | htext
    · exact words_routes route hroute step hstep c (htext ▸ hc)
    · exact (hspells.not_endsPath c (htext ▸ hc)).2
  refine ⟨hwritten, hplace.symm, ?_, fun _ hsegment => ?_⟩
  · rintro _ ⟨⟩ hslash
    exact (hspells.not_endsPath '/' hslash).1 rfl
  · exact hspells.ne_nil hid (Option.some.inj hsegment)

end

/-! ## Reading records -/

section

variable {σ : Type} {storage : Storage.Backend σ} {d : Desk σ} {kind : Kind} {record : kind.Record}
  {contents : σ} {id : String}

theorem run_get (hid : id ≠ "")
    (hfind : storage.answer (.find kind id) d.contents = (.ok (some record), contents)) :
    (Operation.get kind id).program.run (Desk.host storage) d =
      (.ok (.record kind record), { d with contents := contents }) := by
  have hgiven : (Procedure.requireId "id" id) = .done () := by
    rw [Procedure.requireId, Program.require, if_pos]
    simpa using hid
  have hanswer : (Desk.host storage).answer (.storage (.find kind id)) d =
      (.ok (some record), { d with contents := contents }) := by
    simp only [Desk.host, Desk.answer, hfind]
  simp only [Operation.program, Procedure.get, Procedure.requireRecord, hgiven, Program.call,
    Program.bind_eq, Program.done_bind, Program.ask_bind, Program.run, hanswer, Program.pure_eq]

theorem serve_get {policy : Policy} {r : Request} (hmethod : r.method = "GET")
    (hdecide : decide policy r = .perform (.get kind id)) (hid : id ≠ "")
    (hfind : storage.answer (.find kind id) d.contents = (.ok (some record), contents)) :
    ∃ headers, serve policy (Desk.host storage) r d =
      (⟨200, headers, .json (Representation.forClients kind record)⟩,
        { d with contents := contents }) := by
  let response := respond (.get kind id) (.ok (.record kind record))
  have hhead : wantsHeadOnly r = false := by
    rw [wantsHeadOnly, hmethod]
    rfl
  refine ⟨(finish policy r response).headers, ?_⟩
  rw [serve, hdecide]
  simp only [run_get hid hfind]
  refine congrArg (·, _) ?_
  show finish policy r response = _
  have hstatus : (finish policy r response).status = 200 := status_finish policy
  have hcontent : (finish policy r response).content =
      .json (Representation.forClients kind record) := by
    rw [content_finish, hhead]
    rfl
  rw [← hstatus, ← hcontent]

end

/-- **Every identifier has an address.** Any text but the empty one can be written in a path. Sent to
the place for an identifier, in a request that does not announce too long a body, it leads to the
route of that place, and to no other, and to the action of the method there, which is given exactly
this text. So reading any record shows that record, whatever keeps the records. -/
theorem identifiers_addressable {id : String} (hid : id ≠ "") :
    Percent.Spells (Percent.encode id) id ∧
      ∀ (policy : Policy) (r : Request) (segment : List Char), Percent.Spells segment id →
        announcesTooMuch policy r = false →
        (∀ route ∈ routes, route.pattern.any Step.isId → r.SentTo route.pattern segment →
          (∀ other ∈ routes, ∀ part, Follows r.path other.pattern part ↔
            other = route ∧ part = some segment) ∧
          decodeId? (some segment) = some id ∧
          ∀ verb action, (verb, action) ∈ route.actions → r.verb = verb →
            decide policy r = action.decide (bodyAllowance policy r) r id) ∧
        ∀ kind, r.method = "GET" → r.SentTo (itemPattern kind) segment →
          (∀ (d : Desk Storage.Memory) (record : kind.Record),
            d.books.Live kind record → record.id = id →
            ∃ headers, serve policy memoryHost r d =
              (⟨200, headers, .json (Representation.forClients kind record)⟩, d)) ∧
          ∀ (σ : Type) (storage : Storage.Backend σ) (d : Desk σ) (record : kind.Record) contents,
            storage.answer (.find kind id) d.contents = (.ok (some record), contents) →
            ∃ headers, serve policy (Desk.host storage) r d =
              (⟨200, headers, .json (Representation.forClients kind record)⟩,
                { d with contents := contents }) := by
  refine ⟨Percent.spells_encode id, fun policy r segment hspells hannounced => ⟨?_, ?_⟩⟩
  · intro route hroute hplace hsent
    have hpath := follows_of_sentTo hroute hplace hspells hid hsent
    refine ⟨fun other hother part => ?_, hspells.decode?_eq, fun verb action haction hverb => ?_⟩
    · rw [← and_iff_right hother (b := Follows r.path other.pattern part),
        ← findRoute?_eq_some_iff, findRoute?_eq_some_iff.mpr ⟨hroute, hpath⟩, Option.some.injEq,
        Prod.mk.injEq, eq_comm, @eq_comm _ _ part]
    · exact decide_of_at hannounced hroute ⟨_, hpath, hspells.decode?_eq⟩ haction hverb
  · intro kind hmethod hsent
    have hroute : Route.mk (itemPattern kind)
        [("GET", .perform (.get kind)), ("DELETE", .perform (.delete kind))] ∈ routes :=
      itemRoutesOf_subset kind List.mem_cons_self
    have hpath := follows_of_sentTo hroute rfl hspells hid hsent
    have hverb : r.verb = "GET" := Request.verb_eq_get_iff.mpr (.inl hmethod)
    have hdecide : decide policy r = .perform (.get kind id) :=
      decide_of_at hannounced hroute ⟨_, hpath, hspells.decode?_eq⟩ List.mem_cons_self hverb
    refine ⟨fun d record hlive hrecord => ?_, fun σ storage d record contents hfind => ?_⟩
    · have hfind : Storage.Memory.answer (.find kind id) d.contents =
          (.ok (some record), d.contents) := by
        rw [Storage.Memory.answer, Storage.Books.find_eq_some_iff.mpr ⟨hlive, hrecord⟩]
      exact serve_get hmethod hdecide hid hfind
    · exact serve_get hmethod hdecide hid hfind

/-! ## A sample -/

/-- An identifier that looks like many other things. -/
def oddId : String := "50%/undelete? +é"

/-- A company under the odd identifier. -/
def oddCompany : Kind.legalEntity.Record := .fresh oddId ⟨"Acme", "T-1"⟩

/-- The company is put on record. -/
def oddDesk : Desk Storage.Memory :=
  history (.listed [oddId]) [.on newYear (.createLegalEntity "Acme" "T-1")]

/-- Looking the company up. -/
def lookingOddUp : Request :=
  ⟨"GET", "/legal-entities/50%25%2Fundelete%3F%20%2B%C3%A9?verbose", [], []⟩

/-- The company is found where it is looked up. -/
theorem identifiers_addressable_odd :
    oddId ≠ "" ∧ oddDesk.books.Live .legalEntity oddCompany ∧
      ∃ headers, serve .plain memoryHost lookingOddUp oddDesk =
        (⟨200, headers, .json (Representation.forClients .legalEntity oddCompany)⟩, oddDesk) := by
  have hid : oddId ≠ "" := by decide
  have hlive : oddDesk.books.Live .legalEntity oddCompany := by decide +kernel
  have hsent : lookingOddUp.SentTo (itemPattern .legalEntity) (Percent.encode oddId) := by
    have hquery : "?verbose".toList.head? = some '?' := by decide
    refine ⟨"?verbose".toList, fun c hc => ?_, by decide +kernel⟩
    obtain rfl := Option.some.inj (hquery.symm.trans hc)
    rfl
  obtain ⟨hspells, hall⟩ := identifiers_addressable hid
  obtain ⟨-, hget⟩ := hall .plain lookingOddUp _ hspells rfl
  exact ⟨hid, hlive, (hget .legalEntity rfl hsent).1 oddDesk oddCompany hlive rfl⟩

end Http

end LeaseDesk
