import LeaseDesk.Proofs.Ascii
import LeaseDesk.Proofs.Enrolment
import Mathlib.Data.List.Forall2

/-!
# Which words are understood

The register's word is compared in small letters with the words that are verdicts, and these are
written in ASCII. So what matters about the lowercase form of a text is where there is ASCII in it.
That is where there was ASCII in the text, with one exception: the Kelvin sign becomes the letter `k`
(`lowerAt_cases`). No word that is a verdict has a `k` in it but `ok`, and so there are exactly two
texts beyond ASCII that are taken for a verdict, `ok` and `Ok` written with a Kelvin sign
(`words_understood`). Both are taken for a valid license.
-/

namespace LeaseDesk

namespace Text

/-! ## Small letters in ASCII -/

/-- The sign for degrees Kelvin, which is not the letter. -/
def kelvinSign : Char := '\u212a'

/-- In the table of capital letters, ASCII and the Kelvin sign have rows of their own, and all other
small letters are characters beyond ASCII. -/
theorem capitals_rows : ∀ row ∈ capitals,
    row.last < 0x80 ∨ row = ⟨0x212A, 0x212A, 1, 0x6B⟩ ∨
      0x80 ≤ row.small ∧
        (row.small + (row.last - row.first) < 0xD800 ∨
          0xDFFF < row.small ∧ row.small + (row.last - row.first) < 0x110000) := by
  decide +kernel

theorem small_of_isAscii {c : Char} (h : IsAscii c) : small c = c.toLower :=
  forall_isAscii (p := fun c => small c = c.toLower) (by decide +kernel) h

theorem not_isAscii_small {c : Char} (h : ¬ IsAscii c) (hkelvin : c ≠ kelvinSign) :
    ¬ IsAscii (small c) := by
  rw [small]
  split
  · exact h
  · next row hfind =>
    have hhas := List.find?_some hfind
    simp only [Capitals.has, Bool.and_eq_true, decide_eq_true_eq] at hhas
    obtain ⟨⟨hfirst, hlast⟩, -⟩ := hhas
    rw [IsAscii, Nat.not_lt] at *
    rcases capitals_rows row (List.mem_of_find?_eq_some hfind) with hrow | rfl | ⟨hsmall, hvalid⟩
    · omega
    · exact absurd (Char.toNat_inj.mp (Nat.le_antisymm hlast hfirst : c.toNat = 0x212A)) hkelvin
    · have hchar : (row.small + (c.toNat - row.first)).isValidChar := by
        rw [Nat.isValidChar]
        omega
      have hcode : (row.smallOf c).toNat = row.small + (c.toNat - row.first) := by
        rw [Capitals.smallOf, Char.ofNat, dif_pos hchar]
        rfl
      omega

/-- The lowercase form of the first character is the second, and that is in ASCII. -/
def Becomes (c d : Char) : Prop :=
  IsAscii c ∧ c.toLower = d ∨ c = kelvinSign ∧ d = 'k'

/-- In the lowercase form of a text, a character either stands for one character in ASCII or brings
in one that is not in ASCII. -/
theorem lowerAt_cases (before : List Char) (c : Char) (after : List Char) :
    (∃ d, lowerAt before c after = [d] ∧ ∀ e, Becomes c e ↔ e = d) ∨
      (∃ d ∈ lowerAt before c after, ¬ IsAscii d) ∧ ∀ e, ¬ Becomes c e := by
  by_cases hascii : IsAscii c
  · have hdotted : c ≠ '\u0130' := fun h => absurd hascii (by rw [h]; decide)
    have hsigma : c ≠ '\u03a3' := fun h => absurd hascii (by rw [h]; decide)
    have hkelvin : c ≠ kelvinSign := fun h => absurd hascii (by rw [h]; decide)
    refine .inl ⟨c.toLower, ?_, fun e => ?_⟩
    · rw [lowerAt, if_neg (by simpa using hdotted), if_neg (by simpa using hsigma),
        small_of_isAscii hascii]
    · rw [Becomes, and_iff_right hascii, or_iff_left (fun h => hkelvin h.1)]
      exact eq_comm
  by_cases hkelvin : c = kelvinSign
  · refine .inl ⟨'k', ?_, fun e => ?_⟩
    · have hsmall : small kelvinSign = 'k' := by decide +kernel
      rw [hkelvin, lowerAt, if_neg (by decide), if_neg (by decide), hsmall]
    · rw [Becomes, or_iff_right (fun h => hascii h.1), and_iff_right hkelvin]
  refine .inr ⟨?_, ?_⟩
  · rw [lowerAt]
    split
    · exact ⟨'\u0307', by decide, by decide⟩
    · split
      · refine ⟨_, List.mem_singleton.mpr rfl, ?_⟩
        rw [smallSigma]
        split <;> decide
      · exact ⟨_, List.mem_singleton.mpr rfl, not_isAscii_small hascii hkelvin⟩
  · rintro e (⟨h, -⟩ | ⟨h, -⟩)
    · exact hascii h
    · exact hkelvin h

theorem lowerFrom_eq_iff {before cs w : List Char} (hw : ∀ d ∈ w, IsAscii d) :
    lowerFrom before cs = w ↔ List.Forall₂ Becomes cs w := by
  induction cs generalizing before w with
  | nil =>
    rw [lowerFrom, List.forall₂_nil_left_iff]
    exact eq_comm
  | cons c cs ih =>
    rw [lowerFrom, List.forall₂_cons_left_iff]
    rcases lowerAt_cases before c cs with ⟨d, hat, hbecomes⟩ | ⟨⟨d, hat, hd⟩, hnone⟩
    · rw [hat, List.singleton_append]
      constructor
      · rintro rfl
        have hrest : ∀ e ∈ lowerFrom (c :: before) cs, IsAscii e := fun e he =>
          hw e (List.mem_cons_of_mem _ he)
        exact ⟨d, _, (hbecomes d).mpr rfl, (ih hrest).mp rfl, rfl⟩
      · rintro ⟨e, w, he, hcs, rfl⟩
        rw [(hbecomes e).mp he, (ih fun d hd => hw d (List.mem_cons_of_mem _ hd)).mpr hcs]
    · constructor
      · rintro rfl
        exact absurd (hw d (List.mem_append_left _ hat)) hd
      · rintro ⟨e, -, he, -⟩
        exact absurd he (hnone e)

/-- **Comparing in small letters.** The lowercase form of a text is a word in ASCII if, and only if,
every character of the text becomes the character of the word in its place. -/
theorem lower_eq_iff {s w : String} (hw : ∀ d ∈ w.toList, IsAscii d) :
    lower s = w ↔ List.Forall₂ Becomes s.toList w.toList := by
  rw [lower, ← String.toList_inj, String.toList_ofList, lowerFrom_eq_iff hw]

/-! ## Letters of either case -/

/-- The texts differ at most in the case of letters in ASCII. -/
def Alike (s w : String) : Prop := s.toList.map Char.toLower = w.toList.map Char.toLower

instance (s w : String) : Decidable (Alike s w) :=
  inferInstanceAs (Decidable (s.toList.map Char.toLower = w.toList.map Char.toLower))

theorem toLower_of_not_isAscii {c : Char} (h : ¬ IsAscii c) : c.toLower = c := by
  have hnat : 0x80 ≤ c.val.toNat := Nat.not_lt.mp h
  refine dif_neg (c := 'A'.val ≤ c.val ∧ c.val ≤ 'Z'.val) ?_
  rintro ⟨-, hz⟩
  have hz' : c.val.toNat ≤ 0x5A := UInt32.le_iff_toNat_le.mp hz
  omega

theorem Alike.isAscii {s w : String} (h : Alike s w)
    (hw : ∀ d ∈ w.toList.map Char.toLower, IsAscii d) : ∀ c ∈ s.toList, IsAscii c := by
  intro c hc
  by_contra hascii
  have hmem : c.toLower ∈ w.toList.map Char.toLower := h ▸ List.mem_map_of_mem hc
  rw [toLower_of_not_isAscii hascii] at hmem
  exact hascii (hw c hmem)

theorem becomes_iff {c d : Char} (hd : IsAscii d) :
    Becomes c d ↔ c.toLower = d ∨ c = kelvinSign ∧ d = 'k' := by
  refine or_congr_left (and_iff_right_iff_imp.mpr ?_)
  rintro rfl
  by_contra hc
  rw [toLower_of_not_isAscii hc] at hd
  exact hc hd

theorem forall₂_becomes_iff {cs ds : List Char} (hds : ∀ d ∈ ds, IsAscii d ∧ d ≠ 'k') :
    List.Forall₂ Becomes cs ds ↔ cs.map Char.toLower = ds := by
  induction ds generalizing cs with
  | nil => rw [List.forall₂_nil_right_iff, List.map_eq_nil_iff]
  | cons d ds ih =>
    obtain ⟨⟨hd, hk⟩, hds⟩ := List.forall_mem_cons.mp hds
    cases cs with
    | nil => exact ⟨nofun, nofun⟩
    | cons c cs =>
      rw [List.forall₂_cons, becomes_iff hd, or_iff_left (fun h => hk h.2), ih hds, List.map_cons,
        List.cons.injEq]

/-- Where there is no `k` in a word, nothing beyond ASCII is taken for it. -/
theorem lower_eq_iff_alike {w : String} (hw : ∀ d ∈ w.toList, IsAscii d ∧ d ≠ 'k')
    (hsmall : w.toList.map Char.toLower = w.toList) {s : String} : lower s = w ↔ Alike s w := by
  rw [lower_eq_iff fun d hd => (hw d hd).1, forall₂_becomes_iff hw, Alike, hsmall]

theorem toLower_eq_o_iff {c : Char} : c.toLower = 'o' ↔ c = 'o' ∨ c = 'O' := by
  constructor
  · intro h
    by_cases hascii : IsAscii c
    · exact forall_isAscii (p := fun c => c.toLower = 'o' → c = 'o' ∨ c = 'O') (by decide) hascii h
    · exact .inl ((toLower_of_not_isAscii hascii).symm.trans h)
  · rintro (rfl | rfl) <;> rfl

/-- `ok` is the one word where the Kelvin sign may stand for its letter. -/
theorem lower_eq_ok_iff {s : String} :
    lower s = "ok" ↔ Alike s "ok" ∨ s = "o\u212a" ∨ s = "O\u212a" := by
  rw [lower_eq_iff (by decide), Alike, ← String.toList_inj, ← String.toList_inj]
  generalize s.toList = cs
  rcases cs with _ | ⟨a, _ | ⟨b, _ | ⟨c, cs⟩⟩⟩
  case cons.cons.nil =>
    have ho : Becomes a 'o' ↔ a = 'o' ∨ a = 'O' := by
      rw [becomes_iff (by decide), or_iff_left (fun h => nomatch h.2), toLower_eq_o_iff]
    have hk : Becomes b 'k' ↔ b.toLower = 'k' ∨ b = kelvinSign := by
      rw [becomes_iff (by decide), and_iff_left rfl]
    show List.Forall₂ Becomes [a, b] ['o', 'k'] ↔
      [a.toLower, b.toLower] = ['o', 'k'] ∨ [a, b] = ['o', kelvinSign] ∨
        [a, b] = ['O', kelvinSign]
    simp only [List.forall₂_cons, List.Forall₂.nil, and_true, ho, hk, List.cons.injEq,
      toLower_eq_o_iff]
    tauto
  all_goals simp

end Text

/-! ## Verdicts -/

namespace Verdict

open Text

theorem ofRegister_eq_iff {s : String} {v : Verdict} (hv : v ≠ unknown) :
    ofRegister s = v ↔ lower s = v.name ∨ v = valid ∧ lower s = "ok" := by
  rw [ofRegister, ofWord?]
  by_cases hok : lower s = "ok"
  · have hname : ∀ v : Verdict, "ok" ≠ v.name := by
      intro v
      cases v <;> decide
    rw [if_pos (beq_iff_eq.mpr hok), Option.getD_some, hok, or_iff_right (hname v),
      and_iff_left rfl]
    exact eq_comm
  · rw [if_neg (by simpa using hok), or_iff_left (fun h => hok h.2)]
    cases hname : ofName? (lower s) with
    | none =>
      refine iff_of_false (Ne.symm hv) fun h => ?_
      have hsome := hname.symm.trans (ofName?_eq_some_iff.mpr h.symm)
      exact absurd hsome.symm (Option.some_ne_none _)
    | some u =>
      rw [Option.getD_some, ← ofName?_eq_some_iff.mp hname]
      cases u <;> cases v <;> decide

/-- **The words that are understood.** In letters of either case, `ok` and `valid` mean that a license
is valid, and so do `ok` and `Ok` with a Kelvin sign, which are the only texts beyond ASCII that mean
anything. The two other verdicts have one word each, and no other text is understood. -/
theorem words_understood (s : String) :
    (ofRegister s = valid ↔
      Alike s "ok" ∨ Alike s "valid" ∨ s = "o\u212a" ∨ s = "O\u212a") ∧
    (ofRegister s = notFound ↔ Alike s "not_found") ∧
    (ofRegister s = dataMismatch ↔ Alike s "data_mismatch") ∧
    (ofRegister s = unknown ↔
      ¬ (Alike s "ok" ∨ Alike s "valid" ∨ s = "o\u212a" ∨ s = "O\u212a" ∨ Alike s "not_found" ∨
        Alike s "data_mismatch")) ∧
    ((∃ c ∈ s.toList, ¬ IsAscii c) → ofRegister s ≠ unknown → s = "o\u212a" ∨ s = "O\u212a") := by
  have hvalid : ofRegister s = valid ↔
      Alike s "ok" ∨ Alike s "valid" ∨ s = "o\u212a" ∨ s = "O\u212a" := by
    rw [ofRegister_eq_iff (by decide), and_iff_right rfl, lower_eq_ok_iff,
      show valid.name = "valid" from rfl, lower_eq_iff_alike (by decide) rfl]
    tauto
  have hnotFound : ofRegister s = notFound ↔ Alike s "not_found" := by
    rw [ofRegister_eq_iff (by decide), or_iff_left (fun h => nomatch h.1)]
    exact lower_eq_iff_alike (by decide) rfl
  have hdataMismatch : ofRegister s = dataMismatch ↔ Alike s "data_mismatch" := by
    rw [ofRegister_eq_iff (by decide), or_iff_left (fun h => nomatch h.1)]
    exact lower_eq_iff_alike (by decide) rfl
  refine ⟨hvalid, hnotFound, hdataMismatch, ?_, ?_⟩
  · rw [← not_iff_not, not_not]
    cases hs : ofRegister s <;> simp_all
  · rintro ⟨c, hc, hascii⟩ hknown
    cases hs : ofRegister s with
    | valid =>
      rcases hvalid.mp hs with h | h | h
      · exact absurd (h.isAscii (by decide) c hc) hascii
      · exact absurd (h.isAscii (by decide) c hc) hascii
      · exact h
    | notFound => exact absurd ((hnotFound.mp hs).isAscii (by decide) c hc) hascii
    | dataMismatch => exact absurd ((hdataMismatch.mp hs).isAscii (by decide) c hc) hascii
    | unknown => exact absurd hs hknown

/-- The Kelvin sign is not the letter in either case, and still the license counts as valid. -/
theorem ofRegister_kelvin :
    ofRegister "o\u212a" = valid ∧ ¬ (Alike "o\u212a" "ok" ∨ Alike "o\u212a" "valid") ∧
      ∃ c ∈ "o\u212a".toList, ¬ IsAscii c := by
  refine ⟨by decide +kernel, by decide +kernel, '\u212a', ?_, by decide⟩
  decide +kernel

end Verdict

end LeaseDesk
