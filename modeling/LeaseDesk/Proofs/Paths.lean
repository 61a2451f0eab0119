import LeaseDesk.Http.Server

/-!
# Which paths belong to which route

Routing takes a path apart and compares the parts with one pattern after the other. Here it is said
the other way round: a path follows a pattern if it is the pattern written out, with something in
the place of the identifier (`Follows`). `findRoute?_eq_some_iff` says that the two come to the
same. That it does not matter which route is tried first is due to the routes themselves: of any two
patterns that are equally long, there is a place where both have a word and not the same one
(`apart_routes`).
-/

namespace LeaseDesk

/-! ## Segments -/

namespace Text

variable {p : Char → Bool} {cs part rest : List Char}

theorem splitWhere_of_forall_not (h : ∀ c ∈ part, p c = false) : splitWhere p part = [part] := by
  induction part with
  | nil => rfl
  | cons c cs ih =>
    rw [splitWhere, h c List.mem_cons_self, ih fun c hc => h c (List.mem_cons_of_mem _ hc)]
    rfl

theorem splitWhere_append {c : Char} (h : ∀ c ∈ part, p c = false) (hc : p c) :
    splitWhere p (part ++ c :: rest) = part :: splitWhere p rest := by
  induction part with
  | nil => rw [List.nil_append, splitWhere, if_pos hc]
  | cons b bs ih =>
    rw [List.cons_append, splitWhere, h b List.mem_cons_self,
      ih fun c hc => h c (List.mem_cons_of_mem _ hc)]
    rfl

end Text

namespace Http

/-- A path made of segments, each with a slash in front of it. -/
def joined (segments : List (List Char)) : List Char :=
  segments.flatMap fun segment => '/' :: segment

theorem splitWhere_joined {segment : List Char} {segments : List (List Char)}
    (h : ∀ s ∈ segment :: segments, '/' ∉ s) :
    Text.splitWhere (· == '/') (segment ++ joined segments) = segment :: segments := by
  have hsegment : ∀ c ∈ segment, (c == '/') = false := by
    intro c hc
    rw [beq_eq_false_iff_ne]
    rintro rfl
    exact h segment List.mem_cons_self hc
  induction segments generalizing segment with
  | nil => rw [joined, List.flatMap_nil, List.append_nil, Text.splitWhere_of_forall_not hsegment]
  | cons next rest ih =>
    rw [joined, List.flatMap_cons, List.cons_append, Text.splitWhere_append hsegment rfl]
    have hrest : ∀ s ∈ next :: rest, '/' ∉ s := fun s hs => h s (List.mem_cons_of_mem _ hs)
    refine congrArg _ (ih hrest fun c hc => ?_)
    rw [beq_eq_false_iff_ne]
    rintro rfl
    exact hrest next List.mem_cons_self hc

theorem joined_splitWhere (cs : List Char) :
    joined (Text.splitWhere (· == '/') cs) = '/' :: cs ∧
      (∀ s ∈ Text.splitWhere (· == '/') cs, '/' ∉ s) ∧ Text.splitWhere (· == '/') cs ≠ [] := by
  induction cs with
  | nil => decide
  | cons c cs ih =>
    obtain ⟨hjoined, hwhole, hne⟩ := ih
    rw [Text.splitWhere]
    by_cases hc : c = '/'
    · rw [if_pos (beq_iff_eq.mpr hc), hc]
      refine ⟨?_, ?_, List.cons_ne_nil _ _⟩
      · rw [joined, List.flatMap_cons, ← joined, hjoined]
        rfl
      · exact List.forall_mem_cons.mpr ⟨List.not_mem_nil, hwhole⟩
    · rw [if_neg (mt beq_iff_eq.mp hc)]
      generalize Text.splitWhere (· == '/') cs = parts at hjoined hwhole hne
      cases parts with
      | nil => exact absurd rfl hne
      | cons part parts =>
        rw [List.forall_mem_cons] at hwhole
        refine ⟨?_, List.forall_mem_cons.mpr ⟨?_, hwhole.2⟩, List.cons_ne_nil _ _⟩
        · rw [joined, List.flatMap_cons, ← joined, List.cons_append] at hjoined ⊢
          rw [List.cons_append, List.tail_eq_of_cons_eq hjoined]
        · rw [List.mem_cons, not_or]
          exact ⟨Ne.symm hc, hwhole.1⟩

/-- The segments of a path are what it is made of. -/
theorem segments?_eq_some_iff {path : List Char} {segments : List (List Char)} :
    segments? path = some segments ↔
      path = joined segments ∧ (∀ s ∈ segments, '/' ∉ s) ∧ segments ≠ [] := by
  constructor
  · intro h
    unfold segments? at h
    split at h
    · obtain rfl := Option.some.inj h
      obtain ⟨hjoined, hwhole⟩ := joined_splitWhere ‹_›
      exact ⟨hjoined.symm, hwhole⟩
    · exact nomatch h
  · rintro ⟨rfl, hwhole, hne⟩
    cases segments with
    | nil => exact absurd rfl hne
    | cons segment segments =>
      rw [joined, List.flatMap_cons, ← joined, List.cons_append, segments?,
        splitWhere_joined hwhole]

/-! ## Patterns -/

namespace Step

/-- The step is the place of an identifier. -/
def isId : Step → Bool
  | word _ => false
  | id => true

/-- The step written out, with something in the place of the identifier. -/
def text (segment : List Char) : Step → List Char
  | word w => w.toList
  | id => segment

end Step

theorem matchSteps?_of_words {steps : List Step} (h : ∀ step ∈ steps, step.isId = false)
    {segments : List (List Char)} {id : Option (List Char)} (segment : List Char) :
    matchSteps? steps segments = some id ↔
      segments = steps.map (Step.text segment) ∧ id = none := by
  induction steps generalizing segments with
  | nil =>
    cases segments with
    | nil => exact ⟨fun h => ⟨rfl, (Option.some.inj h).symm⟩, fun h => congrArg some h.2.symm⟩
    | cons _ _ => exact ⟨nofun, nofun⟩
  | cons step steps ih =>
    rw [List.forall_mem_cons] at h
    cases step with
    | id => exact nomatch h.1
    | word w =>
      cases segments with
      | nil => exact ⟨nofun, nofun⟩
      | cons s segments =>
        rw [matchSteps?, List.map_cons, List.cons.injEq, Step.text]
        by_cases hs : s = w.toList
        · rw [if_pos (beq_iff_eq.mpr hs.symm), ih h.2, and_iff_right hs]
        · rw [if_neg (mt beq_iff_eq.mp (Ne.symm hs))]
          exact ⟨nofun, fun h => absurd h.1.1 hs⟩

theorem getLast?_word_cons (w : String) (steps : List Step) :
    (Step.word w :: steps).getLast? = some .id ↔ steps.getLast? = some .id := by
  rw [List.getLast?_cons]
  cases steps.getLast? with
  | none => exact ⟨nofun, nofun⟩
  | some step => rfl

theorem getLast?_id_cons {steps : List Step} (h : ∀ step ∈ steps, step.isId = false) :
    (Step.id :: steps).getLast? = some .id ↔ steps = [] := by
  rw [List.getLast?_cons, Option.some.injEq]
  cases hlast : steps.getLast? with
  | none => exact ⟨fun _ => List.getLast?_eq_none_iff.mp hlast, fun _ => rfl⟩
  | some step =>
    constructor
    · rintro rfl
      exact nomatch h _ (List.mem_of_getLast? hlast)
    · rintro rfl
      exact nomatch hlast

/-- A pattern with at most one place for an identifier is matched by the segments that it consists
of when it is written out. -/
theorem matchSteps?_eq_some_iff {steps : List Step} (h : steps.countP Step.isId ≤ 1)
    {segments : List (List Char)} {id : Option (List Char)} :
    matchSteps? steps segments = some id ↔
      segments = steps.map (Step.text (id.getD [])) ∧ id.isSome = steps.any Step.isId ∧
        (steps.getLast? = some .id → id ≠ some []) := by
  induction steps generalizing segments with
  | nil =>
    cases segments with
    | nil => cases id <;> simp [matchSteps?]
    | cons _ _ => exact ⟨nofun, nofun⟩
  | cons step steps ih =>
    cases segments with
    | nil => cases step <;> exact ⟨nofun, nofun⟩
    | cons s segments =>
      cases step with
      | word w =>
        rw [List.countP_cons_of_neg Bool.false_ne_true] at h
        rw [matchSteps?, List.map_cons, List.cons.injEq, Step.text, getLast?_word_cons,
          List.any_cons, Step.isId, Bool.false_or]
        by_cases hs : s = w.toList
        · rw [if_pos (beq_iff_eq.mpr hs.symm), ih h, and_iff_right hs]
        · rw [if_neg (mt beq_iff_eq.mp (Ne.symm hs))]
          exact ⟨nofun, fun h => absurd h.1.1 hs⟩
      | id =>
        -- what follows are words only
        rw [List.countP_cons_of_pos rfl] at h
        have hnone : steps.countP Step.isId = 0 := by omega
        have hwords : ∀ step ∈ steps, step.isId = false := fun step hstep =>
          Bool.eq_false_iff.mpr (List.countP_eq_zero.mp hnone step hstep)
        rw [matchSteps?, List.map_cons, List.cons.injEq, Step.text, getLast?_id_cons hwords]
        constructor
        · intro hmatch
          obtain ⟨hempty, hmatch⟩ := Option.ite_none_left_eq_some.mp hmatch
          obtain ⟨_, hrest, rfl⟩ := Option.map_eq_some_iff.mp hmatch
          obtain ⟨rfl, -⟩ := (matchSteps?_of_words hwords s).mp hrest
          refine ⟨⟨rfl, rfl⟩, rfl, ?_⟩
          rintro rfl hs
          exact hempty (by rw [Option.some.inj hs]; rfl)
        · rintro ⟨⟨rfl, rfl⟩, hsome, hgiven⟩
          obtain ⟨s, rfl⟩ := Option.isSome_iff_exists.mp hsome
          have hrest := (matchSteps?_of_words hwords s).mpr ⟨rfl, rfl⟩
          rw [Option.getD_some, if_neg, hrest]
          · rfl
          · rw [Bool.and_eq_true, List.isEmpty_iff, List.isEmpty_iff, List.map_eq_nil_iff]
            exact fun hempty => hgiven hempty.1 (congrArg some hempty.2)

/-! ## Paths -/

/-- The path is the pattern written out, with this segment in the place of the identifier, if there
is one. At the end of a path there has to be something. -/
structure Follows (path : List Char) (pattern : List Step) (id : Option (List Char)) : Prop where
  written : path = joined (pattern.map (Step.text (id.getD [])))
  placed : id.isSome = pattern.any Step.isId
  whole : ∀ segment ∈ id, '/' ∉ segment
  given : pattern.getLast? = some .id → id ≠ some []

/-- The steps are a pattern that tells paths apart: there is at most one place for an identifier,
and the words have no slashes. -/
structure IsPattern (steps : List Step) : Prop where
  ne_nil : steps ≠ []
  single : steps.countP Step.isId ≤ 1
  whole : ∀ step ∈ steps, '/' ∉ step.text []

theorem IsPattern.follows_iff {pattern : List Step} (h : IsPattern pattern) {path : List Char}
    {id : Option (List Char)} : Follows path pattern id ↔
      ∃ segments, segments? path = some segments ∧ matchSteps? pattern segments = some id := by
  constructor
  · intro hpath
    refine ⟨_, segments?_eq_some_iff.mpr ⟨hpath.written, ?_, ?_⟩,
      (matchSteps?_eq_some_iff h.single).mpr ⟨rfl, hpath.placed, hpath.given⟩⟩
    · intro s hs
      obtain ⟨step, hstep, rfl⟩ := List.mem_map.mp hs
      cases step with
      | word w => exact h.whole _ hstep
      | id =>
        have hany : pattern.any Step.isId := List.any_eq_true.mpr ⟨_, hstep, rfl⟩
        obtain ⟨segment, rfl⟩ := Option.isSome_iff_exists.mp (hpath.placed.trans hany)
        exact hpath.whole segment rfl
    · exact mt List.map_eq_nil_iff.mp h.ne_nil
  · rintro ⟨segments, hsegments, hmatch⟩
    obtain ⟨rfl, hwhole, -⟩ := segments?_eq_some_iff.mp hsegments
    obtain ⟨rfl, hplaced, hgiven⟩ := (matchSteps?_eq_some_iff h.single).mp hmatch
    refine ⟨rfl, hplaced, ?_, hgiven⟩
    rintro segment rfl
    obtain ⟨step, hstep, hid⟩ := List.any_eq_true.mp hplaced.symm
    refine hwhole _ (List.mem_map.mpr ⟨step, hstep, ?_⟩)
    cases step with
    | word w => exact nomatch hid
    | id => rfl

/-! ## Routes -/

/-- Two patterns are apart: they are not equally long, or there is a place where both have a word
and not the same one. -/
def apart : List Step → List Step → Bool
  | [], [] => false
  | .word w :: steps, .word w' :: steps' => w != w' || apart steps steps'
  | _ :: steps, _ :: steps' => apart steps steps'
  | _, _ => true

theorem matchSteps?_cons_eq_some {step : Step} {steps : List Step} {segments : List (List Char)}
    {id : Option (List Char)} (h : matchSteps? (step :: steps) segments = some id) :
    ∃ s rest i, segments = s :: rest ∧ matchSteps? steps rest = some i ∧
      ∀ w, step = .word w → s = w.toList := by
  cases segments with
  | nil => cases step <;> exact nomatch h
  | cons s rest =>
    refine ⟨s, rest, ?_⟩
    cases step with
    | word w =>
      obtain ⟨hs, h⟩ := Option.ite_none_right_eq_some.mp h
      refine ⟨id, rfl, h, ?_⟩
      rintro _ ⟨⟩
      exact (beq_iff_eq.mp hs).symm
    | id =>
      obtain ⟨i, h, -⟩ := Option.map_eq_some_iff.mp (Option.ite_none_left_eq_some.mp h).2
      exact ⟨i, rfl, h, nofun⟩

/-- Nothing matches both of two patterns that are apart. -/
theorem not_apart_of_matchSteps? {steps steps' : List Step} {segments : List (List Char)}
    {id id' : Option (List Char)} (h : matchSteps? steps segments = some id)
    (h' : matchSteps? steps' segments = some id') : apart steps steps' = false := by
  induction steps generalizing steps' segments id id' with
  | nil =>
    cases segments with
    | cons _ _ => exact nomatch h
    | nil =>
      cases steps' with
      | nil => rfl
      | cons step _ => cases step <;> exact nomatch h'
  | cons step steps ih =>
    obtain ⟨s, rest, i, rfl, h, hword⟩ := matchSteps?_cons_eq_some h
    cases steps' with
    | nil => exact nomatch h'
    | cons step' steps' =>
      obtain ⟨_, _, i', heq, h', hword'⟩ := matchSteps?_cons_eq_some h'
      obtain ⟨rfl, rfl⟩ := List.cons.inj heq
      have hrest := ih h h'
      cases step with
      | id => exact hrest
      | word w =>
        cases step' with
        | id => exact hrest
        | word w' =>
          have hw : w = w' := String.toList_inj.mp ((hword w rfl).symm.trans (hword' w' rfl))
          rw [apart, hw, bne_self_eq_false, Bool.false_or, hrest]

/-- Any two routes have patterns that are apart. -/
theorem apart_routes : routes.Pairwise fun a b => apart a.pattern b.pattern := by
  decide

theorem isPattern_routes : ∀ route ∈ routes, IsPattern route.pattern := by
  have hshape : ∀ route ∈ routes, route.pattern ≠ [] ∧ route.pattern.countP Step.isId ≤ 1 ∧
      ∀ step ∈ route.pattern, '/' ∉ step.text [] := by
    decide
  exact fun route hroute =>
    have h := hshape route hroute
    ⟨h.1, h.2.1, h.2.2⟩

/-- Where at most one element has a result, it is the first result. -/
theorem findSome?_eq_some_of_pairwise {α β : Type} {f : α → Option β} {l : List α} {a : α} {b : β}
    (h : l.Pairwise fun x y => f x = none ∨ f y = none) (ha : a ∈ l) (hb : f a = some b) :
    l.findSome? f = some b := by
  induction l with
  | nil => exact absurd ha List.not_mem_nil
  | cons x l ih =>
    rw [List.pairwise_cons] at h
    rcases List.mem_cons.mp ha with rfl | hmem
    · rw [List.findSome?_cons, hb]
    · have hx : f x = none := (h.1 a hmem).resolve_right (by rw [hb]; exact Option.some_ne_none b)
      rw [List.findSome?_cons, hx]
      exact ih h.2 hmem

/-- **Routing.** The route of a path is the one whose pattern it follows. -/
theorem findRoute?_eq_some_iff {path : List Char} {route : Route} {id : Option (List Char)} :
    findRoute? path = some (route, id) ↔ route ∈ routes ∧ Follows path route.pattern id := by
  rw [findRoute?, Option.bind_eq_some_iff]
  constructor
  · rintro ⟨segments, hsegments, hfind⟩
    obtain ⟨route', hmem, hmatch⟩ := List.exists_of_findSome?_eq_some hfind
    obtain ⟨id', hid, heq⟩ := Option.map_eq_some_iff.mp hmatch
    obtain ⟨rfl, rfl⟩ := Prod.mk.inj heq
    exact ⟨hmem, (isPattern_routes _ hmem).follows_iff.mpr ⟨segments, hsegments, hid⟩⟩
  · rintro ⟨hmem, hpath⟩
    obtain ⟨segments, hsegments, hmatch⟩ := (isPattern_routes _ hmem).follows_iff.mp hpath
    refine ⟨segments, hsegments, findSome?_eq_some_of_pairwise ?_ hmem (by rw [hmatch]; rfl)⟩
    refine apart_routes.imp fun {a b} hapart => ?_
    cases ha : matchSteps? a.pattern segments with
    | none => exact .inl rfl
    | some i =>
      cases hb : matchSteps? b.pattern segments with
      | none => exact .inr rfl
      | some j => exact absurd hapart (by rw [not_apart_of_matchSteps? ha hb]; nofun)

end Http

end LeaseDesk
