import LeaseDesk.Proofs.Interface

/-!
# How requests are decided

Looking at one thing after the other, the service decides as the interface has it. It performs an
operation if the request names it (`decide_eq_perform_iff`), and answers without one if there is a
reason to (`settled_iff`). Because a decision is only one, no request names two operations, and none
that names one is answered without.

The routes are put into a table first, `Request.Offered`, in which what all kinds of records have in
common stands once.
-/

namespace LeaseDesk.Http

open Json (Field Values)
open Storage (Listing)

/-! ## Methods and bodies -/

namespace Request

variable {r : Request}

theorem verb_eq_get_iff : r.verb = "GET" ↔ r.Reads := by
  rw [verb, Reads]
  by_cases h : r.method = "HEAD"
  · rw [if_pos h]
    exact iff_of_true rfl (.inr h)
  · rw [if_neg h]
    exact (or_iff_left h).symm

theorem verb_eq_iff {method : String} (hget : method ≠ "GET") (hhead : method ≠ "HEAD") :
    r.verb = method ↔ r.method = method := by
  rw [verb]
  by_cases h : r.method = "HEAD"
  · rw [if_pos h, h]
    exact iff_of_false hget.symm hhead.symm
  · rw [if_neg h]

theorem verb_eq_post_iff : r.verb = "POST" ↔ r.method = "POST" :=
  verb_eq_iff (by decide) (by decide)

theorem verb_eq_delete_iff : r.verb = "DELETE" ↔ r.method = "DELETE" :=
  verb_eq_iff (by decide) (by decide)

theorem readBody_eq_ok_iff {fields : List Field} {values : Values fields} :
    readBody longestBody r fields = .ok values ↔ r.Carries fields values := by
  constructor
  · intro h
    unfold readBody at h
    split at h
    · exact nomatch h
    · rename_i hjson
      split at h
      · exact nomatch h
      · rename_i hshort
        split at h
        · exact nomatch h
        · rename_i rest hdecoded
          obtain rfl := Except.ok.inj h
          exact ⟨by simpa [IsJson] using hjson, Nat.not_lt.mp hshort, rest, hdecoded⟩
  · rintro ⟨hjson, hshort, rest, hdecoded⟩
    rw [IsJson] at hjson
    rw [readBody, hjson, Bool.not_true, if_neg Bool.false_ne_true, if_neg (Nat.not_lt.mpr hshort),
      hdecoded]

theorem readBody_eq_error_iff {fields : List Field} {response : Response} :
    readBody longestBody r fields = .error response ↔ r.Miscarries fields response := by
  constructor
  · intro h
    unfold readBody at h
    split at h
    · rename_i hjson
      obtain rfl := Except.error.inj h
      exact .type (by simpa [IsJson] using hjson)
    · rename_i hjson
      have hjson : r.IsJson := by simpa [IsJson] using hjson
      split at h
      · rename_i hlong
        obtain rfl := Except.error.inj h
        exact .length hjson hlong
      · rename_i hshort
        split at h
        · rename_i refusal hdecoded
          obtain rfl := Except.error.inj h
          exact .refused hjson (Nat.not_lt.mp hshort) hdecoded
        · exact nomatch h
  · rintro (hother | ⟨hjson, hlong⟩ | ⟨hjson, hshort, hdecoded⟩)
    · rw [IsJson, Bool.not_eq_true] at hother
      rw [readBody, hother]
      rfl
    · rw [IsJson] at hjson
      rw [readBody, hjson, Bool.not_true, if_neg Bool.false_ne_true, if_pos hlong]
    · rw [IsJson] at hjson
      rw [readBody, hjson, Bool.not_true, if_neg Bool.false_ne_true,
        if_neg (Nat.not_lt.mpr hshort), hdecoded]

end Request

/-! ## What routes make of requests -/

section

variable {r : Request}

/-- The request takes an action, with this identifier. -/
def Request.Takes (r : Request) (action : Action) (id : String) : Prop :=
  ∃ route ∈ routes, r.At route.pattern id ∧ route.actions.lookup r.verb = some action

theorem action?_method (route : Route) (r : Request) :
    route.action? r.method = route.actions.lookup r.verb := by
  rw [Route.action?, Request.verb]
  simp only [beq_iff_eq]

theorem decide_plain (r : Request) : decide .plain r =
    match findRoute? r.path with
    | none => .settled (Problem.noRoute r.path).response
    | some (route, id) => route.decide longestBody r id := rfl

/-- Where a request takes an action, the action decides. -/
theorem decide_of_takes {action : Action} {id : String} (h : r.Takes action id) :
    decide .plain r = action.decide longestBody r id := by
  obtain ⟨route, hmem, ⟨segment, hpath, hid⟩, haction⟩ := h
  rw [decide_plain, findRoute?_eq_some_iff.mpr ⟨hmem, hpath⟩]
  show route.decide longestBody r segment = _
  rw [Route.decide, action?_method, haction, hid]

theorem lookup_eq_none_iff {α : Type} {verb : String} {actions : List (String × α)} :
    actions.lookup verb = none ↔ verb ∉ actions.map Prod.fst := by
  rw [List.lookup_eq_none_iff, List.mem_map]
  refine ⟨fun h ⟨action, hmem, hverb⟩ => ?_, fun h action hmem => ?_⟩
  · exact bne_iff_ne.mp (h action hmem) hverb.symm
  · exact bne_iff_ne.mpr fun hverb => h ⟨action, hmem, hverb.symm⟩

theorem mem_methods_iff {α : Type} {verb : String} {actions : List (String × α)} :
    verb ∈ actions.map Prod.fst ↔ ∃ action, actions.lookup verb = some action := by
  rw [← Option.ne_none_iff_exists', ne_eq, lookup_eq_none_iff, Decidable.not_not]

/-- Routes have an action for a method at most once, and none for asking what is permitted. -/
theorem methods_routes : ∀ route ∈ routes,
    (route.actions.map Prod.fst).Nodup ∧ "OPTIONS" ∉ route.actions.map Prod.fst := by
  decide

theorem lookup_of_mem {α : Type} {verb : String} {actions : List (String × α)} {action : α}
    (hmem : (verb, action) ∈ actions) (hnodup : (actions.map Prod.fst).Nodup) :
    actions.lookup verb = some action := by
  induction actions with
  | nil => exact nomatch hmem
  | cons first rest ih =>
    rw [List.map_cons, List.nodup_cons] at hnodup
    rw [List.lookup_cons]
    rcases List.mem_cons.mp hmem with rfl | hmem
    · rw [beq_self_eq_true]
    · have hne : verb ≠ first.1 := by
        rintro rfl
        exact hnodup.1 (List.mem_map.mpr ⟨_, hmem, rfl⟩)
      rw [beq_eq_false_iff_ne.mpr hne]
      exact ih hmem hnodup.2

/-- **Dispatching.** Whoever may use the service, at the place of a route the method picks the action,
and that is given the identifier. -/
theorem decide_of_at {policy : Policy} (hannounced : announcesTooMuch policy r = false)
    {route : Route} (hroute : route ∈ routes) {id : String} (hplace : r.At route.pattern id)
    {verb : String} {action : Action} (haction : (verb, action) ∈ route.actions)
    (hverb : r.verb = verb) : decide policy r = action.decide (bodyAllowance policy r) r id := by
  obtain ⟨segment, hpath, hid⟩ := hplace
  obtain ⟨hnodup, hoptions⟩ := methods_routes route hroute
  have hpreflight : isPreflight policy r = false := by
    rw [isPreflight, Bool.and_eq_false_iff, beq_eq_false_iff_ne]
    refine .inr fun hmethod => hoptions (List.mem_map.mpr ⟨_, haction, ?_⟩)
    rw [← hverb, Request.verb, hmethod]
    rfl
  rw [decide, hpreflight, if_neg Bool.false_ne_true, hannounced, if_neg Bool.false_ne_true,
    findRoute?_eq_some_iff.mpr ⟨hroute, hpath⟩]
  show route.decide _ r segment = _
  rw [Route.decide, action?_method, hverb, lookup_of_mem haction hnodup, hid]

/-- The same list, of another owner. -/
def ofOwner : Listing → String → Listing
  | .legalEntities, _ => .legalEntities
  | .drivers, _ => .drivers
  | .fleetsOf _, id => .fleetsOf id
  | .vehiclesOf _, id => .vehiclesOf id
  | .contractsOf _, id => .contractsOf id
  | .assignmentsOf _, id => .assignmentsOf id

/-- What is done with the form of something new in a list. -/
def addition : Listing → Action
  | .legalEntities => submitLegalEntity
  | .drivers => submitDriver
  | .fleetsOf _ => submitFleet
  | .vehiclesOf _ => submitVehicle
  | .contractsOf _ => submitContract
  | .assignmentsOf _ => submitAssignment

/-- The route of a list. -/
def routeOf (listing : Listing) : Route :=
  listRoute (listPattern listing) (ofOwner listing) (addition listing)

/-- A route where one thing can be posted. -/
def postRoute (pattern : List Step) (action : Action) : Route := ⟨pattern, [("POST", action)]⟩

/-- The routes of a single record of a kind. -/
def itemRoutesOf (kind : Kind) : List Route :=
  [⟨itemPattern kind, [("GET", .perform (.get kind)), ("DELETE", .perform (.delete kind))]⟩,
    postRoute (belowPattern kind "undelete") (.perform (.undelete kind))]

theorem routes_eq : routes =
    [⟨[.word "health"], [("GET", .health)]⟩, routeOf .legalEntities, routeOf (.fleetsOf ""),
      routeOf (.vehiclesOf ""), routeOf .drivers,
      postRoute (belowPattern .driver "validate") (.perform .validateLicense),
      routeOf (.contractsOf ""),
      postRoute (belowPattern .contract "terminate") submitTermination,
      routeOf (.assignmentsOf ""),
      postRoute (belowPattern .assignment "return") (.perform .returnVehicle)] ++
    Kind.all.flatMap itemRoutesOf := rfl

theorem routeOf_mem : (listing : Listing) → routeOf listing ∈ routes
  | .legalEntities => List.mem_of_getElem? (i := 1) rfl
  | .fleetsOf _ => List.mem_of_getElem? (i := 2) rfl
  | .vehiclesOf _ => List.mem_of_getElem? (i := 3) rfl
  | .drivers => List.mem_of_getElem? (i := 4) rfl
  | .contractsOf _ => List.mem_of_getElem? (i := 6) rfl
  | .assignmentsOf _ => List.mem_of_getElem? (i := 8) rfl

theorem itemRoutesOf_subset (kind : Kind) : itemRoutesOf kind ⊆ routes := by
  intro route hroute
  rw [routes_eq, List.mem_append, List.mem_flatMap]
  exact .inr ⟨kind, by cases kind <;> decide, hroute⟩

/-- The interface as a table: by method and path, what is done. -/
inductive Request.Offered (r : Request) (id : String) : Action → Prop
  | health (reads : r.Reads) (place : r.At [.word "health"] id) : Offered r id .health
  | list (listing : Listing) (reads : r.Reads) (place : r.At (listPattern listing) id) :
      Offered r id (.perform fun id => .list (ofOwner listing id))
  | add (listing : Listing) (method : r.method = "POST") (place : r.At (listPattern listing) id) :
      Offered r id (addition listing)
  | get (kind : Kind) (reads : r.Reads) (place : r.At (itemPattern kind) id) :
      Offered r id (.perform (.get kind))
  | delete (kind : Kind) (method : r.method = "DELETE") (place : r.At (itemPattern kind) id) :
      Offered r id (.perform (.delete kind))
  | undelete (kind : Kind) (method : r.method = "POST")
      (place : r.At (belowPattern kind "undelete") id) : Offered r id (.perform (.undelete kind))
  | validate (method : r.method = "POST") (place : r.At (belowPattern .driver "validate") id) :
      Offered r id (.perform .validateLicense)
  | terminate (method : r.method = "POST") (place : r.At (belowPattern .contract "terminate") id) :
      Offered r id submitTermination
  | giveBack (method : r.method = "POST") (place : r.At (belowPattern .assignment "return") id) :
      Offered r id (.perform .returnVehicle)

theorem lookup_single {α : Type} {verb method : String} {a b : α} :
    [(method, a)].lookup verb = some b ↔ verb = method ∧ b = a := by
  rw [List.lookup_cons, List.lookup_nil]
  by_cases h : verb = method
  · rw [beq_iff_eq.mpr h]
    exact ⟨fun hb => ⟨h, (Option.some.inj hb).symm⟩, fun hb => congrArg some hb.2.symm⟩
  · rw [beq_eq_false_iff_ne.mpr h]
    exact ⟨nofun, fun hb => absurd hb.1 h⟩

theorem lookup_pair {α : Type} {verb method method' : String} {a a' b : α}
    (h : method ≠ method') : [(method, a), (method', a')].lookup verb = some b ↔
      verb = method ∧ b = a ∨ verb = method' ∧ b = a' := by
  rw [List.lookup_cons]
  by_cases hv : verb = method
  · rw [beq_iff_eq.mpr hv, or_iff_left fun hb => h (hv.symm.trans hb.1)]
    exact ⟨fun hb => ⟨hv, (Option.some.inj hb).symm⟩, fun hb => congrArg some hb.2.symm⟩
  · rw [beq_eq_false_iff_ne.mpr hv, or_iff_right fun hb => hv hb.1]
    exact lookup_single

theorem takes_postRoute {pattern : List Step} {action made : Action} :
    (postRoute pattern made).actions.lookup r.verb = some action ↔
      r.method = "POST" ∧ action = made := by
  rw [postRoute, lookup_single, Request.verb_eq_post_iff]

theorem takes_routeOf {listing : Listing} {action : Action} :
    (routeOf listing).actions.lookup r.verb = some action ↔
      r.Reads ∧ action = .perform (fun id => .list (ofOwner listing id)) ∨
        r.method = "POST" ∧ action = addition listing := by
  rw [routeOf, listRoute, lookup_pair (by decide), Request.verb_eq_post_iff,
    Request.verb_eq_get_iff]

/-- A request takes what it is offered, and nothing else. -/
theorem takes_iff {action : Action} {id : String} : r.Takes action id ↔ r.Offered id action := by
  have hlist (listing : Listing) (hplace : r.At (listPattern listing) id)
      (haction : (routeOf listing).actions.lookup r.verb = some action) : r.Offered id action := by
    rcases takes_routeOf.mp haction with ⟨hreads, rfl⟩ | ⟨hmethod, rfl⟩
    · exact .list listing hreads hplace
    · exact .add listing hmethod hplace
  constructor
  · rintro ⟨route, hmem, hplace, haction⟩
    simp only [routes_eq, itemRoutesOf, List.mem_append, List.mem_cons, List.mem_flatMap,
      List.not_mem_nil, or_false] at hmem
    rcases hmem with (rfl | rfl | rfl | rfl | rfl | rfl | rfl | rfl | rfl | rfl) |
      ⟨kind, -, rfl | rfl⟩
    · obtain ⟨hverb, rfl⟩ := lookup_single.mp haction
      exact .health (Request.verb_eq_get_iff.mp hverb) hplace
    · exact hlist .legalEntities hplace haction
    · exact hlist (.fleetsOf "") hplace haction
    · exact hlist (.vehiclesOf "") hplace haction
    · exact hlist .drivers hplace haction
    · obtain ⟨hmethod, rfl⟩ := takes_postRoute.mp haction
      exact .validate hmethod hplace
    · exact hlist (.contractsOf "") hplace haction
    · obtain ⟨hmethod, rfl⟩ := takes_postRoute.mp haction
      exact .terminate hmethod hplace
    · exact hlist (.assignmentsOf "") hplace haction
    · obtain ⟨hmethod, rfl⟩ := takes_postRoute.mp haction
      exact .giveBack hmethod hplace
    · rcases (lookup_pair (by decide)).mp haction with ⟨hverb, rfl⟩ | ⟨hverb, rfl⟩
      · exact .get kind (Request.verb_eq_get_iff.mp hverb) hplace
      · exact .delete kind (Request.verb_eq_delete_iff.mp hverb) hplace
    · obtain ⟨hmethod, rfl⟩ := takes_postRoute.mp haction
      exact .undelete kind hmethod hplace
  · rintro (⟨hreads, hplace⟩ | ⟨listing, hreads, hplace⟩ | ⟨listing, hmethod, hplace⟩ |
      ⟨kind, hreads, hplace⟩ | ⟨kind, hmethod, hplace⟩ | ⟨kind, hmethod, hplace⟩ |
      ⟨hmethod, hplace⟩ | ⟨hmethod, hplace⟩ | ⟨hmethod, hplace⟩)
    · exact ⟨_, List.mem_of_getElem? (i := 0) rfl, hplace,
        lookup_single.mpr ⟨Request.verb_eq_get_iff.mpr hreads, rfl⟩⟩
    · exact ⟨_, routeOf_mem listing, hplace, takes_routeOf.mpr (.inl ⟨hreads, rfl⟩)⟩
    · exact ⟨_, routeOf_mem listing, hplace, takes_routeOf.mpr (.inr ⟨hmethod, rfl⟩)⟩
    · exact ⟨_, itemRoutesOf_subset kind (.head _), hplace,
        (lookup_pair (by decide)).mpr (.inl ⟨Request.verb_eq_get_iff.mpr hreads, rfl⟩)⟩
    · exact ⟨_, itemRoutesOf_subset kind (.head _), hplace,
        (lookup_pair (by decide)).mpr (.inr ⟨Request.verb_eq_delete_iff.mpr hmethod, rfl⟩)⟩
    · exact ⟨_, itemRoutesOf_subset kind (.tail _ (.head _)), hplace,
        takes_postRoute.mpr ⟨hmethod, rfl⟩⟩
    · exact ⟨_, List.mem_of_getElem? (i := 5) rfl, hplace, takes_postRoute.mpr ⟨hmethod, rfl⟩⟩
    · exact ⟨_, List.mem_of_getElem? (i := 7) rfl, hplace, takes_postRoute.mpr ⟨hmethod, rfl⟩⟩
    · exact ⟨_, List.mem_of_getElem? (i := 9) rfl, hplace, takes_postRoute.mpr ⟨hmethod, rfl⟩⟩

/-! ## How answers are finished -/

section

variable {route : Route} {segment : Option (List Char)} {response : Response}

theorem status_finish (policy : Policy) :
    (finish policy r response).status = response.status := by
  rw [finish]
  split <;> cases otherMethods? r <;> cases policy.crossOrigin <;> rfl

theorem content_finish {policy : Policy} : (finish policy r response).content =
    if wantsHeadOnly r then .nothing else response.content := by
  rw [finish]
  split
  · rfl
  · cases otherMethods? r <;> cases policy.crossOrigin <;> rfl

theorem finish_of_noRoute (h : findRoute? r.path = none) : finish .plain r response = response := by
  rw [finish, otherMethods?, wantsHeadOnly, h]
  simp only [Option.bind_none, Option.any_none, Bool.and_false]
  rfl

theorem finish_of_wrongMethod (hmem : route ∈ routes) (hpath : Follows r.path route.pattern segment)
    (hmethod : r.verb ∉ route.actions.map Prod.fst) :
    finish .plain r response = response.withHeader "allow" route.allowed := by
  have haction : route.action? r.method = none := by
    rw [action?_method, lookup_eq_none_iff.mpr hmethod]
  rw [finish, otherMethods?, wantsHeadOnly, findRoute?_eq_some_iff.mpr ⟨hmem, hpath⟩]
  simp only [Option.bind_some, haction, Option.any_some, Option.isSome_none, Bool.and_false]
  rfl

theorem finish_of_method (hmem : route ∈ routes) (hpath : Follows r.path route.pattern segment)
    (hmethod : r.verb ∈ route.actions.map Prod.fst) :
    finish .plain r response = r.cut response := by
  obtain ⟨action, haction⟩ := mem_methods_iff.mp hmethod
  rw [← action?_method] at haction
  rw [finish, otherMethods?, wantsHeadOnly, findRoute?_eq_some_iff.mpr ⟨hmem, hpath⟩]
  simp only [Option.bind_some, haction, Option.any_some, Option.isSome_some, Bool.and_true,
    beq_iff_eq]
  rfl

theorem finish_of_offered {action : Action} {id : String} (h : r.Offered id action) :
    finish .plain r response = r.cut response := by
  obtain ⟨route, hmem, ⟨segment, hpath, -⟩, haction⟩ := takes_iff.mpr h
  exact finish_of_method hmem hpath (mem_methods_iff.mpr ⟨action, haction⟩)

theorem cut_of_post (hmethod : r.method = "POST") : r.cut response = response := by
  rw [Request.cut, hmethod, if_neg (by decide)]

end

/-! ## Decisions -/

section

variable {id : String} {fields : List Field} {f : String → Values fields → Except Problem Operation}

theorem decide_of_offered {action : Action} (h : r.Offered id action) :
    decide .plain r = action.decide longestBody r id :=
  decide_of_takes (takes_iff.mpr h)

theorem decide_of_carries (h : r.Offered id (.submit fields f)) {values : Values fields}
    (hbody : r.Carries fields values) {op : Operation} (hop : f id values = .ok op) :
    decide .plain r = .perform op := by
  simp only [decide_of_offered h, Action.decide, Request.readBody_eq_ok_iff.mpr hbody, hop]

theorem decide_of_problem (h : r.Offered id (.submit fields f)) {values : Values fields}
    (hbody : r.Carries fields values) {problem : Problem} (hop : f id values = .error problem) :
    decide .plain r = .settled problem.response := by
  simp only [decide_of_offered h, Action.decide, Request.readBody_eq_ok_iff.mpr hbody, hop]

theorem decide_of_miscarries (h : r.Offered id (.submit fields f)) {response : Response}
    (hbody : r.Miscarries fields response) : decide .plain r = .settled response := by
  simp only [decide_of_offered h, Action.decide, Request.readBody_eq_error_iff.mpr hbody]

end

section

variable {id legalEntityId fleetId first last : String} {startDate endDate : Date}
  (method : r.method = "POST") (place : r.At (belowPattern .driver "contracts") id)
  (body : r.Carries contractForm (legalEntityId, fleetId, first, last, ()))

include method place body

theorem decide_of_dates (hfirst : Date.ofText? first = some startDate)
    (hlast : Date.ofText? last = some endDate) :
    decide .plain r = .perform (.createContract id legalEntityId fleetId startDate endDate) := by
  refine decide_of_carries (.add (.contractsOf "") method place) body ?_
  simp only [readDate, hfirst, hlast]
  rfl

theorem decide_of_badFirstDate (hfirst : Date.ofText? first = none) :
    decide .plain r = .settled (Problem.notADate "start_date").response := by
  refine decide_of_problem (.add (.contractsOf "") method place) body ?_
  simp only [readDate, hfirst]
  rfl

theorem decide_of_badLastDate (hfirst : Date.ofText? first = some startDate)
    (hlast : Date.ofText? last = none) :
    decide .plain r = .settled (Problem.notADate "end_date").response := by
  refine decide_of_problem (.add (.contractsOf "") method place) body ?_
  simp only [readDate, hfirst, hlast]
  rfl

end

/-- What a request names is performed. -/
theorem decide_of_names {op : Operation} (h : r.Names op) : decide .plain r = .perform op := by
  cases h with
  | get reads place => exact decide_of_offered (.get _ reads place)
  | delete method place => exact decide_of_offered (.delete _ method place)
  | undelete method place => exact decide_of_offered (.undelete _ method place)
  | @list listing reads place =>
    rw [decide_of_offered (.list listing reads place)]
    cases listing <;> rfl
  | createLegalEntity method place body =>
    exact decide_of_carries (.add .legalEntities method place) body rfl
  | createFleet method place body =>
    exact decide_of_carries (.add (.fleetsOf "") method place) body rfl
  | createVehicle method place body =>
    exact decide_of_carries (.add (.vehiclesOf "") method place) body rfl
  | createDriver method place body => exact decide_of_carries (.add .drivers method place) body rfl
  | createContract method place body first last =>
    exact decide_of_dates method place body first last
  | terminateContract method place body =>
    exact decide_of_carries (.terminate method place) body rfl
  | assignVehicle method place body =>
    exact decide_of_carries (.add (.assignmentsOf "") method place) body rfl
  | returnVehicle method place => exact decide_of_offered (.giveBack method place)
  | validateLicense method place => exact decide_of_offered (.validate method place)

/-- A form can be submitted where it is. -/
theorem exists_offered_of_form {pattern : List Step} {fields : List Field} {id : String}
    (hform : (pattern, fields) ∈ forms) (hmethod : r.method = "POST") (hplace : r.At pattern id) :
    ∃ f, r.Offered id (.submit fields f) := by
  simp only [forms, List.mem_cons, Prod.mk.injEq, List.not_mem_nil, or_false] at hform
  rcases hform with ⟨rfl, rfl⟩ | ⟨rfl, rfl⟩ | ⟨rfl, rfl⟩ | ⟨rfl, rfl⟩ | ⟨rfl, rfl⟩ | ⟨rfl, rfl⟩ |
    ⟨rfl, rfl⟩
  · exact ⟨_, .add .legalEntities hmethod hplace⟩
  · exact ⟨_, .add (.fleetsOf "") hmethod hplace⟩
  · exact ⟨_, .add (.vehiclesOf "") hmethod hplace⟩
  · exact ⟨_, .add .drivers hmethod hplace⟩
  · exact ⟨_, .add (.contractsOf "") hmethod hplace⟩
  · exact ⟨_, .terminate hmethod hplace⟩
  · exact ⟨_, .add (.assignmentsOf "") hmethod hplace⟩

/-- Where there is a reason to, a request is answered without an operation. -/
theorem decide_of_settles {response : Response} (h : r.Settles response) :
    ∃ answer, decide .plain r = .settled answer ∧ finish .plain r answer = response := by
  cases h with
  | health reads place =>
    have hoffered : r.Offered "" .health := .health reads place
    exact ⟨_, decide_of_offered hoffered, finish_of_offered hoffered⟩
  | noRoute place =>
    have hroute : findRoute? r.path = none := by
      refine Option.eq_none_iff_forall_ne_some.mpr fun ⟨route, id⟩ hfound => ?_
      obtain ⟨hmem, hpath⟩ := findRoute?_eq_some_iff.mp hfound
      exact place route hmem id hpath
    exact ⟨_, by rw [decide_plain, hroute], finish_of_noRoute hroute⟩
  | wrongMethod mem place method =>
    refine ⟨.bare 405, ?_, finish_of_wrongMethod mem place method⟩
    rw [decide_plain, findRoute?_eq_some_iff.mpr ⟨mem, place⟩]
    show Route.decide _ _ _ _ = _
    rw [Route.decide, action?_method, lookup_eq_none_iff.mpr method]
  | @badPath route id mem place method undecodable =>
    refine ⟨badPath, ?_, finish_of_method mem place method⟩
    rw [decide_plain, findRoute?_eq_some_iff.mpr ⟨mem, place⟩]
    show Route.decide _ _ _ _ = _
    obtain ⟨action, haction⟩ := mem_methods_iff.mp method
    rw [Route.decide, action?_method, haction, undecodable]
  | badBody method form place body =>
    obtain ⟨f, hoffered⟩ := exists_offered_of_form form method place
    exact ⟨_, decide_of_miscarries hoffered body,
      (finish_of_offered hoffered).trans (cut_of_post method)⟩
  | badFirstDate method place body first =>
    refine ⟨_, decide_of_badFirstDate method place body first, ?_⟩
    exact (finish_of_offered (.add (.contractsOf "") method place)).trans (cut_of_post method)
  | badLastDate method place body first last =>
    obtain ⟨startDate, hfirst⟩ := Option.ne_none_iff_exists'.mp first
    refine ⟨_, decide_of_badLastDate method place body hfirst last, ?_⟩
    exact (finish_of_offered (.add (.contractsOf "") method place)).trans (cut_of_post method)

/-- The decision is right: it performs what is named, or answers as there is reason to. -/
def Request.Deserves (r : Request) : Decision → Prop
  | .perform op => r.Names op
  | .settled answer => r.Settles (finish .plain r answer)

/-- Where there is no place for an identifier, none is meant. -/
theorem At.id_eq_empty {pattern : List Step} {id : String} (h : r.At pattern id)
    (hwords : pattern.any Step.isId = false) : id = "" := by
  obtain ⟨segment, hpath, hid⟩ := h
  have hnone : segment.isSome = false := hpath.placed.trans hwords
  rw [Option.isSome_eq_false_iff, Option.isNone_iff_eq_none] at hnone
  rw [hnone] at hid
  exact (Option.some.inj hid).symm

theorem at_ofOwner {listing : Listing} {id : String} (h : r.At (listPattern listing) id) :
    r.At (listPattern (ofOwner listing id)) (listOwner (ofOwner listing id)) := by
  cases listing with
  | legalEntities =>
    obtain rfl := At.id_eq_empty h rfl
    exact h
  | drivers =>
    obtain rfl := At.id_eq_empty h rfl
    exact h
  | _ => exact h

theorem deserves_submit {pattern : List Step} {fields : List Field} {id : String}
    {f : String → Values fields → Except Problem Operation}
    (hoffered : r.Offered id (.submit fields f)) (hform : (pattern, fields) ∈ forms)
    (hmethod : r.method = "POST") (hplace : r.At pattern id)
    (h : ∀ values, r.Carries fields values → r.Deserves (decide .plain r)) :
    r.Deserves (decide .plain r) := by
  cases hread : readBody longestBody r fields with
  | ok values => exact h values (Request.readBody_eq_ok_iff.mp hread)
  | error response =>
    have hbody := Request.readBody_eq_error_iff.mp hread
    rw [decide_of_miscarries hoffered hbody]
    show r.Settles (finish .plain r response)
    rw [finish_of_offered hoffered, cut_of_post hmethod]
    exact .badBody hmethod hform hplace hbody

/-- What is added to a list. -/
theorem deserves_addition {listing : Listing} {id : String} (hmethod : r.method = "POST")
    (hplace : r.At (listPattern listing) id) : r.Deserves (decide .plain r) := by
  have hoffered : r.Offered id (addition listing) := .add listing hmethod hplace
  cases listing with
  | legalEntities =>
    refine deserves_submit hoffered (by simp [forms, listPattern]) hmethod hplace ?_
    intro ⟨name, taxId, ⟨⟩⟩ hbody
    rw [decide_of_carries hoffered hbody rfl]
    exact .createLegalEntity hmethod (At.id_eq_empty hplace rfl ▸ hplace) hbody
  | drivers =>
    refine deserves_submit hoffered (by simp [forms, listPattern]) hmethod hplace ?_
    intro ⟨firstName, lastName, licenseNumber, ⟨⟩⟩ hbody
    rw [decide_of_carries hoffered hbody rfl]
    exact .createDriver hmethod (At.id_eq_empty hplace rfl ▸ hplace) hbody
  | fleetsOf =>
    refine deserves_submit hoffered (by simp [forms, listPattern]) hmethod hplace ?_
    intro ⟨name, ⟨⟩⟩ hbody
    rw [decide_of_carries hoffered hbody rfl]
    exact .createFleet hmethod hplace hbody
  | vehiclesOf =>
    refine deserves_submit hoffered (by simp [forms, listPattern]) hmethod hplace ?_
    intro ⟨make, model, year, licensePlate, ⟨⟩⟩ hbody
    rw [decide_of_carries hoffered hbody rfl]
    exact .createVehicle hmethod hplace hbody
  | contractsOf =>
    refine deserves_submit hoffered (by simp [forms, listPattern]) hmethod hplace ?_
    intro ⟨legalEntityId, fleetId, first, last, ⟨⟩⟩ hbody
    have hanswer (answer : Response) : finish .plain r answer = answer :=
      (finish_of_offered hoffered).trans (cut_of_post hmethod)
    cases hfirst : Date.ofText? first with
    | none =>
      rw [decide_of_badFirstDate hmethod hplace hbody hfirst]
      show r.Settles _
      rw [hanswer]
      exact .badFirstDate hmethod hplace hbody hfirst
    | some startDate =>
      cases hlast : Date.ofText? last with
      | none =>
        rw [decide_of_badLastDate hmethod hplace hbody hfirst hlast]
        show r.Settles _
        rw [hanswer]
        exact .badLastDate hmethod hplace hbody (Option.ne_none_iff_exists'.mpr ⟨_, hfirst⟩) hlast
      | some endDate =>
        rw [decide_of_dates hmethod hplace hbody hfirst hlast]
        exact .createContract hmethod hplace hbody hfirst hlast
  | assignmentsOf =>
    refine deserves_submit hoffered (by simp [forms, listPattern]) hmethod hplace ?_
    intro ⟨vehicleId, ⟨⟩⟩ hbody
    rw [decide_of_carries hoffered hbody rfl]
    exact .assignVehicle hmethod hplace hbody

theorem deserves_of_offered {action : Action} {id : String} (h : r.Offered id action) :
    r.Deserves (decide .plain r) := by
  cases h with
  | health reads place =>
    have hoffered : r.Offered id .health := .health reads place
    rw [decide_of_offered hoffered]
    show r.Settles (finish .plain r upAndRunning)
    rw [finish_of_offered hoffered]
    exact .health reads (At.id_eq_empty place rfl ▸ place)
  | list listing reads place =>
    rw [decide_of_offered (.list listing reads place)]
    exact .list reads (at_ofOwner place)
  | add listing method place => exact deserves_addition method place
  | get kind reads place =>
    rw [decide_of_offered (.get kind reads place)]
    exact .get reads place
  | delete kind method place =>
    rw [decide_of_offered (.delete kind method place)]
    exact .delete method place
  | undelete kind method place =>
    rw [decide_of_offered (.undelete kind method place)]
    exact .undelete method place
  | validate method place =>
    rw [decide_of_offered (.validate method place)]
    exact .validateLicense method place
  | terminate method place =>
    have hoffered : r.Offered id submitTermination := .terminate method place
    refine deserves_submit hoffered (by simp [forms]) method place ?_
    intro ⟨terminatedBy, ⟨⟩⟩ hbody
    rw [decide_of_carries hoffered hbody rfl]
    exact .terminateContract method place hbody
  | giveBack method place =>
    rw [decide_of_offered (.giveBack method place)]
    exact .returnVehicle method place

/-- **Every request gets what it deserves.** -/
theorem deserves_decide (r : Request) : r.Deserves (decide .plain r) := by
  cases hroute : findRoute? r.path with
  | none =>
    rw [decide_plain, hroute]
    show r.Settles (finish .plain r _)
    rw [finish_of_noRoute hroute]
    refine .noRoute fun route hmem id hpath => ?_
    rw [findRoute?_eq_some_iff.mpr ⟨hmem, hpath⟩] at hroute
    exact nomatch hroute
  | some found =>
    obtain ⟨route, segment⟩ := found
    obtain ⟨hmem, hpath⟩ := findRoute?_eq_some_iff.mp hroute
    have hdecide : decide .plain r = route.decide longestBody r segment := by
      rw [decide_plain, hroute]
    cases haction : route.actions.lookup r.verb with
    | none =>
      have hmethod := lookup_eq_none_iff.mp haction
      rw [hdecide, Route.decide, action?_method, haction]
      show r.Settles (finish .plain r (.bare 405))
      rw [finish_of_wrongMethod hmem hpath hmethod]
      exact .wrongMethod hmem hpath hmethod
    | some action =>
      cases hid : decodeId? segment with
      | none =>
        have hmethod := mem_methods_iff.mpr ⟨action, haction⟩
        rw [hdecide, Route.decide, action?_method, haction, hid]
        show r.Settles (finish .plain r badPath)
        rw [finish_of_method hmem hpath hmethod]
        exact .badPath hmem hpath hmethod hid
      | some id =>
        exact deserves_of_offered (takes_iff.mp ⟨route, hmem, ⟨segment, hpath, hid⟩, haction⟩)

/-- **Operations are performed as they are named.** -/
theorem decide_eq_perform_iff {op : Operation} : decide .plain r = .perform op ↔ r.Names op := by
  refine ⟨fun h => ?_, decide_of_names⟩
  have hdeserves := deserves_decide r
  rwa [h] at hdeserves

/-- **Where there is a reason to, requests are answered without an operation.** -/
theorem settled_iff {response : Response} :
    (∃ answer, decide .plain r = .settled answer ∧ finish .plain r answer = response) ↔
      r.Settles response := by
  refine ⟨?_, decide_of_settles⟩
  rintro ⟨answer, h, rfl⟩
  have hdeserves := deserves_decide r
  rwa [h] at hdeserves

/-- What names an operation is sent to a route and uses a method of it. -/
theorem finish_of_names {op : Operation} (h : r.Names op) {response : Response} :
    finish .plain r response = r.cut response := by
  have hdecide := decide_of_names h
  rw [decide_plain] at hdecide
  cases hroute : findRoute? r.path with
  | none =>
    rw [hroute] at hdecide
    exact nomatch hdecide
  | some found =>
    obtain ⟨route, segment⟩ := found
    obtain ⟨hmem, hpath⟩ := findRoute?_eq_some_iff.mp hroute
    refine finish_of_method hmem hpath (mem_methods_iff.mpr ?_)
    cases haction : route.actions.lookup r.verb with
    | none =>
      simp only [hroute, Route.decide, action?_method, haction] at hdecide
      exact nomatch hdecide
    | some action => exact ⟨action, rfl⟩

namespace Request

theorem Names.unique {op op' : Operation} (h : r.Names op) (h' : r.Names op') : op' = op :=
  Decision.perform.inj ((decide_of_names h').symm.trans (decide_of_names h))

theorem Names.not_settles {op : Operation} (h : r.Names op) (response : Response) :
    ¬ r.Settles response := by
  intro hsettles
  obtain ⟨answer, hdecide, -⟩ := decide_of_settles hsettles
  exact nomatch (decide_of_names h).symm.trans hdecide

/-- Who only wants to read something names nothing else. -/
theorem Names.of_reads {op : Operation} (h : r.Names op) (hreads : r.Reads) :
    (∃ kind id, op = .get kind id) ∨ ∃ listing, op = .list listing := by
  have hpost : r.method ≠ "POST" := by
    rcases hreads with h | h <;> rw [h] <;> decide
  have hdelete : r.method ≠ "DELETE" := by
    rcases hreads with h | h <;> rw [h] <;> decide
  cases h with
  | get => exact .inl ⟨_, _, rfl⟩
  | list => exact .inr ⟨_, rfl⟩
  | delete method => exact absurd method hdelete
  | _ method => exact absurd method hpost

end Request

end

end LeaseDesk.Http
