import LanguageAgent.Sequences.Positions

/-! # The order of the web UI's routes

The first route that matches a request answers it, so the web UI moves its own routes
before the one that matches everything.
-/

namespace LanguageAgent.Webui

open Sequences

def managedPaths : List String := ["/login", "/webui/backend-status", "/webui/auth/config", "/webui/auth/signup"]

def catchAllPath : String := "/{full_path:path}"

section Routes

variable {Route : Type} (path : Route → Option String)

/-- A route without a path counts as one with the empty path. -/
def pathOf (route : Route) : String := (path route).getD ""

def isManaged (route : Route) : Bool := pathOf path route ∈ managedPaths

def isCatchAll (route : Route) : Bool := pathOf path route == catchAllPath

/-- What the loop knows of the routes it has seen. -/
structure SeenRoutes (Route : Type) where
  catchAllIndex : Option Nat := none
  managedRoutes : List (Nat × Route) := []

def SeenRoutes.visit (seen : SeenRoutes Route) (index : Nat) (route : Route) : SeenRoutes Route :=
  if isManaged path route then { seen with managedRoutes := seen.managedRoutes ++ [(index, route)] }
  else if isCatchAll path route ∧ seen.catchAllIndex = none then { seen with catchAllIndex := some index }
  else seen

def seenRoutes : Nat → List Route → SeenRoutes Route → SeenRoutes Route
  | _, [], seen => seen
  | index, route :: rest, seen => seenRoutes (index + 1) rest (seen.visit path index route)

/-- `sorted(managed_routes, reverse=True)`: no two indices are the same. -/
def lastFirst (managedRoutes : List (Nat × Route)) : List (Nat × Route) :=
  managedRoutes.insertionSort fun item other => other.1 ≤ item.1

def firstFirst (managedRoutes : List (Nat × Route)) : List (Nat × Route) :=
  managedRoutes.insertionSort fun item other => item.1 ≤ other.1

def popBehind (catchAllIndex : Nat) : List (Nat × Route) → List Route → Option (List Route)
  | [], routes => some routes
  | (index, _) :: rest, routes =>
      if index > catchAllIndex then do popBehind catchAllIndex rest (← popAt routes index)
      else popBehind catchAllIndex rest routes

/-- `prioritize_webui_routes`, with no list where a `pop` raises. -/
def prioritizeWebuiRoutes (routes : List Route) : Option (List Route) :=
  match seenRoutes path 0 routes {} with
  | { catchAllIndex := none, managedRoutes := _ } => some routes
  | { catchAllIndex := some catchAllIndex, managedRoutes } =>
      if managedRoutes = [] then some routes
      else do
        let left ← popBehind catchAllIndex (lastFirst managedRoutes) routes
        return insertAllAt catchAllIndex ((firstFirst managedRoutes).map Prod.snd) left

/-- What is wanted of the new order of the routes. -/
structure OnlyReorders (routes reordered : List Route) : Prop where
  permuted : reordered.Perm routes
  managedFirst : ∀ route ∈ reordered.dropWhile fun route => !isCatchAll path route, isManaged path route = false
  othersKept : reordered.filter (fun route => !isManaged path route) = routes.filter fun route => !isManaged path route
  again : prioritizeWebuiRoutes path reordered = some reordered

variable {path} {routes before behind : List Route} {stop : Route}

theorem not_managed_of_catchAll (catchAll : isCatchAll path stop = true) : isManaged path stop = false := by
  have same : pathOf path stop = catchAllPath := eq_of_beq catchAll
  rw [isManaged, same]
  decide

theorem seenRoutes_eq {start : Nat} {seen : SeenRoutes Route} :
    seenRoutes path start routes seen =
      ⟨seen.catchAllIndex.or ((places (isCatchAll path) start routes).head?.map Prod.fst),
        seen.managedRoutes ++ places (isManaged path) start routes⟩ := by
  induction routes generalizing start seen with
  | nil => simp [seenRoutes]
  | cons route rest ih =>
      rw [seenRoutes, ih, SeenRoutes.visit]
      cases catchAll : isCatchAll path route with
      | true =>
          have unmanaged := not_managed_of_catchAll catchAll
          cases known : seen.catchAllIndex <;> simp [places, catchAll, unmanaged, known]
      | false => cases managed : isManaged path route <;> simp [places, catchAll, managed]

theorem popBehind_eq {catchAllIndex : Nat} {managedRoutes : List (Nat × Route)} :
    popBehind catchAllIndex managedRoutes routes =
      ((managedRoutes.filter fun item => item.1 > catchAllIndex).map Prod.fst).foldlM popAt routes := by
  induction managedRoutes generalizing routes with
  | nil => rfl
  | cons item rest ih =>
      by_cases later : item.1 > catchAllIndex
      · simp [popBehind, later, ih]
      · simp [popBehind, later, ih]

/-- The managed routes behind the first catch-all are the ones that are popped. -/
theorem places_behind (catchAll : isCatchAll path stop = true) :
    (places (isManaged path) 0 (before ++ stop :: behind)).filter (fun item => item.1 > before.length) =
      places (isManaged path) (before.length + 1) behind := by
  have unmanaged := not_managed_of_catchAll catchAll
  have ahead : (places (isManaged path) 0 before).filter (fun item => item.1 > before.length) = [] := by
    refine List.filter_eq_nil_iff.mpr fun item member => ?_
    have ends := places_before member
    simp only [decide_eq_true_eq]
    omega
  have later : (places (isManaged path) (before.length + 1) behind).filter (fun item => item.1 > before.length) =
      places (isManaged path) (before.length + 1) behind := by
    refine List.filter_eq_self.mpr fun item member => ?_
    have starts := places_from member
    simp only [decide_eq_true_eq]
    omega
  rw [places_append, List.filter_append, ahead, places, if_neg (by simp [unmanaged]), Nat.zero_add, later, List.nil_append]

/-- What becomes of the routes around the first catch-all: every managed route is put
    before it, and only those behind it are taken from where they were. -/
def movedAhead (path : Route → Option String) (before : List Route) (stop : Route) (behind : List Route) : List Route :=
  before ++ (before ++ stop :: behind).filter (isManaged path) ++ stop :: behind.filter fun route => !isManaged path route

theorem prioritize_eq (clear : ∀ route ∈ before, isCatchAll path route = false) (catchAll : isCatchAll path stop = true)
    (managed : ∃ route ∈ before ++ stop :: behind, isManaged path route = true) :
    prioritizeWebuiRoutes path (before ++ stop :: behind) = some (movedAhead path before stop behind) := by
  have index : (places (isCatchAll path) 0 (before ++ stop :: behind)).head?.map Prod.fst = some before.length := by
    rw [places_append, places_eq_nil.mpr clear, List.nil_append, places, if_pos catchAll]
    simp
  have some : places (isManaged path) 0 (before ++ stop :: behind) ≠ [] := by
    obtain ⟨route, member, isManaged⟩ := managed
    exact fun none => Bool.false_ne_true ((places_eq_nil.mp none route member).symm.trans isManaged)
  have ordered := @places_ordered _ (isManaged path) 0 (before ++ stop :: behind)
  have popped := @popAt_places _ (isManaged path) (before ++ [stop]) behind
  rw [List.length_append, List.length_singleton, List.append_assoc, List.append_assoc] at popped
  have left : popBehind before.length (lastFirst (places (isManaged path) 0 (before ++ stop :: behind)))
      (before ++ stop :: behind) = .some (before ++ stop :: behind.filter fun route => !isManaged path route) := by
    rw [popBehind_eq, lastFirst, lastFirst_ordered ordered, List.filter_reverse, places_behind catchAll]
    exact popped
  simp only [prioritizeWebuiRoutes, seenRoutes_eq, index, Option.none_or, List.nil_append, if_neg some, left,
    firstFirst, firstFirst_ordered ordered, places_items]
  exact congrArg Option.some insertAllAt_append

/-- Without a catch-all, or without a route to move, the order is right as it is. -/
def NothingToMove (path : Route → Option String) (routes : List Route) : Prop :=
  (∀ route ∈ routes, isCatchAll path route = false) ∨ ∀ route ∈ routes, isManaged path route = false

theorem prioritize_unchanged (still : NothingToMove path routes) : prioritizeWebuiRoutes path routes = some routes := by
  simp only [prioritizeWebuiRoutes, seenRoutes_eq, Option.none_or, List.nil_append]
  rcases still with clear | unmanaged
  · rw [places_eq_nil.mpr clear]
    rfl
  · rw [places_eq_nil.mpr unmanaged]
    cases (places (isCatchAll path) 0 routes).head?.map Prod.fst <;> simp

theorem NothingToMove.managedFirst (still : NothingToMove path routes) {route : Route}
    (member : route ∈ routes.dropWhile fun route => !isCatchAll path route) : isManaged path route = false := by
  rcases still with clear | unmanaged
  · rw [List.dropWhile_eq_nil_iff.mpr (by simpa using clear)] at member
    exact absurd member List.not_mem_nil
  · exact unmanaged route ((List.dropWhile_sublist _).subset member)

/-- There is nothing to move, or there is a first catch-all and a managed route. -/
theorem moves_cases (routes : List Route) : NothingToMove path routes ∨
    ∃ before stop behind, routes = before ++ stop :: behind ∧ (∀ route ∈ before, isCatchAll path route = false) ∧
      isCatchAll path stop = true ∧ ∃ route ∈ routes, isManaged path route = true := by
  cases first : routes.find? (isCatchAll path) with
  | none => exact .inl (.inl (by simpa using first))
  | some stop =>
      obtain ⟨catchAll, before, behind, split, clear⟩ := List.find?_eq_some_iff_append.mp first
      by_cases managed : ∃ route ∈ routes, isManaged path route = true
      · exact .inr ⟨before, stop, behind, split, by simpa using clear, catchAll, managed⟩
      · exact .inl (.inr (by simpa using managed))

/-- The catch-all is still the first one. -/
theorem ahead_clear (clear : ∀ route ∈ before, isCatchAll path route = false) :
    ∀ route ∈ before ++ routes.filter (isManaged path), isCatchAll path route = false := by
  intro route member
  rcases List.mem_append.mp member with early | moved
  · exact clear route early
  · cases found : isCatchAll path route with
    | false => rfl
    | true =>
        have managed := (List.mem_filter.mp moved).2
        exact absurd managed (by simp [not_managed_of_catchAll found])

theorem movedAhead_managedFirst (clear : ∀ route ∈ before, isCatchAll path route = false)
    (catchAll : isCatchAll path stop = true) :
    ∀ route ∈ (movedAhead path before stop behind).dropWhile fun route => !isCatchAll path route,
      isManaged path route = false := by
  intro route member
  rw [movedAhead, List.dropWhile_append_of_pos fun route early => by simp [ahead_clear clear route early],
    List.dropWhile_cons_of_neg (by simp [catchAll])] at member
  rcases List.mem_cons.mp member with rfl | later
  · exact not_managed_of_catchAll catchAll
  · simpa using (List.mem_filter.mp later).2

theorem movedAhead_othersKept :
    (movedAhead path before stop behind).filter (fun route => !isManaged path route) =
      (before ++ stop :: behind).filter fun route => !isManaged path route := by
  have moved : ((before ++ stop :: behind).filter (isManaged path)).filter (fun route => !isManaged path route) = [] :=
    List.filter_eq_nil_iff.mpr fun route member => by simp [(List.mem_filter.mp member).2]
  rw [movedAhead, List.filter_append, List.filter_append, moved, List.append_nil, List.filter_append]
  simp [List.filter_cons]

/-- Every managed route that stood before the catch-all stands there twice. -/
theorem movedAhead_length (catchAll : isCatchAll path stop = true) :
    (movedAhead path before stop behind).length =
      (before ++ stop :: behind).length + (before.filter (isManaged path)).length := by
  have parts := List.length_eq_length_filter_add (l := behind) (isManaged path)
  simp only [movedAhead, List.length_append, List.filter_append, List.length_cons, List.filter_cons,
    not_managed_of_catchAll catchAll]
  simp only [Bool.false_eq_true, if_false]
  omega

/-- Nothing is lost and nothing is doubled where no managed route stood before the catch-all. -/
theorem movedAhead_permuted (catchAll : isCatchAll path stop = true) :
    (movedAhead path before stop behind).Perm (before ++ stop :: behind) ↔ ∀ route ∈ before, isManaged path route = false := by
  constructor
  · intro permuted
    have size := permuted.length_eq
    rw [movedAhead_length catchAll, Nat.add_eq_left, List.length_eq_zero_iff, List.filter_eq_nil_iff] at size
    simpa using size
  · intro unmanaged
    have none : before.filter (isManaged path) = [] := List.filter_eq_nil_iff.mpr (by simpa using unmanaged)
    have parts := List.filter_append_perm (isManaged path) behind
    rw [movedAhead, List.filter_append, none, List.nil_append, List.filter_cons_of_neg (by simp [not_managed_of_catchAll catchAll]),
      List.append_assoc]
    exact (List.perm_middle.trans (parts.cons stop)).append_left before

/-- A second run doubles every managed route. -/
theorem movedAhead_again (clear : ∀ route ∈ before, isCatchAll path route = false) (catchAll : isCatchAll path stop = true)
    (managed : ∃ route ∈ before ++ stop :: behind, isManaged path route = true) :
    prioritizeWebuiRoutes path (movedAhead path before stop behind) ≠ some (movedAhead path before stop behind) := by
  obtain ⟨route, member, passes⟩ := managed
  intro same
  have ahead : route ∈ before ++ (before ++ stop :: behind).filter (isManaged path) :=
    List.mem_append_right _ (List.mem_filter.mpr ⟨member, passes⟩)
  have rerun := @prioritize_eq _ path (before ++ (before ++ stop :: behind).filter (isManaged path))
    (behind.filter fun route => !isManaged path route) stop (ahead_clear clear) catchAll
    ⟨route, List.mem_append_left _ ahead, passes⟩
  have size := congrArg List.length (Option.some.inj (rerun.symm.trans same))
  rw [movedAhead_length catchAll, ← movedAhead, Nat.add_eq_left, List.length_eq_zero_iff] at size
  exact absurd (List.mem_filter.mpr ⟨ahead, passes⟩) (by rw [size]; exact List.not_mem_nil)

/-- No `pop` raises, the managed routes come first and the others keep their order. No
    route is lost, and one is doubled where a managed route stood before the catch-all. -/
theorem prioritize_reorders (path : Route → Option String) (routes : List Route) :
    ∃ reordered, prioritizeWebuiRoutes path routes = some reordered ∧
      (∀ route ∈ reordered.dropWhile fun route => !isCatchAll path route, isManaged path route = false) ∧
      reordered.filter (fun route => !isManaged path route) = routes.filter (fun route => !isManaged path route) ∧
      (reordered.Perm routes ↔ (∀ route ∈ routes, isCatchAll path route = false) ∨
        ∀ route ∈ routes.takeWhile fun route => !isCatchAll path route, isManaged path route = false) := by
  rcases moves_cases routes with still | ⟨before, stop, behind, rfl, clear, catchAll, managed⟩
  · refine ⟨routes, prioritize_unchanged still, ?_, rfl, ?_⟩
    · exact fun route member => still.managedFirst member
    · exact iff_of_true (List.Perm.refl routes) (still.imp_right fun unmanaged route member =>
        unmanaged route ((List.takeWhile_sublist _).subset member))
  · have stands : ¬ ∀ route ∈ before ++ stop :: behind, isCatchAll path route = false := fun none =>
      Bool.false_ne_true ((none stop (by simp)).symm.trans catchAll)
    have first : (before ++ stop :: behind).takeWhile (fun route => !isCatchAll path route) = before := by
      rw [List.takeWhile_append_of_pos fun route early => by simp [clear route early],
        List.takeWhile_cons_of_neg (by simp [catchAll]), List.append_nil]
    refine ⟨_, prioritize_eq clear catchAll managed, movedAhead_managedFirst clear catchAll, movedAhead_othersKept, ?_⟩
    rw [first, movedAhead_permuted catchAll]
    exact (or_iff_right stands).symm

/-- The routes are only reordered where they stay as they are. -/
theorem only_reorders_iff (path : Route → Option String) (routes : List Route) :
    (∃ reordered, prioritizeWebuiRoutes path routes = some reordered ∧ OnlyReorders path routes reordered) ↔
      NothingToMove path routes := by
  constructor
  · rintro ⟨reordered, run, reorders⟩
    rcases moves_cases routes with still | ⟨before, stop, behind, rfl, clear, catchAll, managed⟩
    · exact still
    · cases (prioritize_eq clear catchAll managed).symm.trans run
      exact absurd reorders.again (movedAhead_again clear catchAll managed)
  · intro still
    have unchanged := prioritize_unchanged still
    exact ⟨routes, unchanged, List.Perm.refl routes, fun route member => still.managedFirst member, rfl, unchanged⟩

end Routes

/-- Chainlit's own route on `/login`, its catch-all, and the page of the web UI. -/
def loginRoutes : List (String × String) := [("POST", "/login"), ("GET", catchAllPath), ("GET", "/login")]

/-- Chainlit's route is doubled. -/
theorem login_doubled : ¬ ∃ reordered, prioritizeWebuiRoutes (fun route => some route.2) loginRoutes = some reordered ∧
    OnlyReorders (fun route => some route.2) loginRoutes reordered := by
  rintro ⟨reordered, run, reorders⟩
  have size : (prioritizeWebuiRoutes (fun route => some route.2) loginRoutes).map List.length = some 4 := by decide
  rw [run, Option.map_some, reorders.permuted.length_eq] at size
  exact absurd size (by decide)

end LanguageAgent.Webui
