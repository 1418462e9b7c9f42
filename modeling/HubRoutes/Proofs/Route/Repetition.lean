import HubRoutes.Proofs.List
import HubRoutes.Proofs.Route.Expansion

/-!
# Repetitions hide no faults

An origin is expanded declaration by declaration, and a declaration that was seen before is refused before
its route is looked up. It could as well be looked up first. What was seen has a route, and the route of a
declaration depends on the declaration alone, so a repetition never stands in front of another fault. Hence
the expansion of an origin is told from its declarations one by one: they have to be distinct, and each of
them is expanded as if the origin declared nothing else.
-/

namespace HubRoutes.Route

open Declaration (Origin Destination)

section

variable {δ ρ : Type} [DecidableEq δ] {twice : δ → Fault} {expand : δ → Except Fault ρ}

/-! ## Looking up first -/

/-- Expands declarations one after the other. A declaration is compared with those that were seen before
only after its route was found. -/
def expandThenCompare (twice : δ → Fault) (expand : δ → Except Fault ρ) :
    List δ → List δ → Except Fault (List ρ)
  | _, [] => .ok []
  | seen, declaration :: rest => do
    let route ← expand declaration
    if declaration ∈ seen then .error (twice declaration)
    else do
      let routes ← expandThenCompare twice expand (declaration :: seen) rest
      return route :: routes

/-- As long as all that was seen has a route, both ways of expanding agree at every step. -/
theorem expandDistinct_eq_expandThenCompare {seen : List δ} (declarations : List δ)
    (hseen : ∀ earlier ∈ seen, ∃ route, expand earlier = .ok route) :
    expandDistinct twice expand seen declarations = expandThenCompare twice expand seen declarations := by
  induction declarations generalizing seen with
  | nil => rfl
  | cons declaration rest ih =>
    rw [expandThenCompare, expandDistinct]
    by_cases hrepeated : declaration ∈ seen
    · obtain ⟨route, hroute⟩ := hseen declaration hrepeated
      rw [if_pos hrepeated, hroute, ok_bind, if_pos hrepeated]
    · rw [if_neg hrepeated]
      cases hroute : expand declaration with
      | error fault => rfl
      | ok route =>
        have hlater : ∀ earlier ∈ declaration :: seen, ∃ route, expand earlier = .ok route :=
          List.forall_mem_cons.2 ⟨⟨route, hroute⟩, hseen⟩
        rw [ok_bind, ok_bind, if_neg hrepeated, ih hlater]

/-! ## Where an expansion stops -/

/-- An expansion stops at a declaration that is repeated or has no route. All declarations before it are new,
distinct and have routes. -/
theorem exists_stop_of_expandDistinct {seen declarations : List δ} {fault : Fault}
    (hfails : expandDistinct twice expand seen declarations = .error fault) :
    ∃ earlier declaration later, declarations = earlier ++ declaration :: later ∧ earlier.Nodup ∧
      (∀ passed ∈ earlier, passed ∉ seen ∧ ∃ route, expand passed = .ok route) ∧
      ((declaration ∈ seen ∨ declaration ∈ earlier) ∧ fault = twice declaration ∨
        expand declaration = .error fault) := by
  induction declarations generalizing seen with
  | nil => cases hfails
  | cons declaration rest ih =>
    rw [expandDistinct] at hfails
    by_cases hrepeated : declaration ∈ seen
    · rw [if_pos hrepeated] at hfails
      have htwice := (Except.error.inj hfails).symm
      exact ⟨[], declaration, rest, rfl, .nil, List.forall_mem_nil _, .inl ⟨.inl hrepeated, htwice⟩⟩
    · rw [if_neg hrepeated] at hfails
      cases hroute : expand declaration with
      | error cause =>
        have hcause : cause = fault := by
          rw [hroute] at hfails
          exact Except.error.inj hfails
        exact ⟨[], declaration, rest, rfl, .nil, List.forall_mem_nil _, .inr (hcause ▸ hroute)⟩
      | ok route =>
        cases hrest : expandDistinct twice expand (declaration :: seen) rest with
        | ok routes => simp [hroute, hrest] at hfails
        | error cause =>
          have hcause : cause = fault := by simpa [hroute, hrest] using hfails
          subst hcause
          obtain ⟨earlier, stop, later, rfl, hdistinct, hpassed, hstop⟩ := ih hrest
          refine ⟨declaration :: earlier, stop, later, rfl, ?_, ?_, ?_⟩
          · have hnew : declaration ∉ earlier := fun hmember ↦
              (hpassed declaration hmember).1 List.mem_cons_self
            exact List.nodup_cons.2 ⟨hnew, hdistinct⟩
          · refine List.forall_mem_cons.2 ⟨⟨hrepeated, route, hroute⟩, fun passed hmember ↦ ?_⟩
            obtain ⟨hnew, hfound⟩ := hpassed passed hmember
            exact ⟨fun hseen ↦ hnew (List.mem_cons_of_mem _ hseen), hfound⟩
          · rwa [List.mem_cons, or_assoc, or_left_comm, ← List.mem_cons] at hstop

/-! ## One declaration at a time -/

theorem expandDistinct_singleton (declaration : δ) :
    expandDistinct twice expand [] [declaration] = (expand declaration).map fun route ↦ [route] := by
  cases hroute : expand declaration with
  | error fault =>
    rw [expandDistinct, hroute, if_neg List.not_mem_nil]
    rfl
  | ok route =>
    rw [expandDistinct, hroute, if_neg List.not_mem_nil]
    rfl

/-- Each declaration has a route exactly if each is expanded to one route alone, and then to that route. -/
theorem forall₂_expand_iff {declarations : List δ} {routes : List ρ} :
    List.Forall₂ (fun declaration route ↦ expand declaration = .ok route) declarations routes ↔
      ∃ parts : List (List ρ),
        declarations.map (fun declaration ↦ expandDistinct twice expand [] [declaration]) =
          parts.map .ok ∧ routes = parts.flatten := by
  simp only [expandDistinct_singleton]
  constructor
  · intro hmatch
    refine ⟨routes.map fun route ↦ [route], ?_, ?_⟩
    · rw [List.map_map]
      apply map_eq_map_of_forall₂ _ hmatch
      intro declaration route hroute
      rw [hroute]
      rfl
    · exact (List.flatMap_singleton' routes).symm
  · intro hsome
    obtain ⟨parts, hparts, hroutes⟩ := hsome
    subst hroutes
    induction declarations generalizing parts with
    | nil =>
      obtain rfl : parts = [] := by simpa using hparts.symm
      exact .nil
    | cons declaration rest ih =>
      cases parts with
      | nil => cases hparts
      | cons part later =>
        obtain ⟨hpart, hlater⟩ := List.cons.inj hparts
        cases hroute : expand declaration with
        | error fault => simp [hroute, Except.map] at hpart
        | ok route =>
          obtain rfl : [route] = part := by simpa [hroute, Except.map] using hpart
          exact .cons hroute (ih later hlater)

end

/-! ## The two kinds of routes -/

/-- The refusal of a pair that was declared before. -/
def refusedPair (origin : Origin) (pair : BridgePair) : Fault :=
  .duplicate .bridge origin.chain pair.toChain pair.input pair.output

/-- The refusal of a swap that was declared before. It names the swapped token beside the bridged one. -/
def refusedSwap (origin : Origin) (declared : SwapPair) : Fault :=
  .duplicate .swap origin.chain declared.pair.toChain
    (declared.pair.input ++ " (via " ++ declared.swapInput ++ ")") declared.pair.output

/-- The bridge routes of an origin where each pair is compared only after its route was found. -/
def bridgeRoutesCompared (context : Context) (origin : Origin) : Except Fault (List Bridge) :=
  expandThenCompare (refusedPair origin)
    (fun pair ↦ within .bridge origin.chain pair.toChain (bridgeLeg context origin pair))
    [] (declaredPairs origin)

def swapRoutesCompared (context : Context) (origin : Origin) : Except Fault (List Swap) :=
  expandThenCompare (refusedSwap origin)
    (fun declared ↦
      within .swap origin.chain declared.pair.toChain (swapLeg context origin declared))
    [] (declaredSwaps origin)

/-- For each declared token of an origin, the origin that declares nothing but this token. -/
def singleTokens (origin : Origin) : List Origin :=
  origin.inOrder Destination.tokens fun destination token ↦
    { origin with destinations := [{ destination with tokens := [token], swaps := [] }] }

/-- For each declared swap of an origin, the origin that declares nothing but this swap. -/
def singleSwaps (origin : Origin) : List Origin :=
  origin.inOrder Destination.swaps fun destination swap ↦
    { origin with destinations := [{ destination with tokens := [], swaps := [swap] }] }

/-- The origins of single tokens are expanded to the routes of the pairs one by one. -/
theorem map_bridgeRoutes_singleTokens (context : Context) (origin : Origin) :
    (singleTokens origin).map (bridgeRoutes context) = (declaredPairs origin).map fun pair ↦
      expandDistinct (refusedPair origin)
        (fun pair ↦ within .bridge origin.chain pair.toChain (bridgeLeg context origin pair))
        [] [pair] := by
  rw [singleTokens, declaredPairs, Origin.map_inOrder, Origin.map_inOrder]
  congr 1
  funext destination token
  rw [bridgeRoutes, bridgePairs_eq]
  rfl

/-- The origins of single swaps are expanded to the routes of the swaps one by one. -/
theorem map_swapRoutes_singleSwaps (context : Context) (origin : Origin) :
    (singleSwaps origin).map (swapRoutes context) = (declaredSwaps origin).map fun declared ↦
      expandDistinct (refusedSwap origin)
        (fun declared ↦
          within .swap origin.chain declared.pair.toChain (swapLeg context origin declared))
        [] [declared] := by
  rw [singleSwaps, declaredSwaps, Origin.map_inOrder, Origin.map_inOrder]
  rfl

/-- The refusal of repetitions hides nothing of an expansion: comparing late has the same result, a refused
repetition is that of a declaration which has a route, and the routes are those which the declarations have
alone, as long as all are distinct. -/
structure HidesNoFault {δ ρ : Type} (declarations : List δ) (twice : δ → Fault)
    (leg : δ → Except Fault ρ) (alone : List (Except Fault (List ρ)))
    (compared result : Except Fault (List ρ)) : Prop where
  eq_compared : result = compared
  leg_of_duplicate : ∀ kind fromChain toChain input output,
    result = .error (.duplicate kind fromChain toChain input output) →
      ∃ earlier declaration later, declarations = earlier ++ declaration :: later ∧ earlier.Nodup ∧
        declaration ∈ earlier ∧ twice declaration = .duplicate kind fromChain toChain input output ∧
        ∃ route, leg declaration = .ok route
  eq_ok_iff : ∀ routes, result = .ok routes ↔ declarations.Nodup ∧
    ∃ parts : List (List ρ), alone = parts.map .ok ∧ routes = parts.flatten

/-- A leg is expanded under the name of its route, so a fault that is not wrapped refuses a repetition. -/
theorem hidesNoFault_expandDistinct {δ ρ : Type} [DecidableEq δ] (declarations : List δ)
    (twice : δ → Fault) (leg : δ → Except Fault ρ) (kind : Kind) (fromChain : ChainId)
    (toChain : δ → ChainId) :
    let expand := fun declaration ↦ within kind fromChain (toChain declaration) (leg declaration)
    HidesNoFault declarations twice leg
      (declarations.map fun declaration ↦ expandDistinct twice expand [] [declaration])
      (expandThenCompare twice expand [] declarations)
      (expandDistinct twice expand [] declarations) := by
  intro expand
  refine ⟨expandDistinct_eq_expandThenCompare declarations (List.forall_mem_nil _), ?_, fun routes ↦ ?_⟩
  · intro kind' fromChain' toChain' input output hrefused
    obtain ⟨earlier, declaration, later, hsplit, hdistinct, hpassed, hstop⟩ :=
      exists_stop_of_expandDistinct hrefused
    rcases hstop with ⟨hseen, htwice⟩ | hfails
    · have hrepeated : declaration ∈ earlier := hseen.resolve_left List.not_mem_nil
      obtain ⟨-, route, hroute⟩ := hpassed declaration hrepeated
      exact ⟨earlier, declaration, later, hsplit, hdistinct, hrepeated, htwice.symm, route,
        (within_eq_ok_iff _ _ _ _ _).1 hroute⟩
    · cases hleg : leg declaration with
      | ok route => simp [expand, hleg, within, Except.mapError] at hfails
      | error cause => simp [expand, hleg, within, Except.mapError] at hfails
  · rw [expandDistinct_eq_ok_iff, ← forall₂_expand_iff]
    simp

/-- Refusing repetitions before anything is looked up hides no fault of an origin and changes none, for its
bridge routes as for its swap routes. -/
theorem repetitions_hide_no_fault (context : Context) (origin : Origin) :
    HidesNoFault (declaredPairs origin) (refusedPair origin) (bridgeLeg context origin)
      ((singleTokens origin).map (bridgeRoutes context))
      (bridgeRoutesCompared context origin) (bridgeRoutes context origin) ∧
    HidesNoFault (declaredSwaps origin) (refusedSwap origin) (swapLeg context origin)
      ((singleSwaps origin).map (swapRoutes context)) (swapRoutesCompared context origin)
      (swapRoutes context origin) := by
  rw [map_bridgeRoutes_singleTokens, map_swapRoutes_singleSwaps, bridgeRoutes, bridgePairs_eq, swapRoutes,
    swapPairs_eq]
  constructor
  · exact hidesNoFault_expandDistinct (declaredPairs origin) (refusedPair origin)
      (bridgeLeg context origin) .bridge origin.chain BridgePair.toChain
  · exact hidesNoFault_expandDistinct (declaredSwaps origin) (refusedSwap origin)
      (swapLeg context origin) .swap origin.chain fun declared ↦ declared.pair.toChain

end HubRoutes.Route
