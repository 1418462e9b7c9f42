import HubRoutes.Declaration.Format
import HubRoutes.Declaration.Validity
import HubRoutes.Proofs.Schema.Respelling
import Mathlib.Data.List.Permutation

/-!
# Spelled-out declarations

The one thing that declarations leave to choose is how a token with the same symbol on both chains is written:
as one symbol, or as a pair of equal symbols. Declarations are spelled out if every token is written as a pair.
Whatever else is changed in the spelling of a document, the hubs that it is read to stay the same when they are
spelled out, and the search for faults does not tell them apart.
-/

namespace HubRoutes.Declaration

open Schema (Loose)

/-! ## The two shapes of a token -/

/-- A bare symbol is written as the pair of that symbol and itself. -/
inductive SpellsOut : Loose → Loose → Prop
  | pair (symbol : String) :
    SpellsOut (.text symbol)
      (.map [(.text "inputTokenSymbol", .text symbol), (.text "outputTokenSymbol", .text symbol)])

theorem pairOfEntries?_both_eq_some_iff {input output : String} {entries : List (Loose × Loose)}
    {token : Token} :
    pairOfEntries? (some input) (some output) entries = some token ↔
      entries = [] ∧ .pair input output = token := by
  cases entries with
  | nil => simp [pairOfEntries?]
  | cons entry rest =>
    obtain ⟨key, value⟩ := entry
    cases value <;> simp [pairOfEntries?]

theorem pairOfEntries?_input_eq_some_iff {input : String} {entries : List (Loose × Loose)} {token : Token} :
    pairOfEntries? (some input) none entries = some token ↔
      ∃ key output, pairField? key = some false ∧ entries = [(key, .text output)] ∧
        .pair input output = token := by
  cases entries with
  | nil => simp [pairOfEntries?]
  | cons entry rest =>
    obtain ⟨key, value⟩ := entry
    cases value with
    | text output =>
      cases hfield : pairField? key with
      | none => simp [pairOfEntries?, hfield]
      | some isInput => cases isInput <;> simp [pairOfEntries?, hfield, pairOfEntries?_both_eq_some_iff]
    | _ => simp [pairOfEntries?]

theorem pairOfEntries?_output_eq_some_iff {output : String} {entries : List (Loose × Loose)}
    {token : Token} :
    pairOfEntries? none (some output) entries = some token ↔
      ∃ key input, pairField? key = some true ∧ entries = [(key, .text input)] ∧
        .pair input output = token := by
  cases entries with
  | nil => simp [pairOfEntries?]
  | cons entry rest =>
    obtain ⟨key, value⟩ := entry
    cases value with
    | text input =>
      cases hfield : pairField? key with
      | none => simp [pairOfEntries?, hfield]
      | some isInput => cases isInput <;> simp [pairOfEntries?, hfield, pairOfEntries?_both_eq_some_iff]
    | _ => simp [pairOfEntries?]

/-- A map is a pair of symbols if it has the two fields in some order and nothing else. -/
theorem pairOfEntries?_eq_some_iff {entries : List (Loose × Loose)} {token : Token} :
    pairOfEntries? none none entries = some token ↔
      ∃ inputKey outputKey input output, pairField? inputKey = some true ∧
        pairField? outputKey = some false ∧
        entries.Perm [(inputKey, .text input), (outputKey, .text output)] ∧
        .pair input output = token := by
  simp only [List.perm_pair]
  constructor
  · intro hsome
    match entries with
    | [] => simp [pairOfEntries?] at hsome
    | (key, .text symbol) :: rest =>
      cases hfield : pairField? key with
      | none => simp [pairOfEntries?, hfield] at hsome
      | some isInput =>
        cases isInput with
        | true =>
          simp only [pairOfEntries?, hfield, pairOfEntries?_input_eq_some_iff] at hsome
          obtain ⟨key', output, hfield', rfl, rfl⟩ := hsome
          exact ⟨key, key', symbol, output, hfield, hfield', .inl rfl, rfl⟩
        | false =>
          simp only [pairOfEntries?, hfield, pairOfEntries?_output_eq_some_iff] at hsome
          obtain ⟨key', input, hfield', rfl, rfl⟩ := hsome
          exact ⟨key', key, input, symbol, hfield', hfield, .inr rfl, rfl⟩
    | (_, .natural _) :: _ | (_, .list _) :: _ | (_, .map _) :: _ | (_, .other) :: _ =>
      simp [pairOfEntries?] at hsome
  · rintro ⟨inputKey, outputKey, input, output, hinput, houtput, rfl | rfl, rfl⟩
    · simp [pairOfEntries?, hinput, houtput]
    · simp [pairOfEntries?, hinput, houtput]

/-! ## The schemas of declarations -/

/-- The reader of tokens understands a pair in place of a bare symbol, in any order of its entries. -/
theorem understands_tokenSchema : tokenSchema.Understands SpellsOut := by
  constructor
  · intro entries entries' token hperm hchosen
    rw [tokenOfLoose?, pairOfEntries?_eq_some_iff] at hchosen ⊢
    obtain ⟨inputKey, outputKey, input, output, hinput, houtput, hentries, htoken⟩ := hchosen
    exact ⟨inputKey, outputKey, input, output, hinput, houtput, hperm.symm.trans hentries, htoken⟩
  · rintro _ _ token ⟨symbol⟩ -
    exact ⟨.pair symbol symbol, rfl⟩

theorem understands_destinationSchema : destinationSchema.Understands SpellsOut := by
  refine ⟨by decide, trivial, understands_tokenSchema, ⟨by decide, ?_⟩, trivial⟩
  simp [Schema.Fields.Understand, Schema.Understands]

theorem understands_originSchema : originSchema.Understands SpellsOut := by
  exact ⟨by decide, trivial, trivial, trivial, understands_destinationSchema, trivial⟩

/-- The reader of documents understands such pairs at every depth. -/
theorem understands_hubMapSchema : hubMapSchema.Understands SpellsOut := by
  refine ⟨by decide, ?_⟩
  have hpool : poolSchema.Understands SpellsOut := ⟨by decide, trivial, trivial, trivial⟩
  have hverifier : verifierSchema.Understands SpellsOut := ⟨by decide, trivial, trivial, trivial⟩
  simp [Schema.Fields.Understand, Schema.Understands, routersSchema, hpool, hverifier,
    understands_originSchema]

theorem leavesNoChoice_swapSchema : swapSchema.LeavesNoChoice := ⟨trivial, trivial, trivial, trivial⟩

theorem leavesNoChoice_poolSchema : poolSchema.LeavesNoChoice := ⟨trivial, trivial, trivial⟩

theorem leavesNoChoice_verifierSchema : verifierSchema.LeavesNoChoice := ⟨trivial, trivial, trivial⟩

/-! ## Declarations with every token written as a pair -/

/-- A token written as a pair. -/
def Token.spelledOut (token : Token) : Token := .pair token.input token.output

def Destination.spelledOut (destination : Destination) : Destination :=
  { destination with tokens := destination.tokens.map Token.spelledOut }

def Origin.spelledOut (origin : Origin) : Origin :=
  { origin with destinations := origin.destinations.map Destination.spelledOut }

def Hub.spelledOut (hub : Hub) : Hub := { hub with origins := hub.origins.map Origin.spelledOut }

theorem map_eq_of_forall₂ {α β : Type} {R : α → α → Prop} {f : α → β}
    (hequal : ∀ value value', R value value' → f value' = f value) {values values' : List α}
    (hrelated : List.Forall₂ R values values') : values'.map f = values.map f :=
  (map_eq_map_of_forall₂ (fun value value' hvalue ↦ (hequal value value' hvalue).symm) hrelated).symm

/-- Tokens that are alike are one token once they are written as pairs. -/
theorem Token.spelledOut_eq_of_alike (token token' : Token)
    (halike : tokenSchema.Alike SpellsOut token token') : token'.spelledOut = token.spelledOut := by
  rcases halike with rfl | ⟨_, _, ⟨symbol⟩, hbare, hpair⟩
  · rfl
  · cases hbare
    cases hpair
    rfl

theorem Destination.spelledOut_eq_of_alike (destination destination' : Destination)
    (halike : destinationSchema.Alike SpellsOut destination destination') :
    destination'.spelledOut = destination.spelledOut := by
  rcases halike with rfl | ⟨⟨chain, tokens, swaps, _⟩, ⟨_, tokens', _, _⟩, rfl, rfl, rfl, htokens, hswaps, -⟩
  · rfl
  · obtain rfl := Schema.eq_of_forall₂ (swapSchema.eq_of_alike leavesNoChoice_swapSchema) hswaps
    rw [Destination.spelledOut, Destination.spelledOut,
      map_eq_of_forall₂ Token.spelledOut_eq_of_alike htokens]

theorem Origin.spelledOut_eq_of_alike (origin origin' : Origin)
    (halike : originSchema.Alike SpellsOut origin origin') : origin'.spelledOut = origin.spelledOut := by
  rcases halike with rfl | ⟨⟨chain, spoke, native, destinations, _⟩, ⟨_, _, native', destinations', _⟩,
    rfl, rfl, rfl, rfl, hnative, hdestinations, -⟩
  · rfl
  · obtain rfl := Schema.eq_of_rel (fun _ _ hsymbol ↦ hsymbol) hnative
    rw [Origin.spelledOut, Origin.spelledOut,
      map_eq_of_forall₂ Destination.spelledOut_eq_of_alike hdestinations]

/-- Hubs that are alike are one hub once their tokens are written as pairs. -/
theorem Hub.spelledOut_eq_of_alike (hub hub' : Hub) (halike : hubSchema.Alike SpellsOut hub hub') :
    hub'.spelledOut = hub.spelledOut := by
  rcases halike with rfl | ⟨⟨chain, pool, configStore, acceleratingDistributor, merkleDistributor,
    claimAndStake, wrappedNativeSymbol, protocolSymbol, nativeSymbol, routers, pools, verifier, origins, _⟩,
    ⟨_, _, _, _, _, _, _, _, _, routers', pools', verifier', origins', _⟩, rfl, rfl,
    rfl, rfl, rfl, rfl, rfl, rfl, rfl, rfl, rfl, hrouters, hpools, hverifier, horigins, -⟩
  · rfl
  · obtain rfl := routersSchema.eq_of_alike trivial _ _ hrouters
    obtain rfl := Schema.eq_of_forall₂ (poolSchema.eq_of_alike leavesNoChoice_poolSchema) hpools
    obtain rfl := Schema.eq_of_rel (verifierSchema.eq_of_alike leavesNoChoice_verifierSchema) hverifier
    rw [Hub.spelledOut, Hub.spelledOut, map_eq_of_forall₂ Origin.spelledOut_eq_of_alike horigins]

/-! ## The search for faults -/

/-- The faults of a destination do not depend on how its tokens are written. -/
theorem Destination.fault?_spelledOut (origin : ChainId) (earlier : List ChainId) (destination : Destination) :
    destination.spelledOut.fault? origin earlier = destination.fault? origin earlier := by
  have htokens : (destination.tokens.map Token.spelledOut).any Token.lacksSymbol =
      destination.tokens.any Token.lacksSymbol := List.any_map
  rw [Destination.fault?, Destination.spelledOut, htokens]
  rfl

theorem destinationsFault?_spelledOut (origin : ChainId) (earlier : List ChainId)
    (destinations : List Destination) :
    destinationsFault? origin earlier (destinations.map Destination.spelledOut) =
      destinationsFault? origin earlier destinations := by
  induction destinations generalizing earlier with
  | nil => rfl
  | cons destination rest ih =>
    rw [List.map_cons, destinationsFault?, destinationsFault?, Destination.fault?_spelledOut, ih]
    rfl

/-- The faults of an origin do not depend on how its tokens are written. -/
theorem Origin.fault?_spelledOut (origin : Origin) : origin.spelledOut.fault? = origin.fault? := by
  rw [Origin.fault?, Origin.spelledOut, destinationsFault?_spelledOut]
  rfl

theorem originsFault?_spelledOut (key : ChainId) (earlier : List ChainId) (origins : List Origin) :
    originsFault? key earlier (origins.map Origin.spelledOut) = originsFault? key earlier origins := by
  induction origins generalizing earlier with
  | nil => rfl
  | cons origin rest ih =>
    rw [List.map_cons, originsFault?, originsFault?, Origin.fault?_spelledOut, ih]
    rfl

/-- The faults of a hub do not depend on how its tokens are written. -/
theorem Hub.fault?_spelledOut (key : ChainId) (hub : Hub) : hub.spelledOut.fault? key = hub.fault? key := by
  rw [Hub.fault?, Hub.spelledOut, originsFault?_spelledOut]
  rfl

/-- Hubs that are the same when they are spelled out have the same fault. -/
theorem hubsFault?_eq_of_spelledOut {hubs hubs' : OrderedMap ChainId Hub}
    (hsame : hubs.Pointwise (fun hub hub' ↦ hub'.spelledOut = hub.spelledOut) hubs') :
    hubsFault? hubs' = hubsFault? hubs := by
  unfold OrderedMap.Pointwise at hsame
  unfold hubsFault?
  generalize hubs.entries = entries, hubs'.entries = entries' at hsame ⊢
  induction hsame with
  | nil => rfl
  | cons hhead _ ih =>
    rw [List.findSome?_cons, List.findSome?_cons, ih, ← hhead.1, ← Hub.fault?_spelledOut, hhead.2,
      Hub.fault?_spelledOut]

end HubRoutes.Declaration
