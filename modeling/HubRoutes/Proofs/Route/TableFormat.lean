import HubRoutes.Proofs.Declaration.Documents
import HubRoutes.Proofs.OrderedMap
import HubRoutes.Proofs.Schema.RoundTrip
import HubRoutes.Route.Format

/-!
# The text of a table holds the table

Nothing of a table is lost in its text: the schemas of tables and of the declarations in them lose
nothing, and their documents nest only a few levels. So a table is read back from its text whatever its
chains, symbols, addresses and lists are. The maps of a table are written in their own order, which for
texts is the order of code points and for chains that of numbers.
-/

namespace HubRoutes

namespace Route

/-! ## The schemas of tables -/

theorem isLossless_bridgeSchema : bridgeSchema.IsLossless := by
  refine ⟨by decide, ?_, fun _ ↦ rfl⟩
  simp [bridgeFields, Schema.Fields.AreLossless, Schema.IsLossless]

theorem isLossless_swapSchema : swapSchema.IsLossless := by
  refine ⟨by decide, ?_, ?_, fun _ ↦ rfl⟩
  · simp [bridgeFields, Schema.Fields.AreLossless, Schema.IsLossless]
  · simp [Schema.Fields.AreLossless, Schema.IsLossless]

/-- Two tables never have one document. -/
theorem isLossless_tableSchema : tableSchema.IsLossless := by
  refine ⟨by decide, ?_, fun _ ↦ rfl⟩
  simp [Schema.Fields.AreLossless, Schema.IsLossless, Declaration.routersSchema,
    isLossless_bridgeSchema, isLossless_swapSchema, Declaration.isLossless_poolSchema,
    Declaration.isLossless_verifierSchema, Declaration.write_verifierSchema_ne_null]

/-- The document of a table stays within the levels of the reader. -/
theorem nestsWithin_tableSchema : tableSchema.NestsWithin 128 := by
  simp [tableSchema, bridgeSchema, swapSchema, bridgeFields, Declaration.routersSchema,
    Declaration.poolSchema, Declaration.verifierSchema, Schema.NestsWithin,
    Schema.Fields.NestWithin]

/-! ## Tables and their texts -/

/-- The table that a text is read as. -/
def Table.ofText? (text : String) : Option Table := do
  (Json.decode tableSchema (← Json.read? text)).toOption

/-- Whether a document lists providers by ascending code points and the chains of each provider by
ascending numbers. -/
def RoutersAscend (document : Json) : Prop :=
  ∃ providers, document = .object providers ∧
    (providers.map Prod.fst).Pairwise (fun first second ↦ first.toList < second.toList) ∧
    ∀ provider ∈ providers, ∃ contracts, provider.2 = .object contracts ∧
      ∃ chains : List ChainId, contracts.map Prod.fst = chains.map ChainId.text ∧
        chains.Pairwise fun first second ↦ first.toNat < second.toNat

theorem routersAscend_write (routers : Declaration.Routers) :
    RoutersAscend (Declaration.routersSchema.write routers) := by
  refine ⟨_, rfl, ?_, ?_⟩
  · rw [List.map_map]
    exact routers.pairwise_keys_text
  · rw [List.forall_mem_map]
    intro provider _
    refine ⟨_, rfl, provider.2.keys, ?_, provider.2.pairwise_keys_chain⟩
    rw [List.map_map, OrderedMap.keys, List.map_map]
    rfl

/-- The text of a table is read to its document. -/
theorem read?_render_table (table : Table) :
    Json.read? table.render = some (tableSchema.write table) :=
  Json.read?_render (tableSchema.isReadable_write nestsWithin_tableSchema table)

theorem ofText?_render (table : Table) : Table.ofText? table.render = some table := by
  rw [Table.ofText?, read?_render_table]
  have hdecoded : Json.decode tableSchema (tableSchema.write table) = .ok table :=
    tableSchema.readsBack isLossless_tableSchema [] table
  simp [hdecoded, Except.toOption]

/-- The text of a table holds the table: it is read as the table, so different tables have different
texts and the table that is read has the same text. In it the providers of the routers ascend by code
points, and the chains of each provider by their numbers. -/
theorem table_text_is_lossless :
    (∀ table : Table, Table.ofText? table.render = some table) ∧
      Function.Injective Table.render ∧
      (∀ table : Table, (Table.ofText? table.render).map Table.render = some table.render) ∧
      ∀ table : Table, ∃ document, table.render = document.render ++ "\n" ∧
        Json.read? table.render = some document ∧
        ∃ routers, document.field? "swapAndBridgeAddresses" = some routers ∧
          RoutersAscend routers := by
  have hread := ofText?_render
  refine ⟨hread, fun first second hsame ↦ ?_, fun table ↦ by rw [hread, Option.map_some], ?_⟩
  · have hfirst := hread first
    rw [hsame, hread second] at hfirst
    exact (Option.some.inj hfirst).symm
  · intro table
    have hrouters : (tableSchema.write table).field? "swapAndBridgeAddresses" =
        some (Declaration.routersSchema.write table.routers) := by
      simp [tableSchema, Schema.write, Schema.Fields.write, Json.field?, List.lookup_cons]
    exact ⟨tableSchema.write table, rfl, read?_render_table table, _, hrouters,
      routersAscend_write table.routers⟩

end Route

end HubRoutes
