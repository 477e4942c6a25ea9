import SearchQuery.Proofs.Options.RoundTrip
import SearchQuery.Proofs.Search

/-!
# Typed options in a search

The mapping that options are written as never has a key `options`, so it is not taken for
an envelope, and it is a mapping even where no option is set, so it is not passed over as
missing. Options therefore reach a search as they are written, with or without an envelope,
and can be read back from it. The query may itself come in an envelope and is taken out of
it as in any other search.
-/

namespace SearchQuery

namespace Options

theorem field?_toJson_options (o : Options) : o.toJson.field? "options" = none := by
  simp [toJson, fields, Json.field?]

theorem outOf_toJson (o : Options) : o.toJson.outOf "options" = o.toJson := by
  rw [Json.outOf, Json.truthyField?, field?_toJson_options]
  rfl

theorem outOf_envelope (o : Options) : o.envelope.outOf "options" = o.toJson :=
  Json.outOf_of_truthy (Json.field?_object_single "options" o.toJson) rfl

end Options

/-- A string that is not truthy is empty already. -/
theorem Json.orEmptyText_str (text : String) : (Json.str text).orEmptyText = .str text := by
  by_cases empty : text = ""
  · rw [empty]
    rfl
  · exact if_pos (bne_iff_ne.mpr empty)

namespace Query

variable (query : Json) (text : String) (o : Options)

/-- Whatever the options are taken out of, the search holds them as they are written. -/
theorem search_of_written {given : Json} (present : given.isNull = false)
    (content : given.outOf "options" = o.toJson) :
    search query (.str text) (some given) =
      ofContent (query.outOf "query") (.str text) (some o.toJson) := by
  rw [search_of_options query (.str text) present, content, Json.orEmptyText_str]

/-- A search with typed options is the search with their envelope. It holds the query, the
text itself and the options as they are written, and nothing else; and the options that it
holds are read back as the ones given. -/
theorem searchWithOptions_holds_options :
    searchWithOptions query text o = search query (.str text) (some o.envelope) ∧
      ∃ fields, (searchWithOptions query text o).json = .object [("search", .obj fields)] ∧
        fields.keys = ["options", "qtext", "query"] ∧
        fields.get? "query" = some (query.outOf "query") ∧
        fields.get? "qtext" = some (.str text) ∧
        fields.get? "options" = some o.toJson ∧
        Options.ofJson o.toJson = .ok o := by
  have bare : searchWithOptions query text o =
      ofContent (query.outOf "query") (.str text) (some o.toJson) :=
    search_of_written query text o rfl o.outOf_toJson
  have enveloped : search query (.str text) (some o.envelope) =
      ofContent (query.outOf "query") (.str text) (some o.toJson) :=
    search_of_written query text o rfl o.outOf_envelope
  refine ⟨bare.trans enveloped.symm, _, congrArg Query.json bare, rfl, ?_, ?_, ?_,
    Options.ofJson_toJson o⟩
  · exact field?_searchContent_query (query.outOf "query") (.str text) (some o.toJson)
  · exact field?_searchContent_qtext (query.outOf "query") (.str text) (some o.toJson)
  · exact field?_searchContent_options (query.outOf "query") (.str text) (some o.toJson)

/-- With no option set the search still holds an empty mapping of options. -/
example : (searchWithOptions .null "" {}).field? "options" = some (.obj .nil) := rfl

end Query

end SearchQuery
