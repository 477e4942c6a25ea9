import SearchQuery.Options.Loading
import SearchQuery.Proofs.Number.Integer
import SearchQuery.Proofs.Options.Texts

/-!
# Options exported to the environment

Options are written as one text for each variable that is set, and loading these
texts gives the options again. The free-form options share one text, so each of
them must be visible at both ends, not empty and free of commas; those that were
loaded from any environment always are. Blanks around the entries of that text and
entries of blanks alone make no difference.
-/

namespace SearchQuery

open Text (isBlank trim VisibleEnds)

namespace Options

/-! ## Page lengths and switches -/

theorem isBlank_of_isDigit {c : Char} (digit : c.isDigit = true) : isBlank c = false := by
  have all : ∀ code < 58, 48 ≤ code → Text.inRanges code Text.blankRanges = false := by decide
  obtain ⟨low, high⟩ := Char.isDigit_iff_toNat.mp digit
  exact all c.toNat (Nat.lt_succ_of_le high) low

theorem readPageLength_toString (n : UInt64) : readPageLength (toString n.toNat) = .ok n := by
  obtain ⟨first, later, digits, -⟩ := NumberLiteral.toDigits_eq_cons n.toNat
  have all : ∀ c ∈ Nat.toDigits 10 n.toNat, c.isDigit = true :=
    fun _ member => NumberLiteral.isDigit_of_mem_toDigits member
  have nonempty : Nat.toDigits 10 n.toNat ≠ [] := by
    rw [digits]
    exact List.cons_ne_nil first later
  rw [readPageLength_eq_ok, Nat.toString_eq_ofList_toDigits, String.toList_ofList,
    Text.trim_eq_self_of_forall fun c member => isBlank_of_isDigit (all c member)]
  exact ⟨_, .inl rfl, nonempty, all, Nat.ofDigitChars_ten_toDigits⟩

theorem readSwitch_boolText (value : Bool) : readSwitch (boolText value) = .ok value := by
  cases value with
  | true => rfl
  | false => rfl

/-! ## Free-form options -/

/-- The pieces of a text between its commas, trimmed, without those that are empty. -/
def piecesOf (cs : List Char) : List (List Char) :=
  ((cs.splitOn ',').map trim).filter fun piece => piece ≠ []

theorem readEntries_eq (text : String) :
    readEntries text = (piecesOf text.toList).map String.ofList :=
  rfl

theorem piecesOf_append_comma (a b : List Char) :
    piecesOf (a ++ ',' :: b) = piecesOf a ++ piecesOf b := by
  rw [piecesOf, List.splitOn_append_cons_self, List.map_append, List.filter_append]
  rfl

theorem piecesOf_of_commaFree {cs : List Char} (commaFree : ',' ∉ cs) :
    piecesOf cs = [trim cs].filter fun piece => piece ≠ [] := by
  rw [piecesOf, List.splitOn_eq_singleton commaFree]
  rfl

theorem not_mem_comma_of_mem_splitOn {cs piece : List Char} (member : piece ∈ cs.splitOn ',') :
    ',' ∉ piece := by
  induction cs generalizing piece with
  | nil =>
    rw [List.splitOn_nil, List.mem_singleton] at member
    rw [member]
    exact List.not_mem_nil
  | cons c rest ih =>
    rw [List.splitOn_cons_eq_if_modifyHead] at member
    by_cases comma : c = ','
    · rw [if_pos (by simpa using comma)] at member
      rcases List.mem_cons.mp member with rfl | later
      · exact List.not_mem_nil
      · exact ih later
    · rw [if_neg (by simpa using comma)] at member
      obtain ⟨first, others, cut⟩ := List.exists_cons_of_ne_nil (List.splitOn_ne_nil ',' rest)
      rw [cut, List.modifyHead_cons] at member
      rw [cut] at ih
      rcases List.mem_cons.mp member with rfl | later
      · have tail : ',' ∉ first := ih List.mem_cons_self
        simp only [List.mem_cons, not_or]
        exact ⟨Ne.symm comma, tail⟩
      · exact ih (List.mem_cons_of_mem first later)

theorem not_mem_comma_of_blank {cs : List Char} (blank : ∀ c ∈ cs, isBlank c = true) :
    ',' ∉ cs := by
  intro member
  exact absurd (blank ',' member) (by decide)

theorem piecesOf_blank {cs : List Char} (blank : ∀ c ∈ cs, isBlank c = true) :
    piecesOf cs = [] := by
  rw [piecesOf_of_commaFree (not_mem_comma_of_blank blank), Text.trim_eq_nil blank]
  rfl

/-- Blanks around a text do not show in its pieces: they end up at the outer ends of
its first and its last piece. -/
theorem piecesOf_padded {before after : List Char} (blankBefore : ∀ c ∈ before, isBlank c = true)
    (blankAfter : ∀ c ∈ after, isBlank c = true) (cs : List Char) :
    piecesOf (before ++ cs ++ after) = piecesOf cs := by
  by_cases commas : ',' ∈ cs
  · obtain ⟨a, b, rfl⟩ := List.append_of_mem commas
    have parts : before ++ (a ++ ',' :: b) ++ after =
        (before ++ a ++ []) ++ ',' :: ([] ++ b ++ after) := by simp
    rw [parts, piecesOf_append_comma, piecesOf_append_comma,
      piecesOf_padded blankBefore (by simp) a, piecesOf_padded (by simp) blankAfter b]
  · have commaFree : ',' ∉ before ++ cs ++ after := by
      simp only [List.mem_append, not_or]
      exact ⟨⟨not_mem_comma_of_blank blankBefore, commas⟩, not_mem_comma_of_blank blankAfter⟩
    rw [piecesOf_of_commaFree commaFree, piecesOf_of_commaFree commas,
      Text.trim_padded blankBefore blankAfter]
termination_by cs.length
decreasing_by
  all_goals
    subst_vars
    simp only [List.length_append, List.length_cons]
    omega

theorem piecesOf_intercalate (texts : List (List Char)) :
    piecesOf ([','].intercalate texts) = texts.flatMap piecesOf := by
  induction texts with
  | nil => rfl
  | cons text rest ih =>
    cases rest with
    | nil => simp
    | cons next more =>
      rw [List.intercalate_cons_cons, List.append_assoc, List.singleton_append,
        piecesOf_append_comma, ih]
      rfl

/-- The entries in one text. -/
def listText (entries : List String) : String := String.intercalate "," entries

/-- The texts between the commas are read one by one. -/
theorem readEntries_listText (texts : List String) :
    readEntries (listText texts) = texts.flatMap readEntries := by
  have chars : (listText texts).toList = [','].intercalate (texts.map String.toList) :=
    String.toList_intercalate
  rw [readEntries_eq, chars, piecesOf_intercalate, List.flatMap_map, List.map_flatMap]
  rfl

/-- An entry that a list of entries gives back as it is. -/
structure Listable (entry : String) : Prop where
  nonempty : entry ≠ ""
  visible : VisibleEnds entry.toList
  commaFree : ',' ∉ entry.toList

theorem readEntries_of_listable {entry : String} (listable : Listable entry) :
    readEntries entry = [entry] := by
  have kept : entry.toList ≠ [] := fun empty => listable.nonempty (String.toList_eq_nil_iff.mp empty)
  rw [readEntries_eq, piecesOf_of_commaFree listable.commaFree,
    Text.trim_eq_self listable.visible]
  simp [kept]

/-- Whatever the text, the entries read off it are listable. -/
theorem listable_of_mem_readEntries {text entry : String} (member : entry ∈ readEntries text) :
    Listable entry := by
  rw [readEntries_eq] at member
  obtain ⟨piece, found, rfl⟩ := List.mem_map.mp member
  obtain ⟨trimmed, visible⟩ := List.mem_filter.mp found
  obtain ⟨raw, cut, rfl⟩ := List.mem_map.mp trimmed
  refine ⟨?_, ?_, ?_⟩
  · simpa using visible
  · rw [String.toList_ofList]
    exact Text.visibleEnds_trim raw
  · rw [String.toList_ofList]
    intro comma
    exact not_mem_comma_of_mem_splitOn cut ((Text.trim_sublist raw).mem comma)

theorem flatMap_readEntries {entries : List String} (listable : ∀ entry ∈ entries, Listable entry) :
    entries.flatMap readEntries = entries := by
  induction entries with
  | nil => rfl
  | cons entry rest ih =>
    obtain ⟨first, others⟩ := List.forall_mem_cons.mp listable
    rw [List.flatMap_cons, readEntries_of_listable first, ih others]
    rfl

/-- Texts that stand for the same entries in a list: each entry with blanks around it,
and between the entries any number of texts that are blank or empty. -/
inductive Loosened : List String → List String → Prop where
  | nil : Loosened [] []
  | blank {entries texts : List String} (space : List Char)
      (blank : ∀ c ∈ space, isBlank c = true) (rest : Loosened entries texts) :
      Loosened entries (String.ofList space :: texts)
  | entry {entries texts : List String} (entry : String) (before after : List Char)
      (blankBefore : ∀ c ∈ before, isBlank c = true) (blankAfter : ∀ c ∈ after, isBlank c = true)
      (rest : Loosened entries texts) :
      Loosened (entry :: entries) (String.ofList (before ++ entry.toList ++ after) :: texts)

theorem flatMap_readEntries_of_loosened {entries texts : List String}
    (loosened : Loosened entries texts) :
    texts.flatMap readEntries = entries.flatMap readEntries := by
  induction loosened with
  | nil => rfl
  | blank space blank rest ih =>
    have nothing : readEntries (String.ofList space) = [] := by
      rw [readEntries_eq, String.toList_ofList, piecesOf_blank blank]
      rfl
    rw [List.flatMap_cons, nothing, ih]
    rfl
  | entry entry before after blankBefore blankAfter rest ih =>
    have padded : readEntries (String.ofList (before ++ entry.toList ++ after)) =
        readEntries entry := by
      rw [readEntries_eq, readEntries_eq, String.toList_ofList,
        piecesOf_padded blankBefore blankAfter]
    rw [List.flatMap_cons, List.flatMap_cons, padded, ih]

end Options

/-! ## The whole environment -/

/-- The environment with one variable set. -/
def Environment.withText (env : Environment) (key text : String) : Environment :=
  fun wanted => if wanted = key then some text else env wanted

theorem Environment.withText_own (env : Environment) (key text : String) :
    env.withText key text key = some text :=
  if_pos rfl

theorem Environment.withText_other {env : Environment} {key other text : String}
    (different : other ≠ key) : env.withText key text other = env other :=
  if_neg different

namespace Options

/-- One text for each variable that is set. -/
def exported (o : Options) : Environment
  | "SQ_PAGE_LENGTH" => o.pageLength.map fun n => toString n.toNat
  | "SQ_RETURN_QUERY" => o.returnQuery.map boolText
  | "SQ_RETURN_RESULTS" => o.returnResults.map boolText
  | "SQ_RETURN_FACETS" => o.returnFacets.map boolText
  | "SQ_DEBUG" => o.debug.map boolText
  | "SQ_SEARCH_OPTIONS" => if o.searchOptions = [] then none else some (listText o.searchOptions)
  | _ => none

theorem result_load (env : Environment) : (load env).result = ofEnvironment env := by
  rw [load]
  cases ofEnvironment env <;> rfl

theorem bind_eq_ok {ε α β : Type} {first : Except ε α} {next : α → Except ε β} {result : β} :
    first >>= next = .ok result ↔ ∃ value, first = .ok value ∧ next value = .ok result := by
  cases first with
  | error fault => simp [bind, Except.bind]
  | ok value => simp [bind, Except.bind]

/-- Loading succeeds exactly if every variable gives its field. -/
theorem ofEnvironment_eq_ok {env : Environment} {o : Options} :
    ofEnvironment env = .ok o ↔
      setting env "SQ_PAGE_LENGTH" readPageLength = .ok o.pageLength ∧
        setting env "SQ_RETURN_QUERY" readSwitch = .ok o.returnQuery ∧
        setting env "SQ_RETURN_RESULTS" readSwitch = .ok o.returnResults ∧
        setting env "SQ_RETURN_FACETS" readSwitch = .ok o.returnFacets ∧
        setting env "SQ_DEBUG" readSwitch = .ok o.debug ∧
        ((env "SQ_SEARCH_OPTIONS").map readEntries).getD [] = o.searchOptions := by
  simp only [ofEnvironment, bind_eq_ok]
  constructor
  · rintro ⟨pageLength, first, returnQuery, second, returnResults, third, returnFacets, fourth,
      debug, fifth, whole⟩
    cases whole
    exact ⟨first, second, third, fourth, fifth, rfl⟩
  · rintro ⟨first, second, third, fourth, fifth, entries⟩
    refine ⟨_, first, _, second, _, third, _, fourth, _, fifth, ?_⟩
    rw [entries]
    rfl

theorem setting_written {α : Type} {read : String → Except SettingFault α} {write : α → String}
    (inverse : ∀ value, read (write value) = .ok value) {env : Environment} {key : String}
    {value : Option α} (text : env key = value.map write) : setting env key read = .ok value := by
  rw [setting, text]
  cases value with
  | none => rfl
  | some value =>
    rw [Option.map_some]
    dsimp only
    rw [inverse]

theorem ofEnvironment_exported {o : Options}
    (listable : ∀ entry ∈ o.searchOptions, Listable entry) : ofEnvironment o.exported = .ok o := by
  rw [ofEnvironment_eq_ok]
  refine ⟨setting_written readPageLength_toString rfl, setting_written readSwitch_boolText rfl,
    setting_written readSwitch_boolText rfl, setting_written readSwitch_boolText rfl,
    setting_written readSwitch_boolText rfl, ?_⟩
  have list : o.exported "SQ_SEARCH_OPTIONS" =
      if o.searchOptions = [] then none else some (listText o.searchOptions) := rfl
  rw [list]
  by_cases none : o.searchOptions = []
  · rw [if_pos none, none]
    rfl
  · rw [if_neg none, Option.map_some, Option.getD_some, readEntries_listText,
      flatMap_readEntries listable]

theorem setting_withText {α : Type} (env : Environment) (text : String)
    (read : String → Except SettingFault α) {key : String} (other : key ≠ "SQ_SEARCH_OPTIONS") :
    setting (env.withText "SQ_SEARCH_OPTIONS" text) key read = setting env key read := by
  rw [setting, setting, Environment.withText_other other]

/-- The text of the free-form options gives these options and nothing else. -/
theorem ofEnvironment_withText (env : Environment) (text : String) :
    ofEnvironment (env.withText "SQ_SEARCH_OPTIONS" text) =
      (fun o => { o with searchOptions := readEntries text }) <$> ofEnvironment env := by
  have pageLength := setting_withText env text readPageLength
    (show "SQ_PAGE_LENGTH" ≠ "SQ_SEARCH_OPTIONS" by decide)
  have returnQuery := setting_withText env text readSwitch
    (show "SQ_RETURN_QUERY" ≠ "SQ_SEARCH_OPTIONS" by decide)
  have returnResults := setting_withText env text readSwitch
    (show "SQ_RETURN_RESULTS" ≠ "SQ_SEARCH_OPTIONS" by decide)
  have returnFacets := setting_withText env text readSwitch
    (show "SQ_RETURN_FACETS" ≠ "SQ_SEARCH_OPTIONS" by decide)
  have debug := setting_withText env text readSwitch
    (show "SQ_DEBUG" ≠ "SQ_SEARCH_OPTIONS" by decide)
  have list := env.withText_own "SQ_SEARCH_OPTIONS" text
  simp only [ofEnvironment, pageLength, returnQuery, returnResults, returnFacets, debug, list,
    map_bind, map_pure]
  rfl

theorem ofEnvironment_loosened {entries texts : List String} (loosened : Loosened entries texts)
    (env : Environment) :
    ofEnvironment (env.withText "SQ_SEARCH_OPTIONS" (listText texts)) =
      ofEnvironment (env.withText "SQ_SEARCH_OPTIONS" (listText entries)) := by
  rw [ofEnvironment_withText, ofEnvironment_withText, readEntries_listText, readEntries_listText,
    flatMap_readEntries_of_loosened loosened]

theorem listable_of_ofEnvironment {env : Environment} {o : Options}
    (loaded : ofEnvironment env = .ok o) : ∀ entry ∈ o.searchOptions, Listable entry := by
  obtain ⟨-, -, -, -, -, entries⟩ := ofEnvironment_eq_ok.mp loaded
  intro entry member
  rw [← entries] at member
  cases text : env "SQ_SEARCH_OPTIONS" with
  | none =>
    rw [text] at member
    cases member
  | some text' =>
    rw [text] at member
    exact listable_of_mem_readEntries member

/-- Options with listable entries are loaded from what they are exported as, also from
a looser list; options that were loaded have listable entries; and a looser list loads
as the list itself does, whatever the other variables hold. -/
theorem load_exported :
    (∀ o : Options, (∀ entry ∈ o.searchOptions, Listable entry) →
      (load o.exported).result = .ok o ∧
        ∀ texts, Loosened o.searchOptions texts →
          (load (o.exported.withText "SQ_SEARCH_OPTIONS" (listText texts))).result = .ok o) ∧
      (∀ (env : Environment) (o : Options), (load env).result = .ok o →
        (∀ entry ∈ o.searchOptions, Listable entry) ∧ (load o.exported).result = .ok o) ∧
      ∀ (env : Environment) (entries texts : List String), Loosened entries texts →
        load (env.withText "SQ_SEARCH_OPTIONS" (listText texts)) =
          load (env.withText "SQ_SEARCH_OPTIONS" (listText entries)) := by
  refine ⟨?_, ?_, ?_⟩
  · intro o listable
    have loaded := ofEnvironment_exported listable
    refine ⟨(result_load _).trans loaded, fun texts loosened => ?_⟩
    rw [result_load, ofEnvironment_withText, loaded, readEntries_listText,
      flatMap_readEntries_of_loosened loosened, flatMap_readEntries listable]
    rfl
  · intro env o loaded
    rw [result_load] at loaded
    have listable := listable_of_ofEnvironment loaded
    exact ⟨listable, (result_load _).trans (ofEnvironment_exported listable)⟩
  · intro env entries texts loosened
    rw [load, load, ofEnvironment_loosened loosened env]

/-- The largest page length, and entries with blanks of several kinds around and inside. -/
theorem load_exported_padded :
    let o : Options :=
      { pageLength := some 18446744073709551615, debug := some false,
        searchOptions := ["a b", "é"] }
    let texts := ["\u3000", "\ta b", "", "é\u0085"]
    let env := o.exported.withText "SQ_SEARCH_OPTIONS" "\u3000,\ta b,,é\u0085"
    (∀ entry ∈ o.searchOptions, Listable entry) ∧ Loosened o.searchOptions texts ∧
      (load o.exported).result = .ok o ∧ (load env).result = .ok o ∧
      load env = load (o.exported.withText "SQ_SEARCH_OPTIONS" "a b,é") := by
  intro o texts env
  have loaded : (load env).result = .ok o := by rfl
  have listable : ∀ entry ∈ o.searchOptions, Listable entry := (load_exported.2.1 env o loaded).1
  have wide : ∀ c ∈ ['\u3000'], isBlank c = true := List.forall_mem_singleton.mpr rfl
  have tab : ∀ c ∈ ['\t'], isBlank c = true := List.forall_mem_singleton.mpr rfl
  have nextLine : ∀ c ∈ ['\u0085'], isBlank c = true := List.forall_mem_singleton.mpr rfl
  have none : ∀ c ∈ ([] : List Char), isBlank c = true := List.forall_mem_nil _
  have loosened : Loosened o.searchOptions texts :=
    .blank ['\u3000'] wide <| .entry "a b" ['\t'] [] tab none <|
      .blank [] none <| .entry "é" [] ['\u0085'] none nextLine .nil
  have sameText : listText texts = "\u3000,\ta b,,é\u0085" := by decide
  refine ⟨listable, loosened, (load_exported.1 o listable).1, loaded, ?_⟩
  have moved := load_exported.2.2 o.exported o.searchOptions texts loosened
  rw [sameText] at moved
  exact moved

end Options

end SearchQuery
