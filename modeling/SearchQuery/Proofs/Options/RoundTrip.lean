import SearchQuery.Options.Decode

/-!
# Options read back

Options are read back from the mapping they are written as and from the list of
all their fields. A field that is not written has its default when it is read, so
nothing is lost by leaving it out. Decoding a mapping is one pass in key order:
after every entry, each field is either still to come, or has its final value
already. Every record of options is the end of some run of changes, so there is no
reachable state that this leaves out.
-/

namespace SearchQuery

namespace OptionField

@[simp] theorem ofKey?_key (field : OptionField) : ofKey? field.key = some field := by
  cases field <;> decide

theorem key_of_ofKey? {key : String} {field : OptionField} (known : ofKey? key = some field) :
    field.key = key := by
  simpa using List.find?_some known

theorem key_inj {field other : OptionField} : field.key = other.key ↔ field = other := by
  constructor
  · intro equal
    have found : some field = some other := by rw [← ofKey?_key field, equal, ofKey?_key]
    exact Option.some.inj found
  · rintro rfl
    rfl

end OptionField

namespace Options

/-! ## Single fields -/

/-- The value of a field in JSON, null where it is not set. -/
def fieldJson (o : Options) : OptionField → Json
  | .pageLength => (o.pageLength.map Json.ofUInt64).getD .null
  | .returnQuery => (o.returnQuery.map Json.bool).getD .null
  | .returnResults => (o.returnResults.map Json.bool).getD .null
  | .returnFacets => (o.returnFacets.map Json.bool).getD .null
  | .debug => (o.debug.map Json.bool).getD .null
  | .searchOptions => .arr (o.searchOptions.map Json.str)

/-- All fields in declared order. -/
def items (o : Options) : List Json := OptionField.all.map o.fieldJson

/-- These options with one field taken from others. -/
def takeField (o other : Options) : OptionField → Options
  | .pageLength => { o with pageLength := other.pageLength }
  | .returnQuery => { o with returnQuery := other.returnQuery }
  | .returnResults => { o with returnResults := other.returnResults }
  | .returnFacets => { o with returnFacets := other.returnFacets }
  | .debug => { o with debug := other.debug }
  | .searchOptions => { o with searchOptions := other.searchOptions }

theorem foldl_takeField_all (o other : Options) :
    OptionField.all.foldl (fun o field => o.takeField other field) o = other :=
  rfl

theorem fieldJson_takeField (o other : Options) (field wanted : OptionField) :
    (o.takeField other field).fieldJson wanted =
      if field = wanted then other.fieldJson wanted else o.fieldJson wanted := by
  cases field <;> cases wanted <;> rfl

theorem decodeWord_ofUInt64 (n : UInt64) : decodeWord (Json.ofUInt64 n) = .ok n := by
  have positive : ¬ ((n.toNat : Int) < 0) := by omega
  simp [Json.ofUInt64, Number.ofUInt64, decodeWord, positive]

theorem decodeStrings_texts (texts : List String) :
    decodeStrings (.arr (texts.map Json.str)) = .ok texts := by
  rw [decodeStrings]
  induction texts with
  | nil => rfl
  | cons text rest ih =>
    rw [List.map_cons, List.mapM_cons, ih]
    rfl

/-- Null stands for an unset field, and no set field is written as null. -/
theorem decodeSetting_written {α : Type} {decode : Json → Except DecodeError α} (write : α → Json)
    (visible : ∀ content, write content ≠ .null)
    (inverse : ∀ content, decode (write content) = .ok content) (setting : Option α) :
    decodeSetting decode ((setting.map write).getD .null) = .ok setting := by
  cases setting with
  | none => rfl
  | some content =>
    have written : decodeSetting decode (write content) = (decode (write content)).map some := by
      cases form : write content with
      | null => exact absurd form (visible content)
      | _ => rfl
    rw [Option.map_some, Option.getD_some, written, inverse]
    rfl

theorem decodeSetting_word (setting : Option UInt64) :
    decodeSetting decodeWord ((setting.map Json.ofUInt64).getD .null) = .ok setting :=
  decodeSetting_written Json.ofUInt64 (fun _ form => by cases form) decodeWord_ofUInt64 setting

theorem decodeSetting_bool (setting : Option Bool) :
    decodeSetting decodeBool ((setting.map Json.bool).getD .null) = .ok setting :=
  decodeSetting_written Json.bool (fun _ form => by cases form) (fun _ => rfl) setting

/-- Assigning a written field takes that field over. -/
theorem assign_fieldJson (o other : Options) (field : OptionField) :
    o.assign field (other.fieldJson field) = .ok (o.takeField other field) := by
  cases field with
  | pageLength =>
    rw [fieldJson, assign, decodeSetting_word]
    rfl
  | searchOptions =>
    rw [fieldJson, assign, decodeStrings_texts]
    rfl
  | _ =>
    rw [fieldJson, assign, decodeSetting_bool]
    rfl

/-- The JSON values of its fields determine a record. -/
theorem eq_of_fieldJson {o other : Options}
    (equal : ∀ field, o.fieldJson field = other.fieldJson field) : o = other := by
  have taken : ∀ field, o.takeField other field = o := by
    intro field
    have first := assign_fieldJson o other field
    rw [← equal, assign_fieldJson o o field] at first
    have own : o.takeField o field = o := by cases field <;> rfl
    rw [own] at first
    exact (Except.ok.inj first).symm
  have unchanged : OptionField.all.foldl (fun o field => o.takeField other field) o = o := by
    simp only [OptionField.all, List.foldl_cons, List.foldl_nil, taken]
  exact unchanged.symm.trans (foldl_takeField_all o other)

/-! ## The mapping -/

/-- A field that is not written has its default value. -/
theorem getD_fields (o : Options) (field : OptionField) :
    (o.fields.get? field.key).getD (({} : Options).fieldJson field) = o.fieldJson field := by
  cases field with
  | searchOptions =>
    cases entries : o.searchOptions with
    | nil => simp [fields, OptionField.key, fieldJson, searchOptionsJson?, entries]
    | cons first rest => simp [fields, OptionField.key, fieldJson, searchOptionsJson?, entries]
  | _ => simp [fields, OptionField.key, fieldJson]

/-- The entries still to come and the fields read so far make up the result: one
entry at a time keeps this, and at the end no entry is left. -/
theorem foldlM_assignKey {low : Option String} (rest : Fields Json low) {read result : Options}
    (agree : ∀ field, (rest.get? field.key).getD (read.fieldJson field) = result.fieldJson field) :
    rest.toList.foldlM assignKey read = .ok result := by
  induction rest generalizing read with
  | nil =>
    have same : read = result := eq_of_fieldJson agree
    rw [same]
    rfl
  | cons key above content later ih =>
    cases known : OptionField.ofKey? key with
    | none =>
      have skipped : read.assignKey (key, content) = .ok read := by
        rw [assignKey, known]
      rw [Fields.toList, List.foldlM_cons, skipped]
      apply ih
      intro field
      have other : key ≠ field.key := by
        rintro rfl
        rw [OptionField.ofKey?_key] at known
        cases known
      simpa [Fields.get?, other] using agree field
    | some own =>
      have ownKey := OptionField.key_of_ofKey? known
      subst ownKey
      have ownContent : content = result.fieldJson own := by
        simpa [Fields.get?] using agree own
      have assigned : read.assignKey (own.key, content) = .ok (read.takeField result own) := by
        rw [assignKey, known, ownContent]
        exact assign_fieldJson read result own
      rw [Fields.toList, List.foldlM_cons, assigned]
      apply ih
      intro field
      rw [fieldJson_takeField]
      by_cases same : own = field
      · subst same
        rw [Fields.get?_own, if_pos rfl]
        rfl
      · have other : own.key ≠ field.key := fun equal => same (OptionField.key_inj.mp equal)
        rw [if_neg same]
        simpa [Fields.get?, other] using agree field

theorem ofJson_toJson (o : Options) : ofJson o.toJson = .ok o :=
  foldlM_assignKey o.fields (getD_fields o)

/-! ## The list of all fields -/

theorem foldlM_assign (written : List OptionField) (read result : Options) :
    (written.zip (written.map result.fieldJson)).foldlM
        (fun o entry => o.assign entry.1 entry.2) read =
      .ok (written.foldl (fun o field => o.takeField result field) read) := by
  induction written generalizing read with
  | nil => rfl
  | cons field rest ih =>
    rw [List.map_cons, List.zip_cons_cons, List.foldlM_cons, assign_fieldJson]
    exact ih (read.takeField result field)

theorem ofJson_items (o : Options) : ofJson (.arr o.items) = .ok o := by
  have read := foldlM_assign OptionField.all {} o
  have short : ¬ (OptionField.all.length < o.items.length) := by simp [items]
  rw [foldl_takeField_all] at read
  simp only [ofJson, ofItems, if_neg short]
  rw [items, read]
  rfl

/-! ## Reaching every record -/

/-- The changes that set one field, where it is set at all. -/
def settingChanges (o : Options) : OptionField → List Change
  | .pageLength => o.pageLength.toList.map .pageLength
  | .returnQuery => o.returnQuery.toList.map .returnQuery
  | .returnResults => o.returnResults.toList.map .returnResults
  | .returnFacets => o.returnFacets.toList.map .returnFacets
  | .debug => o.debug.toList.map .debug
  | .searchOptions => o.searchOptions.map .searchOption

def changes (o : Options) : List Change := OptionField.all.flatMap o.settingChanges

theorem foldl_searchOption (entries : List String) (o : Options) :
    (entries.map Change.searchOption).foldl apply o =
      { o with searchOptions := o.searchOptions ++ entries } := by
  induction entries generalizing o with
  | nil => simp
  | cons entry rest ih =>
    rw [List.map_cons, List.foldl_cons, ih]
    simp [apply, withSearchOption]

/-- A setting is reached by one change if it is set and by none if it is not. -/
theorem foldl_setting {α : Type} {change : α → Change} {start : Options}
    (set : Option α → Options) (unset : set none = start)
    (applied : ∀ content, start.apply (change content) = set (some content))
    (setting : Option α) : (setting.toList.map change).foldl apply start = set setting := by
  cases setting with
  | none => exact unset.symm
  | some content => exact applied content

/-- On a field that is still at its default these changes set it. -/
theorem foldl_settingChanges (o : Options) {start : Options} (field : OptionField)
    (unset : start.takeField {} field = start) :
    (o.settingChanges field).foldl apply start = start.takeField o field := by
  cases field with
  | pageLength =>
    exact foldl_setting (fun content => { start with pageLength := content }) unset
      (fun _ => rfl) o.pageLength
  | returnQuery =>
    exact foldl_setting (fun content => { start with returnQuery := content }) unset
      (fun _ => rfl) o.returnQuery
  | returnResults =>
    exact foldl_setting (fun content => { start with returnResults := content }) unset
      (fun _ => rfl) o.returnResults
  | returnFacets =>
    exact foldl_setting (fun content => { start with returnFacets := content }) unset
      (fun _ => rfl) o.returnFacets
  | debug =>
    exact foldl_setting (fun content => { start with debug := content }) unset
      (fun _ => rfl) o.debug
  | searchOptions =>
    have empty : start.searchOptions = [] := (congrArg Options.searchOptions unset).symm
    rw [settingChanges, foldl_searchOption, empty]
    rfl

theorem foldl_changes (o : Options) : o.changes.foldl apply {} = o := by
  simp only [changes, OptionField.all, List.flatMap_cons, List.flatMap_nil, List.foldl_append,
    List.foldl_nil]
  rw [foldl_settingChanges o .pageLength rfl,
    foldl_settingChanges o .returnQuery rfl,
    foldl_settingChanges o .returnResults rfl,
    foldl_settingChanges o .returnFacets rfl,
    foldl_settingChanges o .debug rfl,
    foldl_settingChanges o .searchOptions rfl]
  exact foldl_takeField_all {} o

/-! ## The round trip -/

/-- The mapping that the options in a value are written as. -/
def canonical? (value : Json) : Except DecodeError Json := (ofJson value).map toJson

/-- Every record of options is reached by changes from the default one, and it is read
back from its mapping and from the list of its fields; writing what was read from any
value gives a form that reading and writing leave as it is. -/
theorem read_back_written (o : Options) :
    (∃ changes : List Change, changes.foldl apply {} = o) ∧
      ofJson o.toJson = .ok o ∧ ofJson (.arr o.items) = .ok o ∧
      ∀ value, (canonical? value).bind canonical? = canonical? value := by
  refine ⟨⟨o.changes, o.foldl_changes⟩, ofJson_toJson o, ofJson_items o, ?_⟩
  intro value
  cases read : ofJson value with
  | error fault =>
    rw [canonical?, read]
    rfl
  | ok found =>
    have again : canonical? found.toJson = .ok found.toJson := by
      rw [canonical?, ofJson_toJson]
      rfl
    rw [canonical?, read]
    exact again

end Options

end SearchQuery
