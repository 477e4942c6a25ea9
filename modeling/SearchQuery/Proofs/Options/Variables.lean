import SearchQuery.Proofs.Options.Environment
import SearchQuery.Proofs.Options.RoundTrip

/-!
# Loading one variable after the other

Loading passes over the fields once and reads the variable of each. A step fails by the text
of its own variable alone, whatever was read before it, so the failure of a whole run is the
first one on the way. A step that does not fail sets its own field from its own variable, so
the loaded fields do not depend on one another. How the texts themselves are read is left
open here.
-/

namespace SearchQuery

namespace OptionField

/-- The variable that sets the field. -/
def variableName : OptionField → String
  | pageLength => "SQ_PAGE_LENGTH"
  | returnQuery => "SQ_RETURN_QUERY"
  | returnResults => "SQ_RETURN_RESULTS"
  | returnFacets => "SQ_RETURN_FACETS"
  | debug => "SQ_DEBUG"
  | searchOptions => "SQ_SEARCH_OPTIONS"

theorem mem_all (field : OptionField) : field ∈ all := by
  cases field <;> decide

theorem variableName_inj {field other : OptionField} :
    field.variableName = other.variableName ↔ field = other := by
  cases field <;> cases other <;> decide

/-- The field cannot be read from the text, for this reason. Entries can be read from any. -/
def Refuses (field : OptionField) (text : String) (fault : SettingFault) : Prop :=
  match field with
  | pageLength => Options.readPageLength text = .error fault
  | searchOptions => False
  | _ => Options.readSwitch text = .error fault

end OptionField

/-- The variable of the field is set to a text that is refused for this reason. -/
def Environment.Refuses (env : Environment) (field : OptionField) (fault : SettingFault) : Prop :=
  ∃ text, env field.variableName = some text ∧ field.Refuses text fault

/-- The failure of the first field, in this order, whose variable is refused. -/
inductive Environment.FirstRefused (env : Environment) : List OptionField → ConfigError → Prop where
  | here {field : OptionField} {rest : List OptionField} {fault : SettingFault}
      (refused : env.Refuses field fault) :
      env.FirstRefused (field :: rest) ⟨field.variableName, fault⟩
  | later {field : OptionField} {rest : List OptionField} {e : ConfigError}
      (accepted : ∀ fault, ¬ env.Refuses field fault) (found : env.FirstRefused rest e) :
      env.FirstRefused (field :: rest) e

theorem Environment.FirstRefused.refused {env : Environment} {fields : List OptionField}
    {e : ConfigError} (first : env.FirstRefused fields e) :
    ∃ field fault, env.Refuses field fault ∧ e = ⟨field.variableName, fault⟩ := by
  induction first with
  | here refused => exact ⟨_, _, refused, rfl⟩
  | later _ _ ih => exact ih

namespace Options

variable {env : Environment} {o : Options} {field : OptionField} {text : String}

/-! ## One step -/

/-- These options with one field as a text of its variable says. -/
def readField (o : Options) (text : String) : OptionField → Except SettingFault Options
  | .pageLength => (readPageLength text).map o.withPageLength
  | .returnQuery => (readSwitch text).map o.withReturnQuery
  | .returnResults => (readSwitch text).map o.withReturnResults
  | .returnFacets => (readSwitch text).map o.withReturnFacets
  | .debug => (readSwitch text).map o.withDebug
  | .searchOptions => .ok { o with searchOptions := readEntries text }

/-- These options with one field as its variable says, if that is set. -/
def readVariable (env : Environment) (o : Options) (field : OptionField) :
    Except ConfigError Options :=
  match env field.variableName with
  | none => .ok o
  | some text => (o.readField text field).mapError fun fault => ⟨field.variableName, fault⟩

theorem mapError_eq_error {ε ε' α : Type} {first : Except ε α} {f : ε → ε'} {e : ε'} :
    first.mapError f = .error e ↔ ∃ fault, first = .error fault ∧ e = f fault := by
  cases first with
  | error fault =>
    show Except.error (f fault) = .error e ↔ _
    simp [eq_comm]
  | ok value =>
    show Except.ok value = .error e ↔ _
    simp

theorem readField_eq_error (o : Options) {fault : SettingFault} :
    o.readField text field = .error fault ↔ field.Refuses text fault := by
  cases field with
  | searchOptions => simp [readField, OptionField.Refuses]
  | _ => simp only [readField, OptionField.Refuses, map_eq_error]

/-- What was read before makes no difference to whether a variable is refused. -/
theorem readVariable_eq_error (o : Options) {e : ConfigError} :
    readVariable env o field = .error e ↔
      ∃ fault, env.Refuses field fault ∧ e = ⟨field.variableName, fault⟩ := by
  simp only [readVariable, Environment.Refuses]
  cases env field.variableName with
  | none => simp
  | some text => simp [mapError_eq_error, readField_eq_error]

/-- A step that sets a field which was unset passes on what the variable holds. -/
theorem foldlM_readVariable_cons {α : Type} {rest : List OptionField}
    {read : String → Except SettingFault α} (write : Option α → Options)
    (own : ∀ text, (write none).readField text field = (read text).map fun v => write (some v)) :
    (field :: rest).foldlM (readVariable env) (write none) =
      setting env field.variableName read >>= fun value =>
        rest.foldlM (readVariable env) (write value) := by
  have step : readVariable env (write none) field =
      write <$> setting env field.variableName read := by
    rw [readVariable, setting]
    cases env field.variableName with
    | none => rfl
    | some text =>
      dsimp only
      rw [own]
      cases read text <;> rfl
  rw [List.foldlM_cons, step, bind_map_left]

/-- Loading is one pass over the fields. -/
theorem ofEnvironment_eq_foldlM (env : Environment) :
    ofEnvironment env = OptionField.all.foldlM (readVariable env) {} := by
  symm
  refine (foldlM_readVariable_cons (fun v => { pageLength := v }) fun _ => rfl).trans
    (bind_congr fun pageLength => ?_)
  refine (foldlM_readVariable_cons (fun v => { pageLength, returnQuery := v }) fun _ => rfl).trans
    (bind_congr fun returnQuery => ?_)
  refine (foldlM_readVariable_cons (fun v => { pageLength, returnQuery, returnResults := v })
    fun _ => rfl).trans (bind_congr fun returnResults => ?_)
  refine (foldlM_readVariable_cons
    (fun v => { pageLength, returnQuery, returnResults, returnFacets := v })
    fun _ => rfl).trans (bind_congr fun returnFacets => ?_)
  refine (foldlM_readVariable_cons
    (fun v => { pageLength, returnQuery, returnResults, returnFacets, debug := v })
    fun _ => rfl).trans (bind_congr fun debug => ?_)
  rw [List.foldlM_cons, readVariable, show OptionField.searchOptions.variableName =
    "SQ_SEARCH_OPTIONS" from rfl]
  cases env "SQ_SEARCH_OPTIONS" <;> rfl

/-! ## The first failure -/

/-- A pass over some fields fails at the first of them whose variable is refused. -/
theorem foldlM_readVariable_eq_error {fields : List OptionField} {e : ConfigError} :
    fields.foldlM (readVariable env) o = .error e ↔ env.FirstRefused fields e := by
  induction fields generalizing o with
  | nil =>
    constructor
    · intro failed
      cases failed
    · intro refused
      cases refused
  | cons field rest ih =>
    rw [List.foldlM_cons]
    constructor
    · intro failed
      cases step : readVariable env o field with
      | error e' =>
        obtain ⟨fault, refused, rfl⟩ := (readVariable_eq_error o).mp step
        rw [step] at failed
        cases failed
        exact .here refused
      | ok next =>
        have accepted : ∀ fault, ¬ env.Refuses field fault := by
          intro fault refused
          have failure := (readVariable_eq_error o).mpr ⟨fault, refused, rfl⟩
          rw [step] at failure
          cases failure
        rw [step] at failed
        exact .later accepted (ih.mp failed)
    · intro refused
      cases refused with
      | here refused =>
        rw [(readVariable_eq_error o).mpr ⟨_, refused, rfl⟩]
        rfl
      | later accepted found =>
        cases step : readVariable env o field with
        | error e' =>
          obtain ⟨fault, refused, -⟩ := (readVariable_eq_error o).mp step
          exact absurd refused (accepted fault)
        | ok next => exact ih.mpr found

theorem ofEnvironment_eq_error {e : ConfigError} :
    ofEnvironment env = .error e ↔ env.FirstRefused OptionField.all e := by
  rw [ofEnvironment_eq_foldlM, foldlM_readVariable_eq_error]

/-- A pass fails exactly if some variable on its way is refused. -/
theorem exists_firstRefused {fields : List OptionField} :
    (∃ e, env.FirstRefused fields e) ↔ ∃ field ∈ fields, ∃ fault, env.Refuses field fault := by
  constructor
  · rintro ⟨e, first⟩
    induction first with
    | here refused => exact ⟨_, List.mem_cons_self, _, refused⟩
    | later _ _ ih =>
      obtain ⟨field, member, refused⟩ := ih
      exact ⟨field, List.mem_cons_of_mem _ member, refused⟩
  · rintro ⟨field, member, fault, refused⟩
    induction fields with
    | nil => cases member
    | cons head rest ih =>
      by_cases first : ∃ fault', env.Refuses head fault'
      · obtain ⟨fault', refused'⟩ := first
        exact ⟨_, .here refused'⟩
      · rcases List.mem_cons.mp member with rfl | later
        · exact absurd ⟨fault, refused⟩ first
        · obtain ⟨e, found⟩ := ih later
          exact ⟨e, .later (fun fault' refused' => first ⟨fault', refused'⟩) found⟩

theorem exists_ofEnvironment_error :
    (∃ e, ofEnvironment env = .error e) ↔ ∃ field fault, env.Refuses field fault := by
  simp only [ofEnvironment_eq_error, exists_firstRefused, OptionField.mem_all, true_and]

theorem exists_ofEnvironment_ok (accepted : ∀ field fault, ¬ env.Refuses field fault) :
    ∃ o, ofEnvironment env = .ok o := by
  cases loaded : ofEnvironment env with
  | ok o => exact ⟨o, rfl⟩
  | error e =>
    obtain ⟨field, fault, refused⟩ := exists_ofEnvironment_error.mp ⟨e, loaded⟩
    exact absurd refused (accepted field fault)

/-! ## The loaded fields -/

theorem setting_eq_ok {α : Type} {key : String} {read : String → Except SettingFault α}
    {value : Option α} :
    setting env key read = .ok value ↔
      Option.Rel (fun text found => read text = .ok found) (env key) value := by
  rw [setting]
  cases env key with
  | none => cases value <;> simp
  | some text => cases parsed : read text <;> cases value <;> simp [parsed]

theorem map_read_of_setting {α : Type} {key : String} {read : String → Except SettingFault α}
    {value : Option α} (write : Option α → Options) (found : setting env key read = .ok value)
    (set : env key = some text) :
    ((read text).map fun v => write (some v)) = .ok (write value) := by
  rw [setting_eq_ok, set] at found
  cases found with
  | some parsed =>
    rw [parsed]
    rfl

/-- A field that was loaded from a text is what this text gives by itself. -/
theorem readField_of_loaded (o : Options) {loaded : Options} (done : ofEnvironment env = .ok loaded)
    (set : env field.variableName = some text) :
    o.readField text field = .ok (o.takeField loaded field) := by
  obtain ⟨pageLength, returnQuery, returnResults, returnFacets, debug, entries⟩ :=
    ofEnvironment_eq_ok.mp done
  cases field <;> rw [readField, takeField]
  case pageLength => exact map_read_of_setting (fun v => { o with pageLength := v }) pageLength set
  case returnQuery => exact map_read_of_setting (fun v => { o with returnQuery := v }) returnQuery set
  case returnResults =>
    exact map_read_of_setting (fun v => { o with returnResults := v }) returnResults set
  case returnFacets =>
    exact map_read_of_setting (fun v => { o with returnFacets := v }) returnFacets set
  case debug => exact map_read_of_setting (fun v => { o with debug := v }) debug set
  case searchOptions =>
    have given : env "SQ_SEARCH_OPTIONS" = some text := set
    rw [given] at entries
    rw [← entries]
    rfl

theorem eq_none_of_setting {α : Type} {key : String} {read : String → Except SettingFault α}
    {value : Option α} (found : setting env key read = .ok value) (unset : env key = none) :
    value = none := by
  rw [setting_eq_ok, unset] at found
  cases found
  rfl

/-- A field whose variable is not set is loaded as it is in options that nothing was set in. -/
theorem takeField_of_unset {loaded : Options} (done : ofEnvironment env = .ok loaded)
    (unset : env field.variableName = none) : ({} : Options).takeField loaded field = {} := by
  obtain ⟨pageLength, returnQuery, returnResults, returnFacets, debug, entries⟩ :=
    ofEnvironment_eq_ok.mp done
  cases field with
  | pageLength => rw [takeField, eq_none_of_setting pageLength unset]
  | returnQuery => rw [takeField, eq_none_of_setting returnQuery unset]
  | returnResults => rw [takeField, eq_none_of_setting returnResults unset]
  | returnFacets => rw [takeField, eq_none_of_setting returnFacets unset]
  | debug => rw [takeField, eq_none_of_setting debug unset]
  | searchOptions =>
    have missing : env "SQ_SEARCH_OPTIONS" = none := unset
    rw [missing] at entries
    rw [takeField, ← entries]
    rfl

/-- A field depends on its own variable only. -/
theorem fieldJson_eq_of_variable_eq {env' : Environment} {o' : Options}
    (loaded : ofEnvironment env = .ok o) (loaded' : ofEnvironment env' = .ok o')
    (same : env field.variableName = env' field.variableName) :
    o.fieldJson field = o'.fieldJson field := by
  have taken : ({} : Options).takeField o field = ({} : Options).takeField o' field := by
    cases set : env field.variableName with
    | none => rw [takeField_of_unset loaded set, takeField_of_unset loaded' (same.symm.trans set)]
    | some text =>
      have first := readField_of_loaded {} loaded set
      rw [readField_of_loaded {} loaded' (same.symm.trans set)] at first
      exact (Except.ok.inj first).symm
  have read := congrArg (fun taken => taken.fieldJson field) taken
  simpa only [fieldJson_takeField, if_true] using read

/-! ## One variable changed -/

theorem refuses_withText_own (env : Environment) {fault : SettingFault} :
    (env.withText field.variableName text).Refuses field fault ↔ field.Refuses text fault := by
  rw [Environment.Refuses, Environment.withText_own]
  constructor
  · rintro ⟨_, ⟨⟩, refused⟩
    exact refused
  · exact fun refused => ⟨text, rfl, refused⟩

theorem refuses_withText_other {other : OptionField} {fault : SettingFault}
    (different : other ≠ field) :
    (env.withText field.variableName text).Refuses other fault ↔ env.Refuses other fault := by
  have names : other.variableName ≠ field.variableName :=
    fun equal => different (OptionField.variableName_inj.mp equal)
  rw [Environment.Refuses, Environment.withText_other names, Environment.Refuses]

theorem not_refuses_of_loaded (loaded : ofEnvironment env = .ok o) (field : OptionField)
    (fault : SettingFault) : ¬ env.Refuses field fault := by
  intro refused
  obtain ⟨e, failed⟩ := exists_ofEnvironment_error.mpr ⟨field, fault, refused⟩
  rw [loaded] at failed
  cases failed

theorem fault_unique {fault fault' : SettingFault} (refused : field.Refuses text fault)
    (refused' : field.Refuses text fault') : fault = fault' := by
  have failed := (readField_eq_error {}).mpr refused
  rw [(readField_eq_error {}).mpr refused'] at failed
  exact (Except.error.inj failed).symm

theorem ofEnvironment_withText_of_refused {fault : SettingFault}
    (loaded : ofEnvironment env = .ok o) (refused : field.Refuses text fault) :
    ofEnvironment (env.withText field.variableName text) = .error ⟨field.variableName, fault⟩ := by
  obtain ⟨e, failed⟩ := exists_ofEnvironment_error.mpr
    ⟨field, fault, (refuses_withText_own env).mpr refused⟩
  obtain ⟨first, fault', refused', rfl⟩ := (ofEnvironment_eq_error.mp failed).refused
  by_cases own : first = field
  · subst own
    rw [failed, fault_unique refused ((refuses_withText_own env).mp refused')]
  · have before := (refuses_withText_other own).mp refused'
    exact absurd before (not_refuses_of_loaded loaded first fault')

theorem exists_ofEnvironment_withText (loaded : ofEnvironment env = .ok o)
    (accepted : ∀ fault, ¬ field.Refuses text fault) :
    ∃ o', ofEnvironment (env.withText field.variableName text) = .ok o' := by
  apply exists_ofEnvironment_ok
  intro other fault refused
  by_cases own : other = field
  · subst own
    exact accepted fault ((refuses_withText_own env).mp refused)
  · have before := (refuses_withText_other own).mp refused
    exact not_refuses_of_loaded loaded other fault before

/-- Only the field of the changed variable changes. -/
theorem eq_takeField_of_withText {o' : Options} (loaded : ofEnvironment env = .ok o)
    (loaded' : ofEnvironment (env.withText field.variableName text) = .ok o') :
    o' = o.takeField o' field := by
  apply eq_of_fieldJson
  intro wanted
  rw [fieldJson_takeField]
  split
  · rfl
  · rename_i other
    apply fieldJson_eq_of_variable_eq loaded' loaded
    exact Environment.withText_other fun equal => other (OptionField.variableName_inj.mp equal).symm

/-- Setting one variable to a text amounts to reading its field again from that text, and
this fails as the text does. -/
theorem ofEnvironment_withVariable (loaded : ofEnvironment env = .ok o) (field : OptionField)
    (text : String) :
    ofEnvironment (env.withText field.variableName text) =
      (o.readField text field).mapError fun fault => ⟨field.variableName, fault⟩ := by
  cases read : o.readField text field with
  | error fault =>
    exact ofEnvironment_withText_of_refused loaded ((readField_eq_error o).mp read)
  | ok next =>
    have accepted : ∀ fault, ¬ field.Refuses text fault := by
      intro fault refused
      rw [(readField_eq_error o).mpr refused] at read
      cases read
    obtain ⟨o', loaded'⟩ := exists_ofEnvironment_withText loaded accepted
    have again := readField_of_loaded o loaded' (env.withText_own _ text)
    rw [← eq_takeField_of_withText loaded loaded', read] at again
    rw [loaded', ← Except.ok.inj again]
    rfl

/-! ## All variables -/

theorem load_congr {env' : Environment}
    (same : ∀ field : OptionField, env field.variableName = env' field.variableName) :
    load env = load env' := by
  have steps : readVariable env = readVariable env' := by
    funext o field
    rw [readVariable, readVariable, same]
  rw [load, load, ofEnvironment_eq_foldlM, ofEnvironment_eq_foldlM, steps]

/-- Only the six variables are looked at. Loading fails exactly if one of them is refused, and
the failure is that of the first one in order. Otherwise each field is what its own variable
is read as, and unset where that is; setting one variable to a text that is not refused changes
no other field. Entries are never refused: no text of theirs brings a failure about or hides
one. -/
theorem load_by_variable :
    (∀ env env' : Environment,
      (∀ field : OptionField, env field.variableName = env' field.variableName) →
        load env = load env') ∧
    (∀ env : Environment,
      let result := (load env).result
      ((∃ e, result = .error e) ↔ ∃ field fault, env.Refuses field fault) ∧
      (∀ e, result = .error e ↔ env.FirstRefused OptionField.all e) ∧
      ((∀ field fault, ¬ env.Refuses field fault) →
        ∃ o, result = .ok o ∧
          Option.Rel (fun text n => readPageLength text = .ok n)
            (env "SQ_PAGE_LENGTH") o.pageLength ∧
          Option.Rel (fun text b => readSwitch text = .ok b)
            (env "SQ_RETURN_QUERY") o.returnQuery ∧
          Option.Rel (fun text b => readSwitch text = .ok b)
            (env "SQ_RETURN_RESULTS") o.returnResults ∧
          Option.Rel (fun text b => readSwitch text = .ok b)
            (env "SQ_RETURN_FACETS") o.returnFacets ∧
          Option.Rel (fun text b => readSwitch text = .ok b) (env "SQ_DEBUG") o.debug ∧
          o.searchOptions = ((env "SQ_SEARCH_OPTIONS").map readEntries).getD [])) ∧
    (∀ (env : Environment) (o : Options) (field : OptionField) (text : String),
      (load env).result = .ok o → (∀ fault, ¬ field.Refuses text fault) →
        ∃ o', (load (env.withText field.variableName text)).result = .ok o' ∧
          o' = o.takeField o' field) ∧
    ∀ (env : Environment) (text : String) (e : ConfigError),
      (load (env.withText "SQ_SEARCH_OPTIONS" text)).result = .error e ↔
        (load env).result = .error e := by
  refine ⟨fun env env' => load_congr, ?_, ?_, ?_⟩
  · intro env result
    have read : result = ofEnvironment env := result_load env
    rw [read]
    refine ⟨exists_ofEnvironment_error, fun e => ofEnvironment_eq_error, ?_⟩
    intro accepted
    obtain ⟨o, loaded⟩ := exists_ofEnvironment_ok accepted
    refine ⟨o, loaded, ?_⟩
    obtain ⟨pageLength, returnQuery, returnResults, returnFacets, debug, entries⟩ :=
      ofEnvironment_eq_ok.mp loaded
    exact ⟨setting_eq_ok.mp pageLength, setting_eq_ok.mp returnQuery,
      setting_eq_ok.mp returnResults, setting_eq_ok.mp returnFacets, setting_eq_ok.mp debug,
      entries.symm⟩
  · intro env o field text loaded accepted
    rw [result_load] at loaded
    obtain ⟨o', loaded'⟩ := exists_ofEnvironment_withText loaded accepted
    exact ⟨o', (result_load _).trans loaded', eq_takeField_of_withText loaded loaded'⟩
  · intro env text e
    rw [result_load, result_load, ofEnvironment_withText]
    exact map_eq_error

/-- A switch set beside two other variables changes its own field only. Of two bad texts the
one that is read first is named. -/
theorem load_by_variable_two_refused :
    let env : Environment := fun
      | "SQ_PAGE_LENGTH" => some " +010"
      | "SQ_SEARCH_OPTIONS" => some "a,,"
      | _ => none
    let o : Options := { pageLength := some 10, searchOptions := ["a"] }
    let bad := (env.withText "SQ_DEBUG" "maybe").withText "SQ_RETURN_FACETS" "on"
    load (env.withText "SQ_OTHER" "x") = load env ∧
      (∀ field fault, ¬ env.Refuses field fault) ∧ (load env).result = .ok o ∧
      (∀ fault, ¬ OptionField.debug.Refuses "YES" fault) ∧
      (∃ o', (load (env.withText "SQ_DEBUG" "YES")).result = .ok o' ∧
        o' = o.takeField o' .debug) ∧
      (load bad).result = .error ⟨"SQ_RETURN_FACETS", .notBoolean "on"⟩ := by
  intro env o bad
  obtain ⟨congruent, outcome, changed, -⟩ := load_by_variable
  have unread : load (env.withText "SQ_OTHER" "x") = load env := by
    apply congruent
    intro field
    cases field <;> rfl
  have accepted : ∀ field fault, ¬ env.Refuses field fault := by
    rintro field fault ⟨text, set, refused⟩
    cases field <;> cases set <;> cases refused
  obtain ⟨all, loaded, -⟩ := (outcome env).2.2 accepted
  have own : all = o := Except.ok.inj (loaded.symm.trans rfl)
  rw [own] at loaded
  have yes : ∀ fault, ¬ OptionField.debug.Refuses "YES" fault := fun _ refused => nomatch refused
  have first : bad.FirstRefused OptionField.all ⟨"SQ_RETURN_FACETS", .notBoolean "on"⟩ := by
    refine .later ?_ (.later ?_ (.later ?_ (.here ⟨"on", rfl, rfl⟩)))
    all_goals
      rintro fault ⟨text, set, refused⟩
      cases set <;> cases refused
  exact ⟨unread, accepted, loaded, yes, changed env o .debug "YES" loaded yes,
    ((outcome bad).2.1 _).mpr first⟩

end Options

end SearchQuery
