import SearchQuery.Proofs.Options.Variables

/-!
# The texts that a variable takes

A page length is taken from a numeral below the limit, and a switch from one of six words.
This is said of loading as a whole: one variable is set to a text, in an environment that
loads well otherwise, so whatever goes wrong is the doing of that text.
-/

namespace SearchQuery.Options

open Text (isBlank trim)

variable {env : Environment} {o : Options}

/-! ## One variable set -/

theorem result_load_withText (loaded : (load env).result = .ok o) (field : OptionField)
    (text : String) :
    (load (env.withText field.variableName text)).result =
      (o.readField text field).mapError fun fault => ⟨field.variableName, fault⟩ := by
  rw [result_load] at loaded ⊢
  exact ofEnvironment_withVariable loaded field text

theorem written_eq_ok {α : Type} {read : Except SettingFault α} {write : α → Options}
    {refuse : SettingFault → ConfigError} (injective : Function.Injective write) {value : α} :
    (read.map write).mapError refuse = .ok (write value) ↔ read = .ok value := by
  cases read with
  | error fault => exact iff_of_false nofun nofun
  | ok found =>
    constructor
    · intro same
      rw [injective (Except.ok.inj same)]
    · rintro ⟨⟩
      rfl

theorem exists_written_error {α : Type} {read : Except SettingFault α} {write : α → Options}
    {refuse : SettingFault → ConfigError} :
    (∃ e, (read.map write).mapError refuse = .error e) ↔ ∀ value, read ≠ .ok value := by
  cases read with
  | error fault => exact iff_of_true ⟨refuse fault, rfl⟩ nofun
  | ok found => exact iff_of_false nofun fun refused => refused found rfl

theorem result_load_pageLength (loaded : (load env).result = .ok o) (text : String) :
    (load (env.withText "SQ_PAGE_LENGTH" text)).result =
      ((readPageLength text).map o.withPageLength).mapError fun fault =>
        ⟨"SQ_PAGE_LENGTH", fault⟩ :=
  result_load_withText loaded .pageLength text

/-- The four switches: the variable and the change that it makes. -/
def switches : List (String × (Bool → Change)) :=
  [("SQ_RETURN_QUERY", .returnQuery), ("SQ_RETURN_RESULTS", .returnResults),
    ("SQ_RETURN_FACETS", .returnFacets), ("SQ_DEBUG", .debug)]

theorem result_load_switch (loaded : (load env).result = .ok o) (text : String) :
    ∀ switch ∈ switches, (load (env.withText switch.1 text)).result =
      ((readSwitch text).map fun value => o.apply (switch.2 value)).mapError fun fault =>
        ⟨switch.1, fault⟩ := by
  simp only [switches, List.forall_mem_cons]
  exact ⟨result_load_withText loaded .returnQuery text,
    result_load_withText loaded .returnResults text,
    result_load_withText loaded .returnFacets text, result_load_withText loaded .debug text,
    List.forall_mem_nil _⟩

theorem withPageLength_injective (o : Options) : Function.Injective o.withPageLength := by
  intro n m equal
  exact Option.some.inj (congrArg Options.pageLength equal)

theorem apply_switch_injective (o : Options) :
    ∀ switch ∈ switches, Function.Injective fun value => o.apply (switch.2 value) := by
  simp only [switches, List.forall_mem_cons]
  exact ⟨fun _ _ equal => Option.some.inj (congrArg Options.returnQuery equal),
    fun _ _ equal => Option.some.inj (congrArg Options.returnResults equal),
    fun _ _ equal => Option.some.inj (congrArg Options.returnFacets equal),
    fun _ _ equal => Option.some.inj (congrArg Options.debug equal), List.forall_mem_nil _⟩

/-! ## What is taken -/

theorem exists_pageLength_iff {text : String} {value : Nat} :
    (∃ n : UInt64, n.toNat = value ∧ readPageLength text = .ok n) ↔
      Numeral (trim text.toList) value ∧ value < UInt64.size := by
  constructor
  · rintro ⟨n, rfl, read⟩
    exact ⟨readPageLength_eq_ok.mp read, n.toNat_lt⟩
  · rintro ⟨numeral, small⟩
    have same : (UInt64.ofNat value).toNat = value := UInt64.toNat_ofNat_of_lt' small
    refine ⟨UInt64.ofNat value, same, readPageLength_eq_ok.mpr ?_⟩
    rwa [same]

/-- Around the text of a page length, an optional plus sign and digits that write a number
below the limit, there may be blanks, and nothing else is taken. The message says whether the
text is empty, whether it begins with a number that is out of range already, or else that a
character is wrong. A switch is on or off by three words each, in any case and with blanks
around them, and nothing else is taken. -/
theorem load_text_language (env : Environment) (o : Options) (loaded : (load env).result = .ok o)
    (text : String) :
    let trimmed := trim text.toList
    let page := (load (env.withText "SQ_PAGE_LENGTH" text)).result
    ((∀ value : Nat, (∃ n : UInt64, n.toNat = value ∧ page = .ok (o.withPageLength n)) ↔
        Numeral trimmed value ∧ value < UInt64.size) ∧
      ((∃ e, page = .error e) ↔ ¬ ∃ value, Numeral trimmed value ∧ value < UInt64.size) ∧
      ∀ e, page = .error e → e.key = "SQ_PAGE_LENGTH" ∧
        (e.fault.message = "cannot parse integer from empty string" ↔ trimmed = []) ∧
        (e.fault.message = "number too large to fit in target type" ↔ Overflows trimmed) ∧
        (e.fault.message = "invalid digit found in string" ↔
          trimmed ≠ [] ∧ ¬ Overflows trimmed)) ∧
    ∀ switch ∈ switches,
      let result := (load (env.withText switch.1 text)).result
      (∀ value, result = .ok (o.apply (switch.2 value)) ↔
        String.ofList (lowerCase trimmed) ∈ switchWords value) ∧
      ((∃ e, result = .error e) ↔
        ∀ value, String.ofList (lowerCase trimmed) ∉ switchWords value) ∧
      ∀ (before after : List Char) (other : String), (∀ c ∈ before, isBlank c = true) →
        (∀ c ∈ after, isBlank c = true) →
          lowerCase other.toList = lowerCase (before ++ text.toList ++ after) →
            (load (env.withText switch.1 other)).result = result := by
  intro trimmed page
  refine ⟨?_, ?_⟩
  · have read : page = _ := result_load_pageLength loaded text
    rw [read]
    refine ⟨?_, ?_, ?_⟩
    · intro value
      simp only [written_eq_ok o.withPageLength_injective]
      exact exists_pageLength_iff
    · rw [exists_written_error]
      constructor
      · rintro refused ⟨value, taken⟩
        obtain ⟨n, -, found⟩ := exists_pageLength_iff.mpr taken
        exact refused n found
      · intro untaken n found
        exact untaken ⟨n.toNat, exists_pageLength_iff.mp ⟨n, rfl, found⟩⟩
    · intro e refused
      obtain ⟨fault, failed, rfl⟩ := mapError_eq_error.mp refused
      exact ⟨rfl, readPageLength_message (map_eq_error.mp failed)⟩
  · intro switch member result
    have read : result = _ := result_load_switch loaded text switch member
    rw [read]
    refine ⟨?_, ?_, ?_⟩
    · intro value
      rw [written_eq_ok (o.apply_switch_injective switch member)]
      exact readSwitch_eq_ok
    · rw [exists_written_error]
      exact forall_congr' fun value => not_congr readSwitch_eq_ok
    · intro before after other blankBefore blankAfter same
      rw [result_load_switch loaded other switch member,
        readSwitch_congr blankBefore blankAfter same]

/-- The largest page length, with a sign and a zero in front and blanks around it, and a switch
in mixed case between blanks. -/
theorem load_text_language_limit :
    let env : Environment := fun _ => none
    (load env).result = .ok {} ∧
      (∃ n : UInt64, n.toNat = 18446744073709551615 ∧
        (load (env.withText "SQ_PAGE_LENGTH" "\u3000+018446744073709551615\n")).result =
          .ok { pageLength := some n }) ∧
      (load (env.withText "SQ_DEBUG" "yes")).result = .ok { debug := some true } ∧
      (load (env.withText "SQ_DEBUG" " yEs\t")).result = .ok { debug := some true } := by
  intro env
  have loaded : (load env).result = .ok {} := by rfl
  have digits : ∀ c ∈ "018446744073709551615".toList, c.isDigit = true :=
    List.all_eq_true.mp rfl
  have written : Numeral (trim "\u3000+018446744073709551615\n".toList) 18446744073709551615 :=
    ⟨"018446744073709551615".toList, .inr (by decide), by decide, digits, by decide⟩
  obtain ⟨⟨taken, -⟩, -⟩ := load_text_language env {} loaded "\u3000+018446744073709551615\n"
  have limit := (taken 18446744073709551615).mpr ⟨written, by decide⟩
  obtain ⟨-, switched⟩ := load_text_language env {} loaded "yes"
  obtain ⟨words, -, alike⟩ := switched ("SQ_DEBUG", .debug) (by simp [switches])
  have yes := (words true).mpr (by decide)
  have space : ∀ c ∈ [' '], isBlank c = true := List.forall_mem_singleton.mpr rfl
  have tab : ∀ c ∈ ['\t'], isBlank c = true := List.forall_mem_singleton.mpr rfl
  exact ⟨loaded, limit, yes, (alike [' '] ['\t'] " yEs\t" space tab rfl).trans yes⟩

end SearchQuery.Options
