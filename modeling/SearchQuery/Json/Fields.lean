/-!
# Fields in key order

The fields of an object are kept in ascending order of their keys, code point by
code point, each key once. The order is part of the type: `Fields α low` holds
keys above `low` only, so equal contents are equal values and no operation has
to restore the order. A whole object is a `Fields α none`.
-/

namespace SearchQuery

/-- The key lies above the bound, if there is one. -/
def Exceeds : Option String → String → Prop
  | none, _ => True
  | some low, key => low < key

inductive Fields (α : Type) : Option String → Type where
  | nil {low : Option String} : Fields α low
  | cons {low : Option String} (key : String) (above : Exceeds low key) (value : α)
      (rest : Fields α (some key)) : Fields α low

namespace Fields

variable {α : Type}

theorem exceeds_of_not_lt_of_ne {held key : String} (notBefore : ¬ key < held)
    (different : key ≠ held) : Exceeds (some held) key := by
  rcases Std.lt_trichotomy held key with h | h | h
  · exact h
  · exact absurd h.symm different
  · exact absurd h notBefore

/-- Sets one key, which lies above the bound. -/
def place {low : Option String} (key : String) (above : Exceeds low key) (value : α) :
    Fields α low → Fields α low
  | nil => cons key above value nil
  | cons held heldAbove heldValue rest =>
    if before : key < held then
      cons key above value (cons held before heldValue rest)
    else if same : key = held then
      cons held heldAbove value rest
    else
      cons held heldAbove heldValue
        (rest.place key (exceeds_of_not_lt_of_ne before same) value)

/-- Sets one key: a new value replaces an old one. -/
def insert (fields : Fields α none) (key : String) (value : α) : Fields α none :=
  fields.place key trivial value

/-- Sets one key if there is a value for it. -/
def insertSome (fields : Fields α none) (key : String) : Option α → Fields α none
  | none => fields
  | some value => fields.insert key value

def get? {low : Option String} (key : String) : Fields α low → Option α
  | nil => none
  | cons held _ value rest => if held = key then some value else rest.get? key

def toList {low : Option String} : Fields α low → List (String × α)
  | nil => []
  | cons key _ value rest => (key, value) :: rest.toList

/-- Sets the given keys in turn, so that the last value of a key stays. -/
def extend (fields : Fields α none) (entries : List (String × α)) : Fields α none :=
  entries.foldl (fun built entry => built.insert entry.1 entry.2) fields

def ofList (entries : List (String × α)) : Fields α none := nil.extend entries

def keys {low : Option String} (fields : Fields α low) : List String := fields.toList.map Prod.fst

def first? {low : Option String} : Fields α low → Option (String × α)
  | nil => none
  | cons key _ value _ => some (key, value)

theorem get?_place {low : Option String} (key : String) (above : Exceeds low key) (value : α)
    (fields : Fields α low) (wanted : String) :
    (fields.place key above value).get? wanted =
      if key = wanted then some value else fields.get? wanted := by
  induction fields with
  | nil => simp [place, get?]
  | cons held heldAbove heldValue rest ih =>
    unfold place
    split
    · simp [get?]
    · split
      · rename_i same
        subst same
        simp only [get?]
        split <;> rfl
      · rename_i different
        simp only [get?, ih]
        by_cases h : held = wanted
        · subst h
          simp [different]
        · simp [h]

@[simp] theorem get?_insert (fields : Fields α none) (key : String) (value : α)
    (wanted : String) :
    (fields.insert key value).get? wanted =
      if key = wanted then some value else fields.get? wanted :=
  get?_place key (show Exceeds none key from trivial) value fields wanted

@[simp] theorem get?_nil {low : Option String} (wanted : String) :
    (nil : Fields α low).get? wanted = none := rfl

@[simp] theorem get?_insertSome (fields : Fields α none) (key : String) (value : Option α)
    (wanted : String) :
    (fields.insertSome key value).get? wanted =
      if key = wanted then value.or (fields.get? wanted) else fields.get? wanted := by
  cases value with
  | none => simp [insertSome]
  | some value => simp [insertSome]

theorem exceeds_of_get? {low : Option String} {fields : Fields α low} {key : String} {value : α}
    (found : fields.get? key = some value) : Exceeds low key := by
  induction fields with
  | nil => cases found
  | @cons low held above heldValue rest ih =>
    simp only [get?] at found
    split at found
    · rename_i same
      exact same ▸ above
    · have later : held < key := ih found
      cases low with
      | none => trivial
      | some bound => exact String.lt_trans (show bound < held from above) later

/-- A key is found once only, so what stands behind it in key order is out of reach. -/
theorem get?_own {key : String} (fields : Fields α (some key)) : fields.get? key = none := by
  cases found : fields.get? key with
  | none => rfl
  | some value => exact absurd (exceeds_of_get? found) (String.lt_irrefl key)

/-- The keys are those that something is found under. -/
theorem mem_keys_iff {low : Option String} {fields : Fields α low} {wanted : String} :
    wanted ∈ fields.keys ↔ (fields.get? wanted).isSome = true := by
  induction fields with
  | nil => simp [keys, toList]
  | cons key above value rest ih =>
    have listed : (cons key above value rest).keys = key :: rest.keys := rfl
    rw [listed, List.mem_cons, get?, ih]
    by_cases own : key = wanted
    · simp [own]
    · simp [own, Ne.symm own]

theorem get?_of_not_mem_keys {low : Option String} {fields : Fields α low} {wanted : String}
    (absent : wanted ∉ fields.keys) : fields.get? wanted = none := by
  rw [mem_keys_iff] at absent
  exact Option.not_isSome_iff_eq_none.mp absent

/-- Fields that have the same keys have the same first key. -/
theorem firstKey_eq {low : Option String} {key other : String} {above : Exceeds low key}
    {otherAbove : Exceeds low other} {value otherValue : α} {rest : Fields α (some key)}
    {others : Fields α (some other)}
    (sameKeys : ∀ wanted, ((cons key above value rest).get? wanted).isSome =
      ((cons other otherAbove otherValue others).get? wanted).isSome) : key = other := by
  apply Classical.byContradiction
  intro different
  have mine : (others.get? key).isSome = true := by
    simpa [get?, Ne.symm different] using (sameKeys key).symm
  have yours : (rest.get? other).isSome = true := by
    simpa [get?, different] using sameKeys other
  obtain ⟨_, found⟩ := Option.isSome_iff_exists.mp mine
  obtain ⟨_, found'⟩ := Option.isSome_iff_exists.mp yours
  have before : key < other := exceeds_of_get? found'
  exact String.lt_irrefl _ (String.lt_trans before (exceeds_of_get? found))

/-- The look-ups determine the fields, since there is one order only. -/
theorem eq_of_get? {low : Option String} {a b : Fields α low}
    (equal : ∀ key, a.get? key = b.get? key) : a = b := by
  induction a with
  | nil =>
    cases b with
    | nil => rfl
    | cons key above value rest => simpa [get?] using equal key
  | cons key above value rest ih =>
    cases b with
    | nil => simpa [get?] using equal key
    | cons other otherAbove otherValue others =>
      have sameKey : key = other := firstKey_eq fun wanted => congrArg Option.isSome (equal wanted)
      subst sameKey
      have sameValue : value = otherValue := by simpa [get?] using equal key
      have sameRest : rest = others := by
        apply ih
        intro wanted
        by_cases own : key = wanted
        · rw [← own, get?_own, get?_own]
        · simpa [get?, own] using equal wanted
      rw [sameValue, sameRest]

@[simp] theorem extend_nil (fields : Fields α none) : fields.extend [] = fields := rfl

@[simp] theorem extend_cons (fields : Fields α none) (key : String) (value : α)
    (entries : List (String × α)) :
    fields.extend ((key, value) :: entries) = (fields.insert key value).extend entries := rfl

theorem extend_append (fields : Fields α none) (entries others : List (String × α)) :
    fields.extend (entries ++ others) = (fields.extend entries).extend others :=
  List.foldl_append

/-- A key that is not set again keeps its value. -/
theorem get?_extend_of_absent (fields : Fields α none) {entries : List (String × α)}
    {wanted : String} (absent : ∀ entry ∈ entries, entry.1 ≠ wanted) :
    (fields.extend entries).get? wanted = fields.get? wanted := by
  induction entries generalizing fields with
  | nil => rfl
  | cons entry rest ih =>
    obtain ⟨first, others⟩ := List.forall_mem_cons.mp absent
    obtain ⟨key, value⟩ := entry
    rw [extend_cons, ih _ others, get?_insert, if_neg first]

/-- Merging a mapping: its own fields stand, and the others stay as they were. -/
theorem get?_extend_toList {low : Option String} (fields : Fields α none)
    (added : Fields α low) (wanted : String) :
    (fields.extend added.toList).get? wanted = (added.get? wanted).or (fields.get? wanted) := by
  induction added generalizing fields with
  | nil => simp [toList]
  | cons key above value rest ih =>
    simp only [toList, extend_cons, ih, get?_insert, get?]
    by_cases h : key = wanted
    · subst h
      simp [get?_own]
    · simp [h]

theorem ofList_toList (fields : Fields α none) : ofList fields.toList = fields := by
  apply eq_of_get?
  intro key
  rw [ofList, get?_extend_toList, get?_nil, Option.or_none]

theorem get?_extend (fields : Fields α none) (entries : List (String × α)) (wanted : String) :
    (fields.extend entries).get? wanted =
      ((ofList entries).get? wanted).or (fields.get? wanted) := by
  induction entries generalizing fields with
  | nil => rfl
  | cons entry rest ih =>
    obtain ⟨key, value⟩ := entry
    rw [ofList, extend_cons, extend_cons, ih, ih (nil.insert key value), get?_insert, get?_insert]
    by_cases own : key = wanted
    · simp [own]
    · simp [own]

/-- It is the same to set keys in turn and to merge a mapping made by setting them. -/
theorem extend_toList_ofList (fields : Fields α none) (entries : List (String × α)) :
    fields.extend (ofList entries).toList = fields.extend entries := by
  apply eq_of_get?
  intro key
  rw [get?_extend_toList, get?_extend]

end Fields

end SearchQuery
