import SearchQuery.Json.Shape

/-!
# Equality of values

The two zeros of doubles are one value and two terms, and nothing else is. On
values whose numbers are all integers, `same` is therefore identity: a test that
says two of them are equal loses no difference between them. Equal values of any kind
have one shape: the same depth, the same keys, and equal values under them.
-/

namespace SearchQuery

namespace Json

mutual

/-- Every number in the value is an integer. -/
def Integral : Json → Prop
  | num (.int _ _) => True
  | num (.real _) => False
  | arr items => ItemsIntegral items
  | obj fields => FieldsIntegral fields
  | _ => True
termination_by structural value => value

def ItemsIntegral : List Json → Prop
  | [] => True
  | item :: rest => item.Integral ∧ ItemsIntegral rest
termination_by structural items => items

def FieldsIntegral {low : Option String} : Fields Json low → Prop
  | .nil => True
  | .cons _ _ value rest => value.Integral ∧ FieldsIntegral rest
termination_by structural fields => fields

end

mutual

theorem eq_of_same : ∀ {a b : Json}, a.Integral → a.same b = true → a = b
  | null, b, _, h => by cases b <;> simp_all [same]
  | bool x, b, _, h => by cases b <;> simp_all [same]
  | num (.int x _), b, _, h => by
    cases b with
    | num y => cases y <;> simp_all [same, Number.same]
    | _ => simp [same] at h
  | num (.real x), b, integral, _ => by simp [Integral] at integral
  | str x, b, _, h => by cases b <;> simp_all [same]
  | arr items, b, integral, h => by
    cases b with
    | arr others =>
      simp only [same] at h
      simp only [Integral] at integral
      rw [eq_of_sameItems integral h]
    | _ => simp [same] at h
  | obj fields, b, integral, h => by
    cases b with
    | obj others =>
      simp only [same] at h
      simp only [Integral] at integral
      rw [eq_of_sameFields integral h]
    | _ => simp [same] at h

theorem eq_of_sameItems : ∀ {as bs : List Json}, ItemsIntegral as →
    sameItems as bs = true → as = bs
  | [], bs, _, h => by cases bs <;> simp_all [sameItems]
  | a :: as, bs, integral, h => by
    cases bs with
    | nil => simp [sameItems] at h
    | cons b bs =>
      simp only [ItemsIntegral] at integral
      simp only [sameItems, Bool.and_eq_true] at h
      rw [eq_of_same integral.1 h.1, eq_of_sameItems integral.2 h.2]

theorem eq_of_sameFields : ∀ {low : Option String} {as bs : Fields Json low},
    FieldsIntegral as → sameFields as bs = true → as = bs
  | _, .nil, bs, _, h => by cases bs <;> simp_all [sameFields]
  | _, .cons key above a as, bs, integral, h => by
    cases bs with
    | nil => simp [sameFields] at h
    | cons key' above' b bs =>
      simp only [FieldsIntegral] at integral
      simp only [sameFields, Bool.and_eq_true, beq_iff_eq] at h
      obtain ⟨⟨rfl, first⟩, others⟩ := h
      rw [eq_of_same integral.1 first, eq_of_sameFields integral.2 others]

end

mutual

theorem same_self : ∀ a : Json, a.same a = true
  | null => rfl
  | bool _ => by simp [same]
  | num (.int _ _) => by simp [same, Number.same]
  | num (.real _) => by simp [same, Number.same, Binary64.same]
  | str _ => by simp [same]
  | arr items => by simp only [same, sameItems_self items]
  | obj fields => by simp only [same, sameFields_self fields]

theorem sameItems_self : ∀ items : List Json, sameItems items items = true
  | [] => rfl
  | item :: rest => by simp only [sameItems, same_self item, sameItems_self rest, Bool.and_self]

theorem sameFields_self : ∀ {low : Option String} (fields : Fields Json low),
    sameFields fields fields = true
  | _, .nil => rfl
  | _, .cons key _ value rest => by
    simp only [sameFields, beq_self_eq_true, same_self value, sameFields_self rest, Bool.and_self]

end

/-- Without doubles equality of values is identity. -/
theorem same_iff_eq {a b : Json} (integral : a.Integral) : a.same b = true ↔ a = b := by
  constructor
  · exact eq_of_same integral
  · rintro rfl
    exact same_self a

theorem length_eq_of_sameItems : ∀ {as bs : List Json},
    sameItems as bs = true → as.length = bs.length
  | [], [], _ => rfl
  | [], _ :: _, h => by simp [sameItems] at h
  | _ :: _, [], h => by simp [sameItems] at h
  | a :: as, b :: bs, h => by
    simp only [sameItems, Bool.and_eq_true] at h
    rw [List.length_cons, List.length_cons, length_eq_of_sameItems h.2]

/-! ## What equal values share -/

theorem exists_same_of_mem : ∀ {as bs : List Json}, sameItems as bs = true →
    ∀ a ∈ as, ∃ b ∈ bs, a.same b = true
  | [], _, _, _, member => by cases member
  | _ :: _, [], h, _, _ => by simp [sameItems] at h
  | first :: as, other :: bs, h, a, member => by
    simp only [sameItems, Bool.and_eq_true] at h
    rcases List.mem_cons.mp member with rfl | later
    · exact ⟨other, List.mem_cons_self, h.1⟩
    · obtain ⟨b, found, same⟩ := exists_same_of_mem h.2 a later
      exact ⟨b, List.mem_cons_of_mem other found, same⟩

/-- Equal objects have the same keys, and equal values under them. -/
theorem get?_of_sameFields (key : String) : ∀ {low low' : Option String}
    {as : Fields Json low} {bs : Fields Json low'}, sameFields as bs = true →
      (as.get? key = none ∧ bs.get? key = none) ∨
        ∃ a b, as.get? key = some a ∧ bs.get? key = some b ∧ a.same b = true
  | _, _, .nil, .nil, _ => Or.inl ⟨rfl, rfl⟩
  | _, _, .nil, .cons _ _ _ _, h => by simp [sameFields] at h
  | _, _, .cons _ _ _ _, .nil, h => by simp [sameFields] at h
  | _, _, .cons held _ a as, .cons held' _ b bs, h => by
    simp only [sameFields, Bool.and_eq_true, beq_iff_eq] at h
    obtain ⟨⟨rfl, first⟩, others⟩ := h
    by_cases own : held = key
    · exact Or.inr ⟨a, b, if_pos own, if_pos own, first⟩
    · simpa only [Fields.get?, if_neg own] using get?_of_sameFields key others

theorem isNull_of_same {a b : Json} (h : a.same b = true) : a.isNull = b.isNull := by
  cases a <;> cases b <;> simp_all [same, isNull]

theorem isMapping_of_same {a b : Json} (h : a.same b = true) : a.isMapping = b.isMapping := by
  cases a <;> cases b <;> simp_all [same, isMapping]

theorem field?_of_same {a b : Json} (h : a.same b = true) (key : String) :
    (a.field? key = none ∧ b.field? key = none) ∨
      ∃ x y, a.field? key = some x ∧ b.field? key = some y ∧ x.same y = true := by
  cases a with
  | obj fields =>
    cases b with
    | obj others =>
      rw [same] at h
      exact get?_of_sameFields key h
    | _ => simp [same] at h
  | _ =>
    cases b with
    | obj others => simp [same] at h
    | _ => exact Or.inl ⟨rfl, rfl⟩

theorem hasField_of_same {a b : Json} (h : a.same b = true) (key : String) :
    a.hasField key = b.hasField key := by
  rcases field?_of_same h key with ⟨none, none'⟩ | ⟨x, y, found, found', equal⟩
  · rw [hasField, hasField, none, none']
  · rw [hasField, hasField, found, found', Option.any_some, Option.any_some,
      isNull_of_same equal]

theorem same_of_field? {a b x y : Json} {key : String} (h : a.same b = true)
    (left : a.field? key = some x) (right : b.field? key = some y) : x.same y = true := by
  rcases field?_of_same h key with ⟨missing, -⟩ | ⟨x', y', found, found', equal⟩
  · rw [missing] at left
    cases left
  · cases left.symm.trans found
    cases right.symm.trans found'
    exact equal

/-! ## Equal values are equally deep -/

mutual

theorem depth_of_same : ∀ {a b : Json}, a.same b = true → a.depth = b.depth
  | null, b, h => by cases b <;> simp_all [same, depth]
  | bool _, b, h => by cases b <;> simp_all [same, depth]
  | num _, b, h => by cases b <;> simp_all [same, depth]
  | str _, b, h => by cases b <;> simp_all [same, depth]
  | arr items, b, h => by
    cases b with
    | arr others =>
      rw [same] at h
      rw [depth, depth, itemsDepth_of_sameItems h]
    | _ => simp [same] at h
  | obj fields, b, h => by
    cases b with
    | obj others =>
      rw [same] at h
      rw [depth, depth, fieldsDepth_of_sameFields h]
    | _ => simp [same] at h

theorem itemsDepth_of_sameItems : ∀ {as bs : List Json}, sameItems as bs = true →
    itemsDepth as = itemsDepth bs
  | [], bs, h => by cases bs <;> simp_all [sameItems]
  | a :: as, bs, h => by
    cases bs with
    | nil => simp [sameItems] at h
    | cons b bs =>
      simp only [sameItems, Bool.and_eq_true] at h
      rw [itemsDepth, itemsDepth, depth_of_same h.1, itemsDepth_of_sameItems h.2]

theorem fieldsDepth_of_sameFields : ∀ {low low' : Option String}
    {as : Fields Json low} {bs : Fields Json low'}, sameFields as bs = true →
      fieldsDepth as = fieldsDepth bs
  | _, _, .nil, bs, h => by cases bs <;> simp_all [sameFields, fieldsDepth]
  | _, _, .cons key _ a as, bs, h => by
    cases bs with
    | nil => simp [sameFields] at h
    | cons key' _ b bs =>
      simp only [sameFields, Bool.and_eq_true] at h
      rw [fieldsDepth, fieldsDepth, depth_of_same h.1.2, fieldsDepth_of_sameFields h.2]

end

/-- The items of an array are never that array alone. -/
theorem not_sameItems_own_array (items : List Json) : ¬ sameItems [.arr items] items = true := by
  intro h
  have depths : itemsDepth [.arr items] = itemsDepth items := itemsDepth_of_sameItems h
  simp only [itemsDepth, depth] at depths
  omega

/-! ## What is inside a value is less deep -/

theorem depth_le_itemsDepth : ∀ {items : List Json} {item : Json}, item ∈ items →
    item.depth ≤ itemsDepth items
  | [], _, member => by cases member
  | first :: rest, item, member => by
    rw [itemsDepth]
    rcases List.mem_cons.mp member with rfl | later
    · exact Nat.le_max_left _ _
    · exact Nat.le_trans (depth_le_itemsDepth later) (Nat.le_max_right _ _)

theorem not_mem_own_items (items : List Json) : Json.arr items ∉ items := by
  intro member
  have deep := depth_le_itemsDepth member
  rw [depth] at deep
  omega

theorem depth_le_fieldsDepth {key : String} {value : Json} :
    ∀ {low : Option String} {fields : Fields Json low}, fields.get? key = some value →
      value.depth ≤ fieldsDepth fields
  | _, .nil, found => by cases found
  | _, .cons held _ first rest, found => by
    rw [fieldsDepth]
    by_cases own : held = key
    · rw [Fields.get?, if_pos own] at found
      cases found
      exact Nat.le_max_left _ _
    · rw [Fields.get?, if_neg own] at found
      exact Nat.le_trans (depth_le_fieldsDepth found) (Nat.le_max_right _ _)

theorem ne_of_field? {value field : Json} {key : String} (found : value.field? key = some field) :
    field ≠ value := by
  rintro rfl
  cases field with
  | obj fields =>
    have deep := depth_le_fieldsDepth (show fields.get? key = some (.obj fields) from found)
    rw [depth] at deep
    omega
  | _ => cases found

/-! ## Texts and objects -/

theorem texts_inj {as bs : List String} (h : arr (as.map str) = arr (bs.map str)) : as = bs :=
  (List.map_inj_right fun _ _ equal => str.inj equal).mp (arr.inj h)

theorem field?_object_single (key : String) (value : Json) :
    (object [(key, value)]).field? key = some value := by
  simp [object, Fields.ofList, field?]

theorem object_single_inj {key key' : String} {value value' : Json}
    (h : object [(key, value)] = object [(key', value')]) : key = key' ∧ value = value' := by
  have fields := obj.inj h
  obtain ⟨keys, values, -⟩ := Fields.cons.inj fields
  exact ⟨keys, values⟩

theorem object_pair_inj {key other : String} {a b a' b' : Json} (different : key ≠ other)
    (h : object [(key, a), (other, b)] = object [(key, a'), (other, b')]) :
    a = a' ∧ b = b' := by
  have found : ∀ a b : Json, (object [(key, a), (other, b)]).field? key = some a ∧
      (object [(key, a), (other, b)]).field? other = some b := by
    intro a b
    simp [object, Fields.ofList, field?, Ne.symm different]
  have first := (found a b).1
  have second := (found a b).2
  rw [h, (found a' b').1] at first
  rw [h, (found a' b').2] at second
  exact ⟨(Option.some.inj first).symm, (Option.some.inj second).symm⟩

theorem fieldsIntegral_place {low : Option String} {key : String} {value : Json}
    (above : Exceeds low key) (integral : value.Integral) {fields : Fields Json low}
    (others : FieldsIntegral fields) : FieldsIntegral (fields.place key above value) := by
  induction fields with
  | nil => exact ⟨integral, trivial⟩
  | cons held heldAbove heldValue rest ih =>
    rw [Fields.place]
    split
    · exact ⟨integral, others⟩
    · split
      · exact ⟨integral, others.2⟩
      · exact ⟨others.1, ih _ others.2⟩

theorem integral_object {entries : List (String × Json)}
    (integral : ∀ entry ∈ entries, entry.2.Integral) : (object entries).Integral := by
  have extended : ∀ fields : Fields Json none, FieldsIntegral fields →
      FieldsIntegral (fields.extend entries) := by
    induction entries with
    | nil => exact fun _ others => others
    | cons entry rest ih =>
      intro fields others
      obtain ⟨first, later⟩ := List.forall_mem_cons.mp integral
      exact ih later _ (fieldsIntegral_place (show Exceeds none entry.1 from trivial) first others)
  exact extended .nil trivial

theorem itemsIntegral_texts (texts : List String) : ItemsIntegral (texts.map str) := by
  induction texts with
  | nil => trivial
  | cons text rest ih => exact ⟨trivial, ih⟩

end Json

end SearchQuery
