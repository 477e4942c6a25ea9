import SearchQuery.Text.Blank

/-!
# Trimmed texts

Blanks around a text do not change what trimming leaves. What it leaves neither
begins nor ends with a blank, and a text that does neither is left as it is.
-/

namespace SearchQuery.Text

variable {before cs after : List Char}

/-- No blank at either end; the empty text has no ends. -/
structure VisibleEnds (cs : List Char) : Prop where
  first : ∀ c ∈ cs.head?, isBlank c = false
  last : ∀ c ∈ cs.getLast?, isBlank c = false

/-! ## Padding -/

theorem trimStart_append_left (blank : ∀ c ∈ before, isBlank c = true) :
    trimStart (before ++ cs) = trimStart cs :=
  List.dropWhile_append_of_pos blank

theorem trimStart_eq_nil (blank : ∀ c ∈ cs, isBlank c = true) : trimStart cs = [] := by
  have whole : trimStart (cs ++ []) = trimStart [] := trimStart_append_left blank
  rw [List.append_nil] at whole
  exact whole

theorem trimEnd_append_right (blank : ∀ c ∈ after, isBlank c = true) :
    trimEnd (cs ++ after) = trimEnd cs := by
  have reversed : ∀ c ∈ after.reverse, isBlank c = true := by
    intro c member
    exact blank c (List.mem_reverse.mp member)
  rw [trimEnd, List.reverse_append, List.dropWhile_append_of_pos reversed]
  rfl

theorem trim_padded (blankBefore : ∀ c ∈ before, isBlank c = true)
    (blankAfter : ∀ c ∈ after, isBlank c = true) : trim (before ++ cs ++ after) = trim cs := by
  have start : trimStart (cs ++ after) =
      if (trimStart cs).isEmpty = true then trimStart after else trimStart cs ++ after :=
    List.dropWhile_append
  rw [trim, List.append_assoc, trimStart_append_left blankBefore, start]
  by_cases empty : trimStart cs = []
  · simp [trim, empty, trimStart_eq_nil blankAfter]
  · rw [if_neg (by simpa using empty), trimEnd_append_right blankAfter]
    rfl

theorem trim_eq_nil (blank : ∀ c ∈ cs, isBlank c = true) : trim cs = [] := by
  rw [trim, trimStart_eq_nil blank]
  rfl

/-! ## What is left -/

theorem trimEnd_begins (cs : List Char) : trimEnd cs <+: cs := by
  have suffix := List.reverse_prefix.mpr (List.dropWhile_suffix (l := cs.reverse) isBlank)
  rwa [List.reverse_reverse] at suffix

theorem trim_sublist (cs : List Char) : (trim cs).Sublist cs :=
  (trimEnd_begins (trimStart cs)).sublist.trans (List.dropWhile_sublist isBlank)

theorem isBlank_of_head?_dropWhile {c : Char} (found : (cs.dropWhile isBlank).head? = some c) :
    isBlank c = false := by
  have kept := List.head?_dropWhile_not isBlank cs
  rw [found] at kept
  exact kept

theorem visibleEnds_trim (cs : List Char) : VisibleEnds (trim cs) := by
  constructor
  · intro c found
    obtain ⟨dropped, whole⟩ := trimEnd_begins (trimStart cs)
    have begun : (trimStart cs).head? = some c := by
      cases left : trim cs with
      | nil =>
        rw [left] at found
        cases found
      | cons first later =>
        rw [left] at found
        rw [← whole, show trimEnd (trimStart cs) = first :: later from left]
        exact found
    exact isBlank_of_head?_dropWhile begun
  · intro c found
    rw [trim, trimEnd, List.getLast?_reverse] at found
    exact isBlank_of_head?_dropWhile found

theorem dropWhile_eq_self (first : ∀ c ∈ cs.head?, isBlank c = false) :
    cs.dropWhile isBlank = cs := by
  cases cs with
  | nil => rfl
  | cons c later => exact List.dropWhile_cons_of_neg (by simp [first c rfl])

theorem trim_eq_self (visible : VisibleEnds cs) : trim cs = cs := by
  have start : trimStart cs = cs := dropWhile_eq_self visible.first
  have reversed : cs.reverse.dropWhile isBlank = cs.reverse := by
    apply dropWhile_eq_self
    intro c found
    rw [List.head?_reverse] at found
    exact visible.last c found
  rw [trim, start, trimEnd, reversed, List.reverse_reverse]

/-- A text without any blank is left as it is. -/
theorem trim_eq_self_of_forall (visible : ∀ c ∈ cs, isBlank c = false) : trim cs = cs :=
  trim_eq_self ⟨fun c found => visible c (List.mem_of_mem_head? found),
    fun c found => visible c (List.mem_of_getLast? found)⟩

end SearchQuery.Text
