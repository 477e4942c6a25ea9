/-!
# Reading a state after a run

A state is changed step by step and read at one place. If every step either sets the
place or leaves it alone, the run leaves there what the last setting step has set; if
every step adds behind what is there, the run adds all of it in the order of the steps.
-/

namespace SearchQuery

variable {σ τ α β : Type}

theorem getLast?_filterMap_cons (f : τ → Option β) (first : τ) (rest : List τ) :
    ((first :: rest).filterMap f).getLast? = (rest.filterMap f).getLast?.or (f first) := by
  rw [List.filterMap_cons]
  cases f first with
  | none => exact (Option.or_none).symm
  | some written =>
    rw [List.getLast?_cons]
    cases (rest.filterMap f).getLast? <;> rfl

variable {step : σ → τ → σ}

theorem read_foldl_of_sets {read : σ → α} {set? : τ → Option β} {put : β → α}
    (sets : ∀ state item, read (step state item) = (set? item).elim (read state) put)
    (items : List τ) (start : σ) :
    read (items.foldl step start) = (items.filterMap set?).getLast?.elim (read start) put := by
  induction items generalizing start with
  | nil => rfl
  | cons item rest ih =>
    rw [List.foldl_cons, ih, sets, getLast?_filterMap_cons]
    cases (rest.filterMap set?).getLast? <;> rfl

theorem read_foldl_of_adds {read : σ → List α} {added : τ → List α}
    (adds : ∀ state item, read (step state item) = read state ++ added item)
    (items : List τ) (start : σ) :
    read (items.foldl step start) = read start ++ items.flatMap added := by
  induction items generalizing start with
  | nil => exact (List.append_nil (read start)).symm
  | cons item rest ih =>
    rw [List.foldl_cons, ih, adds, List.flatMap_cons, List.append_assoc]

end SearchQuery
