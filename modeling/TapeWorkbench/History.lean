/-!
# Histories

A history is a stack of values that were current before, newest first.  With a
limit it forgets the oldest ones.

Forgetting takes no time: a history counts the values that it remembers, and
those behind them are let go together, once they outnumber the others.  What a
history remembers is its `toList`; `toList_push`, `pop?_eq_none_iff` and
`toList_of_pop?` say what the operations do to it.
-/

namespace TapeWorkbench

/-- The values that can be returned to, newest first. -/
structure History (α : Type) where
  /-- The values that are remembered, and behind them those that are forgotten. -/
  held : List α
  /-- The number of values that are remembered. -/
  size : Nat
  /-- The number of values that are held but forgotten. -/
  forgotten : Nat
  limit : Option Nat
  length_held : held.length = size + forgotten
  deriving DecidableEq, Repr

namespace History

variable {α : Type}

/-- The values that are remembered, newest first. -/
def toList (history : History α) : List α :=
  history.held.take history.size

@[simp] theorem length_toList (history : History α) : history.toList.length = history.size := by
  simp [toList, history.length_held]

/-- The history of something that has just begun. -/
def empty (limit : Option Nat) : History α :=
  { held := [], size := 0, forgotten := 0, limit, length_held := rfl }

@[simp] theorem toList_empty (limit : Option Nat) : (empty limit : History α).toList = [] := rfl

def isEmpty (history : History α) : Bool :=
  history.size = 0

theorem isEmpty_iff {history : History α} : history.isEmpty = true ↔ history.toList = [] := by
  rw [← List.length_eq_zero_iff, length_toList, isEmpty, decide_eq_true_iff]

/-- Let go of the forgotten values if there are more of them than of the others. -/
def release (history : History α) : History α :=
  if history.forgotten ≤ history.size then history
  else { history with held := history.toList, forgotten := 0, length_held := length_toList history }

@[simp] theorem toList_release (history : History α) : history.release.toList = history.toList := by
  unfold release
  split
  · rfl
  · simp [toList, List.take_take]

@[simp] theorem limit_release (history : History α) : history.release.limit = history.limit := by
  unfold release
  split
  · rfl
  · rfl

/-- The number of values that are remembered after one more. -/
def grownSize (history : History α) : Nat :=
  match history.limit with
  | none => history.size + 1
  | some limit => min limit (history.size + 1)

theorem grownSize_le (history : History α) : history.grownSize ≤ history.size + 1 := by
  unfold grownSize
  split <;> omega

/-- Remember one more value, and forget the oldest beyond the limit. -/
def push (history : History α) (value : α) : History α :=
  release
    { held := value :: history.held
      size := history.grownSize
      forgotten := history.size + history.forgotten + 1 - history.grownSize
      limit := history.limit
      length_held := by
        have grown := history.grownSize_le
        have held := history.length_held
        simp only [List.length_cons]
        omega }

/-- What is beyond the limit is the end of the list. -/
theorem toList_push (history : History α) (value : α) :
    (history.push value).toList =
      match history.limit with
      | none => value :: history.toList
      | some limit => (value :: history.toList).take limit := by
  rw [push, toList_release]
  cases bound : history.limit with
  | none => simp [toList, grownSize, bound]
  | some limit => simp [toList, grownSize, bound, ← List.take_succ_cons, List.take_take]

@[simp] theorem limit_push (history : History α) (value : α) :
    (history.push value).limit = history.limit := by
  rw [push, limit_release]

/-- Take the newest value back, if there is one. -/
def pop? (history : History α) : Option (α × History α) :=
  match history with
  | { held := newest :: older, size := size + 1, forgotten, limit, length_held } =>
    some (newest,
      { held := older
        size
        forgotten
        limit
        length_held := by
          simp only [List.length_cons] at length_held
          omega })
  | _ => none

theorem pop?_eq_none_iff (history : History α) : history.pop? = none ↔ history.toList = [] := by
  obtain ⟨held, size, forgotten, limit, length_held⟩ := history
  cases held <;> cases size <;> simp_all [pop?, toList]

/-- The newest value is the head of the list, and the rest stays. -/
theorem toList_of_pop? {history older : History α} {newest : α}
    (popped : history.pop? = some (newest, older)) :
    history.toList = newest :: older.toList := by
  obtain ⟨held, size, forgotten, limit, length_held⟩ := history
  cases held <;> cases size <;> simp_all [pop?, toList]
  rw [← popped.2]

theorem limit_of_pop? {history older : History α} {newest : α}
    (popped : history.pop? = some (newest, older)) : older.limit = history.limit := by
  obtain ⟨held, size, forgotten, limit, length_held⟩ := history
  cases held <;> cases size <;> simp_all [pop?]
  rw [← popped.2]

/-- Forget everything but the limit. -/
def clear (history : History α) : History α :=
  empty history.limit

end History
end TapeWorkbench
