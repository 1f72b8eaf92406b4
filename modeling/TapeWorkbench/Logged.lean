import TapeWorkbench.Notice

/-!
# Values with the notices given on the way to them

Operations of this library are pure.  One that has something to tell returns its
notices beside its value, in the order in which they were given.
-/

namespace TapeWorkbench

/-- A value together with the notices given while it was computed. -/
structure Logged (α : Type) where
  value : α
  log : Array Notice
  deriving DecidableEq, Repr

namespace Logged

variable {α β : Type}

/-- A value about which there is nothing to say. -/
def quiet (value : α) : Logged α :=
  ⟨value, #[]⟩

def saying (value : α) (notice : Notice) : Logged α :=
  ⟨value, #[notice]⟩

/-- Continue with the value, keeping the notices of both parts in order. -/
def andThen (first : Logged α) (next : α → Logged β) : Logged β :=
  let second := next first.value
  ⟨second.value, first.log ++ second.log⟩

/-- Apply a function that has nothing to say. -/
def map (f : α → β) (first : Logged α) : Logged β :=
  ⟨f first.value, first.log⟩

/-- Add one notice after those already given. -/
def say (first : Logged α) (notice : Notice) : Logged α :=
  ⟨first.value, first.log.push notice⟩

@[simp] theorem value_quiet (value : α) : (quiet value).value = value := rfl

@[simp] theorem value_saying (value : α) (notice : Notice) :
    (saying value notice).value = value := rfl

@[simp] theorem value_andThen (first : Logged α) (next : α → Logged β) :
    (first.andThen next).value = (next first.value).value := rfl

@[simp] theorem value_map (f : α → β) (first : Logged α) :
    (first.map f).value = f first.value := rfl

@[simp] theorem value_say (first : Logged α) (notice : Notice) :
    (first.say notice).value = first.value := rfl

end Logged
end TapeWorkbench
