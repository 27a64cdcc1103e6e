-- SUMMARY: Values that views watch, with a revision that counts the notifications.
/-!
# Watched values

Views do not look at a value again and again; they watch its revision. Every notification makes
the revision greater by one.
-/

namespace NoteSearch

/-- A value with the number of notifications about it. -/
structure Watched (α : Type) where
  value : α
  revision : Nat := 0
  deriving DecidableEq, Inhabited

namespace Watched

variable {α : Type}

/-- Tells the views that something happened. -/
def notify (w : Watched α) : Watched α := { w with revision := w.revision + 1 }

/-- Changes the value and notifies. -/
def update (w : Watched α) (f : α → α) : Watched α := ⟨f w.value, w.revision + 1⟩

/-- Changes the value; `f` also says whether to notify. -/
def updateIf (w : Watched α) (f : α → α × Bool) : Watched α :=
  let (value, tell) := f w.value
  ⟨value, if tell then w.revision + 1 else w.revision⟩

/-- Stores a value and notifies if it is another one. -/
def set [DecidableEq α] (w : Watched α) (value : α) : Watched α :=
  ⟨value, if value = w.value then w.revision else w.revision + 1⟩

@[simp] theorem value_notify (w : Watched α) : w.notify.value = w.value := rfl
@[simp] theorem revision_notify (w : Watched α) : w.notify.revision = w.revision + 1 := rfl
@[simp] theorem value_update (w : Watched α) (f : α → α) : (w.update f).value = f w.value := rfl

@[simp] theorem revision_update (w : Watched α) (f : α → α) :
    (w.update f).revision = w.revision + 1 := rfl

@[simp] theorem value_set [DecidableEq α] (w : Watched α) (v : α) : (w.set v).value = v := rfl

end Watched

end NoteSearch
