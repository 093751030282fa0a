/-
# Counting live lists

An allocator hands out lists and counts those that were not given back. It
does not know which lists they are, so it can only notice that more were
given back than were handed out.

Key definitions: `Allocator`, `Allocator.newList`, `Allocator.release`,
`ListPool`.
-/

namespace WireSchema

/-- The number of lists handed out and not yet given back. -/
structure Allocator where
  outstanding : Nat := 0
deriving DecidableEq, Repr

/-- A list was given back although none was outstanding. -/
inductive ReleaseError where
  | noneOutstanding
deriving DecidableEq, Repr

/-- The text of the error. -/
def ReleaseError.message : ReleaseError → String
  | noneOutstanding => "release() called more often than new_list()"

namespace Allocator

/-- Hands out one more list. -/
def newList (a : Allocator) : Allocator := ⟨a.outstanding + 1⟩

/-- Takes one list back. -/
def release (a : Allocator) : Except ReleaseError Allocator :=
  if a.outstanding = 0 then .error .noneOutstanding else .ok ⟨a.outstanding - 1⟩

/-- A list that was just handed out can be given back. -/
@[simp] theorem release_newList (a : Allocator) : a.newList.release = .ok a := by
  simp [newList, release]

end Allocator

/-- An allocator with the contents of every list it ever handed out. -/
structure ListPool (α : Type) where
  allocator : Allocator := {}
  lists : List (List α) := []

namespace ListPool

variable {α : Type}

/-- Hands out an empty list; its index is the number of lists before it. -/
def newList (p : ListPool α) : Nat × ListPool α :=
  (p.lists.length, ⟨p.allocator.newList, p.lists ++ [[]]⟩)

/-- Adds a value at the end of list `i`, if there is such a list. -/
def append? (p : ListPool α) (i : Nat) (v : α) : Option (ListPool α) :=
  match p.lists[i]? with
  | some items => some { p with lists := p.lists.set i (items ++ [v]) }
  | none => none

/-- Takes list `i` back and empties it. The same list may be taken back
again, as long as the allocator has lists outstanding. -/
def release (p : ListPool α) (i : Nat) : Except ReleaseError (ListPool α) :=
  match p.allocator.release with
  | .ok a => .ok ⟨a, p.lists.set i []⟩
  | .error e => .error e

end ListPool
end WireSchema
