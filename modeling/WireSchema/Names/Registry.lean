/-
# Unique identifiers

A registry holds the identifiers taken in one scope. A request for a
candidate takes the candidate itself if it is free and else the first of
`candidate_2`, `candidate_3`, … that is free; keywords get an underscore
first. The search is bounded by the number of names taken: that many
different suffixes and one more cannot all be taken.

Key definitions: `Registry`, `Registry.request`.
Key theorems: `Registry.request_empty`, `Registry.used_of_request`.
-/

import WireSchema.Names.Keyword
import WireSchema.Names.Snake

namespace WireSchema

/-- Why no identifier can be given. -/
inductive NameError where
  | emptyIdentifier
deriving DecidableEq, Repr

/-- The text of the error. -/
def NameError.message : NameError → String
  | emptyIdentifier => "cannot register an empty identifier"

/-- The names taken in a scope. -/
structure Registry where
  used : List String := []
deriving DecidableEq, Repr

namespace Registry

/-- Whether a name is taken. -/
def contains (r : Registry) (name : String) : Bool := r.used.contains name

/-- The taken names in order of their code points, each once. -/
def names (r : Registry) : List String :=
  r.used.eraseDups.mergeSort fun a b => decide (a ≤ b)

/-- A numbered variant of a name. -/
def variant (base : String) (k : Nat) : String := base ++ "_" ++ toString k

/-- The first free variant from number `k` on, after at most `bound` taken ones. -/
def freeVariant (r : Registry) (base : String) : Nat → Nat → String
  | 0, k => variant base k
  | bound + 1, k =>
    if r.contains (variant base k) then freeVariant r base bound (k + 1) else variant base k

/-- The name that a request for `base` gives. -/
def choose (r : Registry) (base : String) : String :=
  if r.contains base then r.freeVariant base r.used.length 2 else base

/-- Takes a name for a candidate. -/
def request (r : Registry) (candidate : String) : Except NameError (String × Registry) :=
  if candidate.isEmpty then .error .emptyIdentifier
  else
    let name := r.choose (avoidKeyword candidate)
    .ok (name, ⟨name :: r.used⟩)

/-- The empty text names nothing. -/
@[simp] theorem request_empty (r : Registry) : r.request "" = .error .emptyIdentifier := rfl

/-- A request adds the name it gives and nothing else. -/
theorem used_of_request {r r' : Registry} {candidate name : String}
    (h : r.request candidate = .ok (name, r')) : r'.used = name :: r.used := by
  rw [request] at h
  split at h
  · cases h
  · cases h; rfl

end Registry

/-- Work on one registry that can fail. What was taken before a failure stays
taken. -/
abbrev Naming := EStateM NameError Registry

namespace Naming

/-- Takes a name for a candidate. -/
def request (candidate : String) : Naming String := fun r =>
  match r.request candidate with
  | .ok (name, r') => .ok name r'
  | .error e => .error e r

/-- Takes a field name: the snake case of `name`. -/
def field (name : String) : Naming String := request (toSnake name)

/-- Takes a constant's name: the snake case of `name` in capitals. -/
def constant (name : String) : Naming String := request (toUpperSnake name)

/-- Takes a method name: the snake case of `name`. -/
def method (name : String) : Naming String := request (toSnake name)

end Naming
end WireSchema
