/-!
# Observers of a connection

Observers are told when a link comes up or goes down, in the order in which they were added and
as often as they were added.
-/

namespace SmpClient

/-- The observers of a link, each by a name of type `ι`. -/
structure Observers (ι : Type) where
  registered : List ι := []
  deriving Inhabited

namespace Observers

variable {ι : Type} [DecidableEq ι]

/-- Adds an observer, also one that is there already. -/
def add (observer : ι) (observers : Observers ι) : Observers ι :=
  ⟨observers.registered ++ [observer]⟩

/-- Removes an observer, however often it was added. -/
def remove (observer : ι) (observers : Observers ι) : Observers ι :=
  ⟨observers.registered.filter (· ≠ observer)⟩

/-- How often an observer is told when the connection changes. -/
def count (observer : ι) (observers : Observers ι) : Nat :=
  observers.registered.count observer

end Observers

end SmpClient
