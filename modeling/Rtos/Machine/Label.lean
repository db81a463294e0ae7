/-!
# Labels

The names by which a machine knows its actors, its objects and the threads that it
remembers, and collections of things under labels.
-/

namespace Rtos

namespace Machine

/-- The label of an actor, an object or a remembered thread. -/
abbrev Label := String

/-- Things under labels; of two things under one label the first counts. -/
abbrev Labelled (Thing : Type) := List (Label × Thing)

namespace Labelled

variable {Thing : Type}

def get? (things : Labelled Thing) (label : Label) : Option Thing :=
  things.lookup label

/-- The things under other labels. -/
def erase (things : Labelled Thing) (label : Label) : Labelled Thing :=
  things.filter (·.1 != label)

/-- The things with another one under a label. -/
def put (things : Labelled Thing) (label : Label) (thing : Thing) : Labelled Thing :=
  (label, thing) :: things.erase label

end Labelled

end Machine

end Rtos
