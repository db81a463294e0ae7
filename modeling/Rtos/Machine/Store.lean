import Rtos.Machine.Object

/-!
# Stores

The objects that were ever made, numbered by their place in the store, and the labels
under which some of them are known. A label that is given to another object, or is taken
away, leaves the object that had it as it is: who still uses that object goes on with it.
-/

namespace Rtos

namespace Machine

/-- The number of an object, which no other object ever has. -/
structure ObjectId where
  number : Nat
  deriving DecidableEq

/-- Objects, and labels for some of them. -/
structure Store where
  objects : List Object := []
  labels : Labelled ObjectId := []

namespace Store

def get? (store : Store) (id : ObjectId) : Option Object :=
  store.objects[id.number]?

/-- The number of the object under a label. -/
def idOf? (store : Store) (label : Label) : Option ObjectId :=
  store.labels.get? label

def named? (store : Store) (label : Label) : Option Object :=
  (store.idOf? label).bind store.get?

def nextId (store : Store) : ObjectId :=
  ⟨store.objects.length⟩

/-- The store with one more object, which gets a label. -/
def add (store : Store) (label : Label) (object : Object) : Store :=
  { objects := store.objects ++ [object], labels := store.labels.put label store.nextId }

/-- The store with another state of an object. -/
def put (store : Store) (id : ObjectId) (object : Object) : Store :=
  { store with objects := store.objects.set id.number object }

def forget (store : Store) (label : Label) : Store :=
  { store with labels := store.labels.erase label }

def isLabelled (store : Store) (id : ObjectId) : Bool :=
  store.labels.any fun (_, known) => known = id

end Store

end Machine

end Rtos
