import Rtos.ByteString.Command

/-!
# Named strings

A shelf of strings under names. A name that was never used stands for an empty
string. Where a command takes a second string of the same name, it works with a copy
of it, so that only the string it works on changes.
-/

namespace Rtos

/-- Strings under names. -/
structure Shelf where
  entries : List (String × ByteString) := []

namespace Shelf

def get (shelf : Shelf) (name : String) : ByteString :=
  (shelf.entries.lookup name).getD .empty

/-- The shelf with another string under a name. -/
def put (shelf : Shelf) (name : String) (string : ByteString) : Shelf :=
  ⟨(name, string) :: shelf.entries.filter (·.1 != name)⟩

/-- A command, the string it works on, and the second string it takes, if any. -/
structure Step where
  target : String
  other : Option String
  command : ByteString.Command

/-- What a step answers, with the contents of its strings afterwards. -/
structure Line where
  reply : ByteString.Reply
  content : Bytes
  /-- The content of the second string, if it is another one. -/
  otherContent : Option Bytes

/-- The second string that a step works with. -/
def otherOf (shelf : Shelf) (step : Step) : ByteString :=
  match step.other with
  | none => .empty
  | some name => if name = step.target then (shelf.get name).copy else shelf.get name

/-- The shelf after a step, and what the step answers. -/
def run (shelf : Shelf) (step : Step) : Shelf × Line :=
  let outcome := step.command.run (shelf.get step.target) (shelf.otherOf step)
  match step.other.filter (· != step.target) with
  | none =>
      (shelf.put step.target outcome.string,
        ⟨outcome.reply, outcome.string.content, none⟩)
  | some name =>
      ((shelf.put name outcome.other).put step.target outcome.string,
        ⟨outcome.reply, outcome.string.content, some outcome.other.content⟩)

def runAll (shelf : Shelf) : List Step → List Line
  | [] => []
  | step :: steps =>
      let (next, line) := shelf.run step
      line :: next.runAll steps

end Shelf

end Rtos
