import Rtos.Bytes

/-!
# Comparing byte sequences

Two comparisons. `Bytes.difference` is the signed difference of the first bytes
that differ, where a sequence that has ended goes on with NULs, so that trailing
NULs do not count. `Bytes.order` is the lexicographic order, in which a proper
beginning of a sequence is smaller than the sequence.
-/

namespace Rtos

namespace Bytes

def gap (left right : UInt8) : Int :=
  (left.toNat : Int) - (right.toNat : Int)

/--
The difference of the first pair of bytes whose keys differ, or zero. The shorter
sequence is extended by NULs.
-/
def difference (key : UInt8 → UInt8) : Bytes → Bytes → Int
  | [], [] => 0
  | [], byte :: right =>
      if key 0 = key byte then difference key [] right else gap (key 0) (key byte)
  | byte :: left, [] =>
      if key byte = key 0 then difference key left [] else gap (key byte) (key 0)
  | first :: left, second :: right =>
      if key first = key second then difference key left right else gap (key first) (key second)

/-- The difference of two sequences byte by byte. -/
def compare (left right : Bytes) : Int :=
  difference id left right

/-- The difference of two sequences without regard to the case of ASCII letters. -/
def compareIgnoringCase (left right : Bytes) : Int :=
  difference lowercase left right

def order : Bytes → Bytes → Ordering
  | [], [] => .eq
  | [], _ :: _ => .lt
  | _ :: _, [] => .gt
  | first :: left, second :: right =>
      if first < second then .lt else if second < first then .gt else order left right

end Bytes

end Rtos
