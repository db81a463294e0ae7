/-!
# Aligned text

A text set in a column of a given width, counted in characters. Text that is wider
than the column stays whole.
-/

namespace Rtos

namespace Text

/-- The largest width of a column. -/
def widthLimit : Nat := Nat.pow 2 16 - 1

def spaces (count : Nat) : List Char :=
  List.replicate count ' '

/-- A text at the right of its column. -/
def alignRight (width : Nat) (text : List Char) : List Char :=
  spaces (width - text.length) ++ text

/-- A text at the left of its column. -/
def alignLeft (width : Nat) (text : List Char) : List Char :=
  text ++ spaces (width - text.length)

/-- A text in the middle of its column; an odd space goes to the right. -/
def alignCentre (width : Nat) (text : List Char) : List Char :=
  let room := width - text.length
  spaces (room / 2) ++ text ++ spaces (room - room / 2)

/-- A text at the right, at the left, and cut to the width in the middle of three columns. -/
def threeColumns (width : Nat) (text : String) : String :=
  String.ofList
    (alignRight width text.toList ++ ['|'] ++ alignLeft width text.toList ++ ['|'] ++
      alignCentre width (text.toList.take width))

end Text

end Rtos
