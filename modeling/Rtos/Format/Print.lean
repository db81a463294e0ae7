import Rtos.Format.Operand

/-!
# Printing

A format applied to arguments. Every directive consumes its width, its precision
and its value, in this order, from the front of the arguments; arguments that are
left over do not matter. Output is given only if the whole format can be applied;
otherwise the leftmost failure counts.

A format is first resolved: its pieces become items, which hold all that is written
but not yet as bytes. Only then the items are rendered.
-/

namespace Rtos

namespace Format

/-- Why a format cannot be applied to arguments. -/
inductive Failure where
  /-- The format is malformed, or the arguments do not suit it. -/
  | invalid
  /-- A finite value was to be rendered with more places than there may be. -/
  | tooManyPlaces
  deriving DecidableEq

/-- The largest width and precision. -/
def amountLimit : Nat := Nat.pow 2 31 - 1

/-- The flags with filling on the right if the condition holds. -/
def Flags.leftIf (flags : Flags) (condition : Bool) : Flags :=
  { flags with left := flags.left || condition }

/-- A width: a negative argument asks for filling on the right and gives its magnitude. -/
def Amount.width? (amount : Amount) (flags : Flags) (arguments : List Argument) :
    Option (Flags × Nat × List Argument) :=
  match amount, arguments with
  | .literal value, _ => some (flags, value, arguments)
  | .argument, [] => none
  | .argument, next :: rest =>
      next.signed?.map fun value =>
        (flags.leftIf (value.toInt < 0), value.toInt.natAbs, rest)

/-- A precision: a negative argument counts as none. -/
def Amount.precision? (amount : Option Amount) (arguments : List Argument) :
    Option (Option Nat × List Argument) :=
  match amount, arguments with
  | none, _ => some (none, arguments)
  | some (.literal value), _ => some (some value, arguments)
  | some .argument, [] => none
  | some .argument, next :: rest =>
      next.signed?.map fun value =>
        (if value.toInt < 0 then none else some value.toInt.toNat, rest)

/-- Whether width and precision are within the limit. -/
def Layout.isWithinLimit (layout : Layout) : Bool :=
  layout.width ≤ amountLimit && layout.precision.all (· ≤ amountLimit)

/-- The layout of a directive, and the arguments it leaves. -/
def Directive.layout? (directive : Directive) (arguments : List Argument) :
    Option (Layout × List Argument) := do
  let (flags, width, arguments) ← directive.width.width? directive.flags arguments
  let (precision, arguments) ← Amount.precision? directive.precision arguments
  let layout : Layout := ⟨flags, width, precision⟩
  if layout.isWithinLimit then some (layout, arguments) else none

/-- A piece of a format with what it takes from the arguments. -/
inductive Item where
  | literal (byte : UInt8)
  /-- An operand in the layout and conversion of its directive. -/
  | operand (layout : Layout) (conversion : Conversion) (value : Operand)
  deriving DecidableEq

def Item.render : Item → Bytes
  | literal byte => [byte]
  | operand layout conversion value => (value.field layout conversion).padded layout

/-- The item of a directive whose layout is known, and the arguments it leaves. -/
def Directive.itemIn (directive : Directive) (layout : Layout) (arguments : List Argument) :
    Except Failure (Item × List Argument) :=
  if directive.conversion = .percent then .ok (.literal percentSign, arguments)
  else
    match arguments with
    | [] => .error .invalid
    | argument :: rest =>
        match directive.operand? argument with
        | none => .error .invalid
        | some value =>
            if value.isRenderable layout directive.conversion then
              .ok (.operand layout directive.conversion value, rest)
            else .error .tooManyPlaces

/-- The item of a directive, and the arguments it leaves. -/
def Directive.item (directive : Directive) (arguments : List Argument) :
    Except Failure (Item × List Argument) :=
  match directive.layout? arguments with
  | none => .error .invalid
  | some (layout, arguments) => directive.itemIn layout arguments

/-- The item of a piece, and the arguments it leaves. -/
def Piece.item (piece : Piece) (arguments : List Argument) :
    Except Failure (Item × List Argument) :=
  match piece with
  | .literal byte => .ok (.literal byte, arguments)
  | .directive found => found.item arguments
  | .malformed => .error .invalid

/-- The items of a sequence of pieces, and the arguments they leave. -/
def Piece.items : List Piece → List Argument → Except Failure (List Item × List Argument)
  | [], arguments => .ok ([], arguments)
  | piece :: pieces, arguments => do
      let (item, arguments) ← piece.item arguments
      let (items, arguments) ← Piece.items pieces arguments
      .ok (item :: items, arguments)

/-- The items of a format applied to arguments, and the arguments it leaves. -/
def resolve (format : Bytes) (arguments : List Argument) :
    Except Failure (List Item × List Argument) :=
  Piece.items (Piece.parse format) arguments

/-- The output of a format applied to arguments. -/
def print (format : Bytes) (arguments : List Argument) : Except Failure Bytes :=
  (resolve format arguments).map fun (items, _) => items.flatMap Item.render

end Format

end Rtos
