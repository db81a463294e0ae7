import Rtos.Format.Argument
import Rtos.Format.Real

/-!
# Operands of directives

The reading of an argument that a directive asks for, and the field it becomes. An
operand is only data: whether it can be rendered is known before anything is
rendered.
-/

namespace Rtos

namespace Format

/-- What a directive writes, taken from its argument. -/
inductive Operand where
  /-- An integer that is reduced to the bits its directive looks at. -/
  | integer (negative : Bool) (magnitude : Nat)
  | text (bytes : Bytes)
  | real (value : Number.Floating)
  deriving DecidableEq

/-- The operand that a directive reads from an argument. -/
def Directive.operand? (directive : Directive) (argument : Argument) : Option Operand :=
  match directive.conversion with
  | .percent => none
  | .signed =>
      argument.signed?.map fun value =>
        let number := (directive.length.truncateSigned value).toInt
        .integer (number < 0) number.natAbs
  | .unsigned | .octal | .hexadecimal _ =>
      argument.unsigned?.map fun value =>
        .integer false (directive.length.truncateUnsigned value).toNat
  | .character => argument.character?.map .text
  | .string => argument.string?.map .text
  | .pointer =>
      argument.unsigned?.map fun value =>
        .text ([0x30, 0x78] ++ Number.numeral 16 false value.toNat)
  | .fixed _ | .scientific _ | .general _ => argument.floating?.map .real

namespace Layout

/-- The bytes of a text; the precision cuts a C string. -/
def textBody (layout : Layout) (conversion : Conversion) (bytes : Bytes) : Bytes :=
  match conversion, layout.precision with
  | .string, some precision => bytes.take precision
  | _, _ => bytes

end Layout

namespace Operand

/-- Whether an operand can be rendered: only floating-point values know a limit. -/
def isRenderable (operand : Operand) (layout : Layout) (conversion : Conversion) : Bool :=
  match operand with
  | real value => layout.canRender conversion value
  | _ => true

def field (operand : Operand) (layout : Layout) (conversion : Conversion) : Field :=
  match operand with
  | integer negative magnitude => layout.integerField conversion negative magnitude
  | text bytes => { body := layout.textBody conversion bytes }
  | real value => layout.realField conversion value

end Operand

end Format

end Rtos
