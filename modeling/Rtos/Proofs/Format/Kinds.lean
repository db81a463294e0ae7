import Mathlib.Algebra.Group.Int.Defs
import Mathlib.Algebra.Group.Nat.Defs
import Rtos.Format.Operand

/-!
# Kinds of arguments

Which kinds of arguments a conversion accepts, and the integer that an argument stands for.
The readings of an argument are compared with these: a signed reading takes the integer to
the signed number of 64 bits with the same low bits, an unsigned reading to the unsigned one.
-/

namespace Rtos

namespace Format

/-- The kinds of arguments. -/
inductive Kind where
  | signed
  | unsigned
  | floating
  | character
  | bytes
  | pointer
  deriving DecidableEq

/-- The kinds of arguments that are integers. -/
def integerKinds : List Kind := [.signed, .unsigned, .character]

namespace Conversion

/-- The kinds of arguments that a conversion accepts. -/
def kinds : Conversion → List Kind
  | percent => []
  | signed | character => integerKinds
  | unsigned | octal | hexadecimal _ | pointer => .pointer :: integerKinds
  | string => [.bytes]
  | fixed _ | scientific _ | general _ => [.floating, .signed, .unsigned]

/-- Whether a conversion writes floating-point values. -/
def isFloating : Conversion → Bool
  | fixed _ | scientific _ | general _ => true
  | _ => false

end Conversion

namespace Argument

/-- The kind of an argument. -/
def kind : Argument → Kind
  | signed _ => .signed
  | unsigned _ => .unsigned
  | floating _ => .floating
  | character _ => .character
  | bytes _ => .bytes
  | pointer _ => .pointer

/-- The integer that an argument stands for. -/
def integer : Argument → Int
  | signed value => value.toInt
  | unsigned value => value.toNat
  | character value => value.toNat
  | pointer address => address.toNat
  | _ => 0

theorem integer_signed (value : Int64) :
    (Argument.signed value).integer.bmod (2 ^ 64) = value.toInt :=
  BitVec.toInt_bmod_cancel value.toBitVec

theorem toNat_emod {number : Nat} (small : number < 2 ^ 64) :
    ((number : Int) % 2 ^ 64).toNat = number := by
  rw [Int.emod_eq_of_lt (Int.natCast_nonneg number) (by exact_mod_cast small), Int.toNat_natCast]

theorem map_signed? (argument : Argument) :
    argument.signed?.map Int64.toInt =
      if argument.kind ∈ integerKinds then some (argument.integer.bmod (2 ^ 64)) else none := by
  cases argument with
  | signed value => exact congrArg some (integer_signed value).symm
  | unsigned value => exact congrArg some (BitVec.toInt_eq_toNat_bmod value.toBitVec)
  | character value => exact congrArg some Int64.toInt_ofNat'
  | floating value => rfl
  | bytes value => rfl
  | pointer address => rfl

theorem map_unsigned? (argument : Argument) :
    argument.unsigned?.map UInt64.toNat =
      if argument.kind ∈ Kind.pointer :: integerKinds then
        some (argument.integer % 2 ^ 64).toNat
      else none := by
  cases argument with
  | signed value =>
    have whole : value.toUInt64.toNat = (value.toInt % 2 ^ 64).toNat := by
      have bits := BitVec.toNat_ofInt (n := 64) value.toInt
      rw [Int64.toInt, BitVec.ofInt_toInt] at bits
      exact bits
    exact congrArg some whole
  | unsigned value => exact congrArg some (toNat_emod value.toNat_lt).symm
  | character value =>
    have small : value.toNat < 2 ^ 64 := Nat.lt_of_lt_of_le value.val.toNat_lt (by decide)
    have whole : (UInt64.ofNat value.toNat).toNat = value.toNat := UInt64.toNat_ofNat_of_lt small
    exact congrArg some (whole.trans (toNat_emod small).symm)
  | floating value => rfl
  | bytes value => rfl
  | pointer address => exact congrArg some (toNat_emod address.toNat_lt).symm

end Argument

/-- A directive has an operand for exactly the kinds that its conversion accepts. -/
theorem Directive.isSome_operand? (directive : Directive) (argument : Argument) :
    (directive.operand? argument).isSome =
      decide (argument.kind ∈ directive.conversion.kinds) := by
  rw [Directive.operand?]
  cases directive.conversion <;> cases argument <;> rfl

end Format

end Rtos
