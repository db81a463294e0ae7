import Rtos.Bytes

/-!
# Format strings

A format is a sequence of ordinary bytes and directives. A directive is a percent
sign followed by flags, an optional width, an optional point and precision, an
optional length modifier, and a conversion. A width or precision is written in
digits or, as a star, taken from the arguments. Digits are counted up to a limit,
which is far beyond the largest width and precision that there may be.

`Piece.parse` reads a format from left to right. A directive that is cut off or has
an unknown conversion is a malformed piece, and nothing is read behind it.
-/

namespace Rtos

namespace Format

structure Flags where
  /-- The minus sign: fill up on the right. -/
  left : Bool := false
  /-- The plus sign: show the sign of numbers that are not negative. -/
  plus : Bool := false
  /-- The space: leave room for the sign of numbers that are not negative. -/
  space : Bool := false
  /-- The hash sign: the alternate form of the conversion. -/
  alternate : Bool := false
  /-- The zero: fill up with zeros behind the sign. -/
  zero : Bool := false
  deriving DecidableEq

/-- A width or a precision as a format gives it. -/
inductive Amount where
  /-- A number written in digits, as far as it can be counted; no digits are zero. -/
  | literal (value : Nat)
  /-- A star: the number is the next argument. -/
  | argument
  deriving DecidableEq

/-- How many low bits of an integer argument a directive looks at. -/
inductive Length where
  | byte
  | short
  /-- Thirty-two bits, if nothing else is said. -/
  | word
  | wide
  deriving DecidableEq

inductive Conversion where
  | percent
  | signed
  | unsigned
  | octal
  | hexadecimal (upper : Bool)
  | character
  | string
  | pointer
  /-- A number with a fixed count of places. -/
  | fixed (upper : Bool)
  | scientific (upper : Bool)
  /-- A number in the shorter of the two forms. -/
  | general (upper : Bool)
  deriving DecidableEq

/-- A directive as a format gives it. -/
structure Directive where
  flags : Flags
  width : Amount
  precision : Option Amount
  length : Length
  conversion : Conversion
  deriving DecidableEq

inductive Piece where
  | literal (byte : UInt8)
  | directive (found : Directive)
  /-- A percent sign that begins no directive; it is the last piece. -/
  | malformed
  deriving DecidableEq

/-- The byte that begins a directive. -/
def percentSign : UInt8 := 0x25

/-- The byte that stands for an amount taken from the arguments. -/
def star : UInt8 := 0x2A

/-- The byte that begins a precision. -/
def point : UInt8 := 0x2E

def isDigit (byte : UInt8) : Bool :=
  0x30 ≤ byte && byte ≤ 0x39

/-- Whether a byte is a flag: one of `-`, `+`, space, `#` and `0`. -/
def isFlag (byte : UInt8) : Bool :=
  byte == 0x2D || byte == 0x2B || byte == 0x20 || byte == 0x23 || byte == 0x30

/-- The flags that a sequence of flag bytes sets; repetition and order do not matter. -/
def Flags.ofBytes (bytes : Bytes) : Flags where
  left := bytes.contains 0x2D
  plus := bytes.contains 0x2B
  space := bytes.contains 0x20
  alternate := bytes.contains 0x23
  zero := bytes.contains 0x30

/-- The largest number that digits are counted up to. -/
def countLimit : Nat := Nat.pow 2 64 - 1

/-- The number with one more digit; the product and the sum both stop at the limit. -/
def countDigit (number : Nat) (digit : UInt8) : Nat :=
  min (min (number * 10) countLimit + (digit.toNat - 0x30)) countLimit

/-- The number that a sequence of digits denotes, as far as it can be counted. -/
def saturatedNumber (digits : Bytes) : Nat :=
  digits.foldl countDigit 0

/-- The flags at the start of the bytes, and the bytes after them. -/
def Flags.read (bytes : Bytes) : Flags × Bytes :=
  (Flags.ofBytes (bytes.takeWhile isFlag), bytes.dropWhile isFlag)

/-- The amount at the start of the bytes, and the bytes after it. -/
def Amount.read (bytes : Bytes) : Amount × Bytes :=
  if bytes.head? = some star then (argument, bytes.tail)
  else (literal (saturatedNumber (bytes.takeWhile isDigit)), bytes.dropWhile isDigit)

/-- The point and precision at the start of the bytes, if there are, and the bytes after them. -/
def Amount.readPrecision (bytes : Bytes) : Option Amount × Bytes :=
  if bytes.head? = some point then
    let (amount, rest) := Amount.read bytes.tail
    (some amount, rest)
  else (none, bytes)

/-- The length modifier at the start of the bytes, and the bytes after it. -/
def Length.read (bytes : Bytes) : Length × Bytes :=
  match bytes with
  | 0x68 :: 0x68 :: rest => (byte, rest)   -- hh
  | 0x68 :: rest => (short, rest)          -- h
  | 0x6C :: 0x6C :: rest => (wide, rest)   -- ll
  | 0x6C :: rest => (wide, rest)           -- l
  | 0x7A :: rest => (wide, rest)           -- z
  | 0x6A :: rest => (wide, rest)           -- j
  | 0x74 :: rest => (wide, rest)           -- t
  | 0x71 :: rest => (wide, rest)           -- q
  | 0x4C :: rest => (word, rest)           -- L
  | rest => (word, rest)

def Conversion.ofChar? (letter : Char) : Option Conversion :=
  match letter with
  | '%' => some .percent
  | 'd' => some .signed
  | 'i' => some .signed
  | 'u' => some .unsigned
  | 'o' => some .octal
  | 'x' => some (.hexadecimal false)
  | 'X' => some (.hexadecimal true)
  | 'c' => some .character
  | 's' => some .string
  | 'p' => some .pointer
  | 'f' => some (.fixed false)
  | 'F' => some (.fixed true)
  | 'e' => some (.scientific false)
  | 'E' => some (.scientific true)
  | 'g' => some (.general false)
  | 'G' => some (.general true)
  | _ => none

/-- The conversion at the start of the bytes, and the bytes after it. -/
def Conversion.read? : Bytes → Option (Conversion × Bytes)
  | [] => none
  | byte :: rest => (ofChar? (Char.ofUInt8 byte)).map (·, rest)

/-- The directive after a percent sign, and the bytes after it. -/
def Directive.read? (bytes : Bytes) : Option (Directive × Bytes) :=
  let (flags, bytes) := Flags.read bytes
  let (width, bytes) := Amount.read bytes
  let (precision, bytes) := Amount.readPrecision bytes
  let (length, bytes) := Length.read bytes
  (Conversion.read? bytes).map fun (conversion, rest) =>
    (⟨flags, width, precision, length, conversion⟩, rest)

/-! ## Reading takes bytes away -/

theorem Flags.length_read_le (bytes : Bytes) :
    (Flags.read bytes).2.length ≤ bytes.length :=
  (List.dropWhile_suffix isFlag).length_le

theorem Amount.length_read_le (bytes : Bytes) :
    (Amount.read bytes).2.length ≤ bytes.length := by
  unfold Amount.read
  split
  · simp
  · exact (List.dropWhile_suffix isDigit).length_le

theorem Amount.length_readPrecision_le (bytes : Bytes) :
    (Amount.readPrecision bytes).2.length ≤ bytes.length := by
  unfold Amount.readPrecision
  split
  · have := Amount.length_read_le bytes.tail
    simp only [List.length_tail] at this
    exact Nat.le_trans this (Nat.sub_le _ _)
  · exact Nat.le_refl _

theorem Length.length_read_le (bytes : Bytes) :
    (Length.read bytes).2.length ≤ bytes.length := by
  unfold Length.read
  split <;> simp only [List.length_cons] <;> omega

theorem Conversion.length_read?_lt {bytes rest : Bytes} {conversion : Conversion}
    (reads : Conversion.read? bytes = some (conversion, rest)) :
    rest.length < bytes.length := by
  cases bytes with
  | nil => cases reads
  | cons byte tail =>
    simp only [Conversion.read?, Option.map_eq_some_iff, Prod.mk.injEq] at reads
    obtain ⟨_, _, _, rfl⟩ := reads
    simp

theorem Directive.length_read?_lt {bytes rest : Bytes} {directive : Directive}
    (reads : Directive.read? bytes = some (directive, rest)) :
    rest.length < bytes.length := by
  simp only [Directive.read?, Option.map_eq_some_iff, Prod.mk.injEq] at reads
  obtain ⟨⟨conversion, tail⟩, conversionReads, _, rfl⟩ := reads
  have conversionLength : tail.length < _ := Conversion.length_read?_lt conversionReads
  have flagsLength := Flags.length_read_le bytes
  have widthLength := Amount.length_read_le (Flags.read bytes).2
  have precisionLength := Amount.length_readPrecision_le (Amount.read (Flags.read bytes).2).2
  have lengthLength := Length.length_read_le
    (Amount.readPrecision (Amount.read (Flags.read bytes).2).2).2
  change tail.length < bytes.length
  omega

def Piece.parse (format : Bytes) : List Piece :=
  match format with
  | [] => []
  | byte :: rest =>
      if byte = percentSign then
        match _ : Directive.read? rest with
        | none => [.malformed]
        | some (found, remaining) => .directive found :: Piece.parse remaining
      else .literal byte :: Piece.parse rest
termination_by format.length
decreasing_by
  · exact Nat.lt_succ_of_lt (Directive.length_read?_lt (by assumption))
  · exact Nat.lt_succ_self _

end Format

end Rtos
