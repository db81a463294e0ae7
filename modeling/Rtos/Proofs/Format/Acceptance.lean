import Rtos.ByteString.Command
import Rtos.Proofs.Format.Grammar
import Rtos.Proofs.Format.Kinds
import Rtos.Proofs.Number.Numeral

/-!
# Formats that can be applied

A format is read as ordinary bytes and spelled directives; each directive takes its width,
its precision and its value from the front of the arguments, as far as it asks for them,
and the kinds of these arguments must be those that it accepts (`Reads`). Printing gives
output exactly if the whole format can be read in this way and no value is to be rendered
with more places than there may be (`print_outcome`).
-/

namespace Rtos

namespace Format

/-- A conversion that a format applies to an argument, with the precision it has there. -/
structure Use where
  conversion : Conversion
  precision : Option Nat
  argument : Argument

/-- There are enough places for the value; only floating-point values need places. -/
def Use.Fits (use : Use) : Prop :=
  use.conversion.isFloating = true → ∀ value ∈ use.argument.floating?,
    Layout.canRender ⟨{}, 0, use.precision⟩ use.conversion value = true

/-! ## What a directive takes -/

/--
The number that a written amount gives, and the arguments behind it. A star gives the low 64
bits of the next argument as a signed number.
-/
inductive Written.Gives : Written → List Argument → Int → List Argument → Prop where
  | digits {bytes : Bytes} {valid : ∀ byte ∈ bytes, isDigit byte = true}
      {arguments : List Argument} :
      Gives (.digits bytes valid) arguments (numberOfDigits bytes) arguments
  | star {argument : Argument} {arguments : List Argument}
      (accepted : argument.kind ∈ integerKinds) :
      Gives .star (argument :: arguments) (argument.integer.bmod (2 ^ 64)) arguments

/-- The precision that is given, if any; a negative one counts as none. -/
inductive GivesPrecision :
    Option Written → List Argument → Option Nat → List Argument → Prop where
  | absent {arguments : List Argument} : GivesPrecision none arguments none arguments
  | given {written : Written} {arguments behind : List Argument} {number : Int}
      (gives : written.Gives arguments number behind) :
      GivesPrecision (some written) arguments (if number < 0 then none else some number.toNat)
        behind

/-- The width and the precision of a directive are within the limit. -/
inductive Spelling.Amounts (spelling : Spelling) :
    List Argument → Option Nat → List Argument → Prop where
  | within {arguments behindWidth behind : List Argument} {precision : Option Nat} (width : Int)
      (widthGiven : spelling.width.Gives arguments width behindWidth)
      (widthWithin : width.natAbs ≤ amountLimit)
      (precisionGiven : GivesPrecision spelling.precision behindWidth precision behind)
      (precisionWithin : ∀ number ∈ precision, number ≤ amountLimit) :
      Amounts spelling arguments precision behind

/-- What a directive uses of the arguments, and the arguments that it leaves. -/
inductive Spelling.Takes (spelling : Spelling) :
    List Argument → List Use → List Argument → Prop where
  | nothing {arguments remaining : List Argument} {precision : Option Nat}
      (percent : spelling.letter.2 = .percent)
      (amounts : spelling.Amounts arguments precision remaining) :
      Takes spelling arguments [] remaining
  | value {arguments remaining : List Argument} {precision : Option Nat} {argument : Argument}
      (notPercent : spelling.letter.2 ≠ .percent)
      (amounts : spelling.Amounts arguments precision (argument :: remaining))
      (accepted : argument.kind ∈ spelling.letter.2.kinds) :
      Takes spelling arguments [⟨spelling.letter.2, precision, argument⟩] remaining

/--
A format is read from its start up to the rest that is left, with all uses of arguments and
the arguments that remain.
-/
inductive Reads : Bytes → List Argument → List Use → Bytes → List Argument → Prop where
  | stop {format : Bytes} {arguments : List Argument} : Reads format arguments [] format arguments
  | byte {first : UInt8} {format rest : Bytes} {arguments remaining : List Argument}
      {uses : List Use} (ordinary : first ≠ percentSign)
      (others : Reads format arguments uses rest remaining) :
      Reads (first :: format) arguments uses rest remaining
  | directive {format rest : Bytes} {arguments behind remaining : List Argument}
      {taken uses : List Use} (spelling : Spelling)
      (takes : spelling.Takes arguments taken behind)
      (others : Reads format behind uses rest remaining) :
      Reads (percentSign :: (spelling.bytes ++ format)) arguments (taken ++ uses) rest remaining

/-- The whole format can be read, and there are enough places for every value. -/
def Applies (format : Bytes) (arguments : List Argument) : Prop :=
  ∃ uses remaining, Reads format arguments uses [] remaining ∧ ∀ use ∈ uses, use.Fits

/-- The format can be read up to a value for which there are not enough places. -/
def Overflows (format : Bytes) (arguments : List Argument) : Prop :=
  ∃ uses use rest remaining, Reads format arguments (uses ++ [use]) rest remaining ∧
    (∀ earlier ∈ uses, earlier.Fits) ∧ ¬ use.Fits

/-! ## Layouts -/

variable {written : Written} {spelling other : Spelling}
  {arguments behind remaining : List Argument} {uses taken : List Use}

/-- A star gives the signed reading of the next argument, if it has one. -/
theorem Written.gives_star_iff {number : Int} :
    star.Gives arguments number behind ↔
      ∃ argument value, arguments = argument :: behind ∧ argument.signed? = some value ∧
        value.toInt = number := by
  constructor
  · intro gives
    cases gives with
    | @star argument _ accepted =>
      have reading := argument.map_signed?
      rw [if_pos accepted, Option.map_eq_some_iff] at reading
      obtain ⟨value, signed, same⟩ := reading
      exact ⟨argument, value, rfl, signed, same⟩
  · rintro ⟨argument, value, rfl, signed, rfl⟩
    have reading := argument.map_signed?
    rw [signed, Option.map_some] at reading
    by_cases accepted : argument.kind ∈ integerKinds
    · rw [if_pos accepted] at reading
      rw [Option.some.inj reading]
      exact .star accepted
    · rw [if_neg accepted] at reading
      cases reading

/-- Digits of an amount within the limit are counted to their end, so they denote just it. -/
theorem min_countLimit_eq_iff {number amount : Nat} (within : amount ≤ amountLimit) :
    min number countLimit = amount ↔ number = amount := by
  have below : amountLimit < countLimit := by decide
  omega

/-- A width within the limit is the magnitude of the number that is given for it. -/
theorem Amount.width?_eq_some_iff (flags : Flags) {nextFlags : Flags} {width : Nat}
    (within : width ≤ amountLimit) :
    Amount.width? written.amount flags arguments = some (nextFlags, width, behind) ↔
      ∃ number, written.Gives arguments number behind ∧ number.natAbs = width ∧
        flags.leftIf (number < 0) = nextFlags := by
  cases written with
  | digits bytes valid =>
    have notNegative : ¬ (numberOfDigits bytes : Int) < 0 := by omega
    have flagsSame : flags.leftIf ((numberOfDigits bytes : Int) < 0) = flags := by
      simp [Flags.leftIf, notNegative]
    rw [Written.amount, Amount.width?]
    constructor
    · intro same
      simp only [Option.some.injEq, Prod.mk.injEq] at same
      obtain ⟨rfl, counted, rfl⟩ := same
      rw [min_countLimit_eq_iff within] at counted
      exact ⟨_, .digits, (Int.natAbs_natCast _).trans counted, flagsSame⟩
    · rintro ⟨number, gives, rfl, rfl⟩
      cases gives
      rw [Int.natAbs_natCast] at within
      rw [flagsSame, Int.natAbs_natCast, (min_countLimit_eq_iff within).mpr rfl]
  | star =>
    simp only [Written.gives_star_iff]
    cases arguments with
    | nil => simp [Written.amount, Amount.width?]
    | cons argument rest =>
      simp only [Written.amount, Amount.width?, Option.map_eq_some_iff, Prod.mk.injEq,
        List.cons.injEq]
      constructor
      · rintro ⟨value, signed, flagsSame, same, rfl⟩
        exact ⟨_, ⟨argument, value, ⟨rfl, rfl⟩, signed, rfl⟩, same, flagsSame⟩
      · rintro ⟨number, ⟨_, value, ⟨rfl, rfl⟩, signed, rfl⟩, same, flagsSame⟩
        exact ⟨value, signed, flagsSame, same, rfl⟩

theorem givesPrecision_some_iff {precision : Option Nat} :
    GivesPrecision (some written) arguments precision behind ↔
      ∃ number, written.Gives arguments number behind ∧
        (if number < 0 then none else some number.toNat) = precision := by
  constructor
  · intro gives
    cases gives with
    | given gives => exact ⟨_, gives, rfl⟩
  · rintro ⟨number, gives, rfl⟩
    exact .given gives

/-- A precision within the limit is the one that is given for it. -/
theorem Amount.precision?_eq_some_iff {writtenPrecision : Option Written}
    {precision : Option Nat} (within : ∀ number ∈ precision, number ≤ amountLimit) :
    Amount.precision? (writtenPrecision.map Written.amount) arguments = some (precision, behind) ↔
      GivesPrecision writtenPrecision arguments precision behind := by
  cases writtenPrecision with
  | none =>
    rw [Option.map_none, Amount.precision?]
    constructor
    · intro same
      cases same
      exact .absent
    · intro gives
      cases gives
      rfl
  | some written =>
    rw [givesPrecision_some_iff]
    cases written with
    | digits bytes valid =>
      have notNegative : ¬ (numberOfDigits bytes : Int) < 0 := by omega
      rw [Option.map_some, Written.amount, Amount.precision?]
      constructor
      · intro same
        simp only [Option.some.injEq, Prod.mk.injEq] at same
        obtain ⟨rfl, rfl⟩ := same
        have counted := (min_countLimit_eq_iff (within _ rfl)).mp rfl
        refine ⟨_, .digits, ?_⟩
        rw [if_neg notNegative, Int.toNat_natCast, ← counted]
      · rintro ⟨number, gives, rfl⟩
        cases gives
        rw [if_neg notNegative, Int.toNat_natCast] at within ⊢
        rw [(min_countLimit_eq_iff (within _ rfl)).mpr rfl]
    | star =>
      simp only [Written.gives_star_iff]
      cases arguments with
      | nil => simp [Written.amount, Amount.precision?]
      | cons argument rest =>
        simp only [Option.map_some, Written.amount, Amount.precision?, Option.map_eq_some_iff,
          Prod.mk.injEq, List.cons.injEq]
        constructor
        · rintro ⟨value, signed, same, rfl⟩
          exact ⟨_, ⟨argument, value, ⟨rfl, rfl⟩, signed, rfl⟩, same⟩
        · rintro ⟨number, ⟨_, value, ⟨rfl, rfl⟩, signed, rfl⟩, same⟩
          exact ⟨value, signed, same, rfl⟩

theorem Layout.isWithinLimit_iff (layout : Layout) :
    layout.isWithinLimit = true ↔
      layout.width ≤ amountLimit ∧ ∀ number ∈ layout.precision, number ≤ amountLimit := by
  rw [Layout.isWithinLimit, Bool.and_eq_true, decide_eq_true_iff]
  cases layout.precision <;> simp

/-- A layout is made of a width and a precision that are taken one after the other. -/
theorem Directive.layout?_eq_some_iff {directive : Directive} {layout : Layout} :
    directive.layout? arguments = some (layout, behind) ↔
      ∃ behindWidth,
        directive.width.width? directive.flags arguments =
          some (layout.flags, layout.width, behindWidth) ∧
        Amount.precision? directive.precision behindWidth = some (layout.precision, behind) ∧
        layout.isWithinLimit = true := by
  constructor
  · intro read
    simp only [Directive.layout?, Option.bind_eq_bind, Option.bind_eq_some_iff, Prod.exists] at read
    obtain ⟨flags, width, behindWidth, widthRead, precision, rest, precisionRead, read⟩ := read
    split at read
    case isTrue within =>
      cases read
      exact ⟨behindWidth, widthRead, precisionRead, within⟩
    case isFalse => cases read
  · rintro ⟨behindWidth, widthRead, precisionRead, within⟩
    simp only [Directive.layout?, widthRead, precisionRead, Option.bind_eq_bind, Option.bind_some]
    exact if_pos within

/-- The layout of a directive whose amounts are given and within the limit. -/
theorem Spelling.layout?_of_gives {behindWidth : List Argument} {width : Int}
    {precision : Option Nat} (widthGiven : spelling.width.Gives arguments width behindWidth)
    (widthWithin : width.natAbs ≤ amountLimit)
    (precisionGiven : GivesPrecision spelling.precision behindWidth precision behind)
    (precisionWithin : ∀ number ∈ precision, number ≤ amountLimit) :
    spelling.directive.layout? arguments =
      some (⟨spelling.directive.flags.leftIf (width < 0), width.natAbs, precision⟩,
        behind) := by
  have widthRead := (Amount.width?_eq_some_iff spelling.directive.flags widthWithin).mpr
    ⟨width, widthGiven, rfl, rfl⟩
  have within := (Layout.isWithinLimit_iff ⟨spelling.directive.flags.leftIf (width < 0),
    width.natAbs, precision⟩).mpr ⟨widthWithin, precisionWithin⟩
  exact Directive.layout?_eq_some_iff.mpr ⟨behindWidth, widthRead,
    (Amount.precision?_eq_some_iff precisionWithin).mpr precisionGiven, within⟩

/-- A directive has a layout exactly if its amounts are given and within the limit. -/
theorem Spelling.amounts_iff {precision : Option Nat} :
    spelling.Amounts arguments precision behind ↔
      ∃ layout, spelling.directive.layout? arguments = some (layout, behind) ∧
        layout.precision = precision := by
  constructor
  · intro amounts
    cases amounts with
    | within number widthGiven widthWithin precisionGiven precisionWithin =>
      exact ⟨_, Spelling.layout?_of_gives widthGiven widthWithin precisionGiven precisionWithin,
        rfl⟩
  · rintro ⟨layout, read, rfl⟩
    obtain ⟨behindWidth, widthRead, precisionRead, within⟩ :=
      Directive.layout?_eq_some_iff.mp read
    obtain ⟨widthWithin, precisionWithin⟩ := layout.isWithinLimit_iff.mp within
    obtain ⟨number, widthGiven, same, _⟩ :=
      (Amount.width?_eq_some_iff _ widthWithin).mp widthRead
    have precisionGiven := (Amount.precision?_eq_some_iff precisionWithin).mp precisionRead
    exact .within number widthGiven (same ▸ widthWithin) precisionGiven precisionWithin

/-- What a directive takes depends on what it means and not on how it is spelled. -/
theorem Spelling.takes_iff :
    spelling.Takes arguments taken remaining ↔
      ∃ layout behind, spelling.directive.layout? arguments = some (layout, behind) ∧
        (spelling.letter.2 = .percent ∧ taken = [] ∧ remaining = behind ∨
          spelling.letter.2 ≠ .percent ∧ ∃ argument, behind = argument :: remaining ∧
            argument.kind ∈ spelling.letter.2.kinds ∧
            taken = [⟨spelling.letter.2, layout.precision, argument⟩]) := by
  constructor
  · intro takes
    cases takes with
    | nothing percent amounts =>
      obtain ⟨layout, read, _⟩ := Spelling.amounts_iff.mp amounts
      exact ⟨layout, _, read, Or.inl ⟨percent, rfl, rfl⟩⟩
    | value notPercent amounts accepted =>
      obtain ⟨layout, read, rfl⟩ := Spelling.amounts_iff.mp amounts
      exact ⟨layout, _, read, Or.inr ⟨notPercent, _, rfl, accepted, rfl⟩⟩
  · rintro ⟨layout, behind, read, ⟨percent, rfl, rfl⟩ |
      ⟨notPercent, argument, rfl, accepted, rfl⟩⟩
    · exact .nothing percent (Spelling.amounts_iff.mpr ⟨layout, read, rfl⟩)
    · exact .value notPercent (Spelling.amounts_iff.mpr ⟨layout, read, rfl⟩) accepted

theorem Spelling.Takes.congr (takes : other.Takes arguments taken remaining)
    (same : other.directive = spelling.directive) : spelling.Takes arguments taken remaining := by
  have conversion : other.letter.2 = spelling.letter.2 :=
    congrArg Directive.conversion same
  rw [Spelling.takes_iff, same, conversion] at takes
  exact Spelling.takes_iff.mpr takes

theorem Spelling.Takes.eq {otherTaken : List Use} {otherRemaining : List Argument}
    (takes : spelling.Takes arguments taken remaining)
    (otherTakes : spelling.Takes arguments otherTaken otherRemaining) :
    otherTaken = taken ∧ otherRemaining = remaining := by
  obtain ⟨layout, behind, read, cases⟩ := Spelling.takes_iff.mp takes
  obtain ⟨otherLayout, otherBehind, otherRead, otherCases⟩ := Spelling.takes_iff.mp otherTakes
  rw [read] at otherRead
  cases otherRead
  rcases cases with ⟨percent, rfl, rfl⟩ | ⟨notPercent, argument, rfl, _, rfl⟩
  · rcases otherCases with ⟨_, rfl, rfl⟩ | ⟨notPercent, _⟩
    · exact ⟨rfl, rfl⟩
    · exact absurd percent notPercent
  · rcases otherCases with ⟨percent, _⟩ | ⟨_, otherArgument, sameBehind, _, rfl⟩
    · exact absurd percent notPercent
    · cases sameBehind
      exact ⟨rfl, rfl⟩

/-! ## Items -/

theorem Directive.operand?_of_isFloating {directive : Directive}
    (floating : directive.conversion.isFloating = true) (argument : Argument) :
    directive.operand? argument = argument.floating?.map .real := by
  rw [Directive.operand?]
  cases conversion : directive.conversion <;> rw [conversion] at floating <;>
    first | rfl | cases floating

theorem Operand.isRenderable_of_not_isFloating {directive : Directive} {argument : Argument}
    {operand : Operand} (notFloating : ¬ directive.conversion.isFloating = true)
    (found : directive.operand? argument = some operand) (layout : Layout) :
    operand.isRenderable layout directive.conversion = true := by
  cases operand with
  | integer negative magnitude => rfl
  | text bytes => rfl
  | real value =>
    rw [Directive.operand?] at found
    split at found <;> simp_all [Conversion.isFloating]

theorem Layout.canRender_congr (layout : Layout) (conversion : Conversion)
    (value : Number.Floating) :
    Layout.canRender ⟨{}, 0, layout.precision⟩ conversion value =
      layout.canRender conversion value := rfl

/-- An operand can be rendered if there are enough places for the use. -/
theorem Use.fits_iff {directive : Directive} {layout : Layout} {argument : Argument}
    {operand : Operand} (found : directive.operand? argument = some operand) :
    Use.Fits ⟨directive.conversion, layout.precision, argument⟩ ↔
      operand.isRenderable layout directive.conversion = true := by
  by_cases floating : directive.conversion.isFloating = true
  · rw [Directive.operand?_of_isFloating floating, Option.map_eq_some_iff] at found
    obtain ⟨value, read, rfl⟩ := found
    simp only [Use.Fits, floating, read, Option.mem_some_iff, forall_eq', forall_const]
    rw [Layout.canRender_congr, Operand.isRenderable]
  · refine iff_of_true (fun isFloating => absurd isFloating floating) ?_
    exact Operand.isRenderable_of_not_isFloating floating found layout

theorem Directive.itemIn_cons {directive : Directive} (layout : Layout) (argument : Argument)
    (rest : List Argument) (notPercent : directive.conversion ≠ .percent) :
    directive.itemIn layout (argument :: rest) =
      match directive.operand? argument with
      | none => .error .invalid
      | some value =>
          if value.isRenderable layout directive.conversion then
            .ok (.operand layout directive.conversion value, rest)
          else .error .tooManyPlaces :=
  if_neg notPercent

/-- What becomes of a directive that is no percent sign, once its layout is known. -/
theorem Directive.itemIn_cases (directive : Directive) (layout : Layout) (behind : List Argument)
    (notPercent : directive.conversion ≠ .percent) :
    (∀ argument rest, behind = argument :: rest →
        argument.kind ∉ directive.conversion.kinds) ∧
        directive.itemIn layout behind = .error .invalid ∨
      ∃ argument rest, behind = argument :: rest ∧
        argument.kind ∈ directive.conversion.kinds ∧
        (Use.Fits ⟨directive.conversion, layout.precision, argument⟩ ∧
            (∃ item, directive.itemIn layout behind = .ok (item, rest)) ∨
          ¬ Use.Fits ⟨directive.conversion, layout.precision, argument⟩ ∧
            directive.itemIn layout behind = .error .tooManyPlaces) := by
  cases behind with
  | nil =>
    refine Or.inl ⟨?_, if_neg notPercent⟩
    intro argument rest none
    cases none
  | cons argument rest =>
    have accepts := directive.isSome_operand? argument
    rw [Directive.itemIn_cons layout argument rest notPercent]
    cases operand : directive.operand? argument with
    | none =>
      rw [operand, Option.isSome_none, eq_comm, decide_eq_false_iff_not] at accepts
      refine Or.inl ⟨?_, rfl⟩
      intro other others same
      cases same
      exact accepts
    | some value =>
      rw [operand, Option.isSome_some, eq_comm, decide_eq_true_iff] at accepts
      refine Or.inr ⟨argument, rest, rfl, accepts, ?_⟩
      rw [Use.fits_iff operand]
      by_cases renderable : value.isRenderable layout directive.conversion = true
      · exact Or.inl ⟨renderable, _, if_pos renderable⟩
      · exact Or.inr ⟨renderable, if_neg renderable⟩

/--
A directive either takes what fits and becomes an item, or takes a value for which there are
not enough places, or takes nothing.
-/
theorem Spelling.item_cases (spelling : Spelling) (arguments : List Argument) :
    (∃ taken remaining item, spelling.Takes arguments taken remaining ∧
        (∀ use ∈ taken, use.Fits) ∧
        spelling.directive.item arguments = .ok (item, remaining)) ∨
      (∃ use remaining, spelling.Takes arguments [use] remaining ∧ ¬ use.Fits ∧
        spelling.directive.item arguments = .error .tooManyPlaces) ∨
      (∀ taken remaining, ¬ spelling.Takes arguments taken remaining) ∧
        spelling.directive.item arguments = .error .invalid := by
  rw [Directive.item]
  cases read : spelling.directive.layout? arguments with
  | none =>
    refine Or.inr (Or.inr ⟨?_, rfl⟩)
    intro taken remaining takes
    obtain ⟨layout, behind, found, _⟩ := Spelling.takes_iff.mp takes
    rw [read] at found
    cases found
  | some found =>
    obtain ⟨layout, behind⟩ := found
    have amounts := Spelling.amounts_iff.mpr ⟨layout, read, rfl⟩
    by_cases percent : spelling.letter.2 = .percent
    · exact Or.inl ⟨[], behind, _, .nothing percent amounts, by simp, if_pos percent⟩
    rcases spelling.directive.itemIn_cases layout behind percent with
      ⟨refused, invalid⟩ |
      ⟨argument, rest, rfl, accepted, ⟨fits, item, ok⟩ | ⟨full, tooMany⟩⟩
    · refine Or.inr (Or.inr ⟨?_, invalid⟩)
      intro taken remaining takes
      obtain ⟨_, _, found, ⟨isPercent, _⟩ | ⟨_, argument, same, accepted, _⟩⟩ :=
        Spelling.takes_iff.mp takes
      · exact percent isPercent
      · rw [read] at found
        cases found
        exact refused argument remaining same accepted
    · refine Or.inl ⟨_, rest, item, .value percent amounts accepted, ?_, ok⟩
      rw [List.forall_mem_singleton]
      exact fits
    · exact Or.inr (Or.inl ⟨_, rest, .value percent amounts accepted, full, tooMany⟩)

/-! ## Formats -/

variable {format : Bytes}

theorem applies_nil (arguments : List Argument) : Applies [] arguments :=
  ⟨[], arguments, .stop, by simp⟩

theorem not_overflows_nil (arguments : List Argument) : ¬ Overflows [] arguments := by
  rintro ⟨uses, use, rest, remaining, reads, _⟩
  generalize same : uses ++ [use] = all at reads
  cases reads
  exact absurd same (List.concat_ne_nil _ _)

theorem applies_byte {first : UInt8} (ordinary : first ≠ percentSign) :
    Applies (first :: format) arguments ↔ Applies format arguments := by
  constructor
  · rintro ⟨uses, remaining, reads, fits⟩
    cases reads with
    | byte _ others => exact ⟨uses, remaining, others, fits⟩
    | directive => exact absurd rfl ordinary
  · rintro ⟨uses, remaining, reads, fits⟩
    exact ⟨uses, remaining, .byte ordinary reads, fits⟩

theorem overflows_byte {first : UInt8} (ordinary : first ≠ percentSign) :
    Overflows (first :: format) arguments ↔ Overflows format arguments := by
  constructor
  · rintro ⟨uses, use, rest, remaining, reads, fits⟩
    generalize same : uses ++ [use] = all at reads
    cases reads with
    | stop => exact absurd same (List.concat_ne_nil _ _)
    | byte _ others => exact ⟨uses, use, rest, remaining, same ▸ others, fits⟩
    | directive => exact absurd rfl ordinary
  · rintro ⟨uses, use, rest, remaining, reads, fits⟩
    exact ⟨uses, use, rest, remaining, .byte ordinary reads, fits⟩

/-- What is read behind a percent sign is one spelled directive and then the others. -/
theorem Reads.behind_percent {bytes rest : Bytes}
    (reads : Reads (percentSign :: bytes) arguments uses rest remaining)
    (some : uses ≠ [] ∨ rest = []) :
    ∃ (spelling : Spelling) (format : Bytes) (taken others : List Use) (behind : List Argument),
      bytes = spelling.bytes ++ format ∧ spelling.Takes arguments taken behind ∧
        uses = taken ++ others ∧ Reads format behind others rest remaining := by
  generalize whole : percentSign :: bytes = all at reads
  cases reads with
  | stop =>
    subst whole
    rcases some with nonempty | empty
    · exact absurd rfl nonempty
    · cases empty
  | byte ordinary =>
    cases whole
    exact absurd rfl ordinary
  | directive spelling takes others =>
    cases whole
    exact ⟨spelling, _, _, _, _, rfl, takes, rfl, others⟩

/-- The reading of a directive and of what it takes is the only one. -/
theorem Reads.of_takes {rest : Bytes} (takes : spelling.Takes arguments taken behind)
    (reads : Reads (percentSign :: (spelling.bytes ++ format)) arguments uses rest remaining)
    (some : uses ≠ [] ∨ rest = []) :
    ∃ others, uses = taken ++ others ∧ Reads format behind others rest remaining := by
  obtain ⟨other, otherFormat, otherTaken, others, otherBehind, split, otherTakes, rfl,
    othersRead⟩ := reads.behind_percent some
  have read := spelling.read?_append format
  rw [split, other.read?_append otherFormat] at read
  simp only [Option.some.injEq, Prod.mk.injEq] at read
  obtain ⟨rfl, rfl⟩ := takes.eq (otherTakes.congr read.1)
  exact ⟨others, rfl, read.2 ▸ othersRead⟩

theorem applies_directive (takes : spelling.Takes arguments taken behind) :
    Applies (percentSign :: (spelling.bytes ++ format)) arguments ↔
      (∀ use ∈ taken, use.Fits) ∧ Applies format behind := by
  constructor
  · rintro ⟨uses, remaining, reads, fits⟩
    obtain ⟨others, rfl, othersRead⟩ := reads.of_takes takes (Or.inr rfl)
    rw [List.forall_mem_append] at fits
    exact ⟨fits.1, others, remaining, othersRead, fits.2⟩
  · rintro ⟨takenFits, others, remaining, reads, fits⟩
    refine ⟨taken ++ others, remaining, .directive spelling takes reads, ?_⟩
    rw [List.forall_mem_append]
    exact ⟨takenFits, fits⟩

/-- Among what a directive takes that fits there is none for which there are not enough places. -/
theorem overflows_behind (takes : spelling.Takes arguments taken behind)
    (fits : ∀ use ∈ taken, use.Fits) :
    Overflows (percentSign :: (spelling.bytes ++ format)) arguments ↔
      Overflows format behind := by
  constructor
  · rintro ⟨uses, use, rest, remaining, reads, earlierFit, full⟩
    obtain ⟨others, split, othersRead⟩ :=
      reads.of_takes takes (Or.inl (List.concat_ne_nil _ _))
    rcases List.eq_nil_or_concat others with rfl | ⟨earlier, last, rfl⟩
    · rw [List.append_nil] at split
      exact absurd (fits use (split ▸ List.mem_concat_self)) full
    · rw [List.concat_eq_append, ← List.append_assoc] at split
      obtain ⟨rfl, same⟩ := List.append_inj' split rfl
      cases same
      rw [List.forall_mem_append] at earlierFit
      rw [List.concat_eq_append] at othersRead
      exact ⟨earlier, use, rest, remaining, othersRead, earlierFit.2, full⟩
  · rintro ⟨uses, use, rest, remaining, reads, earlierFit, full⟩
    refine ⟨taken ++ uses, use, rest, remaining, ?_, ?_, full⟩
    · rw [List.append_assoc]
      exact .directive spelling takes reads
    · rw [List.forall_mem_append]
      exact ⟨fits, earlierFit⟩

theorem overflows_here {use : Use} (takes : spelling.Takes arguments [use] behind)
    (full : ¬ use.Fits) : Overflows (percentSign :: (spelling.bytes ++ format)) arguments :=
  have reads : Reads (percentSign :: (spelling.bytes ++ format)) arguments ([use] ++ []) format
      behind := .directive spelling takes .stop
  ⟨[], use, format, behind, reads, by simp, full⟩

theorem not_applies_of_unread {bytes : Bytes}
    (unread : ∀ (other : Spelling) (format : Bytes) (taken : List Use) (behind : List Argument),
      bytes = other.bytes ++ format → ¬ other.Takes arguments taken behind) :
    ¬ Applies (percentSign :: bytes) arguments ∧
      ¬ Overflows (percentSign :: bytes) arguments := by
  constructor
  · rintro ⟨uses, remaining, reads, _⟩
    obtain ⟨other, format, taken, _, behind, split, takes, _⟩ :=
      reads.behind_percent (Or.inr rfl)
    exact unread other format taken behind split takes
  · rintro ⟨uses, use, rest, remaining, reads, _⟩
    obtain ⟨other, format, taken, _, behind, split, takes, _⟩ :=
      reads.behind_percent (Or.inl (List.concat_ne_nil _ _))
    exact unread other format taken behind split takes

theorem not_applies_of_not_takes (format : Bytes)
    (nothing : ∀ taken remaining, ¬ spelling.Takes arguments taken remaining) :
    ¬ Applies (percentSign :: (spelling.bytes ++ format)) arguments ∧
      ¬ Overflows (percentSign :: (spelling.bytes ++ format)) arguments := by
  apply not_applies_of_unread
  intro other otherFormat taken behind split takes
  have read := spelling.read?_append format
  rw [split, other.read?_append otherFormat] at read
  simp only [Option.some.injEq, Prod.mk.injEq] at read
  exact nothing taken behind (takes.congr read.1)

theorem not_applies_of_malformed {bytes : Bytes} (malformed : Directive.read? bytes = none)
    (arguments : List Argument) :
    ¬ Applies (percentSign :: bytes) arguments ∧
      ¬ Overflows (percentSign :: bytes) arguments := by
  apply not_applies_of_unread
  intro other otherFormat taken behind split takes
  rw [split, other.read?_append] at malformed
  cases malformed

/-- The three ways in which the application of a format can end, and when it ends in each. -/
inductive Ends (format : Bytes) (arguments : List Argument) {α : Type} :
    Except Failure α → Prop where
  | applied (applies : Applies format arguments) (within : ¬ Overflows format arguments)
      (value : α) : Ends format arguments (.ok value)
  | overflown (not : ¬ Applies format arguments) (overflows : Overflows format arguments) :
      Ends format arguments (.error .tooManyPlaces)
  | refused (not : ¬ Applies format arguments) (within : ¬ Overflows format arguments) :
      Ends format arguments (.error .invalid)

theorem Piece.items_of_ok {piece : Piece} {item : Item} (pieces : List Piece)
    (found : piece.item arguments = .ok (item, behind)) :
    Piece.items (piece :: pieces) arguments =
      (Piece.items pieces behind).map fun result => (item :: result.1, result.2) := by
  rw [Piece.items, found]
  change (Piece.items pieces behind >>= fun result => .ok (item :: result.1, result.2)) = _
  cases Piece.items pieces behind <;> rfl

theorem Piece.items_of_error (piece : Piece) {failure : Failure} (pieces : List Piece)
    (failed : piece.item arguments = .error failure) :
    Piece.items (piece :: pieces) arguments = .error failure := by
  rw [Piece.items, failed]
  rfl

/-- A piece in front changes nothing if the format with it does what the format behind it does. -/
theorem Ends.cons {piece : Piece} {pieces : List Piece} {item : Item} {whole : Bytes}
    (found : piece.item arguments = .ok (item, behind))
    (applies : Applies whole arguments ↔ Applies format behind)
    (overflows : Overflows whole arguments ↔ Overflows format behind)
    (ends : Ends format behind (Piece.items pieces behind)) :
    Ends whole arguments (Piece.items (piece :: pieces) arguments) := by
  rw [Piece.items_of_ok pieces found]
  generalize Piece.items pieces behind = result at ends
  cases ends with
  | applied behindApplies within value =>
    exact .applied (applies.mpr behindApplies) (within ∘ overflows.mp) _
  | overflown not behindOverflows =>
    exact .overflown (not ∘ applies.mp) (overflows.mpr behindOverflows)
  | refused not within => exact .refused (not ∘ applies.mp) (within ∘ overflows.mp)

theorem ends_items (format : Bytes) (arguments : List Argument) :
    Ends format arguments (Piece.items (Piece.parse format) arguments) := by
  fun_induction Piece.parse format generalizing arguments with
  | case1 => exact .applied (applies_nil arguments) (not_overflows_nil arguments) _
  | case2 rest malformed =>
    have unread := not_applies_of_malformed malformed arguments
    exact .refused unread.1 unread.2
  | case3 rest directive remaining read ih =>
    obtain ⟨spelling, rfl, rfl⟩ := Directive.read?_eq_some_iff.mp read
    rcases spelling.item_cases arguments with
      ⟨taken, behind, item, takes, fits, found⟩ | ⟨use, behind, takes, full, failed⟩ |
      ⟨nothing, failed⟩
    · refine (ih behind).cons found ?_ (overflows_behind takes fits)
      rw [applies_directive takes, and_iff_right fits]
    · rw [Piece.items_of_error (.directive _) _ failed]
      refine .overflown ?_ (overflows_here takes full)
      rw [applies_directive takes, List.forall_mem_singleton]
      exact fun applies => full applies.1
    · rw [Piece.items_of_error (.directive _) _ failed]
      have unread := not_applies_of_not_takes remaining nothing
      exact .refused unread.1 unread.2
  | case4 byte rest ordinary ih =>
    exact (ih arguments).cons rfl (applies_byte ordinary) (overflows_byte ordinary)

theorem ends_print (format : Bytes) (arguments : List Argument) :
    Ends format arguments (print format arguments) := by
  have ends := ends_items format arguments
  rw [print, resolve]
  generalize Piece.items (Piece.parse format) arguments = result at ends
  cases ends with
  | applied applies within value => exact .applied applies within _
  | overflown not overflows => exact .overflown not overflows
  | refused not within => exact .refused not within

theorem run_print_of_ok {output : Bytes} (printed : print format arguments = .ok output)
    (string other : ByteString) :
    ((ByteString.Command.print format arguments).run string other).string.content = output ∧
      ((ByteString.Command.appendPrint format arguments).run string other).string.content =
        string.content ++ output := by
  simp only [ByteString.Command.run, ByteString.print, ByteString.appendPrint, printed]
  refine ⟨List.dropLast_concat, ?_⟩
  have appended : (ByteString.empty.setBytes output).content = output := List.dropLast_concat
  have content : (string.append (ByteString.empty.setBytes output)).content =
      string.content ++ (ByteString.empty.setBytes output).content := List.dropLast_concat
  exact content.trans (congrArg _ appended)

theorem run_print_of_error {failure : Failure} (failed : print format arguments = .error failure)
    (string other : ByteString) :
    (ByteString.Command.print format arguments).run string other =
        ⟨string, other, .ofFailure failure⟩ ∧
      (ByteString.Command.appendPrint format arguments).run string other =
        ⟨string, other, .ofFailure failure⟩ := by
  simp only [ByteString.Command.run, ByteString.print, ByteString.appendPrint, failed]
  exact ⟨rfl, rfl⟩

/--
Printing gives output exactly if the whole format can be read, with arguments of the right
kinds and amounts within the limit, and there are enough places for every value. If there
are not enough places for the first value that does not fit, the program breaks. In every
other case the format is invalid. A string changes only if there is output.
-/
theorem print_outcome (format : Bytes) (arguments : List Argument) :
    ((∃ output, print format arguments = .ok output) ↔ Applies format arguments) ∧
      (print format arguments = .error .tooManyPlaces ↔ Overflows format arguments) ∧
      (print format arguments = .error .invalid ↔
        ¬ Applies format arguments ∧ ¬ Overflows format arguments) ∧
      (∀ output, print format arguments = .ok output → ∀ string other : ByteString,
        ((ByteString.Command.print format arguments).run string other).string.content = output ∧
          ((ByteString.Command.appendPrint format arguments).run string other).string.content =
            string.content ++ output) ∧
      ∀ failure, print format arguments = .error failure → ∀ string other : ByteString,
        (ByteString.Command.print format arguments).run string other =
            ⟨string, other, .ofFailure failure⟩ ∧
          (ByteString.Command.appendPrint format arguments).run string other =
            ⟨string, other, .ofFailure failure⟩ := by
  have ends := ends_print format arguments
  refine ⟨?_, ?_, ?_, fun output => run_print_of_ok, fun failure => run_print_of_error⟩ <;>
    generalize print format arguments = result at ends <;>
    cases ends <;> simp_all

/-! ## A format that breaks the program -/

/-- The directive `%.65535g` without its percent sign. -/
def manyDigits : Spelling where
  flags := []
  width := .digits [] nofun
  precision := some (.digits [0x36, 0x35, 0x35, 0x33, 0x35] (List.all_eq_true.mp (by decide)))
  modifier := ([], .word)
  letter := ('g', .general false)
  flags_valid := nofun
  modifier_mem := by decide
  letter_mem := by decide

/-- A thousandth, as it is nearest in 64 bits. -/
def thousandth : Number.Floating :=
  .ofBinary64 0x3F50624DD2F1A9FC

theorem manyDigits_takes :
    manyDigits.Takes [.floating thousandth]
      [⟨.general false, some 65535, .floating thousandth⟩] [] := by
  have width : manyDigits.width.Gives [.floating thousandth] 0 [.floating thousandth] := .digits
  have precision : GivesPrecision manyDigits.precision [.floating thousandth] (some 65535)
      [.floating thousandth] := .given .digits
  exact .value (by decide) (.within 0 width (by decide) precision (by decide)) (by decide)

/-- A value with few digits keeps its exponent when it is rounded to many. -/
theorem exponent_toScientific (value : Number.Decimal) (places : Nat) {length : Nat}
    (notZero : value.coefficient ≠ 0) (digits : Number.decimalLength value.coefficient = length)
    (few : length ≤ places + 1) :
    (value.toScientific places).exponent = (length : Int) - 1 - value.scale := by
  simp only [Number.Decimal.toScientific, if_neg notZero, digits, if_pos few]

/-- So many significant digits put more places behind the point than there may be. -/
theorem not_fits_thousandth :
    ¬ Use.Fits ⟨.general false, some 65535, .floating thousandth⟩ := by
  have decoded : thousandth = .finite false 4611686018427388 (-62) := by decide
  have digits : Number.decimalLength (4611686018427388 * 5 ^ 62) = 60 :=
    Number.length_digits_eq (by decide) (by decide) (by decide)
  have exponent : (Layout.generalRounding ⟨{}, 0, some 65535⟩
      ⟨4611686018427388 * 5 ^ 62, 62⟩).exponent = -3 :=
    exponent_toScientific ⟨4611686018427388 * 5 ^ 62, 62⟩ 65534 (by decide) digits (by decide)
  intro fits
  have renderable := fits rfl thousandth rfl
  have magnitude : Number.Floating.magnitude 4611686018427388 (-62) =
      ⟨4611686018427388 * 5 ^ 62, 62⟩ := rfl
  rw [decoded, Layout.canRender, magnitude] at renderable
  rw [Layout.hasPlacesFor, Layout.generalPlaces?, exponent] at renderable
  exact absurd renderable (by decide)

/--
There are formats that can be read completely, all of whose amounts are within the limit, and
that give no output.
-/
theorem not_output_of_reads :
    Reads (percentSign :: manyDigits.bytes) [.floating thousandth]
        [⟨.general false, some 65535, .floating thousandth⟩] [] [] ∧
      print (percentSign :: manyDigits.bytes) [.floating thousandth] = .error .tooManyPlaces := by
  have reads : Reads (percentSign :: (manyDigits.bytes ++ [])) [.floating thousandth]
      ([⟨.general false, some 65535, .floating thousandth⟩] ++ []) [] [] :=
    .directive manyDigits manyDigits_takes .stop
  have overflows : Overflows (percentSign :: (manyDigits.bytes ++ [])) [.floating thousandth] :=
    overflows_here manyDigits_takes not_fits_thousandth
  rw [List.append_nil] at reads overflows
  refine ⟨reads, ?_⟩
  have ends := ends_print (percentSign :: manyDigits.bytes) [.floating thousandth]
  generalize print _ _ = result at ends
  cases ends with
  | applied _ within => exact absurd overflows within
  | overflown => rfl
  | refused _ within => exact absurd overflows within

end Format

end Rtos
