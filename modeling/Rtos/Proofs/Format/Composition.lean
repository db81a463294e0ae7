import Rtos.Proofs.ByteString.Content
import Rtos.Proofs.Format.Acceptance

/-!
# Formats one behind the other

A directive ends where its own bytes end, and it takes its arguments from the front. What
stands behind a format that can be applied therefore changes neither how the format is read
nor what it takes: the pieces of two formats are the pieces of the one followed by those of
the other (`Piece.parse_append`), and the second format goes on with the arguments that the
first one leaves (`Piece.items_append`).

A text whose percent signs are doubled is a format that gives the text itself.
-/

namespace Rtos

namespace Format

variable {arguments behind : List Argument}

/-! ## What is taken does not depend on what is left -/

theorem Amount.exists_taken_of_width? {amount : Amount} {flags flags' : Flags} {width : Nat}
    (read : amount.width? flags arguments = some (flags', width, behind)) :
    ∃ taken, arguments = taken ++ behind ∧
      ∀ others, amount.width? flags (taken ++ others) = some (flags', width, others) := by
  rcases amount with value | _
  · simp only [Amount.width?, Option.some.injEq, Prod.mk.injEq] at read
    obtain ⟨rfl, rfl, rfl⟩ := read
    exact ⟨[], rfl, fun others => rfl⟩
  · rcases arguments with _ | ⟨next, rest⟩
    · cases read
    · simp only [Amount.width?, Option.map_eq_some_iff, Prod.mk.injEq] at read
      obtain ⟨value, signed, rfl, rfl, rfl⟩ := read
      refine ⟨[next], rfl, ?_⟩
      intro others
      simp [Amount.width?, signed]

theorem Amount.exists_taken_of_precision? {amount : Option Amount} {precision : Option Nat}
    (read : Amount.precision? amount arguments = some (precision, behind)) :
    ∃ taken, arguments = taken ++ behind ∧
      ∀ others, Amount.precision? amount (taken ++ others) = some (precision, others) := by
  rcases amount with _ | value | _
  · cases read
    exact ⟨[], rfl, fun others => rfl⟩
  · cases read
    exact ⟨[], rfl, fun others => rfl⟩
  · rcases arguments with _ | ⟨next, rest⟩
    · cases read
    · simp only [Amount.precision?, Option.map_eq_some_iff, Prod.mk.injEq] at read
      obtain ⟨value, signed, rfl, rfl⟩ := read
      refine ⟨[next], rfl, ?_⟩
      intro others
      simp [Amount.precision?, signed]

theorem Directive.exists_taken_of_layout? {directive : Directive} {layout : Layout}
    (read : directive.layout? arguments = some (layout, behind)) :
    ∃ taken, arguments = taken ++ behind ∧
      ∀ others, directive.layout? (taken ++ others) = some (layout, others) := by
  obtain ⟨middle, widthRead, precisionRead, within⟩ := Directive.layout?_eq_some_iff.mp read
  obtain ⟨first, rfl, widthAgain⟩ := Amount.exists_taken_of_width? widthRead
  obtain ⟨second, rfl, precisionAgain⟩ := Amount.exists_taken_of_precision? precisionRead
  refine ⟨first ++ second, (List.append_assoc ..).symm, ?_⟩
  intro others
  rw [List.append_assoc]
  exact Directive.layout?_eq_some_iff.mpr
    ⟨second ++ others, widthAgain _, precisionAgain others, within⟩

theorem Directive.exists_taken_of_itemIn {directive : Directive} {layout : Layout} {item : Item}
    (found : directive.itemIn layout arguments = .ok (item, behind)) :
    ∃ taken, arguments = taken ++ behind ∧
      ∀ others, directive.itemIn layout (taken ++ others) = .ok (item, others) := by
  by_cases percent : directive.conversion = .percent
  · simp only [Directive.itemIn, if_pos percent, Except.ok.injEq, Prod.mk.injEq] at found ⊢
    obtain ⟨rfl, rfl⟩ := found
    exact ⟨[], rfl, fun others => ⟨rfl, rfl⟩⟩
  · rcases arguments with _ | ⟨argument, rest⟩
    · simp [Directive.itemIn, percent] at found
    · refine ⟨[argument], ?_⟩
      rw [Directive.itemIn_cons layout argument rest percent] at found
      cases operand : directive.operand? argument with
      | none => simp [operand] at found
      | some value =>
        simp only [operand] at found
        split at found
        case isFalse => cases found
        case isTrue renderable =>
          cases found
          refine ⟨rfl, ?_⟩
          intro others
          simp [Directive.itemIn, percent, operand, renderable]

theorem Piece.exists_taken_of_item {piece : Piece} {item : Item}
    (found : piece.item arguments = .ok (item, behind)) :
    ∃ taken, arguments = taken ++ behind ∧
      ∀ others, piece.item (taken ++ others) = .ok (item, others) := by
  cases piece with
  | literal byte =>
    cases found
    exact ⟨[], rfl, fun others => rfl⟩
  | malformed => cases found
  | directive directive =>
    cases read : directive.layout? arguments with
    | none => simp [Piece.item, Directive.item, read] at found
    | some laidOut =>
      obtain ⟨layout, middle⟩ := laidOut
      simp only [Piece.item, Directive.item, read] at found
      obtain ⟨amounts, rfl, layoutAgain⟩ := Directive.exists_taken_of_layout? read
      obtain ⟨value, rfl, itemAgain⟩ := Directive.exists_taken_of_itemIn found
      refine ⟨amounts ++ value, (List.append_assoc ..).symm, ?_⟩
      intro others
      simp [Piece.item, Directive.item, layoutAgain, itemAgain]

/-- A first piece of a format that can be applied gives an item, and the others go on behind it. -/
theorem Piece.of_items_cons {piece : Piece} {pieces : List Piece} {items : List Item}
    (found : Piece.items (piece :: pieces) arguments = .ok (items, behind)) :
    ∃ item middle others, piece.item arguments = .ok (item, middle) ∧
      Piece.items pieces middle = .ok (others, behind) ∧ items = item :: others := by
  cases here : piece.item arguments with
  | error failure => simp [Piece.items_of_error piece pieces here] at found
  | ok result =>
    obtain ⟨item, middle⟩ := result
    rw [Piece.items_of_ok pieces here] at found
    cases later : Piece.items pieces middle with
    | error failure => simp [later, Except.map] at found
    | ok result =>
      obtain ⟨others, last⟩ := result
      simp only [later, Except.map, Except.ok.injEq, Prod.mk.injEq] at found
      obtain ⟨rfl, rfl⟩ := found
      exact ⟨item, middle, others, rfl, later, rfl⟩

theorem Piece.exists_taken_of_items {pieces : List Piece} {items : List Item}
    (found : Piece.items pieces arguments = .ok (items, behind)) :
    ∃ taken, arguments = taken ++ behind ∧
      ∀ others, Piece.items pieces (taken ++ others) = .ok (items, others) := by
  induction pieces generalizing arguments items with
  | nil =>
    cases found
    exact ⟨[], rfl, fun others => rfl⟩
  | cons piece pieces ih =>
    obtain ⟨item, middle, later, here, behindHere, rfl⟩ := Piece.of_items_cons found
    obtain ⟨first, rfl, hereAgain⟩ := Piece.exists_taken_of_item here
    obtain ⟨second, rfl, laterAgain⟩ := ih behindHere
    refine ⟨first ++ second, (List.append_assoc ..).symm, ?_⟩
    intro others
    rw [List.append_assoc, Piece.items_of_ok pieces (hereAgain _), laterAgain]
    rfl

theorem Piece.items_append {pieces : List Piece} {items : List Item} (more : List Piece)
    (found : Piece.items pieces arguments = .ok (items, behind)) :
    Piece.items (pieces ++ more) arguments =
      (Piece.items more behind).map fun result => (items ++ result.1, result.2) := by
  induction pieces generalizing arguments items with
  | nil =>
    cases found
    rw [List.nil_append]
    cases Piece.items more behind <;> rfl
  | cons piece pieces ih =>
    obtain ⟨item, middle, later, here, behindHere, rfl⟩ := Piece.of_items_cons found
    rw [List.cons_append, Piece.items_of_ok _ here, ih behindHere]
    cases Piece.items more behind <;> rfl

/-! ## What is read does not depend on what follows -/

theorem Piece.not_malformed_of_items {pieces : List Piece} {items : List Item}
    (found : Piece.items pieces arguments = .ok (items, behind)) : .malformed ∉ pieces := by
  induction pieces generalizing arguments items with
  | nil => simp
  | cons piece pieces ih =>
    obtain ⟨item, middle, later, here, behindHere, rfl⟩ := Piece.of_items_cons found
    intro malformedMem
    rcases List.mem_cons.mp malformedMem with rfl | laterMem
    · cases here
    · exact ih behindHere laterMem

@[simp]
theorem Piece.parse_nil : Piece.parse [] = [] := by
  rw [Piece.parse]

theorem Piece.parse_directive {bytes rest : Bytes} {directive : Directive}
    (read : Directive.read? bytes = some (directive, rest)) :
    Piece.parse (percentSign :: bytes) = .directive directive :: Piece.parse rest := by
  rw [Piece.parse, if_pos rfl]
  split
  case h_1 unread => rw [read] at unread; cases unread
  case h_2 found =>
    rw [read] at found
    cases found
    rfl

theorem Piece.parse_literal {byte : UInt8} (ordinary : byte ≠ percentSign) (rest : Bytes) :
    Piece.parse (byte :: rest) = .literal byte :: Piece.parse rest := by
  rw [Piece.parse, if_neg ordinary]

/-- A directive that has been read is spelled out, so that the same bytes are read again. -/
theorem Directive.read?_append {bytes rest : Bytes} {directive : Directive}
    (read : Directive.read? bytes = some (directive, rest)) (more : Bytes) :
    Directive.read? (bytes ++ more) = some (directive, rest ++ more) := by
  obtain ⟨spelling, rfl, rfl⟩ := Directive.read?_eq_some_iff.mp read
  rw [List.append_assoc]
  exact spelling.read?_append (rest ++ more)

theorem Piece.parse_append {first : Bytes} (second : Bytes)
    (wellFormed : .malformed ∉ Piece.parse first) :
    Piece.parse (first ++ second) = Piece.parse first ++ Piece.parse second := by
  fun_induction Piece.parse first with
  | case1 => rfl
  | case2 => exact absurd (List.mem_singleton.mpr rfl) wellFormed
  | case3 rest directive remaining read ih =>
    rw [List.cons_append, Piece.parse_directive (Directive.read?_append read second)]
    exact congrArg _ (ih fun laterMem => wellFormed (List.mem_cons_of_mem _ laterMem))
  | case4 byte rest ordinary ih =>
    rw [List.cons_append, Piece.parse_literal ordinary]
    exact congrArg _ (ih fun laterMem => wellFormed (List.mem_cons_of_mem _ laterMem))

/-! ## Printing one behind the other -/

/-- A format applied to arguments gives an output, and it leaves none of them. -/
def PrintsAll (format : Bytes) (arguments : List Argument) (output : Bytes) : Prop :=
  ∃ items, resolve format arguments = .ok (items, []) ∧ items.flatMap Item.render = output

/-- Printing gives output exactly if it does so and takes some of the first arguments. -/
theorem print_eq_ok_iff {format output : Bytes} :
    print format arguments = .ok output ↔
      ∃ taken, taken <+: arguments ∧ PrintsAll format taken output := by
  constructor
  · intro printed
    cases resolved : resolve format arguments with
    | error failure => simp [print, resolved, Except.map] at printed
    | ok result =>
      obtain ⟨items, remaining⟩ := result
      simp only [print, resolved, Except.map, Except.ok.injEq] at printed
      obtain ⟨taken, rfl, again⟩ := Piece.exists_taken_of_items resolved
      have alone := again []
      rw [List.append_nil] at alone
      exact ⟨taken, List.prefix_append _ _, items, alone, printed⟩
  · rintro ⟨taken, ⟨remaining, rfl⟩, items, resolved, rfl⟩
    obtain ⟨first, split, again⟩ := Piece.exists_taken_of_items resolved
    rw [List.append_nil] at split
    subst split
    rw [print, resolve, again]
    rfl

theorem PrintsAll.print_append {first output : Bytes} (prints : PrintsAll first arguments output)
    (second : Bytes) (others : List Argument) :
    print (first ++ second) (arguments ++ others) =
      (print second others).map (output ++ ·) := by
  obtain ⟨items, resolved, rfl⟩ := prints
  obtain ⟨taken, split, again⟩ := Piece.exists_taken_of_items resolved
  rw [List.append_nil] at split
  subst split
  have parsed := Piece.parse_append second (Piece.not_malformed_of_items resolved)
  rw [print, print, resolve, resolve, parsed, Piece.items_append _ (again others)]
  cases Piece.items (Piece.parse second) others with
  | error => rfl
  | ok result => simp [Except.map]

/-! ## Doubled percent signs -/

/-- Two percent signs are a directive that takes no argument and gives one. -/
theorem printsAll_percent : PrintsAll [percentSign, percentSign] [] [percentSign] := by
  have read : Directive.read? [percentSign] =
      some (⟨{}, .literal 0, none, .word, .percent⟩, []) := rfl
  have parsed := Piece.parse_directive read
  rw [Piece.parse_nil] at parsed
  exact ⟨[.literal percentSign], by rw [resolve, parsed]; rfl, rfl⟩

theorem printsAll_byte {byte : UInt8} (ordinary : byte ≠ percentSign) :
    PrintsAll [byte] [] [byte] := by
  have parsed : Piece.parse [byte] = [.literal byte] := by
    simp [Piece.parse_literal ordinary]
  exact ⟨[.literal byte], by rw [resolve, parsed]; rfl, rfl⟩

/-- The bytes with each percent sign doubled. -/
def escaped (bytes : Bytes) : Bytes :=
  [percentSign, percentSign].intercalate (Bytes.partsBetween [percentSign] bytes)

theorem escaped_cons_percent (rest : Bytes) :
    escaped (percentSign :: rest) = [percentSign, percentSign] ++ escaped rest := by
  rw [escaped, Bytes.partsBetween_cons_of_occurs (by simp) (by simp),
    Bytes.intercalate_cons _ _ (Bytes.partsBetween_ne_nil _ _)]
  rfl

theorem escaped_cons_of_ne {byte : UInt8} (ordinary : byte ≠ percentSign) (rest : Bytes) :
    escaped (byte :: rest) = [byte] ++ escaped rest := by
  have absent : [percentSign].isPrefixOf (byte :: rest) = false := by
    simp [List.isPrefixOf, ordinary.symm]
  rw [escaped, Bytes.partsBetween_cons_of_not absent,
    Bytes.intercalate_modifyHead _ _ (Bytes.partsBetween_ne_nil _ _)]
  rfl

theorem print_escaped (bytes : Bytes) (arguments : List Argument) :
    print (escaped bytes) arguments = .ok bytes := by
  induction bytes with
  | nil => simp [escaped, Bytes.partsBetween, Bytes.partsFrom, print, resolve, Piece.items,
      Except.map]
  | cons byte rest ih =>
    by_cases percent : byte = percentSign
    · subst percent
      have whole := printsAll_percent.print_append (escaped rest) arguments
      rw [ih] at whole
      rw [escaped_cons_percent]
      exact whole
    · have whole := (printsAll_byte percent).print_append (escaped rest) arguments
      rw [ih] at whole
      rw [escaped_cons_of_ne percent]
      exact whole

end Format

namespace ByteString

theorem appendPrint_setBytes (string : ByteString) (begun : Bytes) (format : Bytes)
    (arguments : List Format.Argument) :
    (string.setBytes begun).appendPrint format arguments =
      (Format.print format arguments).map fun output =>
        (string.setBytes (begun ++ output), output.length) := by
  rw [appendPrint, print]
  cases Format.print format arguments with
  | error failure => rfl
  | ok output => simp [Except.map, append, pushBytes, setBytes, withBuffer, content]

theorem content_replaceAll_percentSign (text : ByteString) :
    (text.replaceAll [Format.percentSign] [Format.percentSign, Format.percentSign]).1.content =
      Format.escaped text.content := by
  have replaced := replaceFrom_eq [Format.percentSign, Format.percentSign]
    (List.cons_ne_nil Format.percentSign []) []
    (congrArg (Bytes.fittingOffsets [Format.percentSign]) text.length_content.symm)
  rw [replaceAll, dif_pos (List.cons_ne_nil _ _), replaced]
  exact List.dropLast_concat

end ByteString

namespace Format

/--
Formats compose: behind a format that takes all of its arguments another one goes on as if it
stood alone, and writing the whole is writing the first and appending the second. Arguments
that a format does not need never change what it gives. Any text is given by the format that
has its percent signs doubled.
-/
theorem print_composition :
    (∀ (first : Bytes) (taken : List Argument) (output : Bytes), PrintsAll first taken output →
      ∀ (second : Bytes) (others : List Argument),
        print (first ++ second) (taken ++ others) = (print second others).map (output ++ ·) ∧
        ∀ string : ByteString,
          string.print (first ++ second) (taken ++ others) =
            string.print first taken >>= fun begun =>
              (begun.1.appendPrint second others).map fun whole =>
                (whole.1, begun.2 + whole.2)) ∧
    (∀ (format : Bytes) (arguments : List Argument) (output : Bytes),
      print format arguments = .ok output →
        ∃ taken remaining, arguments = taken ++ remaining ∧ PrintsAll format taken output ∧
          ∀ others, print format (taken ++ others) = .ok output) ∧
    ∀ (text : ByteString) (arguments : List Argument),
      print (text.replaceAll [percentSign] [percentSign, percentSign]).1.content arguments =
        .ok text.content := by
  refine ⟨?_, ?_, ?_⟩
  · intro first taken output prints second others
    refine ⟨prints.print_append second others, ?_⟩
    intro string
    have begun := print_eq_ok_iff.mpr ⟨taken, List.prefix_rfl, prints⟩
    rw [ByteString.print, ByteString.print, begun, prints.print_append]
    change _ = ((string.setBytes output).appendPrint second others).map fun whole =>
      (whole.1, output.length + whole.2)
    rw [ByteString.appendPrint_setBytes]
    cases print second others with
    | error failure => rfl
    | ok rest => simp [Except.map]
  · intro format arguments output printed
    obtain ⟨taken, ⟨remaining, rfl⟩, prints⟩ := print_eq_ok_iff.mp printed
    refine ⟨taken, remaining, rfl, prints, ?_⟩
    intro others
    exact print_eq_ok_iff.mpr ⟨taken, List.prefix_append _ _, prints⟩
  · intro text arguments
    rw [ByteString.content_replaceAll_percentSign]
    exact print_escaped text.content arguments

/-- The format `%s-` takes the first text, and what stands behind it goes on with the second. -/
theorem print_composition_text :
    PrintsAll [0x25, 0x73, 0x2D] [.bytes [0x61]] [0x61, 0x2D] ∧
      print ([0x25, 0x73, 0x2D] ++ [0x25, 0x73]) ([.bytes [0x61]] ++ [.bytes [0x62]]) =
        (print [0x25, 0x73] [.bytes [0x62]]).map ([0x61, 0x2D] ++ ·) := by
  have read : Directive.read? [0x73, 0x2D] =
      some (⟨{}, .literal 0, none, .word, .string⟩, [0x2D]) := rfl
  have parsed : Piece.parse [0x25, 0x73, 0x2D] =
      [.directive ⟨{}, .literal 0, none, .word, .string⟩, .literal 0x2D] := by
    have dash : (0x2D : UInt8) ≠ percentSign := by decide
    have rest := Piece.parse_directive read
    rw [Piece.parse_literal dash, Piece.parse_nil] at rest
    exact rest
  have prints : PrintsAll [0x25, 0x73, 0x2D] [.bytes [0x61]] [0x61, 0x2D] := by
    refine ⟨[.operand ⟨{}, 0, none⟩ .string (.text [0x61]), .literal 0x2D], ?_, rfl⟩
    rw [resolve, parsed]
    rfl
  exact ⟨prints, (print_composition.1 _ _ _ prints _ _).1⟩

end Format

end Rtos
