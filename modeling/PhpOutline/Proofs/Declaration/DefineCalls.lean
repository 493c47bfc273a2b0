import PhpOutline.Proofs.Declaration.FullNames
import PhpOutline.Proofs.Text.Lossy
import PhpOutline.Proofs.Text.Lowercase

namespace PhpOutline

/-! Which calls define a constant.

The name of the callee is read with replacement characters and compared in lower case.  That
comes to a test of its bytes, as no others are read as the ASCII letters of `define`, and
only these letters have them as their lowercase forms.
-/

open PhpOutline.Syntax
open PhpOutline.Text (Bytes asciiByte lowercaseAfter decodeLossy)

/-- The letters of `define` as bytes, each in lower or in upper case. -/
def SpellsDefine (bytes : Bytes) : Prop :=
  List.Forall₂ (fun byte letter => byte = letter ∨ byte = letter - 0x20) bytes
    [0x64, 0x65, 0x66, 0x69, 0x6E, 0x65]

instance (bytes : Bytes) : Decidable (SpellsDefine bytes) :=
  inferInstanceAs (Decidable (List.Forall₂ _ _ _))

/-- The byte of a separator. -/
def separatorByte : UInt8 := 0x5C

section Spelling

variable {chars : List Char}

theorem forall_of_dropWhile [BEq α] [LawfulBEq α] {items : List α} {dropped : α} {P : α → Prop}
    (here : P dropped) (left : ∀ item ∈ items.dropWhile (· == dropped), P item) :
    ∀ item ∈ items, P item := by
  induction items with
  | nil => simp
  | cons item rest inductionHypothesis =>
      rw [List.dropWhile_cons] at left
      split at left
      · rename_i same
        exact List.forall_mem_cons.mpr ⟨beq_iff_eq.mp same ▸ here, inductionHypothesis left⟩
      · exact left

theorem define_letters : ∀ letter ∈ "define".toList, letter.toNat < 128 ∧ letter ≠ 'k' := by
  rw [← List.forall_iff_forall_mem]
  decide

theorem letter_cases : ∀ char : Char, char.toNat < 128 → ∀ letter ∈ "define".toList,
    (asciiByte char = asciiByte letter ∨ asciiByte char = asciiByte letter - 0x20) ↔
      char.toLower = letter := by
  apply Text.forall_ascii
  simp only [← List.forall_iff_forall_mem]
  decide +kernel

theorem asciiByte_eq_separatorByte : ∀ char : Char, char.toNat < 128 →
    (asciiByte char = separatorByte ↔ char = separator) :=
  Text.forall_ascii (by decide +kernel)

theorem SpellsDefine.ascii {bytes : Bytes} (spelled : SpellsDefine bytes) :
    ∀ byte ∈ bytes, byte < 0x80 := by
  have small : ∀ letter ∈ ([0x64, 0x65, 0x66, 0x69, 0x6E, 0x65] : Bytes),
      letter < 0x80 ∧ letter - 0x20 < 0x80 := by
    rw [← List.forall_iff_forall_mem]
    decide
  intro byte member
  obtain ⟨letter, isLetter, rfl | rfl⟩ := exists_of_mem_left spelled member
  · exact (small _ isLetter).1
  · exact (small _ isLetter).2

theorem spellsDefine_map_asciiByte (ascii : ∀ char ∈ chars, char.toNat < 128) :
    SpellsDefine (chars.map asciiByte) ↔ Text.Spells chars "define".toList := by
  have letters : ([0x64, 0x65, 0x66, 0x69, 0x6E, 0x65] : Bytes) =
      "define".toList.map asciiByte := by decide
  rw [SpellsDefine, Text.Spells, letters, List.forall₂_map_left_iff, List.forall₂_map_right_iff]
  constructor
  · intro related
    refine forall₂_of_mem related fun char member letter isLetter spelled => ?_
    exact ⟨ascii char member, (letter_cases char (ascii char member) letter isLetter).mp spelled⟩
  · intro related
    refine forall₂_of_mem related fun char member letter isLetter lower => ?_
    exact (letter_cases char (ascii char member) letter isLetter).mpr lower.2

theorem spellsDefine_dropWhile (ascii : ∀ char ∈ chars, char.toNat < 128) :
    SpellsDefine ((chars.map asciiByte).dropWhile (· == separatorByte)) ↔
      Text.Spells (chars.dropWhile (· == separator)) "define".toList := by
  induction chars with
  | nil => exact spellsDefine_map_asciiByte ascii
  | cons char chars inductionHypothesis =>
      obtain ⟨first, later⟩ := List.forall_mem_cons.mp ascii
      have sameTest : (asciiByte char == separatorByte) = (char == separator) := by
        rw [Bool.eq_iff_iff, beq_iff_eq, beq_iff_eq]
        exact asciiByte_eq_separatorByte char first
      rw [List.map_cons, List.dropWhile_cons, List.dropWhile_cons, sameTest]
      split
      · exact inductionHypothesis later
      · exact spellsDefine_map_asciiByte ascii

theorem lowercase_eq_define_iff (chars : List Char) :
    Text.lowercase (dropSeparators (String.ofList chars)) = "define" ↔
      Text.Spells (chars.dropWhile (· == separator)) "define".toList := by
  rw [← Text.lowercaseAfter_eq_iff [] define_letters, ← String.toList_inj, Text.lowercase,
    String.toList_ofList, dropSeparators, Text.dropLeading, String.toList_ofList,
    String.toList_ofList, Text.lowercaseChars]

/-- However bytes are read, the name `define` is read from its own letters alone. -/
theorem lowercase_decodeLossy_iff (bytes : Bytes) :
    Text.lowercase (dropSeparators (String.ofList (decodeLossy bytes))) = "define" ↔
      SpellsDefine (bytes.dropWhile (· == separatorByte)) := by
  rw [lowercase_eq_define_iff]
  constructor
  · intro related
    have letters : ∀ char ∈ (decodeLossy bytes).dropWhile (· == separator),
        char.toNat < 128 := by
      intro char member
      obtain ⟨_, _, ascii, _⟩ := exists_of_mem_left related member
      exact ascii
    have ascii : ∀ char ∈ decodeLossy bytes, char.toNat < 128 :=
      forall_of_dropWhile (by decide) letters
    rw [(Text.decodeLossy_eq_iff ascii).mp rfl]
    exact (spellsDefine_dropWhile ascii).mpr related
  · intro spelled
    have small : ∀ byte ∈ bytes, byte < 0x80 :=
      forall_of_dropWhile (by decide) spelled.ascii
    obtain ⟨chars, ascii, rfl⟩ := Text.exists_asciiBytes small
    rw [(Text.decodeLossy_eq_iff ascii).mpr rfl]
    exact (spellsDefine_dropWhile ascii).mp spelled

end Spelling

section Calls

variable {content : Bytes} {call : Location}

/-- The callee is a name that is written as `define`, with separators in front or without. -/
def NamesDefine (content : Bytes) (callee : Location) : Prop :=
  (callee.type = "name" ∨ callee.type = "qualified_name") ∧
    SpellsDefine ((callee.bytes content).dropWhile (· == separatorByte))

theorem callsDefine_iff :
    call.callsDefine content = true ↔
      ∃ callee, call.childByField? "function" = some callee ∧ NamesDefine content callee := by
  unfold Location.callsDefine
  cases call.childByField? "function" with
  | none => simp
  | some callee =>
      simp only [Location.lossyText, Bool.and_eq_true, Bool.or_eq_true, beq_iff_eq,
        lowercase_decodeLossy_iff, Option.some.injEq, exists_eq_left']
      rfl

theorem NamesDefine.ascii {callee : Location} (names : NamesDefine content callee) :
    ∀ byte ∈ callee.bytes content, byte < 0x80 :=
  forall_of_dropWhile (by decide) names.2.ascii

/-- Of the arguments that have a value there are two or more, and the value of the first one
is a string literal. -/
def StartsWithLiteral (arguments : Location) : Prop :=
  ∃ first second others,
    arguments.namedChildren.filter
        (fun argument => argument.type == "argument" && !argument.namedChildren.isEmpty) =
      first :: second :: others ∧
    ∃ value, first.namedChildren.getLast? = some value ∧
      (value.type = "string" ∨ value.type = "encapsed_string")

theorem forall₂_argumentValues {arguments : Location}
    (found : call.childByField? "arguments" = some arguments) :
    List.Forall₂ (fun argument value => argument.namedChildren.getLast? = some value)
      (arguments.namedChildren.filter
        fun argument => argument.type == "argument" && !argument.namedChildren.isEmpty)
      call.argumentValues := by
  have hasValue (argument : Location) :
      argument.namedChildren.getLast?.isSome = !argument.namedChildren.isEmpty := by
    rw [Bool.eq_iff_iff, List.getLast?_isSome]
    simp
  have kept : (arguments.namedChildren.filter
        fun argument => argument.type == "argument" && !argument.namedChildren.isEmpty) =
      (arguments.namedChildren.filter (·.type == "argument")).filter
        fun argument => argument.namedChildren.getLast?.isSome := by
    rw [List.filter_filter]
    apply List.filter_congr
    intro argument _
    rw [hasValue, Bool.and_comm]
  unfold Location.argumentValues
  rw [found, kept]
  exact forall₂_filterMap _ _

theorem startsWithLiteral_iff {arguments : Location}
    (found : call.childByField? "arguments" = some arguments) :
    StartsWithLiteral arguments ↔ ∃ name value rest,
      call.argumentValues = name :: value :: rest ∧ isStringLiteralType name.type = true := by
  have paired := forall₂_argumentValues found
  unfold StartsWithLiteral isStringLiteralType
  constructor
  · rintro ⟨first, second, others, kept, value, last, literal⟩
    rw [kept] at paired
    obtain ⟨name, _, isName, later, values⟩ := List.forall₂_cons_left_iff.mp paired
    obtain ⟨other, rest, _, _, rfl⟩ := List.forall₂_cons_left_iff.mp later
    cases last.symm.trans isName
    exact ⟨value, other, rest, values, by simpa using literal⟩
  · rintro ⟨name, value, rest, values, literal⟩
    rw [values] at paired
    obtain ⟨first, _, isName, later, kept⟩ := List.forall₂_cons_right_iff.mp paired
    obtain ⟨second, others, _, _, rfl⟩ := List.forall₂_cons_right_iff.mp later
    exact ⟨first, second, others, kept, name, isName, by simpa using literal⟩

theorem isDefineCall_iff :
    call.isDefineCall content = true ↔
      (∃ callee, call.childByField? "function" = some callee ∧ NamesDefine content callee) ∧
        ∃ arguments, call.childByField? "arguments" = some arguments ∧
          StartsWithLiteral arguments := by
  unfold Location.isDefineCall
  rw [Bool.and_eq_true, callsDefine_iff]
  refine and_congr_right fun _ => ?_
  cases found : call.childByField? "arguments" with
  | none => simp [Location.argumentValues, found]
  | some arguments =>
      simp only [Option.some.injEq, exists_eq_left', startsWithLiteral_iff found]
      split
      · rename_i name value rest values
        simp [values]
      · rename_i tooFew
        simp only [Bool.false_eq_true, false_iff]
        rintro ⟨name, value, rest, values, _⟩
        exact tooFew name value rest values

theorem kind_of_call (isCall : call.type = "function_call_expression") :
    call.kind content = if call.isDefineCall content then .define else .other := by
  unfold Location.kind
  rw [isCall]
  rfl

/-- A call defines a constant exactly if the bytes of its callee spell `define` and its
arguments start with a string literal and another value.  No other bytes are taken for that
name, whether they are text or not. -/
theorem kind_eq_define_iff (content : Bytes) {call : Location}
    (isCall : call.type = "function_call_expression") :
    (call.kind content = .define ↔
      (∃ callee, call.childByField? "function" = some callee ∧ NamesDefine content callee) ∧
        ∃ arguments, call.childByField? "arguments" = some arguments ∧
          StartsWithLiteral arguments) ∧
    (call.kind content = .define → ∀ callee, call.childByField? "function" = some callee →
      ∀ byte ∈ callee.bytes content, byte < 0x80) := by
  have exact : call.kind content = .define ↔ call.isDefineCall content = true := by
    rw [kind_of_call isCall]
    cases call.isDefineCall content <;> simp
  rw [exact, isDefineCall_iff]
  refine ⟨Iff.rfl, ?_⟩
  rintro ⟨⟨callee, found, names⟩, _⟩ other foundOther
  cases found.symm.trans foundOther
  exact names.ascii

/-- The letters of the name may be of either case. -/
theorem kind_eq_define_iff_mixed_case :
    let content := Text.encodeChars
      ['D', 'e', 'F', 'I', 'n', 'E', '(', '\'', 'A', '\'', ',', '1', ')']
    (defineCall [] 0 10 12).kind content = .define ∧
      ∀ callee, (defineCall [] 0 10 12).childByField? "function" = some callee →
        ∀ byte ∈ callee.bytes content, byte < 0x80 := by
  intro content
  obtain ⟨exactly, ascii⟩ := kind_eq_define_iff content (show
    (defineCall [] 0 10 12).type = "function_call_expression" from rfl)
  have named : ∃ callee, (defineCall [] 0 10 12).childByField? "function" = some callee ∧
      NamesDefine content callee :=
    ⟨_, rfl, .inl rfl, by decide +kernel⟩
  have literal : ∃ arguments, (defineCall [] 0 10 12).childByField? "arguments" = some arguments ∧
      StartsWithLiteral arguments :=
    ⟨_, rfl, _, _, _, rfl, _, rfl, .inl rfl⟩
  have isDefine := exactly.mpr ⟨named, literal⟩
  exact ⟨isDefine, ascii isDefine⟩

end Calls

end PhpOutline
