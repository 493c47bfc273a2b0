import PhpOutline.Proofs.Declaration.DefineCalls
import PhpOutline.Proofs.Declaration.DefineEntries
import PhpOutline.Proofs.Outline.Entries

namespace PhpOutline

open PhpOutline.Syntax
open PhpOutline.Text (Bytes)

/-- What a string in double quotes consists of if it says the same in every run. -/
def isLiteralPart (type : String) : Bool :=
  type == "string_content" || type == "escape_sequence"

/-- A string that says the same in every run. -/
def IsLiteralString (value : Location) : Prop :=
  value.type = "string" ∨
    value.type = "encapsed_string" ∧
      ∀ part ∈ value.namedChildren, isLiteralPart part.type = true

/-- A string in double quotes with something else than text within. -/
def Interpolates (value : Location) : Prop :=
  value.type = "encapsed_string" ∧
    ∃ part ∈ value.namedChildren, isLiteralPart part.type = false

section Strings

variable {value : Location}

theorem isStringLiteralType_iff :
    isStringLiteralType value.type = true ↔ IsLiteralString value ∨ Interpolates value := by
  have split : value.type = "encapsed_string" ↔
      (value.type = "encapsed_string" ∧
        ∀ part ∈ value.namedChildren, isLiteralPart part.type = true) ∨
      Interpolates value := by
    by_cases literal : ∀ part ∈ value.namedChildren, isLiteralPart part.type = true
    · refine ⟨fun encapsed => .inl ⟨encapsed, literal⟩, ?_⟩
      rintro (⟨encapsed, _⟩ | ⟨encapsed, _⟩) <;> exact encapsed
    · have other : ∃ part ∈ value.namedChildren, isLiteralPart part.type = false := by
        simpa using literal
      refine ⟨fun encapsed => .inr ⟨encapsed, other⟩, ?_⟩
      rintro (⟨encapsed, _⟩ | ⟨encapsed, _⟩) <;> exact encapsed
  rw [isStringLiteralType, Bool.or_eq_true, beq_iff_eq, beq_iff_eq, IsLiteralString, or_assoc,
    ← split]

theorem Interpolates.not_isLiteralString (interpolates : Interpolates value) :
    ¬ IsLiteralString value := by
  obtain ⟨encapsed, part, member, other⟩ := interpolates
  rintro (single | ⟨_, literal⟩)
  · rw [encapsed] at single
    exact absurd single (by decide)
  · rw [literal part member] at other
    cases other

end Strings

section Calls

variable {content : Bytes} {call : Location}

theorem kind_of_call_eq_define_iff (isCall : call.type = "function_call_expression") :
    call.kind content = .define ↔
      (∃ callee, call.childByField? "function" = some callee ∧ NamesDefine content callee) ∧
        ∃ name value others, call.argumentValues = name :: value :: others ∧
          (IsLiteralString name ∨ Interpolates name) := by
  have told : call.kind content = .define ↔ call.isDefineCall content = true := by
    rw [kind_of_call isCall]
    cases call.isDefineCall content <;> simp
  rw [told, Location.isDefineCall, Bool.and_eq_true, callsDefine_iff]
  refine and_congr_right fun _ => ?_
  split
  · rename_i name value others arguments
    rw [isStringLiteralType_iff, arguments]
    constructor
    · intro either
      exact ⟨name, value, others, rfl, either⟩
    · rintro ⟨_, _, _, same, either⟩
      cases same
      exact either
  · rename_i tooFew
    refine iff_of_false Bool.false_ne_true ?_
    rintro ⟨name, value, others, arguments, _⟩
    exact tooFew name value others arguments

theorem admits_define_iff (category : Category) :
    category.admits .define = true ↔ category = .constant := by
  cases category <;> decide

/-- A call of `define` counts as a definition with a name that is put together in the run as it
does with a literal one.  It is then a constant and nothing else, and every converter that takes
such calls makes an entry of it, which is called by the source text of the name. -/
theorem define_interpolated (content : Bytes) (call : Location)
    (isCall : call.type = "function_call_expression") :
    (call.kind content = .define ↔
      (∃ callee, call.childByField? "function" = some callee ∧ NamesDefine content callee) ∧
        ∃ name value others, call.argumentValues = name :: value :: others ∧
          (IsLiteralString name ∨ Interpolates name)) ∧
    ∀ name value others, call.argumentValues = name :: value :: others →
      Interpolates name → call.kind content = .define →
        ¬ IsLiteralString name ∧
        (∀ category : Category,
          category.admits (call.kind content) = true ↔ category = .constant) ∧
        ∀ (origin : Option String) (converter : Converter),
          (converter.takes .define = true →
            (∀ literal, name.text content = .ok literal →
              DefinesAs content origin call value (literalName literal)
                (converter.convert content origin call)) ∧
            (∀ failure, name.text content = .error failure →
              converter.convert content origin call = .error failure)) ∧
          (converter.takes .define = false →
            converter.convert content origin call = .error (converter.refuse content call)) := by
  refine ⟨kind_of_call_eq_define_iff isCall, ?_⟩
  intro name value others arguments interpolates define
  refine ⟨interpolates.not_isLiteralString, ?_, ?_⟩
  · rw [define]
    exact admits_define_iff
  intro origin converter
  constructor
  · intro takes
    refine ⟨fun literal read => definesAs_of_literal origin takes define arguments read, ?_⟩
    intro failure unreadable
    rw [converter.convert_define origin define, if_pos takes, Location.constantEntry_eq_bind,
      if_pos rfl, Location.defineParts, arguments]
    simp only [unreadable]
    rfl
  · intro refuses
    rw [converter.convert_define origin define, refuses]
    rfl

/-- The name of this call is `A_` and then a variable. -/
def interpolatedProgram : Tree :=
  let node (type : String) (start stop : Nat) (field : Option String) : List Tree → Tree :=
    .node ⟨type, start, stop, field, true, false, false⟩
  node "program" 0 16 none
    [node "function_call_expression" 0 16 none
      [node "name" 0 6 (some "function") [],
      node "arguments" 6 16 (some "arguments")
        [node "argument" 7 13 none
          [node "encapsed_string" 7 13 none
            [node "string_content" 8 10 none [], node "variable_name" 10 12 none []]],
        node "argument" 14 15 none [node "integer" 14 15 none []]]]]

def interpolatedText : List Char :=
  ['d', 'e', 'f', 'i', 'n', 'e', '(', '"', 'A', '_', '$', 'x', '"', ',', '1', ')']

def interpolatedCall : Location :=
  ⟨interpolatedProgram.children.headD interpolatedProgram, [⟨interpolatedProgram, 0⟩]⟩

/-- The first argument of the call. -/
def interpolatedName : Location :=
  interpolatedCall.argumentValues.headD interpolatedCall

instance (value : Location) : Decidable (Interpolates value) :=
  inferInstanceAs (Decidable (_ ∧ ∃ part ∈ value.namedChildren, _))

theorem define_interpolated_variable :
    interpolatedCall.type = "function_call_expression" ∧
      interpolatedCall.kind (Text.encodeChars interpolatedText) = .define ∧
      ¬ IsLiteralString interpolatedName ∧
      Converter.constant.convert (Text.encodeChars interpolatedText) none interpolatedCall =
        .ok (.constant ⟨⟨"A_$x", "A_$x", none, none, 1, 1, none⟩, "1", true⟩) := by
  have define : interpolatedCall.kind (Text.encodeChars interpolatedText) = .define := by
    decide +kernel
  obtain ⟨_, interpolated⟩ :=
    define_interpolated (Text.encodeChars interpolatedText) interpolatedCall rfl
  obtain ⟨noLiteral, _, outcomes⟩ :=
    interpolated interpolatedName _ _ rfl (by decide +kernel) define
  have outcome := ((outcomes none .constant).1 rfl).1 "\"A_$x\"" (by decide +kernel)
  have converted := outcome.entry (by decide +kernel) "1" none (by decide +kernel)
    (by decide +kernel)
  refine ⟨rfl, define, noLiteral, ?_⟩
  rw [converted]
  decide +kernel

/-- The call is among the constants of the program. -/
theorem outline_interpolated :
    Interpolates interpolatedName ∧
      (outline (.fixed true interpolatedProgram) (.standard "class@anonymous")
        (.ofChars 'd' interpolatedText.tail) .constant).result =
        .ok [.constant ⟨⟨"A_$x", "A_$x", none, none, 1, 1, none⟩, "1", true⟩] := by
  decide +kernel

end Calls

end PhpOutline
