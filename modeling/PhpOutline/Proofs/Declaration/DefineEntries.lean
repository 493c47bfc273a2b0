import PhpOutline.Proofs.Declaration.Spelling

namespace PhpOutline

open PhpOutline.Syntax
open PhpOutline.Text (Bytes)

namespace Converter

variable {content : Bytes} {node : Location}

mutual

/-- However converters are nested, a `define` call comes to the one for constants. -/
theorem convert_define (origin : Option String) (define : node.kind content = .define) :
    (converter : Converter) → converter.convert content origin node =
      if converter.takes .define then
        (node.constantEntry content origin .define).map .constant
      else .error (converter.refuse content node)
  | .classLike anonymousPrefix => by
      rw [convert, define, takes]
      rfl
  | .function => by
      rw [convert, define, takes]
      rfl
  | .constant => by
      rw [convert, define, takes]
  | .dispatch parts => by
      rw [convert, convertFirst_define origin define parts, takes]
      cases anyTakes .define parts <;> rfl

theorem convertFirst_define (origin : Option String) (define : node.kind content = .define) :
    (parts : List Converter) → convertFirst content origin node parts =
      if anyTakes .define parts then
        some ((node.constantEntry content origin .define).map .constant)
      else none
  | [] => rfl
  | part :: rest => by
      rw [convertFirst, anyTakes, define, convert_define origin define part,
        convertFirst_define origin define rest]
      cases part.takes .define <;> simp

end

end Converter

/-- The outcome for a `define` call whose first argument gives it a name.  The call has an entry
of that name, or is refused if no last part is left of it.  Only text that is none comes before
that: that of the value, and for an entry that of the comment in front. -/
structure DefinesAs (content : Bytes) (origin : Option String) (node value : Location)
    (name : String) (outcome : Except Failure Entry) : Prop where
  entry : (splitName name).2 ≠ "" → ∀ valueSource docComment,
    value.text content = .ok valueSource →
    (node.parent?.getD node).docComment content = .ok docComment →
      outcome = .ok (.constant {
        heading := {
          name
          shortName := (splitName name).2
          namespaceName := nonEmpty (splitName name).1
          fileName := origin
          startLine := node.startLine content
          endLine := node.endLine content
          docComment }
        valueSource
        isDefine := true })
  nameless : (splitName name).2 = "" → ∀ valueSource, value.text content = .ok valueSource →
    ∃ failure, outcome = .error failure ∧ failure.report? = some (.unconvertible
      (.ofStrings "Constant declaration has no name"
        (some ("line " ++ toString (node.startLine content))))
      (some node.type) (some (node.startLine content)))
  unreadable : ∀ failure, value.text content = .error failure → outcome = .error failure
  uncommented : (splitName name).2 ≠ "" → ∀ valueSource failure,
    value.text content = .ok valueSource →
    (node.parent?.getD node).docComment content = .error failure → outcome = .error failure

theorem definesAs_of_literal {content : Bytes} (origin : Option String)
    {node name value : Location} {others : List Location} {literal : String}
    {converter : Converter} (takes : converter.takes .define = true)
    (define : node.kind content = .define)
    (arguments : node.argumentValues = name :: value :: others)
    (read : name.text content = .ok literal) :
    DefinesAs content origin node value (literalName literal)
      (converter.convert content origin node) := by
  rw [converter.convert_define origin define, if_pos takes,
    constantEntry_of_literal origin arguments read]
  constructor
  case entry =>
    intro given valueSource docComment valueRead commentRead
    have named := String.isEmpty_eq_false_iff.mpr given
    simp only [valueRead, Location.entryOfParts, named, commentRead]
    rfl
  case nameless =>
    intro empty valueSource valueRead
    rw [valueRead, empty]
    exact ⟨_, rfl, rfl⟩
  case unreadable =>
    intro failure valueUnread
    rw [valueUnread]
    rfl
  case uncommented =>
    intro given valueSource failure valueRead commentUnread
    have named := String.isEmpty_eq_false_iff.mpr given
    simp only [valueRead, Location.entryOfParts, named, commentUnread]
    rfl

end PhpOutline
