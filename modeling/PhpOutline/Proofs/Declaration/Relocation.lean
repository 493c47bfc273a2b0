import PhpOutline.Proofs.Declaration.Counterparts
import PhpOutline.Proofs.Declaration.FullNames

namespace PhpOutline

/-! Entries in another place.

What an entry says of what is around its node is the namespace and the doc comment.  So the
entries of a node and its counterpart differ in these at most, and in the names that the
namespace takes part in.
-/

open PhpOutline.Syntax
open PhpOutline.Syntax.Location (opensNamespace)
open PhpOutline.Text (Bytes)

namespace Syntax.Location

/-- The namespace that is open before a statement of the program. -/
def openNamespace (content : Bytes) (statement : Location) : Except Failure (Option String) :=
  match statement.earlierNamedSiblings.find? opensNamespace with
  | some opening => opening.declaredName content
  | none => .ok none

end Syntax.Location

namespace Heading

def withDocComment (docComment : Option String) (heading : Heading) : Heading :=
  { heading with docComment }

def moved (outer : Option String) (heading : Heading) : Heading :=
  { heading with namespaceName := outer, name := qualify outer heading.shortName }

end Heading

namespace Entry

/-- The entry with another doc comment. -/
def withDocComment (docComment : Option String) : Entry → Entry
  | .bare heading => .bare (heading.withDocComment docComment)
  | .classLike entry =>
      .classLike { entry with heading := entry.heading.withDocComment docComment }
  | .function entry => .function { entry with heading := entry.heading.withDocComment docComment }
  | .constant entry => .constant { entry with heading := entry.heading.withDocComment docComment }

/-- The entry that the same declaration has in another namespace.  Anonymous classes and
`define` calls are called the same everywhere, and constants are in no empty namespace. -/
def moved (outer : Option String) : Entry → Entry
  | .bare heading => .bare heading
  | .classLike entry =>
      if entry.isAnonymous then .classLike entry
      else .classLike { entry with heading := entry.heading.moved outer }
  | .function entry => .function { entry with heading := entry.heading.moved outer }
  | .constant entry =>
      if entry.isDefine then .constant entry
      else .constant { entry with heading := entry.heading.moved (nonEmpty (outer.getD "")) }

/-- The entries differ in the doc comment at most, and that only as `differ` allows. -/
structure SameBut (differ : Option String → Option String → Prop) (left right : Entry) : Prop where
  others : left.withDocComment right.heading.docComment = right
  docComment : differ left.heading.docComment right.heading.docComment

theorem SameBut.eq {left right : Entry} (same : SameBut Eq left right) : left = right := by
  have others := same.others
  rw [← same.docComment] at others
  cases left <;> exact others

/-- The entries differ in the doc comment at most, as `differ` allows, and in the namespace, as
`move` allows. -/
inductive Relocates (move differ : Option String → Option String → Prop) (left right : Entry) :
    Prop
  | unscoped (fixed : ∀ outer, left.moved outer = left) (same : SameBut differ left right)
  | inScope {outer other : Option String} (moves : move outer other)
      (inside : left.moved outer = left) (same : SameBut differ (left.moved other) right)

theorem Relocates.sameBut {differ : Option String → Option String → Prop} {left right : Entry}
    (relocates : Relocates Eq differ left right) : SameBut differ left right := by
  cases relocates with
  | unscoped _ same => exact same
  | inScope moves inside same =>
      subst moves
      rwa [inside] at same

end Entry

/-- The names of a class in two namespaces: the short name, the namespace, and the full name. -/
inductive ClassNamesMove (move : Option String → Option String → Prop) (kind : Kind) :
    String × Option String × String → String × Option String × String → Prop
  | anonymous (isAnonymous : kind = .anonymousClass) (name : String) :
      ClassNamesMove move kind (name, none, name) (name, none, name)
  | named (isNamed : kind ≠ .anonymousClass) (shortName : String) {outer other : Option String}
      (moves : move outer other) :
      ClassNamesMove move kind (shortName, outer, qualify outer shortName)
        (shortName, other, qualify other shortName)

/-- The parts of a constant in two namespaces. -/
inductive PartsMove (move : Option String → Option String → Prop) (kind : Kind) :
    Location.ConstantParts → Location.ConstantParts → Prop
  | define (isDefine : kind = .define) (parts : Location.ConstantParts) :
      PartsMove move kind parts parts
  | element (isElement : kind ≠ .define) (shortName valueSource : String)
      {outer other : Option String} (moves : move outer other) :
      PartsMove move kind
        ⟨qualify (some (outer.getD "")) shortName, shortName, outer.getD "", valueSource⟩
        ⟨qualify (some (other.getD "")) shortName, shortName, other.getD "", valueSource⟩

/-- Classes that are alike but for their names and doc comments. -/
theorem ClassNamesMove.relocates {move differ : Option String → Option String → Prop} {kind : Kind}
    {left right : ClassEntry}
    (names : ClassNamesMove move kind
      (left.heading.shortName, left.heading.namespaceName, left.heading.name)
      (right.heading.shortName, right.heading.namespaceName, right.heading.name))
    (isAnonymous : left.isAnonymous = (kind == .anonymousClass))
    (fileName : left.heading.fileName = right.heading.fileName)
    (startLine : left.heading.startLine = right.heading.startLine)
    (endLine : left.heading.endLine = right.heading.endLine)
    (others : { left with heading := right.heading } = right)
    (allowed : differ left.heading.docComment right.heading.docComment) :
    Entry.Relocates move differ (.classLike left) (.classLike right) := by
  obtain ⟨⟨name, shortName, namespaceName, file, first, last, docComment⟩, _, _, _, _, _, _, _⟩ :=
    left
  obtain ⟨⟨_, _, _, _, _, _, another⟩, _, _, _, _, _, _, _⟩ := right
  cases fileName
  cases startLine
  cases endLine
  cases others
  dsimp only at names isAnonymous allowed
  cases names with
  | anonymous anonymous =>
      have fixed : (kind == .anonymousClass) = true := beq_iff_eq.mpr anonymous
      exact .unscoped (fun _ => by simp only [Entry.moved, isAnonymous, fixed, if_true])
        ⟨rfl, allowed⟩
  | named named _ moves =>
      have free : (kind == .anonymousClass) = false := beq_eq_false_iff_ne.mpr named
      refine .inScope moves ?_ ⟨?_, ?_⟩
      · simp [Entry.moved, isAnonymous, free, Heading.moved]
      · simp [Entry.moved, isAnonymous, free, Heading.moved, Entry.withDocComment,
          Heading.withDocComment, Entry.heading]
      · simpa [Entry.moved, isAnonymous, free, Heading.moved, Entry.heading] using allowed

namespace Counterparts

variable {content other : Bytes} {extra : Location → Bool}
  {Same : Location → Location → Prop} {left right : Location} {excuse : Prop}
  {move differ : Option String → Option String → Prop} (origin : Option String)

theorem docComment_eq (counterparts : Counterparts content other extra Same)
    (previous : Option.Rel Same left.previousNamedSibling? right.previousNamedSibling?) :
    left.docComment content = right.docComment other := by
  unfold Location.docComment
  generalize left.previousNamedSibling? = first at previous ⊢
  generalize right.previousNamedSibling? = second at previous ⊢
  cases previous with
  | none => rfl
  | some comment => simp only [counterparts.type_eq comment, counterparts.text_eq comment]

theorem openNamespace_eq (counterparts : Counterparts content other extra Same)
    (opening : Option.Rel Same (left.earlierNamedSiblings.find? opensNamespace)
      (right.earlierNamedSiblings.find? opensNamespace)) :
    left.openNamespace content = right.openNamespace other := by
  unfold Location.openNamespace
  generalize left.earlierNamedSiblings.find? opensNamespace = first at opening ⊢
  generalize right.earlierNamedSiblings.find? opensNamespace = second at opening ⊢
  cases opening with
  | none => rfl
  | some opening => exact counterparts.declaredName_eq opening

section Conversion

variable (counterparts : Counterparts content other extra Same) (same : Same left right)

include counterparts same

theorem obstruct_eq (obstacle : Obstacle) :
    left.obstruct content obstacle = right.obstruct other obstacle := by
  rw [Location.obstruct, Location.obstruct, counterparts.type_eq same,
    counterparts.startLine_eq same]

theorem defineParts_eq : left.defineParts content = right.defineParts other := by
  have arguments := counterparts.argumentValues same
  unfold Location.defineParts
  generalize left.argumentValues = first at arguments ⊢
  generalize right.argumentValues = second at arguments ⊢
  cases arguments with
  | nil => rfl
  | cons name rest =>
      cases rest with
      | nil => rfl
      | cons value _ => simp only [counterparts.text_eq name, counterparts.text_eq value]

theorem opensNamespace_eq : opensNamespace left = opensNamespace right := by
  have body := counterparts.childByField? same "body"
  rw [opensNamespace, opensNamespace, counterparts.type_eq same, ← Option.not_isSome,
    ← Option.not_isSome, isSome_eq_of_rel body]

variable (outers : AgreeUnless excuse move (left.enclosingNamespace content)
  (right.enclosingNamespace other))

include outers

theorem classNames_relocate (anonymousPrefix : String) (kind : Kind) :
    AgreeUnless excuse (ClassNamesMove move kind)
      (left.classNames content origin anonymousPrefix kind)
      (right.classNames other origin anonymousPrefix kind) := by
  unfold Location.classNames
  rw [counterparts.startLine_eq same, counterparts.declaredName_eq same,
    counterparts.obstruct_eq same]
  by_cases anonymous : kind = .anonymousClass
  · rw [if_pos anonymous, if_pos anonymous]
    exact .agree (.ok (.anonymous anonymous _))
  · rw [if_neg anonymous, if_neg anonymous]
    refine (AgreeUnless.agree (Agree.refl _)).bind ?_
    rintro (_ | shortName) _ rfl
    · exact .agree (.error _)
    · exact outers.bind fun _ _ moves => .agree (.ok (.named anonymous shortName moves))

theorem classEntry_relocates (anonymousPrefix : String) (kind : Kind)
    (docs : Agree differ (left.docComment content) (right.docComment other)) :
    AgreeUnless excuse
      (fun first second => Entry.Relocates move differ (.classLike first) (.classLike second))
      (left.classEntry content origin anonymousPrefix kind)
      (right.classEntry other origin anonymousPrefix kind) := by
  unfold Location.classEntry
  rw [counterparts.clauseNames_eq same (by decide), counterparts.clauseNames_eq same (by decide),
    counterparts.type_eq same, counterparts.startLine_eq same, counterparts.endLine_eq same,
    counterparts.modifiers_eq same]
  refine (counterparts.classNames_relocate origin same outers anonymousPrefix kind).bind ?_
  intro names otherNames namesMove
  apply AgreeUnless.agree
  refine (Agree.refl _).bind ?_
  rintro parents _ rfl
  refine (Agree.refl _).bind ?_
  rintro interfaces _ rfl
  refine docs.bind ?_
  intro docComment another allowed
  have bodies := counterparts.body? same
  generalize left.body? = first at bodies ⊢
  generalize right.body? = second at bodies ⊢
  cases bodies with
  | none => exact .ok (namesMove.relocates rfl rfl rfl rfl rfl allowed)
  | some body =>
      dsimp only
      rw [counterparts.methodNames_eq body, counterparts.constantNames_eq body]
      refine (Agree.refl _).bind ?_
      rintro methodNames _ rfl
      refine (Agree.refl _).bind ?_
      rintro constantNames _ rfl
      exact .ok (namesMove.relocates rfl rfl rfl rfl rfl allowed)

theorem functionEntry_relocates
    (docs : Agree differ (left.docComment content) (right.docComment other)) :
    AgreeUnless excuse
      (fun first second => Entry.Relocates move differ (.function first) (.function second))
      (left.functionEntry content origin) (right.functionEntry other origin) := by
  unfold Location.functionEntry
  rw [counterparts.declaredName_eq same, counterparts.obstruct_eq same,
    counterparts.parameterNames_eq same, counterparts.returnType_eq same,
    counterparts.startLine_eq same, counterparts.endLine_eq same,
    counterparts.returnsReference_eq same]
  refine (AgreeUnless.agree (Agree.refl _)).bind ?_
  rintro (_ | shortName) _ rfl
  · exact .agree (.error _)
  · refine outers.bind ?_
    intro outer other moves
    apply AgreeUnless.agree
    refine docs.bind ?_
    intro docComment another allowed
    refine (Agree.refl _).bind ?_
    rintro parameterNames _ rfl
    refine (Agree.refl _).bind ?_
    rintro returnType _ rfl
    exact .ok (.inScope moves rfl ⟨rfl, allowed⟩)

theorem parts_relocate {kind : Kind} (constant : kind = .define ∨ right.type = "const_element") :
    AgreeUnless excuse (PartsMove move kind)
      (if kind = .define then left.defineParts content else left.elementParts content)
      (if kind = .define then right.defineParts other else right.elementParts other) := by
  by_cases define : kind = .define
  · rw [if_pos define, if_pos define, counterparts.defineParts_eq same]
    exact .agree ((Agree.refl _).imp fun parts _ same => same ▸ .define define parts)
  · rw [if_neg define, if_neg define]
    unfold Location.elementParts
    rw [counterparts.elementName_eq same,
      counterparts.elementValue_eq same (constant.resolve_left define)]
    refine (AgreeUnless.agree (Agree.refl _)).bind ?_
    rintro name _ rfl
    refine outers.bind ?_
    intro outer other moves
    apply AgreeUnless.agree
    refine (Agree.refl _).bind ?_
    rintro valueSource _ rfl
    exact .ok (.element define _ _ moves)

theorem constantEntry_relocates {kind : Kind}
    (constant : kind = .define ∨ right.type = "const_element")
    (docs : Agree differ ((left.parent?.getD left).docComment content)
      ((right.parent?.getD right).docComment other)) :
    AgreeUnless excuse
      (fun first second => Entry.Relocates move differ (.constant first) (.constant second))
      (left.constantEntry content origin kind) (right.constantEntry other origin kind) := by
  rw [Location.constantEntry_eq_bind, Location.constantEntry_eq_bind]
  refine (counterparts.parts_relocate same outers constant).bind ?_
  intro parts otherParts partsMove
  apply AgreeUnless.agree
  unfold Location.entryOfParts
  rw [counterparts.obstruct_eq same, counterparts.startLine_eq same, counterparts.endLine_eq same]
  cases partsMove with
  | define isDefine =>
      split
      · exact .error _
      · exact docs.bind fun _ _ allowed => .ok (.unscoped (fun _ => by
          simp [Entry.moved, isDefine]) ⟨rfl, allowed⟩)
  | element isElement shortName valueSource moves =>
      split
      · exact .error _
      · refine docs.bind fun _ _ allowed => .ok (.inScope moves ?_ ⟨?_, ?_⟩)
        · simp [Entry.moved, isElement, Heading.moved, qualify_nonEmpty]
        · simp [Entry.moved, isElement, Heading.moved, qualify_nonEmpty, Entry.withDocComment,
            Heading.withDocComment, Entry.heading]
        · simpa [Entry.moved, isElement, Heading.moved, Entry.heading] using allowed

/-- The conversions of counterparts of the same kind agree but for the namespace and the doc
comment. -/
theorem convert_standard_relocates (anonymousPrefix : String) {category : Category}
    (kinds : left.kind content = right.kind other)
    (admitted : category.admits (right.kind other) = true)
    (docs : Agree differ ((left.docAnchor content).docComment content)
      ((right.docAnchor other).docComment other)) :
    AgreeUnless excuse (Entry.Relocates move differ)
      ((Converter.standard anonymousPrefix).convert content origin left)
      ((Converter.standard anonymousPrefix).convert other origin right) := by
  unfold Location.docAnchor at docs
  rw [kinds] at docs
  cases category with
  | classLike =>
      have noConstant : (right.kind other == .constant || right.kind other == .define) = false := by
        cases kind : right.kind other <;> simp_all [Category.admits, Kind.isClassLike]
      rw [Converter.convert_standard_classLike admitted,
        Converter.convert_standard_classLike (by rw [kinds]; exact admitted), kinds]
      rw [noConstant] at docs
      exact (counterparts.classEntry_relocates origin same outers anonymousPrefix _ docs).map
        fun _ _ related => related
  | function =>
      have function : right.kind other = .function := beq_iff_eq.mp admitted
      rw [Converter.convert_standard_function function,
        Converter.convert_standard_function (kinds.trans function)]
      rw [function] at docs
      exact (counterparts.functionEntry_relocates origin same outers docs).map
        fun _ _ related => related
  | constant =>
      have either : right.kind other = .define ∨ right.type = "const_element" := by
        rcases Bool.or_eq_true_iff.mp admitted with constant | define
        · exact .inr (Location.type_of_element (.inl (beq_iff_eq.mp constant)))
        · exact .inl (beq_iff_eq.mp define)
      rw [Converter.convert_standard_constant admitted,
        Converter.convert_standard_constant (by rw [kinds]; exact admitted), kinds]
      rw [show (right.kind other == .constant || right.kind other == .define) = true from admitted]
        at docs
      exact (counterparts.constantEntry_relocates origin same outers either docs).map
        fun _ _ related => related

end Conversion

end Counterparts

end PhpOutline
