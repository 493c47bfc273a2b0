import PhpOutline.Declaration.Conversion
import PhpOutline.Proofs.Declaration.Readable

namespace PhpOutline

/-! What declarations are called.

`naming?` tells the names of a declaration in a given namespace, or that it has
none.  In a readable tree that decides the conversion: a declaration without a
name is refused as nameless, and any other one gets an entry with these names.
-/

open PhpOutline.Syntax
open PhpOutline.Syntax.Location (Within)
open PhpOutline.Text (Bytes)

structure Naming where
  shortName : String
  namespaceName : Option String
  name : String
deriving DecidableEq, Repr

/-- What a declaration of the category is called in reports. -/
def Category.subject : Category → Subject
  | .classLike => .classLike
  | .function => .function
  | .constant => .constant

/-- Declarations whose name stands in a field of its own. -/
def Kind.isNamedByField : Kind → Bool
  | .classDeclaration | .interfaceDeclaration | .traitDeclaration | .enumDeclaration
  | .function => true
  | _ => false

theorem Kind.isNamedByField_of_classLike {kind : Kind} (classLike : kind.isClassLike = true)
    (notAnonymous : kind ≠ .anonymousClass) : kind.isNamedByField = true := by
  cases kind <;> simp_all [isClassLike, isNamedByField]

theorem nonEmpty_getD_of_ne {outer : Option String} (proper : outer ≠ some "") :
    nonEmpty (outer.getD "") = outer := by
  cases outer with
  | none => rfl
  | some name =>
      have given : name ≠ "" := fun empty => proper (congrArg some empty)
      simp [nonEmpty, given]

/-- The entry is named apart from all namespaces. -/
def Entry.isUnscoped : Entry → Bool
  | .bare _ => false
  | .classLike entry => entry.isAnonymous
  | .function _ => false
  | .constant entry => entry.isDefine

/-- The names that the literal of a `define` call gives, unless it ends in a
separator or is nothing else. -/
def literalNaming? (literal : String) : Option Naming :=
  if (splitName (literalName literal)).2.isEmpty then none
  else some ⟨(splitName (literalName literal)).2, nonEmpty (splitName (literalName literal)).1,
    literalName literal⟩

namespace Syntax.Location

def ConstantParts.naming? (parts : ConstantParts) : Option Naming :=
  if parts.shortName.isEmpty then none
  else some ⟨parts.shortName, nonEmpty parts.namespaceName, parts.name⟩

variable (content : Bytes) (origin : Option String) (anonymousPrefix : String)

/-- The names of a declaration that stands in the namespace `outer`. -/
def naming? (outer : Option String) (node : Location) : Option Naming :=
  match node.kind content with
  | .anonymousClass =>
      let name := anonymousName anonymousPrefix origin (node.startLine content)
      some ⟨name, none, name⟩
  | .define => (node.argumentValues.head?.bind (text? content)).bind literalNaming?
  | .constant =>
      (node.givenElementName content).bind fun shortName =>
        if shortName.isEmpty then none
        else some ⟨shortName, nonEmpty (outer.getD ""), qualify outer shortName⟩
  | _ =>
      (node.givenName content).map fun shortName =>
        ⟨shortName, outer, qualify outer shortName⟩

/-- The entry tells the names and the lines of the declaration. -/
structure Records (node : Location) (naming : Naming) (entry : Entry) : Prop where
  name : entry.heading.name = naming.name
  shortName : entry.heading.shortName = naming.shortName
  namespaceName : entry.heading.namespaceName = naming.namespaceName
  startLine : entry.heading.startLine = node.startLine content
  endLine : entry.heading.endLine = node.endLine content
  isUnscoped :
    entry.isUnscoped = (node.kind content == .anonymousClass || node.kind content == .define)

/-- How a conversion comes out when the declaration has these names, or none. -/
def ConvertsBy (node : Location) (subject : Subject) (naming : Option Naming)
    (outcome : Except Failure Entry) : Prop :=
  match naming with
  | some naming => ∃ entry, outcome = .ok entry ∧ node.Records content naming entry
  | none => outcome = .error (node.obstruct content (.nameless subject))

end Syntax.Location

namespace Converter

variable {content : Bytes} {origin : Option String} {anonymousPrefix : String} {node : Location}

theorem convert_standard_classLike (classLike : (node.kind content).isClassLike = true) :
    (standard anonymousPrefix).convert content origin node =
      (node.classEntry content origin anonymousPrefix (node.kind content)).map .classLike := by
  simp only [standard, convert, convertFirst, takes, classLike, if_true]

theorem convert_standard_function (function : node.kind content = .function) :
    (standard anonymousPrefix).convert content origin node =
      (node.functionEntry content origin).map .function := by
  have notClass : Kind.function.isClassLike = false := rfl
  simp only [standard, convert, convertFirst, takes, function, notClass, beq_self_eq_true,
    if_true, Bool.false_eq_true, if_false]

theorem convert_standard_constant
    (constant : (node.kind content == .constant || node.kind content == .define) = true) :
    (standard anonymousPrefix).convert content origin node =
      (node.constantEntry content origin (node.kind content)).map .constant := by
  have other : (node.kind content).isClassLike = false ∧
      (node.kind content == .function) = false := by
    rcases Bool.or_eq_true_iff.mp constant with same | same <;> rw [beq_iff_eq.mp same] <;>
      exact ⟨rfl, rfl⟩
  simp only [standard, convert, convertFirst, takes, other, constant, if_true,
    Bool.false_eq_true, if_false]

end Converter

namespace Syntax.Location

variable {content : Bytes} {origin : Option String} {anonymousPrefix : String} {tree : Tree}
  {node : Location} {outer : Option String}

theorem naming?_of_anonymous (anonymous : node.kind content = .anonymousClass) :
    node.naming? content origin anonymousPrefix outer =
      some ⟨anonymousName anonymousPrefix origin (node.startLine content), none,
        anonymousName anonymousPrefix origin (node.startLine content)⟩ := by
  unfold naming?
  rw [anonymous]

theorem naming?_of_field (inField : (node.kind content).isNamedByField = true) :
    node.naming? content origin anonymousPrefix outer =
      (node.givenName content).map fun shortName =>
        ⟨shortName, outer, qualify outer shortName⟩ := by
  unfold naming?
  cases kind : node.kind content <;> simp_all [Kind.isNamedByField]

theorem naming?_of_element (element : node.kind content = .constant) :
    node.naming? content origin anonymousPrefix outer =
      (node.givenElementName content).bind fun shortName =>
        if shortName.isEmpty then none
        else some ⟨shortName, nonEmpty (outer.getD ""), qualify outer shortName⟩ := by
  unfold naming?
  rw [element]

theorem naming?_of_define (define : node.kind content = .define) :
    node.naming? content origin anonymousPrefix outer =
      (node.argumentValues.head?.bind (text? content)).bind literalNaming? := by
  unfold naming?
  rw [define]

/-- The short name of a declaration that has its full name from the namespace. -/
def scopedName? (content : Bytes) (node : Location) : Option String :=
  match node.kind content with
  | .constant => (node.givenElementName content).filter fun name => !name.isEmpty
  | _ => node.givenName content

theorem naming?_of_scoped (proper : outer ≠ some "")
    (inScope : (node.kind content == .anonymousClass || node.kind content == .define) = false) :
    node.naming? content origin anonymousPrefix outer =
      (node.scopedName? content).map fun shortName =>
        ⟨shortName, outer, qualify outer shortName⟩ := by
  unfold scopedName?
  cases kind : node.kind content with
  | constant =>
      rw [naming?_of_element kind, nonEmpty_getD_of_ne proper]
      cases node.givenElementName content with
      | none => rfl
      | some shortName =>
          simp only [Option.bind_some, Option.filter_some]
          cases shortName.isEmpty <;> rfl
  | anonymousClass | define => simp [kind] at inScope
  | _ =>
      unfold naming?
      rw [kind]

theorem naming?_of_unscoped
    (unscoped : (node.kind content == .anonymousClass || node.kind content == .define) = true)
    (other : Option String) :
    node.naming? content origin anonymousPrefix outer =
      node.naming? content origin anonymousPrefix other := by
  rcases Bool.or_eq_true_iff.mp unscoped with same | same
  · rw [naming?_of_anonymous (beq_iff_eq.mp same), naming?_of_anonymous (beq_iff_eq.mp same)]
  · rw [naming?_of_define (beq_iff_eq.mp same), naming?_of_define (beq_iff_eq.mp same)]

variable (origin anonymousPrefix)

theorem classNames_eq (readable : Readable content tree) (within : Within tree node)
    (classLike : (node.kind content).isClassLike = true)
    (enclosing : node.enclosingNamespace content = .ok outer) :
    node.classNames content origin anonymousPrefix (node.kind content) =
      match node.naming? content origin anonymousPrefix outer with
      | some naming => .ok (naming.shortName, naming.namespaceName, naming.name)
      | none => .error (node.obstruct content (.nameless .classLike)) := by
  unfold classNames
  by_cases anonymous : node.kind content = .anonymousClass
  · rw [if_pos anonymous, naming?_of_anonymous anonymous]
  · rw [if_neg anonymous, naming?_of_field (Kind.isNamedByField_of_classLike classLike anonymous)]
    simp only [(declaredName_eq readable within).1, enclosing, bind, Except.bind]
    cases node.givenName content <;> rfl

theorem classEntry_convertsBy (readable : Readable content tree) (within : Within tree node)
    (classLike : (node.kind content).isClassLike = true)
    (enclosing : node.enclosingNamespace content = .ok outer) :
    node.ConvertsBy content .classLike (node.naming? content origin anonymousPrefix outer)
      ((node.classEntry content origin anonymousPrefix (node.kind content)).map .classLike) := by
  have names := classNames_eq origin anonymousPrefix readable within classLike enclosing
  unfold classEntry
  cases found : node.naming? content origin anonymousPrefix outer with
  | none =>
      rw [found] at names
      rw [names]
      rfl
  | some naming =>
      rw [found] at names
      obtain ⟨parents, parentsRead⟩ := clauseNames_exists readable within "base_clause"
      obtain ⟨interfaces, interfacesRead⟩ :=
        clauseNames_exists readable within "class_interface_clause"
      obtain ⟨comment, commentRead⟩ := docComment_exists readable within
      have notDefine : (node.kind content == .define) = false := by
        cases kind : node.kind content <;> simp_all [Kind.isClassLike]
      simp only [names, parentsRead, interfacesRead, commentRead, bind, Except.bind]
      cases bodyFound : node.body? with
      | none =>
          refine ⟨_, rfl, rfl, rfl, rfl, rfl, rfl, ?_⟩
          simp only [Entry.isUnscoped, notDefine, Bool.or_false]
      | some body =>
          have bodyWithin := within.body? bodyFound
          obtain ⟨methods, methodsRead⟩ := methodNames_exists readable bodyWithin
          obtain ⟨constants, constantsRead⟩ := constantNames_exists readable bodyWithin
          simp only [methodsRead, constantsRead]
          refine ⟨_, rfl, rfl, rfl, rfl, rfl, rfl, ?_⟩
          simp only [Entry.isUnscoped, notDefine, Bool.or_false]

theorem functionEntry_convertsBy (readable : Readable content tree) (within : Within tree node)
    (function : node.kind content = .function)
    (enclosing : node.enclosingNamespace content = .ok outer) :
    node.ConvertsBy content .function (node.naming? content origin anonymousPrefix outer)
      ((node.functionEntry content origin).map .function) := by
  have inField : (node.kind content).isNamedByField = true := by rw [function]; rfl
  have declared := (declaredName_eq readable within).1
  unfold functionEntry
  rw [naming?_of_field inField]
  cases found : node.givenName content with
  | none =>
      rw [found] at declared
      simp only [declared, bind, Except.bind]
      rfl
  | some shortName =>
      rw [found] at declared
      obtain ⟨comment, commentRead⟩ := docComment_exists readable within
      obtain ⟨parameters, parametersRead⟩ := parameterNames_exists readable within
      obtain ⟨type, typeRead⟩ := returnType_exists readable within
      simp only [declared, enclosing, commentRead, parametersRead, typeRead, Option.map_some,
        bind, Except.bind]
      refine ⟨_, rfl, rfl, rfl, rfl, rfl, rfl, ?_⟩
      rw [function]
      rfl

/-- What becomes of the parts of a constant. -/
def entryOfParts (content : Bytes) (kind : Kind) (node : Location) (parts : ConstantParts) :
    Except Failure ConstantEntry :=
  if parts.shortName.isEmpty then .error (node.obstruct content (.nameless .constant))
  else do
    let docComment ← (node.parent?.getD node).docComment content
    return {
      heading := {
        docComment
        name := parts.name
        shortName := parts.shortName
        namespaceName := nonEmpty parts.namespaceName
        fileName := origin
        startLine := node.startLine content
        endLine := node.endLine content }
      valueSource := parts.valueSource
      isDefine := kind == .define }

/-- The parts are read in two ways, but made to an entry in one. -/
theorem constantEntry_eq_bind (content : Bytes) (kind : Kind) (node : Location) :
    node.constantEntry content origin kind =
      (if kind = .define then node.defineParts content else node.elementParts content) >>=
        node.entryOfParts origin content kind := by
  unfold constantEntry
  dsimp only
  split <;> rfl

theorem constantEntry_of_parts {parts : ConstantParts} (readable : Readable content tree)
    (within : Within tree node)
    (constant : (node.kind content == .constant || node.kind content == .define) = true)
    (read : (if node.kind content = .define then node.defineParts content
      else node.elementParts content) = .ok parts) :
    node.ConvertsBy content .constant parts.naming?
      ((node.constantEntry content origin (node.kind content)).map .constant) := by
  have aroundWithin : Within tree (node.parent?.getD node) := by
    cases found : node.parent? with
    | none => exact within
    | some parent => exact within.parent found
  obtain ⟨comment, commentRead⟩ := docComment_exists readable aroundWithin
  have isUnscoped : (node.kind content == .define) =
      (node.kind content == .anonymousClass || node.kind content == .define) := by
    rcases Bool.or_eq_true_iff.mp constant with same | same <;> rw [beq_iff_eq.mp same] <;> rfl
  have run : node.constantEntry content origin (node.kind content) =
      node.entryOfParts origin content (node.kind content) parts := by
    rw [constantEntry_eq_bind, read]
    rfl
  rw [run]
  unfold entryOfParts ConstantParts.naming?
  by_cases empty : parts.shortName.isEmpty = true
  · rw [if_pos empty, if_pos empty]
    rfl
  · rw [if_neg empty, if_neg empty, commentRead]
    exact ⟨_, rfl, rfl, rfl, rfl, rfl, rfl, isUnscoped⟩

theorem elementParts_eq (readable : Readable content tree) (within : Within tree node)
    (element : node.kind content = .constant)
    (enclosing : node.enclosingNamespace content = .ok outer) :
    ∃ parts, node.elementParts content = .ok parts ∧
      parts.naming? = node.naming? content origin anonymousPrefix outer := by
  obtain ⟨value, valueRead⟩ := elementValue_exists readable within
  refine ⟨⟨qualify outer ((node.givenElementName content).getD ""),
    (node.givenElementName content).getD "", outer.getD "", value⟩, ?_, ?_⟩
  · have sameName (shortName : String) :
        qualify (some (outer.getD "")) shortName = qualify outer shortName := by
      cases outer <;> rfl
    simp only [elementParts, (elementName_eq readable within).1, enclosing, valueRead, bind,
      Except.bind, pure, Except.pure, sameName]
  · rw [naming?_of_element element]
    cases node.givenElementName content <;> rfl

/-- What decides on a kind, apart from the type alone. -/
theorem kind_cases (content : Bytes) (node : Location) :
    kindOfType? node.type = some (node.kind content) ∨
      (node.type = "const_element" ∧
        node.kind content = if node.isInClassBody then .classConstant else .constant) ∨
      node.kind content = .define ∨ node.kind content = .anonymousClass ∨
      node.kind content = .other := by
  unfold kind
  split
  · rename_i kind found
    exact .inl found
  · right
    split
    · rename_i element
      exact .inl ⟨beq_iff_eq.mp element, rfl⟩
    · right
      split
      · split <;> simp
      · split <;> simp

theorem kindOfType?_some {type : String} {kind : Kind} (found : kindOfType? type = some kind) :
    (kind = .method → type = "method_declaration") ∧ kind ≠ .constant ∧
      kind ≠ .classConstant := by
  unfold kindOfType? at found
  split at found <;> simp at found <;> subst kind <;> simp

theorem type_of_element
    (element : node.kind content = .constant ∨ node.kind content = .classConstant) :
    node.type = "const_element" := by
  rcases kind_cases content node with found | ⟨type, _⟩ | found | found | found
  · obtain ⟨_, noConstant, noClassConstant⟩ := kindOfType?_some found
    exact absurd element (not_or.mpr ⟨noConstant, noClassConstant⟩)
  · exact type
  all_goals simp [found] at element

theorem kindOfType?_ne_define (type : String) : kindOfType? type ≠ some .define := by
  unfold kindOfType?
  split <;> simp

theorem isDefineCall_of_define (define : node.kind content = .define) :
    node.isDefineCall content = true := by
  unfold kind at define
  split at define
  · rename_i found
    rw [define] at found
    exact absurd found (kindOfType?_ne_define node.type)
  · grind

theorem argumentValues_of_define (define : node.kind content = .define) :
    ∃ name value rest, node.argumentValues = name :: value :: rest := by
  have isDefine := isDefineCall_of_define define
  unfold isDefineCall at isDefine
  split at isDefine
  · rename_i name value rest found
    exact ⟨name, value, rest, found⟩
  · simp at isDefine

theorem Within.argumentValue {value : Location} (within : Within tree node)
    (member : value ∈ node.argumentValues) : Within tree value := by
  unfold argumentValues at member
  split at member
  · cases member
  · rename_i arguments found
    obtain ⟨argument, isArgument, last⟩ := List.mem_filterMap.mp member
    have argumentWithin :=
      (within.childByField? found).namedChild (List.mem_filter.mp isArgument).1
    exact argumentWithin.namedChild (List.mem_of_getLast? last)

theorem defineParts_eq (readable : Readable content tree) (within : Within tree node)
    (define : node.kind content = .define) :
    ∃ parts, node.defineParts content = .ok parts ∧
      parts.naming? = node.naming? content origin anonymousPrefix outer := by
  obtain ⟨name, value, rest, found⟩ := argumentValues_of_define define
  obtain ⟨literal, literalRead⟩ := readable name (within.argumentValue (by simp [found]))
  obtain ⟨valueSource, valueRead⟩ := readable value (within.argumentValue (by simp [found]))
  refine ⟨⟨literalName literal, (splitName (literalName literal)).2,
    (splitName (literalName literal)).1, valueSource⟩, ?_, ?_⟩
  · simp only [defineParts, found, literalRead, valueRead, bind, Except.bind, pure, Except.pure]
  · rw [naming?_of_define define, found, List.head?_cons, Option.bind_some,
      text_eq_ok_iff.mp literalRead, Option.bind_some]
    simp only [ConstantParts.naming?, literalNaming?]

theorem constantEntry_convertsBy (readable : Readable content tree) (within : Within tree node)
    (constant : (node.kind content == .constant || node.kind content == .define) = true)
    (enclosing : node.enclosingNamespace content = .ok outer) :
    node.ConvertsBy content .constant (node.naming? content origin anonymousPrefix outer)
      ((node.constantEntry content origin (node.kind content)).map .constant) := by
  have known : ∃ parts,
      (if node.kind content = .define then node.defineParts content
        else node.elementParts content) = .ok parts ∧
      parts.naming? = node.naming? content origin anonymousPrefix outer := by
    rcases Bool.or_eq_true_iff.mp constant with same | same
    · have element : node.kind content = .constant := beq_iff_eq.mp same
      rw [if_neg (by simp [element])]
      exact elementParts_eq origin anonymousPrefix readable within element enclosing
    · have define : node.kind content = .define := beq_iff_eq.mp same
      rw [if_pos define]
      exact defineParts_eq origin anonymousPrefix readable within define
  obtain ⟨parts, read, same⟩ := known
  rw [← same]
  exact constantEntry_of_parts origin readable within constant read

/-- The names of a declaration decide its conversion: without names it is
refused, and else it has an entry that tells them. -/
theorem convert_standard {category : Category} (readable : Readable content tree)
    (within : Within tree node) (admitted : category.admits (node.kind content) = true)
    (enclosing : node.enclosingNamespace content = .ok outer) :
    node.ConvertsBy content category.subject (node.naming? content origin anonymousPrefix outer)
      ((Converter.standard anonymousPrefix).convert content origin node) := by
  cases category with
  | classLike =>
      rw [Converter.convert_standard_classLike admitted]
      exact classEntry_convertsBy origin anonymousPrefix readable within admitted enclosing
  | function =>
      have function : node.kind content = .function := beq_iff_eq.mp admitted
      rw [Converter.convert_standard_function function]
      exact functionEntry_convertsBy origin anonymousPrefix readable within function enclosing
  | constant =>
      rw [Converter.convert_standard_constant admitted]
      exact constantEntry_convertsBy origin anonymousPrefix readable within admitted enclosing

end Syntax.Location

end PhpOutline
