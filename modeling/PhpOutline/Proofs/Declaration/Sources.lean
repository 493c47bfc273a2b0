import PhpOutline.Proofs.Declaration.Naming
import PhpOutline.Proofs.Related
import PhpOutline.Proofs.Text.Encoding

namespace PhpOutline

open PhpOutline.Syntax
open PhpOutline.Text (Bytes CodePoint)

/-- The category that a node of the kind is a declaration of. -/
def Kind.category? : Kind → Option Category
  | .classDeclaration | .interfaceDeclaration | .traitDeclaration | .enumDeclaration
  | .anonymousClass => some .classLike
  | .function => some .function
  | .constant | .define => some .constant
  | .namespaceDefinition | .method | .closure | .arrowFunction | .classConstant | .other => none

theorem Kind.category?_of_classLike {kind : Kind} (classLike : kind.isClassLike = true) :
    kind.category? = some .classLike := by
  cases kind with
  | classDeclaration | interfaceDeclaration | traitDeclaration | enumDeclaration
  | anonymousClass => rfl
  | _ => cases classLike

theorem Kind.category?_of_constant {kind : Kind} (constant : kind = .constant ∨ kind = .define) :
    kind.category? = some .constant := by
  rcases constant with rfl | rfl <;> rfl

/-- The category whose outlines have entries of this sort. -/
def Entry.category? : Entry → Option Category
  | .bare _ => none
  | .classLike _ => some .classLike
  | .function _ => some .function
  | .constant _ => some .constant

namespace Syntax.Location

variable {content : Bytes} {origin : Option String} {anonymousPrefix : String} {kind : Kind}
  {node : Location}

/-- The entry is of the sort of the declaration and has its lines; it is marked if the
declaration is an anonymous class or a call of `define`. -/
structure Describes (content : Bytes) (node : Location) (entry : Entry) : Prop where
  category : ∀ category, entry.category? = some category ↔
    category.admits (node.kind content) = true
  startLine : entry.heading.startLine = node.startLine content
  endLine : entry.heading.endLine = node.endLine content
  isAnonymous : ∀ classEntry, entry = .classLike classEntry →
    (classEntry.isAnonymous = true ↔ node.kind content = .anonymousClass)
  isDefine : ∀ constantEntry, entry = .constant constantEntry →
    (constantEntry.isDefine = true ↔ node.kind content = .define)

/-- An anonymous class has its name from where it stands, and any other one from its field. -/
theorem classNames_reads {shortName name : String} {namespaceName : Option String}
    (done : node.classNames content origin anonymousPrefix kind =
      .ok (shortName, namespaceName, name)) :
    (kind = .anonymousClass ∧ namespaceName = none ∧ name = shortName ∧
        shortName = anonymousName anonymousPrefix origin (node.startLine content)) ∨
      (kind ≠ .anonymousClass ∧ node.declaredName content = .ok (some shortName) ∧
        node.enclosingNamespace content = .ok namespaceName ∧
        name = qualify namespaceName shortName) := by
  unfold classNames at done
  split at done
  · rename_i anonymous
    cases done
    exact .inl ⟨anonymous, rfl, rfl, rfl⟩
  · rename_i notAnonymous
    obtain ⟨declared, declaredRead, done⟩ := bind_eq_ok_iff.mp done
    cases declared with
    | none => cases done
    | some declared =>
        obtain ⟨outer, enclosing, done⟩ := bind_eq_ok_iff.mp done
        cases done
        exact .inr ⟨notAnonymous, declaredRead, enclosing, rfl⟩

/-- What the parts of a class entry are read from. -/
structure ReadsClass (content : Bytes) (origin : Option String) (anonymousPrefix : String)
    (kind : Kind) (node : Location) (entry : ClassEntry) : Prop where
  names : node.classNames content origin anonymousPrefix kind =
    .ok (entry.heading.shortName, entry.heading.namespaceName, entry.heading.name)
  fileName : entry.heading.fileName = origin
  startLine : entry.heading.startLine = node.startLine content
  endLine : entry.heading.endLine = node.endLine content
  docComment : node.docComment content = .ok entry.heading.docComment
  form : entry.form = .ofType node.type
  isAnonymous : entry.isAnonymous = (kind == .anonymousClass)
  modifiers : entry.modifiers = node.modifiers
  clauses : ∃ parents interfaces,
    node.clauseNames content "base_clause" = .ok parents ∧
      node.clauseNames content "class_interface_clause" = .ok interfaces ∧
      (entry.parentName, entry.interfaceNames) =
        if node.type == "interface_declaration" then (none, parents ++ interfaces)
        else (parents.head?, interfaces)
  members : match node.body? with
    | none => entry.methodNames = [] ∧ entry.constantNames = []
    | some body => body.methodNames content = .ok entry.methodNames ∧
        body.constantNames content = .ok entry.constantNames

theorem classEntry_reads {entry : ClassEntry}
    (done : node.classEntry content origin anonymousPrefix kind = .ok entry) :
    ReadsClass content origin anonymousPrefix kind node entry := by
  unfold classEntry at done
  obtain ⟨⟨shortName, namespaceName, name⟩, names, done⟩ := bind_eq_ok_iff.mp done
  obtain ⟨parents, parentsRead, done⟩ := bind_eq_ok_iff.mp done
  obtain ⟨interfaces, interfacesRead, done⟩ := bind_eq_ok_iff.mp done
  obtain ⟨docComment, commentRead, done⟩ := bind_eq_ok_iff.mp done
  have clauses (isInterface : Bool) :
      ((if isInterface then none else parents.head?),
        (if isInterface then parents ++ interfaces else interfaces)) =
      if isInterface then (none, parents ++ interfaces) else (parents.head?, interfaces) := by
    cases isInterface <;> rfl
  cases found : node.body? with
  | none =>
      rw [found] at done
      cases done
      refine ⟨names, rfl, rfl, rfl, commentRead, rfl, rfl, rfl,
        ⟨parents, interfaces, parentsRead, interfacesRead, clauses _⟩, ?_⟩
      rw [found]
      exact ⟨rfl, rfl⟩
  | some body =>
      rw [found] at done
      obtain ⟨methodNames, methodsRead, done⟩ := bind_eq_ok_iff.mp done
      obtain ⟨constantNames, constantsRead, done⟩ := bind_eq_ok_iff.mp done
      cases done
      refine ⟨names, rfl, rfl, rfl, commentRead, rfl, rfl, rfl,
        ⟨parents, interfaces, parentsRead, interfacesRead, clauses _⟩, ?_⟩
      rw [found]
      exact ⟨methodsRead, constantsRead⟩

/-- What the parts of a function entry are read from. -/
structure ReadsFunction (content : Bytes) (origin : Option String) (node : Location)
    (entry : FunctionEntry) : Prop where
  shortName : node.declaredName content = .ok (some entry.heading.shortName)
  namespaceName : node.enclosingNamespace content = .ok entry.heading.namespaceName
  name : entry.heading.name = qualify entry.heading.namespaceName entry.heading.shortName
  fileName : entry.heading.fileName = origin
  startLine : entry.heading.startLine = node.startLine content
  endLine : entry.heading.endLine = node.endLine content
  docComment : node.docComment content = .ok entry.heading.docComment
  parameterNames : node.parameterNames content = .ok entry.parameterNames
  returnType : node.returnType content = .ok entry.returnType
  returnsReference : entry.returnsReference = node.returnsReference

theorem functionEntry_reads {entry : FunctionEntry}
    (done : node.functionEntry content origin = .ok entry) :
    ReadsFunction content origin node entry := by
  unfold functionEntry at done
  obtain ⟨name, nameRead, done⟩ := bind_eq_ok_iff.mp done
  cases name with
  | none => cases done
  | some shortName =>
      obtain ⟨namespaceName, enclosing, done⟩ := bind_eq_ok_iff.mp done
      obtain ⟨docComment, commentRead, done⟩ := bind_eq_ok_iff.mp done
      obtain ⟨parameterNames, parametersRead, done⟩ := bind_eq_ok_iff.mp done
      obtain ⟨returnType, typeRead, done⟩ := bind_eq_ok_iff.mp done
      cases done
      exact ⟨nameRead, enclosing, rfl, rfl, rfl, rfl, commentRead, parametersRead, typeRead, rfl⟩

theorem elementParts_reads {parts : ConstantParts} (done : node.elementParts content = .ok parts) :
    ∃ name outer, node.elementName content = .ok name ∧
      node.enclosingNamespace content = .ok outer ∧
      node.elementValue content = .ok parts.valueSource ∧
      parts.shortName = name.getD "" ∧ parts.namespaceName = outer.getD "" ∧
      parts.name = qualify (some parts.namespaceName) parts.shortName := by
  unfold elementParts at done
  obtain ⟨name, nameRead, done⟩ := bind_eq_ok_iff.mp done
  obtain ⟨outer, enclosing, done⟩ := bind_eq_ok_iff.mp done
  obtain ⟨value, valueRead, done⟩ := bind_eq_ok_iff.mp done
  cases done
  exact ⟨name, outer, nameRead, enclosing, valueRead, rfl, rfl, rfl⟩

theorem defineParts_reads {parts : ConstantParts} (done : node.defineParts content = .ok parts) :
    (∃ literal, parts.name = literalName literal) ∧
      parts.namespaceName = (splitName parts.name).1 ∧
      parts.shortName = (splitName parts.name).2 := by
  unfold defineParts at done
  split at done
  · obtain ⟨literal, _, done⟩ := bind_eq_ok_iff.mp done
    obtain ⟨value, _, done⟩ := bind_eq_ok_iff.mp done
    simp only [pure, Except.pure, Except.ok.injEq] at done
    subst parts
    exact ⟨⟨literal, rfl⟩, rfl, rfl⟩
  · cases done

/-- What the parts of a constant's entry are read from. -/
structure ReadsConstant (content : Bytes) (origin : Option String) (kind : Kind)
    (node : Location) (entry : ConstantEntry) : Prop where
  parts : ∃ outer,
    (if kind = .define then node.defineParts content else node.elementParts content) =
        .ok ⟨entry.heading.name, entry.heading.shortName, outer, entry.valueSource⟩ ∧
      entry.heading.namespaceName = nonEmpty outer
  named : entry.heading.shortName.isEmpty = false
  fileName : entry.heading.fileName = origin
  startLine : entry.heading.startLine = node.startLine content
  endLine : entry.heading.endLine = node.endLine content
  docComment : (node.parent?.getD node).docComment content = .ok entry.heading.docComment
  isDefine : entry.isDefine = (kind == .define)

theorem constantEntry_reads {entry : ConstantEntry}
    (done : node.constantEntry content origin kind = .ok entry) :
    ReadsConstant content origin kind node entry := by
  rw [constantEntry_eq_bind] at done
  obtain ⟨parts, partsRead, done⟩ := bind_eq_ok_iff.mp done
  unfold entryOfParts at done
  split at done
  · cases done
  · rename_i named
    obtain ⟨docComment, commentRead, done⟩ := bind_eq_ok_iff.mp done
    cases done
    exact ⟨⟨_, partsRead, rfl⟩, Bool.eq_false_iff.mpr named, rfl, rfl, rfl, commentRead, rfl⟩

/-- The entry is read from the node, which is of the kind that the sort of the entry is
for. -/
inductive ReadFrom (content : Bytes) (origin : Option String) (node : Location) : Entry → Prop
  | classLike {entry : ClassEntry} {anonymousPrefix : String}
      (taken : (node.kind content).isClassLike = true)
      (reads : ReadsClass content origin anonymousPrefix (node.kind content) node entry) :
      ReadFrom content origin node (.classLike entry)
  | function {entry : FunctionEntry} (taken : node.kind content = .function)
      (reads : ReadsFunction content origin node entry) :
      ReadFrom content origin node (.function entry)
  | constant {entry : ConstantEntry}
      (taken : node.kind content = .constant ∨ node.kind content = .define)
      (reads : ReadsConstant content origin (node.kind content) node entry) :
      ReadFrom content origin node (.constant entry)

end Syntax.Location

section Converters

open Syntax.Location

variable {content : Bytes} {origin : Option String} {node : Location} {entry : Entry}

mutual

/-- Whatever dispatchers a converter is put together from, a basic one reads the entry. -/
theorem Converter.convert_reads (converter : Converter)
    (done : converter.convert content origin node = .ok entry) :
    ReadFrom content origin node entry := by
  cases converter with
  | classLike anonymousPrefix =>
      rw [Converter.convert] at done
      split at done
      · rename_i taken
        obtain ⟨classEntry, read, rfl⟩ := map_eq_ok_iff.mp done
        exact .classLike taken (classEntry_reads read)
      · cases done
  | function =>
      rw [Converter.convert] at done
      split at done
      · rename_i taken
        obtain ⟨functionEntry, read, rfl⟩ := map_eq_ok_iff.mp done
        exact .function (beq_iff_eq.mp taken) (functionEntry_reads read)
      · cases done
  | constant =>
      rw [Converter.convert] at done
      split at done
      · rename_i taken
        obtain ⟨constantEntry, read, rfl⟩ := map_eq_ok_iff.mp done
        have kinds := (Bool.or_eq_true_iff.mp taken).imp beq_iff_eq.mp beq_iff_eq.mp
        exact .constant kinds (constantEntry_reads read)
      · cases done
  | dispatch parts =>
      rw [Converter.convert] at done
      split at done
      · rename_i result first
        exact Converter.convertFirst_reads parts (done ▸ first)
      · cases done

theorem Converter.convertFirst_reads (parts : List Converter)
    (done : Converter.convertFirst content origin node parts = some (.ok entry)) :
    ReadFrom content origin node entry := by
  cases parts with
  | nil => cases done
  | cons part rest =>
      rw [Converter.convertFirst] at done
      split at done
      · exact Converter.convert_reads part (Option.some.inj done)
      · exact Converter.convertFirst_reads rest done

end

end Converters

theorem Category.admits_iff {category : Category} {kind : Kind} :
    category.admits kind = true ↔ kind.category? = some category := by
  cases kind <;> cases category <;> decide

open Syntax.Location in
theorem convert_standard_describes {content : Bytes} {origin : Option String}
    {anonymousPrefix : String} {category : Category} {node : Location} {entry : Entry}
    (admitted : category.admits (node.kind content) = true)
    (converted : (Converter.standard anonymousPrefix).convert content origin node = .ok entry) :
    Describes content node entry := by
  have sameCategory : ∀ other, some category = some other ↔
      other.admits (node.kind content) = true := by
    intro other
    rw [Category.admits_iff, Category.admits_iff.mp admitted]
  have ofKind := Category.admits_iff.mp admitted
  cases Converter.convert_reads _ converted with
  | classLike taken reads =>
      cases Option.some.inj (ofKind.symm.trans (Kind.category?_of_classLike taken))
      refine ⟨sameCategory, reads.startLine, reads.endLine, ?_, ?_⟩
      · intro classEntry same
        cases same
        rw [reads.isAnonymous, beq_iff_eq]
      · intro _ other
        cases other
  | function taken reads =>
      rw [taken] at ofKind
      cases ofKind
      refine ⟨sameCategory, reads.startLine, reads.endLine, ?_, ?_⟩ <;> intro _ other <;> cases other
  | constant taken reads =>
      cases Option.some.inj (ofKind.symm.trans (Kind.category?_of_constant taken))
      refine ⟨sameCategory, reads.startLine, reads.endLine, ?_, ?_⟩
      · intro _ other
        cases other
      · intro constantEntry same
        cases same
        rw [reads.isDefine, beq_iff_eq]

theorem fileName?_eq_some_iff {origin : Option (List CodePoint)} {fileName : Option String} :
    fileName? origin = some fileName ↔ origin = fileName.map CodePoint.ofString := by
  cases origin with
  | none => cases fileName <;> simp [fileName?]
  | some origin =>
      rw [fileName?, Option.map_eq_some_iff]
      cases fileName <;> simp [Text.string?_eq_some_iff]

section Records

variable {converter : Converter} {content : Bytes} {origin : Option (List CodePoint)}
  {node : Location}

theorem Converter.record_of_fileName {fileName : Option String}
    (spelled : origin = fileName.map CodePoint.ofString) :
    converter.record content origin node = converter.convert content fileName node := by
  rw [record, fileName?_eq_some_iff.mpr spelled]

theorem Converter.record_eq_ok_iff {entry : Entry} :
    converter.record content origin node = .ok entry ↔
      ∃ fileName : Option String, origin = fileName.map CodePoint.ofString ∧
        converter.convert content fileName node = .ok entry := by
  constructor
  · intro recorded
    cases spelled : fileName? origin with
    | some fileName =>
        rw [record, spelled] at recorded
        exact ⟨fileName, fileName?_eq_some_iff.mp spelled, recorded⟩
    | none =>
        rw [record, spelled] at recorded
        obtain ⟨_, _, invalid⟩ := bind_eq_ok_iff.mp recorded
        cases invalid
  · rintro ⟨fileName, spelled, converted⟩
    rw [record_of_fileName spelled, converted]

/-- Conversions that agree for every file name agree for every origin. -/
theorem Converter.record_agreeUnless (origin : Option (List CodePoint)) {other : Converter}
    {otherContent : Bytes} {image : Location} {excuse : Prop} {R : Entry → Entry → Prop}
    (sameKind : node.kind content = image.kind otherContent)
    (each : ∀ fileName, AgreeUnless excuse R (converter.convert content fileName node)
      (other.convert otherContent fileName image)) :
    AgreeUnless excuse R (converter.record content origin node)
      (other.record otherContent origin image) := by
  unfold record
  cases fileName? origin with
  | some fileName => exact each fileName
  | none =>
      apply (each none).bind
      intro _ _ _
      rw [sameKind]
      exact .agree (.error _)

theorem Converter.record_agree (origin : Option (List CodePoint)) {other : Converter}
    {otherContent : Bytes} {image : Location} {R : Entry → Entry → Prop}
    (sameKind : node.kind content = image.kind otherContent)
    (each : ∀ fileName, Agree R (converter.convert content fileName node)
      (other.convert otherContent fileName image)) :
    Agree R (converter.record content origin node) (other.record otherContent origin image) :=
  (record_agreeUnless origin sameKind fun fileName => .agree (each fileName)).without_excuse

end Records

end PhpOutline
