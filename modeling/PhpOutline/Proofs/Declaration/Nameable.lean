import PhpOutline.Proofs.Declaration.Naming

namespace PhpOutline

open PhpOutline.Syntax
open PhpOutline.Syntax.Location (Within)
open PhpOutline.Text (Bytes)

theorem ofList_isEmpty (chars : List Char) : (String.ofList chars).isEmpty = chars.isEmpty := by
  cases chars with
  | nil => rfl
  | cons char rest =>
      apply String.isEmpty_eq_false_iff.mpr
      intro same
      have chars := congrArg String.toList same
      rw [String.toList_ofList] at chars
      cases chars

/-- A name has no last part if it is empty or ends in a separator. -/
theorem splitName_shortName_isEmpty (name : String) :
    (splitName name).2.isEmpty =
      (name.toList.isEmpty || name.toList.getLast? == some separator) := by
  have sameEmpty : name.toList.isEmpty = name.toList.reverse.isEmpty := List.isEmpty_reverse.symm
  unfold splitName
  rw [ofList_isEmpty, List.isEmpty_reverse, ← List.head?_reverse, sameEmpty]
  cases name.toList.reverse with
  | nil => rfl
  | cons last rest =>
      by_cases same : last = separator
      · simp [same]
      · simp [same]

namespace Syntax.Location

/-- The declaration has a name: in a field, which may be empty; as a name that
is not empty; or as a literal that says more than separators and does not end in
one.  An anonymous class needs none. -/
def isNameable (content : Bytes) (node : Location) : Bool :=
  match node.kind content with
  | .classDeclaration | .interfaceDeclaration | .traitDeclaration | .enumDeclaration
  | .function => (node.childByField? "name").isSome
  | .anonymousClass => true
  | .constant =>
      match node.namedChildren.find? (·.type == "name") with
      | some name => name.text? content != some ""
      | none => false
  | .define =>
      match node.argumentValues.head?.bind (text? content) with
      | some literal =>
          literalName literal != "" && (literalName literal).toList.getLast? != some separator
      | none => false
  | _ => false

variable {content : Bytes} {tree : Tree} {node : Location}

theorem naming?_isSome {category : Category} (origin : Option String) (anonymousPrefix : String)
    (outer : Option String) (readable : Readable content tree) (within : Within tree node)
    (admitted : category.admits (node.kind content) = true) :
    (node.naming? content origin anonymousPrefix outer).isSome = node.isNameable content := by
  have given := (declaredName_eq readable within).2
  unfold isNameable
  cases kind : node.kind content with
  | classDeclaration | interfaceDeclaration | traitDeclaration | enumDeclaration | function =>
      rw [naming?_of_field (by rw [kind]; rfl), Option.isSome_map, given]
  | anonymousClass =>
      rw [naming?_of_anonymous kind]
      rfl
  | constant =>
      rw [naming?_of_element kind]
      unfold givenElementName
      cases found : node.namedChildren.find? (·.type == "name") with
      | none => rfl
      | some name =>
          obtain ⟨text, read⟩ := readable name
            (within.namedChild (List.mem_of_find?_eq_some found))
          simp only [Option.bind_some, text_eq_ok_iff.mp read]
          by_cases empty : text = ""
          · subst text
            rfl
          · simp [empty]
  | define =>
      rw [naming?_of_define kind]
      cases node.argumentValues.head?.bind (text? content) with
      | none => rfl
      | some literal =>
          simp only [Option.bind_some, literalNaming?, splitName_shortName_isEmpty]
          by_cases empty : literalName literal = ""
          · simp [empty]
          · by_cases last : (literalName literal).toList.getLast? = some separator
            · simp [last]
            · simp [empty, last]
  | namespaceDefinition | method | closure | arrowFunction | classConstant | other =>
      rw [kind] at admitted
      cases category <;> cases admitted

end Syntax.Location

end PhpOutline
