import PhpOutline.Declaration.Kind
import PhpOutline.Report

namespace PhpOutline

open PhpOutline.Syntax
open PhpOutline.Text (Bytes)

/-- The full name of what is declared in a namespace.  An empty namespace is as
good as none. -/
def qualify (namespaceName : Option String) (shortName : String) : String :=
  match namespaceName with
  | none => shortName
  | some outer =>
      if outer.isEmpty then shortName else outer ++ separator.toString ++ shortName

/-- The text between two equal quotes; any other text stays as it is. -/
def unquote (literal : String) : String :=
  match literal.toList with
  | [] => literal
  | [_] => literal
  | opening :: rest =>
      if rest.getLast? == some opening && (opening == '\'' || opening == '"') then
        String.ofList rest.dropLast
      else literal

/-- The members of a list up to the first failure. -/
def collect (read : α → Except Failure (Option β)) : List α → Except Failure (List β)
  | [] => .ok []
  | item :: rest =>
      match read item with
      | .error failure => .error failure
      | .ok found =>
          match collect read rest with
          | .error failure => .error failure
          | .ok others => .ok (found.toList ++ others)

namespace Syntax.Location

def text (content : Bytes) (location : Location) : Except Failure String :=
  match Text.decode (location.bytes content) with
  | .ok chars => .ok (String.ofList chars)
  | .error part => .error (.undecodable (location.bytes content) part)

/-- The text of a node that may be absent. -/
def optionalText (content : Bytes) (location : Option Location) :
    Except Failure (Option String) :=
  match location with
  | none => .ok none
  | some location => (location.text content).map some

/-- The text of the child in the field `name`. -/
def declaredName (content : Bytes) (location : Location) : Except Failure (Option String) :=
  optionalText content (location.childByField? "name")

/-- Where the search for a namespace ends: inside a namespace definition, or at
the ancestor that stands at the top of the program. -/
inductive Scope where
  | inside (owner : Location)
  | topLevel (statement : Location)

/-- Climbs from a node to the nearest namespace definition around it, but not
beyond the program. -/
def scopeFrom (here : Tree) : List Step → Scope
  | [] => .topLevel ⟨here, []⟩
  | step :: rest =>
      if step.parent.type == "program" then .topLevel ⟨here, step :: rest⟩
      else if step.parent.type == "namespace_definition" then .inside ⟨step.parent, rest⟩
      else scopeFrom step.parent rest

def scope (location : Location) : Scope :=
  scopeFrom location.here location.above

/-- A namespace statement without braces, which holds for what follows it. -/
def opensNamespace (statement : Location) : Bool :=
  statement.type == "namespace_definition" && (statement.childByField? "body").isNone

/-- The namespace that a node is declared in: that of the definition around it,
or at the top level that of the nearest earlier statement without braces. -/
def enclosingNamespace (content : Bytes) (location : Location) :
    Except Failure (Option String) :=
  match location.scope with
  | .inside owner => owner.declaredName content
  | .topLevel statement =>
      match statement.earlierNamedSiblings.find? opensNamespace with
      | some opening => opening.declaredName content
      | none => .ok none

/-- The comment right before a node, if it is a doc comment. -/
def docComment (content : Bytes) (location : Location) : Except Failure (Option String) :=
  match location.previousNamedSibling? with
  | none => .ok none
  | some previous =>
      if previous.type == "comment" then
        match previous.text content with
        | .error failure => .error failure
        | .ok text => .ok (if text.startsWith "/**" then some text else none)
      else .ok none

/-- The word of a modifier that an outline records. -/
def modifierWord? (type : String) : Option String :=
  match type with
  | "abstract_modifier" => some "abstract"
  | "final_modifier" => some "final"
  | "readonly_modifier" => some "readonly"
  | _ => none

def modifiers (location : Location) : List String :=
  location.children.filterMap fun child => modifierWord? child.type

/-- The plain and the qualified names in all clauses of a type, without
separators in front. -/
def clauseNames (content : Bytes) (clauseType : String) (location : Location) :
    Except Failure (List String) :=
  let clauses := location.namedChildren.filter (·.type == clauseType)
  let names := (clauses.flatMap namedChildren).filter fun name =>
    name.type == "name" || name.type == "qualified_name"
  collect (fun name => (name.text content).map fun text => some (dropSeparators text)) names

/-- The body of a class: the child in the field, or else the first list of
members. -/
def body? (location : Location) : Option Location :=
  match location.childByField? "body" with
  | some body => some body
  | none => location.namedChildren.find? fun child => isClassBodyType child.type

def methodNames (content : Bytes) (body : Location) : Except Failure (List String) :=
  collect (declaredName content)
    (body.namedChildren.filter (·.type == "method_declaration"))

/-- The first named child that is a name. -/
def elementName (content : Bytes) (element : Location) : Except Failure (Option String) :=
  optionalText content (element.namedChildren.find? (·.type == "name"))

/-- The text of the last named child, unless it is the only one. -/
def elementValue (content : Bytes) (element : Location) : Except Failure String :=
  match element.namedChildren with
  | _ :: second :: rest => (rest.getLastD second).text content
  | _ => .ok ""

def constantNames (content : Bytes) (body : Location) : Except Failure (List String) :=
  let declarations := body.namedChildren.filter (·.type == "const_declaration")
  let elements := (declarations.flatMap namedChildren).filter (·.type == "const_element")
  collect (elementName content) elements

/-- The names of the parameters, without the signs in front. -/
def parameterNames (content : Bytes) (location : Location) : Except Failure (List String) :=
  match location.childByField? "parameters" with
  | none => .ok []
  | some parameters =>
      collect
        (fun parameter =>
          (parameter.declaredName content).map (·.map (Text.dropLeading (· == '$'))))
        parameters.namedChildren

/-- The text of the return type, without colons in front and without white space
around it. -/
def returnType (content : Bytes) (location : Location) : Except Failure (Option String) :=
  match location.childByField? "return_type" with
  | none => .ok none
  | some type =>
      (type.text content).map fun text =>
        let trimmed := Text.trim (Text.dropLeading (· == ':') text)
        if trimmed.isEmpty then none else some trimmed

def returnsReference (location : Location) : Bool :=
  location.children.any (·.type == "reference_modifier")

end Syntax.Location

end PhpOutline
