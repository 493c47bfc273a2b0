import PhpOutline.Declaration.Entry
import PhpOutline.Declaration.Extraction

namespace PhpOutline

open PhpOutline.Syntax
open PhpOutline.Text (Bytes CodePoint)

inductive Converter where
  | classLike (anonymousPrefix : String)
  | function
  | constant
  | dispatch (parts : List Converter)

namespace Converter

/-- The converter of every kind of declaration. -/
def standard (anonymousPrefix : String) : Converter :=
  .dispatch [.classLike anonymousPrefix, .function, .constant]

/-- The name of a converter in messages. -/
def title : Converter → String
  | .classLike _ => "ClassLikeToReflection"
  | .function => "FunctionToReflection"
  | .constant => "ConstantToReflection"
  | .dispatch _ => "DefaultNodeToReflection"

mutual

def takes (kind : Kind) : Converter → Bool
  | .classLike _ => kind.isClassLike
  | .function => kind == .function
  | .constant => kind == .constant || kind == .define
  | .dispatch parts => anyTakes kind parts

def anyTakes (kind : Kind) : List Converter → Bool
  | [] => false
  | part :: rest => part.takes kind || anyTakes kind rest

end

end Converter

/-- The name of an anonymous class: a prefix, the origin, and the line. -/
def anonymousName (anonymousPrefix : String) (origin : Option String) (line : Nat) : String :=
  anonymousPrefix ++ origin.getD "" ++ ":" ++ toString line

/-- Each pair of separators, from the left, becomes one. -/
def collapseSeparators : List Char → List Char
  | first :: second :: rest =>
      if first = separator ∧ second = separator then separator :: collapseSeparators rest
      else first :: collapseSeparators (second :: rest)
  | chars => chars

/-- The name that a literal gives to a constant: unquoted, with pairs of
separators made single, and without separators in front. -/
def literalName (literal : String) : String :=
  dropSeparators (String.ofList (collapseSeparators (unquote literal).toList))

/-- A name split at its last separator: what comes before, empty if there is
none, and what comes after. -/
def splitName (name : String) : String × String :=
  let reversed := name.toList.reverse
  (String.ofList (reversed.dropWhile (· != separator)).tail.reverse,
    String.ofList (reversed.takeWhile (· != separator)).reverse)

/-- A part of a name that may be absent; an empty one is. -/
def nonEmpty (text : String) : Option String :=
  if text.isEmpty then none else some text

namespace Syntax.Location

variable (content : Bytes) (origin : Option String)

def obstruct (location : Location) (obstacle : Obstacle) : Failure :=
  .conversion obstacle location.type (location.startLine content)

/-- The names of a class-like declaration: the short name, the namespace, and
the full name. -/
def classNames (anonymousPrefix : String) (kind : Kind) (location : Location) :
    Except Failure (String × Option String × String) :=
  if kind = .anonymousClass then
    let name := anonymousName anonymousPrefix origin (location.startLine content)
    .ok (name, none, name)
  else do
    match ← location.declaredName content with
    | none => .error (location.obstruct content (.nameless .classLike))
    | some shortName =>
        let namespaceName ← location.enclosingNamespace content
        return (shortName, namespaceName, qualify namespaceName shortName)

def classEntry (anonymousPrefix : String) (kind : Kind) (location : Location) :
    Except Failure ClassEntry := do
  let (shortName, namespaceName, name) ←
    location.classNames content origin anonymousPrefix kind
  let parents ← location.clauseNames content "base_clause"
  let interfaces ← location.clauseNames content "class_interface_clause"
  -- An interface extends interfaces and has no parent class.
  let isInterface := location.type == "interface_declaration"
  let docComment ← location.docComment content
  let (methodNames, constantNames) ←
    match location.body? with
    | none => pure ([], [])
    | some body => do
        let methodNames ← body.methodNames content
        let constantNames ← body.constantNames content
        pure (methodNames, constantNames)
  return {
    heading := {
      name, shortName, namespaceName, docComment
      fileName := origin
      startLine := location.startLine content
      endLine := location.endLine content }
    form := .ofType location.type
    isAnonymous := kind == .anonymousClass
    modifiers := location.modifiers
    parentName := if isInterface then none else parents.head?
    interfaceNames := if isInterface then parents ++ interfaces else interfaces
    methodNames, constantNames }

def functionEntry (location : Location) : Except Failure FunctionEntry := do
  match ← location.declaredName content with
  | none => .error (location.obstruct content (.nameless .function))
  | some shortName =>
      let namespaceName ← location.enclosingNamespace content
      let docComment ← location.docComment content
      let parameterNames ← location.parameterNames content
      let returnType ← location.returnType content
      return {
        heading := {
          shortName, namespaceName, docComment
          name := qualify namespaceName shortName
          fileName := origin
          startLine := location.startLine content
          endLine := location.endLine content }
        parameterNames, returnType
        returnsReference := location.returnsReference }

/-- What a constant is called and what its value is: the full name, the short
name, the namespace (empty for none), and the text of the value. -/
structure ConstantParts where
  name : String
  shortName : String
  namespaceName : String
  valueSource : String

/-- A `define` call names its constant in full, whatever namespace it stands in. -/
def defineParts (location : Location) : Except Failure ConstantParts :=
  match location.argumentValues with
  | name :: value :: _ => do
      let name := literalName (← name.text content)
      let valueSource ← value.text content
      return ⟨name, (splitName name).2, (splitName name).1, valueSource⟩
  | arguments => .error (.missingArgument arguments.length)

def elementParts (location : Location) : Except Failure ConstantParts := do
  let shortName := (← location.elementName content).getD ""
  let namespaceName := (← location.enclosingNamespace content).getD ""
  let valueSource ← location.elementValue content
  return ⟨qualify (some namespaceName) shortName, shortName, namespaceName, valueSource⟩

/-- The doc comment of a constant stands before the construct around it. -/
def constantEntry (kind : Kind) (location : Location) : Except Failure ConstantEntry := do
  let parts ←
    if kind = .define then location.defineParts content else location.elementParts content
  if parts.shortName.isEmpty then
    .error (location.obstruct content (.nameless .constant))
  else
    let docComment ← (location.parent?.getD location).docComment content
    return {
      heading := {
        docComment
        name := parts.name
        shortName := parts.shortName
        namespaceName := nonEmpty parts.namespaceName
        fileName := origin
        startLine := location.startLine content
        endLine := location.endLine content }
      valueSource := parts.valueSource
      isDefine := kind == .define }

end Syntax.Location

namespace Converter

variable (content : Bytes) (origin : Option String)

/-- The failure of a converter that does not take a node's kind. -/
def refuse (converter : Converter) (location : Location) : Failure :=
  location.obstruct content (.unsupported converter.title (location.kind content))

mutual

def convert (location : Location) : Converter → Except Failure Entry
  | .classLike anonymousPrefix =>
      if (classLike anonymousPrefix).takes (location.kind content) then
        (location.classEntry content origin anonymousPrefix (location.kind content)).map
          .classLike
      else .error ((classLike anonymousPrefix).refuse content location)
  | .function =>
      if function.takes (location.kind content) then
        (location.functionEntry content origin).map .function
      else .error (function.refuse content location)
  | .constant =>
      if constant.takes (location.kind content) then
        (location.constantEntry content origin (location.kind content)).map .constant
      else .error (constant.refuse content location)
  | .dispatch parts =>
      match convertFirst location parts with
      | some result => result
      | none => .error ((dispatch parts).refuse content location)

/-- The result of the first converter that takes the node's kind. -/
def convertFirst (location : Location) : List Converter → Option (Except Failure Entry)
  | [] => none
  | part :: rest =>
      if part.takes (location.kind content) then some (convert location part)
      else convertFirst location rest

end

end Converter

/-- The file name that an entry takes from the origin of its document; it has to be
free of surrogates. -/
def fileName? (origin : Option (List CodePoint)) : Option (Option String) :=
  match origin with
  | none => some none
  | some origin => (Text.string? origin).map some

/-- The fields of an entry that hold the origin: the file name, and both names of an
anonymous class. -/
def originFields (kind : Kind) : List String :=
  if kind = .anonymousClass then ["name", "short_name", "file_name"] else ["file_name"]

/-- The entry of a node of a document.  With an origin that makes no file name, a node
that would have an entry otherwise has an invalid one. -/
def Converter.record (converter : Converter) (content : Bytes)
    (origin : Option (List CodePoint)) (location : Location) : Except Failure Entry :=
  match fileName? origin with
  | some fileName => converter.convert content fileName location
  | none => do
      let _ ← converter.convert content none location
      .error (.invalidEntry
        ((originFields (location.kind content)).map fun field => ⟨⟨field, none⟩, .notUnicode⟩))

end PhpOutline
