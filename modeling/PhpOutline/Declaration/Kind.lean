import PhpOutline.Syntax.Location
import PhpOutline.Text.Characters
import PhpOutline.Text.Lowercase

namespace PhpOutline

/-! Which kind of declaration a node is.

Most kinds follow from the grammar type alone.  A const element belongs to a
class exactly if its declaration stands in the body of one, and a call is a
constant definition exactly if it calls `define`, in any case and with any
leading separators, and its first of at least two arguments is a string literal.
-/

open PhpOutline.Syntax
open PhpOutline.Text (Bytes)

inductive Kind where
  | namespaceDefinition
  | classDeclaration
  | interfaceDeclaration
  | traitDeclaration
  | enumDeclaration
  | anonymousClass
  | function
  | method
  | closure
  | arrowFunction
  | constant
  | define
  | classConstant
  | other
deriving DecidableEq, Repr

namespace Kind

def all : List Kind :=
  [.namespaceDefinition, .classDeclaration, .interfaceDeclaration, .traitDeclaration,
    .enumDeclaration, .anonymousClass, .function, .method, .closure, .arrowFunction,
    .constant, .define, .classConstant, .other]

def name : Kind → String
  | .namespaceDefinition => "namespace"
  | .classDeclaration => "class"
  | .interfaceDeclaration => "interface"
  | .traitDeclaration => "trait"
  | .enumDeclaration => "enum"
  | .anonymousClass => "anonymous_class"
  | .function => "function"
  | .method => "method"
  | .closure => "closure"
  | .arrowFunction => "arrow_function"
  | .constant => "constant"
  | .define => "define"
  | .classConstant => "class_constant"
  | .other => "other"

def ofName? (name : String) : Option Kind :=
  all.find? fun kind => kind.name == name

/-- Classes, and what is declared like one. -/
def isClassLike : Kind → Bool
  | .classDeclaration | .interfaceDeclaration | .traitDeclaration | .enumDeclaration
  | .anonymousClass => true
  | _ => false

end Kind

/-- What a search looks for. -/
inductive Category where
  | classLike
  | function
  | constant
deriving DecidableEq, Repr

namespace Category

def all : List Category :=
  [.classLike, .function, .constant]

def name : Category → String
  | .classLike => "class"
  | .function => "function"
  | .constant => "constant"

/-- The name as the first word of a sentence. -/
def title : Category → String
  | .classLike => "Class"
  | .function => "Function"
  | .constant => "Constant"

def ofName? (name : String) : Option Category :=
  all.find? fun category => category.name == name

/-- Whether a node of a kind is a declaration of the category.  Methods and
closures are no functions, and class constants no constants: they have no name
of their own outside the class. -/
def admits : Category → Kind → Bool
  | .classLike, kind => kind.isClassLike
  | .function, kind => kind == .function
  | .constant, kind => kind == .constant || kind == .define

/-- Names of classes and functions ignore case, names of constants do not. -/
def isCaseSensitive : Category → Bool
  | .constant => true
  | _ => false

end Category

/-- The kinds that follow from the grammar type alone. -/
def kindOfType? (type : String) : Option Kind :=
  match type with
  | "namespace_definition" => some .namespaceDefinition
  | "class_declaration" => some .classDeclaration
  | "interface_declaration" => some .interfaceDeclaration
  | "trait_declaration" => some .traitDeclaration
  | "enum_declaration" => some .enumDeclaration
  | "anonymous_class" => some .anonymousClass
  | "function_definition" => some .function
  | "method_declaration" => some .method
  | "anonymous_function" => some .closure
  | "anonymous_function_creation_expression" => some .closure
  | "arrow_function" => some .arrowFunction
  | _ => none

def isClassBodyType (type : String) : Bool :=
  type == "declaration_list" || type == "enum_declaration_list"

def isStringLiteralType (type : String) : Bool :=
  type == "string" || type == "encapsed_string"

def separator : Char := '\\'

/-- A name without the separators at its start. -/
def dropSeparators (name : String) : String :=
  Text.dropLeading (· == separator) name

namespace Syntax.Location

/-- The values of a call's arguments: of every argument its last named child. -/
def argumentValues (call : Location) : List Location :=
  match call.childByField? "arguments" with
  | none => []
  | some arguments =>
      (arguments.namedChildren.filter (·.type == "argument")).filterMap
        (·.namedChildren.getLast?)

/-- The call names the function `define`. -/
def callsDefine (content : Bytes) (call : Location) : Bool :=
  match call.childByField? "function" with
  | none => false
  | some callee =>
      (callee.type == "name" || callee.type == "qualified_name") &&
        Text.lowercase (dropSeparators (callee.lossyText content)) == "define"

/-- The call defines a constant with a literal name. -/
def isDefineCall (content : Bytes) (call : Location) : Bool :=
  call.callsDefine content &&
    match call.argumentValues with
    | name :: _ :: _ => isStringLiteralType name.type
    | _ => false

/-- The declaration of a const element stands in the body of a class. -/
def isInClassBody (element : Location) : Bool :=
  match element.parent?.bind Location.parent? with
  | some owner => isClassBodyType owner.type
  | none => false

def kind (content : Bytes) (location : Location) : Kind :=
  match kindOfType? location.type with
  | some kind => kind
  | none =>
      if location.type == "const_element" then
        if location.isInClassBody then .classConstant else .constant
      else if location.type == "function_call_expression" then
        if location.isDefineCall content then .define else .other
      else if location.type == "object_creation_expression" &&
          location.namedChildren.any (·.type == "declaration_list") then
        .anonymousClass
      else .other

end Syntax.Location

end PhpOutline
