import PhpOutline.Validation

namespace PhpOutline

inductive ClassForm where
  | plain
  | interface
  | trait
  | enum
deriving DecidableEq, Repr

namespace ClassForm

def all : List ClassForm :=
  [.plain, .interface, .trait, .enum]

def name : ClassForm → String
  | .plain => "CLASS"
  | .interface => "INTERFACE"
  | .trait => "TRAIT"
  | .enum => "ENUM"

def ofName? (name : String) : Option ClassForm :=
  all.find? fun form => form.name == name

/-- The form of a declaration by the grammar type of its node; anonymous classes
of every grammar are plain classes. -/
def ofType (type : String) : ClassForm :=
  match type with
  | "interface_declaration" => .interface
  | "trait_declaration" => .trait
  | "enum_declaration" => .enum
  | _ => .plain

end ClassForm

/-- What every entry says: the full name and its parts, the file, the lines from
the first to the last token, and the doc comment in front. -/
structure Heading where
  name : String
  shortName : String
  namespaceName : Option String
  fileName : Option String
  startLine : Nat
  endLine : Nat
  docComment : Option String
deriving DecidableEq, Repr

/-- An entry that names an empty namespace is in no namespace. -/
def Heading.inNamespace (heading : Heading) : Bool :=
  match heading.namespaceName with
  | none => false
  | some name => name != ""

structure ClassEntry where
  heading : Heading
  form : ClassForm
  isAnonymous : Bool
  modifiers : List String
  parentName : Option String
  interfaceNames : List String
  methodNames : List String
  constantNames : List String
deriving DecidableEq, Repr

structure FunctionEntry where
  heading : Heading
  parameterNames : List String
  returnType : Option String
  returnsReference : Bool
deriving DecidableEq, Repr

structure ConstantEntry where
  heading : Heading
  valueSource : String
  isDefine : Bool
deriving DecidableEq, Repr

inductive Entry where
  | bare (heading : Heading)
  | classLike (entry : ClassEntry)
  | function (entry : FunctionEntry)
  | constant (entry : ConstantEntry)
deriving DecidableEq, Repr

namespace Entry

def heading : Entry → Heading
  | .bare heading => heading
  | .classLike entry => entry.heading
  | .function entry => entry.heading
  | .constant entry => entry.heading

def name (entry : Entry) : String :=
  entry.heading.name

end Entry

/-- The form of a class by its exact name. -/
def Value.readClassForm (value : Value) : Except Issue ClassForm :=
  match value.string?.bind ClassForm.ofName? with
  | some form => .ok form
  | none => .error .notClassForm

def Heading.ofFields (fields : Fields) : Checked Heading :=
  Heading.mk <$> fields.required "name" Value.readString
    <*> fields.required "short_name" Value.readString
    <*> fields.optional "namespace" (Value.readOptional Value.readString) none
    <*> fields.optional "file_name" (Value.readOptional Value.readString) none
    <*> fields.required "start_line" Value.readLine
    <*> fields.required "end_line" Value.readLine
    <*> fields.optional "doc_comment" (Value.readOptional Value.readString) none

def ClassEntry.ofFields (fields : Fields) : Checked ClassEntry :=
  ClassEntry.mk <$> Heading.ofFields fields
    <*> fields.required "kind" Value.readClassForm
    <*> fields.optional "is_anonymous" Value.readBool false
    <*> fields.strings "modifiers"
    <*> fields.optional "parent_class_name" (Value.readOptional Value.readString) none
    <*> fields.strings "interface_names"
    <*> fields.strings "method_names"
    <*> fields.strings "constant_names"

def FunctionEntry.ofFields (fields : Fields) : Checked FunctionEntry :=
  FunctionEntry.mk <$> Heading.ofFields fields
    <*> fields.strings "parameter_names"
    <*> fields.optional "return_type" (Value.readOptional Value.readString) none
    <*> fields.optional "returns_reference" Value.readBool false

def ConstantEntry.ofFields (fields : Fields) : Checked ConstantEntry :=
  ConstantEntry.mk <$> Heading.ofFields fields
    <*> fields.required "value_source" Value.readString
    <*> fields.optional "is_define" Value.readBool false

/-- The shapes an entry can have. -/
inductive EntryShape where
  | bare
  | classLike
  | function
  | constant
deriving DecidableEq, Repr

namespace Entry

def ofFields (shape : EntryShape) (fields : Fields) : Checked Entry :=
  match shape with
  | .bare => (Heading.ofFields fields).map .bare
  | .classLike => (ClassEntry.ofFields fields).map .classLike
  | .function => (FunctionEntry.ofFields fields).map .function
  | .constant => (ConstantEntry.ofFields fields).map .constant

/-- An entry never changes: whatever the field and the value, setting it is
refused. -/
def assign (_entry : Entry) (field : String) (_value : Value) : Checked Entry :=
  .fail field .frozen

end Entry

end PhpOutline
