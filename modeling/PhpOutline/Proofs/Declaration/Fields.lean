import PhpOutline.Declaration.Entry
import PhpOutline.Proofs.Text.Encoding

namespace PhpOutline

namespace Value

def ofStrings (texts : List String) : Value :=
  .list (texts.map ofString)

/-- An absent text is null. -/
def ofOptional : Option String → Value
  | none => .null
  | some given => ofString given

theorem string?_ofString (given : String) : (ofString given).string? = some given := by
  rw [ofString, string?, Text.string?_ofString]

theorem readString_ofString (given : String) : (ofString given).readString = .ok given := by
  rw [ofString, readString, Text.scalars?_ofString]
  simp only [String.ofList_toList]

theorem readOptional_ofOptional (given : Option String) :
    readOptional readString (ofOptional given) = .ok given := by
  cases given with
  | none => simp only [ofOptional, readOptional]
  | some given =>
      have read := readString_ofString given
      unfold ofString at read
      simp only [ofOptional, ofString, readOptional, read, Except.map]

theorem readLine_int {line : Nat} (positive : 1 ≤ line) :
    (Value.int (Int.ofNat line)).readLine = .ok line := by
  have positive : (1 : Int) ≤ Int.ofNat line := Int.ofNat_le.mpr positive
  rw [readLine, readInt]
  dsimp only
  rw [if_pos positive]
  rfl

theorem readClassForm_name (form : ClassForm) :
    (ofString form.name).readClassForm = .ok form := by
  have found : ClassForm.ofName? form.name = some form := by
    cases form <;> decide
  simp only [readClassForm, string?_ofString, Option.bind_some, found]

end Value

namespace Fields

theorem readStrings_ofStrings (field : String) (index : Nat) (texts : List String) :
    readStrings field index (texts.map Value.ofString) = .valid texts := by
  induction texts generalizing index with
  | nil => rfl
  | cons text rest inductionHypothesis =>
      rw [List.map_cons, readStrings, inductionHypothesis, Value.readString_ofString]
      rfl

variable {fields : Fields} {name : String} {value : Value}

theorem required_of_find? {read : Value → Except Issue α} {result : α}
    (found : fields.find? name = some value) (accepted : read value = .ok result) :
    fields.required name read = .valid result := by
  simp only [required, found, accepted]

theorem optional_of_find? {read : Value → Except Issue α} {default result : α}
    (found : fields.find? name = some value) (accepted : read value = .ok result) :
    fields.optional name read default = .valid result := by
  simp only [optional, found, accepted]

theorem strings_of_find? (texts : List String)
    (found : fields.find? name = some (.ofStrings texts)) :
    fields.strings name = .valid texts := by
  unfold Value.ofStrings at found
  simp only [strings, found, readStrings_ofStrings]

end Fields

/-- The fields of a heading as a caller would give them. -/
def Heading.fields (heading : Heading) : Fields :=
  [("name", .ofString heading.name), ("short_name", .ofString heading.shortName),
    ("namespace", .ofOptional heading.namespaceName),
    ("file_name", .ofOptional heading.fileName),
    ("start_line", .int (Int.ofNat heading.startLine)),
    ("end_line", .int (Int.ofNat heading.endLine)),
    ("doc_comment", .ofOptional heading.docComment)]

def ClassEntry.fields (entry : ClassEntry) : Fields :=
  [("kind", .ofString entry.form.name), ("is_anonymous", .bool entry.isAnonymous),
    ("modifiers", .ofStrings entry.modifiers),
    ("parent_class_name", .ofOptional entry.parentName),
    ("interface_names", .ofStrings entry.interfaceNames),
    ("method_names", .ofStrings entry.methodNames),
    ("constant_names", .ofStrings entry.constantNames)] ++ entry.heading.fields

def FunctionEntry.fields (entry : FunctionEntry) : Fields :=
  [("parameter_names", .ofStrings entry.parameterNames),
    ("return_type", .ofOptional entry.returnType),
    ("returns_reference", .bool entry.returnsReference)] ++ entry.heading.fields

def ConstantEntry.fields (entry : ConstantEntry) : Fields :=
  [("value_source", .ofString entry.valueSource), ("is_define", .bool entry.isDefine)] ++
    entry.heading.fields

namespace Entry

def shape : Entry → EntryShape
  | .bare _ => .bare
  | .classLike _ => .classLike
  | .function _ => .function
  | .constant _ => .constant

def fields : Entry → Fields
  | .bare heading => heading.fields
  | .classLike entry => entry.fields
  | .function entry => entry.fields
  | .constant entry => entry.fields

end Entry

/-- Fields in front of those of a heading do not hide them. -/
theorem Heading.ofFields_fields {heading : Heading} (start : 1 ≤ heading.startLine)
    (stop : 1 ≤ heading.endLine) (others : Fields) :
    Heading.ofFields (others ++ heading.fields) = .valid heading := by
  have found {name : String} {value : Value}
      (inHeading : heading.fields.reverse.lookup name = some value) :
      Fields.find? (others ++ heading.fields) name = some value := by
    rw [Fields.find?, List.reverse_append, List.lookup_append, inHeading]
    rfl
  rw [ofFields, Fields.required_of_find? (found rfl) (Value.readString_ofString heading.name),
    Fields.required_of_find? (found rfl) (Value.readString_ofString heading.shortName),
    Fields.optional_of_find? (found rfl) (Value.readOptional_ofOptional heading.namespaceName),
    Fields.optional_of_find? (found rfl) (Value.readOptional_ofOptional heading.fileName),
    Fields.required_of_find? (found rfl) (Value.readLine_int start),
    Fields.required_of_find? (found rfl) (Value.readLine_int stop),
    Fields.optional_of_find? (found rfl) (Value.readOptional_ofOptional heading.docComment)]
  rfl

theorem ClassEntry.ofFields_fields (entry : ClassEntry) (start : 1 ≤ entry.heading.startLine)
    (stop : 1 ≤ entry.heading.endLine) : ClassEntry.ofFields entry.fields = .valid entry := by
  have isAnonymous : entry.fields.optional "is_anonymous" Value.readBool false =
      .valid entry.isAnonymous := Fields.optional_of_find? rfl rfl
  have heading : Heading.ofFields entry.fields = .valid entry.heading :=
    Heading.ofFields_fields start stop _
  rw [ofFields, heading, isAnonymous,
    Fields.required_of_find? rfl (Value.readClassForm_name entry.form),
    Fields.optional_of_find? rfl (Value.readOptional_ofOptional entry.parentName),
    Fields.strings_of_find? entry.modifiers rfl,
    Fields.strings_of_find? entry.interfaceNames rfl,
    Fields.strings_of_find? entry.methodNames rfl,
    Fields.strings_of_find? entry.constantNames rfl]
  rfl

theorem FunctionEntry.ofFields_fields (entry : FunctionEntry)
    (start : 1 ≤ entry.heading.startLine) (stop : 1 ≤ entry.heading.endLine) :
    FunctionEntry.ofFields entry.fields = .valid entry := by
  have returnsReference : entry.fields.optional "returns_reference" Value.readBool false =
      .valid entry.returnsReference := Fields.optional_of_find? rfl rfl
  have heading : Heading.ofFields entry.fields = .valid entry.heading :=
    Heading.ofFields_fields start stop _
  rw [ofFields, heading, returnsReference,
    Fields.optional_of_find? rfl (Value.readOptional_ofOptional entry.returnType),
    Fields.strings_of_find? entry.parameterNames rfl]
  rfl

theorem ConstantEntry.ofFields_fields (entry : ConstantEntry)
    (start : 1 ≤ entry.heading.startLine) (stop : 1 ≤ entry.heading.endLine) :
    ConstantEntry.ofFields entry.fields = .valid entry := by
  have isDefine : entry.fields.optional "is_define" Value.readBool false =
      .valid entry.isDefine := Fields.optional_of_find? rfl rfl
  have heading : Heading.ofFields entry.fields = .valid entry.heading :=
    Heading.ofFields_fields start stop _
  rw [ofFields, heading, isDefine,
    Fields.required_of_find? rfl (Value.readString_ofString entry.valueSource)]
  rfl

theorem Entry.ofFields_fields (entry : Entry) (start : 1 ≤ entry.heading.startLine)
    (stop : 1 ≤ entry.heading.endLine) :
    Entry.ofFields entry.shape entry.fields = .valid entry := by
  cases entry with
  | bare heading => exact congrArg (Checked.map bare) (Heading.ofFields_fields start stop [])
  | classLike entry => exact congrArg (Checked.map classLike) (entry.ofFields_fields start stop)
  | function entry => exact congrArg (Checked.map function) (entry.ofFields_fields start stop)
  | constant entry => exact congrArg (Checked.map constant) (entry.ofFields_fields start stop)

end PhpOutline
