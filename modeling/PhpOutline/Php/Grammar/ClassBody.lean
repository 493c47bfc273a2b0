import PhpOutline.Php.Grammar.Callables

namespace PhpOutline.Php.Grammar

open PhpOutline.Syntax
open Rule

def baseClause : Rule :=
  node "base_clause" (keyword "extends" ++ separated "," reference)

def interfaceClause : Rule :=
  node "class_interface_clause" (keyword "implements" ++ separated "," reference)

def memberModifier : Rule :=
  visibilityModifier <|> abstractModifier <|> finalModifier <|> staticModifier <|>
    readonlyModifier <|> keywordLeaf "var_modifier" ["var"]

def constElement : Rule :=
  node "const_element" (anyName ++ symbol "=" ++ expression)

def constElements : Rule :=
  separated "," constElement ++ semicolon

/-- A name and an equals sign come next. -/
def startsConstElement : List Token → Bool
  | first :: second :: _ =>
      first.kind == .word && second.kind == .symbol && second.key == "="
  | _ => false

def classConstants : Rule :=
  node "const_declaration" (optional attributeList ++ many memberModifier ++ keyword "const" ++
    (ahead startsConstElement <|> field "type" type) ++ constElements)

def methodDeclaration : Rule :=
  node "method_declaration" (optional attributeList ++ many memberModifier ++ functionHeader ++
    (field "body" compoundStatement <|> semicolon))

def propertyElement : Rule :=
  node "property_element" (field "name" variableName ++ optional defaultValue)

def propertyDeclaration : Rule :=
  node "property_declaration" (optional attributeList ++ many1 memberModifier ++
    optional (field "type" type) ++ separated "," propertyElement ++
    (semicolon <|> propertyHooks))

/-- A member of a trait, by its name or with the trait in front. -/
def traitMember : Rule :=
  node "class_constant_access_expression" (anyReference ++ symbol "::" ++ anyName) <|> anyName

def traitPrecedence : Rule :=
  node "use_instead_of_clause" (traitMember ++ keyword "insteadof" ++ separated "," reference)

/-- A new visibility, a new name, or both. -/
def traitAlias : Rule :=
  node "use_as_clause" (traitMember ++ keyword "as" ++
    (visibilityModifier ++ optional anyName <|> anyName))

def traitAdaptations : Rule :=
  node "use_list" (braces (many ((traitPrecedence <|> traitAlias) ++ semicolon)))

def traitUse : Rule :=
  node "use_declaration" (keyword "use" ++ separated "," reference ++
    (traitAdaptations <|> semicolon))

def member : Rule :=
  methodDeclaration <|> propertyDeclaration <|> classConstants <|> traitUse

def declarationList : Rule :=
  node "declaration_list" (braces (many member))

def enumCase : Rule :=
  node "enum_case" (optional attributeList ++ keyword "case" ++ field "name" anyName ++
    optional (symbol "=" ++ field "value" expression) ++ semicolon)

def enumDeclarationList : Rule :=
  node "enum_declaration_list" (braces (many (enumCase <|> methodDeclaration <|>
    classConstants <|> traitUse)))

/-- What follows the word `class`: clauses and body. -/
def classTail : Rule :=
  optional baseClause ++ optional interfaceClause ++ field "body" declarationList

def anonymousClass : Rule :=
  node "anonymous_class" (optional attributeList ++ many readonlyModifier ++ keyword "class" ++
    optional arguments ++ classTail)

end PhpOutline.Php.Grammar
