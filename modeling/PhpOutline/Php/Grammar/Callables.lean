import PhpOutline.Php.Grammar.Names

namespace PhpOutline.Php.Grammar

open PhpOutline.Syntax
open Rule

/-- The levels of expressions, from the loosest operators to the tightest. -/
def lowest : Nat := 1
def assignmentLevel : Nat := 4
def ternaryLevel : Nat := 5
def unaryLevel : Nat := 20
def instanceofLevel : Nat := 21
def tightest : Nat := 22

def expression : Rule :=
  ref (.expression lowest)

def statement : Rule :=
  ref .statement

def compoundStatement : Rule :=
  node "compound_statement" (braces (many statement))

/-- A value that is passed on with dots. -/
def unpacking : Rule :=
  node "variadic_unpacking" (symbol "..." ++ expression)

def byReference : Rule :=
  node "by_ref" (symbol "&" ++ ref (.expression tightest))

def referenceModifier : Rule :=
  node "reference_modifier" (symbol "&")

/-- The name in front of an argument, with its colon. -/
def argumentLabel : Rule :=
  field "name" anyName ++ symbol ":"

def argument : Rule :=
  node "argument" (optional argumentLabel ++ optional referenceModifier ++
    (unpacking <|> expression))

/-- Dots alone among the brackets of a call that is not made yet. -/
def placeholder : Rule :=
  node "variadic_placeholder" (symbol "...") ++ ahead (startsWithSymbol ")")

def arguments : Rule :=
  node "arguments" (parens (placeholder <|> optional (listOf argument)))

def oneAttribute : Rule :=
  node "attribute" (anyReference ++ optional (field "parameters" arguments))

def attributeGroup : Rule :=
  node "attribute_group" (symbol "#[" ++ listOf oneAttribute ++ symbol "]")

def attributeList : Rule :=
  field "attributes" (node "attribute_list" (many1 attributeGroup))

/-- The tokens after the attributes at the start: what they belong to. -/
def afterAttributes (tokens : List Token) : List Token :=
  skip 0 tokens
where
  skip (depth : Nat) : List Token → List Token
    | [] => []
    | token :: rest =>
        if token.kind != .symbol then
          if depth = 0 then token :: rest else skip depth rest
        else if token.key == "#[" || token.key == "[" && depth ≠ 0 then skip (depth + 1) rest
        else if depth = 0 then token :: rest
        else if token.key == "]" then skip (depth - 1) rest
        else skip depth rest

/-- The word that tells from where a property can be set. -/
def setVisibility : Rule :=
  parens (keyword "set")

def visibilityModifier : Rule :=
  node "visibility_modifier" (oneKeyword ["public", "protected", "private"] ++
    optional setVisibility)

def readonlyModifier : Rule :=
  keywordNode "readonly_modifier" ["readonly"]

def finalModifier : Rule :=
  keywordNode "final_modifier" ["final"]

def abstractModifier : Rule :=
  keywordNode "abstract_modifier" ["abstract"]

def staticModifier : Rule :=
  keywordNode "static_modifier" ["static"]

/-- A modifier that makes a parameter a property. -/
def promotion : Rule :=
  field "visibility" visibilityModifier <|> field "readonly" readonlyModifier <|> finalModifier

def variableName : Rule :=
  ofKind .variable "variable_name"

def defaultValue : Rule :=
  symbol "=" ++ field "default_value" expression

/-- The result of a property's hook: an expression, a body, or none. -/
def hookBody : Rule :=
  symbol "=>" ++ field "body" expression ++ semicolon <|> field "body" compoundStatement <|>
    semicolon

def parameterType : Rule :=
  field "type" type

def parameterReference : Rule :=
  field "reference_modifier" referenceModifier

/-- Parameters without properties among them. -/
def plainParameter : Rule :=
  node "variadic_parameter" (optional attributeList ++ optional parameterType ++
    optional parameterReference ++ symbol "..." ++ field "name" variableName) <|>
  node "simple_parameter" (optional attributeList ++ optional parameterType ++
    optional parameterReference ++ field "name" variableName ++ optional defaultValue)

def hookParameters : Rule :=
  field "parameters" (node "formal_parameters" (parens (optional (listOf plainParameter))))

def propertyHook : Rule :=
  node "property_hook" (optional attributeList ++ optional (field "final" finalModifier) ++
    optional parameterReference ++ anyName ++ optional hookParameters ++ hookBody)

def propertyHooks : Rule :=
  node "property_hook_list" (braces (many propertyHook))

def promotedParameter : Rule :=
  node "property_promotion_parameter" (optional attributeList ++ many1 promotion ++
    optional parameterType ++
    field "name" (node "by_ref" (symbol "&" ++ variableName) <|> variableName) ++
    optional defaultValue ++ optional propertyHooks)

def parameters : Rule :=
  field "parameters" <| node "formal_parameters" <|
    parens (optional (listOf (promotedParameter <|> plainParameter)))

/-- A function with a name, up to its body. -/
def functionHeader : Rule :=
  keyword "function" ++ optional referenceModifier ++ field "name" anyName ++ parameters ++
    optional returnType

def capturedVariable : Rule :=
  node "by_ref" (symbol "&" ++ variableName) <|> variableName

def useClause : Rule :=
  node "anonymous_function_use_clause" (keyword "use" ++
    parens (optional (listOf capturedVariable)))

def closureStart : Rule :=
  optional attributeList ++ optional (field "static_modifier" staticModifier)

def anonymousFunction : Rule :=
  node "anonymous_function" (closureStart ++ keyword "function" ++ optional parameterReference ++
    parameters ++ optional useClause ++ optional returnType ++ field "body" compoundStatement)

def arrowFunction : Rule :=
  node "arrow_function" (closureStart ++ keyword "fn" ++ optional parameterReference ++
    parameters ++ optional returnType ++ symbol "=>" ++ field "body" expression)

end PhpOutline.Php.Grammar
