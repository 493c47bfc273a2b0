import PhpOutline.Php.Grammar.Callables

namespace PhpOutline.Php.Grammar

open PhpOutline.Syntax
open Rule

/-- The key in a subscript within a text. -/
def simpleKey : Rule :=
  ofKind .integer "integer" <|> anyName <|> variableName <|>
    node "unary_op_expression" (symbol "-" ++ ofKind .integer "integer")

/-- A variable in a text, perhaps with one subscript or property. -/
def simpleInterpolation : Rule :=
  node "subscript_expression" (variableName ++ brackets simpleKey) <|>
  node "member_access_expression" (field "object" variableName ++ oneSymbol ["->", "?->"] ++
    field "name" anyName) <|>
  variableName

/-- A variable whose name is the value of an expression. -/
def bracedVariable : Rule :=
  node "dynamic_variable_name" (symbol "$" ++ braces expression)

def textPart : Rule :=
  ofKind .content "string_content" <|> ofKind .escape "escape_sequence" <|>
    simpleInterpolation <|> bracedVariable <|> braces expression

def interpretedString : Rule :=
  node "encapsed_string" (oneSymbol ["\"", "b\""] ++ many textPart ++ symbol "\"")

def shellCommand : Rule :=
  node "shell_command_expression" (symbol "`" ++ many textPart ++ symbol "`")

def heredocText : Rule :=
  node "heredoc" (symbol "<<<" ++ optional (symbol "\"") ++
    field "identifier" (ofKind .heredocStart "heredoc_start") ++ optional (symbol "\"") ++
    field "value" (node "heredoc_body" (many textPart)) ++
    field "end_tag" (ofKind .heredocEnd "heredoc_end"))

def stringLiteral : Rule :=
  ofKind .string "string" <|> interpretedString <|> heredocText <|> ofKind .nowdoc "nowdoc"

def numberLiteral : Rule :=
  ofKind .integer "integer" <|> ofKind .float "float"

/-- A word that is a value, unless it goes on as a longer name. -/
def constantWord : Rule :=
  ahead (fun tokens => !startsPath tokens) ++
    (keywordLeaf "boolean" ["true", "false"] <|> keywordLeaf "null" ["null"])

/-- An element of an array: a value, or a key and a value. -/
def arrayElement : Rule :=
  node "array_element_initializer" (unpacking <|> byReference <|>
    expression ++ optional (symbol "=>" ++ (byReference <|> expression)))

/-- Elements of which some are left out. -/
def sparseElements : Rule :=
  optional arrayElement ++ many (symbol "," ++ optional arrayElement)

mutual

/-- The targets of a list of variables stand in it without nodes around them,
and so do the lists among them. -/
def asTarget : Tree → Tree
  | .node label children =>
      if label.type == "array_creation_expression" || label.type == "list_literal" then
        .node { label with type := "list_literal" } (asTargets children)
      else .node label children

def asTargets : List Tree → List Tree
  | [] => []
  | .node label children :: rest =>
      (if label.type == "array_element_initializer" then asTargets children
        else [asTarget (.node label children)]) ++ asTargets rest

end

/-- A list of variables to assign to. -/
def listLiteral : Rule :=
  (node "list_literal" (keyword "list" ++ parens sparseElements)).mapTrees (·.map asTarget)

def wordArray : Rule :=
  node "array_creation_expression" (keyword "array" ++ parens (optional (listOf arrayElement)))

/-- An element is left out among the trees of a bracketed list: a comma follows
another one or the opening bracket. -/
def hasGap : List Tree → Bool
  | first :: second :: rest =>
      (second.type == "," && (first.type == "," || first.type == "[")) || hasGap (second :: rest)
  | _ => false

/-- An array in brackets.  Where elements are left out, it is a list to assign
to, or part of one. -/
def bracketArray : Rule :=
  ⟨fun readers tokens =>
    match (brackets sparseElements).reader readers tokens with
    | none => none
    | some (trees, rest) =>
        if hasGap trees then
          if startsWithOneOf ["=", ",", "]", ")", "=>"] rest then
            some ((wrap "list_literal" trees).map asTarget, rest)
          else none
        else some (wrap "array_creation_expression" trees, rest)⟩

end PhpOutline.Php.Grammar
