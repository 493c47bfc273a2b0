import PhpOutline.Php.Grammar.Expressions

namespace PhpOutline.Php.Grammar

open PhpOutline.Syntax
open Rule

def condition : Rule :=
  field "condition" parenthesized

def body : Rule :=
  field "body" statement

/-- Statements after a colon, up to a word that ends them. -/
def colonBlock : Rule :=
  node "colon_block" (symbol ":" ++ many statement)

def colonBody : Rule :=
  field "body" colonBlock

def alternative (rule : Rule) : Rule :=
  field "alternative" rule

def ifStatement : Rule :=
  node "if_statement" (keyword "if" ++ condition ++ (colonForm <|> plainForm))
where
  colonForm : Rule :=
    colonBody ++
      many (alternative (node "else_if_clause" (keyword "elseif" ++ condition ++ colonBody))) ++
      optional (alternative (node "else_clause" (keyword "else" ++ colonBody))) ++
      keyword "endif" ++ semicolon
  plainForm : Rule :=
    body ++ many (alternative (node "else_if_clause" (keyword "elseif" ++ condition ++ body))) ++
      optional (alternative (node "else_clause" (keyword "else" ++ body)))

/-- The body of a loop, alone or between a colon and a closing word. -/
def loopBody (closing : String) : Rule :=
  colonBody ++ keyword closing ++ semicolon <|> body

def whileStatement : Rule :=
  node "while_statement" (keyword "while" ++ condition ++ loopBody "endwhile")

def doStatement : Rule :=
  node "do_statement" (keyword "do" ++ body ++ keyword "while" ++ condition ++ semicolon)

/-- Two or more expressions stand nested in each other, the last two innermost. -/
def nestSequence (trees : List Tree) : List Tree :=
  match trees with
  | first :: comma :: rest =>
      match nestSequence rest with
      | [] => trees
      | nested => wrap "sequence_expression" (first :: comma :: nested)
  | _ => trees

def expressions : Rule :=
  (separated "," expression).mapTrees nestSequence

def forStatement : Rule :=
  node "for_statement" (keyword "for" ++ symbol "(" ++
    optional (field "initialize" expressions) ++ symbol ";" ++
    optional (field "condition" expressions) ++ symbol ";" ++
    optional (field "update" expressions) ++ symbol ")" ++
    (symbol ":" ++ many body ++ keyword "endfor" ++ semicolon <|> body))

/-- A variable of a loop: an expression to assign to, or a reference. -/
def loopTarget : Rule :=
  byReference <|> expression.mapTrees (·.map asTarget)

/-- The variables of a loop, one for the values or two for keys and values. -/
def loopTargets : Rule :=
  byReference <|>
    extend (expression.mapTrees (·.map asTarget)) fun key =>
      node "pair" (given key ++ symbol "=>" ++ loopTarget)

def foreachStatement : Rule :=
  node "foreach_statement" (keyword "foreach" ++ symbol "(" ++ expression ++ keyword "as" ++
    loopTargets ++ symbol ")" ++ loopBody "endforeach")

def switchLabel : Rule :=
  symbol ":" <|> symbol ";"

def switchCase : Rule :=
  node "case_statement" (keyword "case" ++ field "value" expression ++ switchLabel ++
    many statement) <|>
  node "default_statement" (keyword "default" ++ switchLabel ++ many statement)

def switchStatement : Rule :=
  node "switch_statement" (keyword "switch" ++ condition ++ field "body" (node "switch_block" (
    braces (many switchCase) <|>
      symbol ":" ++ many switchCase ++ keyword "endswitch" ++ semicolon)))

def catchClause : Rule :=
  node "catch_clause" (keyword "catch" ++ symbol "(" ++
    field "type" (node "type_list" (separated "|" (node "named_type" reference))) ++
    optional (field "name" variableName) ++ symbol ")" ++ field "body" compoundStatement)

def finallyClause : Rule :=
  node "finally_clause" (keyword "finally" ++ field "body" compoundStatement)

def tryStatement : Rule :=
  node "try_statement" (keyword "try" ++ field "body" compoundStatement ++
    many1 (catchClause <|> finallyClause))

/-- A statement of one word and what may follow it. -/
def wordStatement (word type : String) (rule : Rule) : Rule :=
  node type (keyword word ++ rule ++ semicolon)

/-- Ends the program, if it stands alone or with an argument; otherwise the word
is a name. -/
def exitStatement : Rule :=
  wordStatement "exit" "exit_statement" (optional (parens (optional expression)))

def declareDirective : Rule :=
  node "declare_directive" (oneKeyword ["strict_types", "ticks", "encoding"] ++ symbol "=" ++
    (numberLiteral <|> stringLiteral <|> constantWord))

def declareStatement : Rule :=
  node "declare_statement" (keyword "declare" ++ parens (separated "," declareDirective) ++
    (symbol ":" ++ many statement ++ keyword "enddeclare" ++ semicolon <|> semicolon <|>
      statement))

def staticDeclaration : Rule :=
  node "static_variable_declaration" (field "name" variableName ++
    optional (symbol "=" ++ field "value" expression))

def unsetStatement : Rule :=
  wordStatement "unset" "unset_statement" (parens (listOf expression))

def labelStatement : Rule :=
  node "named_label_statement" (plainName ++ symbol ":")

def constDeclaration : Rule :=
  node "const_declaration" (optional attributeList ++ keyword "const" ++ constElements)

def functionDefinition : Rule :=
  node "function_definition" (optional attributeList ++ functionHeader ++
    field "body" compoundStatement)

def classModifier : Rule :=
  abstractModifier <|> finalModifier <|> readonlyModifier

def classDeclaration : Rule :=
  node "class_declaration" (optional attributeList ++ many classModifier ++ keyword "class" ++
    field "name" plainName ++ classTail)

def interfaceDeclaration : Rule :=
  node "interface_declaration" (optional attributeList ++ keyword "interface" ++
    field "name" plainName ++ optional baseClause ++ field "body" declarationList)

def traitDeclaration : Rule :=
  node "trait_declaration" (optional attributeList ++ keyword "trait" ++
    field "name" plainName ++ field "body" declarationList)

def enumDeclaration : Rule :=
  node "enum_declaration" (optional attributeList ++ keyword "enum" ++ field "name" plainName ++
    optional (symbol ":" ++ backingType) ++ optional interfaceClause ++
    field "body" enumDeclarationList)

/-- A namespace with a body, or one that holds for the statements after it. -/
def namespaceDefinition : Rule :=
  node "namespace_definition" (keyword "namespace" ++
    (optional (field "name" namespaceName) ++ field "body" compoundStatement <|>
      field "name" namespaceName ++ semicolon))

def importType : Rule :=
  optional (field "type" (oneKeyword ["function", "const"]))

/-- One imported name, perhaps with a name of its own. -/
def importClause : Rule :=
  node "namespace_use_clause" (
    (ahead (fun tokens => startsWithSymbol "\\" tokens || startsPath tokens) ++ qualifiedName <|>
      ahead (fun tokens => !startsWithKind .word tokens.tail ||
        startsWithKeyword ["as"] tokens.tail) ++ anyName <|>
      importType ++ (qualifiedName <|> anyName)) ++
    optional (keyword "as" ++ field "alias" anyName))

/-- The common prefix of a group of imports, up to the separator before it. -/
def groupPrefix : Rule :=
  ⟨fun readers tokens =>
    match path.reader readers tokens with
    | some (trees, rest) =>
        match (symbol "\\").reader readers rest with
        | some (sign, rest) => some (wrap "namespace_name" trees ++ sign, rest)
        | none => none
    | none => none⟩

def importGroup : Rule :=
  node "namespace_use_group" (braces (listOf importClause))

def importDeclaration : Rule :=
  node "namespace_use_declaration" (keyword "use" ++
    (importType ++ optional (symbol "\\") ++ groupPrefix ++ field "body" importGroup <|>
      separated "," importClause) ++
    semicolon)

def globalDeclaration : Rule :=
  wordStatement "global" "global_declaration" (separated "," (ref .variable))

def staticVariables : Rule :=
  wordStatement "static" "function_static_declaration" (separated "," staticDeclaration)

def emptyStatement : Rule :=
  node "empty_statement" (symbol ";")

def expressionStatement : Rule :=
  node "expression_statement" (expression ++ semicolon)

/-- A declaration that may have attributes. -/
def declaration : Rule :=
  functionDefinition <|> classDeclaration <|> interfaceDeclaration <|> traitDeclaration <|>
    enumDeclaration <|> constDeclaration

/-- The words that start a declaration, after attributes. -/
def startsDeclaration (tokens : List Token) : Bool :=
  startsWithKeyword ["function", "abstract", "final", "readonly", "class", "interface", "trait",
    "enum", "const"] (afterAttributes tokens)

/-- Statements other than declarations. -/
def plainStatement : Rule :=
  emptyStatement <|> compoundStatement <|> ifStatement <|> whileStatement <|> doStatement <|>
    forStatement <|> foreachStatement <|> switchStatement <|> tryStatement <|>
    declareStatement <|> namespaceDefinition <|> importDeclaration <|>
    wordStatement "echo" "echo_statement" expressions <|>
    wordStatement "return" "return_statement" (optional expression) <|>
    wordStatement "break" "break_statement" (optional expression) <|>
    wordStatement "continue" "continue_statement" (optional expression) <|>
    wordStatement "goto" "goto_statement" anyName <|>
    exitStatement <|> unsetStatement <|> globalDeclaration <|> staticVariables <|>
    labelStatement <|> expressionStatement

def anyStatement : Rule :=
  ahead startsDeclaration ++ declaration <|> plainStatement

end PhpOutline.Php.Grammar
