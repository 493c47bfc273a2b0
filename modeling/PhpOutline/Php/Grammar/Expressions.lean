import PhpOutline.Php.Grammar.ClassBody
import PhpOutline.Php.Grammar.Literals

namespace PhpOutline.Php.Grammar

open PhpOutline.Syntax
open Rule

def parenthesized : Rule :=
  node "parenthesized_expression" (parens expression)

/-- A variable, or a name of one that is itself the value of a variable. -/
def anyVariable : Rule :=
  variableName <|> bracedVariable <|>
    node "dynamic_variable_name" (symbol "$" ++ ref .variable)

/-- The name of a member that is written out, or computed in braces. -/
def namedMember : Rule :=
  field "name" anyName <|> braces (field "name" expression)

/-- The name of a member after an arrow. -/
def memberName : Rule :=
  namedMember <|> field "name" (ref .variable)

def endsWithArguments (trees : List Tree) : Bool :=
  trees.getLast?.any (·.label.field == some "arguments")

/-- Trees with arguments at the end are a call, others a mere access. -/
def callOr (access call : String) (rule : Rule) : Rule :=
  rule.mapTrees fun trees => wrap (if endsWithArguments trees then call else access) trees

/-- Arguments wherever a bracket opens some. -/
def argumentsIfAny (arguments : Rule) : Rule :=
  arguments <|> ahead fun tokens => !startsWithSymbol "(" tokens

def optionalArguments : Rule :=
  argumentsIfAny (field "arguments" arguments)

/-- Access to a member of an object, with a call if arguments follow. -/
def memberAccess (arrow access call : String) (object : List Tree) : Rule :=
  callOr access call
    (field "object" (given object) ++ symbol arrow ++ memberName ++ optionalArguments)

/-- A static property, or a call of the function that a variable names. -/
def scopedVariable (scope : List Tree) : Rule :=
  callOr "scoped_property_access_expression" "scoped_call_expression"
    (field "scope" (given scope) ++ symbol "::" ++ field "name" (ref .variable) ++
      optionalArguments)

/-- A constant of a class, or a call of one of its functions.  Only the call has
its parts in fields. -/
def scopedName (scope : List Tree) : Rule :=
  let parts := field "scope" (given scope) ++ symbol "::" ++ namedMember ++ optionalArguments
  parts.mapTrees fun trees =>
    if endsWithArguments trees then wrap "scoped_call_expression" trees
    else wrap "class_constant_access_expression" (trees.map withoutField)

def subscript (base : List Tree) : Rule :=
  node "subscript_expression" (given base ++ brackets (optional expression))

def functionCall (callee : List Tree) : Rule :=
  node "function_call_expression" (field "function" (given callee) ++
    field "arguments" arguments)

/-- What can follow a value that has parts: members, elements, and a call. -/
def suffix (base : List Tree) : Rule :=
  functionCall base <|> subscript base <|> scopedVariable base <|> scopedName base <|>
    memberAccess "->" "member_access_expression" "member_call_expression" base <|>
    memberAccess "?->" "nullsafe_member_access_expression" "nullsafe_member_call_expression"
      base

/-- The same without calls, for the class of a new object. -/
def suffixWithoutCall (base : List Tree) : Rule :=
  subscript base <|>
  node "scoped_property_access_expression" (field "scope" (given base) ++ symbol "::" ++
    field "name" (ref .variable)) <|>
  node "member_access_expression" (field "object" (given base) ++ symbol "->" ++ memberName) <|>
  node "nullsafe_member_access_expression" (field "object" (given base) ++ symbol "?->" ++
    memberName)

/-- One of the words for a class, in front of a double colon. -/
def relativeScope : Rule :=
  ahead (fun tokens => startsWithSymbol "::" tokens.tail) ++
    keywordNode "relative_scope" ["self", "parent", "static"]

/-- The class of a new object, or of a test. -/
def classReference : Rule :=
  extend (relativeScope <|> ref .variable) suffixWithoutCall <|>
    ahead (startsWithKeyword ["static"]) ++ anyName <|>
    (reference ++ ahead fun tokens => !startsWithSymbol "::" tokens) <|>
    extend reference suffixWithoutCall <|> parenthesized

def objectCreation : Rule :=
  node "object_creation_expression" (keyword "new" ++
    (anonymousClass <|> classReference ++ argumentsIfAny arguments))

/-- The values that can have a suffix. -/
def base : Rule :=
  ref .variable <|> constantWord <|> relativeScope <|> reference <|> parenthesized <|>
    bracketArray <|> wordArray <|> listLiteral <|> stringLiteral <|> objectCreation

/-- What can be assigned to. -/
def isTarget (trees : List Tree) : Bool :=
  trees.any fun tree =>
    ["variable_name", "dynamic_variable_name", "member_access_expression",
      "nullsafe_member_access_expression", "subscript_expression",
      "scoped_property_access_expression", "list_literal",
      "array_creation_expression"].contains tree.type

def compoundAssignments : List String :=
  ["**=", "*=", "/=", "%=", "+=", "-=", ".=", "<<=", ">>=", "&=", "^=", "|=", "??="]

/-- An assignment to what was read, or its increment or decrement. -/
def assignment (target : List Tree) : Rule :=
  if isTarget target then
    node "reference_assignment_expression" (left ++ symbol "=" ++ referenceModifier ++ right) <|>
    node "assignment_expression" (left ++ symbol "=" ++ right) <|>
    node "augmented_assignment_expression" (left ++
      field "operator" (oneSymbol compoundAssignments) ++ right) <|>
    node "update_expression" (field "argument" (given target) ++
      field "operator" (oneSymbol ["++", "--"]))
  else fail
where
  left : Rule := field "left" (given (target.map asTarget))
  right : Rule := field "right" (ref (.expression assignmentLevel))

def chain : Rule :=
  extend (extend base suffix) assignment

def castTypes : List String :=
  ["array", "binary", "bool", "boolean", "double", "float", "int", "integer", "object", "real",
    "string", "unset", "void"]

/-- A type in brackets comes next. -/
def startsCast : List Token → Bool
  | first :: second :: third :: _ =>
      startsWithSymbol "(" [first] && startsWithKeyword castTypes [second] &&
        startsWithSymbol ")" [third]
  | _ => false

def cast : Rule :=
  ahead startsCast ++ node "cast_expression" (symbol "(" ++
    field "type" (ofKind .word "cast_type") ++ symbol ")" ++
    field "value" (ref (.expression unaryLevel)))

def unary : Rule :=
  node "unary_op_expression" (field "operator" (oneSymbol ["!", "-", "+", "~"]) ++
    field "argument" (ref (.expression unaryLevel))) <|>
  node "error_suppression_expression" (symbol "@" ++ ref (.expression tightest)) <|>
  node "update_expression" (field "operator" (oneSymbol ["++", "--"]) ++
    field "argument" (ref (.expression tightest)))

/-- A word in front of an expression that extends as far as it can. -/
def wordExpression (word type : String) : Rule :=
  node type (keyword word ++ expression)

def cloneExpression : Rule :=
  node "clone_expression" (keyword "clone" ++ ref (.expression tightest))

def matchArm : Rule :=
  node "match_default_expression" (keyword "default" ++ optional (symbol ",") ++ symbol "=>" ++
    field "return_expression" expression) <|>
  node "match_conditional_expression" (
    field "conditional_expressions" (node "match_condition_list" (listOf expression)) ++
    symbol "=>" ++ field "return_expression" expression)

def matchExpression : Rule :=
  node "match_expression" (keyword "match" ++ field "condition" parenthesized ++
    field "body" (node "match_block" (braces (optional (listOf matchArm)))))

/-- Two words that are one token. -/
def yieldFrom : Rule :=
  (keyword "yield" ++ keyword "from").mapTrees fun trees =>
    (wrap "yield from" trees).map fun tree =>
      unnamed "yield from" tree.label.start tree.label.stop

def yieldExpression : Rule :=
  node "yield_expression" (yieldFrom ++ expression <|> keyword "yield" ++ optional arrayElement)

/-- Where attributes or the word for static functions may come first. -/
def closure : Rule :=
  anonymousFunction <|> arrowFunction

/-- An expression without operators between operands. -/
def operand : Rule :=
  numberLiteral <|> cast <|> unary <|> shellCommand <|> closure <|> matchExpression <|>
    (ahead (fun tokens => !startsCast tokens) ++ chain) <|> cloneExpression <|>
    wordExpression "print" "print_intrinsic" <|>
    wordExpression "throw" "throw_expression" <|>
    wordExpression "include" "include_expression" <|>
    wordExpression "include_once" "include_once_expression" <|>
    wordExpression "require" "require_expression" <|>
    wordExpression "require_once" "require_once_expression" <|> yieldExpression

/-- An operator between operands: its level, and the level of what follows it,
which is the same where operators of the level group to the right. -/
structure Operator where
  key : String
  level : Nat
  rightLevel : Nat

def leftGrouping (level : Nat) (keys : List String) : List Operator :=
  keys.map fun key => ⟨key, level, level + 1⟩

def rightGrouping (level : Nat) (keys : List String) : List Operator :=
  keys.map fun key => ⟨key, level, level⟩

def operators : List Operator :=
  leftGrouping 1 ["or"] ++ leftGrouping 2 ["xor"] ++ leftGrouping 3 ["and"] ++
    rightGrouping 6 ["??"] ++ leftGrouping 7 ["||"] ++ leftGrouping 8 ["&&"] ++
    leftGrouping 9 ["|"] ++ leftGrouping 10 ["^"] ++ leftGrouping 11 ["&"] ++
    leftGrouping 12 ["==", "!=", "<>", "===", "!==", "<=>"] ++
    leftGrouping 13 ["<", "<=", ">", ">="] ++ leftGrouping 14 ["|>"] ++
    leftGrouping 15 ["."] ++ leftGrouping 16 ["<<", ">>"] ++ leftGrouping 17 ["+", "-"] ++
    leftGrouping 18 ["*", "/", "%"] ++ rightGrouping 19 ["**"]

/-- The operator that comes next, if it binds at least as tightly as a level. -/
def operatorAhead? (level : Nat) : List Token → Option Operator
  | [] => none
  | token :: _ =>
      if token.kind == .symbol || token.kind == .word then
        operators.find? fun operator => operator.key == token.key && level ≤ operator.level
      else none

/-- An operator and its right operand after the left one. -/
def binary (level : Nat) (left : List Tree) : Rule :=
  ⟨fun readers tokens =>
    match operatorAhead? level tokens with
    | none => none
    | some operator =>
        (node "binary_expression" (field "left" (given left) ++
          field "operator" (token (fun _ => true) Token.leaf) ++
          field "right" (ref (.expression operator.rightLevel)))).reader readers tokens⟩

def instanceTest (level : Nat) (left : List Tree) : Rule :=
  if level ≤ instanceofLevel then
    node "binary_expression" (field "left" (given left) ++
      field "operator" (keyword "instanceof") ++ field "right" classReference)
  else fail

def conditional (level : Nat) (condition : List Tree) : Rule :=
  if level ≤ ternaryLevel then
    node "conditional_expression" (field "condition" (given condition) ++ symbol "?" ++
      optional (field "body" expression) ++ symbol ":" ++
      field "alternative" (ref (.expression (ternaryLevel + 1))))
  else fail

/-- An expression of a level. -/
def expressionOf (level : Nat) : Rule :=
  extend operand fun left =>
    binary level left <|> instanceTest level left <|> conditional level left

end PhpOutline.Php.Grammar
