import PhpOutline.Php.Rule

namespace PhpOutline.Php.Grammar

open Rule
open PhpOutline.Syntax

/-- The words that are no names where an expression or a label may stand. -/
def reservedWords : List String :=
  ["abstract", "and", "array", "as", "break", "callable", "case", "catch", "class", "clone",
    "const", "continue", "declare", "default", "do", "echo", "else", "elseif", "enddeclare",
    "endfor", "endforeach", "endif", "endswitch", "endwhile", "extends", "final", "finally",
    "fn", "for", "foreach", "function", "global", "goto", "if", "implements", "include",
    "include_once", "instanceof", "insteadof", "interface", "list", "namespace", "new", "or",
    "print", "private", "protected", "public", "require", "require_once", "return", "static",
    "switch", "throw", "trait", "try", "unset", "use", "var", "while", "xor", "yield"]

/-- A name in a place where any word is one. -/
def anyName : Rule :=
  ofKind .word "name"

/-- A name in a place where some words mean something else. -/
def plainName : Rule :=
  token (fun token => token.kind == .word && !reservedWords.contains token.key) fun token =>
    token.node "name"

/-- A word and a separator come next. -/
def startsPath : List Token → Bool
  | first :: second :: _ =>
      first.kind == .word && second.kind == .symbol && second.key == "\\"
  | _ => false

/-- Names with separators between them. -/
def path : Rule :=
  separated "\\" anyName

def namespaceName : Rule :=
  node "namespace_name" path

/-- The last name of a path by itself, and what stands before as its prefix. -/
def splitPath (trees : List Tree) : List Tree :=
  match trees.reverse with
  | last :: sign :: before =>
      (wrap "namespace_name" before.reverse).map (withField "prefix") ++
        [withField "prefix" sign, last]
  | _ => trees

/-- A name with a prefix, which may be only a separator in front. -/
def qualifiedName : Rule :=
  node "qualified_name" <|
    field "prefix" (symbol "\\") ++ path.mapTrees splitPath <|>
      ahead startsPath ++ path.mapTrees splitPath

/-- A name relative to the namespace at its place. -/
def relativeName : Rule :=
  node "relative_name" <|
    field "prefix" (keyword "namespace") ++ field "prefix" (symbol "\\") ++
      path.mapTrees splitPath

/-- Any way to name a class, a function or a constant. -/
def reference : Rule :=
  relativeName <|> qualifiedName <|> plainName

/-- The same where any word may be a name. -/
def anyReference : Rule :=
  relativeName <|> qualifiedName <|> anyName

/-- A type that is a single name or word. -/
def simpleType : Rule :=
  ahead (fun tokens => !startsPath tokens) ++ wordType <|>
  node "named_type" (reference <|> keywordLeaf "name" ["static"])
where
  wordType : Rule :=
    keywordNode "primitive_type" ["array", "bool", "false", "float", "int", "mixed", "null",
      "string", "true"] <|>
    keywordLeaf "primitive_type" ["callable", "iterable", "void"] <|>
    keywordLeaf "bottom_type" ["never"]

/-- The type of the values of an enumeration's cases. -/
def backingType : Rule :=
  keywordLeaf "primitive_type" ["int", "string"] <|> simpleType

def optionalType : Rule :=
  node "optional_type" (symbol "?" ++ simpleType)

/-- An ampersand between two types, and not in front of a parameter. -/
def typeAmpersand : Rule :=
  ahead (fun tokens =>
    !(startsWithKind .variable tokens.tail || startsWithOneOf ["...", "&"] tokens.tail)) ++
  symbol "&"

/-- Types of which a value has all, at least two of them. -/
def intersectionType : Rule :=
  node "intersection_type" (simpleType ++ many1 (typeAmpersand ++ simpleType))

/-- A bracketed intersection, with its brackets. -/
def bracketedType : Rule :=
  parens intersectionType

/-- Types of which a value has one; an intersection among them has brackets. -/
def unionType : Rule :=
  node "union_type" (simpleType ++ many1 (symbol "|" ++ simpleType) ++
    ahead fun tokens => !startsWithSymbol "|" tokens)

def normalFormType : Rule :=
  node "disjunctive_normal_form_type" (separated "|" (bracketedType <|> simpleType))

def type : Rule :=
  optionalType <|> unionType <|> intersectionType <|>
    (simpleType ++ ahead fun tokens => !startsWithSymbol "|" tokens) <|>
    normalFormType

/-- The type of a result, after its colon. -/
def returnType : Rule :=
  symbol ":" ++ field "return_type" type

end PhpOutline.Php.Grammar
