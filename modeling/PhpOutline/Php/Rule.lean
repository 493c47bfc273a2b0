import PhpOutline.Php.Token

namespace PhpOutline.Php

/-! Grammar rules, and how they read tokens.

A rule turns the first tokens of a list into trees, or does not apply.  Rules
are put together from smaller ones: `++` for one after the other, `<|>` for the
first that applies.  Rules that contain each other do so by nonterminals, which
get their meaning from the whole grammar; reading then follows the nonterminals
to a bounded depth, so every rule comes to an end.
-/

open PhpOutline.Syntax

/-- The rules that contain each other.  Expressions have a level: an expression
of a level has no operator outside of brackets that binds more loosely. -/
inductive Nonterminal where
  | statement
  | variable
  | expression (level : Nat)
deriving DecidableEq, Repr

/-- Reads the first tokens as trees and gives the tokens after them. -/
abbrev Reader := List Token → Option (List Tree × List Token)

/-- A rule reads by the readers of the nonterminals. -/
structure Rule where
  reader : (Nonterminal → Reader) → Reader

namespace Rule

/-- Applies always, and reads nothing. -/
def empty : Rule :=
  ⟨fun _ tokens => some ([], tokens)⟩

def fail : Rule :=
  ⟨fun _ _ => none⟩

instance : Inhabited Rule := ⟨fail⟩

def seq (first second : Rule) : Rule :=
  ⟨fun readers tokens =>
    match first.reader readers tokens with
    | none => none
    | some (left, rest) =>
        match second.reader readers rest with
        | none => none
        | some (right, rest) => some (left ++ right, rest)⟩

def orElse (first : Rule) (second : Unit → Rule) : Rule :=
  ⟨fun readers tokens =>
    match first.reader readers tokens with
    | none => (second ()).reader readers tokens
    | some result => some result⟩

instance : Append Rule := ⟨seq⟩

instance : OrElse Rule := ⟨orElse⟩

def optional (rule : Rule) : Rule :=
  rule <|> empty

/-- Repeats a reader as long as it reads at least one token. -/
def repeatReader (reader : Reader) (tokens : List Token) : List Tree × List Token :=
  match reader tokens with
  | none => ([], tokens)
  | some (trees, rest) =>
      if Token.count rest < Token.count tokens then
        let (others, rest) := repeatReader reader rest
        (trees ++ others, rest)
      else ([], tokens)
termination_by Token.count tokens

def many (rule : Rule) : Rule :=
  ⟨fun readers tokens => some (repeatReader (rule.reader readers) tokens)⟩

def many1 (rule : Rule) : Rule :=
  rule ++ many rule

/-- The meaning of a nonterminal. -/
def ref (nonterminal : Nonterminal) : Rule :=
  ⟨fun readers => readers nonterminal⟩

/-- Applies where the first tokens satisfy a test, and reads nothing. -/
def ahead (test : List Token → Bool) : Rule :=
  ⟨fun _ tokens => if test tokens then some ([], tokens) else none⟩

/-- One token that satisfies a test, as the tree that is made of it. -/
def token (test : Token → Bool) (tree : Token → Tree) : Rule :=
  ⟨fun _ tokens =>
    match tokens with
    | [] => none
    | first :: rest => if test first then some ([tree first], rest) else none⟩

def symbol (text : String) : Rule :=
  token (fun token => token.kind == .symbol && token.key == text) Token.leaf

/-- One of some symbols. -/
def oneSymbol (texts : List String) : Rule :=
  token (fun token => token.kind == .symbol && texts.contains token.key) Token.leaf

/-- A word of the language, in any case. -/
def keyword (word : String) : Rule :=
  token (fun token => token.kind == .word && token.key == word) Token.leaf

/-- One of some words of the language. -/
def oneKeyword (words : List String) : Rule :=
  token (fun token => token.kind == .word && words.contains token.key) Token.leaf

/-- A word of the language that stands as a node of its own. -/
def keywordNode (type : String) (words : List String) : Rule :=
  token (fun token => token.kind == .word && words.contains token.key) fun token =>
    named type token.start token.stop [token.leaf]

/-- A word of the language as a node without parts. -/
def keywordLeaf (type : String) (words : List String) : Rule :=
  token (fun token => token.kind == .word && words.contains token.key) fun token =>
    token.node type

/-- A token of a kind, with its parts. -/
def ofKind (kind : TokenKind) (type : String) : Rule :=
  token (fun token => token.kind == kind) fun token => token.node type

/-- Changes the trees that a rule makes. -/
def mapTrees (change : List Tree → List Tree) (rule : Rule) : Rule :=
  ⟨fun readers tokens =>
    (rule.reader readers tokens).map fun (trees, rest) => (change trees, rest)⟩

/-- A node over some trees, from the first to the last; no node over none. -/
def wrap (type : String) (trees : List Tree) : List Tree :=
  match trees.head?, trees.getLast? with
  | some first, some last => [named type first.label.start last.label.stop trees]
  | _, _ => []

def node (type : String) (rule : Rule) : Rule :=
  rule.mapTrees (wrap type)

def withField (field : String) : Tree → Tree
  | .node label children => .node { label with field := some field } children

def withoutField : Tree → Tree
  | .node label children => .node { label with field := none } children

/-- Puts the trees of a rule into a field. -/
def field (name : String) (rule : Rule) : Rule :=
  rule.mapTrees (·.map (withField name))

/-- Extends what a rule reads as long as one of its extensions applies.  An
extension gets the trees so far and makes trees that contain them. -/
def extendReader (extension : List Tree → Reader) (trees : List Tree) (tokens : List Token) :
    List Tree × List Token :=
  match extension trees tokens with
  | none => (trees, tokens)
  | some (trees', rest) =>
      if Token.count rest < Token.count tokens then extendReader extension trees' rest
      else (trees, tokens)
termination_by Token.count tokens

def extend (rule : Rule) (extension : List Tree → Rule) : Rule :=
  ⟨fun readers tokens =>
    (rule.reader readers tokens).map fun (trees, rest) =>
      extendReader (fun trees => (extension trees).reader readers) trees rest⟩

/-- Trees that were read before, at the start of a rule. -/
def given (trees : List Tree) : Rule :=
  ⟨fun _ tokens => some (trees, tokens)⟩

/-- One or more with separators between them. -/
def separated (separator : String) (rule : Rule) : Rule :=
  rule ++ many (symbol separator ++ rule)

/-- One or more with commas between them, and perhaps one after the last. -/
def listOf (rule : Rule) : Rule :=
  separated "," rule ++ optional (symbol ",")

def parens (rule : Rule) : Rule :=
  symbol "(" ++ rule ++ symbol ")"

def brackets (rule : Rule) : Rule :=
  symbol "[" ++ rule ++ symbol "]"

def braces (rule : Rule) : Rule :=
  symbol "\x7b" ++ rule ++ symbol "\x7d"

/-- The end of a statement: a semicolon, or the end of the code. -/
def semicolon : Rule :=
  symbol ";" <|> ahead fun tokens => tokens.head?.any Token.afterCode

end Rule

/-- Whether a list starts with a symbol. -/
def startsWithSymbol (text : String) : List Token → Bool
  | [] => false
  | token :: _ => token.kind == .symbol && token.key == text

def startsWithOneOf (texts : List String) : List Token → Bool
  | [] => false
  | token :: _ => token.kind == .symbol && texts.contains token.key

def startsWithKeyword (words : List String) : List Token → Bool
  | [] => false
  | token :: _ => token.kind == .word && words.contains token.key

def startsWithKind (kind : TokenKind) : List Token → Bool
  | [] => false
  | token :: _ => token.kind == kind

end PhpOutline.Php
