import PhpOutline.Syntax.Tree

namespace PhpOutline.Php

/-! Tokens of PHP code, and what stands between them.

A token knows the bytes it covers.  Comments and the text outside of code are no
tokens: they may stand anywhere and are kept apart as finished trees.  Only one
trace of them matters to the grammar: the end of code closes a statement like a
semicolon, so a token knows whether it comes right after one.
-/

open PhpOutline.Syntax

inductive TokenKind where
  | word
  | variable
  | integer
  | float
  | string
  | nowdoc
  | symbol
  | content
  | escape
  | heredocStart
  | heredocEnd
  | endOfInput
deriving DecidableEq, Repr

/-- A token: its text, the key by which the grammar knows it (lowercase for
words), its span, the trees of its parts if it has any, and how many tokens
follow it. -/
structure Token where
  kind : TokenKind
  text : String
  key : String
  start : Nat
  stop : Nat
  parts : List Tree := []
  afterCode : Bool := false
  following : Nat := 0

/-- What a text is made of. -/
inductive Lexeme where
  | token (token : Token)
  | extra (tree : Tree)

/-- A node without a field. -/
def named (type : String) (start stop : Nat) (children : List Tree) : Tree :=
  .node { type, start, stop } children

/-- A mere token of the tree. -/
def unnamed (type : String) (start stop : Nat) : Tree :=
  .node { type, start, stop, named := false } []

namespace Token

/-- The number of tokens in a list, as its first token knows it. -/
def count : List Token → Nat
  | [] => 0
  | first :: _ => first.following + 1

/-- The token as a leaf that is no named node. -/
def leaf (token : Token) : Tree :=
  unnamed token.key token.start token.stop

/-- The token as a named node with its parts as children. -/
def node (token : Token) (type : String) : Tree :=
  named type token.start token.stop token.parts

end Token

/-- Text still to be read, with the offset of its first byte. -/
structure Cursor where
  offset : Nat
  chars : List Char

namespace Cursor

def skip (cursor : Cursor) (count : Nat) : Cursor :=
  ⟨(cursor.chars.take count).foldl (fun offset char => offset + char.utf8Size) cursor.offset,
    cursor.chars.drop count⟩

def startsWith (cursor : Cursor) (text : String) : Bool :=
  text.toList.isPrefixOf cursor.chars

/-- The next characters as a token. -/
def token (cursor : Cursor) (kind : TokenKind) (count : Nat) (parts : List Tree) : Token :=
  let text := String.ofList (cursor.chars.take count)
  { kind, text, parts
    key := String.ofList ((cursor.chars.take count).map Char.toLower)
    start := cursor.offset
    stop := (cursor.skip count).offset }

end Cursor

/-- The characters that separate tokens, among them four invisible ones. -/
def isSpace (char : Char) : Bool :=
  let code := char.toNat
  (9 ≤ code && code ≤ 13) || code == 32 || code == 0xA0 || code == 0x200B || code == 0x2060 ||
    code == 0xFEFF

/-- Names are of letters, underscores, and the characters from 0x80 to 0xFFFF
that do not separate tokens. -/
def isNameStart (char : Char) : Bool :=
  char.isAlpha || char == '_' ||
    (0x80 ≤ char.toNat && char.toNat ≤ 0xFFFF && !isSpace char)

def isNameChar (char : Char) : Bool :=
  isNameStart char || char.isDigit

/-- The length of the name at the start of a text, zero if there is none. -/
def nameLength (chars : List Char) : Nat :=
  match chars with
  | first :: _ => if isNameStart first then (chars.takeWhile isNameChar).length else 0
  | [] => 0

end PhpOutline.Php
