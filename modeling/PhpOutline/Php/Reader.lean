import PhpOutline.Php.Grammar.Statements
import PhpOutline.Php.Token.Stream
import PhpOutline.Text.Utf8

namespace PhpOutline.Php

open PhpOutline.Syntax
open PhpOutline.Text (Bytes)

/-- The rules of the nonterminals. -/
def grammar : Nonterminal → Rule
  | .statement => Grammar.anyStatement
  | .variable => Grammar.anyVariable
  | .expression level => Grammar.expressionOf level

/-- The readers of the nonterminals, to a depth. -/
def readers : Nat → Nonterminal → Reader
  | 0, _ => fun _ => none
  | depth + 1, nonterminal => (grammar nonterminal).reader (readers depth)

/-- The depth of nonterminals that some tokens can need: no nonterminal comes
more than a few levels below another one without a token between them. -/
def sufficientDepth (tokens : List Token) : Nat :=
  4 * (tokens.length + 1)

/-- The statements that the tokens consist of. -/
def statements? (tokens : List Token) : Option (List Tree) :=
  match (Rule.many (Rule.ref .statement)).reader (readers (sufficientDepth tokens)) tokens with
  | some (statements, [last]) => if last.kind == .endOfInput then some statements else none
  | _ => none

mutual

/-- Puts extras, in the order of the text, into the innermost nodes that have
tokens on both sides of them. -/
def weave (extras : List Tree) : Tree → Tree
  | .node label children => .node label (weaveAll extras children)

def weaveAll (extras : List Tree) : List Tree → List Tree
  | [] => extras
  | child :: rest =>
      let before := extras.takeWhile fun extra => extra.label.start < child.label.start
      let others := extras.dropWhile fun extra => extra.label.start < child.label.start
      let inside := others.takeWhile fun extra => extra.label.start < child.label.stop
      let after := others.dropWhile fun extra => extra.label.start < child.label.stop
      before ++ weave inside child :: weaveAll after rest

end

/-- The tree of a text, unless the text is no program. -/
def program? (bare : Bool) (stop : Nat) (chars : List Char) : Option Tree := do
  let stream ← TokenStream.ofChars? bare chars
  let statements ← statements? stream.tokens
  return named "program" 0 stop (weaveAll stream.extras statements)

/-- The tree of a text in bytes. -/
def read (bare : Bool) (content : Bytes) : Tree :=
  let stop := content.length
  match (Text.decode? content).bind (program? bare stop) with
  | some tree => tree
  | none => named "ERROR" 0 stop []

end PhpOutline.Php
