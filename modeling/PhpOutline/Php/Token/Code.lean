import PhpOutline.Php.Token

namespace PhpOutline.Php

open PhpOutline.Syntax

/-- The length of a comment to the end of its line, or of the code.  A question
mark takes the character after it along, a line end included, but neither the
sign that ends code nor the end of the text. -/
def lineCommentLength : List Char → Nat
  | [] => 0
  | ['?'] => 0
  | '?' :: '>' :: _ => 0
  | '?' :: '\r' :: '\n' :: _ => 3
  | '?' :: '\r' :: _ => 0
  | '?' :: '\n' :: _ => 2
  | '?' :: _ :: rest => lineCommentLength rest + 2
  | char :: rest => if char == '\n' || char == '\r' then 0 else lineCommentLength rest + 1

/-- The length of the text up to and with the end of a block comment. -/
def blockCommentLength? : List Char → Option Nat
  | [] => none
  | '*' :: '/' :: _ => some 2
  | _ :: rest => (blockCommentLength? rest).map (· + 1)

/-- The length of the comment that starts here, if one does and has an end. -/
def commentLength? (chars : List Char) : Option Nat :=
  match chars with
  | '/' :: '/' :: rest => some (lineCommentLength rest + 2)
  | '/' :: '*' :: rest => (blockCommentLength? rest).map (· + 2)
  | '#' :: '[' :: _ => none
  | '#' :: '?' :: _ => some 1
  | '#' :: rest => some (lineCommentLength rest + 1)
  | _ => none

/-- The length of the tag that opens code, zero if there is none. -/
def openingTagLength (chars : List Char) : Nat :=
  match chars with
  | '<' :: '?' :: rest =>
      match rest with
      | '=' :: _ => 3
      | p :: h :: q :: _ => if [p, h, q].map Char.toLower = ['p', 'h', 'p'] then 5 else 2
      | _ => 2
  | _ => 0

/-- The length of the page text before the next opening tag. -/
def pageLength : List Char → Nat
  | [] => 0
  | char :: rest =>
      if openingTagLength (char :: rest) = 0 then pageLength rest + 1 else 0

/-- The text and the tag before the next code: trees for both, as far as they
are there.  White space before the text belongs to neither. -/
def page (cursor : Cursor) : List Tree × Cursor :=
  let cursor := cursor.skip (cursor.chars.takeWhile isSpace).length
  let text := pageLength cursor.chars
  let afterText := cursor.skip text
  let tag := openingTagLength afterText.chars
  let afterTag := afterText.skip tag
  ((if text = 0 then [] else [named "text" cursor.offset afterText.offset []]) ++
    (if tag = 0 then [] else [named "php_tag" afterText.offset afterTag.offset []]), afterTag)

/-- The end of code, and the page up to the next code. -/
def interpolation (cursor : Cursor) : Tree × Cursor :=
  let afterEnd := cursor.skip 2
  let (parts, next) := page afterEnd
  let stop := (parts.getLast?.map fun part => part.label.stop).getD afterEnd.offset
  (named "text_interpolation" cursor.offset stop
    (named "php_end_tag" cursor.offset afterEnd.offset [] :: parts), next)

/-- Longer symbols before shorter ones that they start with. -/
def symbols : List String :=
  ["<=>", "**=", "...", "<<=", ">>=", "===", "!==", "??=", "?->",
    "->", "=>", "::", "++", "--", "&&", "||", "??", "==", "!=", "<>", "<=", ">=", "<<", ">>",
    "+=", "-=", "*=", "/=", ".=", "%=", "&=", "|=", "^=", "**", "|>", "#[",
    ";", ",", "(", ")", "[", "]", "<", ">", "=", "+", "-", "*", "/", "%", ".", "&", "|", "^",
    "!", "~", "?", ":", "@", "$", "\\"]

/-- The length of a number's digits, also with underscores between them. -/
def digitsLength (chars : List Char) : Nat :=
  (chars.takeWhile fun char => char.isDigit || char == '_').length

/-- The length of an exponent with at least one digit. -/
def exponentLength (chars : List Char) : Nat :=
  match chars with
  | mark :: rest =>
      if mark == 'e' || mark == 'E' then
        match rest with
        | sign :: digit :: _ =>
            if (sign == '+' || sign == '-') && digit.isDigit then
              digitsLength rest.tail + 2
            else if sign.isDigit then digitsLength rest + 1
            else 0
        | [digit] => if digit.isDigit then 2 else 0
        | [] => 0
      else 0
  | [] => 0

/-- The length of a fraction: a point and digits, where a second point right
after the first belongs to another token. -/
def fractionLength (chars : List Char) : Nat :=
  match chars with
  | '.' :: '.' :: _ => 0
  | '.' :: rest => digitsLength rest + 1
  | _ => 0

/-- Whether the text starts a number in another base. -/
def hasBaseMark (chars : List Char) : Bool :=
  match chars with
  | '0' :: mark :: _ => ['x', 'b', 'o'].contains mark.toLower
  | _ => false

/-- Kind and length of the number at the start of a text. -/
def number (chars : List Char) : TokenKind × Nat :=
  if hasBaseMark chars then (.integer, (chars.takeWhile isNameChar).length)
  else
    let whole := digitsLength chars
    let fraction := fractionLength (chars.drop whole)
    let exponent := exponentLength (chars.drop (whole + fraction))
    (if fraction + exponent = 0 then .integer else .float, whole + fraction + exponent)

/-- The name of a variable with the sign in front, as two parts. -/
def variableToken (cursor : Cursor) (name : Nat) : Token :=
  let afterSign := cursor.skip 1
  let stop := (afterSign.skip name).offset
  cursor.token .variable (name + 1)
    [unnamed "$" cursor.offset afterSign.offset, named "name" afterSign.offset stop []]

/-- The length of a literal in single quotes after its opening quote, with the
closing quote. -/
def singleQuotedLength? : List Char → Option Nat
  | [] => none
  | '\\' :: _ :: rest => (singleQuotedLength? rest).map (· + 2)
  | char :: rest =>
      if char == '\'' then some 1 else (singleQuotedLength? rest).map (· + 1)

/-- Contents and escapes of a literal in single quotes; `pending` tells where
the contents that are being read started. -/
def singleQuotedParts (offset : Nat) (pending : Option Nat) : List Char → List Tree
  | [] => (pending.map fun start => named "string_content" start offset []).toList
  | '\\' :: char :: rest =>
      if char == '\\' || char == '\'' then
        (pending.map fun start => named "string_content" start offset []).toList ++
          named "escape_sequence" offset (offset + 2) [] ::
            singleQuotedParts (offset + 2) none rest
      else
        singleQuotedParts (offset + 1 + char.utf8Size) (some (pending.getD offset)) rest
  | char :: rest =>
      singleQuotedParts (offset + char.utf8Size) (some (pending.getD offset)) rest

/-- A literal in single quotes, whose opening has `opening` characters; with a
letter in front of it the opening quote is no part of its own. -/
def singleQuoted? (cursor : Cursor) (opening : Nat) : Option Token := do
  let body := cursor.skip opening
  let length ← singleQuotedLength? body.chars
  let close := body.skip (length - 1)
  let stop := close.offset + 1
  return cursor.token .string (opening + length) <|
    (if opening = 1 then [unnamed "'" cursor.offset body.offset] else []) ++
      singleQuotedParts body.offset none (body.chars.take (length - 1)) ++
      [unnamed "'" close.offset stop]

/-- The opening of a text with a label of its own: the label, its quote if it
has one, and the lengths up to the label and to the end of the line. -/
structure LabelOpening where
  label : List Char
  quote : Option Char
  beforeLabel : Nat
  length : Nat

/-- The length of a line end, zero if there is none. -/
def lineEndLength (chars : List Char) : Nat :=
  match chars with
  | '\r' :: '\n' :: _ => 2
  | '\n' :: _ => 1
  | '\r' :: _ => 1
  | _ => 0

def labelOpening? (chars : List Char) : Option LabelOpening := do
  guard ("<<<".toList.isPrefixOf chars)
  let blanks := ((chars.drop 3).takeWhile fun char => char == ' ' || char == '\t').length
  let rest := chars.drop (3 + blanks)
  let quote := rest.head?.filter fun char => char == '\'' || char == '"'
  let quoteLength := quote.toList.length
  let label := (rest.drop quoteLength).take (nameLength (rest.drop quoteLength))
  guard !label.isEmpty
  let afterLabel := rest.drop (quoteLength + label.length)
  guard (quote.isNone || afterLabel.head? == quote)
  let lineEnd := lineEndLength (afterLabel.drop quoteLength)
  guard (lineEnd ≠ 0)
  return ⟨label, quote, 3 + blanks + quoteLength,
    3 + blanks + quoteLength + label.length + quoteLength + lineEnd⟩

/-- The blanks before a closing label, if a line starts with one here. -/
def closingLabel? (label chars : List Char) : Option Nat :=
  let blanks := (chars.takeWhile fun char => char == ' ' || char == '\t').length
  let rest := chars.drop blanks
  if label.isPrefixOf rest && !((rest.drop label.length).head?.any isNameChar) then some blanks
  else none

/-- The length of the text before the line with the closing label. -/
def labelledLength? (label : List Char) (lineStart : Bool) : List Char → Option Nat
  | [] => none
  | char :: rest =>
      if lineStart && (closingLabel? label (char :: rest)).isSome then some 0
      else (labelledLength? label (char == '\n' || char == '\r') rest).map (· + 1)

/-- A text with a label in single quotes, in which nothing is interpreted. -/
def nowdoc? (cursor : Cursor) (opening : LabelOpening) : Option Token := do
  let body := cursor.skip opening.length
  let length ← labelledLength? opening.label true body.chars
  let close := body.skip length
  let blanks ← closingLabel? opening.label close.chars
  let label := cursor.skip opening.beforeLabel
  let afterLabel := label.skip opening.label.length
  let last := close.skip blanks
  let stop := (last.skip opening.label.length).offset
  return cursor.token .nowdoc (opening.length + length + blanks + opening.label.length) <|
    [unnamed "<<<" cursor.offset (cursor.skip 3).offset,
      unnamed "'" (label.offset - 1) label.offset,
      named "heredoc_start" label.offset afterLabel.offset [],
      unnamed "'" afterLabel.offset (afterLabel.offset + 1)] ++
    (if length = 0 then []
      else [named "nowdoc_body" body.offset close.offset
        [named "nowdoc_string" body.offset close.offset []]]) ++
    [named "heredoc_end" last.offset stop []]

end PhpOutline.Php
