import PhpOutline.Php.Token.Template

namespace PhpOutline.Php

/-! The tokens of a whole text.

Code may stand in interpreted text, and interpreted text in code, to any depth;
a stack of modes tells what the text is at each place. -/

open PhpOutline.Syntax

/-- What is being read: code within so many open braces, or interpreted text,
which may be at the start of a line. -/
inductive Mode where
  | code (braces : Nat)
  | template (ending : Ending) (lineStart : Bool)
deriving DecidableEq, Repr

/-- The outcome of one step: what was read, the modes after it, and the rest. -/
structure Scan where
  lexemes : List Lexeme
  modes : List Mode
  next : Cursor

namespace Scan

def ofToken (token : Token) (modes : List Mode) (next : Cursor) : Scan :=
  ⟨[.token token], modes, next⟩

/-- One symbol of a given length. -/
def symbol (cursor : Cursor) (length : Nat) (modes : List Mode) : Scan :=
  ofToken (cursor.token .symbol length []) modes (cursor.skip length)

end Scan

/-- The opening of an interpreted text with a label. -/
def heredoc (cursor : Cursor) (opening : LabelOpening) (modes : List Mode) : Scan :=
  let label := cursor.skip opening.beforeLabel
  let afterLabel := label.skip opening.label.length
  let quoteBefore : Cursor := ⟨label.offset - 1, ['"']⟩
  let quotes (place : Cursor) : List Lexeme :=
    if opening.quote.isSome then [.token (place.token .symbol 1 [])] else []
  ⟨.token (cursor.token .symbol 3 []) :: quotes quoteBefore ++
      .token (label.token .heredocStart opening.label.length []) :: quotes afterLabel,
    .template (.label opening.label) true :: modes, cursor.skip opening.length⟩

/-- One step within code.  A brace that closes more than was opened ends the
code, if there is text around it. -/
def scanCode (bare : Bool) (braces : Nat) (outer : List Mode) (cursor : Cursor) :
    Option Scan :=
  let here := .code braces :: outer
  let chars := cursor.chars
  match chars with
  | [] => none
  | char :: rest =>
      if isSpace char then
        some ⟨[], here, cursor.skip (chars.takeWhile isSpace).length⟩
      else if let some length := commentLength? chars then
        let next := cursor.skip length
        some ⟨[.extra (named "comment" cursor.offset next.offset [])], here, next⟩
      else if cursor.startsWith "?>" then
        if bare then none
        else
          let (tree, next) := interpolation cursor
          some ⟨[.extra tree], here, next⟩
      else if let some opening := labelOpening? chars then
        if opening.quote == some '\'' then
          (nowdoc? cursor opening).map fun token =>
            .ofToken token here (cursor.skip token.text.length)
        else some (heredoc cursor opening here)
      else if char == '\'' then
        (singleQuoted? cursor 1).map fun token =>
          .ofToken token here (cursor.skip token.text.length)
      else if char == '"' || char == '`' then
        some (.symbol cursor 1 (.template (.quote char) false :: here))
      else if (char == 'b' || char == 'B') && rest.head? == some '\'' then
        (singleQuoted? cursor 2).map fun token =>
          .ofToken token here (cursor.skip token.text.length)
      else if (char == 'b' || char == 'B') && rest.head? == some '"' then
        some (.symbol cursor 2 (.template (.quote '"') false :: here))
      else if char == '$' && nameLength rest ≠ 0 then
        some (.ofToken (variableToken cursor (nameLength rest)) here
          (cursor.skip (nameLength rest + 1)))
      else if isNameStart char then
        some (.ofToken (cursor.token .word (nameLength chars) []) here
          (cursor.skip (nameLength chars)))
      else if char.isDigit || char == '.' && rest.head?.any Char.isDigit then
        let (kind, length) := number chars
        some (.ofToken (cursor.token kind length []) here (cursor.skip length))
      else if char == '\x7b' then some (.symbol cursor 1 (.code (braces + 1) :: outer))
      else if char == '\x7d' then
        match braces, outer with
        | 0, [] => some (.symbol cursor 1 here)
        | 0, _ => some (.symbol cursor 1 outer)
        | braces + 1, _ => some (.symbol cursor 1 (.code braces :: outer))
      else
        (symbols.find? cursor.startsWith).map fun text => .symbol cursor text.length here

/-- One step within interpreted text. -/
def scanTemplate (ending : Ending) (lineStart : Bool) (outer : List Mode) (cursor : Cursor) :
    Option Scan :=
  let here := .template ending false :: outer
  match closing? ending lineStart cursor with
  | some scan => some scan
  | none =>
      match cursor.chars with
      | [] => none
      | '$' :: '\x7b' :: _ =>
          some
            ⟨[.token (cursor.token .symbol 1 []), .token ((cursor.skip 1).token .symbol 1 [])],
              .code 0 :: here, cursor.skip 2⟩
      | '\x7b' :: '$' :: _ => some (.symbol cursor 1 (.code 0 :: here))
      | chars =>
          let name := nameLength chars.tail
          if chars.head? == some '$' && name ≠ 0 then
            let (access, next) := simpleAccess (cursor.skip (name + 1))
            some ⟨.token (variableToken cursor name) :: access.map .token, here, next⟩
          else if escapeLength chars ≠ 0 then
            some (.ofToken (cursor.token .escape (escapeLength chars) []) here
              (cursor.skip (escapeLength chars)))
          else
            let length := contentLength ending chars
            let endsLine := (chars[length - 1]?).any fun char => char == '\n' || char == '\r'
            some (.ofToken (cursor.token .content length [])
              (.template ending endsLine :: outer) (cursor.skip length))
where
  closing? (ending : Ending) (lineStart : Bool) (cursor : Cursor) : Option Scan :=
    match ending with
    | .quote quote =>
        if cursor.chars.head? == some quote then some (.symbol cursor 1 outer) else none
    | .label label =>
        if lineStart then
          (closingLabel? label cursor.chars).map fun blanks =>
            let close := cursor.skip blanks
            .ofToken (close.token .heredocEnd label.length []) outer (close.skip label.length)
        else none

/-- One step in the innermost of the modes. -/
def scanStep (bare : Bool) (modes : List Mode) (cursor : Cursor) : Option Scan :=
  match modes with
  | .code braces :: outer => scanCode bare braces outer cursor
  | .template ending lineStart :: outer => scanTemplate ending lineStart outer cursor
  | [] => none

/-- Reads to the end in at most so many steps.  `none` stands for text that is no
sequence of tokens. -/
def scan (bare : Bool) : Nat → List Mode → Cursor → Option (List Lexeme)
  | 0, _, _ => none
  | steps + 1, modes, cursor =>
      if cursor.chars.isEmpty then
        match modes with
        | [.code _] => some [.token (cursor.token .endOfInput 0 [])]
        | _ => none
      else
        match scanStep bare modes cursor with
        | none => none
        | some step => (scan bare steps step.modes step.next).map (step.lexemes ++ ·)

/-- Reads code to its end.  Every step takes a character at least, and one more
sees the end. -/
def scanAll (bare : Bool) (cursor : Cursor) : Option (List Lexeme) :=
  scan bare (cursor.chars.length + 1) [.code 0] cursor

/-- The tokens of a text with their place in it, and the extras. -/
structure TokenStream where
  tokens : List Token
  extras : List Tree

/-- Tells tokens and extras apart.  `afterCode` holds right after an end of
code. -/
def separate (afterCode : Bool) : List Lexeme → TokenStream
  | [] => ⟨[], []⟩
  | .token token :: rest =>
      let others := separate false rest
      ⟨{ token with afterCode, following := Token.count others.tokens } :: others.tokens,
        others.extras⟩
  | .extra tree :: rest =>
      let others := separate (afterCode || tree.type == "text_interpolation") rest
      ⟨others.tokens, tree :: others.extras⟩

/-- The token stream of a text; in a text that is not bare, code starts after
the first opening tag. -/
def TokenStream.ofChars? (bare : Bool) (chars : List Char) : Option TokenStream :=
  let start : Cursor := ⟨0, chars⟩
  if bare then (scanAll bare start).map (separate false)
  else
    let (trees, next) := page start
    (scanAll bare next).map fun lexemes =>
      separate false (trees.map .extra ++ lexemes)

end PhpOutline.Php
