import PhpOutline.Php.Token.Code

namespace PhpOutline.Php

/-- How an interpreted text ends: by a quote, or by a label on a line. -/
inductive Ending where
  | quote (char : Char)
  | label (chars : List Char)
deriving DecidableEq, Repr

/-- The length of an escape sequence in an interpreted text, zero if there is
none. -/
def escapeLength (chars : List Char) : Nat :=
  match chars with
  | '\\' :: char :: rest =>
      if "nrtvef\\$\"`".toList.contains char then 2
      else if char == 'x' || char == 'X' then
        let digits := ((rest.take 2).takeWhile isHexDigit).length
        if digits = 0 then 0 else digits + 2
      else if char == 'u' then
        match rest with
        | '\x7b' :: code =>
            let digits := (code.takeWhile isHexDigit).length
            if digits ≠ 0 && (code.drop digits).head? == some '\x7d' then digits + 4 else 0
        | _ => 0
      else (((char :: rest).take 3).takeWhile fun digit => '0' ≤ digit && digit ≤ '7').length
        |> fun digits => if digits = 0 then 0 else digits + 1
  | _ => 0
where
  isHexDigit (char : Char) : Bool :=
    char.isDigit || ('a' ≤ char.toLower && char.toLower ≤ 'f')

/-- A text starts a variable, code, or an escape sequence here. -/
def startsInterpretation (chars : List Char) : Bool :=
  match chars with
  | '$' :: '\x7b' :: _ => true
  | '$' :: rest => nameLength rest ≠ 0
  | '\x7b' :: '$' :: _ => true
  | _ => escapeLength chars ≠ 0

/-- The length of plain contents.  A backslash keeps the character after it from
ending or starting anything. -/
def contentLength (ending : Ending) : List Char → Nat
  | [] => 0
  | [_] => 1
  | char :: next :: rest =>
      if char == '\\' then
        if escapeLength (next :: rest) ≠ 0 || startsAt (next :: rest) then 1
        else contentLength ending rest + 2
      else if startsAt (next :: rest) ||
          (char == '\n' || char == '\r') && closesAt (next :: rest) then 1
      else contentLength ending (next :: rest) + 1
where
  startsAt (chars : List Char) : Bool :=
    startsInterpretation chars ||
      match ending, chars with
      | .quote quote, char :: _ => char == quote
      | _, _ => false
  closesAt (chars : List Char) : Bool :=
    match ending with
    | .quote _ => false
    | .label label => (closingLabel? label chars).isSome

/-- The tokens of a subscript or a property right after a variable in a text,
with the cursor after them. -/
def simpleAccess (cursor : Cursor) : List Token × Cursor :=
  match cursor.chars with
  | '[' :: key =>
      match subscriptKey? (cursor.skip 1) key with
      | some (tokens, next) =>
          if next.startsWith "]" then
            (cursor.token .symbol 1 [] :: tokens ++ [next.token .symbol 1 []], next.skip 1)
          else ([], cursor)
      | none => ([], cursor)
  | '-' :: '>' :: name => property 2 name
  | '?' :: '-' :: '>' :: name => property 3 name
  | _ => ([], cursor)
where
  property (arrow : Nat) (name : List Char) : List Token × Cursor :=
    if nameLength name = 0 then ([], cursor)
    else
      let afterArrow := cursor.skip arrow
      ([cursor.token .symbol arrow [], afterArrow.token .word (nameLength name) []],
        afterArrow.skip (nameLength name))
  subscriptKey? (cursor : Cursor) (chars : List Char) : Option (List Token × Cursor) :=
    match chars with
    | '$' :: name =>
        if nameLength name = 0 then none
        else some ([variableToken cursor (nameLength name)], cursor.skip (nameLength name + 1))
    | '-' :: digit :: rest =>
        if digit.isDigit then
          let length := (number (digit :: rest)).2
          some ([cursor.token .symbol 1 [], (cursor.skip 1).token .integer length []],
            cursor.skip (length + 1))
        else none
    | char :: _ =>
        if char.isDigit then
          let length := (chars.takeWhile isNameChar).length
          some ([cursor.token .integer length []], cursor.skip length)
        else if isNameStart char then
          some ([cursor.token .word (nameLength chars) []], cursor.skip (nameLength chars))
        else none
    | [] => none

end PhpOutline.Php
