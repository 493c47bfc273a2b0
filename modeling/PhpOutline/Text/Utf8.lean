namespace PhpOutline.Text

/-! Source text as code points, and its UTF-8 bytes.

A source text may hold surrogate code points, which no UTF-8 sequence stands
for; `encode` refuses such a text and names the first run of them.  Bytes are
read back in two ways: `decode` accepts exactly the well-formed sequences and
tells what is wrong with any other, `decodeLossy` reads any bytes and puts one
replacement character in the place of every malformed part.
-/

abbrev Bytes := List UInt8

/-- A code point is a character or one of the 2048 surrogates. -/
inductive CodePoint where
  | scalar (char : Char)
  | surrogate (offset : Fin 2048)
deriving DecidableEq, Repr

namespace CodePoint

/-- The code point of a number, for every number below `0x110000`. -/
def ofNat? (value : Nat) : Option CodePoint :=
  if value.isValidChar then some (.scalar (Char.ofNat value))
  else if inRange : 0xD800 ≤ value ∧ value < 0xE000 then
    some (.surrogate ⟨value - 0xD800, by omega⟩)
  else none

def value : CodePoint → Nat
  | .scalar char => char.toNat
  | .surrogate offset => 0xD800 + offset.val

def isSurrogate : CodePoint → Bool
  | .scalar _ => false
  | .surrogate _ => true

def ofString (text : String) : List CodePoint :=
  text.toList.map .scalar

end CodePoint

/-- A longest run of surrogates in a text: the first one, and the positions of
the first and the last of the run, counted in code points. -/
structure SurrogateRun where
  value : Nat
  first : Nat
  last : Nat
deriving DecidableEq, Repr

def encodeChars (chars : List Char) : Bytes :=
  chars.flatMap String.utf8EncodeChar

/-- The characters of a text without surrogates. -/
def scalars? : List CodePoint → Option (List Char)
  | [] => some []
  | .scalar char :: rest => (scalars? rest).map (char :: ·)
  | .surrogate _ :: _ => none

def string? (text : List CodePoint) : Option String :=
  (scalars? text).map String.ofList

/-- The first run of surrogates at or after the position `position`. -/
def firstSurrogateRun (position : Nat) : List CodePoint → Option SurrogateRun
  | [] => none
  | .scalar _ :: rest => firstSurrogateRun (position + 1) rest
  | .surrogate offset :: rest =>
      some
        { value := 0xD800 + offset.val
          first := position
          last := position + (rest.takeWhile CodePoint.isSurrogate).length }

/-- The UTF-8 bytes of a text, or the first surrogates that have none. -/
def encode (text : List CodePoint) : Except SurrogateRun Bytes :=
  match firstSurrogateRun 0 text with
  | some run => .error run
  | none => .ok (encodeChars ((scalars? text).getD []))

/-- What a lead byte asks for: how many bytes follow, the bounds of the first of
them (the later ones are between `0x80` and `0xBF`), and the bits it adds. -/
structure Lead where
  followers : Nat
  low : UInt8
  high : UInt8
  bits : Nat
deriving DecidableEq, Repr

/-- The lead bytes of sequences of two to four bytes. -/
def lead? (byte : UInt8) : Option Lead :=
  if 0xC2 ≤ byte ∧ byte ≤ 0xDF then some ⟨1, 0x80, 0xBF, byte.toNat - 0xC0⟩
  else if byte = 0xE0 then some ⟨2, 0xA0, 0xBF, 0⟩
  else if byte = 0xED then some ⟨2, 0x80, 0x9F, 0xD⟩
  else if 0xE1 ≤ byte ∧ byte ≤ 0xEF then some ⟨2, 0x80, 0xBF, byte.toNat - 0xE0⟩
  else if byte = 0xF0 then some ⟨3, 0x90, 0xBF, 0⟩
  else if 0xF1 ≤ byte ∧ byte ≤ 0xF3 then some ⟨3, 0x80, 0xBF, byte.toNat - 0xF0⟩
  else if byte = 0xF4 then some ⟨3, 0x80, 0x8F, 4⟩
  else none

/-- Reads the bytes that follow a lead byte.  On failure the number tells how
many of them belong to the malformed part. -/
def decodeFollowers (low high : UInt8) (bits : Nat) : Nat → Bytes → Except Nat (Nat × Bytes)
  | 0, bytes => .ok (bits, bytes)
  | _ + 1, [] => .error 0
  | count + 1, byte :: rest =>
      if low ≤ byte ∧ byte ≤ high then
        match decodeFollowers 0x80 0xBF (bits * 64 + (byte.toNat - 0x80)) count rest with
        | .ok found => .ok found
        | .error used => .error (used + 1)
      else .error 0

/-- Reads one character.  On failure the number tells how many bytes after the
first belong to the malformed part. -/
def decodeChar (byte : UInt8) (rest : Bytes) : Except Nat (Char × Bytes) :=
  if byte < 0x80 then .ok (Char.ofNat byte.toNat, rest)
  else
    match lead? byte with
    | none => .error 0
    | some lead =>
        match decodeFollowers lead.low lead.high lead.bits lead.followers rest with
        | .ok (bits, rest) => .ok (Char.ofNat bits, rest)
        | .error used => .error used

theorem decodeFollowers_length {low high : UInt8} {bits count : Nat} {bytes rest : Bytes}
    {value : Nat} (read : decodeFollowers low high bits count bytes = .ok (value, rest)) :
    rest.length ≤ bytes.length := by
  induction count generalizing low high bits bytes with
  | zero =>
      simp only [decodeFollowers, Except.ok.injEq, Prod.mk.injEq] at read
      simp [read.2]
  | succ count inductionHypothesis =>
      cases bytes with
      | nil => simp [decodeFollowers] at read
      | cons byte bytes =>
          simp only [decodeFollowers] at read
          split at read
          · split at read
            · rename_i found inner
              simp only [Except.ok.injEq] at read
              subst read
              exact Nat.le_succ_of_le (inductionHypothesis inner)
            · simp at read
          · simp at read

theorem decodeChar_length {byte : UInt8} {bytes rest : Bytes} {char : Char}
    (read : decodeChar byte bytes = .ok (char, rest)) : rest.length ≤ bytes.length := by
  simp only [decodeChar] at read
  split at read
  · simp only [Except.ok.injEq, Prod.mk.injEq] at read
    simp [read.2]
  · split at read
    · simp at read
    · split at read
      · rename_i inner
        simp only [Except.ok.injEq, Prod.mk.injEq] at read
        exact read.2 ▸ decodeFollowers_length inner
      · simp at read

/-- What is wrong with a malformed part: its first byte starts no sequence, the byte after
it does not go on with the sequence, or there is none after it. -/
inductive MalformedReason where
  | startByte
  | continuationByte
  | endOfBytes
deriving DecidableEq, Repr

/-- The first malformed part of some bytes, from the offset `start` up to the offset `stop`. -/
structure MalformedPart where
  start : Nat
  stop : Nat
  reason : MalformedReason
deriving DecidableEq, Repr

/-- The part that starts with a byte at the offset `start` and takes in `used` bytes of the
rest. -/
def malformedPart (start : Nat) (byte : UInt8) (rest : Bytes) (used : Nat) : MalformedPart where
  start := start
  stop := start + 1 + used
  reason :=
    if (lead? byte).isNone then .startByte
    else if used < rest.length then .continuationByte
    else .endOfBytes

/-- The characters of a well-formed UTF-8 sequence that starts at the offset `start`. -/
def decodeFrom (start : Nat) : Bytes → Except MalformedPart (List Char)
  | [] => .ok []
  | byte :: rest =>
      match read : decodeChar byte rest with
      | .ok (char, tail) =>
          have := decodeChar_length read
          (decodeFrom (start + 1 + (rest.length - tail.length)) tail).map (char :: ·)
      | .error used => .error (malformedPart start byte rest used)
termination_by bytes => bytes.length
decreasing_by
  simp only [List.length_cons]
  omega

/-- The characters of a well-formed UTF-8 sequence, or its first malformed part. -/
def decode (bytes : Bytes) : Except MalformedPart (List Char) :=
  decodeFrom 0 bytes

def decode? (bytes : Bytes) : Option (List Char) :=
  (decode bytes).toOption

/-- The character that stands for a malformed part. -/
def replacement : Char := '\uFFFD'

/-- The characters of any bytes, with `replacement` for every malformed part: a
longest start of a well-formed sequence that does not go on, or a single byte
that starts none. -/
def decodeLossy : Bytes → List Char
  | [] => []
  | byte :: rest =>
      match read : decodeChar byte rest with
      | .ok (char, tail) =>
          have := decodeChar_length read
          char :: decodeLossy tail
      | .error used => replacement :: decodeLossy (rest.drop used)
termination_by bytes => bytes.length
decreasing_by
  · simp only [List.length_cons]
    omega
  · simp only [List.length_drop, List.length_cons]
    omega

end PhpOutline.Text
