import PhpOutline.Proofs.Text.Utf8
import PhpOutline.Syntax.Location

namespace PhpOutline.Text

open PhpOutline.Syntax (slice)

/-- What was read does not depend on the bytes after it. -/
theorem decodeFollowers_append {low high : UInt8} {bits count : Nat} {bytes rest : Bytes}
    {value : Nat} (read : decodeFollowers low high bits count bytes = .ok (value, rest))
    (more : Bytes) :
    decodeFollowers low high bits count (bytes ++ more) = .ok (value, rest ++ more) := by
  induction count generalizing low high bits bytes with
  | zero =>
      simp only [decodeFollowers, Except.ok.injEq, Prod.mk.injEq] at read ⊢
      exact ⟨read.1, by rw [read.2]⟩
  | succ count inductionHypothesis =>
      cases bytes with
      | nil => cases read
      | cons byte bytes =>
          rw [decodeFollowers] at read
          rw [List.cons_append, decodeFollowers]
          split at read
          · rename_i inBounds
            rw [if_pos inBounds]
            split at read
            · rename_i found inner
              cases read
              rw [inductionHypothesis inner]
            · cases read
          · cases read

theorem decodeChar_append {byte : UInt8} {bytes rest : Bytes} {char : Char}
    (read : decodeChar byte bytes = .ok (char, rest)) (more : Bytes) :
    decodeChar byte (bytes ++ more) = .ok (char, rest ++ more) := by
  unfold decodeChar at read ⊢
  split at read
  · rename_i ascii
    rw [if_pos ascii]
    cases read
    rfl
  · rename_i notAscii
    rw [if_neg notAscii]
    split at read
    · cases read
    · split at read
      · rename_i inner
        cases read
        rw [decodeFollowers_append inner more]
      · cases read

/-- A byte that only goes on with a character. -/
def IsContinuation (byte : UInt8) : Prop :=
  0x80 ≤ byte ∧ byte < 0xC0

theorem isContinuation_ofNat (digit : Nat) :
    IsContinuation (UInt8.ofNat (digit % 0x40 + 0x80)) := by
  have value : (UInt8.ofNat (digit % 0x40 + 0x80)).toNat = digit % 0x40 + 0x80 :=
    UInt8.toNat_ofNat_of_lt' (by simp only [UInt8.size]; omega)
  rw [IsContinuation, UInt8.le_iff_toNat_le, UInt8.lt_iff_toNat_lt, value]
  simp only [UInt8.reduceToNat]
  omega

theorem decodeChar_of_isContinuation {byte : UInt8} (continuation : IsContinuation byte)
    (rest : Bytes) : decodeChar byte rest = .error 0 := by
  obtain ⟨above, below⟩ := continuation
  have noLead : lead? byte = none := by
    simp only [UInt8.le_iff_toNat_le, UInt8.lt_iff_toNat_lt, UInt8.reduceToNat] at above below
    simp only [lead?, ← UInt8.toNat_inj, UInt8.le_iff_toNat_le, UInt8.reduceToNat]
    repeat rw [if_neg (by omega)]
  rw [decodeChar, if_neg (UInt8.not_lt.mpr above), noLead]

theorem decode?_of_isContinuation {byte : UInt8} (continuation : IsContinuation byte)
    (rest : Bytes) : decode? (byte :: rest) = none := by
  rw [decode?_cons, decodeChar_of_isContinuation continuation]

/-- After its first byte a character has bytes that only go on with it. -/
theorem utf8EncodeChar_continues (char : Char) :
    ∃ byte tail, String.utf8EncodeChar char = byte :: tail ∧
      ∀ later ∈ tail, IsContinuation later := by
  unfold String.utf8EncodeChar
  dsimp only
  repeat' split
  all_goals
    refine ⟨_, _, rfl, ?_⟩
    simp only [List.forall_mem_cons, isContinuation_ofNat, List.not_mem_nil, false_implies,
      implies_true, and_self]

theorem encodeChars_cons (char : Char) (chars : List Char) :
    encodeChars (char :: chars) = String.utf8EncodeChar char ++ encodeChars chars :=
  List.flatMap_cons

theorem onBoundary_zero (chars : List Char) : OnBoundary chars 0 :=
  ⟨0, rfl⟩

theorem OnBoundary.cons {chars : List Char} {offset : Nat} (boundary : OnBoundary chars offset)
    (char : Char) : OnBoundary (char :: chars) ((String.utf8EncodeChar char).length + offset) := by
  obtain ⟨count, rfl⟩ := boundary
  exact ⟨count + 1, by rw [List.take_succ_cons, encodeChars_cons, List.length_append]⟩

/-- Inside a character there are only bytes that go on with it. -/
theorem onBoundary_or_isContinuation {chars : List Char} {offset : Nat}
    (inside : offset ≤ (encodeChars chars).length) :
    OnBoundary chars offset ∨
      ∃ byte rest, (encodeChars chars).drop offset = byte :: rest ∧ IsContinuation byte := by
  induction chars generalizing offset with
  | nil =>
      have start : offset = 0 := by simpa [encodeChars] using inside
      exact .inl (start ▸ onBoundary_zero [])
  | cons char chars inductionHypothesis =>
      rw [encodeChars_cons, List.length_append] at inside
      rw [encodeChars_cons]
      by_cases later : (String.utf8EncodeChar char).length ≤ offset
      · obtain ⟨beyond, rfl⟩ := Nat.exists_eq_add_of_le later
        rw [List.drop_append, List.drop_eq_nil_of_le later, Nat.add_sub_cancel_left,
          List.nil_append]
        exact (inductionHypothesis (by omega)).imp_left fun boundary => boundary.cons char
      · obtain ⟨byte, tail, encoded, continues⟩ := utf8EncodeChar_continues char
        cases offset with
        | zero => exact .inl (onBoundary_zero _)
        | succ offset =>
            rw [encoded, List.length_cons] at later
            have within : offset < tail.length := by omega
            right
            refine ⟨tail[offset], tail.drop (offset + 1) ++ encodeChars chars, ?_,
              continues _ (List.getElem_mem within)⟩
            rw [encoded, List.cons_append, List.drop_succ_cons,
              List.drop_append_of_le_length (by omega), List.drop_eq_getElem_cons within,
              List.cons_append]

/-- The start of an encoded text reads as text only up to a boundary. -/
theorem onBoundary_of_decode?_take {chars read : List Char} {size : Nat}
    (inside : size ≤ (encodeChars chars).length)
    (decoded : decode? ((encodeChars chars).take size) = some read) :
    OnBoundary chars size := by
  induction chars generalizing size read with
  | nil =>
      have none : size = 0 := by simpa [encodeChars] using inside
      exact none ▸ onBoundary_zero []
  | cons char chars inductionHypothesis =>
      cases size with
      | zero => exact onBoundary_zero _
      | succ size =>
          obtain ⟨byte, tail, encoded, whole⟩ := decodeChar_encoded char (encodeChars chars)
          have split : encodeChars (char :: chars) = byte :: (tail ++ encodeChars chars) := by
            rw [encodeChars_cons, encoded, List.cons_append]
          rw [split, List.length_cons] at inside
          rw [split, List.take_succ_cons, decode?_cons] at decoded
          split at decoded
          · rename_i found rest first
            obtain ⟨others, later, rfl⟩ := Option.map_eq_some_iff.mp decoded
            -- With the bytes that were cut off the same character is read, and the same rest.
            have extended := decodeChar_append first ((tail ++ encodeChars chars).drop size)
            rw [List.take_append_drop, whole, Except.ok.injEq, Prod.mk.injEq] at extended
            obtain ⟨rfl, same⟩ := extended
            have read : rest = (encodeChars chars).take rest.length := by
              rw [same, List.take_left]
            have lengths := congrArg List.length same
            rw [List.length_append, List.length_drop, List.length_append] at lengths
            rw [List.length_append] at inside
            rw [read] at later
            have boundary := (inductionHypothesis (by omega) later).cons char
            rw [encoded, List.length_cons] at boundary
            have total : size + 1 = tail.length + 1 + rest.length := by omega
            exact total ▸ boundary
          · cases decoded

/-- Bytes that are not none read as text exactly if they are those between two boundaries,
and then as the characters between these. -/
theorem decode?_slice_iff {chars read : List Char} {start stop : Nat} (nonempty : start < stop)
    (inside : stop ≤ (encodeChars chars).length) :
    decode? (slice (encodeChars chars) start stop) = some read ↔
      ∃ first last, first ≤ last ∧ last ≤ chars.length ∧
        start = (encodeChars (chars.take first)).length ∧
        stop = (encodeChars (chars.take last)).length ∧
        read = (chars.drop first).take (last - first) := by
  constructor
  · intro decoded
    have startInside : start ≤ (encodeChars chars).length := by omega
    rcases onBoundary_or_isContinuation startInside with
      boundary | ⟨byte, rest, found, continuation⟩
    · obtain ⟨first, inText, rfl⟩ := onBoundary_iff.mp boundary
      have whole : encodeChars chars =
          encodeChars (chars.take first) ++ encodeChars (chars.drop first) := by
        rw [← encodeChars_append, List.take_append_drop]
      have rest := congrArg List.length whole
      rw [List.length_append] at rest
      have later := decoded
      rw [slice, whole, List.drop_left] at later
      obtain ⟨count, inRest, size⟩ := onBoundary_iff.mp
        (onBoundary_of_decode?_take (by omega) later)
      rw [List.length_drop] at inRest
      have stops : stop = (encodeChars (chars.take (first + count))).length := by
        rw [encodeChars_take_add, List.length_append]
        omega
      refine ⟨first, first + count, by omega, by omega, rfl, stops, ?_⟩
      rw [slice, stops, take_drop_encodeChars, decode?_encodeChars, Option.some.injEq] at decoded
      exact decoded.symm
    · obtain ⟨more, size⟩ := Nat.exists_eq_add_of_lt nonempty
      have length : stop - start = more + 1 := by omega
      rw [slice, found, length, List.take_succ_cons,
        decode?_of_isContinuation continuation] at decoded
      cases decoded
  · rintro ⟨first, last, _, _, rfl, rfl, rfl⟩
    rw [slice, take_drop_encodeChars, decode?_encodeChars]

end PhpOutline.Text
