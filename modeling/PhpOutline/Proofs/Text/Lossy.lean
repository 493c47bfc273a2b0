import Mathlib.Algebra.Group.Nat.Defs
import PhpOutline.Proofs.Text.Utf8

namespace PhpOutline.Text

/-! Text that is read from any bytes.

The bounds on the byte after a lead byte leave no way to write an ASCII character with more
than one byte, and the replacement character is not ASCII.  So ASCII text is read from no
other bytes than its own.
-/

/-- Each byte after the lead byte adds a digit to base 64, and the first of them is bounded. -/
theorem decodeFollowers_bounds {low high : UInt8} {bits count value : Nat} {bytes rest : Bytes}
    (lowest : 0x80 ≤ low.toNat) (highest : high.toNat ≤ 0xBF)
    (read : decodeFollowers low high bits (count + 1) bytes = .ok (value, rest)) :
    (bits * 64 + (low.toNat - 0x80)) * 64 ^ count ≤ value ∧
      value < (bits * 64 + (high.toNat - 0x80) + 1) * 64 ^ count := by
  induction count generalizing low high bits bytes with
  | zero =>
      cases bytes with
      | nil => cases read
      | cons byte bytes =>
          simp only [decodeFollowers] at read
          split at read
          · rename_i inBounds
            rw [UInt8.le_iff_toNat_le, UInt8.le_iff_toNat_le] at inBounds
            simp only [Except.ok.injEq, Prod.mk.injEq] at read
            simp only [Nat.pow_zero, Nat.mul_one]
            omega
          · cases read
  | succ count inductionHypothesis =>
      cases bytes with
      | nil => cases read
      | cons byte bytes =>
          rw [decodeFollowers] at read
          split at read
          · rename_i inBounds
            rw [UInt8.le_iff_toNat_le, UInt8.le_iff_toNat_le] at inBounds
            split at read
            · rename_i found inner
              cases read
              obtain ⟨lower, upper⟩ := inductionHypothesis (by decide) (by decide) inner
              have total : (bits * 64 + (byte.toNat - 0x80)) * 64 + (191 - 0x80) + 1 =
                  (bits * 64 + (byte.toNat - 0x80) + 1) * 64 := by omega
              simp only [UInt8.reduceToNat, Nat.sub_self, Nat.add_zero, total, Nat.mul_assoc]
                at lower upper
              rw [Nat.pow_succ']
              constructor
              · exact Nat.le_trans (Nat.mul_le_mul_right _ (by omega)) lower
              · exact Nat.lt_of_lt_of_le upper (Nat.mul_le_mul_right _ (by omega))
            · cases read
          · cases read

/-- No bytes after a lead byte give a value in ASCII, or one that no character has. -/
theorem value_of_lead? {byte : UInt8} {lead : Lead} {bytes rest : Bytes} {value : Nat}
    (found : lead? byte = some lead)
    (read : decodeFollowers lead.low lead.high lead.bits lead.followers bytes =
      .ok (value, rest)) : 0x80 ≤ value ∧ value.isValidChar := by
  unfold lead? at found
  simp only [← UInt8.toNat_inj, UInt8.le_iff_toNat_le, UInt8.reduceToNat] at found
  repeat' split at found
  all_goals
    cases found
  all_goals
    have bounds := decodeFollowers_bounds (by dsimp only; decide) (by dsimp only; decide) read
    simp only [UInt8.reduceToNat, Nat.reducePow, Nat.reduceSub] at bounds
    unfold Nat.isValidChar
    omega

/-- The byte of an ASCII character. -/
def asciiByte (char : Char) : UInt8 :=
  UInt8.ofNat char.toNat

theorem decodeChar_asciiByte {char : Char} (ascii : char.toNat < 0x80) (rest : Bytes) :
    decodeChar (asciiByte char) rest = .ok (char, rest) := by
  have read := decodeChar_one (Nat.le_of_lt_succ ascii) rest
  rwa [Char.ofNat_toNat] at read

theorem eq_of_decodeChar_ascii {byte : UInt8} {bytes rest : Bytes} {char : Char}
    (read : decodeChar byte bytes = .ok (char, rest)) (ascii : char.toNat < 0x80) :
    byte = asciiByte char ∧ bytes = rest := by
  unfold decodeChar at read
  split at read
  · rename_i small
    cases read
    rw [UInt8.lt_iff_toNat_lt] at small
    have valid : byte.toNat.isValidChar := .inl (Nat.lt_trans small (by decide))
    rw [asciiByte, toNat_ofNat_of_valid valid, UInt8.ofNat_toNat]
    exact ⟨rfl, rfl⟩
  · split at read
    · cases read
    · rename_i lead found
      split at read
      · rename_i value rest inner
        cases read
        obtain ⟨beyond, valid⟩ := value_of_lead? found inner
        rw [toNat_ofNat_of_valid valid] at ascii
        omega
      · cases read

theorem decodeLossy_cons (byte : UInt8) (bytes : Bytes) :
    decodeLossy (byte :: bytes) =
      match decodeChar byte bytes with
      | .ok (char, rest) => char :: decodeLossy rest
      | .error used => replacement :: decodeLossy (bytes.drop used) := by
  rw [decodeLossy]
  split
  · rename_i read
    simp only [read]
  · rename_i failed
    simp only [failed]

theorem decodeLossy_eq_iff {bytes : Bytes} {chars : List Char}
    (ascii : ∀ char ∈ chars, char.toNat < 0x80) :
    decodeLossy bytes = chars ↔ bytes = chars.map asciiByte := by
  induction chars generalizing bytes with
  | nil =>
      cases bytes with
      | nil => simp [decodeLossy]
      | cons byte bytes =>
          rw [decodeLossy_cons]
          cases decodeChar byte bytes <;> simp
  | cons char chars inductionHypothesis =>
      obtain ⟨inAscii, later⟩ := List.forall_mem_cons.mp ascii
      cases bytes with
      | nil => simp [decodeLossy]
      | cons byte bytes =>
          rw [decodeLossy_cons, List.map_cons, List.cons.injEq, ← inductionHypothesis later]
          constructor
          · intro same
            cases read : decodeChar byte bytes with
            | error used =>
                rw [read] at same
                cases same
                exact absurd inAscii (by decide)
            | ok found =>
                obtain ⟨first, rest⟩ := found
                rw [read] at same
                cases same
                obtain ⟨sameByte, rfl⟩ := eq_of_decodeChar_ascii read inAscii
                exact ⟨sameByte, rfl⟩
          · rintro ⟨rfl, rest⟩
            rw [decodeChar_asciiByte inAscii]
            exact congrArg _ rest

theorem exists_asciiBytes {bytes : Bytes} (ascii : ∀ byte ∈ bytes, byte < 0x80) :
    ∃ chars : List Char, (∀ char ∈ chars, char.toNat < 0x80) ∧ bytes = chars.map asciiByte := by
  induction bytes with
  | nil => exact ⟨[], by simp, rfl⟩
  | cons byte bytes inductionHypothesis =>
      obtain ⟨small, later⟩ := List.forall_mem_cons.mp ascii
      obtain ⟨chars, inAscii, rfl⟩ := inductionHypothesis later
      rw [UInt8.lt_iff_toNat_lt] at small
      have value := toNat_ofNat_of_valid (.inl (Nat.lt_trans small (by decide)))
      refine ⟨Char.ofNat byte.toNat :: chars, List.forall_mem_cons.mpr ⟨?_, inAscii⟩, ?_⟩
      · rwa [value]
      · rw [List.map_cons, asciiByte, value, UInt8.ofNat_toNat]

end PhpOutline.Text
