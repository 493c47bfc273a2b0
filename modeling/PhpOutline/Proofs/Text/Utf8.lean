import PhpOutline.Text.Utf8

namespace PhpOutline.Text

/-- A continuation byte carries six bits, whatever bounds the lead byte sets, as
long as it keeps to them. -/
theorem decodeFollowers_tail {low high : UInt8} {bits count digit : Nat} {rest : Bytes}
    {found : Nat × Bytes} (above : low.toNat ≤ digit % 0x40 + 0x80)
    (below : digit % 0x40 + 0x80 ≤ high.toNat)
    (later : decodeFollowers 0x80 0xBF (bits * 64 + digit % 0x40) count rest = .ok found) :
    decodeFollowers low high bits (count + 1) (UInt8.ofNat (digit % 0x40 + 0x80) :: rest) =
      .ok found := by
  have value : (UInt8.ofNat (digit % 0x40 + 0x80)).toNat = digit % 0x40 + 0x80 :=
    UInt8.toNat_ofNat_of_lt' (by simp only [UInt8.size]; omega)
  have inBounds : low ≤ UInt8.ofNat (digit % 0x40 + 0x80) ∧
      UInt8.ofNat (digit % 0x40 + 0x80) ≤ high := by
    rw [UInt8.le_iff_toNat_le, UInt8.le_iff_toNat_le, value]
    exact ⟨above, below⟩
  simp only [decodeFollowers, if_pos inBounds, value, Nat.add_sub_cancel, later]

theorem lead?_two : ∀ bits < 0x20, 2 ≤ bits →
    lead? (UInt8.ofNat (bits + 0xC0)) = some ⟨1, 0x80, 0xBF, bits⟩ := by
  decide

theorem lead?_three : ∀ bits < 0x10, lead? (UInt8.ofNat (bits + 0xE0)) =
    some ⟨2, if bits = 0 then 0xA0 else 0x80, if bits = 13 then 0x9F else 0xBF, bits⟩ := by
  decide

theorem lead?_four : ∀ bits < 5, lead? (UInt8.ofNat (bits + 0xF0)) =
    some ⟨3, if bits = 0 then 0x90 else 0x80, if bits = 4 then 0x8F else 0xBF, bits⟩ := by
  decide

theorem toNat_ofNat_of_valid {value : Nat} (valid : value.isValidChar) :
    (Char.ofNat value).toNat = value := by
  rw [Char.ofNat, dif_pos valid]
  rfl

theorem forall_ascii {P : Char → Prop} (codes : ∀ code < 0x80, P (Char.ofNat code)) (char : Char)
    (ascii : char.toNat < 0x80) : P char := by
  have coded := codes char.toNat ascii
  rwa [Char.ofNat_toNat] at coded

theorem not_ascii_of_ge (value : Nat) (lower : 0x80 ≤ value) (upper : value < 0x100) :
    ¬ UInt8.ofNat value < 0x80 := by
  rw [UInt8.lt_iff_toNat_lt, UInt8.toNat_ofNat_of_lt' (by simp only [UInt8.size]; omega)]
  simp only [UInt8.reduceToNat]
  omega

theorem decodeChar_one {value : Nat} (upper : value ≤ 0x7F) (rest : Bytes) :
    decodeChar (UInt8.ofNat value) rest = .ok (Char.ofNat value, rest) := by
  have small : (UInt8.ofNat value).toNat = value :=
    UInt8.toNat_ofNat_of_lt' (by simp only [UInt8.size]; omega)
  have ascii : UInt8.ofNat value < 0x80 := by
    rw [UInt8.lt_iff_toNat_lt, small]
    simp only [UInt8.reduceToNat]
    omega
  simp only [decodeChar, if_pos ascii, small]

theorem decodeChar_two {value : Nat} (lower : 0x7F < value) (upper : value ≤ 0x7FF)
    (rest : Bytes) :
    decodeChar (UInt8.ofNat (value / 64 % 0x20 + 0xC0))
      (UInt8.ofNat (value % 0x40 + 0x80) :: rest) = .ok (Char.ofNat value, rest) := by
  have lead := lead?_two (value / 64 % 0x20) (by omega) (by omega)
  have followers : decodeFollowers 0x80 0xBF (value / 64 % 0x20) 1
      (UInt8.ofNat (value % 0x40 + 0x80) :: rest) = .ok (value, rest) := by
    apply decodeFollowers_tail (by simp) (by simp only [UInt8.reduceToNat]; omega)
    simp only [decodeFollowers, Except.ok.injEq, Prod.mk.injEq, and_true]
    omega
  simp only [decodeChar, if_neg (not_ascii_of_ge (value / 64 % 0x20 + 0xC0)
    (by omega) (by omega)), lead, followers]

/-- Three bytes carry no overlong form and no surrogate: the bounds on the second
byte rule both out, and `scalar` says that the value is neither. -/
theorem decodeChar_three {value : Nat} (lower : 0x7FF < value) (upper : value ≤ 0xFFFF)
    (scalar : value < 0xD800 ∨ 0xDFFF < value) (rest : Bytes) :
    decodeChar (UInt8.ofNat (value / 4096 % 0x10 + 0xE0))
      (UInt8.ofNat (value / 64 % 0x40 + 0x80) :: UInt8.ofNat (value % 0x40 + 0x80) :: rest) =
      .ok (Char.ofNat value, rest) := by
  have lead := lead?_three (value / 4096 % 0x10) (by omega)
  have followers : decodeFollowers
      (if value / 4096 % 0x10 = 0 then 0xA0 else 0x80)
      (if value / 4096 % 0x10 = 13 then 0x9F else 0xBF) (value / 4096 % 0x10) 2
      (UInt8.ofNat (value / 64 % 0x40 + 0x80) ::
        UInt8.ofNat (value % 0x40 + 0x80) :: rest) = .ok (value, rest) := by
    apply decodeFollowers_tail
    · split <;> simp only [UInt8.reduceToNat] <;> omega
    · split <;> simp only [UInt8.reduceToNat] <;> omega
    · apply decodeFollowers_tail (by simp) (by simp only [UInt8.reduceToNat]; omega)
      simp only [decodeFollowers, Except.ok.injEq, Prod.mk.injEq, and_true]
      omega
  simp only [decodeChar, if_neg (not_ascii_of_ge (value / 4096 % 0x10 + 0xE0)
    (by omega) (by omega)), lead, followers]

theorem decodeChar_four {value : Nat} (lower : 0xFFFF < value) (upper : value < 0x110000)
    (rest : Bytes) :
    decodeChar (UInt8.ofNat (value / 262144 % 0x08 + 0xF0))
      (UInt8.ofNat (value / 4096 % 0x40 + 0x80) :: UInt8.ofNat (value / 64 % 0x40 + 0x80) ::
        UInt8.ofNat (value % 0x40 + 0x80) :: rest) = .ok (Char.ofNat value, rest) := by
  have lead := lead?_four (value / 262144 % 0x08) (by omega)
  have followers : decodeFollowers
      (if value / 262144 % 0x08 = 0 then 0x90 else 0x80)
      (if value / 262144 % 0x08 = 4 then 0x8F else 0xBF) (value / 262144 % 0x08) 3
      (UInt8.ofNat (value / 4096 % 0x40 + 0x80) :: UInt8.ofNat (value / 64 % 0x40 + 0x80) ::
        UInt8.ofNat (value % 0x40 + 0x80) :: rest) = .ok (value, rest) := by
    apply decodeFollowers_tail
    · split <;> simp only [UInt8.reduceToNat] <;> omega
    · split <;> simp only [UInt8.reduceToNat] <;> omega
    · apply decodeFollowers_tail (by simp) (by simp only [UInt8.reduceToNat]; omega)
      apply decodeFollowers_tail (by simp) (by simp only [UInt8.reduceToNat]; omega)
      simp only [decodeFollowers, Except.ok.injEq, Prod.mk.injEq, and_true]
      omega
  simp only [decodeChar, if_neg (not_ascii_of_ge (value / 262144 % 0x08 + 0xF0)
    (by omega) (by omega)), lead, followers]

/-- The bytes of a character read as that character, whatever comes after. -/
theorem decodeChar_encoded (char : Char) (rest : Bytes) :
    ∃ byte tail, String.utf8EncodeChar char = byte :: tail ∧
      decodeChar byte (tail ++ rest) = .ok (char, rest) := by
  have valid : char.val.toNat < 0xD800 ∨
      0xDFFF < char.val.toNat ∧ char.val.toNat < 0x110000 := char.valid
  have back : Char.ofNat char.val.toNat = char := Char.ofNat_toNat char
  unfold String.utf8EncodeChar
  dsimp only
  generalize char.val.toNat = value at valid back
  subst char
  split
  · exact ⟨_, _, rfl, decodeChar_one (by assumption) rest⟩
  · split
    · exact ⟨_, _, rfl, decodeChar_two (by omega) (by assumption) rest⟩
    · split
      · exact ⟨_, _, rfl, decodeChar_three (by omega) (by assumption) (by omega) rest⟩
      · exact ⟨_, _, rfl, decodeChar_four (by omega) (by omega) rest⟩

theorem encodeChars_append (left right : List Char) :
    encodeChars (left ++ right) = encodeChars left ++ encodeChars right :=
  List.flatMap_append

theorem decodeFrom_cons (start : Nat) (byte : UInt8) (rest : Bytes) :
    decodeFrom start (byte :: rest) =
      match decodeChar byte rest with
      | .ok (char, tail) =>
          (decodeFrom (start + 1 + (rest.length - tail.length)) tail).map (char :: ·)
      | .error used => .error (malformedPart start byte rest used) := by
  rw [decodeFrom]
  split
  · rename_i read
    simp only [read]
  · rename_i failed
    simp only [failed]

theorem toOption_decodeFrom (start : Nat) (bytes : Bytes) :
    (decodeFrom start bytes).toOption = decode? bytes := by
  suffices same : ∀ other, (decodeFrom start bytes).toOption = (decodeFrom other bytes).toOption from
    same 0
  induction start, bytes using decodeFrom.induct with
  | case1 start =>
      intro other
      rw [decodeFrom, decodeFrom]
  | case2 start byte rest char tail read shorter inductionHypothesis =>
      intro other
      have later := inductionHypothesis (other + 1 + (rest.length - tail.length))
      rw [decodeFrom_cons, decodeFrom_cons, read]
      dsimp only
      generalize decodeFrom _ tail = first at later ⊢
      generalize decodeFrom _ tail = second at later ⊢
      cases first <;> cases second <;> simp_all [Except.map, Except.toOption]
  | case3 start byte rest used failed =>
      intro other
      rw [decodeFrom_cons, decodeFrom_cons, failed]
      rfl

theorem decode?_nil : decode? [] = some [] := by
  rw [decode?, decode, decodeFrom]
  rfl

theorem decode?_cons (byte : UInt8) (rest : Bytes) :
    decode? (byte :: rest) =
      match decodeChar byte rest with
      | .ok (char, tail) => (decode? tail).map (char :: ·)
      | .error _ => none := by
  rw [decode?, decode, decodeFrom_cons]
  cases read : decodeChar byte rest with
  | error used => rfl
  | ok found =>
      obtain ⟨char, tail⟩ := found
      dsimp only
      rw [← toOption_decodeFrom (0 + 1 + (rest.length - tail.length)) tail]
      cases decodeFrom _ tail <;> rfl

theorem decode?_encodeChars (chars : List Char) : decode? (encodeChars chars) = some chars := by
  induction chars with
  | nil => exact decode?_nil
  | cons char chars inductionHypothesis =>
      obtain ⟨byte, tail, encoded, read⟩ := decodeChar_encoded char (encodeChars chars)
      have split : encodeChars (char :: chars) = byte :: (tail ++ encodeChars chars) := by
        change String.utf8EncodeChar char ++ encodeChars chars = _
        rw [encoded, List.cons_append]
      rw [split, decode?_cons, read]
      dsimp only
      rw [inductionHypothesis]
      rfl

/-- The offset lies between two characters of a text, or at one of its ends. -/
def OnBoundary (chars : List Char) (offset : Nat) : Prop :=
  ∃ count, offset = (encodeChars (chars.take count)).length

theorem onBoundary_iff {chars : List Char} {offset : Nat} :
    OnBoundary chars offset ↔
      ∃ count < chars.length + 1, offset = (encodeChars (chars.take count)).length := by
  constructor
  · rintro ⟨count, same⟩
    refine ⟨min count chars.length, by omega, ?_⟩
    rw [same, ← List.take_eq_take_min]
  · rintro ⟨count, _, same⟩
    exact ⟨count, same⟩

instance (chars : List Char) (offset : Nat) : Decidable (OnBoundary chars offset) :=
  decidable_of_iff _ onBoundary_iff.symm

theorem encodeChars_take_add (chars : List Char) (first more : Nat) :
    encodeChars (chars.take (first + more)) =
      encodeChars (chars.take first) ++ encodeChars ((chars.drop first).take more) := by
  rw [← encodeChars_append, List.take_add]

theorem take_drop_encodeChars (chars : List Char) (first last : Nat) :
    ((encodeChars chars).drop (encodeChars (chars.take first)).length).take
        ((encodeChars (chars.take last)).length - (encodeChars (chars.take first)).length) =
      encodeChars ((chars.drop first).take (last - first)) := by
  by_cases ordered : first ≤ last
  · obtain ⟨more, rfl⟩ := Nat.exists_eq_add_of_le ordered
    have whole : encodeChars chars = encodeChars (chars.take first) ++
        (encodeChars ((chars.drop first).take more) ++
          encodeChars ((chars.drop first).drop more)) := by
      rw [← encodeChars_append, ← encodeChars_append, List.take_append_drop,
        List.take_append_drop]
    rw [encodeChars_take_add, List.length_append, Nat.add_sub_cancel_left, Nat.add_sub_cancel_left,
      whole, List.drop_left, List.take_left]
  · obtain ⟨more, rfl⟩ := Nat.exists_eq_add_of_le (Nat.le_of_not_le ordered)
    have noBytes : (encodeChars (chars.take last)).length -
        (encodeChars (chars.take (last + more))).length = 0 := by
      rw [encodeChars_take_add, List.length_append]
      omega
    have noChars : last - (last + more) = 0 := by omega
    rw [noBytes, noChars, List.take_zero, List.take_zero]
    rfl

end PhpOutline.Text
