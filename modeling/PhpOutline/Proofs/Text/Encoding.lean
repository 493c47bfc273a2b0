import PhpOutline.Text.Utf8

namespace PhpOutline.Text

/-- The first surrogates of the text, up to the next character or the end, stand at the
positions of the run, where positions count from `position`. -/
def IsFirstRun (position : Nat) (text : List CodePoint) (run : SurrogateRun) : Prop :=
  ∃ (chars : List Char) (offset : Fin 2048) (later : List (Fin 2048)) (rest : List CodePoint),
    text = chars.map .scalar ++ .surrogate offset :: (later.map .surrogate ++ rest) ∧
    (∀ point ∈ rest.head?, point.isSurrogate = false) ∧
    run = ⟨0xD800 + offset.val, position + chars.length, position + chars.length + later.length⟩

theorem takeWhile_isSurrogate (later : List (Fin 2048)) {rest : List CodePoint}
    (ends : ∀ point ∈ rest.head?, point.isSurrogate = false) :
    (later.map CodePoint.surrogate ++ rest).takeWhile CodePoint.isSurrogate =
      later.map CodePoint.surrogate := by
  induction later with
  | nil =>
      cases rest with
      | nil => rfl
      | cons point rest =>
          have next := ends point rfl
          rw [List.map_nil, List.nil_append, List.takeWhile_cons, next]
          rfl
  | cons offset later inductionHypothesis =>
      rw [List.map_cons, List.cons_append, List.takeWhile_cons_of_pos rfl, inductionHypothesis]

/-- Every text starts with all surrogates up to its next character. -/
theorem exists_surrogates (text : List CodePoint) :
    ∃ (later : List (Fin 2048)) (rest : List CodePoint),
      text = later.map .surrogate ++ rest ∧ ∀ point ∈ rest.head?, point.isSurrogate = false := by
  induction text with
  | nil => exact ⟨[], [], rfl, by simp⟩
  | cons point text inductionHypothesis =>
      cases point with
      | scalar char =>
          refine ⟨[], .scalar char :: text, rfl, ?_⟩
          rintro _ ⟨⟩
          rfl
      | surrogate offset =>
          obtain ⟨later, rest, rfl, ends⟩ := inductionHypothesis
          exact ⟨offset :: later, rest, rfl, ends⟩

theorem firstSurrogateRun_of_isFirstRun {position : Nat} {text : List CodePoint}
    {run : SurrogateRun} (first : IsFirstRun position text run) :
    firstSurrogateRun position text = some run := by
  obtain ⟨chars, offset, later, rest, rfl, ends, rfl⟩ := first
  induction chars generalizing position with
  | nil =>
      rw [List.map_nil, List.nil_append, firstSurrogateRun, takeWhile_isSurrogate later ends,
        List.length_map]
      rfl
  | cons char chars inductionHypothesis =>
      rw [List.map_cons, List.cons_append, firstSurrogateRun, inductionHypothesis,
        List.length_cons, Nat.add_right_comm, Nat.add_assoc]

theorem isFirstRun_or_chars (position : Nat) (text : List CodePoint) :
    (∃ run, IsFirstRun position text run) ∨ ∃ chars : List Char, text = chars.map .scalar := by
  induction text generalizing position with
  | nil => exact .inr ⟨[], rfl⟩
  | cons point text inductionHypothesis =>
      cases point with
      | surrogate offset =>
          obtain ⟨later, rest, rfl, ends⟩ := exists_surrogates text
          exact .inl ⟨_, [], offset, later, rest, rfl, ends, rfl⟩
      | scalar char =>
          rcases inductionHypothesis position with ⟨_, chars, offset, later, rest, same, ends, _⟩ |
            ⟨chars, rfl⟩
          · exact .inl ⟨_, char :: chars, offset, later, rest, by rw [same]; rfl, ends, rfl⟩
          · exact .inr ⟨char :: chars, rfl⟩

theorem isSurrogate_of_mem_scalars {chars : List Char} {point : CodePoint}
    (member : point ∈ chars.map CodePoint.scalar) : point.isSurrogate = false := by
  obtain ⟨char, _, rfl⟩ := List.mem_map.mp member
  rfl

theorem firstSurrogateRun_scalars (position : Nat) (chars : List Char) :
    firstSurrogateRun position (chars.map .scalar) = none := by
  induction chars generalizing position with
  | nil => rfl
  | cons char chars inductionHypothesis =>
      rw [List.map_cons, firstSurrogateRun, inductionHypothesis]

theorem scalars?_scalars (chars : List Char) : scalars? (chars.map .scalar) = some chars := by
  induction chars with
  | nil => rfl
  | cons char chars inductionHypothesis =>
      rw [List.map_cons, scalars?, inductionHypothesis]
      rfl

theorem scalars?_ofString (text : String) :
    scalars? (CodePoint.ofString text) = some text.toList :=
  scalars?_scalars text.toList

theorem string?_ofString (text : String) : string? (CodePoint.ofString text) = some text := by
  rw [string?, scalars?_ofString, Option.map_some, String.ofList_toList]

theorem scalars?_eq_some {text : List CodePoint} {chars : List Char}
    (given : scalars? text = some chars) : text = chars.map .scalar := by
  induction text generalizing chars with
  | nil =>
      cases given
      rfl
  | cons point text inductionHypothesis =>
      cases point with
      | surrogate offset => cases given
      | scalar char =>
          obtain ⟨rest, later, rfl⟩ := Option.map_eq_some_iff.mp given
          rw [inductionHypothesis later, List.map_cons]

theorem string?_eq_some_iff {text : List CodePoint} {given : String} :
    string? text = some given ↔ text = CodePoint.ofString given := by
  constructor
  · intro read
    obtain ⟨chars, scalars, rfl⟩ := Option.map_eq_some_iff.mp read
    rw [scalars?_eq_some scalars, CodePoint.ofString, String.toList_ofList]
  · rintro rfl
    exact string?_ofString given

theorem ofString_inj {first second : String} :
    CodePoint.ofString first = CodePoint.ofString second ↔ first = second := by
  constructor
  · intro same
    have texts := congrArg string? same
    rw [string?_ofString, string?_ofString] at texts
    exact Option.some.inj texts
  · exact congrArg CodePoint.ofString

theorem encode_scalars (chars : List Char) :
    encode (chars.map .scalar) = .ok (encodeChars chars) := by
  rw [encode, firstSurrogateRun_scalars, scalars?_scalars]
  rfl

theorem encode_of_isFirstRun {text : List CodePoint} {run : SurrogateRun}
    (first : IsFirstRun 0 text run) : encode text = .error run := by
  rw [encode, firstSurrogateRun_of_isFirstRun first]

theorem encode_of_forall {text : List CodePoint}
    (none : ∀ point ∈ text, point.isSurrogate = false) :
    ∃ chars : List Char, text = chars.map .scalar ∧ encode text = .ok (encodeChars chars) := by
  rcases isFirstRun_or_chars 0 text with ⟨_, chars, offset, later, rest, rfl, _⟩ | ⟨chars, rfl⟩
  · have scalar := none (.surrogate offset) (by simp)
    cases scalar
  · exact ⟨chars, rfl, encode_scalars chars⟩

theorem encode_of_exists {text : List CodePoint}
    (some : ∃ point ∈ text, point.isSurrogate = true) :
    ∃ run, IsFirstRun 0 text run ∧ encode text = .error run := by
  rcases isFirstRun_or_chars 0 text with ⟨run, first⟩ | ⟨chars, rfl⟩
  · exact ⟨run, first, encode_of_isFirstRun first⟩
  · obtain ⟨point, member, surrogate⟩ := some
    rw [isSurrogate_of_mem_scalars member] at surrogate
    cases surrogate

end PhpOutline.Text
