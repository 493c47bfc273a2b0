import PhpOutline.Proofs.Declaration.Readable
import PhpOutline.Proofs.Reading
import PhpOutline.Proofs.Text.Boundaries

namespace PhpOutline

open PhpOutline.Syntax
open PhpOutline.Text (Bytes CodePoint OnBoundary encodeChars)

variable {chars : List Char} {node : Location} {text : String}

theorem Reading.content_eq {strict : Bool} {reader : Bytes → Tree} {source : List CodePoint}
    {reading : Reading} {content : Bytes} (encoded : Text.encode source = .ok content)
    (read : Reading.ofText strict reader source = .ok reading) : reading.content = content := by
  unfold Reading.ofText at read
  rw [encoded] at read
  dsimp only at read
  split at read
  · cases read
  · cases read
    rfl

theorem text_eq_ok_iff_decode? {content : Bytes} :
    node.text content = .ok text ↔
      Text.decode? (slice content node.label.start node.label.stop) = some text.toList := by
  rw [text_eq_ok_iff]
  unfold Location.text? Location.bytes
  rw [Option.map_eq_some_iff]
  constructor
  · rintro ⟨chars, read, rfl⟩
    rw [read, String.toList_ofList]
  · intro read
    exact ⟨_, read, String.ofList_toList⟩

/-- Every text without surrogates is read as its bytes.  There a span from one position to
another has the code points between them as its text.  A span that is not empty has a text
exactly if both of its ends lie on boundaries, and never any other text. -/
theorem text_of_span {source : List CodePoint}
    (valid : ∀ point ∈ source, point.isSurrogate = false) :
    ∃ chars : List Char, source = chars.map .scalar ∧
      Text.encode source = .ok (encodeChars chars) ∧
      (∀ strict reader reading, Reading.ofText strict reader source = .ok reading →
        reading.content = encodeChars chars) ∧
      ∀ node : Location, node.label.start ≤ node.label.stop →
        node.label.stop ≤ (encodeChars chars).length →
        (∀ first last, first ≤ last → last ≤ chars.length →
          node.label.start = (encodeChars (chars.take first)).length →
          node.label.stop = (encodeChars (chars.take last)).length →
          node.text (encodeChars chars) =
            .ok (String.ofList ((chars.drop first).take (last - first)))) ∧
        (node.label.start < node.label.stop →
          ((∃ text, node.text (encodeChars chars) = .ok text) ↔
            OnBoundary chars node.label.start ∧ OnBoundary chars node.label.stop) ∧
          (∀ text, node.text (encodeChars chars) = .ok text →
            ∃ first last, first ≤ last ∧ last ≤ chars.length ∧
              node.label.start = (encodeChars (chars.take first)).length ∧
              node.label.stop = (encodeChars (chars.take last)).length ∧
              text = String.ofList ((chars.drop first).take (last - first))) ∧
          ∀ failure, node.text (encodeChars chars) = .error failure →
            ∃ part, failure = .undecodable (node.bytes (encodeChars chars)) part) := by
  obtain ⟨chars, scalars, encoded⟩ := Text.encode_of_forall valid
  refine ⟨chars, scalars, encoded, fun _ _ _ read => Reading.content_eq encoded read, ?_⟩
  intro node _ inside
  refine ⟨fun _ _ _ _ start stop => text_of_offsets start stop, ?_⟩
  intro nonempty
  have between : ∀ text, node.text (encodeChars chars) = .ok text →
      ∃ first last, first ≤ last ∧ last ≤ chars.length ∧
        node.label.start = (encodeChars (chars.take first)).length ∧
        node.label.stop = (encodeChars (chars.take last)).length ∧
        text = String.ofList ((chars.drop first).take (last - first)) := by
    intro text read
    obtain ⟨first, last, ordered, bound, start, stop, same⟩ :=
      (Text.decode?_slice_iff nonempty inside).mp (text_eq_ok_iff_decode?.mp read)
    exact ⟨first, last, ordered, bound, start, stop, by rw [← same, String.ofList_toList]⟩
  refine ⟨⟨?_, fun boundaries => text_exists boundaries.1 boundaries.2⟩, between, ?_⟩
  · rintro ⟨text, read⟩
    obtain ⟨first, last, _, _, start, stop, _⟩ := between text read
    exact ⟨⟨first, start⟩, ⟨last, stop⟩⟩
  · intro failure failed
    rcases text_cases (encodeChars chars) node with ⟨text, read⟩ | ⟨part, unread⟩
    · rw [read] at failed
      cases failed
    · rw [unread] at failed
      cases failed
      exact ⟨part, rfl⟩

/-- A name with some span. -/
def nameSpan (start stop : Nat) : Location :=
  .root (.node ⟨"name", start, stop, none, true, false, false⟩ [])

/-- Both bytes of the letter behind an `A` are a text.  The first of them alone is none, since
the bytes end there. -/
theorem text_of_span_accented :
    (∀ point ∈ ['A', 'é'].map CodePoint.scalar, point.isSurrogate = false) ∧
      Text.encode (['A', 'é'].map .scalar) = .ok [65, 195, 169] ∧
      (nameSpan 1 3).text [65, 195, 169] = .ok "é" ∧
      (∃ part, (nameSpan 1 2).text [65, 195, 169] = .error (.undecodable [195] part)) ∧
      Text.decode [195] = .error ⟨0, 1, .endOfBytes⟩ := by
  have valid : ∀ point ∈ ['A', 'é'].map CodePoint.scalar, point.isSurrogate = false := by decide
  obtain ⟨chars, scalars, encoded, _, spans⟩ := text_of_span valid
  have same := congrArg Text.scalars? scalars
  rw [Text.scalars?_scalars, Text.scalars?_scalars, Option.some.injEq] at same
  subst same
  refine ⟨valid, encoded, ?_, ?_, by decide +kernel⟩
  · exact (spans (nameSpan 1 3) (by decide) (by decide)).1 1 2 (by decide) (by decide) (by decide)
      (by decide)
  · have cut := (spans (nameSpan 1 2) (by decide) (by decide)).2 (by decide)
    rcases text_cases (encodeChars ['A', 'é']) (nameSpan 1 2) with read | unread
    · exact absurd (cut.1.mp read) (by decide)
    · exact unread

end PhpOutline
