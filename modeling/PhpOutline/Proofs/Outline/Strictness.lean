import PhpOutline.Proofs.Outline.Entries

namespace PhpOutline

open PhpOutline.Syntax
open PhpOutline.Syntax.Location (Within)
open PhpOutline.Text (Bytes CodePoint)

variable {σ ε α : Type} {reader : Bytes → Tree}

namespace Reading

/-- A strict reading refuses a tree that tells of a fault, and is the lenient one of any
other tree. -/
theorem ofText_scalars (reader : Bytes → Tree) (chars : List Char) :
    let reading : Reading := ⟨Text.encodeChars chars, reader (Text.encodeChars chars)⟩
    ofText false reader (chars.map .scalar) = .ok reading ∧
      ofText true reader (chars.map .scalar) =
        if reading.root.hasFault = true then .error (.faulty reading.faultPosition?)
        else .ok reading :=
  ⟨ofText_lenient reader (Text.encode_scalars chars),
    ofText_strict reader (Text.encode_scalars chars)⟩

theorem of_strict {text : List CodePoint} {reading : Reading}
    (read : ofText true reader text = .ok reading) :
    ofText false reader text = .ok reading ∧ reading.root.hasFault = false := by
  cases encoded : Text.encode text with
  | error run => simp [ofText_surrogates true reader encoded] at read
  | ok content =>
      rw [ofText_lenient reader encoded]
      rw [ofText_strict reader encoded] at read
      split at read
      · cases read
      · rename_i faultless
        cases read
        exact ⟨rfl, Bool.eq_false_iff.mpr faultless⟩

theorem map_here_statements (reading : Reading) :
    reading.statements.map Location.here = reading.root.children.filter Tree.isNamed :=
  (Location.root reading.root).map_here_namedChildren

end Reading

namespace Frontend

variable {first second : Frontend} {document : Document}

theorem read_of_strict {reading : Reading}
    (read : Reading.ofText true reader document.text = .ok reading) :
    Frontend.read ⟨true, reader⟩ document = Frontend.read ⟨false, reader⟩ document := by
  rw [Frontend.read, Frontend.read, read, (Reading.of_strict read).1]

theorem searchWith_congr [HasErrors ε] (same : first.read document = second.read document)
    (conversion : Bytes → Conversion σ ε α) (failed : Failure → ε) (category : Category)
    (state : σ) :
    first.searchWith conversion failed document category state =
      second.searchWith conversion failed document category state := by
  rw [searchWith, searchWith, same]

theorem lookupWith_congr [HasErrors ε] (same : first.read document = second.read document)
    (conversion : Bytes → Conversion σ ε Entry) (failed : Failure → ε) (query : Query)
    (state : σ) :
    first.lookupWith conversion failed document query state =
      second.lookupWith conversion failed document query state := by
  rw [lookupWith, lookupWith, searchWith_congr same]

end Frontend

/-- The outcome of a reading, by the text, the tree and the strictness; and what a strict
reading that succeeds means for the nodes of the tree, and for all that is looked for. -/
theorem readings_agree :
    (∀ text : List CodePoint, (∃ point ∈ text, point.isSurrogate = true) →
      ∃ run, Text.IsFirstRun 0 text run ∧
        (∀ strict reader, Reading.ofText strict reader text = .error (.surrogates run)) ∧
        (ReadingFault.surrogates run).report = .unreadable
          (.ofStrings "Failed to encode source text"
            (some (ReadingFault.surrogateDetails run)))
          none none) ∧
    (∀ text : List CodePoint, (∀ point ∈ text, point.isSurrogate = false) →
      ∃ chars : List Char, text = chars.map .scalar ∧ ∀ reader : Bytes → Tree,
        let reading : Reading := ⟨Text.encodeChars chars, reader (Text.encodeChars chars)⟩
        Reading.ofText false reader text = .ok reading ∧
        reading.statements.map Location.here = reading.root.children.filter Tree.isNamed ∧
        (reading.root.hasFault = false → Reading.ofText true reader text = .ok reading) ∧
        (reading.root.hasFault = true →
          ∃ position details line column,
            Reading.ofText true reader text = .error (.faulty position) ∧
            (ReadingFault.faulty position).report =
              .unreadable (.ofStrings "Source contains syntax errors" (some details))
                line column)) ∧
    ∀ (reader : Bytes → Tree) (document : Document) (reading : Reading),
      Reading.ofText true reader document.text = .ok reading →
        (∀ node, Within reading.root node →
          node.type ≠ "ERROR" ∧ node.label.missing = false) ∧
        (∀ (converter : Converter) (category : Category),
          outline ⟨true, reader⟩ converter document category =
            outline ⟨false, reader⟩ converter document category) ∧
        (∀ (converter : Converter) (query : Query),
          lookup ⟨true, reader⟩ converter document query =
            lookup ⟨false, reader⟩ converter document query) ∧
        (∀ (σ ε α : Type) [HasErrors ε] (conversion : Bytes → Conversion σ ε α)
          (failed : Failure → ε) (category : Category) (state : σ),
          Frontend.searchWith ⟨true, reader⟩ conversion failed document category state =
            Frontend.searchWith ⟨false, reader⟩ conversion failed document category state) ∧
        ∀ (σ ε : Type) [HasErrors ε] (conversion : Bytes → Conversion σ ε Entry)
          (failed : Failure → ε) (query : Query) (state : σ),
          Frontend.lookupWith ⟨true, reader⟩ conversion failed document query state =
            Frontend.lookupWith ⟨false, reader⟩ conversion failed document query state := by
  refine ⟨?_, ?_, ?_⟩
  · intro text surrogate
    obtain ⟨run, first, unreadable⟩ := Text.encode_of_exists surrogate
    exact ⟨run, first, fun strict reader => Reading.ofText_surrogates strict reader unreadable, rfl⟩
  · intro text scalar
    obtain ⟨chars, rfl, _⟩ := Text.encode_of_forall scalar
    refine ⟨chars, rfl, fun reader => ?_⟩
    obtain ⟨lenient, strict⟩ := Reading.ofText_scalars reader chars
    refine ⟨lenient, Reading.map_here_statements _, ?_, ?_⟩
    · intro faultless
      rw [strict, if_neg (Bool.eq_false_iff.mp faultless)]
    · intro faulty
      rw [strict, if_pos faulty]
      exact ⟨_, _, _, _, rfl, rfl⟩
  · intro reader document reading read
    have same := Frontend.read_of_strict read
    refine ⟨?_, ?_, ?_, fun _ _ _ _ => Frontend.searchWith_congr same,
      fun _ _ _ => Frontend.lookupWith_congr same⟩
    · intro node within
      have sound := isFault_of_faultless (Reading.of_strict read).2 within
      simp only [Location.isFault, Tree.isFault, Bool.or_eq_false_iff, beq_eq_false_iff_ne] at sound
      exact sound
    · intro converter category
      rw [outline, outline, Frontend.searchWith_congr same]
    · intro converter query
      rw [lookup, lookup, Frontend.lookupWith_congr same]

/-- A class whose closing bracket is there, or is missing. -/
def bracketClass (missing : Bool) : Tree :=
  .node ⟨"program", 0, 2, none, true, false, false⟩
    [.node ⟨"class_declaration", 0, 2, none, true, false, false⟩
      [.node ⟨"name", 0, 1, some "name", true, false, false⟩ [],
      .node ⟨"\x7d", 1, 2, none, false, missing, false⟩ []]]

def bracketDocument : Document :=
  .ofChars 'A' ['\x7d']

/-- With the missing bracket only the lenient reading succeeds; without it both do, and find
the same class. -/
theorem readings_bracketClass :
    (∃ run, Text.IsFirstRun 0 [.scalar 'A', .surrogate 5] run ∧
      ∀ strict reader,
        Reading.ofText strict reader [.scalar 'A', .surrogate 5] = .error (.surrogates run)) ∧
    (∃ chars : List Char, bracketDocument.text = chars.map .scalar ∧
      Reading.ofText false (fun _ => bracketClass true) bracketDocument.text =
        .ok ⟨Text.encodeChars chars, bracketClass true⟩ ∧
      ∃ position, Reading.ofText true (fun _ => bracketClass true) bracketDocument.text =
        .error (.faulty position)) ∧
    Reading.ofText true (fun _ => bracketClass false) bracketDocument.text =
      .ok ⟨[65, 125], bracketClass false⟩ ∧
    (∀ node, Within (bracketClass false) node →
      node.type ≠ "ERROR" ∧ node.label.missing = false) ∧
    outline ⟨true, fun _ => bracketClass false⟩ (.standard "class@anonymous") bracketDocument
        .classLike =
      outline ⟨false, fun _ => bracketClass false⟩ (.standard "class@anonymous") bracketDocument
        .classLike := by
  obtain ⟨surrogates, scalars, agree⟩ := readings_agree
  have read : Reading.ofText true (fun _ => bracketClass false) bracketDocument.text =
      .ok ⟨[65, 125], bracketClass false⟩ :=
    rfl
  obtain ⟨run, first, refused, _⟩ := surrogates [.scalar 'A', .surrogate 5] (by decide)
  obtain ⟨chars, text, readings⟩ := scalars bracketDocument.text (by decide)
  obtain ⟨lenient, _, _, strict⟩ := readings fun _ => bracketClass true
  obtain ⟨position, _, _, _, faulty, _⟩ := strict rfl
  obtain ⟨sound, outlines, _⟩ := agree (fun _ => bracketClass false) bracketDocument _ read
  exact ⟨⟨run, first, refused⟩, ⟨chars, text, lenient, position, faulty⟩, read, sound,
    outlines _ _⟩

end PhpOutline
