import Mathlib.Data.List.Induction
import PhpOutline.Proofs.Declaration.DefineEntries

namespace PhpOutline

/-! Names in single quotes.

Between single quotes a backslash escapes a quote or another backslash, and stands for itself
before anything else.  The name of a `define` call keeps the backslash of an escaped quote, and
all quotes of a literal that is marked as binary.
-/

open PhpOutline.Syntax
open PhpOutline.Text (Bytes)

/-- A character between single quotes, which may be an escaped one. -/
inductive Piece where
  | plain (char : Char)
  | escaped (char : Char)
deriving DecidableEq, Repr

namespace Piece

/-- What the piece stands for. -/
def value : Piece → Char
  | .plain char => char
  | .escaped char => char

/-- What a name has of the piece: the backslash goes only where it escapes another one. -/
def kept : Piece → List Char
  | .plain char => [char]
  | .escaped char => if char = separator then [separator] else [separator, char]

end Piece

/-- The pieces of a text between single quotes, from the left. -/
def pieces : List Char → List Piece
  | first :: second :: rest =>
      if first = separator ∧ (second = separator ∨ second = '\'') then
        .escaped second :: pieces rest
      else .plain first :: pieces (second :: rest)
  | chars => chars.map .plain

/-- A literal in single quotes, with the mark of a binary string in front or without.  Nothing is
asked of the text between the quotes. -/
structure SingleQuoted where
  mark : Option Char
  body : List Char
  isMark : ∀ char, mark = some char → char = 'b' ∨ char = 'B'

namespace SingleQuoted

def written (literal : SingleQuoted) : String :=
  String.ofList literal.mark.toList ++ inQuotes '\'' literal.body

/-- The string that the literal stands for. -/
def value (literal : SingleQuoted) : String :=
  String.ofList ((pieces literal.body).map Piece.value)

/-- What a `define` call makes of the literal. -/
def recorded (literal : SingleQuoted) : String :=
  match literal.mark with
  | none => dropSeparators (String.ofList ((pieces literal.body).flatMap Piece.kept))
  | some mark =>
      String.ofList [mark] ++ inQuotes '\'' ((pieces literal.body).flatMap Piece.kept)

/-- No escaped quote comes after the first character that is no separator. -/
def QuotesInFront (literal : SingleQuoted) : Prop :=
  .escaped '\'' ∉ ((pieces literal.body).dropWhile fun piece => piece.value == separator).tail

end SingleQuoted

section Pieces

variable {items : List Piece} {body : List Char}

/-- Making pairs of separators single keeps of every piece what a name has of it. -/
theorem collapseSeparators_eq_flatMap (body : List Char) :
    collapseSeparators body = (pieces body).flatMap Piece.kept := by
  induction body using pieces.induct with
  | case1 first second rest isEscape inductionHypothesis =>
      rw [pieces, if_pos isEscape, List.flatMap_cons, ← inductionHypothesis]
      obtain ⟨rfl, rfl | rfl⟩ := isEscape
      · exact collapseSeparators_double
      · rw [collapseSeparators_single (by simp [separator]), collapseSeparators_cons (by decide)]
        rfl
  | case2 first second rest noEscape inductionHypothesis =>
      have noPair : ¬ (first = separator ∧ second = separator) := fun pair =>
        noEscape ⟨pair.1, .inl pair.2⟩
      rw [pieces, if_neg noEscape, List.flatMap_cons, ← inductionHypothesis, collapseSeparators,
        if_neg noPair]
      rfl
  | case3 chars short => rcases eq_nil_or_singleton short with rfl | ⟨single, rfl⟩ <;> rfl

theorem escaped_of_mem_pieces {char : Char} (member : .escaped char ∈ pieces body) :
    char = separator ∨ char = '\'' := by
  induction body using pieces.induct with
  | case1 first second rest isEscape inductionHypothesis =>
      rw [pieces, if_pos isEscape] at member
      rcases List.mem_cons.mp member with same | later
      · cases same
        exact isEscape.2
      · exact inductionHypothesis later
  | case2 first second rest noEscape inductionHypothesis =>
      rw [pieces, if_neg noEscape] at member
      rcases List.mem_cons.mp member with same | later
      · cases same
      · exact inductionHypothesis later
  | case3 chars short =>
      rcases eq_nil_or_singleton short with rfl | ⟨single, rfl⟩
      · cases member
      · simp [pieces] at member

theorem Piece.kept_cases (piece : Piece) :
    piece.kept = [piece.value] ∨
      piece.kept = [separator, piece.value] ∧ piece.value ≠ separator := by
  cases piece with
  | plain char => exact .inl rfl
  | escaped char =>
      by_cases same : char = separator
      · exact .inl (by simp [kept, value, same])
      · exact .inr ⟨by simp [kept, value, same], same⟩

/-- All of the pieces that a text has but an escaped quote are kept as what they stand for. -/
theorem kept_eq_iff_of_mem_pieces {piece : Piece} (member : piece ∈ pieces body) :
    piece.kept = [piece.value] ↔ piece ≠ .escaped '\'' := by
  cases piece with
  | plain char => simp [Piece.kept, Piece.value]
  | escaped char =>
      rcases escaped_of_mem_pieces member with rfl | rfl
      · decide
      · decide

/-- The separators in front of a name are those of its value, apart from the backslash of an
escaped quote, which goes with them. -/
theorem dropWhile_flatMap_kept (items : List Piece) :
    (items.flatMap Piece.kept).dropWhile (· == separator) =
      match items.dropWhile fun piece => piece.value == separator with
      | [] => []
      | first :: rest => first.value :: rest.flatMap Piece.kept := by
  induction items with
  | nil => rfl
  | cons piece rest inductionHypothesis =>
      rw [List.flatMap_cons, List.dropWhile_cons]
      rcases piece.kept_cases with single | ⟨double, other⟩
      · by_cases same : piece.value = separator
        · rw [single, same, List.singleton_append, List.dropWhile_cons_of_pos (by simp),
            inductionHypothesis, if_pos (by simp)]
        · rw [single, List.singleton_append, List.dropWhile_cons_of_neg (by simp [same]),
            if_neg (by simp [same])]
      · rw [double, List.cons_append, List.dropWhile_cons_of_pos (by simp), List.singleton_append,
          List.dropWhile_cons_of_neg (by simp [other]), if_neg (by simp [other])]

theorem flatMap_kept_eq_map_iff :
    items.flatMap Piece.kept = items.map Piece.value ↔
      ∀ piece ∈ items, piece.kept = [piece.value] := by
  induction items with
  | nil => simp
  | cons piece rest inductionHypothesis =>
      rw [List.flatMap_cons, List.map_cons, List.forall_mem_cons]
      rcases piece.kept_cases with single | ⟨double, other⟩
      · rw [single, List.singleton_append, List.cons.injEq, and_iff_right rfl,
          and_iff_right rfl, inductionHypothesis]
      · rw [double, List.cons_append, List.cons.injEq]
        simp [Ne.symm other]

theorem length_map_le_flatMap_kept (items : List Piece) :
    (items.map Piece.value).length ≤ (items.flatMap Piece.kept).length := by
  induction items with
  | nil => exact Nat.le_refl _
  | cons piece rest inductionHypothesis =>
      rw [List.map_cons, List.flatMap_cons, List.length_cons, List.length_append]
      rcases piece.kept_cases with single | ⟨double, _⟩
      · rw [single, List.length_singleton]
        omega
      · rw [double, List.length_cons, List.length_singleton]
        omega

theorem getLast?_flatMap_kept (items : List Piece) :
    (items.flatMap Piece.kept).getLast? = (items.map Piece.value).getLast? := by
  induction items using List.reverseRecOn with
  | nil => rfl
  | append_singleton before last _ =>
      rw [List.flatMap_append, List.flatMap_singleton, List.map_append, List.map_singleton,
        List.getLast?_concat]
      rcases last.kept_cases with single | ⟨double, _⟩
      · rw [single, List.getLast?_concat]
      · rw [double, List.getLast?_append_cons]
        rfl

end Pieces

theorem collapseSeparators_concat {char : Char} (other : char ≠ separator)
    (chars : List Char) :
    collapseSeparators (chars ++ [char]) = collapseSeparators chars ++ [char] := by
  induction chars using collapseSeparators.induct with
  | case1 first second rest both inductionHypothesis =>
      obtain ⟨rfl, rfl⟩ := both
      rw [List.cons_append, List.cons_append, collapseSeparators_double, inductionHypothesis,
        collapseSeparators_double, List.cons_append]
  | case2 first second rest noPair inductionHypothesis =>
      rw [List.cons_append, List.cons_append, collapseSeparators, if_neg noPair,
        ← List.cons_append, inductionHypothesis, collapseSeparators, if_neg noPair,
        List.cons_append]
  | case3 chars short =>
      rcases eq_nil_or_singleton short with rfl | ⟨single, rfl⟩
      · rfl
      · simp [collapseSeparators, other]

theorem unquote_of_noQuote {opening : Char} (noQuote : opening ≠ '\'' ∧ opening ≠ '"')
    (rest : List Char) :
    unquote (String.ofList (opening :: rest)) = String.ofList (opening :: rest) := by
  unfold unquote
  rw [String.toList_ofList]
  cases rest with
  | nil => rfl
  | cons second rest => simp [noQuote.1, noQuote.2]

namespace SingleQuoted

variable {literal : SingleQuoted}

theorem literalName_written (literal : SingleQuoted) :
    literalName literal.written = literal.recorded := by
  obtain ⟨mark, body, isMark⟩ := literal
  cases mark with
  | none =>
      have inside := unquote_inQuotes (.inl rfl : '\'' = '\'' ∨ '\'' = '"') body
      simp only [written, recorded, Option.toList_none, String.ofList_nil, String.empty_append,
        literalName, inside, String.toList_ofList, collapseSeparators_eq_flatMap]
  | some mark =>
      have noQuote : mark ≠ '\'' ∧ mark ≠ '"' := by
        rcases isMark mark rfl with rfl | rfl <;> decide
      have noSeparator : mark ≠ separator := by
        rcases isMark mark rfl with rfl | rfl <;> decide
      have spelled (inner : List Char) : String.ofList [mark] ++ inQuotes '\'' inner =
          String.ofList (mark :: '\'' :: (inner ++ ['\''])) := by
        rw [inQuotes, ← String.ofList_append]
        rfl
      have bare : IsBare (String.ofList
          (mark :: '\'' :: ((pieces body).flatMap Piece.kept ++ ['\'']))) := by
        rw [IsBare, String.toList_ofList]
        simpa using noSeparator
      simp only [written, recorded, Option.toList_some]
      rw [spelled, spelled, literalName, unquote_of_noQuote noQuote, String.toList_ofList,
        collapseSeparators_cons noSeparator, collapseSeparators_cons (by decide),
        collapseSeparators_concat (by decide), collapseSeparators_eq_flatMap,
        dropSeparators_of_isBare bare]

/-- A mark adds three characters, which no value has. -/
theorem recorded_ne_of_mark {mark : Char} (marked : literal.mark = some mark) :
    literal.recorded ≠ dropSeparators literal.value := by
  intro same
  have length := congrArg (fun text => text.toList.length) same
  have notMore := length_map_le_flatMap_kept (pieces literal.body)
  have dropped := List.length_dropWhile_le (· == separator)
    ((pieces literal.body).map Piece.value)
  simp only [recorded, marked, value, inQuotes, dropSeparators, Text.dropLeading,
    String.toList_append, String.toList_ofList, List.length_append, List.length_cons,
    List.length_nil] at length
  omega

theorem recorded_eq_iff (literal : SingleQuoted) :
    literal.recorded = dropSeparators literal.value ↔
      literal.mark = none ∧ literal.QuotesInFront := by
  cases marked : literal.mark with
  | some mark => simp [recorded_ne_of_mark marked]
  | none =>
      rw [and_iff_right rfl, recorded, marked, value, QuotesInFront]
      simp only [dropSeparators, Text.dropLeading, String.toList_ofList, String.ofList_inj,
        dropWhile_flatMap_kept, List.dropWhile_map]
      have within : ∀ piece ∈ (pieces literal.body).dropWhile
          (fun piece => piece.value == separator), piece ∈ pieces literal.body :=
        fun piece member => (List.dropWhile_suffix _).subset member
      rw [show ((· == separator) ∘ Piece.value) = fun piece => piece.value == separator from rfl]
      cases kept : (pieces literal.body).dropWhile (fun piece => piece.value == separator) with
      | nil => simp
      | cons first rest =>
          rw [List.map_cons, List.cons.injEq, and_iff_right rfl, flatMap_kept_eq_map_iff,
            List.tail_cons]
          have restWithin : ∀ piece ∈ rest, piece ∈ pieces literal.body := fun piece member =>
            within piece (by rw [kept]; exact List.mem_cons_of_mem _ member)
          constructor
          · intro same member
            exact (kept_eq_iff_of_mem_pieces (restWithin _ member)).mp (same _ member) rfl
          · intro absent piece member
            rw [kept_eq_iff_of_mem_pieces (restWithin piece member)]
            rintro rfl
            exact absent member

theorem splitName_recorded_eq_empty_iff (literal : SingleQuoted) :
    (splitName literal.recorded).2 = "" ↔
      literal.mark = none ∧ (splitName (dropSeparators literal.value)).2 = "" := by
  cases marked : literal.mark with
  | none =>
      rw [and_iff_right rfl, recorded, marked, value, splitName_dropSeparators_eq_empty_iff,
        splitName_dropSeparators_eq_empty_iff, getLast?_flatMap_kept]
  | some mark =>
      have closed : literal.recorded.toList.getLast? = some '\'' := by
        rw [recorded, marked, inQuotes, String.toList_append, String.toList_ofList,
          String.toList_ofList, ← List.append_assoc, List.getLast?_concat]
      rw [← String.isEmpty_iff, splitName_shortName_isEmpty, closed]
      cases chars : literal.recorded.toList with
      | nil => simp [chars] at closed
      | cons first rest => simp [separator]

end SingleQuoted

/-- A `define` call whose name stands in single quotes has an entry of what is made of the
literal.  That is the string that the literal stands for, without separators in front, exactly
if there is no mark and no escaped quote but in front.  There is no last part of it exactly if
there is no mark and the string has none. -/
theorem define_singleQuoted {content : Bytes} (origin : Option String)
    {node name value : Location} {others : List Location} {converter : Converter}
    (takes : converter.takes .define = true) (define : node.kind content = .define)
    (arguments : node.argumentValues = name :: value :: others)
    (literal : SingleQuoted) (read : name.text content = .ok literal.written) :
    (literal.recorded = dropSeparators literal.value ↔
      literal.mark = none ∧ literal.QuotesInFront) ∧
    ((splitName literal.recorded).2 = "" ↔
      literal.mark = none ∧ (splitName (dropSeparators literal.value)).2 = "") ∧
    DefinesAs content origin node value literal.recorded
      (converter.convert content origin node) := by
  have outcome := definesAs_of_literal origin takes define arguments read
  rw [literal.literalName_written] at outcome
  exact ⟨literal.recorded_eq_iff, literal.splitName_recorded_eq_empty_iff, outcome⟩

/-- The string `A's`, as a binary one. -/
def markedLiteral : SingleQuoted where
  mark := some 'b'
  body := ['A', '\\', '\'', 's']
  isMark := fun _ same => .inl (Option.some.inj same).symm

theorem define_singleQuoted_marked :
    (Converter.standard "class@anonymous").takes .define = true ∧
      (defineCall [] 0 14 16).kind (defineContent [] markedLiteral.written.toList ['1']) =
        .define ∧
      (defineCall [] 0 14 16).argumentValues.map
          (Location.text (defineContent [] markedLiteral.written.toList ['1'])) =
        [.ok markedLiteral.written, .ok "1"] ∧
      markedLiteral.recorded ≠ dropSeparators markedLiteral.value ∧
      (Converter.standard "class@anonymous").convert
          (defineContent [] markedLiteral.written.toList ['1']) none (defineCall [] 0 14 16) =
        .ok (.constant ⟨⟨"b'A\\'s'", "'s'", some "b'A", none, 1, 1, none⟩, "1", true⟩) := by
  have takes : (Converter.standard "class@anonymous").takes .define = true := by decide
  have define : (defineCall [] 0 14 16).kind
      (defineContent [] markedLiteral.written.toList ['1']) = .define := by decide +kernel
  obtain ⟨exact, _, outcome⟩ :=
    define_singleQuoted none takes define rfl markedLiteral (by decide +kernel)
  have converted := outcome.entry (by decide +kernel) "1" none (by decide +kernel)
    (by decide +kernel)
  refine ⟨takes, define, by decide +kernel, fun same => (nomatch (exact.mp same).1), ?_⟩
  rw [converted]
  decide +kernel

/-- The string `it's`. -/
def escapedLiteral : SingleQuoted where
  mark := none
  body := ['i', 't', '\\', '\'', 's']
  isMark := nofun

/-- The backslash of the escaped quote is taken for a separator. -/
theorem define_escapedQuote :
    (defineCall [] 0 14 16).kind (defineContent [] escapedLiteral.written.toList ['1']) =
        .define ∧
      (defineCall [] 0 14 16).argumentValues.map
          (Location.text (defineContent [] escapedLiteral.written.toList ['1'])) =
        [.ok escapedLiteral.written, .ok "1"] ∧
      escapedLiteral.value = "it's" ∧ splitName (dropSeparators "it's") = ("", "it's") ∧
      Converter.constant.convert (defineContent [] escapedLiteral.written.toList ['1']) none
          (defineCall [] 0 14 16) =
        .ok (.constant ⟨⟨"it\\'s", "'s", some "it", none, 1, 1, none⟩, "1", true⟩) := by
  decide +kernel

end PhpOutline
