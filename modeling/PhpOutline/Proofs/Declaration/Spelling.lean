import PhpOutline.Proofs.Declaration.FullNames

namespace PhpOutline

open PhpOutline.Syntax
open PhpOutline.Text (Bytes)

def inQuotes (quote : Char) (inner : List Char) : String :=
  String.ofList (quote :: inner ++ [quote])

/-- Segments with a separator before each, which is doubled where it is marked. -/
def spelledLater (later : List (Bool × String)) : List Char :=
  later.flatMap fun (doubled, segment) =>
    (if doubled then [separator, separator] else [separator]) ++ segment.toList

/-- A way to write a name of one segment or more in quotes. -/
structure Spelling where
  quote : Char
  leading : Nat
  first : String
  later : List (Bool × String)
  isQuote : quote = '\'' ∨ quote = '"'
  proper : ∀ segment ∈ first :: later.map Prod.snd, segment ≠ "" ∧ separator ∉ segment.toList

namespace Spelling

def segments (spelling : Spelling) : List String :=
  spelling.first :: spelling.later.map Prod.snd

def literal (spelling : Spelling) : String :=
  inQuotes spelling.quote <|
    List.replicate spelling.leading separator ++
      (spelling.first.toList ++ spelledLater spelling.later)

def name (spelling : Spelling) : String :=
  "\\".intercalate spelling.segments

def shortName (spelling : Spelling) : String :=
  spelling.segments.getLast (List.cons_ne_nil _ _)

def namespaceName (spelling : Spelling) : Option String :=
  if spelling.later = [] then none else some ("\\".intercalate spelling.segments.dropLast)

end Spelling

theorem unquote_inQuotes {quote : Char} (isQuote : quote = '\'' ∨ quote = '"')
    (inner : List Char) : unquote (inQuotes quote inner) = String.ofList inner := by
  have last : (inner ++ [quote]).getLast? = some quote := by simp
  unfold unquote inQuotes
  rw [String.toList_ofList]
  cases chars : inner ++ [quote] with
  | nil => simp at chars
  | cons char rest =>
      rw [chars] at last
      have inside : (char :: rest).dropLast = inner := by rw [← chars]; simp
      rcases isQuote with rfl | rfl <;> simp [chars, last, inside]

theorem eq_nil_or_singleton {items : List α}
    (short : ∀ first second rest, items = first :: second :: rest → False) :
    items = [] ∨ ∃ single, items = [single] := by
  cases items with
  | nil => exact .inl rfl
  | cons first rest =>
      cases rest with
      | nil => exact .inr ⟨first, rfl⟩
      | cons second rest => exact (short first second rest rfl).elim

section Separators

variable {chars rest : List Char}

theorem collapseSeparators_cons {char : Char} (other : char ≠ separator) :
    collapseSeparators (char :: rest) = char :: collapseSeparators rest := by
  cases rest with
  | nil => simp [collapseSeparators]
  | cons next rest => simp [collapseSeparators, other]

theorem collapseSeparators_free (free : separator ∉ chars) :
    collapseSeparators (chars ++ rest) = chars ++ collapseSeparators rest := by
  induction chars with
  | nil => rfl
  | cons char chars inductionHypothesis =>
      simp only [List.mem_cons, not_or] at free
      rw [List.cons_append, collapseSeparators_cons (Ne.symm free.1), inductionHypothesis free.2,
        List.cons_append]

theorem collapseSeparators_single (bare : chars.head? ≠ some separator) :
    collapseSeparators (separator :: chars) = separator :: collapseSeparators chars := by
  cases chars with
  | nil => simp [collapseSeparators]
  | cons char chars =>
      have other : char ≠ separator := by simpa using bare
      simp [collapseSeparators, other]

theorem collapseSeparators_double :
    collapseSeparators (separator :: separator :: chars) = separator :: collapseSeparators chars := by
  simp [collapseSeparators]

theorem collapseSeparators_leading (bare : chars.head? ≠ some separator) (count : Nat) :
    ∃ fewer, collapseSeparators (List.replicate count separator ++ chars) =
      List.replicate fewer separator ++ collapseSeparators chars := by
  induction count using Nat.twoStepInduction with
  | zero => exact ⟨0, rfl⟩
  | one => exact ⟨1, by simpa using collapseSeparators_single bare⟩
  | more count inductionHypothesis _ =>
      obtain ⟨fewer, same⟩ := inductionHypothesis
      refine ⟨fewer + 1, ?_⟩
      rw [List.replicate_succ, List.replicate_succ, List.cons_append, List.cons_append,
        collapseSeparators_double, same, List.replicate_succ, List.cons_append]

theorem getLast?_collapseSeparators (chars : List Char) :
    (collapseSeparators chars).getLast? = chars.getLast? := by
  induction chars using collapseSeparators.induct with
  | case1 first second rest both inductionHypothesis =>
      rw [both.1, both.2, collapseSeparators_double, List.getLast?_cons, inductionHypothesis,
        List.getLast?_cons_cons, ← List.getLast?_cons]
  | case2 first second rest other inductionHypothesis =>
      rw [collapseSeparators, if_neg other, List.getLast?_cons,
        inductionHypothesis, ← List.getLast?_cons]
  | case3 chars short => rcases eq_nil_or_singleton short with rfl | ⟨single, rfl⟩ <;> rfl

theorem head?_append_of_free {segment : String} (given : segment ≠ "")
    (free : separator ∉ segment.toList) (rest : List Char) :
    (segment.toList ++ rest).head? ≠ some separator := by
  cases chars : segment.toList with
  | nil => exact absurd (String.toList_eq_nil_iff.mp chars) given
  | cons char others =>
      simp only [chars, List.mem_cons, not_or] at free
      simpa using Ne.symm free.1

/-- Text without separators, and then segments however they are spelled. -/
theorem collapseSeparators_spelled {first : List Char} {later : List (Bool × String)}
    (free : separator ∉ first)
    (proper : ∀ segment ∈ later.map Prod.snd, segment ≠ "" ∧ separator ∉ segment.toList) :
    collapseSeparators (first ++ spelledLater later) =
      first ++ later.flatMap fun part => separator :: part.2.toList := by
  rw [collapseSeparators_free free]
  congr 1
  induction later with
  | nil => rfl
  | cons part later inductionHypothesis =>
      obtain ⟨doubled, segment⟩ := part
      simp only [List.map_cons, List.forall_mem_cons] at proper
      obtain ⟨⟨given, segmentFree⟩, properLater⟩ := proper
      have read : collapseSeparators (segment.toList ++ spelledLater later) = segment.toList ++
          later.flatMap fun part => separator :: part.2.toList := by
        rw [collapseSeparators_free segmentFree, inductionHypothesis properLater]
      have single := collapseSeparators_single
        (head?_append_of_free given segmentFree (spelledLater later))
      rw [List.flatMap_cons, List.cons_append, ← read]
      cases doubled with
      | false => simpa [spelledLater] using single
      | true => simp [spelledLater, collapseSeparators_double]

end Separators

theorem toList_intercalate_cons (first : String) (later : List String) :
    ("\\".intercalate (first :: later)).toList =
      first.toList ++ later.flatMap fun segment => separator :: segment.toList := by
  induction later generalizing first with
  | nil => simp
  | cons segment later inductionHypothesis =>
      have rest := inductionHypothesis segment
      rw [String.toList_intercalate] at rest ⊢
      rw [List.map_cons, List.map_cons, List.intercalate_cons_cons, ← List.map_cons, rest]
      simp [separator]

theorem toList_intercalate_concat {segments : List String} (several : segments ≠ [])
    (last : String) :
    ("\\".intercalate (segments ++ [last])).toList =
      ("\\".intercalate segments).toList ++ separator :: last.toList := by
  cases segments with
  | nil => exact absurd rfl several
  | cons first later =>
      rw [List.cons_append, toList_intercalate_cons, toList_intercalate_cons]
      simp

namespace Spelling

theorem toList_name (spelling : Spelling) :
    spelling.name.toList =
      spelling.first.toList ++ spelling.later.flatMap fun part => separator :: part.2.toList := by
  rw [name, segments, toList_intercalate_cons, List.flatMap_map]

theorem literalName_literal (spelling : Spelling) :
    literalName spelling.literal = spelling.name := by
  obtain ⟨given, free⟩ := spelling.proper spelling.first List.mem_cons_self
  have bare (rest : List Char) := head?_append_of_free given free rest
  obtain ⟨fewer, collapsed⟩ :=
    collapseSeparators_leading (bare (spelledLater spelling.later)) spelling.leading
  have spelled := collapseSeparators_spelled free fun segment member =>
    spelling.proper segment (List.mem_cons_of_mem _ member)
  rw [spelled, ← spelling.toList_name] at collapsed
  have nameBare : IsBare spelling.name := by
    rw [IsBare, spelling.toList_name]
    exact bare _
  rw [literalName, literal, unquote_inQuotes spelling.isQuote, String.toList_ofList, collapsed]
  exact dropSeparators_underSeparators nameBare fewer

theorem segments_eq (spelling : Spelling) :
    spelling.segments = spelling.segments.dropLast ++ [spelling.shortName] :=
  (List.dropLast_append_getLast (List.cons_ne_nil _ _)).symm

theorem dropLast_segments {spelling : Spelling} (several : spelling.later ≠ []) :
    ∃ others, spelling.segments.dropLast = spelling.first :: others := by
  unfold segments
  cases later : spelling.later with
  | nil => exact absurd later several
  | cons part rest => simp

theorem splitName_name (spelling : Spelling) :
    splitName spelling.name = (spelling.namespaceName.getD "", spelling.shortName) := by
  have split : SplitsAtLast separator spelling.name.toList
      (spelling.namespaceName.getD "").toList spelling.shortName.toList := by
    refine ⟨(spelling.proper _ (List.getLast_mem _)).2, ?_⟩
    by_cases single : spelling.later = []
    · simp [name, namespaceName, shortName, segments, single]
    · right
      obtain ⟨others, before⟩ := dropLast_segments single
      have several : spelling.segments.dropLast ≠ [] := by simp [before]
      rw [name, segments_eq, toList_intercalate_concat several, namespaceName, if_neg single]
      rfl
  rw [splitName_of_splitsAtLast split, String.ofList_toList, String.ofList_toList]

theorem namespaceName_ne_empty (spelling : Spelling) : spelling.namespaceName ≠ some "" := by
  by_cases single : spelling.later = []
  · simp [namespaceName, single]
  · obtain ⟨others, before⟩ := dropLast_segments single
    intro empty
    rw [namespaceName, if_neg single, before, Option.some.injEq] at empty
    have chars := toList_intercalate_cons spelling.first others
    rw [empty] at chars
    have firstEmpty := (List.append_eq_nil_iff.mp chars.symm).1
    exact (spelling.proper _ List.mem_cons_self).1 (String.toList_eq_nil_iff.mp firstEmpty)

theorem shortName_ne_empty (spelling : Spelling) : spelling.shortName ≠ "" :=
  (spelling.proper _ (List.getLast_mem _)).1

end Spelling

/-- Separators in front are no help to a name that is empty or ends in one. -/
theorem splitName_dropSeparators_eq_empty_iff {chars : List Char} :
    (splitName (dropSeparators (String.ofList chars))).2 = "" ↔
      ∀ last, chars.getLast? = some last → last = separator := by
  rw [← String.isEmpty_iff, splitName_shortName_isEmpty, dropSeparators, Text.dropLeading,
    String.toList_ofList, String.toList_ofList]
  obtain ⟨dropped, split⟩ := List.dropWhile_suffix (l := chars) (· == separator)
  cases kept : chars.dropWhile (· == separator) with
  | nil =>
      have all := List.dropWhile_eq_nil_iff.mp kept
      refine iff_of_true rfl ?_
      intro last isLast
      exact beq_iff_eq.mp (all last (List.mem_of_getLast? isLast))
  | cons first rest =>
      have sameLast : chars.getLast? = (first :: rest).getLast? := by
        rw [← split, kept, List.getLast?_append_cons]
      rw [sameLast, List.getLast?_cons]
      simp

/-- A literal that is empty or ends in a separator gives no short name. -/
theorem splitName_inQuotes {quote : Char} {inner : List Char}
    (isQuote : quote = '\'' ∨ quote = '"')
    (ends : inner = [] ∨ inner.getLast? = some separator) :
    (splitName (literalName (inQuotes quote inner))).2 = "" := by
  rw [literalName, unquote_inQuotes isQuote, String.toList_ofList,
    splitName_dropSeparators_eq_empty_iff, getLast?_collapseSeparators]
  rcases ends with rfl | ends
  · simp
  · simp [ends]

section Calls

variable {content : Bytes} (origin : Option String) {node name value : Location}
  {others : List Location} {literal : String}

theorem convert_constant (converter : Converter)
    (converts : converter = .constant ∨ ∃ anonymousPrefix, converter = .standard anonymousPrefix)
    (define : node.kind content = .define) :
    converter.convert content origin node =
      (node.constantEntry content origin .define).map .constant := by
  rcases converts with rfl | ⟨anonymousPrefix, rfl⟩
  · simp [Converter.convert, Converter.takes, define]
  · rw [Converter.convert_standard_constant (by rw [define]; rfl), define]

theorem constantEntry_of_literal (arguments : node.argumentValues = name :: value :: others)
    (read : name.text content = .ok literal) :
    node.constantEntry content origin .define =
      value.text content >>= fun valueSource =>
        node.entryOfParts origin content .define ⟨literalName literal,
          (splitName (literalName literal)).2, (splitName (literalName literal)).1,
          valueSource⟩ := by
  rw [Location.constantEntry_eq_bind, if_pos rfl, Location.defineParts, arguments]
  simp only [read]
  cases value.text content <;> rfl

/-- However the name is spelled in the first argument of a `define` call, and whatever the
namespace around the call, the entry is called by its segments.  If the literal is empty, or
ends in a separator, the call is refused as nameless.  Only text that is none comes before
that: that of the value, and for an entry that of the comment in front. -/
theorem define_spelled (converter : Converter)
    (converts : converter = .constant ∨ ∃ anonymousPrefix, converter = .standard anonymousPrefix)
    (define : node.kind content = .define)
    (arguments : node.argumentValues = name :: value :: others) :
    (∀ spelling : Spelling, name.text content = .ok spelling.literal →
      (∀ valueSource docComment, value.text content = .ok valueSource →
        (node.parent?.getD node).docComment content = .ok docComment →
        converter.convert content origin node = .ok (.constant {
          heading := {
            name := "\\".intercalate spelling.segments
            shortName := spelling.segments.getLast (List.cons_ne_nil _ _)
            namespaceName :=
              if spelling.later = [] then none
              else some ("\\".intercalate spelling.segments.dropLast)
            fileName := origin
            startLine := node.startLine content
            endLine := node.endLine content
            docComment }
          valueSource
          isDefine := true })) ∧
      (∀ failure, value.text content = .error failure →
        converter.convert content origin node = .error failure) ∧
      (∀ valueSource failure, value.text content = .ok valueSource →
        (node.parent?.getD node).docComment content = .error failure →
        converter.convert content origin node = .error failure)) ∧
    ∀ quote inner, (quote = '\'' ∨ quote = '"') →
      (inner = [] ∨ inner.getLast? = some separator) →
      name.text content = .ok (inQuotes quote inner) →
        (∀ valueSource, value.text content = .ok valueSource →
          ∃ failure, converter.convert content origin node = .error failure ∧
            failure.report? = some (.unconvertible
              (.ofStrings "Constant declaration has no name"
                (some ("line " ++ toString (node.startLine content))))
              (some node.type) (some (node.startLine content)))) ∧
        (∀ failure, value.text content = .error failure →
          converter.convert content origin node = .error failure) := by
  rw [convert_constant origin converter converts define]
  constructor
  · intro spelling read
    have named : spelling.shortName.isEmpty = false :=
      String.isEmpty_eq_false_iff.mpr spelling.shortName_ne_empty
    rw [constantEntry_of_literal origin arguments read, spelling.literalName_literal,
      spelling.splitName_name]
    refine ⟨?_, ?_, ?_⟩
    · intro valueSource docComment valueRead commentRead
      simp only [valueRead, Location.entryOfParts, named, commentRead,
        nonEmpty_getD_of_ne spelling.namespaceName_ne_empty]
      rfl
    · intro failure valueUnread
      rw [valueUnread]
      rfl
    · intro valueSource failure valueRead commentUnread
      simp only [valueRead, Location.entryOfParts, named, commentUnread]
      rfl
  · intro quote inner isQuote ends read
    rw [constantEntry_of_literal origin arguments read, splitName_inQuotes isQuote ends]
    constructor
    · intro valueSource valueRead
      rw [valueRead]
      exact ⟨_, rfl, rfl⟩
    · intro failure valueUnread
      rw [valueUnread]
      rfl

/-- `A\B` with three separators in front, and doubled ones between. -/
def doubledSpelling : Spelling where
  quote := '\''
  leading := 3
  first := "A"
  later := [(true, "B")]
  isQuote := .inl rfl
  proper := by decide

theorem define_spelled_doubled :
    (defineCall [] 0 16 18).kind
        (defineContent [] doubledSpelling.literal.toList ['1']) = .define ∧
      Converter.constant.convert (defineContent [] doubledSpelling.literal.toList ['1']) none
          (defineCall [] 0 16 18) =
        .ok (.constant ⟨⟨"A\\B", "B", some "A", none, 1, 1, none⟩, "1", true⟩) ∧
      (defineCall [] 0 11 13).kind (defineContent [] ['"', 'A', '\\', '"'] ['1']) = .define ∧
      ∃ failure, Converter.constant.convert (defineContent [] ['"', 'A', '\\', '"'] ['1']) none
          (defineCall [] 0 11 13) = .error failure ∧
        failure.report? = some (.unconvertible
          (.ofStrings "Constant declaration has no name" (some "line 1"))
          (some "function_call_expression") (some 1)) := by
  have define : (defineCall [] 0 16 18).kind
      (defineContent [] doubledSpelling.literal.toList ['1']) = .define := by decide +kernel
  have defineEnding : (defineCall [] 0 11 13).kind
      (defineContent [] ['"', 'A', '\\', '"'] ['1']) = .define := by decide +kernel
  obtain ⟨spelled, _⟩ := define_spelled none .constant (.inl rfl) define rfl
  obtain ⟨_, ending⟩ := define_spelled none .constant (.inl rfl) defineEnding rfl
  have converted := (spelled doubledSpelling (by decide +kernel)).1 "1" none
    (by decide +kernel) (by decide +kernel)
  obtain ⟨failure, refused, report⟩ :=
    (ending '"' ['A', '\\'] (.inr rfl) (.inr rfl) (by decide +kernel)).1 "1" (by decide +kernel)
  refine ⟨define, ?_, defineEnding, failure, refused, ?_⟩
  · rw [converted]
    decide +kernel
  · rw [report]
    decide +kernel

def plainSpelling : Spelling where
  quote := '\''
  leading := 0
  first := "A"
  later := []
  isQuote := .inl rfl
  proper := by decide

/-- The value of the first call ends within a character, and so does the comment before the
second call and the value of the last one.  So the first two have no entry, and the last one,
whose literal is empty, is not refused as nameless. -/
theorem define_cut :
    ((defineCall [] 0 10 12).kind (defineContent [] plainSpelling.literal.toList ['é']) =
        .define ∧
      (defineCall [] 0 10 12).argumentValues.map
          (Location.text (defineContent [] plainSpelling.literal.toList ['é'])) =
        [.ok plainSpelling.literal, .error (.undecodable [195] ⟨0, 1, .endOfBytes⟩)] ∧
      Converter.constant.convert (defineContent [] plainSpelling.literal.toList ['é']) none
        (defineCall [] 0 10 12) = .error (.undecodable [195] ⟨0, 1, .endOfBytes⟩)) ∧
    ((defineCall [.node ⟨"comment", 0, 4, none, true, false, false⟩ []] 7 17 19).kind
        (defineContent ['/', '*', '*', 'é', '*', '/'] plainSpelling.literal.toList ['1']) =
        .define ∧
      (defineCall [.node ⟨"comment", 0, 4, none, true, false, false⟩ []] 7 17 19).argumentValues.map
          (Location.text
            (defineContent ['/', '*', '*', 'é', '*', '/'] plainSpelling.literal.toList ['1'])) =
        [.ok plainSpelling.literal, .ok "1"] ∧
      Converter.constant.convert
        (defineContent ['/', '*', '*', 'é', '*', '/'] plainSpelling.literal.toList ['1']) none
        (defineCall [.node ⟨"comment", 0, 4, none, true, false, false⟩ []] 7 17 19) =
          .error (.undecodable [47, 42, 42, 195] ⟨3, 4, .endOfBytes⟩)) ∧
    ((defineCall [] 0 9 11).kind (defineContent [] ['\'', '\''] ['é']) = .define ∧
      (defineCall [] 0 9 11).argumentValues.map
          (Location.text (defineContent [] ['\'', '\''] ['é'])) =
        [.ok (inQuotes '\'' []), .error (.undecodable [195] ⟨0, 1, .endOfBytes⟩)] ∧
      Converter.constant.convert (defineContent [] ['\'', '\''] ['é']) none
        (defineCall [] 0 9 11) = .error (.undecodable [195] ⟨0, 1, .endOfBytes⟩)) ∧
    (Failure.undecodable [195] ⟨0, 1, .endOfBytes⟩).report? = none := by
  decide +kernel

end Calls

end PhpOutline
