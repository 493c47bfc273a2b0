import PhpOutline.Proofs.Declaration.Query
import PhpOutline.Proofs.Outline.Appending
import PhpOutline.Proofs.Text.AsciiCase

namespace PhpOutline

open PhpOutline.Syntax
open PhpOutline.Text (Bytes IsAsciiCased lowercase)

/-- The first of the entries that have the name. -/
structure IsEarliest (category : Category) (name : String) (entries : List Entry) (place : Nat)
    (entry : Entry) : Prop where
  atPlace : entries[place]? = some entry
  sameName : category.SameName name entry.name
  others : ∀ number < place, ∀ other, entries[number]? = some other →
    ¬ category.SameName name other.name

variable {category : Category} {name asked : String} {entries : List Entry} {entry : Entry}
  {place : Nat}

namespace IsEarliest

theorem congr (same : category.SameName asked name)
    (earliest : IsEarliest category asked entries place entry) :
    IsEarliest category name entries place entry where
  atPlace := earliest.atPlace
  sameName := same.symm.trans earliest.sameName
  others := fun number before other found otherSame =>
    earliest.others number before other found (same.trans otherSame)

theorem place_le {number : Nat} {other : Entry}
    (earliest : IsEarliest category name entries place entry)
    (found : entries[number]? = some other) (same : category.SameName name other.name) :
    place ≤ number := by
  by_contra later
  exact earliest.others number (by omega) other found same

theorem place_eq_iff {number : Nat} {other : Entry}
    (earliest : IsEarliest category name entries place entry)
    (found : entries[number]? = some other) (same : category.SameName name other.name) :
    place = number ↔ ∀ before < number, ∀ previous, entries[before]? = some previous →
      ¬ category.SameName name previous.name := by
  constructor
  · rintro rfl
    exact earliest.others
  · intro none
    have upper := earliest.place_le found same
    have lower : ¬ place < number := fun less =>
      none place less entry earliest.atPlace earliest.sameName
    omega

end IsEarliest

theorem find?_matchesName_iff {query : Query} :
    entries.find? (fun entry => query.matchesName entry.name) = some entry ↔
      ∃ place, IsEarliest query.category query.name entries place entry := by
  rw [List.find?_eq_some_iff_getElem, Query.matchesName_iff]
  constructor
  · rintro ⟨same, place, bound, rfl, others⟩
    refine ⟨place, List.getElem?_eq_getElem bound, same, ?_⟩
    intro number before other found otherSame
    obtain ⟨_, rfl⟩ := List.getElem?_eq_some_iff.mp found
    have refused := others number before
    rw [Query.matchesName_iff.mpr otherSame] at refused
    cases refused
  · rintro ⟨place, earliest⟩
    obtain ⟨bound, found⟩ := List.getElem?_eq_some_iff.mp earliest.atPlace
    refine ⟨earliest.sameName, place, bound, found, ?_⟩
    intro number before
    have refused := earliest.others number before _ (List.getElem?_eq_getElem (by omega))
    rw [Bool.not_eq_true', ← Bool.not_eq_true, Query.matchesName_iff]
    exact refused

theorem find?_matchesName_eq_none_iff {query : Query} :
    (entries.find? fun entry => query.matchesName entry.name) = none ↔
      ∀ entry ∈ entries, ¬ query.category.SameName query.name entry.name := by
  simp only [List.find?_eq_none, Query.matchesName_iff]

section Searches

variable [HasErrors ε] {frontend : Frontend} {conversion : Bytes → Conversion σ ε Entry}
  {failed : Failure → ε} {document : Document} {query : Query} {state : σ}

theorem lookupWith_of_error {failure : ε}
    (refused : (frontend.searchWith conversion failed document query.category state).1.result =
      .error failure) :
    (frontend.lookupWith conversion failed document query state).1.result = .error failure := by
  rw [Frontend.lookupWith_result, refused]
  rfl

/-- A lookup in entries that were found gives the earliest one, or tells that there is none. -/
theorem lookupWith_of_ok
    (done : (frontend.searchWith conversion failed document query.category state).1.result =
      .ok entries) :
    (∀ entry, (frontend.lookupWith conversion failed document query state).1.result = .ok entry ↔
      ∃ place, IsEarliest query.category query.name entries place entry) ∧
    ∀ failure,
      (frontend.lookupWith conversion failed document query state).1.result = .error failure ↔
        failure = failed (.notFound query.category query.name document.origin) ∧
          ∀ entry ∈ entries, ¬ query.category.SameName query.name entry.name := by
  rw [Frontend.lookupWith_result, done]
  simp only [bind, Except.bind, ← find?_matchesName_iff, ← find?_matchesName_eq_none_iff]
  cases entries.find? fun entry => query.matchesName entry.name <;> simp [eq_comm]

theorem lookupWith_state :
    (frontend.lookupWith conversion failed document query state).2 =
      (frontend.searchWith conversion failed document query.category state).2 := by
  unfold Frontend.lookupWith
  rcases frontend.searchWith conversion failed document query.category state with
    ⟨⟨failure | entries, log⟩, final⟩
  · rfl
  · dsimp only
    cases entries.find? fun entry => query.matchesName entry.name <;> rfl

theorem exists_earliest {number : Nat} (found : entries[number]? = some entry)
    (same : category.SameName asked entry.name) :
    ∃ place first, IsEarliest category asked entries place first := by
  have some : (entries.find? fun entry => Query.matchesName ⟨asked, category⟩ entry.name) ≠ none := by
    intro none
    exact find?_matchesName_eq_none_iff.mp none entry (List.mem_of_getElem? found) same
  obtain ⟨first, isFirst⟩ := Option.ne_none_iff_exists'.mp some
  obtain ⟨place, earliest⟩ := find?_matchesName_iff.mp isFirst
  exact ⟨place, first, earliest⟩

end Searches

theorem lookup_of_outline {frontend : Frontend} {converter : Converter} {document : Document}
    (query : Query)
    (done : (outline frontend converter document query.category).result = .ok entries) :
    (∀ found, (lookup frontend converter document query).result = .ok found ↔
      ∃ place, IsEarliest query.category query.name entries place found) ∧
    ∀ failure, (lookup frontend converter document query).result = .error failure ↔
      failure = .notFound query.category query.name document.origin ∧
        ∀ other ∈ entries, ¬ query.category.SameName query.name other.name :=
  lookupWith_of_ok done

/-- Whatever the conversion, a lookup fails as the search does, and else gives the
earliest entry with the name, or tells that none has it.  An entry with a name that
starts with a character and no separator is found by every spelling of that name: the
spelling is accepted, and the lookup gives the earliest entry with the name, which is the
entry itself exactly if none before it has the same name. -/
theorem lookupWith_earliest [HasErrors ε] (frontend : Frontend)
    (conversion : Bytes → Conversion σ ε Entry) (failed : Failure → ε) (document : Document) (state : σ) :
    (∀ query,
      (∀ failure,
        (frontend.searchWith conversion failed document query.category state).1.result =
            .error failure →
          (frontend.lookupWith conversion failed document query state).1.result =
            .error failure) ∧
      (∀ entries,
        (frontend.searchWith conversion failed document query.category state).1.result =
            .ok entries →
          (∀ entry,
            (frontend.lookupWith conversion failed document query state).1.result = .ok entry ↔
              ∃ place, IsEarliest query.category query.name entries place entry) ∧
          ∀ failure,
            (frontend.lookupWith conversion failed document query state).1.result =
                .error failure ↔
              failure = failed (.notFound query.category query.name document.origin) ∧
                ∀ entry ∈ entries, ¬ query.category.SameName query.name entry.name) ∧
      (frontend.lookupWith conversion failed document query state).2 =
        (frontend.searchWith conversion failed document query.category state).2) ∧
    ∀ category entries number entry written,
      (frontend.searchWith conversion failed document category state).1.result = .ok entries →
      entries[number]? = some entry → entry.name ≠ "" → IsBare entry.name →
      category.Spells written entry.name →
        ∃ query,
          Query.ofFields [("name", .ofString written), ("type", .ofString category.name)] =
            .valid query ∧
          query.category = category ∧
          ∃ place first,
            (frontend.lookupWith conversion failed document query state).1.result = .ok first ∧
            IsEarliest category entry.name entries place first ∧ place ≤ number ∧
            (place = number ↔ ∀ before < number, ∀ previous, entries[before]? = some previous →
              ¬ category.SameName entry.name previous.name) := by
  constructor
  · intro query
    exact ⟨fun failure => lookupWith_of_error, fun entries => lookupWith_of_ok, lookupWith_state⟩
  · intro category entries number entry written done found given bare spells
    obtain ⟨asked, accepted, same⟩ := Query.ofFields_of_spells spells given bare
    refine ⟨⟨asked, category⟩, accepted, rfl, ?_⟩
    obtain ⟨place, first, earliest⟩ := exists_earliest found same
    -- What is asked for and the entry's own name count as one, so they have one earliest entry.
    have own := earliest.congr same
    have ownName := category.sameName_refl entry.name
    exact ⟨place, first, ((lookupWith_of_ok done).1 first).mpr ⟨place, earliest⟩, own,
      own.place_le found ownName, own.place_eq_iff found ownName⟩

/-- The small letter is looked up, with two separators in front; the capital comes first. -/
theorem lookupWith_capitalFirst :
    (((Frontend.fixed true twoClasses).searchWith
        ((Converter.standard "class@anonymous").conversion none) id (.ofChars 'A' ['a'])
        .classLike ()).1.result =
      .ok [bareClass "A" "A" none, bareClass "a" "a" none]) ∧
    Category.classLike.Spells "\\\\a" "a" ∧
    ∃ query,
      Query.ofFields [("name", .ofString "\\\\a"), ("type", .ofString "class")] = .valid query ∧
      ((Frontend.fixed true twoClasses).lookupWith
        ((Converter.standard "class@anonymous").conversion none) id (.ofChars 'A' ['a'])
        query ()).1.result = .ok (bareClass "A" "A" none) := by
  have done : ((Frontend.fixed true twoClasses).searchWith
      ((Converter.standard "class@anonymous").conversion none) id (.ofChars 'A' ['a'])
      .classLike ()).1.result = .ok [bareClass "A" "A" none, bareClass "a" "a" none] := by
    decide +kernel
  have spells : Category.classLike.Spells "\\\\a" "a" := .inl ⟨2, rfl⟩
  obtain ⟨query, accepted, _, place, first, found, earliest, _, own⟩ :=
    (lookupWith_earliest (.fixed true twoClasses)
      ((Converter.standard "class@anonymous").conversion none) id (.ofChars 'A' ['a']) ()).2
      .classLike _ 1 (bareClass "a" "a" none) "\\\\a" done rfl (by decide) (by decide) spells
  have isFirst : place = 0 := by
    by_contra later
    exact earliest.others 0 (by omega) (bareClass "A" "A" none) rfl (by decide)
  subst place
  cases earliest.atPlace
  exact ⟨done, spells, query, accepted, found⟩

/-- An entry that is called so in lower case stands before all that are called so but for the
case of letters in ASCII. -/
def IsOvertaken (name : String) (entries : List Entry) : Prop :=
  ∃ (place : Nat) (other : Entry), entries[place]? = some other ∧
    lowercase name = lowercase other.name ∧
    ∀ number ≤ place, ∀ entry, entries[number]? = some entry →
      name.toLower ≠ entry.name.toLower

theorem IsEarliest.isOvertaken_iff (caseless : category ≠ .constant)
    (earliest : IsEarliest category name entries place entry) :
    IsOvertaken name entries ↔ name.toLower ≠ entry.name.toLower := by
  constructor
  · rintro ⟨before, other, found, same, none⟩
    have reached := earliest.place_le found ((Category.sameName_caseless caseless).mpr same)
    exact none place reached entry earliest.atPlace
  · intro differ
    refine ⟨place, entry, earliest.atPlace,
      (Category.sameName_caseless caseless).mp earliest.sameName, ?_⟩
    intro number upTo other found same
    rcases Nat.lt_or_eq_of_le upTo with before | rfl
    · exact earliest.others number before other found
        ((Category.sameName_caseless caseless).mpr (Text.lowercase_eq_of_toLower_eq same))
    · cases earliest.atPlace.symm.trans found
      exact differ same

/-- Names that differ in the case of ASCII letters alone always match.  No others do among the
names whose capitals are all in ASCII, but a name with another capital matches its lowercase
form.  A lookup by the name of an entry gives an entry of another name exactly if one that
matches comes first, so never if the names in the outline have no capitals outside ASCII. -/
theorem lookup_letterCase (caseless : category ≠ .constant) :
    (∀ asked name, asked.toLower = name.toLower →
      Query.matchesName ⟨asked, category⟩ name = true) ∧
    (∀ asked name, IsAsciiCased asked → IsAsciiCased name →
      (Query.matchesName ⟨asked, category⟩ name = true ↔ asked.toLower = name.toLower)) ∧
    (∀ asked, ¬ IsAsciiCased asked →
      Query.matchesName ⟨asked, category⟩ (lowercase asked) = true ∧
        IsAsciiCased (lowercase asked) ∧ asked.toLower ≠ (lowercase asked).toLower) ∧
    ∀ (frontend : Frontend) (converter : Converter) (document : Document) (entries : List Entry)
        (entry : Entry),
      (outline frontend converter document category).result = .ok entries →
      entry ∈ entries → entry.name ≠ "" → IsBare entry.name →
        ∃ query,
          Query.ofFields [("name", .ofString entry.name), ("type", .ofString category.name)] =
            .valid query ∧
          ∃ found, (lookup frontend converter document query).result = .ok found ∧
            (IsOvertaken entry.name entries ↔ entry.name.toLower ≠ found.name.toLower) ∧
            ((∀ other ∈ entries, IsAsciiCased other.name) →
              entry.name.toLower = found.name.toLower) := by
  refine ⟨?_, ?_, ?_, ?_⟩
  · intro asked name same
    exact (Query.matchesName_caseless caseless).mpr (Text.lowercase_eq_of_toLower_eq same)
  · intro asked name ascii otherAscii
    rw [Query.matchesName_caseless caseless, ascii.lowercase_eq_iff otherAscii]
  · intro asked beyond
    have settled := Text.lowercase_lowercase asked
    have ascii := Text.isAsciiCased_lowercase asked
    refine ⟨(Query.matchesName_caseless caseless).mpr settled.symm, ascii, ?_⟩
    intro same
    have lower : asked.toLower = lowercase asked := by
      rw [same, ← Text.lowercase_eq_toLower_iff.mpr ascii, settled]
    exact beyond (Text.lowercase_eq_toLower_iff.mp lower.symm)
  · intro frontend converter document entries entry done member given bare
    obtain ⟨number, atNumber⟩ := List.mem_iff_getElem?.mp member
    obtain ⟨place, found, earliest⟩ := exists_earliest atNumber (category.sameName_refl entry.name)
    have picked := ((lookup_of_outline ⟨entry.name, category⟩ done).1 found).mpr ⟨place, earliest⟩
    refine ⟨⟨entry.name, category⟩, Query.ofFields_of_isBare category given bare, found, picked,
      earliest.isOvertaken_iff caseless, ?_⟩
    intro ascii
    have foundAscii := ascii found (List.mem_of_getElem? earliest.atPlace)
    exact ((ascii entry member).lowercase_eq_iff foundAscii).mp
      ((Category.sameName_caseless caseless).mp earliest.sameName)

def accentedClass (start : Nat) : Tree :=
  .node ⟨"class_declaration", start, start + 2, none, true, false, false⟩
    [.node ⟨"name", start, start + 2, some "name", true, false, false⟩ []]

def accentedClasses : Tree :=
  .node ⟨"program", 0, 4, none, true, false, false⟩ [accentedClass 0, accentedClass 2]

/-- The class with the small letter is asked for, and the one with the capital is given. -/
theorem lookup_accented :
    (outline (.fixed true accentedClasses) (.standard "class@anonymous") (.ofChars 'É' ['é'])
        .classLike).result = .ok [bareClass "É" "É" none, bareClass "é" "é" none] ∧
      Query.ofFields [("name", .ofString "é"), ("type", .ofString "class")] =
        .valid ⟨"é", .classLike⟩ ∧
      Query.matchesName ⟨"é", .classLike⟩ "É" = true ∧ "é".toLower ≠ "É".toLower ∧
      (lookup (.fixed true accentedClasses) (.standard "class@anonymous") (.ofChars 'É' ['é'])
        ⟨"é", .classLike⟩).result = .ok (bareClass "É" "É" none) := by
  refine ⟨by decide +kernel, ?_, by decide +kernel, by decide +kernel, by decide +kernel⟩
  exact Query.ofFields_of_ne_empty .classLike (by decide)

theorem lookup_letterCase_accented :
    Category.classLike ≠ .constant ∧
      Query.matchesName ⟨"É", .classLike⟩ (lowercase "É") = true ∧
      "É".toLower ≠ (lowercase "É").toLower ∧
      ∃ query,
        Query.ofFields [("name", .ofString "é"), ("type", .ofString "class")] = .valid query ∧
        ∃ found,
          (lookup (.fixed true accentedClasses) (.standard "class@anonymous")
            (.ofChars 'É' ['é']) query).result = .ok found ∧
          "é".toLower ≠ found.name.toLower := by
  have caseless : Category.classLike ≠ .constant := nofun
  obtain ⟨_, _, capital, lookups⟩ := lookup_letterCase caseless
  obtain ⟨matched, _, differ⟩ := capital "É" (by decide +kernel)
  have done : (outline (.fixed true accentedClasses) (.standard "class@anonymous")
      (.ofChars 'É' ['é']) .classLike).result =
      .ok [bareClass "É" "É" none, bareClass "é" "é" none] := by
    decide +kernel
  obtain ⟨query, accepted, found, gives, overtaken, _⟩ :=
    lookups _ _ _ _ (bareClass "é" "é" none) done (by simp) (by decide) (by decide)
  have capitalFirst : IsOvertaken "é" [bareClass "É" "É" none, bareClass "é" "é" none] := by
    refine ⟨0, bareClass "É" "É" none, rfl, by decide +kernel, ?_⟩
    intro number first entry atNumber
    cases Nat.le_zero.mp first
    cases atNumber
    decide +kernel
  exact ⟨caseless, matched, differ, query, accepted, found, gives, overtaken.mp capitalFirst⟩

end PhpOutline
