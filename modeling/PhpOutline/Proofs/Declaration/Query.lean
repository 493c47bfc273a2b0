import PhpOutline.Outline
import PhpOutline.Proofs.Declaration.Fields
import PhpOutline.Proofs.Declaration.Nameable
import PhpOutline.Proofs.Related
import PhpOutline.Proofs.Text.Lowercase

namespace PhpOutline

open PhpOutline.Text (lowercase lowercaseAfter lowercaseAt lowercaseChar lowercaseChars)

namespace Text

theorem lowercaseAt_ne_nil (before : List Char) (char : Char) (after : List Char) :
    lowercaseAt before char after ≠ [] := by
  unfold lowercaseAt lowercaseChar
  repeat' split
  all_goals exact List.cons_ne_nil _ _

theorem lowercase_eq_empty_iff {text : String} : lowercase text = "" ↔ text = "" := by
  constructor
  · intro empty
    have none : lowercaseAfter [] text.toList = [] := by
      have chars := congrArg String.toList empty
      rwa [lowercase, String.toList_ofList, lowercaseChars] at chars
    cases chars : text.toList with
    | nil => exact String.toList_eq_nil_iff.mp chars
    | cons char rest =>
        rw [chars, lowercaseAfter] at none
        exact absurd (List.append_eq_nil_iff.mp none).1 (lowercaseAt_ne_nil [] char rest)
  · rintro rfl
    rfl

end Text

def IsBare (name : String) : Prop :=
  name.toList.head? ≠ some separator

instance (name : String) : Decidable (IsBare name) :=
  inferInstanceAs (Decidable (name.toList.head? ≠ some separator))

/-- The name with some separators in front. -/
def underSeparators (count : Nat) (name : String) : String :=
  String.ofList (List.replicate count separator ++ name.toList)

theorem dropSeparators_underSeparators {name : String} (bare : IsBare name) (count : Nat) :
    dropSeparators (underSeparators count name) = name := by
  have isSeparator : ∀ char ∈ List.replicate count separator, (char == separator) = true := by
    intro char member
    rw [List.eq_of_mem_replicate member, beq_self_eq_true]
  have kept : name.toList.dropWhile (· == separator) = name.toList := by
    unfold IsBare at bare
    cases chars : name.toList with
    | nil => rfl
    | cons char rest =>
        rw [chars, List.head?_cons] at bare
        have other : ¬ (char == separator) = true := fun same =>
          bare (congrArg some (beq_iff_eq.mp same))
        exact List.dropWhile_cons_of_neg other
  rw [dropSeparators, Text.dropLeading, underSeparators, String.toList_ofList,
    List.dropWhile_append_of_pos isSeparator, kept, String.ofList_toList]

theorem dropSeparators_of_isBare {name : String} (bare : IsBare name) :
    dropSeparators name = name := by
  have same := dropSeparators_underSeparators bare 0
  rwa [underSeparators, List.replicate_zero, List.nil_append, String.ofList_toList] at same

namespace Category

/-- Names of constants are the same if they are equal, and those of classes and functions
if they are equal in lower case. -/
def SameName (category : Category) (first second : String) : Prop :=
  match category with
  | .constant => first = second
  | .classLike | .function => lowercase first = lowercase second

/-- A query may write the name so: with separators in front, or for classes and functions
in other cases. -/
def Spells (category : Category) (written name : String) : Prop :=
  (∃ count, written = underSeparators count name) ∨
    category ≠ .constant ∧ lowercase written = lowercase name ∧ IsBare written

variable {category : Category} {first second third : String}

instance : Decidable (category.SameName first second) :=
  match category with
  | .constant => inferInstanceAs (Decidable (first = second))
  | .classLike | .function => inferInstanceAs (Decidable (lowercase first = lowercase second))

theorem sameName_refl (category : Category) (name : String) : category.SameName name name := by
  cases category <;> rfl

theorem SameName.trans (left : category.SameName first second)
    (right : category.SameName second third) : category.SameName first third := by
  cases category <;> exact Eq.trans left right

theorem SameName.symm (same : category.SameName first second) : category.SameName second first := by
  cases category <;> exact Eq.symm same

theorem sameName_caseless (caseless : category ≠ .constant) :
    category.SameName first second ↔ lowercase first = lowercase second := by
  cases category with
  | constant => exact absurd rfl caseless
  | classLike => exact Iff.rfl
  | function => exact Iff.rfl

theorem ofName?_name (category : Category) : ofName? category.name = some category := by
  cases category <;> decide

theorem Spells.sameName {written name : String} (spells : category.Spells written name)
    (bare : IsBare name) : category.SameName (dropSeparators written) name := by
  rcases spells with ⟨count, rfl⟩ | ⟨notConstant, same, writtenBare⟩
  · rw [dropSeparators_underSeparators bare]
    exact category.sameName_refl name
  · rw [dropSeparators_of_isBare writtenBare]
    cases category with
    | constant => exact absurd rfl notConstant
    | classLike => exact same
    | function => exact same

theorem SameName.ne_empty {name other : String} (same : category.SameName other name)
    (given : name ≠ "") : other ≠ "" := by
  rintro rfl
  cases category with
  | constant => exact given same.symm
  | classLike => exact given (Text.lowercase_eq_empty_iff.mp (Eq.symm same))
  | function => exact given (Text.lowercase_eq_empty_iff.mp (Eq.symm same))

end Category

namespace Query

theorem matchesName_iff {query : Query} {name : String} :
    query.matchesName name = true ↔ query.category.SameName query.name name := by
  obtain ⟨asked, category⟩ := query
  cases category <;> simp [matchesName, Category.isCaseSensitive, Category.SameName]

theorem ofFields_of_ne_empty {written : String} (category : Category)
    (given : dropSeparators written ≠ "") :
    ofFields [("name", .ofString written), ("type", .ofString category.name)] =
      .valid ⟨dropSeparators written, category⟩ := by
  have writtenGiven : written.isEmpty = false := by
    apply String.isEmpty_eq_false_iff.mpr
    rintro rfl
    exact given rfl
  have name : readName (.ofString written) = .ok (dropSeparators written) := by
    unfold readName
    rw [Value.readString_ofString]
    dsimp only
    rw [writtenGiven, String.isEmpty_eq_false_iff.mpr given]
    rfl
  have type : readCategory (.ofString category.name) = .ok category := by
    unfold readCategory
    rw [Value.string?_ofString, Option.bind_some, category.ofName?_name]
  rw [ofFields, Fields.required_of_find? rfl name, Fields.required_of_find? rfl type]
  rfl

theorem ofFields_of_isBare {name : String} (category : Category) (given : name ≠ "")
    (bare : IsBare name) :
    ofFields [("name", .ofString name), ("type", .ofString category.name)] =
      .valid ⟨name, category⟩ := by
  have kept := dropSeparators_of_isBare bare
  have someLeft : dropSeparators name ≠ "" := by rwa [kept]
  rw [ofFields_of_ne_empty category someLeft, kept]

/-- Every spelling of a name is a query for the same name. -/
theorem ofFields_of_spells {category : Category} {written name : String}
    (spells : category.Spells written name) (given : name ≠ "") (bare : IsBare name) :
    ∃ asked, ofFields [("name", .ofString written), ("type", .ofString category.name)] =
      .valid ⟨asked, category⟩ ∧ category.SameName asked name := by
  have same := spells.sameName bare
  exact ⟨dropSeparators written, ofFields_of_ne_empty category (same.ne_empty given), same⟩

end Query

section Lowercase

variable {outer shortName other : String}

theorem toList_lowercase (text : String) :
    (lowercase text).toList = lowercaseChars text.toList :=
  String.toList_ofList

theorem toList_append_separator (left right : String) :
    (left ++ "\\" ++ right).toList = left.toList ++ separator :: right.toList := by
  rw [String.toList_append, String.toList_append, List.append_assoc]
  rfl

theorem lowercase_append_separator (left right : String) :
    lowercase (left ++ "\\" ++ right) = lowercase left ++ "\\" ++ lowercase right := by
  apply String.toList_inj.mp
  rw [toList_lowercase, toList_append_separator, Text.lowercaseChars_append_separator,
    toList_append_separator, toList_lowercase, toList_lowercase]

theorem separator_mem_lowercase_iff {text : String} :
    separator ∈ (lowercase text).toList ↔ separator ∈ text.toList := by
  rw [toList_lowercase, Text.separator_mem_lowercaseChars_iff]

theorem splitsAtLast_append_separator (left : String) {right : String}
    (free : separator ∉ right.toList) :
    SplitsAtLast separator (left ++ "\\" ++ right).toList left.toList right.toList :=
  ⟨free, .inr (toList_append_separator left right)⟩

/-- Two names are the same in lower case exactly if the parts around their last separators
are. -/
theorem lowercase_append_separator_inj {left right otherLeft otherRight : String}
    (free : separator ∉ right.toList) (otherFree : separator ∉ otherRight.toList) :
    lowercase (left ++ "\\" ++ right) = lowercase (otherLeft ++ "\\" ++ otherRight) ↔
      lowercase left = lowercase otherLeft ∧ lowercase right = lowercase otherRight := by
  rw [lowercase_append_separator, lowercase_append_separator]
  constructor
  · intro same
    have first := splitsAtLast_append_separator (lowercase left)
      (mt separator_mem_lowercase_iff.mp free)
    have second := splitsAtLast_append_separator (lowercase otherLeft)
      (mt separator_mem_lowercase_iff.mp otherFree)
    rw [same] at first
    obtain ⟨sameLeft, sameRight⟩ := first.unique second
    exact ⟨String.toList_inj.mp sameLeft, String.toList_inj.mp sameRight⟩
  · rintro ⟨sameLeft, sameRight⟩
    rw [sameLeft, sameRight]

end Lowercase

theorem Query.matchesName_caseless {query : Query} (caseless : query.category ≠ .constant)
    {name : String} : query.matchesName name = true ↔ lowercase query.name = lowercase name := by
  rw [matchesName_iff, Category.sameName_caseless caseless]

theorem Query.matchesName_eq_false {query : Query} (caseless : query.category ≠ .constant)
    {name : String} (differ : ¬ (separator ∈ query.name.toList ↔ separator ∈ name.toList)) :
    query.matchesName name = false := by
  rw [← Bool.not_eq_true, matchesName_caseless caseless]
  intro same
  rw [← separator_mem_lowercase_iff, same, separator_mem_lowercase_iff] at differ
  exact differ Iff.rfl

theorem isBare_append_iff {outer : String} (given : outer ≠ "") (rest : String) :
    IsBare (outer ++ rest) ↔ IsBare outer := by
  unfold IsBare
  rw [String.toList_append]
  cases chars : outer.toList with
  | nil => exact absurd (String.toList_eq_nil_iff.mp chars) given
  | cons first others => rfl

theorem isBare_append {outer : String} (given : outer ≠ "") (bare : IsBare outer)
    (rest : String) : IsBare (outer ++ rest) :=
  (isBare_append_iff given rest).mpr bare

/-- A query for a class or a function in a namespace matches exactly the names whose namespace
and whose short name are those of the query in lower case, whatever either of them ends or
starts with.  So it never matches a name outside all namespaces, and a query for such a name
matches no other. -/
theorem matchesName_segmentwise {category : Category} (caseless : category ≠ .constant) :
    (∀ outer shortName, outer ≠ "" → IsBare outer → separator ∉ shortName.toList →
      ∃ query,
        Query.ofFields [("name", .ofString (outer ++ "\\" ++ shortName)),
          ("type", .ofString category.name)] = .valid query ∧
        ∀ otherOuter otherShort, separator ∉ otherShort.toList →
          (query.matchesName (otherOuter ++ "\\" ++ otherShort) = true ↔
            lowercase outer = lowercase otherOuter ∧
              lowercase shortName = lowercase otherShort)) ∧
    (∀ left right,
      lowercase (left ++ "\\" ++ right) = lowercase left ++ "\\" ++ lowercase right) ∧
    ∀ plain separated, separator ∉ plain.toList → separator ∈ separated.toList →
      Query.matchesName ⟨plain, category⟩ separated = false ∧
        Query.matchesName ⟨separated, category⟩ plain = false := by
  refine ⟨?_, lowercase_append_separator, ?_⟩
  · intro outer shortName given bare free
    have whole : IsBare (outer ++ "\\" ++ shortName) := by
      rw [String.append_assoc]
      exact isBare_append given bare _
    have nonempty : outer ++ "\\" ++ shortName ≠ "" := by
      intro empty
      have chars := toList_append_separator outer shortName
      rw [empty] at chars
      exact List.append_ne_nil_of_right_ne_nil _ (List.cons_ne_nil _ _) chars.symm
    have kept := dropSeparators_of_isBare whole
    refine ⟨⟨outer ++ "\\" ++ shortName, category⟩, ?_, ?_⟩
    · rw [Query.ofFields_of_ne_empty category (kept.symm ▸ nonempty), kept]
    · intro otherOuter otherShort otherFree
      rw [Query.matchesName_caseless caseless, lowercase_append_separator_inj free otherFree]
  · intro plain separated free member
    exact ⟨Query.matchesName_eq_false caseless fun same => free (same.mpr member),
      Query.matchesName_eq_false caseless fun same => free (same.mp member)⟩

/-- The sigma at the end of the namespace is final, although a letter comes after the
separator. -/
theorem matchesName_segmentwise_sigma :
    Category.classLike ≠ .constant ∧
      ∃ query,
        Query.ofFields [("name", .ofString "ΟΔΟΣ\\ΣΑΣ"), ("type", .ofString "class")] =
          .valid query ∧
        query.matchesName "οδος\\σας" = true ∧ query.matchesName "οδοσ\\σας" = false := by
  have caseless : Category.classLike ≠ .constant := nofun
  obtain ⟨query, accepted, decides⟩ :=
    (matchesName_segmentwise caseless).1 "ΟΔΟΣ" "ΣΑΣ" (by decide) (by decide) (by decide)
  refine ⟨caseless, query, accepted, ?_, ?_⟩
  · exact (decides "οδος" "σας" (by decide)).mpr (by decide +kernel)
  · rw [← Bool.not_eq_true]
    exact mt (decides "οδοσ" "σας" (by decide)).mp (by decide +kernel)

end PhpOutline
