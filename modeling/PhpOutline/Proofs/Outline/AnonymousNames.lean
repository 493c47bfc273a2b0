import PhpOutline.Proofs.Declaration.AnonymousClasses
import PhpOutline.Proofs.Declaration.FullNames
import PhpOutline.Proofs.Declaration.Query
import PhpOutline.Proofs.Outline.Lookup
import PhpOutline.Settings

namespace PhpOutline

/-! Lookups of anonymous classes.

The name of an anonymous class starts with the prefix of the settings.  A query has no
separators in front of its name, and lower case keeps those of a name, so a class is found by
its name unless the prefix starts with a separator.
-/

open PhpOutline.Syntax
open PhpOutline.Text (lowercase lowercaseAfter lowercaseChars)

section Settings

theorem Checked.seq_eq_valid_iff {f : Checked (α → β)} {checked : Checked α} {result : β} :
    (f <*> checked) = .valid result ↔
      ∃ g value, f = .valid g ∧ checked = .valid value ∧ result = g value := by
  change Checked.apply f checked = _ ↔ _
  cases f <;> cases checked <;> simp [Checked.apply, eq_comm]

theorem Fields.optional_eq_valid {fields : Fields} {name : String}
    {read : Value → Except Issue α} {default result : α}
    (accepted : fields.optional name read default = .valid result) :
    result = default ∨ ∃ value, read value = .ok result := by
  unfold Fields.optional at accepted
  split at accepted
  · cases accepted
    exact .inl rfl
  · rename_i value _
    split at accepted
    · rename_i given
      cases accepted
      exact .inr ⟨value, given⟩
    · cases accepted

theorem Settings.readPrefix_ne_empty {value : Value} {anonymousPrefix : String}
    (read : readPrefix value = .ok anonymousPrefix) : anonymousPrefix ≠ "" := by
  unfold readPrefix at read
  split at read
  · cases read
  · split at read
    · cases read
    · rename_i given
      cases read
      rintro rfl
      exact given rfl

theorem Settings.anonymousPrefix_ne_empty {sources : SettingsSources} {settings : Settings}
    (loaded : Settings.load sources = .valid settings) : settings.anonymousPrefix ≠ "" := by
  obtain ⟨make, anonymousPrefix, made, accepted, rfl⟩ := Checked.seq_eq_valid_iff.mp loaded
  obtain ⟨makeBare, bare, madeBare, _, rfl⟩ := Checked.seq_eq_valid_iff.mp made
  have given : anonymousPrefix ≠ "" := by
    rcases Fields.optional_eq_valid accepted with rfl | ⟨value, read⟩
    · decide
    · exact Settings.readPrefix_ne_empty read
  cases strict : sources.fields.optional "strict_parsing" Value.readBool true with
  | invalid complaints => rw [strict] at madeBare; cases madeBare
  | valid isStrict => rw [strict] at madeBare; cases madeBare; exact given

end Settings

section Names

theorem isBare_anonymousName_iff {anonymousPrefix : String} (given : anonymousPrefix ≠ "")
    (origin : Option String) (line : Nat) :
    IsBare (anonymousName anonymousPrefix origin line) ↔ IsBare anonymousPrefix := by
  unfold anonymousName
  rw [String.append_assoc, String.append_assoc, isBare_append_iff given]

theorem dropSeparators_ne_empty {name : String} {char : Char} (member : char ∈ name.toList)
    (other : char ≠ separator) : dropSeparators name ≠ "" := by
  intro empty
  have chars := congrArg String.toList empty
  rw [dropSeparators, Text.dropLeading, String.toList_ofList, String.toList_empty,
    List.dropWhile_eq_nil_iff] at chars
  exact other (beq_iff_eq.mp (chars char member))

/-- What an anonymous class is called has more than separators in it. -/
theorem dropSeparators_anonymousName (anonymousPrefix : String) (origin : Option String)
    (line : Nat) : dropSeparators (anonymousName anonymousPrefix origin line) ≠ "" := by
  have colon : ':' ∈ (anonymousName anonymousPrefix origin line).toList := by
    simp [anonymousName]
  exact dropSeparators_ne_empty colon (by decide)

/-- Lower case keeps a separator in front, and puts none there. -/
theorem isBare_lowercase_iff {name : String} : IsBare (lowercase name) ↔ IsBare name := by
  unfold IsBare
  rw [toList_lowercase, lowercaseChars]
  cases name.toList with
  | nil => rfl
  | cons char rest =>
      rw [lowercaseAfter]
      by_cases same : char = separator
      · rw [same, Text.lowercaseAt_separator]
        rfl
      · have free := Text.separator_notMem_lowercaseAt [] same rest
        cases lower : Text.lowercaseAt [] char rest with
        | nil => exact absurd lower (Text.lowercaseAt_ne_nil [] char rest)
        | cons first others =>
            rw [lower, List.mem_cons, not_or] at free
            simp [same, Ne.symm free.1]

theorem isBare_iff_of_lowercase_eq {name other : String}
    (same : lowercase name = lowercase other) : IsBare name ↔ IsBare other := by
  rw [← isBare_lowercase_iff, same, isBare_lowercase_iff]

end Names

section Lookups

variable {frontend : Frontend} {anonymousPrefix : String} {document : Document}
  {entries : List Entry} {entry : ClassEntry}

theorem outline_anonymousName
    (done : (outline frontend (.standard anonymousPrefix) document .classLike).result =
      .ok entries)
    (member : .classLike entry ∈ entries) (anonymous : entry.isAnonymous = true) :
    ∃ fileName line, entry.heading.name = anonymousName anonymousPrefix fileName line := by
  rw [outline_result_eq_bind] at done
  obtain ⟨reading, _, recorded⟩ := bind_eq_ok_iff.mp done
  obtain ⟨node, isDeclaration, made⟩ := (mapM_members recorded).2 _ member
  obtain ⟨fileName, _, made⟩ := Converter.record_eq_ok_iff.mp made
  have admitted := (within_of_mem_declarations reading isDeclaration).2
  have describes := convert_standard_describes admitted made
  have isAnonymous := (describes.isAnonymous entry rfl).mp anonymous
  exact ⟨fileName, _, Converter.name_of_anonymous rfl isAnonymous made⟩

/-- A query for the name of an anonymous class is always accepted.  If the prefix of the
settings starts with no separator the lookup gives an entry of that name.  If it starts with
one the lookup never does: then it gives an entry, which is no anonymous class, only if one is
called by what is left of the name without the separators, and else tells that there is none. -/
theorem lookup_anonymous {sources : SettingsSources} {settings : Settings}
    (loaded : Settings.load sources = .valid settings)
    (done : (outline frontend (.standard settings.anonymousPrefix) document .classLike).result =
      .ok entries)
    (member : .classLike entry ∈ entries) (anonymous : entry.isAnonymous = true) :
    ∃ query,
      Query.ofFields [("name", .ofString entry.heading.name), ("type", .ofString "class")] =
        .valid query ∧
      (IsBare settings.anonymousPrefix →
        ∃ found, (lookup frontend (.standard settings.anonymousPrefix) document query).result =
            .ok found ∧ lowercase found.name = lowercase entry.heading.name) ∧
      (¬ IsBare settings.anonymousPrefix →
        (∀ found, (lookup frontend (.standard settings.anonymousPrefix) document query).result =
            .ok found →
          lowercase found.name ≠ lowercase entry.heading.name ∧
            ∀ other, found = .classLike other → other.isAnonymous = false) ∧
        ((lookup frontend (.standard settings.anonymousPrefix) document query).result =
            .error (.notFound .classLike query.name document.origin) ↔
          ∀ other ∈ entries, lowercase other.name ≠ lowercase query.name)) := by
  have given := Settings.anonymousPrefix_ne_empty loaded
  have named {other : ClassEntry} (isEntry : .classLike other ∈ entries)
      (isAnonymous : other.isAnonymous = true) :
      (IsBare other.heading.name ↔ IsBare settings.anonymousPrefix) ∧
        dropSeparators other.heading.name ≠ "" := by
    obtain ⟨fileName, line, name⟩ := outline_anonymousName done isEntry isAnonymous
    rw [name]
    exact ⟨isBare_anonymousName_iff given _ _, dropSeparators_anonymousName _ _ _⟩
  obtain ⟨ownBare, rest⟩ := named member anonymous
  obtain ⟨picks, fails⟩ := lookup_of_outline ⟨dropSeparators entry.heading.name, .classLike⟩ done
  refine ⟨_, Query.ofFields_of_ne_empty .classLike rest, ?_, ?_⟩
  · intro bare
    have kept := dropSeparators_of_isBare (ownBare.mpr bare)
    obtain ⟨number, atNumber⟩ := List.mem_iff_getElem?.mp member
    have same : Category.classLike.SameName (dropSeparators entry.heading.name)
        entry.heading.name := by
      rw [kept]
      exact Category.sameName_refl _ _
    obtain ⟨place, found, earliest⟩ := exists_earliest atNumber same
    refine ⟨found, (picks found).mpr ⟨place, earliest⟩, ?_⟩
    have foundSame : lowercase (dropSeparators entry.heading.name) = lowercase found.name :=
      earliest.sameName
    rw [← foundSame, kept]
  · intro separated
    constructor
    · intro found gives
      obtain ⟨place, earliest⟩ := (picks found).mp gives
      have foundSame : lowercase (dropSeparators entry.heading.name) = lowercase found.name :=
        earliest.sameName
      -- What is found has no separator in front, and every anonymous class has one.
      have foundBare : IsBare found.name :=
        (isBare_iff_of_lowercase_eq foundSame).mp (isBare_dropSeparators _)
      constructor
      · intro same
        exact separated (ownBare.mp ((isBare_iff_of_lowercase_eq same).mp foundBare))
      · rintro other rfl
        by_contra isAnonymous
        have isEntry := List.mem_of_getElem? earliest.atPlace
        have otherBare := (named isEntry (Bool.not_eq_false _ ▸ isAnonymous)).1
        exact separated (otherBare.mp foundBare)
    · have exactly := fails (.notFound .classLike (dropSeparators entry.heading.name) document.origin)
      refine exactly.trans ?_
      constructor
      · rintro ⟨_, none⟩ other isEntry same
        exact none other isEntry same.symm
      · intro none
        exact ⟨rfl, fun other isEntry same => none other isEntry (Eq.symm same)⟩

/-- Settings of which only the prefix is given. -/
def prefixSources (anonymousPrefix : String) : SettingsSources where
  variablePrefix := "OUTLINE_"
  arguments := [("anonymous_class_prefix", .ofString anonymousPrefix)]

def anonymousTree : Tree :=
  .node ⟨"program", 0, 1, none, true, false, false⟩
    [.node ⟨"anonymous_class", 0, 1, none, true, false, false⟩ []]

def anonymousEntry (name : String) : ClassEntry where
  heading := ⟨name, name, none, none, 1, 1, none⟩
  form := .plain
  isAnonymous := true
  modifiers := []
  parentName := none
  interfaceNames := []
  methodNames := []
  constantNames := []

/-- Settings may give a prefix with a separator in front, and then the only class of a document
is not found by its own name. -/
theorem anonymous_notFound :
    Settings.load (prefixSources "\\c") = .valid { anonymousPrefix := "\\c" } ∧
      (outline (.fixed true anonymousTree) (.standard "\\c") (.ofChars 'A' []) .classLike).result =
        .ok [.classLike (anonymousEntry "\\c:1")] ∧
      Query.ofFields [("name", .ofString "\\c:1"), ("type", .ofString "class")] =
        .valid ⟨"c:1", .classLike⟩ ∧
      (lookup (.fixed true anonymousTree) (.standard "\\c") (.ofChars 'A' [])
        ⟨"c:1", .classLike⟩).result = .error (.notFound .classLike "c:1" none) := by
  refine ⟨rfl, by decide +kernel, ?_, by decide +kernel⟩
  exact Query.ofFields_of_ne_empty .classLike (by decide)

/-- With the usual prefix the class is found, and with a separator in front it is not. -/
theorem lookup_anonymous_single :
    (∃ query,
      Query.ofFields [("name", .ofString "class@anonymous:1"), ("type", .ofString "class")] =
        .valid query ∧
      ∃ found, (lookup (.fixed true anonymousTree) (.standard "class@anonymous") (.ofChars 'A' [])
        query).result = .ok found) ∧
    ∃ query,
      Query.ofFields [("name", .ofString "\\c:1"), ("type", .ofString "class")] = .valid query ∧
      ∀ found, (lookup (.fixed true anonymousTree) (.standard "\\c") (.ofChars 'A' [])
        query).result = .ok found → lowercase found.name ≠ lowercase "\\c:1" := by
  have usual : Settings.load (prefixSources "class@anonymous") = .valid {} := rfl
  have marked : Settings.load (prefixSources "\\c") = .valid { anonymousPrefix := "\\c" } := rfl
  have usualDone : (outline (.fixed true anonymousTree) (.standard "class@anonymous")
      (.ofChars 'A' []) .classLike).result = .ok [.classLike (anonymousEntry "class@anonymous:1")] := by
    decide +kernel
  have markedDone : (outline (.fixed true anonymousTree) (.standard "\\c") (.ofChars 'A' [])
      .classLike).result = .ok [.classLike (anonymousEntry "\\c:1")] := by
    decide +kernel
  obtain ⟨query, accepted, finds, _⟩ :=
    lookup_anonymous usual usualDone (List.mem_singleton_self _) rfl
  obtain ⟨other, otherAccepted, _, misses⟩ :=
    lookup_anonymous marked markedDone (List.mem_singleton_self _) rfl
  obtain ⟨found, gives, _⟩ := finds (by decide)
  exact ⟨⟨query, accepted, found, gives⟩, other, otherAccepted,
    fun found gives => ((misses (by decide)).1 found gives).1⟩

end Lookups

end PhpOutline
