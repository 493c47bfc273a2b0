import PhpOutline.Proofs.Declaration.Sources
import PhpOutline.Proofs.Related

namespace PhpOutline

open PhpOutline.Syntax
open PhpOutline.Text (Bytes CodePoint)

section Names

variable {anonymousPrefix : String} {origin otherOrigin : Option String} {line otherLine : Nat}

theorem toList_toString (line : Nat) : (toString line).toList = Nat.toDigits 10 line := by
  rw [Nat.toString_eq_repr, Nat.toList_repr]

theorem colon_notMem_toString (line : Nat) : ':' ∉ (toString line).toList := by
  rw [toList_toString]
  intro member
  have digit := Nat.isDigit_of_mem_toDigits (by decide) (by decide) member
  exact absurd digit (by decide)

theorem ofDigitChars_toString (line : Nat) :
    Nat.ofDigitChars 10 (toString line).toList 0 = line := by
  rw [toList_toString, Nat.ofDigitChars_ten_toDigits]

theorem anonymousName_splitsAtLast (anonymousPrefix : String) (origin : Option String)
    (line : Nat) :
    SplitsAtLast ':' (anonymousName anonymousPrefix origin line).toList
      (anonymousPrefix.toList ++ (origin.getD "").toList) (toString line).toList := by
  refine ⟨colon_notMem_toString line, .inr ?_⟩
  simp [anonymousName]

/-- With one prefix the name tells the line and the origin; an empty origin counts as none. -/
theorem anonymousName_inj :
    anonymousName anonymousPrefix origin line =
        anonymousName anonymousPrefix otherOrigin otherLine ↔
      origin.getD "" = otherOrigin.getD "" ∧ line = otherLine := by
  constructor
  · intro same
    have splits := anonymousName_splitsAtLast anonymousPrefix origin line
    rw [same] at splits
    obtain ⟨before, after⟩ :=
      splits.unique (anonymousName_splitsAtLast anonymousPrefix otherOrigin otherLine)
    have sameOrigin := List.append_cancel_left before
    -- The digits can be read back, so the same digits are the same line.
    have sameLine := ofDigitChars_toString line
    rw [after, ofDigitChars_toString] at sameLine
    exact ⟨String.toList_inj.mp sameOrigin, sameLine.symm⟩
  · rintro ⟨sameOrigin, rfl⟩
    rw [anonymousName, anonymousName, sameOrigin]

end Names

namespace Converter

mutual

/-- What the converter puts in front of the names of anonymous classes, if it takes them. -/
def anonymousPrefix? : Converter → Option String
  | .classLike anonymousPrefix => some anonymousPrefix
  | .function | .constant => none
  | .dispatch parts => firstPrefix? parts

def firstPrefix? : List Converter → Option String
  | [] => none
  | part :: rest => part.anonymousPrefix?.or (firstPrefix? rest)

end

variable {content : Bytes} {node : Location}

mutual

theorem takes_anonymousClass : (converter : Converter) →
    converter.takes .anonymousClass = converter.anonymousPrefix?.isSome
  | .classLike _ | .function | .constant => rfl
  | .dispatch parts => by
      rw [takes, anonymousPrefix?, anyTakes_anonymousClass parts]

theorem anyTakes_anonymousClass : (parts : List Converter) →
    anyTakes .anonymousClass parts = (firstPrefix? parts).isSome
  | [] => rfl
  | part :: rest => by
      rw [anyTakes, firstPrefix?, takes_anonymousClass part, anyTakes_anonymousClass rest,
        Option.isSome_or]

end

mutual

/-- However converters are nested, an anonymous class comes to the first one for classes. -/
theorem convert_anonymous (origin : Option String) (anonymous : node.kind content = .anonymousClass)
    {anonymousPrefix : String} : (converter : Converter) →
    converter.anonymousPrefix? = some anonymousPrefix →
      converter.convert content origin node =
        (node.classEntry content origin anonymousPrefix .anonymousClass).map .classLike
  | .classLike own, given => by
      cases given
      rw [convert, anonymous]
      rfl
  | .function, given => nomatch given
  | .constant, given => nomatch given
  | .dispatch parts, given => by
      rw [convert, convertFirst_anonymous origin anonymous parts given]

theorem convertFirst_anonymous (origin : Option String)
    (anonymous : node.kind content = .anonymousClass) {anonymousPrefix : String} :
    (parts : List Converter) → firstPrefix? parts = some anonymousPrefix →
      convertFirst content origin node parts =
        some ((node.classEntry content origin anonymousPrefix .anonymousClass).map .classLike)
  | [], given => nomatch given
  | part :: rest, given => by
      rw [firstPrefix?] at given
      rw [convertFirst, anonymous, takes_anonymousClass part]
      cases own : part.anonymousPrefix? with
      | none =>
          rw [own, Option.none_or] at given
          exact convertFirst_anonymous origin anonymous rest given
      | some first =>
          rw [own, Option.some_or] at given
          cases given
          rw [convert_anonymous origin anonymous part own]
          rfl

end

/-- The name of an anonymous class comes from where the class is, and not from the text of it. -/
theorem name_of_anonymous {converter : Converter} {anonymousPrefix : String}
    {origin : Option String} {entry : Entry}
    (given : converter.anonymousPrefix? = some anonymousPrefix)
    (anonymous : node.kind content = .anonymousClass)
    (done : converter.convert content origin node = .ok entry) :
    entry.name = anonymousName anonymousPrefix origin (node.startLine content) := by
  rw [convert_anonymous origin anonymous converter given] at done
  obtain ⟨classEntry, read, rfl⟩ := map_eq_ok_iff.mp done
  have reads := Location.classEntry_reads read
  rcases Location.classNames_reads reads.names with ⟨_, _, name, short⟩ | ⟨named, _⟩
  · exact name.trans short
  · exact absurd rfl named

end Converter

section Nodes

variable {converter otherConverter : Converter} {anonymousPrefix : String}
  {content otherContent : Bytes} {origin otherOrigin : Option (List CodePoint)}
  {node otherNode : Location} {entry otherEntry : Entry}

theorem getD_ofString_eq_iff {fileName otherName : Option String} :
    (fileName.map CodePoint.ofString).getD [] = (otherName.map CodePoint.ofString).getD [] ↔
      fileName.getD "" = otherName.getD "" := by
  have spelled (name : Option String) :
      (name.map CodePoint.ofString).getD [] = CodePoint.ofString (name.getD "") := by
    cases name <;> rfl
  rw [spelled, spelled, Text.ofString_inj]

/-- Named with one prefix, two anonymous classes of one document or of two have the same name
exactly if they come from the same origin and start on the same line.  An empty origin counts as
none. -/
theorem anonymousClasses_sameName_iff
    (given : converter.anonymousPrefix? = some anonymousPrefix)
    (otherGiven : otherConverter.anonymousPrefix? = some anonymousPrefix)
    (anonymous : node.kind content = .anonymousClass)
    (otherAnonymous : otherNode.kind otherContent = .anonymousClass)
    (done : converter.record content origin node = .ok entry)
    (otherDone : otherConverter.record otherContent otherOrigin otherNode = .ok otherEntry) :
    entry.name = otherEntry.name ↔
      origin.getD [] = otherOrigin.getD [] ∧
        node.startLine content = otherNode.startLine otherContent := by
  obtain ⟨fileName, rfl, converted⟩ := Converter.record_eq_ok_iff.mp done
  obtain ⟨otherName, rfl, otherConverted⟩ := Converter.record_eq_ok_iff.mp otherDone
  rw [Converter.name_of_anonymous given anonymous converted,
    Converter.name_of_anonymous otherGiven otherAnonymous otherConverted, anonymousName_inj,
    getD_ofString_eq_iff]

/-- An anonymous class with nothing in it. -/
def anonymousNode (start : Nat) : Location :=
  .root (.node ⟨"anonymous_class", start, start + 1, none, true, false, false⟩ [])

def anonymousAt (origin : Option String) (line : Nat) (name : String) : Entry :=
  .classLike
    { heading := ⟨name, name, none, origin, line, line, none⟩
      form := .plain
      isAnonymous := true
      modifiers := []
      parentName := none
      interfaceNames := []
      methodNames := []
      constantNames := [] }

/-- A colon in the origin is not taken for the one in front of the line. -/
theorem anonymousClasses_sameName_colons :
    (Converter.standard "c").record [65, 10, 66] (some (CodePoint.ofString "1:2"))
        (anonymousNode 0) = .ok (anonymousAt (some "1:2") 1 "c1:2:1") ∧
      (Converter.classLike "c").record [65, 10, 66] (some (CodePoint.ofString "1"))
        (anonymousNode 2) = .ok (anonymousAt (some "1") 2 "c1:2") ∧
      (Converter.classLike "c").record [10, 65] none (anonymousNode 1) =
        .ok (anonymousAt none 2 "c:2") ∧
      (Converter.standard "c").record [65, 10, 66] (some []) (anonymousNode 2) =
        .ok (anonymousAt (some "") 2 "c:2") ∧
      (anonymousAt (some "1:2") 1 "c1:2:1").name ≠ (anonymousAt (some "1") 2 "c1:2").name ∧
      (anonymousAt none 2 "c:2").name = (anonymousAt (some "") 2 "c:2").name := by
  have colons : (Converter.standard "c").record [65, 10, 66] (some (CodePoint.ofString "1:2"))
      (anonymousNode 0) = .ok (anonymousAt (some "1:2") 1 "c1:2:1") := by decide +kernel
  have later : (Converter.classLike "c").record [65, 10, 66] (some (CodePoint.ofString "1"))
      (anonymousNode 2) = .ok (anonymousAt (some "1") 2 "c1:2") := by decide +kernel
  have nowhere : (Converter.classLike "c").record [10, 65] none (anonymousNode 1) =
      .ok (anonymousAt none 2 "c:2") := by decide +kernel
  have empty : (Converter.standard "c").record [65, 10, 66] (some []) (anonymousNode 2) =
      .ok (anonymousAt (some "") 2 "c:2") := by decide +kernel
  refine ⟨colons, later, nowhere, empty, ?_, ?_⟩
  · have differ := anonymousClasses_sameName_iff rfl rfl (by decide +kernel) (by decide +kernel)
      colons later
    exact mt differ.mp (by decide +kernel)
  · have same := anonymousClasses_sameName_iff rfl rfl (by decide +kernel) (by decide +kernel)
      nowhere empty
    exact same.mpr (by decide +kernel)

end Nodes

end PhpOutline
