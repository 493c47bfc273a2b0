import PhpOutline.Proofs.Text.Lowercase

namespace PhpOutline.Text

/-! Lower case in full, and that of ASCII alone.

`String.toLower` changes the letters from A to Z and leaves every other character alone.  Texts
that it makes the same are the same in full lower case as well.  The two lower cases of a text
agree exactly if all of its capitals are in ASCII.
-/

section Runs

/-- No character that the run leads to is one of the other run: they lie apart, or the other
run has only every second character and the run leads to those in between. -/
def CaseRun.misses (run other : CaseRun) : Bool :=
  Nat.blt (run.target + (run.last - run.first)) other.first || Nat.blt other.last run.target ||
    (other.stride == 2 && (run.stride == 2 || run.first == run.last) &&
      (run.target + other.first) % 2 == 1)

theorem CaseRun.contains_target {run other : CaseRun} {code : Nat}
    (missed : run.misses other = true) (contained : run.contains code = true) :
    other.contains (run.target + (code - run.first)) = false := by
  rw [← Bool.not_eq_true]
  intro otherContained
  simp only [contains, Bool.and_eq_true, decide_eq_true_eq, beq_iff_eq] at contained otherContained
  simp only [misses, Nat.blt_eq, Bool.or_eq_true, Bool.and_eq_true, beq_iff_eq] at missed
  rcases missed with (below | above) | ⟨⟨otherStride, step⟩, odd⟩
  · omega
  · omega
  · rw [otherStride] at otherContained
    rcases step with stride | single
    · rw [stride] at contained
      omega
    · omega

/-- The runs lead to no character that has a lowercase form itself.  The first two stand for the
dotted capital I and for capital sigma, which are in no run. -/
theorem lowercaseRuns_miss : (lowercaseRuns.all fun run =>
    (⟨304, 304, 1, 105⟩ :: ⟨931, 931, 1, 963⟩ :: lowercaseRuns).all run.misses) = true := by
  decide +kernel

end Runs

section Characters

variable {char lower : Char}

/-- On its own the character is in lower case already. -/
def IsLowercase (char : Char) : Prop :=
  lowercaseAt [] char [] = [char]

instance (char : Char) : Decidable (IsLowercase char) :=
  inferInstanceAs (Decidable (_ = _))

theorem isLowercase_iff : IsLowercase char ↔ char ≠ 'Σ' ∧ lowercaseChar char = [char] := by
  unfold IsLowercase lowercaseAt
  by_cases sigma : char = 'Σ'
  · subst char
    simp [facesCased]
  · simp [sigma]

theorem IsLowercase.lowercaseAt_eq (isLower : IsLowercase char) (before after : List Char) :
    lowercaseAt before char after = [char] := by
  obtain ⟨notSigma, same⟩ := isLowercase_iff.mp isLower
  rw [lowercaseAt, if_neg notSigma, same]

theorem toLower_beyond (beyond : 128 ≤ char.toNat) : char.toLower = char := by
  have notUpper : ¬ (char.val ≥ 'A'.val ∧ char.val ≤ 'Z'.val) := by
    intro upper
    have last : char.toNat ≤ 90 := UInt32.le_iff_toNat_le.mp upper.2
    omega
  exact dif_neg notUpper

/-- Only a character in lower case is at the start of its own lowercase form. -/
theorem lowercaseAt_cases (before : List Char) (char : Char) (after : List Char) :
    IsLowercase char ∨
      ∃ first rest, lowercaseAt before char after = first :: rest ∧ first ≠ char := by
  by_cases sigma : char = 'Σ'
  · subst char
    right
    rw [lowercaseAt, if_pos rfl]
    split
    · exact ⟨'ς', [], rfl, by decide⟩
    · exact ⟨'σ', [], rfl, by decide⟩
  · rw [lowercaseAt, if_neg sigma, isLowercase_iff]
    rcases lowercaseChar_cases char with rfl | ⟨_, same⟩ | ⟨run, _, _, single⟩
    · exact .inr ⟨'i', ['\u0307'], rfl, by decide⟩
    · exact .inl ⟨sigma, same⟩
    · rw [single]
      by_cases same : Char.ofNat (run.target + (char.toNat - run.first)) = char
      · exact .inl ⟨sigma, by rw [same]⟩
      · exact .inr ⟨_, [], rfl, same⟩

theorem isLowercase_target {run : CaseRun} (member : run ∈ lowercaseRuns) {code : Nat}
    (contained : run.contains code = true) :
    IsLowercase (Char.ofNat (run.target + (code - run.first))) := by
  have value := toNat_target member contained
  have missed := List.all_eq_true.mp (List.all_eq_true.mp lowercaseRuns_miss run member)
  have apart := fun other isOther => CaseRun.contains_target (missed other isOther) contained
  generalize Char.ofNat (run.target + (code - run.first)) = target at value ⊢
  rw [← value] at apart
  refine isLowercase_iff.mpr ⟨?_, ?_⟩
  · rintro rfl
    exact absurd (apart ⟨931, 931, 1, 963⟩ (by simp)) (by decide)
  · rcases lowercaseChar_cases target with rfl | ⟨_, same⟩ | ⟨other, isOther, inOther, _⟩
    · exact absurd (apart ⟨304, 304, 1, 105⟩ (by simp)) (by decide)
    · exact same
    · have outside := apart other (List.mem_cons_of_mem _ (List.mem_cons_of_mem _ isOther))
      rw [inOther] at outside
      cases outside

theorem isLowercase_of_mem_lowercaseAt {before after : List Char}
    (member : lower ∈ lowercaseAt before char after) : IsLowercase lower := by
  unfold lowercaseAt at member
  split at member
  · split at member
    · cases List.mem_singleton.mp member
      decide +kernel
    · cases List.mem_singleton.mp member
      decide +kernel
  · rename_i notSigma
    rcases lowercaseChar_cases char with rfl | ⟨_, same⟩ | ⟨run, isRun, contained, single⟩
    · rcases List.mem_pair.mp member with rfl | rfl
      · decide +kernel
      · decide +kernel
    · rw [same] at member
      cases List.mem_singleton.mp member
      exact isLowercase_iff.mpr ⟨notSigma, same⟩
    · rw [single] at member
      cases List.mem_singleton.mp member
      exact isLowercase_target isRun contained

end Characters

section Texts

variable {text : String}

theorem lowercaseAfter_of_isLowercase (before : List Char) {chars : List Char}
    (all : ∀ char ∈ chars, IsLowercase char) : lowercaseAfter before chars = chars := by
  induction chars generalizing before with
  | nil => rfl
  | cons char rest inductionHypothesis =>
      rw [List.forall_mem_cons] at all
      rw [lowercaseAfter, all.1.lowercaseAt_eq, inductionHypothesis _ all.2, List.singleton_append]

theorem isLowercase_of_mem_lowercaseAfter (before chars : List Char) :
    ∀ lower ∈ lowercaseAfter before chars, IsLowercase lower := by
  induction chars generalizing before with
  | nil => exact fun _ member => absurd member List.not_mem_nil
  | cons char rest inductionHypothesis =>
      intro lower member
      rcases List.mem_append.mp member with here | later
      · exact isLowercase_of_mem_lowercaseAt here
      · exact inductionHypothesis (char :: before) lower later

theorem lowercase_lowercase (text : String) : lowercase (lowercase text) = lowercase text := by
  have settled := lowercaseAfter_of_isLowercase []
    (isLowercase_of_mem_lowercaseAfter [] text.toList)
  rw [lowercase, lowercase, String.toList_ofList, lowercaseChars, lowercaseChars, settled]

/-- The capitals of the text are in ASCII: any other character is in lower case. -/
def IsAsciiCased (text : String) : Prop :=
  ∀ char ∈ text.toList, 128 ≤ char.toNat → IsLowercase char

instance (text : String) : Decidable (IsAsciiCased text) :=
  List.decidableBAll (fun char : Char => 128 ≤ char.toNat → IsLowercase char) text.toList

theorem isAsciiCased_lowercase (text : String) : IsAsciiCased (lowercase text) := by
  intro char member _
  rw [lowercase, String.toList_ofList] at member
  exact isLowercase_of_mem_lowercaseAfter [] text.toList char member

theorem lowercaseAfter_eq_map_iff (before chars : List Char) :
    lowercaseAfter before chars = chars.map Char.toLower ↔
      ∀ char ∈ chars, 128 ≤ char.toNat → IsLowercase char := by
  induction chars generalizing before with
  | nil => simp [lowercaseAfter]
  | cons char rest inductionHypothesis =>
      rw [lowercaseAfter, List.map_cons, List.forall_mem_cons]
      by_cases ascii : char.toNat < 128
      · rw [lowercaseAt_ascii before ascii, List.singleton_append, List.cons_inj_right,
          inductionHypothesis]
        exact (and_iff_right fun beyond => absurd ascii (Nat.not_lt_of_le beyond)).symm
      · have beyond := Nat.le_of_not_lt ascii
        rw [toLower_beyond beyond]
        rcases lowercaseAt_cases before char rest with isLower | ⟨first, others, starts, other⟩
        · rw [isLower.lowercaseAt_eq, List.singleton_append, List.cons_inj_right,
            inductionHypothesis]
          exact (and_iff_right fun _ => isLower).symm
        · -- The two lower cases differ here, since that of ASCII keeps the character.
          apply iff_of_false
          · intro same
            rw [starts, List.cons_append] at same
            exact other (List.cons.inj same).1
          · intro all
            have alone := (all.1 beyond).lowercaseAt_eq before rest
            rw [starts] at alone
            exact other (List.cons.inj alone).1

theorem toList_toLower (text : String) : text.toLower.toList = text.toList.map Char.toLower :=
  String.toList_map

theorem lowercase_eq_toLower_iff : lowercase text = text.toLower ↔ IsAsciiCased text := by
  rw [← String.toList_inj, lowercase, String.toList_ofList, toList_toLower]
  exact lowercaseAfter_eq_map_iff [] text.toList

theorem IsAsciiCased.lowercase_eq_iff {first second : String} (ascii : IsAsciiCased first)
    (otherAscii : IsAsciiCased second) :
    lowercase first = lowercase second ↔ first.toLower = second.toLower := by
  rw [lowercase_eq_toLower_iff.mpr ascii, lowercase_eq_toLower_iff.mpr otherAscii]

end Texts

section Context

/-- A letter from A to Z in one of its two cases. -/
def IsAsciiLetter (char : Char) : Prop :=
  65 ≤ char.toNat ∧ char.toNat ≤ 90 ∨ 97 ≤ char.toNat ∧ char.toNat ≤ 122

instance (char : Char) : Decidable (IsAsciiLetter char) :=
  inferInstanceAs (Decidable (_ ∧ _ ∨ _ ∧ _))

theorem toLower_ascii_cases : ∀ char : Char, char.toNat < 128 →
    char.toLower = char ∨ IsAsciiLetter char ∧ IsAsciiLetter char.toLower :=
  forall_ascii (by decide +kernel)

theorem toLower_cases (char : Char) :
    char.toLower = char ∨ IsAsciiLetter char ∧ IsAsciiLetter char.toLower := by
  by_cases ascii : char.toNat < 128
  · exact toLower_ascii_cases char ascii
  · exact .inl (toLower_beyond (Nat.le_of_not_lt ascii))

theorem caseIgnorableRanges_letters : ∀ range ∈ caseIgnorableRanges,
    range.2 < 65 ∨ 90 < range.1 ∧ range.2 < 97 ∨ 122 < range.1 := by
  decide +kernel

/-- A letter of ASCII is not passed over, and has a case. -/
theorem IsAsciiLetter.context {char : Char} (letter : IsAsciiLetter char) :
    isCaseIgnorable char = false ∧ isCased char = true := by
  constructor
  · rw [isCaseIgnorable, inRanges, List.any_eq_false]
    intro range member inside
    have apart := caseIgnorableRanges_letters range member
    simp only [Bool.and_eq_true, decide_eq_true_eq] at inside
    unfold IsAsciiLetter at letter
    omega
  · rw [isCased, inRanges, List.any_eq_true]
    rcases letter with upper | lower
    · exact ⟨(65, 90), by simp [casedRanges], by simpa using upper⟩
    · exact ⟨(97, 122), by simp [casedRanges], by simpa using lower⟩

theorem context_toLower (char : Char) :
    isCaseIgnorable char.toLower = isCaseIgnorable char ∧
      isCased char.toLower = isCased char := by
  rcases toLower_cases char with same | ⟨letter, lower⟩
  · rw [same]
    exact ⟨rfl, rfl⟩
  · exact ⟨lower.context.1.trans letter.context.1.symm,
      lower.context.2.trans letter.context.2.symm⟩

theorem facesCased_map_toLower (chars : List Char) :
    facesCased (chars.map Char.toLower) = facesCased chars := by
  have passes : isCaseIgnorable ∘ Char.toLower = isCaseIgnorable :=
    funext fun char => (context_toLower char).1
  unfold facesCased
  rw [List.dropWhile_map, passes]
  cases chars.dropWhile isCaseIgnorable with
  | nil => rfl
  | cons next rest => exact (context_toLower next).2

theorem toLower_toLower_ascii : ∀ char : Char, char.toNat < 128 →
    char.toLower.toNat < 128 ∧ char.toLower.toLower = char.toLower :=
  forall_ascii (by decide +kernel)

theorem lowercaseAt_toLower (before : List Char) (char : Char) (after : List Char) :
    lowercaseAt (before.map Char.toLower) char.toLower (after.map Char.toLower) =
      lowercaseAt before char after := by
  by_cases ascii : char.toNat < 128
  · obtain ⟨lowerAscii, settled⟩ := toLower_toLower_ascii char ascii
    rw [lowercaseAt_ascii _ lowerAscii, lowercaseAt_ascii _ ascii, settled]
  · rw [toLower_beyond (Nat.le_of_not_lt ascii)]
    unfold lowercaseAt
    rw [facesCased_map_toLower, facesCased_map_toLower]

theorem lowercaseAfter_map_toLower (before chars : List Char) :
    lowercaseAfter (before.map Char.toLower) (chars.map Char.toLower) =
      lowercaseAfter before chars := by
  induction chars generalizing before with
  | nil => rfl
  | cons char rest inductionHypothesis =>
      rw [List.map_cons, lowercaseAfter, lowercaseAfter, lowercaseAt_toLower, ← List.map_cons,
        inductionHypothesis]

/-- The cases of the letters in ASCII do not count in lower case. -/
theorem lowercase_toLower (text : String) : lowercase text.toLower = lowercase text := by
  have kept := lowercaseAfter_map_toLower [] text.toList
  rw [List.map_nil] at kept
  rw [lowercase, lowercase, toList_toLower, lowercaseChars, lowercaseChars, kept]

theorem lowercase_eq_of_toLower_eq {first second : String} (same : first.toLower = second.toLower) :
    lowercase first = lowercase second := by
  rw [← lowercase_toLower first, same, lowercase_toLower]

end Context

end PhpOutline.Text
