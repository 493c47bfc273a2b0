import Mathlib.Data.List.Forall2
import PhpOutline.Declaration.Kind
import PhpOutline.Proofs.Text.Utf8

namespace PhpOutline.Text

/-! Lowercase text with separators and of ASCII letters.

A separator has no case and is not passed over, so a sigma sees no letter beyond it, and the
parts around it are lowercased apart.  Outside ASCII only the dotted capital I and the Kelvin
sign have a lowercase form with a letter of ASCII in it.
-/

/-- A run of characters outside ASCII, whose lowercase forms are characters outside ASCII. -/
def CaseRun.IsBeyondAscii (run : CaseRun) : Prop :=
  128 ≤ run.first ∧ 128 ≤ run.target ∧
    (run.target + (run.last - run.first) < 0xD800 ∨
      0xDFFF < run.target ∧ run.target + (run.last - run.first) < 0x110000)

instance (run : CaseRun) : Decidable run.IsBeyondAscii :=
  inferInstanceAs (Decidable (_ ∧ _ ∧ (_ ∨ _ ∧ _)))

theorem lowercaseRuns_cases : ∀ run ∈ lowercaseRuns,
    run = ⟨65, 90, 1, 97⟩ ∨ run = ⟨8490, 8490, 1, 107⟩ ∨ run.IsBeyondAscii := by
  decide +kernel

theorem toLower_ascii : ∀ char : Char, char.toNat < 128 → char.toLower =
    if 65 ≤ char.toNat ∧ char.toNat ≤ 90 then Char.ofNat (97 + (char.toNat - 65)) else char :=
  forall_ascii (by decide +kernel)

theorem toNat_target {run : CaseRun} (member : run ∈ lowercaseRuns) {code : Nat}
    (contained : run.contains code = true) :
    (Char.ofNat (run.target + (code - run.first))).toNat = run.target + (code - run.first) := by
  simp only [CaseRun.contains, Bool.and_eq_true, decide_eq_true_eq] at contained
  apply toNat_ofNat_of_valid
  rcases lowercaseRuns_cases run member with rfl | rfl | ⟨_, _, valid⟩
  · dsimp only at contained ⊢
    omega
  · dsimp only at contained ⊢
    omega
  · omega

/-- A character that is in no run is its own lowercase form, unless it is the dotted capital I. -/
theorem lowercaseChar_cases (char : Char) :
    char = 'İ' ∨
      ((∀ run ∈ lowercaseRuns, run.contains char.toNat = false) ∧ lowercaseChar char = [char]) ∨
      ∃ run ∈ lowercaseRuns, run.contains char.toNat = true ∧
        lowercaseChar char = [Char.ofNat (run.target + (char.toNat - run.first))] := by
  by_cases dotted : char = 'İ'
  · exact .inl dotted
  · rw [lowercaseChar, if_neg dotted]
    cases found : lowercaseRuns.find? (·.contains char.toNat) with
    | none =>
        have skipped := List.find?_eq_none.mp found
        exact .inr (.inl ⟨fun run member => Bool.eq_false_iff.mpr (skipped run member), rfl⟩)
    | some run =>
        have contained := List.find?_some found
        exact .inr (.inr ⟨run, List.mem_of_find?_eq_some found, contained, rfl⟩)

theorem lowercaseChar_ascii {char : Char} (ascii : char.toNat < 128) :
    lowercaseChar char = [char.toLower] := by
  rw [toLower_ascii char ascii]
  rcases lowercaseChar_cases char with rfl | ⟨skipped, same⟩ | ⟨run, member, contained, single⟩
  · exact absurd ascii (by decide)
  · have notUpper : ¬ (65 ≤ char.toNat ∧ char.toNat ≤ 90) := by
      intro upper
      have missed := skipped ⟨65, 90, 1, 97⟩ (by decide +kernel)
      simp [CaseRun.contains, upper, Nat.mod_one] at missed
    rw [same, if_neg notUpper]
  · rw [single]
    simp only [CaseRun.contains, Bool.and_eq_true, decide_eq_true_eq] at contained
    rcases lowercaseRuns_cases run member with rfl | rfl | ⟨first, _⟩
    · rw [if_pos contained.1]
    · exact absurd (Nat.le_trans contained.1.1 (Nat.le_of_lt ascii)) (by decide)
    · omega

/-- Outside ASCII a lowercase form has no letter of ASCII, apart from two characters. -/
theorem lowercaseChar_beyond {char : Char} (beyond : 128 ≤ char.toNat) :
    char = 'İ' ∨ char = '\u212A' ∨ ∃ lower, lowercaseChar char = [lower] ∧ 128 ≤ lower.toNat := by
  rcases lowercaseChar_cases char with dotted | ⟨_, same⟩ | ⟨run, member, contained, single⟩
  · exact .inl dotted
  · exact .inr (.inr ⟨char, same, beyond⟩)
  · have value := toNat_target member contained
    simp only [CaseRun.contains, Bool.and_eq_true, decide_eq_true_eq] at contained
    rcases lowercaseRuns_cases run member with rfl | rfl | ⟨_, target, _⟩
    · exact absurd (Nat.le_trans beyond contained.1.2) (by decide)
    · have kelvin : char.toNat = 8490 := Nat.le_antisymm contained.1.2 contained.1.1
      refine .inr (.inl ?_)
      rw [← Char.ofNat_toNat char, kelvin]
    · refine .inr (.inr ⟨_, single, ?_⟩)
      rw [value]
      omega

theorem lowercaseAt_ascii {char : Char} (before : List Char) (ascii : char.toNat < 128)
    (after : List Char) : lowercaseAt before char after = [char.toLower] := by
  have notSigma : char ≠ 'Σ' := by
    rintro rfl
    exact absurd ascii (by decide)
  rw [lowercaseAt, if_neg notSigma, lowercaseChar_ascii ascii]

/-- A character outside ASCII keeps something that no word of ASCII letters without `k` has. -/
theorem lowercaseAt_beyond {char : Char} (before : List Char) (beyond : 128 ≤ char.toNat)
    (after : List Char) :
    ∃ lower ∈ lowercaseAt before char after, 128 ≤ lower.toNat ∨ lower = 'k' := by
  unfold lowercaseAt
  split
  · split
    · exact ⟨'ς', List.mem_singleton_self _, .inl (by decide)⟩
    · exact ⟨'σ', List.mem_singleton_self _, .inl (by decide)⟩
  · rcases lowercaseChar_beyond beyond with rfl | rfl | ⟨lower, single, outside⟩
    · exact ⟨'\u0307', by decide +kernel, .inl (by decide)⟩
    · exact ⟨'k', by decide +kernel, .inr rfl⟩
    · exact ⟨lower, single ▸ List.mem_singleton_self lower, .inl outside⟩

section Separators

theorem facesCased_append_separator (chars rest : List Char) :
    facesCased (chars ++ separator :: rest) = facesCased chars := by
  have kept : (separator :: rest).dropWhile isCaseIgnorable = separator :: rest :=
    List.dropWhile_cons_of_neg (by decide +kernel)
  have caseless : isCased separator = false := by decide +kernel
  unfold facesCased
  rw [List.dropWhile_append]
  cases chars.dropWhile isCaseIgnorable with
  | nil => simp [kept, caseless]
  | cons next others => rfl

theorem lowercaseAt_separator (before after : List Char) :
    lowercaseAt before separator after = [separator] := by
  rw [lowercaseAt_ascii before (by decide)]
  rfl

/-- No letter behind a separator counts for what is before it. -/
theorem lowercaseAt_append_separator (before : List Char) (char : Char) (left right : List Char) :
    lowercaseAt before char (left ++ separator :: right) = lowercaseAt before char left := by
  unfold lowercaseAt
  rw [facesCased_append_separator]

theorem lowercaseAt_beyond_separator (before outer : List Char) (char : Char)
    (after : List Char) :
    lowercaseAt (before ++ separator :: outer) char after = lowercaseAt before char after := by
  unfold lowercaseAt
  rw [facesCased_append_separator]

theorem lowercaseAfter_beyond_separator (before outer chars : List Char) :
    lowercaseAfter (before ++ separator :: outer) chars = lowercaseAfter before chars := by
  induction chars generalizing before with
  | nil => rfl
  | cons char rest inductionHypothesis =>
      rw [lowercaseAfter, lowercaseAfter, lowercaseAt_beyond_separator, ← List.cons_append,
        inductionHypothesis]

/-- The parts around a separator are lowercased apart. -/
theorem lowercaseAfter_append_separator (before left right : List Char) :
    lowercaseAfter before (left ++ separator :: right) =
      lowercaseAfter before left ++ separator :: lowercaseChars right := by
  induction left generalizing before with
  | nil =>
      have restart := lowercaseAfter_beyond_separator [] before right
      rw [List.nil_append] at restart
      simp only [List.nil_append, lowercaseAfter, lowercaseAt_separator, restart]
      rfl
  | cons char left inductionHypothesis =>
      rw [List.cons_append, lowercaseAfter, lowercaseAfter, lowercaseAt_append_separator,
        inductionHypothesis, List.append_assoc]

theorem lowercaseChars_append_separator (left right : List Char) :
    lowercaseChars (left ++ separator :: right) =
      lowercaseChars left ++ separator :: lowercaseChars right :=
  lowercaseAfter_append_separator [] left right

theorem eq_separator_of_toLower : ∀ char : Char, char.toNat < 128 →
    char.toLower = separator → char = separator :=
  forall_ascii (by decide +kernel)

theorem separator_notMem_lowercaseAt (before : List Char) {char : Char} (other : char ≠ separator)
    (after : List Char) : separator ∉ lowercaseAt before char after := by
  by_cases ascii : char.toNat < 128
  · rw [lowercaseAt_ascii before ascii, List.mem_singleton]
    exact fun same => other (eq_separator_of_toLower char ascii same.symm)
  · unfold lowercaseAt
    split
    · split <;> decide
    · rcases lowercaseChar_beyond (Nat.le_of_not_lt ascii) with
        rfl | rfl | ⟨lower, single, outside⟩
      · decide +kernel
      · decide +kernel
      · rw [single, List.mem_singleton]
        rintro rfl
        exact absurd outside (by decide)

theorem separator_notMem_lowercaseAfter (before : List Char) {chars : List Char}
    (free : separator ∉ chars) : separator ∉ lowercaseAfter before chars := by
  induction chars generalizing before with
  | nil => exact List.not_mem_nil
  | cons char rest inductionHypothesis =>
      simp only [List.mem_cons, not_or] at free
      rw [lowercaseAfter, List.mem_append, not_or]
      exact ⟨separator_notMem_lowercaseAt before (Ne.symm free.1) rest,
        inductionHypothesis (char :: before) free.2⟩

theorem separator_mem_lowercaseChars_iff {chars : List Char} :
    separator ∈ lowercaseChars chars ↔ separator ∈ chars := by
  constructor
  · intro inLower
    by_contra free
    exact separator_notMem_lowercaseAfter [] free inLower
  · intro member
    obtain ⟨left, right, rfl⟩ := List.append_of_mem member
    rw [lowercaseChars_append_separator]
    exact List.mem_append_right _ List.mem_cons_self

end Separators

/-- The characters are those of the word in ASCII, each in lower or in upper case. -/
def Spells (chars word : List Char) : Prop :=
  List.Forall₂ (fun char letter => char.toNat < 128 ∧ char.toLower = letter) chars word

/-- A word of ASCII letters without `k` is the lowercase form of the same word in other cases
alone. -/
theorem lowercaseAfter_eq_iff {chars word : List Char} (before : List Char)
    (plain : ∀ letter ∈ word, letter.toNat < 128 ∧ letter ≠ 'k') :
    lowercaseAfter before chars = word ↔ Spells chars word := by
  unfold Spells
  induction chars generalizing before word with
  | nil => simp [lowercaseAfter, eq_comm]
  | cons char rest inductionHypothesis =>
      rw [lowercaseAfter, List.forall₂_cons_left_iff]
      by_cases ascii : char.toNat < 128
      · rw [lowercaseAt_ascii before ascii, List.singleton_append]
        constructor
        · rintro rfl
          have later := fun letter member => plain letter (List.mem_cons_of_mem _ member)
          exact ⟨_, _, ⟨ascii, rfl⟩, (inductionHypothesis _ later).mp rfl, rfl⟩
        · rintro ⟨_, others, ⟨_, rfl⟩, related, rfl⟩
          have later := fun letter member => plain letter (List.mem_cons_of_mem _ member)
          rw [(inductionHypothesis _ later).mpr related]
      · apply iff_of_false
        · rintro rfl
          obtain ⟨lower, member, outside⟩ :=
            lowercaseAt_beyond before (Nat.le_of_not_lt ascii) rest
          obtain ⟨inAscii, notK⟩ := plain lower (List.mem_append_left _ member)
          exact outside.elim (Nat.not_le_of_lt inAscii) notK
        · rintro ⟨_, _, ⟨inAscii, _⟩, _⟩
          exact ascii inAscii

end PhpOutline.Text
