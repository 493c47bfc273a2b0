import Mathlib.Data.List.Forall2
import Mathlib.Data.List.TakeWhile

namespace PhpOutline

/-! Lists that are split or related, and outcomes that agree.

Searches along two lists that are related item by item come out alike if they test
related items alike.  Items of the second list that the searches do not look for may
be left out of the comparison.  Outcomes agree if both are the same failure or if
their results are related.
-/

section Splitting

variable {mark : α} {items before after : List α}

/-- No mark comes after the last one.  Without any mark nothing comes before. -/
def SplitsAtLast (mark : α) (items before after : List α) : Prop :=
  mark ∉ after ∧ (before = [] ∧ items = after ∨ items = before ++ mark :: after)

variable [DecidableEq α]

theorem exists_splitsAtLast (mark : α) (items : List α) :
    ∃ before after, SplitsAtLast mark items before after := by
  induction items with
  | nil => exact ⟨[], [], List.not_mem_nil, .inl ⟨rfl, rfl⟩⟩
  | cons item rest inductionHypothesis =>
      obtain ⟨before, after, free, ⟨rfl, rfl⟩ | rfl⟩ := inductionHypothesis
      · by_cases same : item = mark
        · subst item
          exact ⟨[], rest, free, .inr rfl⟩
        · exact ⟨[], item :: rest, by simp [free, Ne.symm same], .inl ⟨rfl, rfl⟩⟩
      · exact ⟨item :: before, after, free, .inr rfl⟩

/-- Read from its end, a list has the mark-free part up to the first mark. -/
theorem SplitsAtLast.reverse_eq (splits : SplitsAtLast mark items before after) :
    items.reverse.takeWhile (· != mark) = after.reverse ∧
      (items.reverse.dropWhile (· != mark)).tail = before.reverse := by
  obtain ⟨free, split⟩ := splits
  have passed : ∀ item ∈ after.reverse, (item != mark) = true := by
    intro item member
    rw [List.mem_reverse] at member
    rw [bne_iff_ne]
    intro same
    exact free (same ▸ member)
  rcases split with ⟨rfl, rfl⟩ | rfl
  · rw [List.takeWhile_eq_self_iff.mpr passed, List.dropWhile_eq_nil_iff.mpr passed]
    exact ⟨rfl, rfl⟩
  · rw [List.reverse_append, List.reverse_cons, List.append_assoc, List.singleton_append,
      List.takeWhile_append_of_pos passed, List.dropWhile_append_of_pos passed]
    simp

theorem SplitsAtLast.unique {otherBefore otherAfter : List α}
    (splits : SplitsAtLast mark items before after)
    (other : SplitsAtLast mark items otherBefore otherAfter) :
    before = otherBefore ∧ after = otherAfter := by
  have sameAfter := splits.reverse_eq.1.symm.trans other.reverse_eq.1
  have sameBefore := splits.reverse_eq.2.symm.trans other.reverse_eq.2
  exact ⟨List.reverse_inj.mp sameBefore, List.reverse_inj.mp sameAfter⟩

end Splitting

variable {R S : α → β → Prop} {left : List α} {right : List β}

theorem forall₂_of_mem (related : List.Forall₂ R left right)
    (each : ∀ first ∈ left, ∀ second ∈ right, R first second → S first second) :
    List.Forall₂ S left right := by
  induction related with
  | nil => exact .nil
  | cons first _ inductionHypothesis =>
      apply List.Forall₂.cons
      · exact each _ List.mem_cons_self _ List.mem_cons_self first
      · apply inductionHypothesis
        intro one isOne other isOther
        exact each one (List.mem_cons_of_mem _ isOne) other (List.mem_cons_of_mem _ isOther)

/-- What follows from related items for pairs of them holds along both lists. -/
theorem pairwise_zip {P : α → α → Prop} {Q : α × β → α × β → Prop}
    (related : List.Forall₂ R left right) (ordered : left.Pairwise P)
    (each : ∀ {first second image other}, P first second → R first image → R second other →
      Q (first, image) (second, other)) :
    (left.zip right).Pairwise Q := by
  have pairs : (left.zip right).Pairwise fun first second => P first.1 second.1 := by
    rw [← List.map_fst_zip (Nat.le_of_eq related.length_eq), List.pairwise_map] at ordered
    exact ordered
  apply pairs.imp_of_mem
  intro first second inFirst inSecond apart
  exact each apart (List.forall₂_zip related inFirst) (List.forall₂_zip related inSecond)

theorem exists_of_mem_left (related : List.Forall₂ R left right) {item : α}
    (member : item ∈ left) : ∃ image ∈ right, R item image := by
  rw [← List.map_fst_zip (Nat.le_of_eq related.length_eq)] at member
  obtain ⟨⟨_, image⟩, paired, rfl⟩ := List.mem_map.mp member
  exact ⟨image, (List.of_mem_zip paired).2, List.forall₂_zip related paired⟩

theorem exists_of_mem_right (related : List.Forall₂ R left right) {image : β}
    (member : image ∈ right) : ∃ item ∈ left, R item image := by
  rw [← List.map_snd_zip (Nat.le_of_eq related.length_eq.symm)] at member
  obtain ⟨⟨item, _⟩, paired, rfl⟩ := List.mem_map.mp member
  exact ⟨item, (List.of_mem_zip paired).1, List.forall₂_zip related paired⟩

theorem forall₂_head? (related : List.Forall₂ R left right) :
    Option.Rel R left.head? right.head? := by
  cases related with
  | nil => exact .none
  | cons first _ => exact .some first

theorem forall₂_getLast? (related : List.Forall₂ R left right) :
    Option.Rel R left.getLast? right.getLast? := by
  rw [← List.head?_reverse, ← List.head?_reverse]
  exact forall₂_head? (List.rel_reverse related)

theorem forall₂_filter {test : α → Bool} {other : β → Bool}
    (related : List.Forall₂ R left right)
    (agree : ∀ first second, R first second → test first = other second) :
    List.Forall₂ R (left.filter test) (right.filter other) :=
  List.rel_filter (fun first second same => Bool.eq_iff_iff.mp (agree first second same)) related

theorem forall₂_find? {test : α → Bool} {other : β → Bool}
    (related : List.Forall₂ R left right)
    (agree : ∀ first second, R first second → test first = other second) :
    Option.Rel R (left.find? test) (right.find? other) := by
  rw [← List.head?_filter, ← List.head?_filter]
  exact forall₂_head? (forall₂_filter related agree)

/-- A test that fails on all that is extra keeps the same with it and without. -/
theorem filter_kept {items : List α} {extra test : α → Bool}
    (dropped : ∀ item ∈ items, extra item = true → test item = false) :
    (items.filter fun item => !extra item).filter test = items.filter test := by
  rw [List.filter_filter]
  apply List.filter_congr
  intro item member
  cases isExtra : extra item with
  | true => rw [dropped item member isExtra, Bool.false_and]
  | false => rw [Bool.not_false, Bool.and_true]

theorem forall₂_filter_kept {extra other : β → Bool} {test : α → Bool}
    (related : List.Forall₂ R left (right.filter fun item => !extra item))
    (agree : ∀ first second, R first second → test first = other second)
    (dropped : ∀ item ∈ right, extra item = true → other item = false) :
    List.Forall₂ R (left.filter test) (right.filter other) := by
  rw [← filter_kept dropped]
  exact forall₂_filter related agree

theorem forall₂_find?_kept {extra other : β → Bool} {test : α → Bool}
    (related : List.Forall₂ R left (right.filter fun item => !extra item))
    (agree : ∀ first second, R first second → test first = other second)
    (dropped : ∀ item ∈ right, extra item = true → other item = false) :
    Option.Rel R (left.find? test) (right.find? other) := by
  rw [← List.head?_filter, ← List.head?_filter]
  exact forall₂_head? (forall₂_filter_kept related agree dropped)

theorem isSome_eq_of_rel {first : Option α} {second : Option β}
    (related : Option.Rel R first second) : first.isSome = second.isSome := by
  cases related with
  | none => rfl
  | some _ => rfl

theorem forall₂_any_kept {extra other : β → Bool} {test : α → Bool}
    (related : List.Forall₂ R left (right.filter fun item => !extra item))
    (agree : ∀ first second, R first second → test first = other second)
    (dropped : ∀ item ∈ right, extra item = true → other item = false) :
    left.any test = right.any other := by
  have found := isSome_eq_of_rel (forall₂_find?_kept related agree dropped)
  rwa [Bool.eq_iff_iff, List.find?_isSome, List.find?_isSome, ← List.any_eq_true,
    ← List.any_eq_true, ← Bool.eq_iff_iff] at found

theorem forall₂_getLast?_kept {extra : β → Bool}
    (related : List.Forall₂ R left (right.filter fun item => !extra item))
    (lastKept : ∀ last, right.getLast? = some last → extra last = false) :
    Option.Rel R left.getLast? right.getLast? := by
  have same : (right.filter fun item => !extra item).getLast? = right.getLast? := by
    cases last : right.getLast? with
    | none => rw [List.getLast?_eq_none_iff.mp last]; rfl
    | some final =>
        obtain ⟨before, rfl⟩ := List.getLast?_eq_some_iff.mp last
        rw [List.filter_append, List.filter_singleton, lastKept final last]
        exact List.getLast?_concat
  rw [← same]
  exact forall₂_getLast? related

theorem forall₂_filterMap_eq {f : α → Option γ} {g : β → Option γ}
    (related : List.Forall₂ R left right)
    (agree : ∀ first second, R first second → f first = g second) :
    left.filterMap f = right.filterMap g := by
  induction related with
  | nil => rfl
  | cons first _ inductionHypothesis =>
      rw [List.filterMap_cons, List.filterMap_cons, agree _ _ first, inductionHypothesis]

theorem filterMap_kept {items : List α} {extra : α → Bool} {f : α → Option β}
    (dropped : ∀ item ∈ items, extra item = true → f item = none) :
    (items.filter fun item => !extra item).filterMap f = items.filterMap f := by
  induction items with
  | nil => rfl
  | cons item rest inductionHypothesis =>
      have later := inductionHypothesis fun other member =>
        dropped other (List.mem_cons_of_mem item member)
      cases isExtra : extra item with
      | true =>
          simp only [List.filter_cons, isExtra, Bool.not_true, Bool.false_eq_true, if_false,
            List.filterMap_cons, dropped item List.mem_cons_self isExtra, later]
      | false =>
          simp only [List.filter_cons, isExtra, Bool.not_false, if_true, List.filterMap_cons, later]

theorem forall₂_filterMap (f : α → Option β) (items : List α) :
    List.Forall₂ (fun item image => f item = some image)
      (items.filter fun item => (f item).isSome) (items.filterMap f) := by
  induction items with
  | nil => exact .nil
  | cons item rest inductionHypothesis =>
      cases given : f item with
      | none =>
          simp only [List.filter_cons, List.filterMap_cons, given, Option.isSome_none,
            Bool.false_eq_true, if_false]
          exact inductionHypothesis
      | some image =>
          simp only [List.filter_cons, List.filterMap_cons, given, Option.isSome_some, if_true]
          exact .cons given inductionHypothesis

/-- Where every second item is an image, the second list is one. -/
theorem exists_map_of_forall₂ {R : α → γ → Prop} {g : γ → β}
    (each : List.Forall₂ (fun first second => ∃ item, R first item ∧ second = g item) left right) :
    ∃ items, right = items.map g ∧ List.Forall₂ R left items := by
  induction each with
  | nil => exact ⟨[], rfl, .nil⟩
  | cons first _ inductionHypothesis =>
      obtain ⟨item, related, rfl⟩ := first
      obtain ⟨items, rfl, later⟩ := inductionHypothesis
      exact ⟨item :: items, rfl, .cons related later⟩

section Outcomes

theorem bind_eq_ok_iff {outcome : Except ε α} {next : α → Except ε β} {result : β} :
    outcome >>= next = .ok result ↔
      ∃ middle, outcome = .ok middle ∧ next middle = .ok result := by
  cases outcome <;> simp [bind, Except.bind]

theorem map_eq_ok_iff {outcome : Except ε α} {f : α → β} {result : β} :
    outcome.map f = .ok result ↔ ∃ middle, outcome = .ok middle ∧ result = f middle := by
  cases outcome <;> simp [Except.map, eq_comm]

/-- Two outcomes are the same failure, or results that belong together. -/
inductive Agree (R : α → β → Prop) : Except ε α → Except ε β → Prop
  | ok {left : α} {right : β} (related : R left right) : Agree R (.ok left) (.ok right)
  | error (failure : ε) : Agree R (.error failure) (.error failure)

theorem Agree.imp {R S : α → β → Prop} {left : Except ε α} {right : Except ε β}
    (agree : Agree R left right) (each : ∀ first second, R first second → S first second) :
    Agree S left right := by
  cases agree with
  | ok related => exact .ok (each _ _ related)
  | error failure => exact .error failure

theorem Agree.refl (outcome : Except ε α) : Agree Eq outcome outcome := by
  cases outcome with
  | error failure => exact .error failure
  | ok result => exact .ok rfl

theorem Agree.eq {left right : Except ε α} (agree : Agree Eq left right) : left = right := by
  cases agree with
  | error failure => rfl
  | ok same => rw [same]

theorem Agree.bind {R : α → β → Prop} {S : γ → δ → Prop} {left : Except ε α} {right : Except ε β}
    {f : α → Except ε γ} {g : β → Except ε δ} (first : Agree R left right)
    (later : ∀ one another, R one another → Agree S (f one) (g another)) :
    Agree S (left >>= f) (right >>= g) := by
  cases first with
  | error failure => exact .error failure
  | ok related => exact later _ _ related

theorem Agree.map {R : α → β → Prop} {S : γ → δ → Prop} {left : Except ε α} {right : Except ε β}
    {f : α → γ} {g : β → δ} (first : Agree R left right)
    (later : ∀ one another, R one another → S (f one) (g another)) :
    Agree S (left.map f) (right.map g) := by
  cases first with
  | error failure => exact .error failure
  | ok related => exact .ok (later _ _ related)

/-- Two outcomes agree, or there is an excuse for the first to be a failure. -/
inductive AgreeUnless (excuse : Prop) (R : α → β → Prop) : Except ε α → Except ε β → Prop
  | agree {left : Except ε α} {right : Except ε β} (agree : Agree R left right) :
      AgreeUnless excuse R left right
  | excused (given : excuse) (failure : ε) (right : Except ε β) :
      AgreeUnless excuse R (.error failure) right

namespace AgreeUnless

variable {excuse : Prop} {R : α → β → Prop} {S : γ → δ → Prop} {left : Except ε α}
  {right : Except ε β}

theorem without_excuse (agree : AgreeUnless False R left right) : Agree R left right := by
  cases agree with
  | agree agree => exact agree
  | excused given => exact given.elim

theorem imp {other : Prop} {T : α → β → Prop} (agree : AgreeUnless excuse R left right)
    (weaker : excuse → other) (each : ∀ first second, R first second → T first second) :
    AgreeUnless other T left right := by
  cases agree with
  | agree agree => exact .agree (agree.imp each)
  | excused given failure right => exact .excused (weaker given) failure right

theorem bind {f : α → Except ε γ} {g : β → Except ε δ} (first : AgreeUnless excuse R left right)
    (later : ∀ one another, R one another → AgreeUnless excuse S (f one) (g another)) :
    AgreeUnless excuse S (left >>= f) (right >>= g) := by
  cases first with
  | excused given failure right => exact .excused given failure _
  | agree agree =>
      cases agree with
      | error failure => exact .agree (.error failure)
      | ok related => exact later _ _ related

theorem map {f : α → γ} {g : β → δ} (first : AgreeUnless excuse R left right)
    (later : ∀ one another, R one another → S (f one) (g another)) :
    AgreeUnless excuse S (left.map f) (right.map g) := by
  cases first with
  | excused given failure right => exact .excused given failure _
  | agree agree => exact .agree (agree.map later)

end AgreeUnless

end Outcomes

end PhpOutline
