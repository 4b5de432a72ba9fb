namespace TemplateCompiler

-- What a binary search may answer: an index of what was wanted, or where it would have to stand.
inductive Searched (items : List Nat) (wanted : Nat) : Except Nat Nat → Prop
  | hit {index} (found : items[index]? = some wanted) : Searched items wanted (.ok index)
  | gap {index} (within : index ≤ items.length) (below : ∀ item ∈ items.take index, item < wanted)
      (above : ∀ item ∈ items.drop index, wanted < item) : Searched items wanted (.error index)

-- Where the one item stands that is left when `size` items from `base` on are halved. The item in
-- the middle stays when it is not greater than what is wanted.
def halve (items : List Nat) (wanted base size : Nat) : Nat :=
  if size ≤ 1 then base
  else
    let middle := base + size / 2
    let base := if items[middle]?.any (wanted < ·) then base else middle
    halve items wanted base (size - size / 2)
termination_by size

def bisect (items : List Nat) (wanted : Nat) : Except Nat Nat :=
  let index := halve items wanted 0 items.length
  match items[index]? with
  | none => .error index
  | some item =>
    if item = wanted then .ok index
    else if item < wanted then .error (index + 1)
    else .error index

-- Every item before the range is less than what is wanted and every item behind it is greater.
structure Bracketed (items : List Nat) (wanted base size : Nat) : Prop where
  within : base + size ≤ items.length
  below : ∀ {index item}, index < base → items[index]? = some item → item < wanted
  above : ∀ {index item}, base + size ≤ index → items[index]? = some item → wanted < item

theorem ascending {items : List Nat} (sorted : items.Pairwise (· < ·))
    {first second one other : Nat} (less : first < second)
    (before : items[first]? = some one) (behind : items[second]? = some other) :
    one < other := by
  obtain ⟨_, rfl⟩ := List.getElem?_eq_some_iff.mp before
  obtain ⟨_, rfl⟩ := List.getElem?_eq_some_iff.mp behind
  exact List.pairwise_iff_getElem.mp sorted _ _ _ _ less

namespace Bracketed
variable {items : List Nat} {wanted base size : Nat}

theorem whole (items : List Nat) (wanted : Nat) : Bracketed items wanted 0 items.length where
  within := Nat.le_of_eq (Nat.zero_add _)
  below impossible := absurd impossible (Nat.not_lt_zero _)
  above past found := by
    have within := (List.getElem?_eq_some_iff.mp found).1
    omega

theorem step (sorted : items.Pairwise (· < ·)) (bracketed : Bracketed items wanted base size)
    (several : 1 < size) :
    Bracketed items wanted
      (if items[base + size / 2]?.any (wanted < ·) then base else base + size / 2)
      (size - size / 2) := by
  have within := bracketed.within
  obtain ⟨item, middle⟩ : ∃ item, items[base + size / 2]? = some item :=
    ⟨_, List.getElem?_eq_getElem (by omega)⟩
  rw [middle, Option.any_some]
  by_cases beyond : wanted < item
  · rw [decide_eq_true beyond, if_pos rfl]
    refine ⟨by omega, bracketed.below, ?_⟩
    intro index later further found
    rcases Nat.lt_or_eq_of_le (show base + size / 2 ≤ index by omega) with less | rfl
    · exact Nat.lt_trans beyond (ascending sorted less middle found)
    · cases Option.some.inj (middle.symm.trans found)
      exact beyond
  · rw [decide_eq_false beyond, if_neg Bool.false_ne_true]
    refine ⟨by omega, ?_, ?_⟩
    · intro index earlier less found
      have before := ascending sorted less found middle
      omega
    · intro index later further found
      exact bracketed.above (by omega) found

theorem halved (sorted : items.Pairwise (· < ·)) (bracketed : Bracketed items wanted base size)
    (filled : 0 < size) : Bracketed items wanted (halve items wanted base size) 1 := by
  -- Half of two items or more is less than all of them, and never nothing.
  induction size using Nat.strongRecOn generalizing base with
  | ind size ih =>
    unfold halve
    split
    · have one : size = 1 := by omega
      rwa [one] at bracketed
    · exact ih _ (by omega) (bracketed.step sorted (by omega)) (by omega)

theorem behind_item (bracketed : Bracketed items wanted base 1) {item : Nat}
    (found : items[base]? = some item) (less : item < wanted) :
    Bracketed items wanted (base + 1) 0 := by
  refine ⟨bracketed.within, ?_, bracketed.above⟩
  intro index other past there
  rcases Nat.lt_succ_iff_lt_or_eq.mp past with earlier | rfl
  · exact bracketed.below earlier there
  · cases Option.some.inj (found.symm.trans there)
    exact less

theorem before_item (bracketed : Bracketed items wanted base 1) {item : Nat}
    (found : items[base]? = some item) (more : wanted < item) :
    Bracketed items wanted base 0 := by
  refine ⟨Nat.le_of_lt bracketed.within, bracketed.below, ?_⟩
  intro index other past there
  rcases Nat.lt_or_eq_of_le past with further | rfl
  · exact bracketed.above further there
  · cases Option.some.inj (found.symm.trans there)
    exact more

theorem searched (bracketed : Bracketed items wanted base 0) :
    Searched items wanted (.error base) := by
  refine .gap bracketed.within ?_ ?_
  · intro item member
    obtain ⟨index, less, rfl⟩ := List.mem_take_iff_getElem.mp member
    exact bracketed.below (by omega) (List.getElem?_eq_getElem _)
  · intro item member
    obtain ⟨index, found⟩ := List.mem_iff_getElem?.mp member
    rw [List.getElem?_drop] at found
    exact bracketed.above (Nat.le_add_right _ _) found

end Bracketed

theorem searched_bisect {items : List Nat} (sorted : items.Pairwise (· < ·)) (wanted : Nat) :
    Searched items wanted (bisect items wanted) := by
  have whole := Bracketed.whole items wanted
  rcases Nat.eq_zero_or_pos items.length with empty | filled
  · cases List.length_eq_zero_iff.mp empty
    have nowhere : bisect [] wanted = .error 0 := by simp [bisect, halve]
    rw [nowhere]
    exact whole.searched
  · have bracketed := whole.halved sorted filled
    unfold bisect
    generalize halve items wanted 0 items.length = index at bracketed ⊢
    have found := List.getElem?_eq_getElem bracketed.within
    dsimp only
    rw [found]
    dsimp only
    split
    · next same => exact .hit (same ▸ found)
    · next other =>
      split
      · next less => exact (bracketed.behind_item found less).searched
      · next past => exact (bracketed.before_item found (by omega)).searched

end TemplateCompiler
