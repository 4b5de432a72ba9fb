namespace TemplateCompiler.Text

def byteLength : List Char → Nat
  | [] => 0
  | c :: rest => c.utf8Size + byteLength rest

@[simp] theorem byteLength_nil : byteLength [] = 0 := rfl

@[simp] theorem byteLength_cons (c : Char) (rest : List Char) :
    byteLength (c :: rest) = c.utf8Size + byteLength rest := rfl

@[simp] theorem byteLength_append (left right : List Char) :
    byteLength (left ++ right) = byteLength left + byteLength right := by
  induction left with
  | nil => simp
  | cons c rest ih => simp [ih, Nat.add_assoc]

theorem byteLength_eq_zero {text : List Char} : byteLength text = 0 ↔ text = [] := by
  cases text with
  | nil => simp
  | cons c rest =>
    have wide := c.utf8Size_pos
    simp only [byteLength_cons, reduceCtorEq, iff_false]
    omega

theorem split_of_le {before after left right : List Char}
    (same : before ++ after = left ++ right) (shorter : byteLength before ≤ byteLength left) :
    ∃ middle, left = before ++ middle ∧ after = middle ++ right := by
  rcases List.append_eq_append_iff.mp same with found | ⟨middle, grown, ends⟩
  · exact found
  · rw [grown, byteLength_append] at shorter
    have empty : middle = [] := byteLength_eq_zero.mp (by omega)
    subst empty
    exact ⟨[], by simpa using grown.symm, by simpa using ends.symm⟩

inductive Cut where
  | between (before after : List Char)
  | inside
  | beyond
deriving DecidableEq

def Cut.push (c : Char) : Cut → Cut
  | .between before after => .between (c :: before) after
  | other => other

def cut (offset : Nat) : List Char → Cut
  | [] => if offset = 0 then .between [] [] else .beyond
  | c :: rest =>
    if offset = 0 then .between [] (c :: rest)
    else if offset < c.utf8Size then .inside
    else (cut (offset - c.utf8Size) rest).push c

theorem cut_between {offset : Nat} {text before after : List Char}
    (falls : cut offset text = .between before after) :
    text = before ++ after ∧ byteLength before = offset := by
  induction text generalizing offset before with
  | nil =>
    unfold cut at falls
    split at falls
    · cases falls; exact ⟨rfl, by simp [*]⟩
    · cases falls
  | cons c rest ih =>
    unfold cut at falls
    split at falls
    · cases falls; exact ⟨rfl, by simp [*]⟩
    · split at falls
      · cases falls
      · cases shorter : cut (offset - c.utf8Size) rest with
        | between left right =>
          rw [shorter] at falls
          cases falls
          obtain ⟨splits, bytes⟩ := ih shorter
          refine ⟨by simp [splits], ?_⟩
          simp only [byteLength_cons, bytes]
          omega
        | inside => rw [shorter] at falls; cases falls
        | beyond => rw [shorter] at falls; cases falls

theorem cut_append (before after : List Char) :
    cut (byteLength before) (before ++ after) = .between before after := by
  induction before with
  | nil => cases after <;> simp [cut]
  | cons c rest ih =>
    have pos := c.utf8Size_pos
    rw [List.cons_append, cut, byteLength_cons, if_neg (by omega), if_neg (by omega),
      Nat.add_sub_cancel_left, ih]
    rfl

theorem split_unique {before after left right : List Char}
    (same : before ++ after = left ++ right) (bytes : byteLength before = byteLength left) :
    before = left ∧ after = right := by
  have first := cut_append before after
  rw [same, bytes, cut_append] at first
  cases first
  exact ⟨rfl, rfl⟩

-- The runes between two byte offsets; none when either falls inside a rune or past the end, or
-- when the first lies after the second.
def between? (start stop : Nat) (text : List Char) : Option (List Char) :=
  match cut stop text with
  | .between before _ =>
    match cut start before with
    | .between _ run => some run
    | _ => none
  | _ => none

theorem between?_append (left run right : List Char) :
    between? (byteLength left) (byteLength left + byteLength run) (left ++ run ++ right) =
      some run := by
  unfold between?
  rw [← byteLength_append, cut_append]
  simp only [cut_append]

theorem between?_eq_some {start stop : Nat} {text run : List Char}
    (found : between? start stop text = some run) :
    ∃ left right, text = left ++ run ++ right ∧ byteLength left = start ∧
      byteLength (left ++ run) = stop := by
  unfold between? at found
  split at found
  · rename_i before right falls
    obtain ⟨splits, bytes⟩ := cut_between falls
    split at found
    · rename_i left middle start
      obtain ⟨grown, less⟩ := cut_between start
      cases Option.some.inj found
      exact ⟨left, right, by rw [splits, grown], less, grown ▸ bytes⟩
    · cases found
  · cases found

end TemplateCompiler.Text
