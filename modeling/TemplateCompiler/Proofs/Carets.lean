import TemplateCompiler.Proofs.LinePlaces

namespace TemplateCompiler
open Text

def blankBelow (c : Char) : Char := if c = '\t' then '\t' else ' '

theorem newline_not_mem_padding (part : List Char) : '\n' ∉ part.map blankBelow ++ ['^'] := by
  intro member
  rcases List.mem_append.mp member with blank | caret
  · obtain ⟨c, _, same⟩ := List.mem_map.mp blank
    unfold blankBelow at same
    split at same <;> cases same
  · cases List.mem_singleton.mp caret

theorem rest_of_line (after : List Char) :
    ∃ others behind, after = others ++ behind ∧ '\n' ∉ others ∧
      (behind = [] ∨ ∃ further, behind = '\n' :: further) := by
  induction after with
  | nil => exact ⟨[], [], rfl, by simp, .inl rfl⟩
  | cons c rest ih =>
    by_cases newline : c = '\n'
    · exact ⟨[], c :: rest, rfl, by simp, .inr ⟨rest, by rw [newline]⟩⟩
    · obtain ⟨others, behind, rfl, inline, ends⟩ := ih
      refine ⟨c :: others, behind, rfl, ?_, ends⟩
      simpa [inline] using fun same => newline same.symm

namespace Source

-- The line after the one that a newline ends starts behind that newline.
theorem lineText?_of_split (name : String) {lead line behind : List Char}
    (begins : lead = [] ∨ ∃ first, lead = first ++ ['\n']) (inline : '\n' ∉ line)
    (ends : behind = [] ∨ ∃ further, behind = '\n' :: further) :
    lineText? ⟨name, lead ++ line ++ behind⟩ (lead.count '\n' + 1) = some line := by
  have alone := List.count_eq_zero.mpr inline
  have starts := lineStart_boundary name behind inline begins
  rw [List.count_append, alone, Nat.add_zero] at starts
  have between := between?_append lead line behind
  unfold lineText?
  rw [starts]
  dsimp only
  rcases ends with rfl | ⟨further, rfl⟩
  · have beyond : lineStart? ⟨name, lead ++ line ++ []⟩ (lead.count '\n' + 1 + 1) = none := by
      apply lineStart?_beyond
      rw [lineCount, List.append_nil, List.count_append, alone]
      omega
    rw [beyond]
    rw [List.append_nil] at between ⊢
    rwa [bytes, byteLength_append]
  · have next : lineStart? ⟨name, lead ++ line ++ ['\n'] ++ [] ++ further⟩
        ((lead ++ line ++ ['\n'] ++ []).count '\n' + 1) =
          some (byteLength (lead ++ line ++ ['\n'])) :=
      lineStart_boundary name further List.not_mem_nil (.inr ⟨_, rfl⟩)
    have lines : (lead ++ line ++ ['\n']).count '\n' = lead.count '\n' + 1 := by
      simp [alone]
    have stop : byteLength (lead ++ line ++ ['\n']) - 1 = byteLength lead + byteLength line := by
      rw [byteLength_append, byteLength_append]
      exact Nat.add_sub_cancel _ _
    rw [List.append_nil, lines, List.append_assoc _ ['\n'], List.singleton_append] at next
    rw [next]
    dsimp only
    rwa [stop]

theorem toList_caret {source : Source} {lead part others behind : List Char}
    (splits : source.text = lead ++ (part ++ others) ++ behind) (inline : '\n' ∉ part ++ others)
    (begins : lead = [] ∨ ∃ first, lead = first ++ ['\n'])
    (ends : behind = [] ∨ ∃ further, behind = '\n' :: further) :
    (source.caret (source.positionAt (byteLength (lead ++ part)))).toList =
      ['\n'].intercalate [part ++ others, part.map blankBelow ++ ['^']] := by
  have text := lineText?_of_split source.name begins inline ends
  rw [← splits] at text
  have cut : source.text = lead ++ part ++ (others ++ behind) := by
    simp only [splits, List.append_assoc]
  have clean : '\n' ∉ part := mt (List.mem_append_left others) inline
  have position := positionAt_of_lines cut clean begins
  rw [caret, position]
  dsimp only
  rw [text, Option.getD_some, Nat.add_sub_cancel, List.take_left, String.toList_ofList,
    List.intercalate_cons_cons]
  simp [blankBelow]

-- What is shown of a boundary: `part` of its line lies before it and `others` behind it. The search
-- that counts in 32 bits has the same shown.
structure ShowsLine (source : Source) (offset : Nat)
    (lead part others behind padding : List Char) : Prop where
  splits : source.text = lead ++ (part ++ others) ++ behind
  place : byteLength (lead ++ part) = offset
  begins : lead = [] ∨ ∃ first, lead = first ++ ['\n']
  inline : '\n' ∉ part ++ others
  ends : behind = [] ∨ ∃ further, behind = '\n' :: further
  shown : (source.caret (source.positionAt offset)).toList.splitOn '\n' =
    [part ++ others, padding ++ ['^']]
  length : padding.length = part.length
  kept : ∀ (k : Nat) c, part[k]? = some c → padding[k]? = some (blankBelow c)
  searched : source.bytes < 0xFFFFFFFF → ∀ answer,
    Searched (byteTable source.text) offset answer →
      let place := source.searchedPlace answer offset
      source.positionAt offset = ⟨offset, place.1.toNat, place.2.toNat⟩

theorem caret_showsLine {source : Source} {offset : Nat} (boundary : source.IsBoundary offset) :
    ∃ lead part others behind padding,
      source.ShowsLine offset lead part others behind padding := by
  obtain ⟨before, after, splits, rfl⟩ := boundary
  obtain ⟨lead, part, rfl, clean, begins⟩ := lines_then_part before
  obtain ⟨others, behind, rfl, visible, ends⟩ := rest_of_line after
  have inline : '\n' ∉ part ++ others := by simp [clean, visible]
  have whole : source.text = lead ++ (part ++ others) ++ behind := by
    rw [splits]
    simp only [List.append_assoc]
  refine ⟨lead, part, others, behind, part.map blankBelow, whole, rfl, begins, inline, ends,
    ?_, List.length_map _, ?_, ?_⟩
  · rw [toList_caret whole inline begins ends]
    apply List.splitOn_intercalate
    · intro row member
      simp only [List.mem_cons, List.not_mem_nil, or_false] at member
      rcases member with rfl | rfl
      · exact inline
      · exact newline_not_mem_padding part
    · exact List.cons_ne_nil _ _
  · intro k c here
    rw [List.getElem?_map, here]
    rfl
  · intro short answer searched
    obtain ⟨line, column⟩ := searchedPlace_eq short searched
    dsimp only
    rw [line, column]
    rfl

-- A line behind another one, up to its newline, with a tab and runes of more than one byte in it.
def tabbedLine : Source := ⟨"t", ['a', '\n', '\t', 'β', '◊', '\n', 'z']⟩

theorem caret_behind_tabbedLine : tabbedLine.IsBoundary 8 ∧ ∃ lead part others behind padding,
    tabbedLine.ShowsLine 8 lead part others behind padding := by
  have boundary : tabbedLine.IsBoundary 8 :=
    ⟨['a', '\n', '\t', 'β', '◊'], ['\n', 'z'], rfl, rfl⟩
  exact ⟨boundary, caret_showsLine boundary⟩

example : caret ⟨"t", ['a', '\n', '\t', 'β', '◊', '\n', 'z']⟩ ⟨8, 2, 4⟩ = "\tβ◊\n\t  ^" := by decide

end Source
end TemplateCompiler
