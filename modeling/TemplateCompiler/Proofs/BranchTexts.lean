import TemplateCompiler.Proofs.Decoding
import TemplateCompiler.Proofs.Nesting

namespace TemplateCompiler
open Text Code

def elseIfCode (gap space header : List Char) : List Char :=
  '}' :: gap ++ ['e', 'l', 's', 'e'] ++ space ++ ['i', 'f'] ++ header ++ ['{']

theorem run_unique {set : Char → Bool} {left right first second : List Char}
    (inside : ∀ c ∈ left, set c) (outside : ∀ c ∈ first.head?, set c = false)
    (within : ∀ c ∈ right, set c) (beyond : ∀ c ∈ second.head?, set c = false)
    (same : left ++ first = right ++ second) : left = right ∧ first = second := by
  have runs : left = right := by
    rw [← takeWhile_run inside outside, same, takeWhile_run within beyond]
  subst runs
  exact ⟨rfl, List.append_cancel_left same⟩

theorem elseIfCode_inj {gap space header otherGap otherSpace otherHeader : List Char}
    (gapBlank : ∀ c ∈ gap, isBlank c) (spaceBlank : ∀ c ∈ space, isBlank c)
    (otherGapBlank : ∀ c ∈ otherGap, isBlank c) (otherSpaceBlank : ∀ c ∈ otherSpace, isBlank c) :
    elseIfCode gap space header = elseIfCode otherGap otherSpace otherHeader ↔
      gap = otherGap ∧ space = otherSpace ∧ header = otherHeader := by
  have solid (c : Char) (rest : List Char) (letter : isBlank c = false) :
      ∀ d ∈ (c :: rest).head?, isBlank d = false := by
    intro d first
    cases first
    exact letter
  constructor
  · intro same
    simp only [elseIfCode, List.cons_append, List.append_assoc, List.cons.injEq, true_and,
      List.nil_append] at same
    obtain ⟨rfl, words⟩ := run_unique gapBlank (solid _ _ (by decide)) otherGapBlank
      (solid _ _ (by decide)) same
    simp only [List.cons.injEq, true_and] at words
    obtain ⟨rfl, word⟩ := run_unique spaceBlank (solid _ _ (by decide)) otherSpaceBlank
      (solid _ _ (by decide)) words
    simp only [List.cons.injEq, true_and] at word
    exact ⟨rfl, rfl, List.append_cancel_right word⟩
  · rintro ⟨rfl, rfl, rfl⟩
    rfl

-- An `else if` in the source, and what its token says. The text is the one of single spaces exactly
-- if single spaces are written.
structure KeepsLayout (marker : Char) (shown covered gap space header : List Char) : Prop where
  gapBlank : ∀ c ∈ gap, isBlank c
  spaceBlank : ∀ c ∈ space, isBlank c
  apart : space ≠ []
  code : IsHeader marker header
  covers : covered = marker :: elseIfCode gap space header ++ [marker]
  text : shown = elseIfCode gap space header
  normal : shown = elseIfCode [' '] [' '] header ↔ gap = [' '] ∧ space = [' ']

section Roles
variable {marker : Char} {fragment : Fragment} {after : List Char}

theorem Tells.branch (tells : Tells marker fragment after) :
    (fragment.role marker = .elseIf → ∃ head header, ElseIfWords head ∧ IsHeader marker header ∧
      fragment = .elseIf marker head header) ∧
    (fragment.role marker = .elseLast → ∃ head, ElseWords head ∧
      fragment = .elseLast marker head) := by
  cases tells with
  | @elseIf head header _ words code =>
    have same : (⟨.localBlock, head ++ header ++ ['{'],
        marker :: (head ++ header ++ ['{']) ++ [marker]⟩ : Fragment) =
        .elseIf marker head header := by
      simp [Fragment.elseIf]
    rw [same, role_elseIf words]
    exact ⟨fun _ => ⟨head, header, words, code, rfl⟩, by simp⟩
  | @elseLast head _ words =>
    have role : (Fragment.elseLast marker head).role marker = .elseLast := role_elseLast words
    rw [Fragment.elseLast] at role
    rw [role]
    exact ⟨by simp, fun _ => ⟨head, words, rfl⟩⟩
  | @opening name header _ block code =>
    rcases block with rfl | rfl
    · simp [Fragment.role, Role.of, forName]
    · simp [Fragment.role, Role.of, ifName, forName]
  | whitespace | newline | content | escaped | lone | unknownCall | identifier | parenthesized
    | globalBlock | localBlock | closing => simp [Fragment.role, Role.of]

theorem keepsLayout_of_words {head header : List Char} (words : ElseIfWords head)
    (code : IsHeader marker header) :
    ∃ gap space, KeepsLayout marker (Fragment.elseIf marker head header).text
      (Fragment.elseIf marker head header).covered gap space header := by
  obtain ⟨gapBlank, spaceBlank, apart⟩ := words
  rename_i gap space
  have text : (Fragment.elseIf marker ('}' :: gap ++ ['e', 'l', 's', 'e'] ++ space ++ ['i', 'f'])
      header).text = elseIfCode gap space header := rfl
  have blank : ∀ c ∈ [' '], isBlank c := by
    intro c member
    cases List.mem_singleton.mp member
    decide
  refine ⟨gap, space, gapBlank, spaceBlank, apart, code, ?_, text, ?_⟩
  · simp [Fragment.elseIf, elseIfCode]
  · rw [text, elseIfCode_inj gapBlank spaceBlank blank blank]
    simp

end Roles

theorem Lexer.layout_of_branches {σ : Type} (marker : Char) (source : Source) (memory : σ)
    {tokens : List Token}
    (result : (tokenize ⟨marker, .builtins⟩ source memory).value = .ok tokens) :
    ∀ token ∈ tokens, ∃ covered, source.covered token.slice = some covered ∧
      (source.role marker token = .elseIf → ∃ gap space header,
        KeepsLayout marker token.text.toList covered gap space header) ∧
      (source.role marker token = .elseLast →
        ElseOpening marker token.text.toList covered) := by
  obtain ⟨fragments, lexes, rfl⟩ := tokenize_follows MacroTable.blocksOnly_builtins result
  have covers := lexes.source_eq
  have decodes := AllTell.decodes (by simpa [Part.lead] using covers) lexes.allTell
  intro token member
  obtain ⟨covered, after, found, _, tells, _⟩ := decodes.tells token member
  have role : source.role marker token =
      Fragment.role marker ⟨token.kind, token.text.toList, covered⟩ := by
    simp [Source.role, found, Fragment.role]
  rw [role]
  refine ⟨covered, found, ?_, ?_⟩
  · intro branch
    obtain ⟨head, header, words, code, same⟩ := tells.branch.1 branch
    obtain ⟨gap, space, keeps⟩ := keepsLayout_of_words words code
    rw [← same] at keeps
    exact ⟨gap, space, header, keeps⟩
  · intro branch
    obtain ⟨head, words, same⟩ := tells.branch.2 branch
    obtain ⟨_, text, covers⟩ := Fragment.mk.inj same
    exact ⟨text, head, words, covers⟩

def chainOverLines : Source :=
  ⟨"page", "◊.if a \x7b◊A◊\x7d\nelse\nif b \x7b◊B◊\x7d\nelse\n\x7b◊C◊\x7d".toList⟩

-- Newlines around an `else` that no `if` follows are gone from its text, the others are kept.
theorem Lexer.layout_of_chainOverLines :
    ∃ tokens, (tokenize ⟨'◊', .builtins⟩ chainOverLines ()).value = .ok tokens ∧
      tokens.map (fun token => (chainOverLines.role '◊' token, token.text)) =
        [(.ifOpen, "if a \x7b"), (.plain, "A"), (.elseIf, "\x7d\nelse\nif b \x7b"), (.plain, "B"),
          (.elseLast, "\x7d else \x7b"), (.plain, "C"), (.close, "\x7d")] ∧
      ∀ token ∈ tokens, ∃ covered, chainOverLines.covered token.slice = some covered ∧
        (chainOverLines.role '◊' token = .elseIf → ∃ gap space header,
          KeepsLayout '◊' token.text.toList covered gap space header) ∧
        (chainOverLines.role '◊' token = .elseLast →
          ElseOpening '◊' token.text.toList covered) := by
  have texts : (tokenize ⟨'◊', .builtins⟩ chainOverLines ()).value.toOption.map
      (List.map fun token => (chainOverLines.role '◊' token, token.text)) =
        some [(.ifOpen, "if a \x7b"), (.plain, "A"), (.elseIf, "\x7d\nelse\nif b \x7b"),
          (.plain, "B"), (.elseLast, "\x7d else \x7b"), (.plain, "C"), (.close, "\x7d")] := by
    decide +kernel
  obtain ⟨tokens, result, shown⟩ := Outcome.ok_of_map texts
  exact ⟨tokens, result, shown, layout_of_branches '◊' chainOverLines () result⟩

theorem Lexer.layout_not_normal :
    ¬ ∀ (marker : Char) (source : Source) (tokens : List Token),
      (tokenize ⟨marker, .builtins⟩ source ()).value = .ok tokens →
      ∀ token ∈ tokens, source.role marker token = .elseIf →
        ∃ header, IsHeader marker header ∧
          token.text = "\x7d else if" ++ String.ofList header ++ "\x7b" := by
  intro normal
  have kept : (tokenize ⟨'◊', .builtins⟩ chainOverLines ()).value.toOption.any (fun tokens =>
      tokens.any fun token => chainOverLines.role '◊' token = .elseIf ∧
        token.text = "\x7d\nelse\nif b \x7b") = true := by decide +kernel
  cases result : (tokenize ⟨'◊', .builtins⟩ chainOverLines ()).value with
  | error fault => simp [result, Except.toOption] at kept
  | ok tokens =>
    simp only [result, Except.toOption, Option.any_some, List.any_eq_true, decide_eq_true_eq] at kept
    obtain ⟨token, member, role, text⟩ := kept
    obtain ⟨header, _, same⟩ := normal '◊' chainOverLines tokens result token member role
    rw [text] at same
    have second := congrArg (fun shown => shown.toList[1]?) same
    simp at second

end TemplateCompiler
