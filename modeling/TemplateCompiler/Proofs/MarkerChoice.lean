import Mathlib.Logic.Equiv.Basic
import TemplateCompiler.Proofs.Evaluation
import TemplateCompiler.Proofs.RecodedTemplates

namespace TemplateCompiler
open Text Code

def Token.recoded (recode : Char → Char) (token : Token) : Token :=
  { token with slice := token.slice.withText (token.slice.text.map recode) }

def Place.recoded (recode : Char → Char) (place : Place) : Place :=
  { place with snippet := place.snippet.map recode }

def TemplateError.recoded (recode : Char → Char) (error : TemplateError) : TemplateError :=
  { error with
    message := error.message.map recode
    place := error.place.map (·.recoded recode) }

def Source.recoded (recode : Char → Char) (source : Source) : Source :=
  { source with text := source.text.map recode }

namespace Recoding
variable {recode : Char → Char}

theorem map_ofList (recode : Char → Char) (text : List Char) :
    (String.ofList text).map recode = String.ofList (text.map recode) := by
  apply String.toList_injective
  rw [String.toList_map, String.toList_ofList, String.toList_ofList]

theorem after (recodes : Recoding recode) (position : Position) (c : Char) :
    position.after (recode c) = position.after c := by
  have line : recode c = '\n' ↔ c = '\n' := recodes.eq_iff (recodes.fixes '\n' (by decide))
  simp only [Position.after, line, recodes.width]

theorem afterRun (recodes : Recoding recode) (position : Position) (run : List Char) :
    position.afterRun (run.map recode) = position.afterRun run := by
  induction run generalizing position with
  | nil => rfl
  | cons c rest ih => rw [List.map_cons, Position.afterRun_cons, Position.afterRun_cons,
      recodes.after, ih]

theorem lay (recodes : Recoding recode) (name : String) (start : Position)
    (fragments : List Fragment) :
    Fragment.lay name start (fragments.map (·.recoded recode)) =
      (Fragment.lay name start fragments).map (·.recoded recode) := by
  induction fragments generalizing start with
  | nil => rfl
  | cons fragment others ih =>
    have stop : start.afterRun (fragment.recoded recode).covered =
        start.afterRun fragment.covered := recodes.afterRun start fragment.covered
    have token : (fragment.recoded recode).token name start =
        (fragment.token name start).recoded recode := by
      simp only [Fragment.token, stop, Token.recoded, Token.plain, Slice.withText, map_ofList]
      rfl
    rw [List.map_cons, Fragment.lay, Fragment.lay, List.map_cons, token, stop, ih]

section Snippets

theorem byteLength (recodes : Recoding recode) (text : List Char) :
    Text.byteLength (text.map recode) = Text.byteLength text := by
  induction text with
  | nil => rfl
  | cons c rest ih => rw [List.map_cons, byteLength_cons, byteLength_cons, recodes.width, ih]

def cutMap (recode : Char → Char) : Cut → Cut
  | .between before after => .between (before.map recode) (after.map recode)
  | other => other

theorem cut (recodes : Recoding recode) (offset : Nat) (text : List Char) :
    Text.cut offset (text.map recode) = cutMap recode (Text.cut offset text) := by
  induction text generalizing offset with
  | nil =>
    unfold Text.cut
    simp only [List.map_nil]
    split <;> rfl
  | cons c rest ih =>
    simp only [List.map_cons, Text.cut, recodes.width, ih]
    split
    · rfl
    · split
      · rfl
      · cases Text.cut (offset - c.utf8Size) rest <;> rfl

theorem between? (recodes : Recoding recode) (start stop : Nat) (text : List Char) :
    Text.between? start stop (text.map recode) =
      (Text.between? start stop text).map (·.map recode) := by
  unfold Text.between?
  rw [recodes.cut]
  cases Text.cut stop text with
  | between before _ =>
    simp only [cutMap, recodes.cut]
    cases Text.cut start before <;> rfl
  | inside => rfl
  | beyond => rfl

theorem startsAfter (recodes : Recoding recode) (offset : Nat) (text : List Char) :
    TemplateCompiler.startsAfter offset (text.map recode) =
      TemplateCompiler.startsAfter offset text := by
  induction text generalizing offset with
  | nil => rfl
  | cons c rest ih =>
    have line : recode c = '\n' ↔ c = '\n' := recodes.eq_iff (recodes.fixes '\n' (by decide))
    simp only [List.map_cons, TemplateCompiler.startsAfter, line, recodes.width, ih]

theorem lineStart? (recodes : Recoding recode) (source : Source) (line : Nat) :
    (source.recoded recode).lineStart? line = source.lineStart? line := by
  simp only [Source.lineStart?, lineStarts, Source.recoded, recodes.startsAfter]

theorem lineText? (recodes : Recoding recode) (source : Source) (line : Nat) :
    (source.recoded recode).lineText? line =
      (source.lineText? line).map (·.map recode) := by
  have bytes : (source.recoded recode).bytes = source.bytes := recodes.byteLength source.text
  simp only [Source.lineText?, recodes.lineStart?, bytes]
  cases source.lineStart? line with
  | none => rfl
  | some start => exact recodes.between? start _ source.text

theorem caret (recodes : Recoding recode) (source : Source) (position : Position) :
    (source.recoded recode).caret position = (source.caret position).map recode := by
  have line : ((source.recoded recode).lineText? position.line).getD [] =
      ((source.lineText? position.line).getD []).map recode := by
    rw [recodes.lineText?]
    cases source.lineText? position.line <;> rfl
  have tab : recode '\t' = '\t' := recodes.fixes _ (by decide)
  have space : recode ' ' = ' ' := recodes.fixes _ (by decide)
  have pad (c : Char) : (if recode c = '\t' then '\t' else ' ') =
      recode (if c = '\t' then '\t' else ' ') := by
    simp only [recodes.eq_iff tab]
    split
    · exact tab.symm
    · exact space.symm
  simp only [Source.caret, line, map_ofList, List.map_append, List.map_cons,
    recodes.fixes '\n' (by decide), recodes.fixes '^' (by decide), List.map_nil, List.map_map,
    ← List.map_take, Function.comp_def, pad]

end Snippets

theorem error (recodes : Recoding recode) (source : Source) (breach : Breach) :
    (breach.recoded recode).error (source.recoded recode) .start =
      (breach.error source .start).recoded recode := by
  have place : Position.start.afterRun ((breach.recoded recode).before ++
      (breach.recoded recode).lead) = Position.start.afterRun (breach.before ++ breach.lead) := by
    rw [Breach.recoded, ← List.map_append]
    exact recodes.afterRun _ _
  rw [Breach.error, Breach.error, place, Source.error, recodes.caret]
  rfl

theorem tokenize (recodes : Recoding recode) {σ : Type} (marker : Char) (source : Source)
    (memory : σ) :
    let before := (Lexer.tokenize ⟨marker, .builtins⟩ source memory).value
    let after := (Lexer.tokenize ⟨recode marker, .builtins⟩ (source.recoded recode) memory).value
    (∃ tokens, before = .ok tokens ∧ after = .ok (tokens.map (·.recoded recode))) ∨
      ∃ error, before = .error (.error error) ∧ after = .error (.error (error.recoded recode)) := by
  intro before after
  cases result : before with
  | ok tokens =>
    obtain ⟨fragments, lexes, rfl⟩ := Lexer.tokenize_follows MacroTable.blocksOnly_builtins result
    have found : after = _ :=
      Lexer.tokenize_finds MacroTable.blocksOnly_builtins (recodes.lexes lexes) memory
    refine .inl ⟨_, rfl, ?_⟩
    rw [found, recodes.lay]
    rfl
  | error fault =>
    obtain ⟨breach, breaks, rfl⟩ := Lexer.tokenize_breaks MacroTable.blocksOnly_builtins result
    have failed : after = _ :=
      Lexer.tokenize_fails MacroTable.blocksOnly_builtins (recodes.breaks breaks) memory
    refine .inr ⟨_, rfl, ?_⟩
    rw [failed, recodes.error]

end Recoding

theorem recoding_swap {first second : Char} (one : InertRune first) (other : InertRune second)
    (width : first.utf8Size = second.utf8Size) : Recoding (Equiv.swap first second) where
  injective := (Equiv.swap first second).injective
  moved c moves := by
    by_cases isFirst : c = first
    · subst isFirst
      rw [Equiv.swap_apply_left]
      exact ⟨one, other⟩
    by_cases isSecond : c = second
    · subst isSecond
      rw [Equiv.swap_apply_right]
      exact ⟨other, one⟩
    exact absurd (Equiv.swap_apply_of_ne_of_ne isFirst isSecond) moves
  width c := by
    by_cases isFirst : c = first
    · subst isFirst
      rw [Equiv.swap_apply_left, width]
    by_cases isSecond : c = second
    · subst isSecond
      rw [Equiv.swap_apply_right, width]
    rw [Equiv.swap_apply_of_ne_of_ne isFirst isSecond]

-- For every text and two runes of one width: both markers give the same tokens up to the exchange,
-- with the same kinds and spans, or the same error up to the exchange, at the same position.
theorem Lexer.tokenize_exchanged {σ : Type} {first second : Char} (one : InertRune first)
    (other : InertRune second) (width : first.utf8Size = second.utf8Size) (source : Source)
    (memory : σ) :
    let swap := Equiv.swap first second
    let before := (tokenize ⟨first, .builtins⟩ source memory).value
    let after := (tokenize ⟨second, .builtins⟩ (source.recoded swap) memory).value
    (∃ tokens, before = .ok tokens ∧ after = .ok (tokens.map (·.recoded swap))) ∨
      ∃ error, before = .error (.error error) ∧ after = .error (.error (error.recoded swap)) := by
  have results := (recoding_swap one other width).tokenize first source memory
  rwa [Equiv.swap_apply_left] at results

-- Both runes in one template: as the marker, as text, in code and in the head of a block.
def crossedMarkers : List Char :=
  ['※', '◊', '.', 'f', 'o', 'r', ' ', '"', '◊', '"', '※', '{', '◊', '※', '◊', '◊', '{', '※',
    '}', '◊', '}', '※']

def crossedOpen : List Char :=
  ['※', '◊', '.', 'f', 'o', 'r', ' ', '※', '{', '◊', '※', '\n', '\t', '◊', '(', '※']

theorem Lexer.tokenize_exchanged_crossed :
    InertRune '◊' ∧ InertRune '※' ∧ '◊'.utf8Size = '※'.utf8Size ∧
      (∃ tokens, (tokenize ⟨'◊', .builtins⟩ ⟨"page", crossedMarkers⟩ ()).value = .ok tokens ∧
        (tokenize ⟨'※', .builtins⟩ (Source.recoded (Equiv.swap '◊' '※') ⟨"page", crossedMarkers⟩)
          ()).value = .ok (tokens.map (·.recoded (Equiv.swap '◊' '※')))) ∧
      ∃ error, (tokenize ⟨'◊', .builtins⟩ ⟨"page", crossedOpen⟩ ()).value =
          .error (.error error) ∧
        (tokenize ⟨'※', .builtins⟩ (Source.recoded (Equiv.swap '◊' '※') ⟨"page", crossedOpen⟩)
          ()).value = .error (.error (error.recoded (Equiv.swap '◊' '※'))) := by
  have one : InertRune '◊' :=
    ⟨⟨by decide +kernel, by decide, by decide⟩, by decide +kernel⟩
  have other : InertRune '※' :=
    ⟨⟨by decide +kernel, by decide, by decide⟩, by decide +kernel⟩
  have width : '◊'.utf8Size = '※'.utf8Size := by decide
  have read : (tokenize ⟨'◊', .builtins⟩ ⟨"page", crossedMarkers⟩ ()).value.toOption.isSome ∧
      (tokenize ⟨'◊', .builtins⟩ ⟨"page", crossedOpen⟩ ()).value.toOption.isNone := by
    decide +kernel
  refine ⟨one, other, width, ?_, ?_⟩
  · rcases tokenize_exchanged one other width ⟨"page", crossedMarkers⟩ () with found | failed
    · exact found
    · obtain ⟨error, failed, _⟩ := failed
      rw [failed] at read
      exact absurd read.1 Bool.false_ne_true
  · rcases tokenize_exchanged one other width ⟨"page", crossedOpen⟩ () with found | failed
    · obtain ⟨tokens, found, _⟩ := found
      rw [found] at read
      exact absurd read.2 Bool.false_ne_true
    · exact failed

end TemplateCompiler
