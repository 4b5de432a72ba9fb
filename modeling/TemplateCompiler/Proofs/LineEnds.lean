import TemplateCompiler.Proofs.Acceptance

namespace TemplateCompiler
open Text Code

theorem endsRuns_newline (marker : Char) : EndsRuns marker '\n' :=
  ⟨by decide, by simp [isTextRune], by decide +kernel⟩

theorem newline_starts_nothing {marker : Char} (line : marker ≠ '\n') (text : List Char) :
    ¬ StartsConstruct marker ('\n' :: text) := by
  intro starts
  rcases starts with same | same | ⟨same, _⟩ | same | ⟨same, _⟩ | start
  · exact line same.symm
  · cases same
  · cases same
  · cases same
  · cases same
  · have word := (endsRuns_newline marker).word
    rw [isIdentifierPart_of_start start] at word
    cases word

def Fragment.newline : Fragment := ⟨.newline, ['\n'], ['\n']⟩

theorem Lexes.line {marker : Char} {known : String → Bool} (macroless : ∀ name, known name = false)
    (line : marker ≠ '\n') {first : List Char} {fragments : List Fragment}
    (lexes : Lexes marker known (.items false) first fragments []) (second : List Char) :
    Lexes marker known (.items false) (first ++ '\n' :: second) (fragments ++ [.newline]) second := by
  have edge : ∀ c ∈ ('\n' :: second).head?, EndsRuns marker c ∧ c ≠ '{' := by
    intro c ahead
    cases ahead
    exact ⟨endsRuns_newline marker, by decide⟩
  have grown := lexes.grow macroless edge fun _ _ _ => newline_starts_nothing line second
  have plain : Plain marker known .newline second := .newline line.symm
  exact grown.append (.more (by simp) (.plain plain) .done)

theorem Position.start_below (first : List Char) :
    start.below (byteLength first + 1) (first.count '\n' + 1) =
      start.afterRun (first ++ ['\n']) := by
  rw [afterRun_append, afterRun_cons, afterRun_nil, after, if_pos rfl, offset_afterRun,
    line_afterRun]
  rfl

def Source.newlineAt (source : Source) (offset : Nat) : Token :=
  .plain .newline ⟨source.name, "\n", source.positionAt offset, source.positionAt (offset + 1)⟩

theorem Fragment.token_newline (name : String) (first second : List Char) :
    newline.token name (Position.start.afterRun first) =
      Source.newlineAt ⟨name, first ++ '\n' :: second⟩ (byteLength first) := by
  have splits : first ++ '\n' :: second = first ++ ['\n'] ++ second := by simp
  have bytes : byteLength (first ++ ['\n']) = byteLength first + 1 := byteLength_append _ _
  have start : Source.positionAt ⟨name, first ++ '\n' :: second⟩ (byteLength first) =
      Position.start.afterRun first := Source.positionAt_eq_afterRun rfl
  have stop : Source.positionAt ⟨name, first ++ '\n' :: second⟩ (byteLength (first ++ ['\n'])) =
      Position.start.afterRun (first ++ ['\n']) := Source.positionAt_eq_afterRun splits
  rw [bytes, Position.afterRun_append] at stop
  rw [Source.newlineAt, start, stop]
  rfl

theorem Fragment.lay_below (name : String) (first : List Char) (fragments : List Fragment) :
    lay name (Position.start.afterRun (first ++ ['\n'])) fragments =
      (lay name .start fragments).map
        (·.moved (·.below (byteLength first + 1) (first.count '\n' + 1))) := by
  rw [← Position.start_below]
  exact lay_moved (·.below (byteLength first + 1) (first.count '\n' + 1)) name
    (fun run => Position.afterRun_below _ _ _ run) fragments

-- For all texts on both sides of a line break: tokens of the text behind it, and its error, are
-- only moved down by the bytes and the lines before it.
theorem Lexer.tokenize_lines {σ : Type} {marker : Char} (line : marker ≠ '\n') (name : String) (memory : σ)
    {first : List Char} {before : List Token}
    (result : (tokenize ⟨marker, .empty⟩ ⟨name, first⟩ memory).value = .ok before)
    (second : List Char) :
    (∀ after, (tokenize ⟨marker, .empty⟩ ⟨name, second⟩ memory).value = .ok after →
      (tokenize ⟨marker, .empty⟩ ⟨name, first ++ '\n' :: second⟩ memory).value = .ok
        (before ++ Source.newlineAt ⟨name, first ++ '\n' :: second⟩ (byteLength first) ::
          after.map (·.moved (·.below (byteLength first + 1) (first.count '\n' + 1))))) ∧
    ∀ fault, (tokenize ⟨marker, .empty⟩ ⟨name, second⟩ memory).value = .error fault →
      ∃ code position message,
        fault = .error (Source.error ⟨name, second⟩ .tokenizer code position message) ∧
        (tokenize ⟨marker, .empty⟩ ⟨name, first ++ '\n' :: second⟩ memory).value = .error (.error
          (Source.error ⟨name, first ++ '\n' :: second⟩ .tokenizer code
            (position.below (byteLength first + 1) (first.count '\n' + 1)) message)) := by
  obtain ⟨fragments, lexes, rfl⟩ := tokenize_follows MacroTable.blocksOnly_empty result
  have covers : first = Fragment.source fragments := lexes.covers_whole
  have upTo : Lexes marker (MacroTable.empty : MacroTable σ).contains (.items false)
      (first ++ '\n' :: second) (fragments ++ [.newline]) second :=
    lexes.line MacroTable.macroless_empty line second
  have run : Fragment.source (fragments ++ [.newline]) = first ++ ['\n'] := by
    simp [← covers, Fragment.newline]
  constructor
  · intro after found
    obtain ⟨others, further, rfl⟩ := tokenize_follows MacroTable.blocksOnly_empty found
    have whole : (tokenize ⟨marker, .empty⟩ ⟨name, first ++ '\n' :: second⟩ memory).value = _ :=
      tokenize_finds MacroTable.blocksOnly_empty (upTo.append further) memory
    rw [whole, Fragment.lay_append, run, Fragment.lay_below, Fragment.lay_append, ← covers,
      List.append_assoc, ← Fragment.token_newline name first second]
    rfl
  · intro fault failed
    obtain ⟨breach, breaks, rfl⟩ := tokenize_breaks MacroTable.blocksOnly_empty failed
    have whole : (tokenize ⟨marker, .empty⟩ ⟨name, first ++ '\n' :: second⟩ memory).value = _ :=
      tokenize_fails MacroTable.blocksOnly_empty (upTo.breaks breaks) memory
    refine ⟨breach.code, _, breach.message, rfl, ?_⟩
    rw [whole, Breach.error_behind, run, ← Position.start_below, Breach.error,
      ← Position.afterRun_below]

-- A lone marker right before the line break, and below it text that is read and text that is not.
def loneEnd : List Char := ['a', '\n', ' ', '◊']

def namedLine : List Char := ['(', 'b', '◊', 'c']

def openLine : List Char := ['b', '\n', '◊', '(', 'c']

theorem Lexer.tokenize_lines_loneEnd :
    '◊' ≠ '\n' ∧ ∃ before after fault,
      (tokenize ⟨'◊', .empty⟩ ⟨"page", loneEnd⟩ ()).value = .ok before ∧
      (tokenize ⟨'◊', .empty⟩ ⟨"page", namedLine⟩ ()).value = .ok after ∧
      (tokenize ⟨'◊', .empty⟩ ⟨"page", loneEnd ++ '\n' :: namedLine⟩ ()).value = .ok
        (before ++ Source.newlineAt ⟨"page", loneEnd ++ '\n' :: namedLine⟩ (byteLength loneEnd) ::
          after.map (·.moved (·.below (byteLength loneEnd + 1) (loneEnd.count '\n' + 1)))) ∧
      (tokenize ⟨'◊', .empty⟩ ⟨"page", openLine⟩ ()).value = .error fault ∧
      ∃ code position message,
        fault = .error (Source.error ⟨"page", openLine⟩ .tokenizer code position message) ∧
        (tokenize ⟨'◊', .empty⟩ ⟨"page", loneEnd ++ '\n' :: openLine⟩ ()).value = .error (.error
          (Source.error ⟨"page", loneEnd ++ '\n' :: openLine⟩ .tokenizer code
            (position.below (byteLength loneEnd + 1) (loneEnd.count '\n' + 1)) message)) := by
  have other : '◊' ≠ '\n' := by decide
  have read : (tokenize ⟨'◊', .empty⟩ ⟨"page", loneEnd⟩ ()).value.toOption.isSome ∧
      (tokenize ⟨'◊', .empty⟩ ⟨"page", namedLine⟩ ()).value.toOption.isSome ∧
      (tokenize ⟨'◊', .empty⟩ ⟨"page", openLine⟩ ()).value.toOption.isNone := by decide +kernel
  cases first : (tokenize ⟨'◊', .empty⟩ ⟨"page", loneEnd⟩ ()).value with
  | error fault => simp [first, Except.toOption] at read
  | ok before =>
    cases second : (tokenize ⟨'◊', .empty⟩ ⟨"page", namedLine⟩ ()).value with
    | error fault => simp [second, Except.toOption] at read
    | ok after =>
      cases third : (tokenize ⟨'◊', .empty⟩ ⟨"page", openLine⟩ ()).value with
      | ok tokens => simp [third, Except.toOption] at read
      | error fault =>
        exact ⟨other, before, after, fault, rfl, rfl,
          (tokenize_lines other "page" () first namedLine).1 after second, rfl,
          (tokenize_lines other "page" () first openLine).2 fault third⟩

end TemplateCompiler
