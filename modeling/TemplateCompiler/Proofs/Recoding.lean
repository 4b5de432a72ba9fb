import Mathlib.Data.List.Count
import TemplateCompiler.Proofs.Grammar
import TemplateCompiler.Proofs.Printing

namespace TemplateCompiler
open Text Code

def codeRunes : List Char := ['.', '^', '{', '}', '(', ')', '[', ']', '"', backtick, '\\']

def hasMeaning (c : Char) : Bool := isIdentifierPart c || isBlank c || codeRunes.contains c

-- A rune that says nothing unless it is the marker.
structure InertRune (c : Char) : Prop where
  neutral : NeutralMarker c
  wordless : isWordRune c = false

theorem InertRune.meaningless {c : Char} (inert : InertRune c) : hasMeaning c = false := by
  have delimiter : c ∉ codeRunes := inert.neutral.other
  simp [hasMeaning, inert.neutral.word, inert.neutral.blank, delimiter]

theorem InertRune.not_start {c : Char} (inert : InertRune c) : isIdentifierStart c = false := by
  cases start : isIdentifierStart c with
  | false => rfl
  | true => exact (isIdentifierPart_of_start start).symm.trans inert.neutral.word

theorem takeWhile_recoded {recode : Char → Char} {set other : Char → Bool}
    (kept : ∀ c, set (recode c) = other c) (text : List Char) :
    (text.map recode).takeWhile set = (text.takeWhile other).map recode := by
  have same : set ∘ recode = other := funext kept
  rw [List.takeWhile_map, same]

theorem head_recoded {recode : Char → Char} {set other : Char → Bool} {rest : List Char}
    (kept : ∀ c, set (recode c) = other c) (outside : ∀ c ∈ rest.head?, other c = false) :
    ∀ c ∈ (rest.map recode).head?, set c = false := by
  intro c ahead
  rw [List.head?_map] at ahead
  obtain ⟨before, first, rfl⟩ := Option.map_eq_some_iff.mp ahead
  exact (kept before).trans (outside before first)

theorem forall_recoded {recode : Char → Char} {set other : Char → Bool} {run : List Char}
    (kept : ∀ c, set (recode c) = other c) (inside : ∀ c ∈ run, other c) :
    ∀ c ∈ run.map recode, set c := by
  intro c member
  obtain ⟨before, held, rfl⟩ := List.mem_map.mp member
  exact (kept before).trans (inside before held)

-- A change of single runes that touches none with a meaning.
structure Recoding (recode : Char → Char) : Prop where
  injective : Function.Injective recode
  moved : ∀ c, recode c ≠ c → InertRune c ∧ InertRune (recode c)
  width : ∀ c, (recode c).utf8Size = c.utf8Size

namespace Recoding
variable {recode : Char → Char} {marker c : Char} {text rest run name : List Char}

theorem fixes (recodes : Recoding recode) (c : Char) (meant : hasMeaning c) : recode c = c := by
  by_contra moves
  have meaningless := (recodes.moved c moves).1.meaningless
  exact Bool.false_ne_true (meaningless.symm.trans meant)

theorem fixes_run (recodes : Recoding recode) (meant : run.all hasMeaning) :
    run.map recode = run := by
  have each : ∀ c ∈ run, recode c = id c := by
    intro c member
    exact recodes.fixes c (List.all_eq_true.mp meant c member)
  rw [List.map_congr_left each, List.map_id]

theorem eq_iff (recodes : Recoding recode) {d : Char} (fixed : recode d = d) :
    recode c = d ↔ c = d := by
  constructor
  · intro same
    exact recodes.injective (same.trans fixed.symm)
  · rintro rfl
    exact fixed

theorem keeps (recodes : Recoding recode) {set : Char → Bool}
    (outside : ∀ c, InertRune c → set c = false) (c : Char) : set (recode c) = set c := by
  by_cases stays : recode c = c
  · rw [stays]
  · obtain ⟨before, after⟩ := recodes.moved c stays
    rw [outside _ before, outside _ after]

theorem padding (recodes : Recoding recode) (c : Char) : isPadding (recode c) = isPadding c :=
  recodes.keeps (fun _ inert => inert.neutral.not_padding) c

theorem blank (recodes : Recoding recode) (c : Char) : isBlank (recode c) = isBlank c :=
  recodes.keeps (fun _ inert => inert.neutral.blank) c

theorem word (recodes : Recoding recode) (c : Char) : isWordRune (recode c) = isWordRune c :=
  recodes.keeps (fun _ inert => inert.wordless) c

theorem identifierStart (recodes : Recoding recode) (c : Char) :
    isIdentifierStart (recode c) = isIdentifierStart c :=
  recodes.keeps (fun _ inert => inert.not_start) c

theorem identifierPart (recodes : Recoding recode) (c : Char) :
    isIdentifierPart (recode c) = isIdentifierPart c :=
  recodes.keeps (fun _ inert => inert.neutral.word) c

theorem head_marker (recodes : Recoding recode) :
    (run.map recode).head? = some (recode marker) ↔ run.head? = some marker := by
  rw [List.head?_map, ← Option.map_some]
  exact (Option.map_injective recodes.injective).eq_iff

theorem head_fixed (recodes : Recoding recode) {d : Char} (fixed : recode d = d) :
    (run.map recode).head? = some d ↔ run.head? = some d := by
  have heads : (run.map recode).head? = some (recode d) ↔ run.head? = some d :=
    recodes.head_marker
  rwa [fixed] at heads

theorem textRune (recodes : Recoding recode) (c : Char) :
    isTextRune (recode marker) (recode c) = isTextRune marker c := by
  have line : recode c = '\n' ↔ c = '\n' := recodes.eq_iff (recodes.fixes '\n' (by decide))
  have same : recode c = recode marker ↔ c = marker := recodes.injective.eq_iff
  rw [Bool.eq_iff_iff, isTextRune_iff, isTextRune_iff, recodes.padding, Ne, Ne, line, same]

theorem fixes_identifier (recodes : Recoding recode) (word : identifier? text = some name) :
    name.map recode = name := by
  obtain ⟨_, _, _, _, rfl⟩ := identifier?_eq word
  apply recodes.fixes_run
  apply List.all_eq_true.mpr
  intro c member
  have part : isIdentifierPart c = true := List.all_eq_true.mp List.all_takeWhile c member
  simp [hasMeaning, part]

theorem identifier?_map (recodes : Recoding recode) (text : List Char) :
    identifier? (text.map recode) = (identifier? text).map (·.map recode) := by
  cases text with
  | nil => rfl
  | cons c rest =>
    have first := takeWhile_recoded recodes.identifierPart (c :: rest)
    rw [List.map_cons] at first ⊢
    simp only [identifier?, recodes.identifierStart, first]
    split <;> rfl

theorem feed (recodes : Recoding recode) (quoting : Quoting) (c : Char) :
    quoting.feed (recode c) = quoting.feed c := by
  have quote : recode c = '"' ↔ c = '"' := recodes.eq_iff (recodes.fixes _ (by decide))
  have raw : recode c = backtick ↔ c = backtick :=
    recodes.eq_iff (recodes.fixes _ (by decide))
  have slash : recode c = '\\' ↔ c = '\\' := recodes.eq_iff (recodes.fixes _ (by decide))
  cases quoting with
  | plain => simp only [Quoting.feed, quote, raw]
  | quoted => simp only [Quoting.feed, quote, slash]
  | escaped => rfl
  | raw => simp only [Quoting.feed, raw]

theorem isStructural (recodes : Recoding recode) (quoting : Quoting) (c : Char) :
    quoting.isStructural (recode c) = quoting.isStructural c := by
  have quote : recode c = '"' ↔ c = '"' := recodes.eq_iff (recodes.fixes _ (by decide))
  have raw : recode c = backtick ↔ c = backtick :=
    recodes.eq_iff (recodes.fixes _ (by decide))
  simp only [Quoting.isStructural, Ne, quote, raw]

theorem structural_map (recodes : Recoding recode) (quoting : Quoting) (run : List Char) :
    structural quoting (run.map recode) = (structural quoting run).map recode := by
  induction run generalizing quoting with
  | nil => rfl
  | cons c rest ih =>
    simp only [List.map_cons, structural, recodes.isStructural, recodes.feed, ih]
    split <;> rfl

section Delimited
variable {opening closing : Char}

theorem matched_map (recodes : Recoding recode) (opens : recode opening = opening)
    (closes : recode closing = closing) :
    Matched opening closing (run.map recode) ↔ Matched opening closing run := by
  have counted {d : Char} (fixed : recode d = d) :
      ((structural .plain run).map recode).count d = (structural .plain run).count d := by
    have counts := List.count_map_of_injective (structural .plain run) recode recodes.injective d
    rwa [fixed] at counts
  rw [Matched, Matched, recodes.head_fixed opens, recodes.structural_map, counted opens,
    counted closes]

theorem leastMatched_map (recodes : Recoding recode) (opens : recode opening = opening)
    (closes : recode closing = closing) :
    LeastMatched opening closing (run.map recode) ↔ LeastMatched opening closing run := by
  simp only [leastMatched_iff_take, List.length_map, ← List.map_take,
    recodes.matched_map opens closes]

theorem never_matched (recodes : Recoding recode) (opens : recode opening = opening)
    (closes : recode closing = closing)
    (never : ∀ run, run <+: text → ¬ LeastMatched opening closing run) :
    ∀ run, run <+: text.map recode → ¬ LeastMatched opening closing run := by
  intro run begins least
  obtain ⟨before, shorter, rfl⟩ := List.prefix_map_iff.mp begins
  exact never before shorter ((recodes.leastMatched_map opens closes).mp least)

end Delimited

theorem nesting_feed (recodes : Recoding recode) (nesting : Nesting) (c : Char) :
    nesting.feed (recode c) = nesting.feed c := by
  have same {d : Char} (meant : hasMeaning d) : recode c = d ↔ c = d :=
    recodes.eq_iff (recodes.fixes d meant)
  simp only [Nesting.feed, recodes.feed, recodes.isStructural,
    same (d := '(') (by decide), same (d := '[') (by decide), same (d := '{') (by decide),
    same (d := ')') (by decide), same (d := ']') (by decide), same (d := '}') (by decide)]

theorem headerFrom?_map (recodes : Recoding recode) (nesting : Nesting) (text : List Char) :
    headerFrom? (recode marker) nesting (text.map recode) =
      (headerFrom? marker nesting text).map (·.map recode) := by
  induction text generalizing nesting with
  | nil => rfl
  | cons c rest ih =>
    have same : recode c = recode marker ↔ c = marker := recodes.injective.eq_iff
    have brace : recode c = '{' ↔ c = '{' := recodes.eq_iff (recodes.fixes _ (by decide))
    simp only [List.map_cons, headerFrom?, same, brace, recodes.head_marker, recodes.nesting_feed,
      ih]
    split
    · rfl
    · split
      · rfl
      · rw [Option.map_map, Option.map_map]
        rfl

theorem header?_map (recodes : Recoding recode) (text : List Char) :
    header? (recode marker) (text.map recode) = (header? marker text).map (·.map recode) :=
  recodes.headerFrom?_map .start text

-- Pieces of a pattern that look for nothing that changes.
def keptPiece (recode : Char → Char) : Piece → Prop
  | .literal runes => runes.map recode = runes
  | .many set | .several set => ∀ c, set (recode c) = set c
  | .wordEdge => True

theorem piece_length? (recodes : Recoding recode) {piece : Piece} (kept : keptPiece recode piece)
    (before : Option Char) (text : List Char) :
    piece.length? (before.map recode) (text.map recode) = piece.length? before text := by
  cases piece with
  | literal runes =>
    have fixed : runes.map recode = runes := kept
    have begins : runes.map recode <+: text.map recode ↔ runes <+: text :=
      List.prefix_map_iff_of_injective recodes.injective
    rw [fixed, ← List.isPrefixOf_iff_prefix, ← List.isPrefixOf_iff_prefix] at begins
    simp only [Piece.length?, begins]
  | many set => rw [Piece.length?, Piece.length?, takeWhile_recoded kept, List.length_map]
  | several set =>
    simp only [Piece.length?, takeWhile_recoded kept, List.length_map]
  | wordEdge =>
    have edge (side : Option Char) : (side.map recode).any isWordRune = side.any isWordRune := by
      cases side with
      | none => rfl
      | some c => exact recodes.word c
    simp only [Piece.length?, List.head?_map, edge]

theorem pattern_lengthFrom? (recodes : Recoding recode) {pattern : Pattern}
    (kept : ∀ piece ∈ pattern, keptPiece recode piece) (before : Option Char) (text : List Char) :
    pattern.lengthFrom? (before.map recode) (text.map recode) =
      pattern.lengthFrom? before text := by
  induction pattern generalizing before text with
  | nil => rfl
  | cons piece pieces ih =>
    obtain ⟨first, others⟩ := List.forall_mem_cons.mp kept
    rw [Pattern.lengthFrom?, Pattern.lengthFrom?, recodes.piece_length? first]
    cases piece.length? before text with
    | none => rfl
    | some taken =>
      have passed : ((text.map recode).take taken).getLast?.or (before.map recode) =
          ((text.take taken).getLast?.or before).map recode := by
        rw [← List.map_take, List.getLast?_map, Option.map_or]
      simp only [passed, ← List.map_drop, ih others]

theorem kept_words (recodes : Recoding recode) {runes : List Char}
    (meant : runes.all hasMeaning) : keptPiece recode (.literal runes) :=
  recodes.fixes_run meant

theorem kept_elseIf (recodes : Recoding recode) :
    ∀ piece ∈ elseIfPattern, keptPiece recode piece := by
  intro piece member
  simp only [elseIfPattern, List.mem_cons, List.not_mem_nil, or_false] at member
  rcases member with rfl | rfl | rfl | rfl | rfl | rfl
  · exact recodes.kept_words (by decide)
  · exact recodes.blank
  · exact recodes.kept_words (by decide)
  · exact recodes.blank
  · exact recodes.kept_words (by decide)
  · trivial

theorem kept_else (recodes : Recoding recode) : ∀ piece ∈ elsePattern, keptPiece recode piece := by
  intro piece member
  simp only [elsePattern, List.mem_cons, List.not_mem_nil, or_false] at member
  rcases member with rfl | rfl | rfl | rfl | rfl
  · exact recodes.kept_words (by decide)
  · exact recodes.blank
  · exact recodes.kept_words (by decide)
  · exact recodes.blank
  · exact recodes.kept_words (by decide)

theorem elseIfAt?_map (recodes : Recoding recode) (text : List Char) :
    elseIfAt? (recode marker) (text.map recode) =
      (elseIfAt? marker text).map fun words => (words.1.map recode, words.2.map recode) := by
  have length : elseIfPattern.length? (text.map recode) = elseIfPattern.length? text :=
    recodes.pattern_lengthFrom? recodes.kept_elseIf none text
  rw [elseIfAt?, elseIfAt?, length]
  cases elseIfPattern.length? text with
  | none => rfl
  | some taken =>
    simp only [Option.bind_some, ← List.map_drop, ← List.map_take, recodes.header?_map,
      Option.map_map, Function.comp_def]

theorem elseAt?_map (recodes : Recoding recode) (text : List Char) :
    elseAt? (recode marker) (text.map recode) = (elseAt? marker text).map (·.map recode) := by
  have length : elsePattern.length? (text.map recode) = elsePattern.length? text :=
    recodes.pattern_lengthFrom? recodes.kept_else none text
  rw [elseAt?, elseAt?, length]
  cases elsePattern.length? text with
  | none => rfl
  | some taken =>
    simp only [Option.bind_some, ← List.map_drop, ← List.map_take, recodes.head_marker]
    split <;> rfl

end Recoding
end TemplateCompiler
