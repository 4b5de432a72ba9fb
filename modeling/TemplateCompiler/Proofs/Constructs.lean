import TemplateCompiler.Lexer
import TemplateCompiler.Proofs.Fragments
import TemplateCompiler.Proofs.MatchedRuns

namespace TemplateCompiler
open Text Code

theorem takeWhile_run {set : Char → Bool} {run rest : List Char} (inside : ∀ c ∈ run, set c)
    (outside : ∀ c ∈ rest.head?, set c = false) : (run ++ rest).takeWhile set = run := by
  rw [List.takeWhile_append_of_pos inside]
  have stops : rest.takeWhile set = [] := by
    cases rest with
    | nil => rfl
    | cons c others => exact List.takeWhile_cons_of_neg (by simp [outside c rfl])
  rw [stops, List.append_nil]

theorem head_dropWhile {set : Char → Bool} {text : List Char} :
    ∀ c ∈ (text.dropWhile set).head?, set c = false := by
  intro c ahead
  have stops := List.head?_dropWhile_not set text
  rw [Option.mem_def.mp ahead] at stops
  simpa using stops

def StartsConstruct (marker : Char) : List Char → Prop
  | [] => False
  | c :: rest =>
    c = marker ∨ c = '{' ∨ (c = '^' ∧ rest.head? = some '{') ∨ c = '(' ∨
      (c = '.' ∧ (identifier? rest).isSome) ∨ isIdentifierStart c

-- Fragments without a macro, with the text after them. `known` holds of the names of macros.
inductive Plain (marker : Char) (known : String → Bool) : Fragment → List Char → Prop
  | blank {run rest} (nonempty : run ≠ []) (first : run.head? ≠ some marker)
      (inside : ∀ c ∈ run, isPadding c) (outside : ∀ c ∈ rest.head?, isPadding c = false) :
      Plain marker known ⟨.whitespace, run, run⟩ rest
  | newline {rest} (other : '\n' ≠ marker) : Plain marker known ⟨.newline, ['\n'], ['\n']⟩ rest
  | content {run rest} (nonempty : run ≠ []) (inside : ∀ c ∈ run, isTextRune marker c)
      (outside : ∀ c ∈ rest.head?, isTextRune marker c = false) :
      Plain marker known ⟨.content, run, run⟩ rest
  | escaped {rest} : Plain marker known ⟨.content, [marker], [marker, marker]⟩ rest
  | lone {rest} (alone : ¬ StartsConstruct marker rest) :
      Plain marker known ⟨.content, [marker], [marker]⟩ rest
  | localBlock {code rest} (other : '{' ≠ marker)
      (least : LeastMatched '{' '}' ('{' :: code ++ ['}'])) :
      Plain marker known ⟨.localBlock, code, marker :: ('{' :: code ++ ['}'])⟩ rest
  | globalBlock {code rest} (other : '^' ≠ marker)
      (least : LeastMatched '{' '}' ('{' :: code ++ ['}'])) :
      Plain marker known ⟨.globalBlock, code, marker :: '^' :: ('{' :: code ++ ['}'])⟩ rest
  | parenthesized {code rest} (other : '(' ≠ marker)
      (least : LeastMatched '(' ')' ('(' :: code ++ [')'])) :
      Plain marker known
        ⟨.expression, '(' :: code ++ [')'], marker :: ('(' :: code ++ [')'])⟩ rest
  | identifier {name rest} (other : name.head? ≠ some marker)
      (word : identifier? (name ++ rest) = some name) :
      Plain marker known ⟨.expression, name, marker :: name⟩ rest
  | unknown {name rest} (other : '.' ≠ marker) (word : identifier? (name ++ rest) = some name)
      (unknown : known (String.ofList name) = false) :
      Plain marker known ⟨.content, marker :: '.' :: name, marker :: '.' :: name⟩ rest

inductive Plains (marker : Char) (known : String → Bool) : List Char → List Fragment → Prop
  | nil : Plains marker known [] []
  | cons {fragment rest fragments} (plain : Plain marker known fragment rest)
      (others : Plains marker known rest fragments) :
      Plains marker known (fragment.covered ++ rest) (fragment :: fragments)

structure Called (marker : Char) (known : String → Bool) (name rest : List Char) : Prop where
  other : '.' ≠ marker
  word : identifier? (name ++ rest) = some name
  known : known (String.ofList name) = true

-- Constructs whose code is not closed, with the runes between the marker and the delimiter and
-- the delimiter that is missing.
inductive Unclosed (marker : Char) : Nat → Char → List Char → Prop
  | localBlock {text} (other : '{' ≠ marker)
      (opens : ∀ run, run <+: '{' :: text → ¬ LeastMatched '{' '}' run) :
      Unclosed marker 0 '}' (marker :: '{' :: text)
  | globalBlock {text} (other : '^' ≠ marker)
      (opens : ∀ run, run <+: '{' :: text → ¬ LeastMatched '{' '}' run) :
      Unclosed marker 1 '}' (marker :: '^' :: '{' :: text)
  | parenthesized {text} (other : '(' ≠ marker)
      (opens : ∀ run, run <+: '(' :: text → ¬ LeastMatched '(' ')' run) :
      Unclosed marker 0 ')' (marker :: '(' :: text)

theorem identifier?_eq {text name : List Char} (word : identifier? text = some name) :
    ∃ c rest, text = c :: rest ∧ isIdentifierStart c ∧ name = text.takeWhile isIdentifierPart := by
  cases text with
  | nil => cases word
  | cons c rest =>
    simp only [identifier?] at word
    split at word
    · rename_i start
      exact ⟨c, rest, rfl, start, (Option.some.inj word).symm⟩
    · cases word

theorem identifier?_head {name rest : List Char} (word : identifier? (name ++ rest) = some name) :
    ∃ c others, name = c :: others ∧ isIdentifierStart c := by
  obtain ⟨c, others, split, start, taken⟩ := identifier?_eq word
  rw [split, List.takeWhile_cons, if_pos (isIdentifierPart_of_start start)] at taken
  exact ⟨c, _, taken, start⟩

theorem Plain.nonempty {marker : Char} {known : String → Bool} {fragment : Fragment}
    {rest : List Char} (plain : Plain marker known fragment rest) : fragment.covered ≠ [] := by
  cases plain with
  | blank nonempty => exact nonempty
  | content nonempty => exact nonempty
  | newline | escaped | lone | localBlock | globalBlock | parenthesized | identifier | unknown =>
    exact List.cons_ne_nil _ _

theorem identifierStart_not_delimiter {c : Char} (start : isIdentifierStart c) :
    c ≠ '{' ∧ c ≠ '^' ∧ c ≠ '(' ∧ c ≠ '.' := by
  refine ⟨?_, ?_, ?_, ?_⟩ <;> rintro rfl <;> revert start <;> decide

theorem braces : Delimiters '{' '}' := ⟨by decide, by decide⟩

theorem parentheses : Delimiters '(' ')' := ⟨by decide, by decide⟩

theorem isTextRune_iff {marker c : Char} : isTextRune marker c = true ↔
    isPadding c = false ∧ c ≠ '\n' ∧ c ≠ marker := by
  simp [isTextRune, isPadding, and_assoc]

theorem closed_or_open {opening closing : Char} (delimiters : Delimiters opening closing)
    (text : List Char) :
    (∃ code rest, opening :: text = (opening :: code ++ [closing]) ++ rest ∧
      LeastMatched opening closing (opening :: code ++ [closing])) ∨
    ∀ run, run <+: opening :: text → ¬ LeastMatched opening closing run := by
  apply Classical.or_iff_not_imp_right.mpr
  intro closes
  simp only [Classical.not_forall, Classical.not_not] at closes
  obtain ⟨run, ⟨rest, splits⟩, least⟩ := closes
  obtain ⟨code, rfl⟩ := least.ends delimiters
  exact ⟨code, rest, splits.symm, least⟩

theorem identifier?_split {text : List Char} (word : (identifier? text).isSome) :
    ∃ name rest, text = name ++ rest ∧ identifier? (name ++ rest) = some name := by
  obtain ⟨name, same⟩ := Option.isSome_iff_exists.mp word
  obtain ⟨_, _, _, _, taken⟩ := identifier?_eq same
  have splits : text = name ++ text.dropWhile isIdentifierPart := by
    rw [taken, List.takeWhile_append_dropWhile]
  exact ⟨name, _, splits, splits ▸ same⟩

theorem split_run {set : Char → Bool} {c : Char} (first : set c) (text : List Char) :
    ∃ run rest, c :: text = run ++ rest ∧ run ≠ [] ∧ run.head? = some c ∧ (∀ d ∈ run, set d) ∧
      ∀ d ∈ rest.head?, set d = false := by
  refine ⟨(c :: text).takeWhile set, (c :: text).dropWhile set,
    List.takeWhile_append_dropWhile.symm, ?_, ?_, ?_, head_dropWhile⟩
  · simp [first]
  · simp [first]
  · exact fun d member => List.all_eq_true.mp List.all_takeWhile d member

inductive Head (marker : Char) (known : String → Bool) : List Char → Prop
  | plain {fragment rest} (plain : Plain marker known fragment rest) :
      Head marker known (fragment.covered ++ rest)
  | call {name rest} (called : Called marker known name rest) :
      Head marker known (marker :: '.' :: name ++ rest)
  | unclosed {ahead closing text} (unclosed : Unclosed marker ahead closing text) :
      Head marker known text

theorem head_of_marker (marker : Char) (known : String → Bool) (text : List Char) :
    Head marker known (marker :: text) := by
  cases text with
  | nil => exact .plain (.lone id)
  | cons c others =>
    by_cases escaped : c = marker
    · subst escaped
      exact .plain .escaped
    by_cases brace : c = '{'
    · subst brace
      rcases closed_or_open braces others with ⟨code, rest, splits, least⟩ | opens
      · rw [splits]
        exact .plain (.localBlock escaped least)
      · exact .unclosed (.localBlock escaped opens)
    by_cases caret : c = '^' ∧ others.head? = some '{'
    · obtain ⟨rfl, ahead⟩ := caret
      obtain ⟨text, rfl⟩ := List.head?_eq_some_iff.mp ahead
      rcases closed_or_open braces text with ⟨code, rest, splits, least⟩ | opens
      · rw [splits]
        exact .plain (.globalBlock escaped least)
      · exact .unclosed (.globalBlock escaped opens)
    by_cases parenthesis : c = '('
    · subst parenthesis
      rcases closed_or_open parentheses others with ⟨code, rest, splits, least⟩ | opens
      · rw [splits]
        exact .plain (.parenthesized escaped least)
      · exact .unclosed (.parenthesized escaped opens)
    by_cases dot : c = '.' ∧ (identifier? others).isSome
    · obtain ⟨rfl, begun⟩ := dot
      obtain ⟨name, rest, rfl, word⟩ := identifier?_split begun
      cases found : known (String.ofList name) with
      | false => exact .plain (.unknown escaped word found)
      | true => exact .call ⟨escaped, word, found⟩
    by_cases start : isIdentifierStart c = true
    · have begun : (identifier? (c :: others)).isSome := by
        rw [identifier?, if_pos start]
        rfl
      obtain ⟨name, rest, splits, word⟩ := identifier?_split begun
      obtain ⟨d, tail, rfl, _⟩ := identifier?_head word
      have first : (d :: tail).head? ≠ some marker := by
        cases splits
        simpa using escaped
      rw [splits]
      exact .plain (.identifier first word)
    · have alone : ¬ StartsConstruct marker (c :: others) := by
        intro starts
        rcases starts with same | same | same | same | same | same
        · exact escaped same
        · exact brace same
        · exact caret same
        · exact parenthesis same
        · exact dot same
        · exact start same
      exact .plain (.lone alone)

theorem head_of_text (marker : Char) (known : String → Bool) {text : List Char}
    (ahead : text ≠ []) : Head marker known text := by
  obtain ⟨c, text, rfl⟩ := List.exists_cons_of_ne_nil ahead
  by_cases marked : c = marker
  · subst marked
    exact head_of_marker c known text
  by_cases padding : isPadding c = true
  · obtain ⟨run, rest, splits, nonempty, first, inside, outside⟩ := split_run padding text
    rw [splits]
    exact .plain (.blank nonempty (by simpa [first] using marked) inside outside)
  by_cases line : c = '\n'
  · subst line
    exact .plain (.newline marked)
  · have textual : isTextRune marker c = true :=
      isTextRune_iff.mpr ⟨by simpa using padding, line, marked⟩
    obtain ⟨run, rest, splits, nonempty, _, inside, outside⟩ := split_run textual text
    rw [splits]
    exact .plain (.content nonempty inside outside)

namespace Lexer
variable {σ : Type} {lexer : Lexer σ} {start : Cursor} {memory : σ}
  {readBody : (cursor : Cursor) → cursor.rest.length ≤ (start.skip 1).rest.length → σ → BodyRun σ}

def fragmentItem (start : Cursor) (fragment : Fragment) (memory : σ) : Item σ :=
  ⟨.ok [fragment.token start.name start.position], fragment.covered.length - 1, memory⟩

theorem single_eq {start : Cursor} (fragment : Fragment) {rest : List Char} (memory : σ)
    (splits : start.rest = fragment.covered ++ rest) :
    single fragment.kind (start.spanTo (start.skip fragment.covered.length) fragment.text)
      (fragment.covered.length - 1) memory = fragmentItem start fragment memory := by
  rw [single, (Cursor.passes_skip splits).token]
  rfl

theorem spanning_eq {start : Cursor} (fragment : Fragment) {rest : List Char} (memory : σ)
    (splits : start.rest = fragment.covered ++ rest) {length : Nat}
    (long : fragment.covered.length = length + 1) :
    spanning start fragment.kind fragment.text length memory =
      fragmentItem start fragment memory := by
  rw [← single_eq fragment memory splits, spanning, long, Nat.add_sub_cancel]

theorem item_of_marker {text : List Char} (splits : start.rest = lexer.marker :: text) :
    lexer.item start readBody memory = lexer.markedItem start readBody memory text := by
  unfold item
  split
  · simp [splits] at *
  · rename_i c rest other
    cases splits.symm.trans other
    exact if_pos rfl

theorem balancedItem_eq {start : Cursor} {ahead : Nat} (kind : TokenKind)
    {opening closing : Char} (keep : Bool) (memory : σ) (delimiters : Delimiters opening closing)
    (lead : List Char) {code rest : List Char}
    (splits : start.rest = lead ++ (opening :: code ++ [closing]) ++ rest)
    (long : lead.length = ahead + 1)
    (least : LeastMatched opening closing (opening :: code ++ [closing])) :
    balancedItem start ahead kind opening closing keep memory =
      fragmentItem start ⟨kind, if keep then opening :: code ++ [closing] else code,
        lead ++ (opening :: code ++ [closing])⟩ memory := by
  have later : (start.skip (ahead + 1)).rest = opening :: code ++ [closing] ++ rest := by
    rw [Cursor.rest_skip, splits, ← long, List.append_assoc, List.drop_left]
  have read : (start.skip (ahead + 1)).readBalanced opening closing keep =
      .ok ⟨if keep then opening :: code ++ [closing] else code, code.length + 2⟩ :=
    Cursor.readBalanced_least delimiters keep later least
  unfold balancedItem
  rw [read]
  exact spanning_eq ⟨kind, _, _⟩ memory splits (by simp; omega)

theorem readWhile_item {start : Cursor} {kind : TokenKind} {set : Char → Bool}
    {run rest : List Char} (memory : σ) (splits : start.rest = run ++ rest)
    (inside : ∀ c ∈ run, set c) (outside : ∀ c ∈ rest.head?, set c = false) :
    single kind (start.readWhile set).value ((start.readWhile set).length - 1) memory =
      fragmentItem start ⟨kind, run, run⟩ memory := by
  unfold Cursor.readWhile Cursor.take Cursor.ahead
  rw [splits, takeWhile_run inside outside, List.take_left]
  exact single_eq ⟨kind, run, run⟩ memory splits

theorem item_of_rune {c : Char} {text : List Char} (splits : start.rest = c :: text)
    (other : c ≠ lexer.marker) :
    lexer.item start readBody memory =
      if isPadding c then
        single .whitespace (start.readWhile isPadding).value
          ((start.readWhile isPadding).length - 1) memory
      else if c = '\n' then single .newline (start.ahead 1) 0 memory
      else single .content (start.readWhile (isTextRune lexer.marker)).value
        ((start.readWhile (isTextRune lexer.marker)).length - 1) memory := by
  unfold item
  split
  · rename_i ended
    cases splits.symm.trans ended
  · rename_i d rest same
    cases splits.symm.trans same
    exact if_neg other

theorem markedItem_localBlock {text : List Char} (other : '{' ≠ lexer.marker) :
    lexer.markedItem start readBody memory ('{' :: text) =
      balancedItem start 0 .localBlock '{' '}' false memory :=
  (if_neg other).trans (if_pos rfl)

theorem markedItem_globalBlock {text : List Char} (other : '^' ≠ lexer.marker) :
    lexer.markedItem start readBody memory ('^' :: '{' :: text) =
      balancedItem start 1 .globalBlock '{' '}' false memory :=
  (if_neg other).trans ((if_neg (by decide)).trans (if_pos ⟨rfl, rfl⟩))

theorem markedItem_parenthesized {text : List Char} (other : '(' ≠ lexer.marker) :
    lexer.markedItem start readBody memory ('(' :: text) =
      balancedItem start 0 .expression '(' ')' true memory :=
  (if_neg other).trans ((if_neg (by decide)).trans
    ((if_neg fun both => by cases both.1).trans (if_pos rfl)))

theorem markedItem_lone {text : List Char} (alone : ¬ StartsConstruct lexer.marker text) :
    lexer.markedItem start readBody memory text =
      spanning start .content [lexer.marker] 0 memory := by
  cases text with
  | nil => rfl
  | cons c others =>
    simp only [StartsConstruct, not_or, not_and] at alone
    obtain ⟨other, brace, caret, parenthesis, dot, start⟩ := alone
    have word : identifier? (c :: others) = none := if_neg start
    simp only [markedItem, if_neg other, if_neg brace, if_neg parenthesis, word]
    rw [if_neg fun both => caret both.1 both.2]
    by_cases dotted : c = '.'
    · have nameless : identifier? others = none := by simpa using dot dotted
      simp only [if_pos dotted, nameless]
    · rw [if_neg dotted]

theorem markedItem_identifier {name rest : List Char} (other : name.head? ≠ some lexer.marker)
    (word : identifier? (name ++ rest) = some name) :
    lexer.markedItem start readBody memory (name ++ rest) =
      spanning start .expression name name.length memory := by
  obtain ⟨c, others, rfl, first⟩ := identifier?_head word
  obtain ⟨brace, caret, parenthesis, dot⟩ := identifierStart_not_delimiter first
  have apart : c ≠ lexer.marker := by simpa using other
  rw [List.cons_append] at word ⊢
  simp only [markedItem, if_neg apart, if_neg brace, if_neg parenthesis, if_neg dot, word]
  rw [if_neg fun both => caret both.1]

theorem markedItem_unknown {name rest : List Char} (other : '.' ≠ lexer.marker)
    (word : identifier? (name ++ rest) = some name)
    (unknown : lexer.macros.contains (String.ofList name) = false)
    (taken : start.rest.take (name.length + 1 + 1) = lexer.marker :: '.' :: name) :
    lexer.markedItem start readBody memory ('.' :: (name ++ rest)) =
      spanning start .content (lexer.marker :: '.' :: name) (name.length + 1) memory := by
  have absent : lexer.macros.get? (String.ofList name) = none := by
    simpa [MacroTable.contains] using unknown
  simp only [markedItem, if_neg other, word, callItem, absent, taken]
  rfl

theorem item_of_plain {fragment : Fragment} {rest : List Char}
    (plain : Plain lexer.marker lexer.macros.contains fragment rest)
    (splits : start.rest = fragment.covered ++ rest) :
    lexer.item start readBody memory = fragmentItem start fragment memory := by
  cases plain with
  | @blank run _ nonempty first inside outside =>
    obtain ⟨c, others, rfl⟩ := List.exists_cons_of_ne_nil nonempty
    rw [item_of_rune splits (by simpa using first), if_pos (inside c List.mem_cons_self)]
    exact readWhile_item memory splits inside outside
  | newline other =>
    rw [item_of_rune splits other, if_neg (by decide), if_pos rfl, Cursor.ahead, splits]
    exact single_eq ⟨.newline, ['\n'], ['\n']⟩ memory splits
  | @content run _ nonempty inside outside =>
    obtain ⟨c, others, rfl⟩ := List.exists_cons_of_ne_nil nonempty
    obtain ⟨solid, line, other⟩ := isTextRune_iff.mp (inside c List.mem_cons_self)
    rw [item_of_rune splits other, if_neg (by simp [solid]), if_neg line]
    exact readWhile_item memory splits inside outside
  | escaped =>
    rw [item_of_marker splits]
    exact (if_pos rfl).trans
      (spanning_eq ⟨.content, [lexer.marker], [lexer.marker, lexer.marker]⟩ memory splits rfl)
  | lone alone =>
    rw [item_of_marker splits]
    exact (markedItem_lone alone).trans
      (spanning_eq ⟨.content, [lexer.marker], [lexer.marker]⟩ memory splits rfl)
  | localBlock other least =>
    rw [item_of_marker splits]
    exact (markedItem_localBlock other).trans
      (balancedItem_eq .localBlock false memory braces [lexer.marker] splits rfl least)
  | globalBlock other least =>
    rw [item_of_marker splits]
    exact (markedItem_globalBlock other).trans
      (balancedItem_eq .globalBlock false memory braces [lexer.marker, '^'] splits rfl least)
  | parenthesized other least =>
    rw [item_of_marker splits]
    exact (markedItem_parenthesized other).trans
      (balancedItem_eq .expression true memory parentheses [lexer.marker] splits rfl least)
  | @identifier name _ other word =>
    rw [item_of_marker splits]
    exact (markedItem_identifier other word).trans
      (spanning_eq ⟨.expression, name, lexer.marker :: name⟩ memory splits rfl)
  | @unknown name _ other word unknown =>
    have taken : start.rest.take (name.length + 1 + 1) = lexer.marker :: '.' :: name := by
      rw [splits]
      exact List.take_left' rfl
    rw [item_of_marker splits]
    exact (markedItem_unknown other word unknown taken).trans
      (spanning_eq ⟨.content, lexer.marker :: '.' :: name, lexer.marker :: '.' :: name⟩ memory
        splits rfl)

theorem item_of_call {name rest : List Char}
    (called : Called lexer.marker lexer.macros.contains name rest)
    (splits : start.rest = lexer.marker :: '.' :: name ++ rest) :
    lexer.item start readBody memory = lexer.callItem start name readBody memory := by
  rw [item_of_marker splits]
  simp only [List.append_eq, List.cons_append, markedItem, if_neg called.other, called.word]
  rfl

theorem balancedItem_open {start : Cursor} {ahead : Nat} (kind : TokenKind)
    {opening closing : Char} (keep : Bool) (memory : σ) (delimiters : Delimiters opening closing)
    (lead : List Char) {text : List Char} (splits : start.rest = lead ++ opening :: text)
    (long : lead.length = ahead + 1)
    (opens : ∀ run, run <+: opening :: text → ¬ LeastMatched opening closing run) :
    balancedItem start ahead kind opening closing keep memory =
      ⟨.error (.error ((start.skip (ahead + 1)).errorHere .unbalanced
        s!"missing closing `{closing}`")), ahead, memory⟩ := by
  have later : (start.skip (ahead + 1)).rest = opening :: text := by
    rw [Cursor.rest_skip, splits, ← long, List.drop_left]
  have failed := Cursor.readBalanced_open delimiters keep (by rw [later]; rfl) (later ▸ opens)
  unfold balancedItem
  rw [failed]

theorem item_of_unclosed {ahead : Nat} {closing : Char}
    (unclosed : Unclosed lexer.marker ahead closing start.rest) :
    lexer.item start readBody memory =
      ⟨.error (.error ((start.skip (ahead + 1)).errorHere .unbalanced
        s!"missing closing `{closing}`")), ahead, memory⟩ := by
  generalize splits : start.rest = text at unclosed
  cases unclosed with
  | localBlock other opens =>
    rw [item_of_marker splits]
    exact (markedItem_localBlock other).trans
      (balancedItem_open .localBlock false memory braces [lexer.marker] splits rfl opens)
  | globalBlock other opens =>
    rw [item_of_marker splits]
    exact (markedItem_globalBlock other).trans
      (balancedItem_open .globalBlock false memory braces [lexer.marker, '^'] splits rfl opens)
  | parenthesized other opens =>
    rw [item_of_marker splits]
    exact (markedItem_parenthesized other).trans
      (balancedItem_open .expression true memory parentheses [lexer.marker] splits rfl opens)

theorem readAll_of_plains {cursor : Cursor} {fragments : List Fragment}
    (plains : Plains lexer.marker lexer.macros.contains cursor.rest fragments) :
    (lexer.readAll cursor memory).value =
      .ok (Fragment.lay cursor.name cursor.position fragments) := by
  generalize ahead : cursor.rest = text at plains
  induction plains generalizing cursor memory with
  | nil =>
    rw [readAll, dif_pos ahead]
    rfl
  | @cons fragment rest fragments plain others ih =>
    have nonempty : cursor.rest ≠ [] := by simp [ahead, plain.nonempty]
    have covered := List.length_pos_iff.mpr plain.nonempty
    obtain ⟨passes, past⟩ := Cursor.passes_to ahead rfl
    rw [readAll, dif_neg nonempty, item_of_plain plain ahead]
    simp only [fragmentItem, Nat.sub_add_cancel covered, ih past, Except.map, Fragment.lay,
      passes.name, passes.position, List.singleton_append]

end Lexer
end TemplateCompiler
