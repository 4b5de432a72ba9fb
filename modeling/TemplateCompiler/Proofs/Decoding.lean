import TemplateCompiler.Proofs.BlockHeads
import TemplateCompiler.Proofs.Coverage
import TemplateCompiler.Proofs.Printing
import TemplateCompiler.Proofs.Tiling

namespace TemplateCompiler
open Text Code

namespace Code

-- Code between braces cannot begin with the closing one.
theorem LeastMatched.head_code {code : List Char}
    (least : LeastMatched '{' '}' ('{' :: code ++ ['}'])) : code.head? ≠ some '}' := by
  intro closes
  obtain ⟨rest, rfl⟩ := List.head?_eq_some_iff.mp closes
  have matched : Matched '{' '}' ['{', '}'] := by decide
  have whole := least.2 ['{', '}'] (by simp) matched
  have lengths := congrArg List.length whole
  simp at lengths

-- Nor can it end with an opening one: that would be open still when the braces close.
theorem LeastMatched.not_open {code : List Char} (plain : code.foldl Quoting.feed .plain = .plain) :
    ¬ LeastMatched '{' '}' ('{' :: (code ++ ['{']) ++ ['}']) := by
  intro least
  obtain ⟨tail, same, closes⟩ := (leastMatched_iff braces).mp least
  cases same
  have before := closes.deeper code (by simp) (by simp)
  have level := closes.level
  have ends : structural .plain ['{', '}'] = ['{', '}'] := by decide
  rw [List.append_eq, List.append_assoc, List.singleton_append] at level
  simp only [reached, structural_append, plain, ends, List.count_append] at before level
  have both : ['{', '}'].count '{' = 1 ∧ ['{', '}'].count '}' = 1 := by decide
  omega

end Code

inductive Tells (marker : Char) : Fragment → List Char → Prop
  | whitespace {run after} (nonempty : run ≠ []) (inside : ∀ c ∈ run, c = ' ' ∨ c = '\t')
      (ends : ∀ c ∈ after.head?, ¬ (c = ' ' ∨ c = '\t')) :
      Tells marker ⟨.whitespace, run, run⟩ after
  | newline {after} : Tells marker ⟨.newline, ['\n'], ['\n']⟩ after
  | content {run after} (nonempty : run ≠ []) (inside : ∀ c ∈ run, isTextRune marker c)
      (ends : ∀ c ∈ after.head?, isTextRune marker c = false) :
      Tells marker ⟨.content, run, run⟩ after
  | escaped {after} : Tells marker ⟨.content, [marker], [marker, marker]⟩ after
  | lone {after} : Tells marker ⟨.content, [marker], [marker]⟩ after
  | unknownCall {name after} (word : IsIdentifier name) :
      Tells marker ⟨.content, marker :: '.' :: name, marker :: '.' :: name⟩ after
  | identifier {name after} (word : IsIdentifier name)
      (ends : ∀ c ∈ after.head?, isIdentifierPart c = false) :
      Tells marker ⟨.expression, name, marker :: name⟩ after
  | parenthesized {code after} (least : LeastMatched '(' ')' code) :
      Tells marker ⟨.expression, code, marker :: code⟩ after
  | globalBlock {code after} (least : LeastMatched '{' '}' ('{' :: code ++ ['}'])) :
      Tells marker ⟨.globalBlock, code, marker :: '^' :: ('{' :: code ++ ['}'])⟩ after
  | localBlock {code after} (least : LeastMatched '{' '}' ('{' :: code ++ ['}'])) :
      Tells marker ⟨.localBlock, code, marker :: ('{' :: code ++ ['}'])⟩ after
  | opening {name header after} (block : name = forName ∨ name = ifName)
      (code : IsHeader marker header) :
      Tells marker ⟨.localBlock, name ++ header ++ ['{'],
        marker :: '.' :: (name ++ header ++ ['{']) ++ [marker]⟩ after
  | elseIf {head header after} (words : ElseIfWords head) (code : IsHeader marker header) :
      Tells marker ⟨.localBlock, head ++ header ++ ['{'],
        marker :: (head ++ header ++ ['{']) ++ [marker]⟩ after
  | elseLast {head after} (words : ElseWords head) :
      Tells marker ⟨.localBlock, ['}', ' ', 'e', 'l', 's', 'e', ' ', '{'],
        marker :: head ++ [marker]⟩ after
  | closing {after} : Tells marker ⟨.localBlock, ['}'], [marker, '}']⟩ after

section Laws
variable {marker : Char} {known : String → Bool}

theorem isPadding_iff {c : Char} : isPadding c = true ↔ c = ' ' ∨ c = '\t' := by
  simp [isPadding]

theorem identifier?_word {name rest : List Char} (word : identifier? (name ++ rest) = some name) :
    IsIdentifier name ∧ ∀ c ∈ rest.head?, isIdentifierPart c = false := by
  obtain ⟨first, others, same, start⟩ := identifier?_head word
  obtain ⟨_, _, _, _, taken⟩ := identifier?_eq word
  refine ⟨⟨by simpa [same] using start, ?_⟩, ?_⟩
  · rw [taken]
    exact List.all_takeWhile
  · have left : (name ++ rest).dropWhile isIdentifierPart = rest := by
      have both := @List.takeWhile_append_dropWhile _ isIdentifierPart (name ++ rest)
      rw [← taken] at both
      exact List.append_cancel_left both
    rw [← left]
    exact head_dropWhile

theorem tells_of_plain {fragment : Fragment} {rest : List Char}
    (plain : Plain marker known fragment rest) : Tells marker fragment rest := by
  cases plain with
  | blank nonempty first inside outside =>
    refine .whitespace nonempty (fun c member => isPadding_iff.mp (inside c member)) ?_
    intro c ahead padding
    have inside := outside c ahead
    rw [isPadding_iff.mpr padding] at inside
    cases inside
  | newline other => exact .newline
  | content nonempty inside outside => exact .content nonempty inside outside
  | escaped => exact .escaped
  | lone alone => exact .lone
  | localBlock other least => exact .localBlock least
  | globalBlock other least => exact .globalBlock least
  | parenthesized other least => exact .parenthesized least
  | identifier other word => exact .identifier (identifier?_word word).1 (identifier?_word word).2
  | unknown other word unknown => exact .unknownCall (identifier?_word word).1

def AllTell (marker : Char) (rest : List Char) : List Fragment → Prop
  | [] => True
  | fragment :: others =>
    Tells marker fragment (Fragment.source others ++ rest) ∧ AllTell marker rest others

theorem AllTell.append {rest : List Char} {left right : List Fragment}
    (first : AllTell marker (Fragment.source right ++ rest) left)
    (second : AllTell marker rest right) : AllTell marker rest (left ++ right) := by
  induction left with
  | nil => exact second
  | cons fragment others ih =>
    obtain ⟨tells, further⟩ := first
    refine ⟨?_, ih further⟩
    change Tells marker fragment (Fragment.source (others ++ right) ++ rest)
    rwa [Fragment.source_append, List.append_assoc]

theorem AllTell.closed {rest : List Char} {fragments : List Fragment}
    (all : AllTell marker (marker :: '}' :: rest) fragments) :
    AllTell marker rest (fragments ++ [.closing marker]) :=
  AllTell.append all ⟨.closing, trivial⟩

theorem tells_opening {name header : List Char} (block : name = forName ∨ name = ifName)
    (code : IsHeader marker header) (after : List Char) :
    Tells marker (.opening marker name header) after := by
  simpa [Fragment.opening] using Tells.opening block code

theorem tells_elseIf {head header : List Char} (words : ElseIfWords head)
    (code : IsHeader marker header) (after : List Char) :
    Tells marker (.elseIf marker head header) after := by
  simpa [Fragment.elseIf] using Tells.elseIf words code

theorem Lexes.allTell {part : Part} {text rest : List Char} {fragments : List Fragment}
    (lexes : Lexes marker known part text fragments rest) :
    AllTell marker (part.lead marker ++ rest) fragments := by
  induction lexes with
  | plain plain => exact ⟨tells_of_plain plain, trivial⟩
  | forBlock called opens lexes ih =>
    exact ⟨tells_opening (.inl rfl) (header?_isHeader opens) _,
      AllTell.closed ih⟩
  | @ifBlock header _ body text branches rest called opens lexes further inner chain =>
    have ahead : Fragment.source (branches ++ [.closing marker]) ++ rest = marker :: text := by
      simpa [Fragment.closing, Part.lead] using further.source_eq.symm
    have others : AllTell marker rest (branches ++ [.closing marker]) :=
      AllTell.closed chain
    rw [List.append_assoc]
    exact ⟨tells_opening (.inr rfl) (header?_isHeader opens) _,
      AllTell.append (ahead ▸ inner) others⟩
  | done | noBranch => trivial
  | more stays first lexes one others =>
    have source := lexes.source_eq
    exact AllTell.append (source ▸ one) others
  | elseIf found splits lexes further inner chain =>
    have source := further.source_eq
    obtain ⟨words, code⟩ := elseIfAt?_words found
    exact ⟨tells_elseIf words code _, AllTell.append (source ▸ inner) chain⟩
  | elseLast noElseIf found splits lexes inner =>
    exact ⟨.elseLast (elseAt?_words found), inner⟩

structure Apart (marker : Char) (left right : Fragment) : Prop where
  blanks : ¬ (left.kind = .whitespace ∧ right.kind = .whitespace)
  contents : left.kind = .content → right.kind = .content →
    left.covered.head? = some marker ∨ right.covered.head? = some marker

theorem Tells.apart {left right : Fragment} {after : List Char}
    (first : Tells marker left (right.covered ++ after)) (second : Tells marker right after) :
    Apart marker left right := by
  constructor
  · rintro ⟨kind, other⟩
    cases first with
    | whitespace nonempty inside ends =>
      cases second with
      | whitespace nonempty padding _ =>
        obtain ⟨c, run, rfl⟩ := List.exists_cons_of_ne_nil nonempty
        exact ends c rfl (padding c List.mem_cons_self)
      | _ => cases other
    | _ => cases kind
  · intro kind other
    cases first with
    | content nonempty inside ends =>
      cases second with
      | content nonempty textual _ =>
        obtain ⟨c, run, rfl⟩ := List.exists_cons_of_ne_nil nonempty
        have stops := ends c rfl
        rw [textual c List.mem_cons_self] at stops
        cases stops
      | escaped | lone | unknownCall => exact .inr rfl
      | _ => cases other
    | escaped | lone | unknownCall => exact .inl rfl
    | _ => cases kind

theorem AllTell.isChain {rest : List Char} {fragments : List Fragment}
    (all : AllTell marker rest fragments) : fragments.IsChain (Apart marker) := by
  induction fragments with
  | nil => exact .nil
  | cons left others ih =>
    obtain ⟨first, further⟩ := all
    cases others with
    | nil => exact .singleton _
    | cons right others =>
      rw [Fragment.source_cons, List.append_assoc] at first
      exact .cons_cons (first.apart further.1) (ih further)

end Laws

-- The source of a token, told from its kind, its text and the number of bytes that it covers.
def restored (marker : Char) (kind : TokenKind) (text : List Char) (bytes : Nat) : List Char :=
  match kind with
  | .content => if bytes = byteLength text then text else [marker, marker]
  | .expression => marker :: text
  | .globalBlock => marker :: '^' :: ('{' :: text ++ ['}'])
  | .localBlock =>
    if text = ['}'] then [marker, '}']
    else if text.head? = some '}' then marker :: text ++ [marker]
    else if LeastMatched '{' '}' ('{' :: text ++ ['}']) then marker :: ('{' :: text ++ ['}'])
    else marker :: '.' :: text ++ [marker]
  | _ => text

def Token.restored (marker : Char) (token : Token) : List Char :=
  TemplateCompiler.restored marker token.kind token.text.toList
    (token.slice.stop.offset - token.slice.start.offset)

structure ElseOpening (marker : Char) (text covered : List Char) : Prop where
  text : text = ['}', ' ', 'e', 'l', 's', 'e', ' ', '{']
  covered : ∃ head, ElseWords head ∧ covered = marker :: head ++ [marker]

theorem restored_localBlock {marker : Char} {code : List Char} (bytes : Nat)
    (least : LeastMatched '{' '}' ('{' :: code ++ ['}'])) :
    restored marker .localBlock code bytes = marker :: ('{' :: code ++ ['}']) := by
  have other := least.head_code
  have longer : code ≠ ['}'] := by
    rintro rfl
    exact other rfl
  simp only [restored, if_neg longer, if_neg other, if_pos least]

-- The brace that ends a header is open, so the text of an opening is no code between braces.
theorem restored_opening {marker : Char} {name header : List Char} (bytes : Nat)
    (block : name = forName ∨ name = ifName) (code : IsHeader marker header) :
    restored marker .localBlock (name ++ header ++ ['{']) bytes =
      marker :: '.' :: (name ++ header ++ ['{']) ++ [marker] := by
  have plain : (name ++ header).foldl Quoting.feed .plain = .plain := by
    have closed := code.closed
    simp only [Nesting.isTop, quoting_afterRun, decide_eq_true_eq] at closed
    rw [List.foldl_append]
    rcases block with rfl | rfl <;> exact closed.2
  have other : (name ++ header ++ ['{']).head? ≠ some '}' := by
    rcases block with rfl | rfl <;> simp [forName, ifName]
  have longer : name ++ header ++ ['{'] ≠ ['}'] := by
    intro same
    exact other (by rw [same]; rfl)
  simp only [restored, if_neg longer, if_neg other, if_neg (LeastMatched.not_open plain)]

theorem restored_branch {marker : Char} {text : List Char} (bytes : Nat)
    (begins : text.head? = some '}') (longer : 1 < text.length) :
    restored marker .localBlock text bytes = marker :: text ++ [marker] := by
  have other : text ≠ ['}'] := by
    rintro rfl
    simp at longer
  simp only [restored, if_neg other, if_pos begins]

theorem Tells.restored {marker : Char} {fragment : Fragment} {after : List Char}
    (tells : Tells marker fragment after) :
    fragment.covered =
        restored marker fragment.kind fragment.text (byteLength fragment.covered) ∨
      ElseOpening marker fragment.text fragment.covered := by
  cases tells with
  | content | lone | unknownCall => exact .inl (if_pos rfl).symm
  | escaped =>
    have wide := marker.utf8Size_pos
    refine .inl (if_neg ?_).symm
    simp only [byteLength_cons, byteLength_nil]
    omega
  | localBlock least => exact .inl (restored_localBlock _ least).symm
  | opening block code => exact .inl (restored_opening _ block code).symm
  | elseIf words code =>
    refine .inl (restored_branch _ ?_ ?_).symm
    · cases words
      rfl
    · cases words
      simp only [List.length_append, List.length_cons]
      omega
  | elseLast words => exact .inr ⟨rfl, _, words, rfl⟩
  | whitespace | newline | identifier | parenthesized | globalBlock | closing => exact .inl rfl

def Source.Marked (source : Source) (marker : Char) (token : Token) : Prop :=
  ∃ more, source.covered token.slice = some (marker :: more)

-- Each token tells the part of the source that it covers by the law of its construct, and can be
-- turned back into it; the parts in order are the source. No two blank runs are neighbours, and of
-- two neighbouring contents one is written with the marker.
structure Decodes (marker : Char) (source : Source) (tokens : List Token) : Prop where
  tells : ∀ token ∈ tokens, ∃ covered after,
    source.covered token.slice = some covered ∧ source.beyond token.slice = some after ∧
    Tells marker ⟨token.kind, token.text.toList, covered⟩ after ∧
    (covered = token.restored marker ∨ ElseOpening marker token.text.toList covered)
  whole : tokens.flatMap (fun token => (source.covered token.slice).getD []) = source.text
  blanks : tokens.IsChain fun left right => ¬ (left.kind = .whitespace ∧ right.kind = .whitespace)
  contents : tokens.IsChain fun left right => left.kind = .content → right.kind = .content →
    source.Marked marker left ∨ source.Marked marker right

def Source.fragment (source : Source) (token : Token) : Fragment :=
  ⟨token.kind, token.text.toList, (source.covered token.slice).getD []⟩

theorem Source.fragment_token {source : Source} {lead rest : List Char} {fragment : Fragment}
    (splits : source.text = lead ++ fragment.covered ++ rest) :
    source.fragment (fragment.token source.name (Position.start.afterRun lead)) = fragment := by
  rw [Source.fragment, Fragment.covered_token splits]
  simp [Fragment.token, Token.plain, Token.text]

theorem Source.marked_of_head? {source : Source} {marker : Char} {token : Token}
    (head : (source.fragment token).covered.head? = some marker) : source.Marked marker token := by
  cases found : source.covered token.slice with
  | none => simp [fragment, found] at head
  | some covered =>
    rw [fragment, found] at head
    obtain ⟨more, rfl⟩ := List.head?_eq_some_iff.mp head
    exact ⟨more, found⟩

theorem AllTell.middle {marker : Char} {rest : List Char} {before others : List Fragment}
    {fragment : Fragment} (all : AllTell marker rest (before ++ fragment :: others)) :
    Tells marker fragment (Fragment.source others ++ rest) := by
  induction before with
  | nil => exact all.1
  | cons first before ih => exact ih all.2

theorem Token.restored_token (marker : Char) (name : String) (lead : List Char)
    (fragment : Fragment) :
    (fragment.token name (Position.start.afterRun lead)).restored marker =
      TemplateCompiler.restored marker fragment.kind fragment.text
        (byteLength fragment.covered) := by
  obtain ⟨start, stop⟩ := Fragment.offsets_token name lead fragment
  rw [Token.restored, start, stop, Nat.add_sub_cancel_left]
  simp [Fragment.token, Token.plain, Token.text]

theorem AllTell.decodes {marker : Char} {source : Source} {fragments : List Fragment}
    (covers : source.text = Fragment.source fragments) (all : AllTell marker [] fragments) :
    Decodes marker source (Fragment.lay source.name .start fragments) := by
  have laid : (Fragment.lay source.name .start fragments).map source.fragment = fragments := by
    have views := Fragment.map_lay source.fragment id [] covers
      fun lead fragment rest splits => Source.fragment_token splits
    rwa [List.map_id] at views
  have chain := all.isChain
  rw [← laid, List.isChain_map] at chain
  constructor
  · intro token member
    obtain ⟨before, fragment, others, rfl, rfl⟩ := Fragment.mem_lay member
    have splits : source.text =
        Fragment.source before ++ fragment.covered ++ Fragment.source others := by
      simp [covers]
    have tells := all.middle
    rw [List.append_nil] at tells
    refine ⟨_, _, Fragment.covered_token splits, Fragment.beyond_token splits, ?_, ?_⟩
    · simpa [Fragment.token, Token.plain, Token.text] using tells
    · rw [Token.restored_token]
      simpa [Fragment.token, Token.plain, Token.text] using tells.restored
  · rw [covers, ← laid, Fragment.source, List.flatMap_map, laid]
    rfl
  · exact chain.imp fun left right apart => apart.blanks
  · apply chain.imp
    intro left right apart kind other
    rcases apart.contents kind other with head | head
    · exact .inl (Source.marked_of_head? head)
    · exact .inr (Source.marked_of_head? head)

theorem Lexer.decodes_of_tokenize {σ : Type} (marker : Char) (source : Source) (memory : σ)
    {tokens : List Token}
    (result : (tokenize ⟨marker, .builtins⟩ source memory).value = .ok tokens) :
    Decodes marker source tokens := by
  obtain ⟨fragments, lexes, rfl⟩ := tokenize_follows MacroTable.blocksOnly_builtins result
  have covers := lexes.source_eq
  exact AllTell.decodes (by simpa [Part.lead] using covers) lexes.allTell

def everyConstruct : Source :=
  ⟨"page", ("a \t◊◊\n◊^\x7bg\x7d◊\x7bs\x7d◊(x)◊y◊.z ◊.for i \x7b◊b◊\x7d◊.if \"◊\" \x7b◊c" ++
    "◊\x7d \nelse  if d \x7b◊e◊\x7d\n\nelse\x7b◊f◊\x7d").toList⟩

theorem Lexer.decodes_everyConstruct :
    ∃ tokens, (tokenize ⟨'◊', .builtins⟩ everyConstruct ()).value = .ok tokens ∧
      tokens.map (·.text) =
        ["a", " \t", "◊", "\n", "g", "s", "(x)", "y", "◊.z", " ", "for i \x7b", "b", "\x7d",
          "if \"◊\" \x7b", "c", "\x7d \nelse  if d \x7b", "e", "\x7d else \x7b", "f", "\x7d"] ∧
      Decodes '◊' everyConstruct tokens := by
  have texts : (tokenize ⟨'◊', .builtins⟩ everyConstruct ()).value.toOption.map
      (List.map (·.text)) =
        some ["a", " \t", "◊", "\n", "g", "s", "(x)", "y", "◊.z", " ", "for i \x7b", "b", "\x7d",
          "if \"◊\" \x7b", "c", "\x7d \nelse  if d \x7b", "e", "\x7d else \x7b", "f", "\x7d"] := by
    decide +kernel
  obtain ⟨tokens, result, shown⟩ := Outcome.ok_of_map texts
  exact ⟨tokens, result, shown, decodes_of_tokenize '◊' everyConstruct () result⟩

end TemplateCompiler
