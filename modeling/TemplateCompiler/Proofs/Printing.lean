import TemplateCompiler.Macro.Blocks
import TemplateCompiler.Proofs.Constructs
import TemplateCompiler.Text.Blank

namespace TemplateCompiler
open Text Code

inductive Element where
  | text (runes : List Char)
  | identifier (name : List Char)
  | parenthesized (code : List Char)
  | localBlock (code : List Char)
  | globalBlock (code : List Char)
deriving DecidableEq

structure IsIdentifier (name : List Char) : Prop where
  first : name.head?.any isIdentifierStart
  others : name.all isIdentifierPart

instance (name : List Char) : Decidable (IsIdentifier name) :=
  decidable_of_decidable_of_iff
    (⟨fun both => ⟨both.1, both.2⟩, fun word => ⟨word.first, word.others⟩⟩ :
      name.head?.any isIdentifierStart ∧ name.all isIdentifierPart ↔ IsIdentifier name)

-- Parentheses belong to the code that they enclose, braces do not.
def Element.WellFormed : Element → Prop
  | .text _ => True
  | .identifier name => IsIdentifier name
  | .parenthesized code => LeastMatched '(' ')' code
  | .localBlock code | .globalBlock code => LeastMatched '{' '}' ('{' :: code ++ ['}'])

instance : DecidablePred Element.WellFormed
  | .text _ => isTrue trivial
  | .identifier name => inferInstanceAs (Decidable (IsIdentifier name))
  | .parenthesized code => inferInstanceAs (Decidable (LeastMatched '(' ')' code))
  | .localBlock code | .globalBlock code =>
    inferInstanceAs (Decidable (LeastMatched '{' '}' ('{' :: code ++ ['}'])))

def double (marker : Char) (runes : List Char) : List Char :=
  runes.flatMap fun c => if c = marker then [marker, marker] else [c]

def Element.print (marker : Char) : Element → List Char
  | .text runes => double marker runes
  | .identifier name => marker :: name
  | .parenthesized code => marker :: code
  | .localBlock code => marker :: ('{' :: code ++ ['}'])
  | .globalBlock code => marker :: '^' :: ('{' :: code ++ ['}'])

def printAll (marker : Char) (elements : List Element) : List Char :=
  elements.flatMap (·.print marker)

-- What is printed after an identifier does not continue it.
def Separated (marker : Char) : List Element → Prop
  | [] => True
  | .identifier _ :: others =>
    (∀ c ∈ (printAll marker others).head?, isIdentifierPart c = false) ∧ Separated marker others
  | _ :: others => Separated marker others

structure NeutralMarker (marker : Char) : Prop where
  word : isIdentifierPart marker = false
  blank : isBlank marker = false
  other : marker ∉ ['.', '^', '{', '}', '(', ')', '[', ']', '"', backtick, '\\']

-- An element as a token shows it: its kind and text, blanks and newlines counted as content.
structure Entry where
  kind : TokenKind
  text : List Char
deriving DecidableEq

def entryKind : TokenKind → TokenKind
  | .whitespace | .newline => .content
  | kind => kind

def Token.entry (token : Token) : Entry := ⟨entryKind token.kind, token.text.toList⟩

def Element.entry : Element → Entry
  | .text runes => ⟨.content, runes⟩
  | .identifier name => ⟨.expression, name⟩
  | .parenthesized code => ⟨.expression, code⟩
  | .localBlock code => ⟨.localBlock, code⟩
  | .globalBlock code => ⟨.globalBlock, code⟩

def joinFront (entry : Entry) : List Entry → List Entry
  | [] => [entry]
  | next :: others =>
    if entry.kind = .content ∧ next.kind = .content then
      ⟨.content, entry.text ++ next.text⟩ :: others
    else entry :: next :: others

def joinTexts (entries : List Entry) : List Entry := entries.foldr joinFront []

def elementEntries (elements : List Element) : List Entry :=
  (elements.filter (· ≠ .text [])).map (·.entry)

theorem joinFront_content (left right : List Char) (entries : List Entry) :
    joinFront ⟨.content, left⟩ (joinFront ⟨.content, right⟩ entries) =
      joinFront ⟨.content, left ++ right⟩ entries := by
  cases entries with
  | nil => rfl
  | cons next others =>
    by_cases content : next.kind = .content
    · simp [joinFront, content]
    · simp [joinFront, content]

def leadText (runes : List Char) (entries : List Entry) : List Entry :=
  if runes = [] then entries else joinFront ⟨.content, runes⟩ entries

theorem leadText_append (left right : List Char) (entries : List Entry) :
    leadText (left ++ right) entries = leadText left (leadText right entries) := by
  by_cases blank : left = []
  · simp [leadText, blank]
  · by_cases empty : right = []
    · simp [leadText, empty]
    · simp [leadText, blank, empty, joinFront_content]

theorem elementEntries_text (runes : List Char) (others : List Element) :
    joinTexts (elementEntries (.text runes :: others)) =
      leadText runes (joinTexts (elementEntries others)) := by
  by_cases empty : runes = []
  · simp [elementEntries, leadText, empty]
  · simp [elementEntries, leadText, empty, joinTexts, Element.entry]

def Fragment.entry (fragment : Fragment) : Entry := ⟨entryKind fragment.kind, fragment.text⟩

theorem Fragment.entries_lay (name : String) (start : Position) (fragments : List Fragment) :
    (lay name start fragments).map Token.entry = fragments.map Fragment.entry := by
  induction fragments generalizing start with
  | nil => rfl
  | cons fragment others ih =>
    rw [lay, List.map_cons, List.map_cons, ih]
    simp [Token.entry, entry, token, Token.plain, Token.text]

section Doubled
variable {marker : Char} {known : String → Bool}

theorem double_append (left right : List Char) :
    double marker (left ++ right) = double marker left ++ double marker right := by
  simp [double]

theorem double_eq_self {run : List Char} (absent : ∀ c ∈ run, c ≠ marker) :
    double marker run = run := by
  induction run with
  | nil => rfl
  | cons c others ih =>
    obtain ⟨other, absent⟩ := List.forall_mem_cons.mp absent
    rw [double, List.flatMap_cons, if_neg other]
    exact congrArg (c :: ·) (ih absent)

theorem head?_double (runes : List Char) : (double marker runes).head? = runes.head? := by
  cases runes with
  | nil => rfl
  | cons c others =>
    by_cases same : c = marker <;> simp [double, same]

-- A maximal run of a set stays maximal in what is printed, up to the next marker.
theorem outside_double {set : Char → Bool} (outside : set marker = false) {later rest : List Char}
    (stops : ∀ c ∈ later.head?, set c = false) (ahead : ∀ c ∈ rest.head?, c = marker) :
    ∀ c ∈ (double marker later ++ rest).head?, set c = false := by
  intro c first
  rw [List.head?_append, head?_double] at first
  cases later with
  | nil => exact ahead c first ▸ outside
  | cons d others => exact stops c first

theorem NeutralMarker.not_padding (neutral : NeutralMarker marker) : isPadding marker = false := by
  apply Bool.eq_false_iff.mpr
  intro padding
  have either : marker = ' ' ∨ marker = '\t' := by simpa [isPadding] using padding
  rcases either with rfl | rfl <;> exact absurd neutral.blank (by decide)

theorem NeutralMarker.not_newline (neutral : NeutralMarker marker) : '\n' ≠ marker := by
  rintro rfl
  exact absurd neutral.blank (by decide)

theorem NeutralMarker.apart (neutral : NeutralMarker marker) :
    '{' ≠ marker ∧ '^' ≠ marker ∧ '(' ≠ marker := by
  have other := neutral.other
  simp only [List.mem_cons, not_or] at other
  exact ⟨Ne.symm other.2.2.1, Ne.symm other.2.1, Ne.symm other.2.2.2.2.1⟩

-- The text begins with a run that the lexer takes at once, however it goes on.
theorem plain_of_text (known : String → Bool) (neutral : NeutralMarker marker)
    {runes : List Char} (nonempty : runes ≠ []) :
    ∃ run later fragment, runes = run ++ later ∧ run ≠ [] ∧
      fragment.covered = double marker run ∧ fragment.entry = ⟨.content, run⟩ ∧
      ∀ rest, (∀ c ∈ rest.head?, c = marker) →
        Plain marker known fragment (double marker later ++ rest) := by
  obtain ⟨c, text, rfl⟩ := List.exists_cons_of_ne_nil nonempty
  by_cases marked : c = marker
  · subst marked
    exact ⟨[c], text, ⟨.content, [c], [c, c]⟩, rfl, by simp, by simp [double], rfl,
      fun rest ahead => .escaped⟩
  by_cases padding : isPadding c = true
  · obtain ⟨run, later, splits, nonempty, first, inside, outside⟩ := split_run padding text
    have absent : ∀ d ∈ run, d ≠ marker := by
      intro d member same
      simpa [same, neutral.not_padding] using inside d member
    exact ⟨run, later, ⟨.whitespace, run, run⟩, splits, nonempty, (double_eq_self absent).symm, rfl,
      fun rest ahead => .blank nonempty (by simpa [first] using marked) inside
        (outside_double neutral.not_padding outside ahead)⟩
  by_cases line : c = '\n'
  · subst line
    exact ⟨['\n'], text, ⟨.newline, ['\n'], ['\n']⟩, rfl, by simp,
      (double_eq_self (by simpa using marked)).symm, rfl,
      fun rest ahead => .newline neutral.not_newline⟩
  · have textual : isTextRune marker c = true :=
      isTextRune_iff.mpr ⟨by simpa using padding, line, marked⟩
    obtain ⟨run, later, splits, nonempty, _, inside, outside⟩ := split_run textual text
    have absent : ∀ d ∈ run, d ≠ marker := fun d member => (isTextRune_iff.mp (inside d member)).2.2
    exact ⟨run, later, ⟨.content, run, run⟩, splits, nonempty, (double_eq_self absent).symm, rfl,
      fun rest ahead => .content nonempty inside
        (outside_double (by simp [isTextRune]) outside ahead)⟩

-- Text with doubled markers is read up to the marker after it, and the runs that it is read in
-- make up the text.
theorem plains_of_text (neutral : NeutralMarker marker) {rest : List Char}
    {others : List Fragment} (ahead : ∀ c ∈ rest.head?, c = marker)
    (plains : Plains marker known rest others) (runes : List Char) :
    ∃ fragments, Plains marker known (double marker runes ++ rest) fragments ∧
      joinTexts (fragments.map (·.entry)) =
        leadText runes (joinTexts (others.map (·.entry))) := by
  induction size : runes.length using Nat.strongRecOn generalizing runes with
  | _ length ih =>
    subst size
    by_cases empty : runes = []
    · subst empty
      exact ⟨others, plains, rfl⟩
    · obtain ⟨run, later, fragment, rfl, nonempty, covered, shown, plain⟩ :=
        plain_of_text known neutral empty
      have shorter : later.length < (run ++ later).length := by
        have := List.length_pos_iff.mpr nonempty
        simp
        omega
      obtain ⟨fragments, more, joined⟩ := ih _ shorter later rfl
      refine ⟨fragment :: fragments, ?_, ?_⟩
      · rw [double_append, List.append_assoc, ← covered]
        exact .cons (plain rest ahead) more
      · rw [leadText_append, ← joined, List.map_cons, shown, leadText, if_neg nonempty]
        rfl

theorem IsIdentifier.identifier?_eq {name rest : List Char} (word : IsIdentifier name)
    (ends : ∀ c ∈ rest.head?, isIdentifierPart c = false) :
    identifier? (name ++ rest) = some name := by
  cases name with
  | nil => cases word.first
  | cons c others =>
    have start : isIdentifierStart c = true := word.first
    rw [List.cons_append, identifier?, if_pos start, ← List.cons_append,
      takeWhile_run (List.all_eq_true.mp word.others) ends]

theorem plain_of_element (known : String → Bool) (neutral : NeutralMarker marker)
    {element : Element} {rest : List Char} (other : ∀ runes, element ≠ .text runes)
    (wellFormed : element.WellFormed)
    (ends : ∀ name, element = .identifier name →
      ∀ c ∈ rest.head?, isIdentifierPart c = false) :
    ∃ fragment, Plain marker known fragment rest ∧ fragment.covered = element.print marker ∧
      fragment.entry = element.entry ∧ (element.print marker).head? = some marker := by
  obtain ⟨brace, caret, parenthesis⟩ := neutral.apart
  cases element with
  | text runes => exact absurd rfl (other runes)
  | identifier name =>
    refine ⟨⟨.expression, name, marker :: name⟩, .identifier ?_
      (wellFormed.identifier?_eq (ends name rfl)), rfl, rfl, rfl⟩
    intro first
    have part := List.all_eq_true.mp wellFormed.others marker (List.mem_of_mem_head? first)
    simp [neutral.word] at part
  | parenthesized code =>
    obtain ⟨inner, rfl⟩ := LeastMatched.ends parentheses wellFormed
    exact ⟨⟨.expression, _, _⟩, .parenthesized parenthesis wellFormed, rfl, rfl, rfl⟩
  | localBlock code =>
    exact ⟨⟨.localBlock, code, _⟩, .localBlock brace wellFormed, rfl, rfl, rfl⟩
  | globalBlock code =>
    exact ⟨⟨.globalBlock, code, _⟩, .globalBlock caret wellFormed, rfl, rfl, rfl⟩

theorem Separated.tail {element : Element} {others : List Element}
    (separated : Separated marker (element :: others)) : Separated marker others := by
  cases element with
  | identifier name => exact separated.2
  | text | parenthesized | localBlock | globalBlock => exact separated

-- By induction on the elements, with the text before them that is not yet read.
theorem plains_of_elements (known : String → Bool) (neutral : NeutralMarker marker)
    {elements : List Element} (wellFormed : ∀ element ∈ elements, element.WellFormed)
    (separated : Separated marker elements) (lead : List Char) :
    ∃ fragments,
      Plains marker known (double marker lead ++ printAll marker elements) fragments ∧
      joinTexts (fragments.map (·.entry)) =
        leadText lead (joinTexts (elementEntries elements)) := by
  induction elements generalizing lead with
  | nil => exact plains_of_text neutral (by simp) .nil lead
  | cons element others ih =>
    obtain ⟨one, further⟩ := List.forall_mem_cons.mp wellFormed
    have printed : printAll marker (element :: others) =
        element.print marker ++ printAll marker others := rfl
    by_cases text : ∃ runes, element = .text runes
    · obtain ⟨runes, rfl⟩ := text
      obtain ⟨fragments, plains, joined⟩ := ih further separated.tail (lead ++ runes)
      refine ⟨fragments, ?_, ?_⟩
      · rw [printed, ← List.append_assoc]
        rwa [double_append] at plains
      · rw [joined, elementEntries_text, leadText_append]
    · have other : ∀ runes, element ≠ .text runes := fun runes same => text ⟨runes, same⟩
      obtain ⟨fragment, plain, covered, shown, first⟩ :=
        plain_of_element known neutral other one (by rintro name rfl; exact separated.1)
      obtain ⟨fragments, plains, joined⟩ := ih further separated.tail []
      obtain ⟨all, before, together⟩ := plains_of_text neutral
        (by rw [covered, List.head?_append, first]; simp) (.cons plain plains) lead
      refine ⟨all, ?_, ?_⟩
      · rwa [covered] at before
      · rw [together, List.map_cons, shown, joinTexts, List.foldr_cons, ← joinTexts, joined]
        simp [elementEntries, other [], leadText, joinTexts]

end Doubled

theorem Lexer.tokenize_printAll {σ : Type} (lexer : Lexer σ) (memory : σ) (name : String)
    (neutral : NeutralMarker lexer.marker) {elements : List Element}
    (wellFormed : ∀ element ∈ elements, element.WellFormed)
    (separated : Separated lexer.marker elements) :
    ∃ tokens, (lexer.tokenize ⟨name, printAll lexer.marker elements⟩ memory).value = .ok tokens ∧
      joinTexts (tokens.map (·.entry)) = joinTexts (elementEntries elements) := by
  obtain ⟨fragments, plains, joined⟩ :=
    plains_of_elements lexer.macros.contains neutral wellFormed separated []
  exact ⟨_, readAll_of_plains plains, by rw [Fragment.entries_lay]; exact joined⟩

def sampleElements : List Element :=
  [.text ['a', ' ', '◊'], .globalBlock ['"', '}', '"', '◊'], .identifier ['x', '1'],
    .text ['.', 'f', 'o', 'r', '\n'], .text [], .parenthesized ['(', '"', ')', '"', ')'],
    .localBlock []]

theorem Lexer.tokenize_sampleElements :
    ∃ tokens, (tokenize ⟨'◊', .builtins⟩ ⟨"page", printAll '◊' sampleElements⟩ ()).value =
        .ok tokens ∧
      joinTexts (tokens.map (·.entry)) = joinTexts (elementEntries sampleElements) := by
  have neutral : NeutralMarker '◊' := ⟨by decide +kernel, by decide, by decide⟩
  have wellFormed : ∀ element ∈ sampleElements, element.WellFormed := by decide +kernel
  have separated : Separated '◊' sampleElements := by
    constructor
    · intro c ahead
      cases ahead
      decide +kernel
    · trivial
  exact tokenize_printAll ⟨'◊', .builtins⟩ () "page" neutral wellFormed separated

end TemplateCompiler
