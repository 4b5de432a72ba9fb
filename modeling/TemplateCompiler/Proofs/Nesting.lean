import TemplateCompiler.Proofs.BlockHeads
import TemplateCompiler.Proofs.Coverage
import TemplateCompiler.Proofs.Tiling

namespace TemplateCompiler
open Text Code

inductive Role where
  | forOpen
  | ifOpen
  | elseIf
  | elseLast
  | close
  | plain
deriving DecidableEq

def Role.of (marker : Char) (kind : TokenKind) (text : String) (covered : List Char) : Role :=
  if kind ≠ .localBlock then .plain
  else if (marker :: '.' :: forName).isPrefixOf covered then .forOpen
  else if (marker :: '.' :: ifName).isPrefixOf covered then .ifOpen
  else if covered = [marker, '}'] then .close
  else if [marker, '}'].isPrefixOf covered then
    if text = "\x7d else \x7b" then .elseLast else .elseIf
  else .plain

def Source.role (source : Source) (marker : Char) (token : Token) : Role :=
  match source.covered token.slice with
  | some covered => .of marker token.kind token.text covered
  | none => .plain

def Fragment.role (marker : Char) (fragment : Fragment) : Role :=
  .of marker fragment.kind (String.ofList fragment.text) fragment.covered

inductive Stretch where
  | template
  | chain

-- A template is empty, or begins with a plain token, a `for` or an `if`. Behind the first body of
-- an `if` stands a chain: any number of `else if` with their bodies, perhaps an `else` with its
-- body, and the closing.
inductive Nested : Stretch → List Role → Prop
  | empty : Nested .template []
  | plain {rest} (others : Nested .template rest) : Nested .template (.plain :: rest)
  | forBlock {body rest} (inner : Nested .template body) (others : Nested .template rest) :
      Nested .template (.forOpen :: body ++ .close :: rest)
  | ifBlock {body chain rest} (inner : Nested .template body) (further : Nested .chain chain)
      (others : Nested .template rest) : Nested .template (.ifOpen :: body ++ chain ++ rest)
  | elseIf {body chain} (inner : Nested .template body) (further : Nested .chain chain) :
      Nested .chain (.elseIf :: body ++ chain)
  | elseLast {body} (inner : Nested .template body) :
      Nested .chain (.elseLast :: body ++ [.close])
  | close : Nested .chain [.close]

theorem Nested.append {left right : List Role} (first : Nested .template left)
    (second : Nested .template right) : Nested .template (left ++ right) := by
  generalize kind : Stretch.template = stretch at first
  induction first with
  | empty => exact second
  | plain others ih => exact .plain (ih kind)
  | forBlock inner others _ ih => simpa using Nested.forBlock inner (ih kind)
  | ifBlock inner further others _ _ ih => simpa using Nested.ifBlock inner further (ih kind)
  | elseIf | elseLast | close => cases kind

section Roles
variable {marker : Char} {known : String → Bool}

theorem role_plain {fragment : Fragment} {rest : List Char}
    (plain : Plain marker known fragment rest) : fragment.role marker = .plain := by
  cases plain with
  | localBlock => simp [Fragment.role, Role.of]
  | blank | newline | content | escaped | lone | globalBlock | parenthesized | identifier
    | unknown => rfl

theorem role_forOpening (header : List Char) :
    (Fragment.opening marker forName header).role marker = .forOpen := by
  simp [Fragment.role, Role.of, Fragment.opening]

theorem role_ifOpening (header : List Char) :
    (Fragment.opening marker ifName header).role marker = .ifOpen := by
  simp [Fragment.role, Role.of, Fragment.opening, ifName, forName]

theorem role_closing : (Fragment.closing marker).role marker = .close := by
  simp [Fragment.role, Role.of, Fragment.closing]

-- Behind a closing brace and more only the text tells the branches apart.
theorem role_middle {fragment : Fragment} {c : Char} {others : List Char}
    (kind : fragment.kind = .localBlock)
    (covered : fragment.covered = marker :: '}' :: c :: others) :
    fragment.role marker =
      if String.ofList fragment.text = "\x7d else \x7b" then .elseLast else .elseIf := by
  simp [Fragment.role, Role.of, kind, covered]

theorem role_elseLast {head : List Char} (words : ElseWords head) :
    (Fragment.elseLast marker head).role marker = .elseLast := by
  cases words with
  | @mk gap space gapBlank spaceBlank =>
    cases gap <;> exact (role_middle rfl rfl).trans (if_pos rfl)

theorem role_elseIf {head : List Char} (words : ElseIfWords head) (header : List Char) :
    (Fragment.elseIf marker head header).role marker = .elseIf := by
  have apart : String.ofList (head ++ header ++ ['{']) ≠ "\x7d else \x7b" := by
    intro same
    have member : 'f' ∈ (String.ofList (head ++ header ++ ['{'])).toList := by
      cases words
      simp
    rw [same] at member
    revert member
    decide
  cases words with
  | @mk gap space gapBlank spaceBlank _ =>
    cases gap <;> exact (role_middle rfl rfl).trans (if_neg apart)

-- What a part of a template adds to the word. The branches of an `if` leave its closing open.
def Part.WellNested (roles : List Role) : Part → Prop
  | .branches => Nested .chain (roles ++ [.close])
  | _ => Nested .template roles

theorem Lexes.wellNested {part : Part} {text rest : List Char} {fragments : List Fragment}
    (lexes : Lexes marker known part text fragments rest) :
    part.WellNested (fragments.map (·.role marker)) := by
  induction lexes with
  | plain plain =>
    rw [List.map_singleton, role_plain plain]
    exact .plain .empty
  | forBlock called opens lexes ih =>
    simpa [Part.WellNested, role_forOpening, role_closing] using Nested.forBlock ih .empty
  | ifBlock called opens lexes further inner chain =>
    simpa [Part.WellNested, role_ifOpening, role_closing] using Nested.ifBlock inner chain .empty
  | done => exact .empty
  | more stays first lexes one others =>
    rw [List.map_append]
    exact one.append others
  | noBranch => exact .close
  | elseIf found splits lexes further inner chain =>
    simpa [Part.WellNested, role_elseIf (elseIfAt?_words found).1] using Nested.elseIf inner chain
  | elseLast noElseIf found splits lexes inner =>
    simpa [Part.WellNested, role_elseLast (elseAt?_words found)] using Nested.elseLast inner

end Roles

-- Every token covers a part of the source, and the roles that the tokens have by these parts are a
-- word of the grammar, for every marker.
theorem Lexer.wellNested_of_tokenize {σ : Type} (marker : Char) (source : Source) (memory : σ)
    {tokens : List Token}
    (result : (tokenize ⟨marker, .builtins⟩ source memory).value = .ok tokens) :
    (∀ token ∈ tokens, (source.covered token.slice).isSome) ∧
      Nested .template (tokens.map (source.role marker)) := by
  obtain ⟨fragments, lexes, rfl⟩ := tokenize_follows MacroTable.blocksOnly_builtins result
  have covers : source.text = [] ++ Fragment.source fragments := by
    simpa [Part.lead] using lexes.source_eq
  constructor
  · intro token member
    obtain ⟨before, fragment, others, rfl, rfl⟩ := Fragment.mem_lay member
    have splits : source.text =
        Fragment.source before ++ fragment.covered ++ Fragment.source others := by
      simpa using covers
    rw [Fragment.covered_token splits]
    rfl
  · have roles := Fragment.map_lay (source.role marker) (Fragment.role marker) [] covers
      fun lead fragment rest splits => by
        rw [Source.role, Fragment.covered_token splits]
        rfl
    have word := lexes.wellNested
    rw [← roles] at word
    exact word

theorem Lexer.wellNested_nestedBlocks :
    ∃ tokens, (tokenize ⟨'◊', .builtins⟩ nestedBlocks ()).value = .ok tokens ∧
      tokens.map (nestedBlocks.role '◊') =
        [.plain, .forOpen, .ifOpen, .plain, .elseIf, .plain, .elseLast, .plain, .close, .close,
          .plain] ∧
      (∀ token ∈ tokens, (nestedBlocks.covered token.slice).isSome) ∧
      Nested .template (tokens.map (nestedBlocks.role '◊')) := by
  have roles : (tokenize ⟨'◊', .builtins⟩ nestedBlocks ()).value.toOption.map
      (List.map (nestedBlocks.role '◊')) =
        some [.plain, .forOpen, .ifOpen, .plain, .elseIf, .plain, .elseLast, .plain, .close, .close,
          .plain] := by decide +kernel
  obtain ⟨tokens, result, word⟩ := Outcome.ok_of_map roles
  exact ⟨tokens, result, word, wellNested_of_tokenize '◊' nestedBlocks () result⟩

end TemplateCompiler
