import TemplateCompiler.Proofs.Grammar

namespace TemplateCompiler
open Text Code

-- The construct that breaks a text: the runes before it, those from its marker to the place of the
-- error, and what is said there.
structure Breach where
  before : List Char
  lead : List Char
  code : ErrorCode
  message : String
deriving DecidableEq

namespace Breach

def unclosed (lead : List Char) (closing : Char) : Breach :=
  ⟨[], lead, .unbalanced, s!"missing closing `{closing}`"⟩

def unopened (marker : Char) (name : List Char) : Breach :=
  ⟨[], marker :: '.' :: name, .noBlockOpen, s!"expected `\x7b{marker}` to open the block body"⟩

def unended (marker : Char) : Breach :=
  ⟨[], [], .unterminatedBody, s!"missing `{marker}\x7d` to close the block"⟩

def behind (run : List Char) (breach : Breach) : Breach :=
  { breach with before := run ++ breach.before }

-- What a body does to the block around it, when the block has read a run before the body. A body
-- that the text ends in is the fault of the block; any other fault lies inside.
def ofBody (marker : Char) (run : List Char) : Option Breach → Breach
  | none => unended marker
  | some breach => breach.behind run

theorem ofBody_behind (marker : Char) (run more : List Char) (found : Option Breach) :
    ofBody marker run (found.map (behind more)) = ofBody marker (run ++ more) found := by
  cases found with
  | none => rfl
  | some breach => simp [ofBody, behind]

def error (breach : Breach) (source : Source) (position : Position) : TemplateError :=
  source.error .tokenizer breach.code (position.afterRun (breach.before ++ breach.lead))
    breach.message

theorem error_behind (breach : Breach) (run : List Char) (source : Source) (position : Position) :
    (breach.behind run).error source position = breach.error source (position.afterRun run) := by
  simp only [error, behind, List.append_assoc, Position.afterRun_append]

end Breach

-- How a part of a text breaks. A body or the branches of an `if` may also run into the end of the
-- text, which is no breach of their own.
inductive Breaks (marker : Char) (known : String → Bool) :
    Part → List Char → Option Breach → Prop
  | unclosed {ahead closing text} (unclosed : Unclosed marker ahead closing text) :
      Breaks marker known .item text (some (.unclosed (text.take (ahead + 1)) closing))
  | unopened {name rest} (block : name = forName ∨ name = ifName)
      (called : Called marker known name rest) (headless : header? marker rest = none) :
      Breaks marker known .item (marker :: '.' :: name ++ rest) (some (.unopened marker name))
  | body {name header inner found} (block : name = forName ∨ name = ifName)
      (called : Called marker known name (header ++ '{' :: marker :: inner))
      (opens : header? marker (header ++ '{' :: marker :: inner) = some header)
      (breaks : Breaks marker known (.items true) inner found) :
      Breaks marker known .item (marker :: '.' :: name ++ (header ++ '{' :: marker :: inner))
        (some (.ofBody marker (Fragment.opening marker name header).covered found))
  | branches {header inner body text found}
      (called : Called marker known ifName (header ++ '{' :: marker :: inner))
      (opens : header? marker (header ++ '{' :: marker :: inner) = some header)
      (lexes : Lexes marker known (.items true) inner body (marker :: text))
      (breaks : Breaks marker known .branches text found) :
      Breaks marker known .item (marker :: '.' :: ifName ++ (header ++ '{' :: marker :: inner))
        (some (.ofBody marker ((Fragment.opening marker ifName header).covered ++
          (Fragment.source body ++ [marker])) found))
  | ended : Breaks marker known (.items true) [] none
  | here {inside text breach} (stays : inside = true → ¬ [marker, '}'] <+: text)
      (breaks : Breaks marker known .item text (some breach)) :
      Breaks marker known (.items inside) text (some breach)
  | later {inside text one rest found} (stays : inside = true → ¬ [marker, '}'] <+: text)
      (first : Lexes marker known .item text one rest)
      (breaks : Breaks marker known (.items inside) rest found) :
      Breaks marker known (.items inside) text (found.map (.behind (Fragment.source one)))
  | elseIfBody {text head header inner found}
      (words : elseIfAt? marker ('}' :: text) = some (head, header))
      (splits : '}' :: text = head ++ header ++ '{' :: marker :: inner)
      (breaks : Breaks marker known (.items true) inner found) :
      Breaks marker known .branches ('}' :: text)
        (found.map (.behind (head ++ header ++ ['{', marker])))
  | elseIfLater {text head header inner body rest found}
      (words : elseIfAt? marker ('}' :: text) = some (head, header))
      (splits : '}' :: text = head ++ header ++ '{' :: marker :: inner)
      (lexes : Lexes marker known (.items true) inner body (marker :: rest))
      (breaks : Breaks marker known .branches rest found) :
      Breaks marker known .branches ('}' :: text)
        (found.map (.behind (head ++ header ++ ['{', marker] ++ (Fragment.source body ++ [marker]))))
  | elseBody {text head inner found} (noElseIf : elseIfAt? marker ('}' :: text) = none)
      (words : elseAt? marker ('}' :: text) = some head)
      (splits : '}' :: text = head ++ marker :: inner)
      (breaks : Breaks marker known (.items true) inner found) :
      Breaks marker known .branches ('}' :: text) (found.map (.behind (head ++ [marker])))

section Settles
variable {marker : Char} {known : String → Bool}

theorem Breaks.branches_begin {text : List Char} {found : Option Breach}
    (breaks : Breaks marker known .branches text found) : ∃ ahead, text = '}' :: ahead := by
  cases breaks <;> exact ⟨_, rfl⟩

theorem Breaks.ahead {text : List Char} {found : Option Breach}
    (breaks : Breaks marker known .item text found) : text ≠ [] := by
  cases breaks with
  | unclosed unclosed => cases unclosed <;> exact List.cons_ne_nil _ _
  | unopened | body | branches => exact List.cons_ne_nil _ _

def BlockNames (known : String → Bool) : Prop :=
  ∀ name, known (String.ofList name) = true → name = forName ∨ name = ifName

theorem Lexes.shortens {text rest : List Char} {one : List Fragment}
    (lexes : Lexes marker known .item text one rest) : rest.length < text.length := by
  have covers := congrArg List.length lexes.source_eq
  simp only [Part.lead, List.nil_append, List.length_append] at covers
  cases lexes with
  | plain plain =>
    have nonempty := List.length_pos_iff.mpr plain.nonempty
    rw [List.length_append]
    omega
  | forBlock | ifBlock =>
    simp [Fragment.opening] at covers ⊢
    omega

theorem Lexes.ahead {text rest : List Char} {one : List Fragment}
    (lexes : Lexes marker known .item text one rest) : text ≠ [] := by
  rintro rfl
  exact Nat.not_lt_zero _ lexes.shortens

def ItemSettles (marker : Char) (known : String → Bool) (text : List Char) : Prop :=
  (∃ one rest, Lexes marker known .item text one rest) ∨
    ∃ breach, Breaks marker known .item text (some breach)

def BodySettles (marker : Char) (known : String → Bool) (text : List Char) : Prop :=
  (∃ body rest, Lexes marker known (.items true) text body (marker :: '}' :: rest)) ∨
    ∃ found, Breaks marker known (.items true) text found

def BranchesSettle (marker : Char) (known : String → Bool) (text : List Char) : Prop :=
  (∃ branches rest, Lexes marker known .branches ('}' :: text) branches ('}' :: rest)) ∨
    ∃ found, Breaks marker known .branches ('}' :: text) found

theorem block_settles {name header inner : List Char} (block : name = forName ∨ name = ifName)
    (called : Called marker known name (header ++ '{' :: marker :: inner))
    (opens : header? marker (header ++ '{' :: marker :: inner) = some header)
    (body : BodySettles marker known inner)
    (branches : ∀ rest, rest.length < inner.length → BranchesSettle marker known rest) :
    ItemSettles marker known (marker :: '.' :: name ++ (header ++ '{' :: marker :: inner)) := by
  rcases body with ⟨body, rest, lexes⟩ | ⟨found, breaks⟩
  · rcases block with rfl | rfl
    · exact .inl ⟨_, rest, .forBlock called opens lexes⟩
    · have shorter : rest.length < inner.length := by
        have covers := congrArg List.length lexes.covers
        simp at covers
        omega
      rcases branches rest shorter with ⟨others, last, further⟩ | ⟨found, breaks⟩
      · exact .inl ⟨_, last, .ifBlock called opens lexes further⟩
      · exact .inr ⟨_, .branches called opens lexes breaks⟩
  · exact .inr ⟨_, .body block called opens breaks⟩

theorem item_settles (blocks : BlockNames known) {text : List Char} (ahead : text ≠ [])
    (bodies : ∀ inner, inner.length < text.length → BodySettles marker known inner)
    (branches : ∀ rest, rest.length < text.length → BranchesSettle marker known rest) :
    ItemSettles marker known text := by
  cases head_of_text marker known ahead with
  | plain plain => exact .inl ⟨_, _, .plain plain⟩
  | unclosed unclosed => exact .inr ⟨_, .unclosed unclosed⟩
  | @call name rest called =>
    have block := blocks name called.known
    cases opens : header? marker rest with
    | none => exact .inr ⟨_, .unopened block called opens⟩
    | some header =>
      obtain ⟨inner, rfl⟩ := header?_split opens
      have inside : inner.length <
          (marker :: '.' :: name ++ (header ++ '{' :: marker :: inner)).length := by
        simp
        omega
      exact block_settles block called opens (bodies inner inside)
        fun rest shorter => branches rest (Nat.lt_trans shorter inside)

-- By induction on the text behind the closing brace, given the bodies inside it.
theorem branches_settle {text : List Char}
    (bodies : ∀ inner, inner.length ≤ text.length → BodySettles marker known inner) :
    BranchesSettle marker known text := by
  induction size : text.length using Nat.strongRecOn generalizing text with
  | _ length ih =>
    subst size
    cases found : elseIfAt? marker ('}' :: text) with
    | some words =>
      obtain ⟨head, header⟩ := words
      obtain ⟨inner, splits⟩ := elseIfAt?_split found
      have inside : inner.length < text.length := by
        have lengths := congrArg List.length splits
        simp at lengths
        omega
      rcases bodies inner (Nat.le_of_lt inside) with ⟨body, rest, lexes⟩ | ⟨fault, breaks⟩
      · have shorter : rest.length < inner.length := by
          have covers := congrArg List.length lexes.covers
          simp at covers
          omega
        have others : BranchesSettle marker known rest :=
          ih _ (Nat.lt_trans shorter inside)
            (fun inner less => bodies inner (by omega)) rfl
        rcases others with ⟨branches, last, further⟩ | ⟨fault, breaks⟩
        · exact .inl ⟨_, last, .elseIf found splits lexes further⟩
        · exact .inr ⟨_, .elseIfLater found splits lexes breaks⟩
      · exact .inr ⟨_, .elseIfBody found splits breaks⟩
    | none =>
      cases words : elseAt? marker ('}' :: text) with
      | none => exact .inl ⟨[], text, .noBranch found words⟩
      | some head =>
        obtain ⟨inner, splits⟩ := elseAt?_split words
        have inside : inner.length ≤ text.length := by
          have lengths := congrArg List.length splits
          simp at lengths
          omega
        rcases bodies inner inside with ⟨body, rest, lexes⟩ | ⟨fault, breaks⟩
        · exact .inl ⟨_, rest, .elseLast found words splits lexes⟩
        · exact .inr ⟨_, .elseBody found words splits breaks⟩

theorem body_settles (blocks : BlockNames known) (text : List Char) :
    BodySettles marker known text := by
  induction size : text.length using Nat.strongRecOn generalizing text with
  | _ length ih =>
    subst size
    by_cases closes : [marker, '}'] <+: text
    · obtain ⟨rest, rfl⟩ := closes
      exact .inl ⟨[], rest, .done⟩
    by_cases ahead : text = []
    · subst ahead
      exact .inr ⟨none, .ended⟩
    have item : ItemSettles marker known text := item_settles blocks ahead
      (fun inner less => ih _ less inner rfl)
      fun rest less => branches_settle fun inner within => ih _ (by omega) inner rfl
    rcases item with ⟨one, rest, first⟩ | ⟨breach, breaks⟩
    · rcases ih _ first.shortens rest rfl with ⟨body, last, lexes⟩ | ⟨found, breaks⟩
      · exact .inl ⟨_, last, .more (fun _ => closes) first lexes⟩
      · exact .inr ⟨_, .later (fun _ => closes) first breaks⟩
    · exact .inr ⟨_, .here (fun _ => closes) breaks⟩

theorem text_settles (blocks : BlockNames known) (text : List Char) :
    (∃ fragments, Lexes marker known (.items false) text fragments []) ∨
      ∃ breach, Breaks marker known (.items false) text (some breach) := by
  induction size : text.length using Nat.strongRecOn generalizing text with
  | _ length ih =>
    subst size
    by_cases ahead : text = []
    · subst ahead
      exact .inl ⟨[], .done⟩
    have item : ItemSettles marker known text := item_settles blocks ahead
      (fun inner _ => body_settles blocks inner)
      fun rest _ => branches_settle fun inner _ => body_settles blocks inner
    rcases item with ⟨one, rest, first⟩ | ⟨breach, breaks⟩
    · rcases ih _ first.shortens rest rfl with ⟨others, lexes⟩ | ⟨breach, breaks⟩
      · exact .inl ⟨_, .more (by simp) first lexes⟩
      · exact .inr ⟨_, .later (by simp) first breaks⟩
    · exact .inr ⟨_, .here (by simp) breaks⟩

end Settles
end TemplateCompiler
