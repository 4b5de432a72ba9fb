import TemplateCompiler.Proofs.Evaluation
import TemplateCompiler.Proofs.Relocation

namespace TemplateCompiler
open Text Code

-- An opening delimiter of code, with its closing one and the runes before it from the marker on.
inductive OpensCode (marker : Char) : List Char → Char → Char → Prop
  | parenthesized : OpensCode marker [marker] '(' ')'
  | localBlock : OpensCode marker [marker] '{' '}'
  | globalBlock : OpensCode marker [marker, '^'] '{' '}'

def NeverMatched (opening closing : Char) (text : List Char) : Prop :=
  ∀ run, run <+: text → ¬ Matched opening closing run

-- What is wrong at the place of an error: `lead` reaches from the marker of the construct to that
-- place and `ahead` is the text from there on.
inductive Culprit (marker : Char) : ErrorCode → List Char → List Char → Prop
  | unbalanced {lead opening closing text} (opens : OpensCode marker lead opening closing)
      (never : NeverMatched opening closing (opening :: text)) :
      Culprit marker .unbalanced lead (opening :: text)
  | noBlockOpen {name text} (block : name = forName ∨ name = ifName)
      (headless : header? marker text = none) :
      Culprit marker .noBlockOpen (marker :: '.' :: name) text
  | unterminatedBody {name text} (block : name = forName ∨ name = ifName) :
      Culprit marker .unterminatedBody [] (marker :: '.' :: name ++ text)

section Blamed
variable {marker : Char} {known : String → Bool} {text inner run : List Char} {breach : Breach}
  {found : Option Breach}

theorem neverMatched_of_open {opening closing : Char}
    (opens : ∀ run, run <+: text → ¬ LeastMatched opening closing run) :
    NeverMatched opening closing text := by
  intro run begins matched
  obtain ⟨least, first, found⟩ := matched.least
  exact opens least (first.trans begins) found

theorem Unclosed.opensCode {ahead : Nat} {closing : Char}
    (unclosed : Unclosed marker ahead closing text) :
    ∃ lead opening rest, text = lead ++ opening :: rest ∧ text.take (ahead + 1) = lead ∧
      OpensCode marker lead opening closing ∧ NeverMatched opening closing (opening :: rest) := by
  cases unclosed with
  | localBlock other opens =>
    exact ⟨[marker], '{', _, rfl, rfl, .localBlock, neverMatched_of_open opens⟩
  | globalBlock other opens =>
    exact ⟨[marker, '^'], '{', _, rfl, rfl, .globalBlock, neverMatched_of_open opens⟩
  | parenthesized other opens =>
    exact ⟨[marker], '(', _, rfl, rfl, .parenthesized, neverMatched_of_open opens⟩

-- A breach blames a construct of the text that breaks alone.
def Blames (marker : Char) (known : String → Bool) (text : List Char) (breach : Breach) : Prop :=
  ∃ ahead, text = breach.before ++ breach.lead ++ ahead ∧
    Breaks marker known .item (breach.lead ++ ahead) (some { breach with before := [] }) ∧
    Culprit marker breach.code breach.lead ahead

theorem Blames.behind (blames : Blames marker known text breach) (run : List Char) :
    Blames marker known (run ++ text) (breach.behind run) := by
  obtain ⟨ahead, rfl, breaks, culprit⟩ := blames
  exact ⟨ahead, by simp [Breach.behind], breaks, culprit⟩

theorem Blames.map_behind (inside : ∀ breach, found = some breach →
      Blames marker known inner breach) (run : List Char) :
    ∀ breach, found.map (.behind run) = some breach →
      Blames marker known (run ++ inner) breach := by
  intro breach same
  obtain ⟨deeper, rfl, rfl⟩ := Option.map_eq_some_iff.mp same
  exact (inside deeper rfl).behind run

theorem Blames.ofBody {name rest : List Char} (block : name = forName ∨ name = ifName)
    (splits : marker :: '.' :: name ++ rest = run ++ inner)
    (breaks : Breaks marker known .item (marker :: '.' :: name ++ rest)
      (some (.ofBody marker run found)))
    (inside : ∀ breach, found = some breach → Blames marker known inner breach) :
    Blames marker known (marker :: '.' :: name ++ rest) (.ofBody marker run found) := by
  cases found with
  | none => exact ⟨_, rfl, breaks, .unterminatedBody block⟩
  | some deeper =>
    rw [splits]
    exact (inside deeper rfl).behind run

theorem Breaks.blames {part : Part} (breaks : Breaks marker known part text found) :
    ∀ breach, found = some breach → Blames marker known text breach := by
  induction breaks with
  | unclosed unclosed =>
    intro breach same
    cases same
    obtain ⟨lead, opening, rest, rfl, taken, opens, never⟩ := unclosed.opensCode
    have again : Breaks marker known .item _ _ := .unclosed unclosed
    rw [taken] at again ⊢
    exact ⟨_, rfl, again, .unbalanced opens never⟩
  | unopened block called headless =>
    intro breach same
    cases same
    exact ⟨_, rfl, .unopened block called headless, .noBlockOpen block headless⟩
  | body block called opens breaks ih =>
    intro breach same
    cases same
    exact .ofBody block (by simp [Fragment.opening]) (.body block called opens breaks) ih
  | branches called opens lexes breaks ih =>
    intro breach same
    cases same
    have covers := lexes.covers
    exact .ofBody (.inr rfl) (by simp [covers, Fragment.opening])
      (.branches called opens lexes breaks) ih
  | ended =>
    intro breach same
    cases same
  | here stays breaks ih => exact ih
  | later stays first breaks ih =>
    have covers := first.source_eq
    simp only [Part.lead, List.nil_append] at covers
    rw [covers]
    exact Blames.map_behind ih _
  | @elseIfBody text head header inner found words splits breaks ih =>
    have covers : '}' :: text = head ++ header ++ ['{', marker] ++ inner := by simp [splits]
    rw [covers]
    exact Blames.map_behind ih _
  | @elseIfLater text head header inner body rest found words splits lexes breaks ih =>
    have inside := lexes.covers
    have covers : '}' :: text =
        head ++ header ++ ['{', marker] ++ (Fragment.source body ++ [marker]) ++ rest := by
      simp [splits, inside]
    rw [covers]
    exact Blames.map_behind ih _
  | @elseBody text head inner found noElseIf words splits breaks ih =>
    have covers : '}' :: text = head ++ [marker] ++ inner := by simp [splits]
    rw [covers]
    exact Blames.map_behind ih _

end Blamed

end TemplateCompiler
