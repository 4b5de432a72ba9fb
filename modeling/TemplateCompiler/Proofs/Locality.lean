import TemplateCompiler.Proofs.Breaking
import TemplateCompiler.Proofs.Decoding

namespace TemplateCompiler
open Text Code

namespace Text
variable {head tail other : List Char}

theorem head?_behind (same : tail.head? = other.head?) :
    (head ++ tail).head? = (head ++ other).head? := by
  rw [List.head?_append, List.head?_append, same]

end Text

namespace Code
variable {marker : Char} {header inner other : List Char}

theorem headerFrom?_behind {nesting : Nesting}
    (found : headerFrom? marker nesting (header ++ '{' :: marker :: inner) = some header) :
    headerFrom? marker nesting (header ++ '{' :: marker :: other) = some header := by
  induction header generalizing nesting with
  | nil =>
    simp only [List.nil_append, headerFrom?] at found ⊢
    split at found
    · cases found
    · rename_i plain
      rw [if_neg plain]
      split at found
      · rename_i opens
        exact if_pos opens
      · obtain ⟨_, _, never⟩ := Option.map_eq_some_iff.mp found
        cases never
  | cons c header ih =>
    have ahead : (header ++ '{' :: marker :: inner).head? =
        (header ++ '{' :: marker :: other).head? := head?_behind rfl
    simp only [List.cons_append, headerFrom?] at found ⊢
    rw [ahead] at found
    split at found
    · cases found
    · rename_i plain
      rw [if_neg plain]
      split at found
      · cases found
      · rename_i goes
        obtain ⟨others, later, same⟩ := Option.map_eq_some_iff.mp found
        cases same
        rw [if_neg goes, ih later]
        rfl

-- The heads of blocks and branches do not depend on the body that they open.
theorem header?_behind
    (found : header? marker (header ++ '{' :: marker :: inner) = some header) :
    header? marker (header ++ '{' :: marker :: other) = some header :=
  headerFrom?_behind found

end Code

section Heads
variable {marker : Char} {head header inner other : List Char}

theorem elseIfAt?_behind
    (found : elseIfAt? marker (head ++ header ++ '{' :: marker :: inner) = some (head, header)) :
    elseIfAt? marker (head ++ header ++ '{' :: marker :: other) = some (head, header) := by
  rw [List.append_assoc] at *
  obtain ⟨words, later, splits, edge, opens⟩ := elseIfAt?_iff.mp found
  cases List.append_cancel_left splits
  have ahead : (header ++ '{' :: marker :: inner).head? =
      (header ++ '{' :: marker :: other).head? := head?_behind rfl
  exact elseIfAt?_iff.mpr ⟨words, _, rfl, ahead ▸ edge, header?_behind opens⟩

theorem elseAt?_behind
    (found : elseAt? marker (head ++ marker :: inner) = some head) :
    elseAt? marker (head ++ marker :: other) = some head :=
  elseAt?_iff.mpr ⟨(elseAt?_iff.mp found).1, other, by simp⟩

theorem elseIfAt?_none {text more : List Char} (absent : elseIfAt? marker (text ++ more) = none) :
    elseIfAt? marker text = none := by
  cases found : elseIfAt? marker text with
  | none => rfl
  | some words =>
    obtain ⟨inner, rfl⟩ := elseIfAt?_split found
    rw [List.append_assoc, List.cons_append, List.cons_append, elseIfAt?_behind found] at absent
    cases absent

theorem elseAt?_none {text more : List Char} (absent : elseAt? marker (text ++ more) = none) :
    elseAt? marker text = none := by
  cases found : elseAt? marker text with
  | none => rfl
  | some words =>
    obtain ⟨inner, rfl⟩ := elseAt?_split found
    rw [List.append_assoc, List.cons_append, elseAt?_behind found] at absent
    cases absent

end Heads

section Fragments
variable {marker : Char} {known : String → Bool} {fragment : Fragment} {rest other : List Char}

structure EndsRuns (marker c : Char) : Prop where
  padding : isPadding c = false
  textual : isTextRune marker c = false
  word : isIdentifierPart c = false

theorem identifier?_before {name : List Char} (word : identifier? (name ++ rest) = some name)
    (edge : ∀ c ∈ other.head?, rest.head? = some c ∨ isIdentifierPart c = false) :
    identifier? (name ++ other) = some name := by
  obtain ⟨identifier, ends⟩ := identifier?_word word
  exact identifier.identifier?_eq fun c ahead => (edge c ahead).elim (ends c) id

-- A fragment stands before any other text whose first rune ends all runs or came next before,
-- as long as a lone marker stays alone.
theorem Plain.before (plain : Plain marker known fragment rest)
    (edge : ∀ c ∈ other.head?, rest.head? = some c ∨ EndsRuns marker c)
    (alone : fragment.covered = [marker] → StartsConstruct marker other →
      StartsConstruct marker rest) : Plain marker known fragment other := by
  have word : ∀ c ∈ other.head?, rest.head? = some c ∨ isIdentifierPart c = false :=
    fun c ahead => (edge c ahead).imp_right (·.word)
  cases plain with
  | blank nonempty first inside outside =>
    exact .blank nonempty first inside fun c ahead =>
      (edge c ahead).elim (outside c) (·.padding)
  | newline other => exact .newline other
  | content nonempty inside outside =>
    exact .content nonempty inside fun c ahead => (edge c ahead).elim (outside c) (·.textual)
  | escaped => exact .escaped
  | lone starts => exact .lone (mt (alone rfl) starts)
  | localBlock other least => exact .localBlock other least
  | globalBlock other least => exact .globalBlock other least
  | parenthesized other least => exact .parenthesized other least
  | identifier other named => exact .identifier other (identifier?_before named word)
  | unknown other named unknown => exact .unknown other (identifier?_before named word) unknown

theorem identifier?_isSome {text : List Char} :
    (identifier? text).isSome ↔ ∃ c ∈ text.head?, isIdentifierStart c := by
  cases text with
  | nil => simp [identifier?]
  | cons c rest => simp [identifier?, Option.isSome_ite]

theorem startsConstruct_append {text : List Char} (more : List Char)
    (starts : StartsConstruct marker text) : StartsConstruct marker (text ++ more) := by
  cases text with
  | nil => exact starts.elim
  | cons c text =>
    have ahead : ∀ d, text.head? = some d → (text ++ more).head? = some d :=
      fun d first => by rw [List.head?_append, first]; rfl
    simp only [List.cons_append, StartsConstruct, identifier?_isSome] at starts ⊢
    rcases starts with same | same | ⟨caret, brace⟩ | same | ⟨dot, d, first, start⟩ | same
    · exact .inl same
    · exact .inr (.inl same)
    · exact .inr (.inr (.inl ⟨caret, ahead _ brace⟩))
    · exact .inr (.inr (.inr (.inl same)))
    · exact .inr (.inr (.inr (.inr (.inl ⟨dot, d, ahead d first, start⟩))))
    · exact .inr (.inr (.inr (.inr (.inr same))))

-- What makes something of the marker is there before a rune that neither names nor opens.
theorem startsConstruct_of_append {text more : List Char} (nonempty : text ≠ [])
    (edge : ∀ c ∈ more.head?, isIdentifierPart c = false ∧ c ≠ '{')
    (starts : StartsConstruct marker (text ++ more)) : StartsConstruct marker text := by
  obtain ⟨c, text, rfl⟩ := List.exists_cons_of_ne_nil nonempty
  have ahead : ∀ d, (text ++ more).head? = some d → isIdentifierPart d = true ∨ d = '{' →
      text.head? = some d := by
    intro d first goes
    cases text with
    | nil =>
      obtain ⟨ends, other⟩ := edge d first
      exact absurd goes (by simp [ends, other])
    | cons e text => exact first
  simp only [List.cons_append, StartsConstruct, identifier?_isSome] at starts ⊢
  rcases starts with same | same | ⟨caret, brace⟩ | same | ⟨dot, d, first, start⟩ | same
  · exact .inl same
  · exact .inr (.inl same)
  · exact .inr (.inr (.inl ⟨caret, ahead _ brace (.inr rfl)⟩))
  · exact .inr (.inr (.inr (.inl same)))
  · exact .inr (.inr (.inr (.inr (.inl
      ⟨dot, d, ahead d first (.inl (isIdentifierPart_of_start start)), start⟩))))
  · exact .inr (.inr (.inr (.inr (.inr same))))

end Fragments

section Parts
variable {marker : Char} {known : String → Bool} {part : Part} {text rest : List Char}
  {fragments : List Fragment}

theorem Plain.truncate {fragment : Fragment} {left cut : List Char}
    (plain : Plain marker known fragment (left ++ cut)) : Plain marker known fragment left :=
  plain.before (fun c ahead => .inl (by rw [List.head?_append, Option.mem_def.mp ahead]; rfl))
    fun _ starts => startsConstruct_append cut starts

theorem Called.behind {name header inner other : List Char}
    (called : Called marker known name (header ++ '{' :: marker :: inner)) :
    Called marker known name (header ++ '{' :: marker :: other) := by
  have ahead : (header ++ '{' :: marker :: inner).head? =
      (header ++ '{' :: marker :: other).head? := head?_behind rfl
  exact ⟨called.other, identifier?_before called.word fun c first => .inl (ahead.trans first),
    called.known⟩

theorem Lexes.branches_kept {left cut : List Char}
    (lexes : Lexes marker known .branches text fragments (left ++ cut)) :
    ∃ kept, text = kept ++ cut := by
  have covers : marker :: text = Fragment.source fragments ++ marker :: left ++ cut := by
    simpa [Part.lead] using lexes.source_eq
  rcases List.cons_eq_append_iff.mp covers with ⟨nothing, _⟩ | ⟨kept, _, rfl⟩
  · simp at nothing
  · exact ⟨kept, rfl⟩

-- By induction on the derivation. Branches need the brace that closes the block, for with it an
-- `else` may be cut off.
theorem Lexes.truncate (lexes : Lexes marker known part text fragments rest)
    {kept left cut : List Char} (whole : text = kept ++ cut) (remains : rest = left ++ cut)
    (closes : part = .branches → left ≠ []) : Lexes marker known part kept fragments left := by
  induction lexes generalizing kept left with
  | plain plain =>
    subst remains
    rw [← List.append_assoc, List.append_cancel_right_eq] at whole
    subst whole
    exact .plain plain.truncate
  | @forBlock header inner body rest called opens lexes ih =>
    subst remains
    obtain rfl : inner = Fragment.source body ++ marker :: '}' :: left ++ cut := by
      simpa using lexes.covers
    obtain rfl : kept = marker :: '.' :: forName ++ (header ++ '{' :: marker ::
        (Fragment.source body ++ marker :: '}' :: left)) :=
      List.append_cancel_right (by simpa using whole.symm)
    exact .forBlock called.behind (header?_behind opens) (ih rfl rfl (by simp))
  | @ifBlock header inner body text branches rest called opens lexes further ih others =>
    subst remains
    rw [← List.cons_append] at further
    obtain ⟨middle, rfl⟩ := further.branches_kept
    obtain rfl : inner = Fragment.source body ++ marker :: middle ++ cut := by
      simpa using lexes.covers
    obtain rfl : kept = marker :: '.' :: ifName ++ (header ++ '{' :: marker ::
        (Fragment.source body ++ marker :: middle)) :=
      List.append_cancel_right (by simpa using whole.symm)
    exact .ifBlock called.behind (header?_behind opens) (ih rfl rfl (by simp))
      (others rfl rfl (by simp))
  | done =>
    subst remains
    rw [List.append_cancel_right_eq] at whole
    subst whole
    exact .done
  | @more inside text one rest others last stays first lexes item items =>
    subst remains whole
    have covers : rest = Fragment.source others ++ left ++ cut := by
      rw [lexes.covers, List.append_assoc]
    exact .more (fun body => mt (·.trans (List.prefix_append kept cut)) (stays body))
      (item rfl covers (by simp)) (items covers rfl (by simp))
  | noBranch noElseIf noElse =>
    rw [remains] at whole noElseIf noElse
    obtain rfl := List.append_cancel_right whole
    obtain ⟨c, others, rfl⟩ := List.exists_cons_of_ne_nil (closes rfl)
    obtain ⟨rfl, -⟩ := List.cons_eq_cons.mp remains
    exact .noBranch (elseIfAt?_none noElseIf) (elseAt?_none noElse)
  | @elseIf text head header inner body rest others last found splits lexes further ih branches =>
    subst remains
    obtain ⟨middle, rfl⟩ := further.branches_kept
    obtain rfl : inner = Fragment.source body ++ marker :: middle ++ cut := by
      simpa using lexes.covers
    have begins : kept = head ++ header ++ '{' :: marker ::
        (Fragment.source body ++ marker :: middle) :=
      List.append_cancel_right (by simpa using whole.symm.trans splits)
    rcases List.cons_eq_append_iff.mp whole with ⟨nothing, _⟩ | ⟨kept, rfl, rfl⟩
    · simp [nothing] at begins
    · rw [splits] at found
      refine .elseIf ?_ begins (ih rfl rfl (by simp)) (branches rfl rfl fun _ => closes rfl)
      rw [begins]
      exact elseIfAt?_behind found
  | @elseLast text head inner body rest noElseIf found splits lexes ih =>
    rcases List.cons_eq_append_iff.mp remains with ⟨nothing, _⟩ | ⟨left, rfl, rfl⟩
    · exact absurd nothing (closes rfl)
    obtain rfl : inner = Fragment.source body ++ marker :: '}' :: left ++ cut := by
      simpa using lexes.covers
    have begins : kept = head ++ marker :: (Fragment.source body ++ marker :: '}' :: left) :=
      List.append_cancel_right (by simpa using whole.symm.trans splits)
    rcases List.cons_eq_append_iff.mp whole with ⟨nothing, _⟩ | ⟨kept, rfl, rfl⟩
    · simp [nothing] at begins
    · rw [splits] at found
      refine .elseLast (elseIfAt?_none noElseIf) ?_ begins (ih rfl rfl (by simp))
      rw [begins]
      exact elseAt?_behind found

end Parts

section Items
variable {marker : Char} {known : String → Bool} {inside : Bool}
  {text middle rest : List Char} {left right : List Fragment}

theorem Lexes.anywhere (lexes : Lexes marker known (.items inside) text left rest) :
    Lexes marker known (.items false) text left rest := by
  generalize same : Part.items inside = part at lexes
  induction lexes with
  | done => exact .done
  | more stays first lexes item items => exact .more (by simp) first (items same)
  | plain | forBlock | ifBlock | noBranch | elseIf | elseLast => cases same

theorem Lexes.append (first : Lexes marker known (.items false) text left middle)
    (second : Lexes marker known (.items false) middle right rest) :
    Lexes marker known (.items false) text (left ++ right) rest := by
  generalize same : Part.items false = part at first
  induction first with
  | done =>
    cases same
    exact second
  | more stays one lexes item items =>
    cases same
    rw [List.append_assoc]
    exact .more stays one (items second rfl)
  | plain | forBlock | ifBlock | noBranch | elseIf | elseLast => cases same

theorem Lexes.breaks {breach : Breach}
    (first : Lexes marker known (.items false) text left middle)
    (second : Breaks marker known (.items false) middle (some breach)) :
    Breaks marker known (.items false) text (some (breach.behind (Fragment.source left))) := by
  generalize same : Part.items false = part at first
  induction first with
  | done =>
    cases same
    exact second
  | more stays one lexes item items =>
    cases same
    have later := Breaks.later stays one (items second rfl)
    simpa [Breach.behind] using later
  | plain | forBlock | ifBlock | noBranch | elseIf | elseLast => cases same

end Items

section Macroless
variable {marker : Char} {known : String → Bool} {text rest : List Char}
  {fragments : List Fragment}

theorem Called.absurd {name : List Char} (macroless : ∀ name, known name = false)
    (called : Called marker known name rest) : False := by
  have known := called.known
  rw [macroless] at known
  cases known

theorem Lexes.plain_of_item (macroless : ∀ name, known name = false)
    (lexes : Lexes marker known .item text fragments rest) :
    ∃ fragment, fragments = [fragment] ∧ text = fragment.covered ++ rest ∧
      Plain marker known fragment rest := by
  cases lexes with
  | plain plain => exact ⟨_, rfl, rfl, plain⟩
  | forBlock called | ifBlock called => exact (called.absurd macroless).elim

theorem Lexes.none_of_nil (lexes : Lexes marker known (.items false) [] fragments rest) :
    fragments = [] ∧ rest = [] := by
  obtain ⟨nothing, ends⟩ := List.append_eq_nil_iff.mp lexes.covers.symm
  refine ⟨?_, ends⟩
  cases fragments with
  | nil => rfl
  | cons one others =>
    rw [Fragment.source_cons, List.append_eq_nil_iff] at nothing
    exact absurd nothing.1 (lexes.nonempty one List.mem_cons_self)

-- A whole text goes on with any other that starts a run of its own, unless a lone marker at its end
-- begins a construct with it.
theorem Lexes.grow (macroless : ∀ name, known name = false)
    (lexes : Lexes marker known (.items false) text fragments []) {more : List Char}
    (edge : ∀ c ∈ more.head?, EndsRuns marker c ∧ c ≠ '{')
    (alone : ∀ last ∈ fragments.getLast?, last.covered = [marker] →
      ¬ StartsConstruct marker more) :
    Lexes marker known (.items false) (text ++ more) fragments more := by
  generalize same : Part.items false = part at lexes
  generalize ends : [] = rest at lexes
  induction lexes with
  | done =>
    cases same
    cases ends
    exact .done
  | @more inside text one rest others last stays first lexes item items =>
    cases same
    cases ends
    obtain ⟨fragment, rfl, rfl, plain⟩ := first.plain_of_item macroless
    have further : ∀ last ∈ others.getLast?, last.covered = [marker] →
        ¬ StartsConstruct marker more := by
      intro last final
      refine alone last ?_
      rw [List.getLast?_append, Option.mem_def.mp final]
      rfl
    have longer : Plain marker known fragment (rest ++ more) := by
      refine plain.before ?_ ?_
      · intro c ahead
        cases rest with
        | nil => exact .inr (edge c ahead).1
        | cons d rest => exact .inl ahead
      · intro lone starts
        by_cases ended : rest = []
        · subst ended
          obtain ⟨rfl, _⟩ := lexes.none_of_nil
          exact absurd starts (alone fragment rfl lone)
        · exact startsConstruct_of_append ended
            (fun c ahead => ⟨(edge c ahead).1.word, (edge c ahead).2⟩) starts
    have one : Lexes marker known .item (fragment.covered ++ rest ++ more) [fragment]
        (rest ++ more) := by
      rw [List.append_assoc]
      exact .plain longer
    exact .more (by simp) one (items further rfl rfl)
  | plain | forBlock | ifBlock | noBranch | elseIf | elseLast => cases same

end Macroless
end TemplateCompiler
