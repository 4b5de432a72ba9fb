import TemplateCompiler.Proofs.Breaking
import TemplateCompiler.Proofs.Recoding

namespace TemplateCompiler
open Text Code

def Fragment.recoded (recode : Char → Char) (fragment : Fragment) : Fragment :=
  ⟨fragment.kind, fragment.text.map recode, fragment.covered.map recode⟩

theorem Fragment.source_recoded (recode : Char → Char) (fragments : List Fragment) :
    source (fragments.map (recoded recode)) = (source fragments).map recode := by
  induction fragments with
  | nil => rfl
  | cons fragment others ih =>
    rw [List.map_cons, source_cons, source_cons, ih, List.map_append]
    rfl

namespace Recoding
variable {recode : Char → Char} {marker c : Char} {known : String → Bool} {fragment : Fragment}
  {text rest run name header : List Char}

theorem startsConstruct_map (recodes : Recoding recode) (text : List Char) :
    StartsConstruct (recode marker) (text.map recode) ↔ StartsConstruct marker text := by
  cases text with
  | nil => rfl
  | cons c rest =>
    have same {d : Char} (meant : hasMeaning d) : recode c = d ↔ c = d :=
      recodes.eq_iff (recodes.fixes _ meant)
    simp only [List.map_cons, StartsConstruct, recodes.injective.eq_iff,
      recodes.head_fixed (recodes.fixes '{' (by decide)),
      same (d := '{') (by decide), same (d := '^') (by decide), same (d := '(') (by decide),
      same (d := '.') (by decide), recodes.identifier?_map, Option.isSome_map,
      recodes.identifierStart]

theorem other_marker (recodes : Recoding recode) (meant : hasMeaning c) (other : c ≠ marker) :
    c ≠ recode marker := by
  intro same
  exact other (recodes.injective ((recodes.fixes _ meant).trans same))

theorem word_recoded (recodes : Recoding recode) (word : identifier? (name ++ rest) = some name) :
    identifier? (name ++ rest.map recode) = some name := by
  have found := recodes.identifier?_map (name ++ rest)
  rwa [word, List.map_append, Option.map_some, recodes.fixes_identifier word] at found

theorem delimited_recoded {opening closing : Char} (opens : recode opening = opening)
    (closes : recode closing = closing) (code : List Char) :
    (opening :: code ++ [closing]).map recode = opening :: code.map recode ++ [closing] := by
  rw [List.map_append, List.map_cons, opens, List.map_singleton, closes]

theorem least_recoded (recodes : Recoding recode) {opening closing : Char} {code : List Char}
    (opens : recode opening = opening) (closes : recode closing = closing)
    (least : LeastMatched opening closing (opening :: code ++ [closing])) :
    LeastMatched opening closing (opening :: code.map recode ++ [closing]) := by
  rw [← delimited_recoded opens closes]
  exact (recodes.leastMatched_map opens closes).mpr least

theorem plain (recodes : Recoding recode) (plain : Plain marker known fragment rest) :
    Plain (recode marker) known (fragment.recoded recode) (rest.map recode) := by
  cases plain with
  | @blank run rest nonempty first inside outside =>
    have begins := mt recodes.head_marker.mp first
    exact .blank (by simpa using nonempty) begins (forall_recoded recodes.padding inside)
      (head_recoded recodes.padding outside)
  | newline other =>
    have line : recode '\n' = '\n' := recodes.fixes '\n' (by decide)
    have further := recodes.other_marker (by decide) other
    simpa [Fragment.recoded, line] using Plain.newline further
  | @content run rest nonempty inside outside =>
    exact .content (by simpa using nonempty) (forall_recoded recodes.textRune inside)
      (head_recoded recodes.textRune outside)
  | escaped => exact .escaped
  | lone alone => exact .lone (mt (recodes.startsConstruct_map _).mp alone)
  | localBlock other least =>
    have further := recodes.other_marker (by decide) other
    have opens := recodes.fixes '{' (by decide)
    have closes := recodes.fixes '}' (by decide)
    have block := recodes.least_recoded opens closes least
    simpa [Fragment.recoded, opens, closes] using Plain.localBlock further block
  | globalBlock other least =>
    have further := recodes.other_marker (by decide) other
    have opens := recodes.fixes '{' (by decide)
    have closes := recodes.fixes '}' (by decide)
    have block := recodes.least_recoded opens closes least
    simpa [Fragment.recoded, opens, closes, recodes.fixes '^' (by decide)] using
      Plain.globalBlock further block
  | parenthesized other least =>
    have further := recodes.other_marker (by decide) other
    have opens := recodes.fixes '(' (by decide)
    have closes := recodes.fixes ')' (by decide)
    have code := recodes.least_recoded opens closes least
    simpa [Fragment.recoded, opens, closes] using Plain.parenthesized further code
  | @identifier name rest other word =>
    have fixed := recodes.fixes_identifier word
    have further := mt recodes.head_marker.mp other
    rw [fixed] at further
    have again := recodes.word_recoded word
    simpa [Fragment.recoded, fixed] using Plain.identifier further again
  | @unknown name rest other word unknown =>
    have fixed := recodes.fixes_identifier word
    have further := recodes.other_marker (by decide) other
    have call := Plain.unknown further (recodes.word_recoded word) unknown
    simpa [Fragment.recoded, fixed, recodes.fixes '.' (by decide)] using call

theorem called (recodes : Recoding recode) (called : Called marker known name rest) :
    Called (recode marker) known name (rest.map recode) :=
  ⟨recodes.other_marker (by decide) called.other, recodes.word_recoded called.word, called.known⟩

theorem unclosed (recodes : Recoding recode) {ahead : Nat} {closing : Char}
    (unclosed : Unclosed marker ahead closing text) :
    Unclosed (recode marker) ahead closing (text.map recode) := by
  cases unclosed with
  | @localBlock text other never =>
    have further := recodes.other_marker (by decide) other
    have opens := recodes.fixes '{' (by decide)
    have runs := recodes.never_matched opens (recodes.fixes '}' (by decide)) never
    rw [List.map_cons, opens] at runs
    simpa [opens] using Unclosed.localBlock further runs
  | @globalBlock text other never =>
    have further := recodes.other_marker (by decide) other
    have opens := recodes.fixes '{' (by decide)
    have runs := recodes.never_matched opens (recodes.fixes '}' (by decide)) never
    rw [List.map_cons, opens] at runs
    simpa [opens, recodes.fixes '^' (by decide)] using Unclosed.globalBlock further runs
  | @parenthesized text other never =>
    have further := recodes.other_marker (by decide) other
    have opens := recodes.fixes '(' (by decide)
    have runs := recodes.never_matched opens (recodes.fixes ')' (by decide)) never
    rw [List.map_cons, opens] at runs
    simpa [opens] using Unclosed.parenthesized further runs

theorem opened_recoded (recodes : Recoding recode) (header inner : List Char) :
    (header ++ '{' :: marker :: inner).map recode =
      header.map recode ++ '{' :: recode marker :: inner.map recode := by
  rw [List.map_append, List.map_cons, List.map_cons, recodes.fixes '{' (by decide)]

theorem header_recoded (recodes : Recoding recode) {inner : List Char}
    (opens : header? marker (header ++ '{' :: marker :: inner) = some header) :
    header? (recode marker) (header.map recode ++ '{' :: recode marker :: inner.map recode) =
      some (header.map recode) := by
  rw [← recodes.opened_recoded, recodes.header?_map, opens, Option.map_some]

theorem fixes_forName (recodes : Recoding recode) : forName.map recode = forName :=
  recodes.fixes_run (by decide)

theorem fixes_ifName (recodes : Recoding recode) : ifName.map recode = ifName :=
  recodes.fixes_run (by decide)

theorem call_recoded (recodes : Recoding recode) (fixed : name.map recode = name)
    (rest : List Char) : (marker :: '.' :: name ++ rest).map recode =
      recode marker :: '.' :: name ++ rest.map recode := by
  rw [List.map_append, List.map_cons, List.map_cons, recodes.fixes '.' (by decide), fixed]

theorem opening_recoded (recodes : Recoding recode) (fixed : name.map recode = name)
    (header : List Char) : (Fragment.opening marker name header).recoded recode =
      .opening (recode marker) name (header.map recode) := by
  simp [Fragment.recoded, Fragment.opening, recodes.fixes '.' (by decide),
    recodes.fixes '{' (by decide), fixed]

theorem elseIf_recoded (recodes : Recoding recode) (head header : List Char) :
    (Fragment.elseIf marker head header).recoded recode =
      .elseIf (recode marker) (head.map recode) (header.map recode) := by
  simp [Fragment.recoded, Fragment.elseIf, recodes.fixes '{' (by decide)]

theorem elseLast_recoded (recodes : Recoding recode) (head : List Char) :
    (Fragment.elseLast marker head).recoded recode =
      .elseLast (recode marker) (head.map recode) := by
  have words : ['}', ' ', 'e', 'l', 's', 'e', ' ', '{'].map recode = _ :=
    recodes.fixes_run (by decide)
  rw [Fragment.recoded, Fragment.elseLast, words]
  simp [Fragment.elseLast]

theorem closing_recoded (recodes : Recoding recode) :
    (Fragment.closing marker).recoded recode = .closing (recode marker) := by
  simp [Fragment.recoded, Fragment.closing, recodes.fixes '}' (by decide)]

theorem elseIf_words (recodes : Recoding recode) {words : Option (List Char × List Char)}
    (found : elseIfAt? marker ('}' :: text) = words) :
    elseIfAt? (recode marker) ('}' :: text.map recode) =
      words.map fun words => (words.1.map recode, words.2.map recode) := by
  rw [← found, ← recodes.elseIfAt?_map, List.map_cons, recodes.fixes '}' (by decide)]

theorem else_words (recodes : Recoding recode) {words : Option (List Char)}
    (found : elseAt? marker ('}' :: text) = words) :
    elseAt? (recode marker) ('}' :: text.map recode) = words.map (·.map recode) := by
  rw [← found, ← recodes.elseAt?_map, List.map_cons, recodes.fixes '}' (by decide)]

theorem elseIf_run (recodes : Recoding recode) (head header : List Char) :
    (head ++ header ++ ['{', marker]).map recode =
      head.map recode ++ header.map recode ++ ['{', recode marker] := by
  rw [List.map_append, List.map_append, List.map_cons, List.map_singleton,
    recodes.fixes '{' (by decide)]

theorem elseIf_splits (recodes : Recoding recode) {head inner : List Char}
    (splits : '}' :: text = head ++ header ++ '{' :: marker :: inner) :
    '}' :: text.map recode =
      head.map recode ++ header.map recode ++ '{' :: recode marker :: inner.map recode := by
  have apart := congrArg (List.map recode) splits
  rwa [List.append_assoc, List.map_append, recodes.opened_recoded, List.map_cons,
    recodes.fixes '}' (by decide), ← List.append_assoc] at apart

theorem else_splits (recodes : Recoding recode) {head inner : List Char}
    (splits : '}' :: text = head ++ marker :: inner) :
    '}' :: text.map recode = head.map recode ++ recode marker :: inner.map recode := by
  have apart := congrArg (List.map recode) splits
  rwa [List.map_append, List.map_cons, List.map_cons, recodes.fixes '}' (by decide)] at apart

theorem close_unmet (recodes : Recoding recode) (stays : ¬ [marker, '}'] <+: text) :
    ¬ [recode marker, '}'] <+: text.map recode := by
  intro begins
  have before : [marker, '}'].map recode <+: text.map recode := by
    rwa [List.map_cons, List.map_singleton, recodes.fixes '}' (by decide)]
  exact stays ((List.prefix_map_iff_of_injective recodes.injective).mp before)

-- By induction on the derivation: every rule holds of the changed text as well.
theorem lexes (recodes : Recoding recode) {part : Part} {fragments : List Fragment}
    (lexes : Lexes marker known part text fragments rest) :
    Lexes (recode marker) known part (text.map recode) (fragments.map (·.recoded recode))
      (rest.map recode) := by
  induction lexes with
  | plain plain =>
    rw [List.map_append]
    exact .plain (recodes.plain plain)
  | forBlock called opens lexes ih =>
    have begins := recodes.called called
    rw [recodes.opened_recoded] at begins
    rw [List.map_cons, List.map_cons, recodes.fixes '}' (by decide)] at ih
    rw [recodes.call_recoded recodes.fixes_forName, recodes.opened_recoded]
    simpa [recodes.opening_recoded recodes.fixes_forName, recodes.closing_recoded] using
      Lexes.forBlock begins (recodes.header_recoded opens) ih
  | ifBlock called opens lexes further ih branches =>
    have begins := recodes.called called
    rw [recodes.opened_recoded] at begins
    rw [List.map_cons] at ih
    rw [List.map_cons, recodes.fixes '}' (by decide)] at branches
    rw [recodes.call_recoded recodes.fixes_ifName, recodes.opened_recoded]
    simpa [recodes.opening_recoded recodes.fixes_ifName, recodes.closing_recoded] using
      Lexes.ifBlock begins (recodes.header_recoded opens) ih branches
  | done => exact .done
  | more stays first lexes item items =>
    rw [List.map_append]
    exact .more (fun inside => recodes.close_unmet (stays inside)) item items
  | noBranch noElseIf noElse =>
    rw [List.map_cons, recodes.fixes '}' (by decide)]
    exact .noBranch (recodes.elseIf_words noElseIf) (recodes.else_words noElse)
  | elseIf found splits lexes further ih branches =>
    rw [List.map_cons] at ih
    rw [List.map_cons, recodes.fixes '}' (by decide), List.map_append, List.map_cons,
      recodes.elseIf_recoded]
    exact .elseIf (recodes.elseIf_words found) (recodes.elseIf_splits splits) ih branches
  | elseLast noElseIf found splits lexes ih =>
    rw [List.map_cons, List.map_cons, recodes.fixes '}' (by decide)] at ih
    rw [List.map_cons, List.map_cons, List.map_cons, recodes.fixes '}' (by decide),
      recodes.elseLast_recoded]
    exact .elseLast (recodes.elseIf_words noElseIf) (recodes.else_words found)
      (recodes.else_splits splits) ih

end Recoding

namespace Breach
variable {recode : Char → Char} {marker : Char} {name : List Char}

def recoded (recode : Char → Char) (breach : Breach) : Breach :=
  ⟨breach.before.map recode, breach.lead.map recode, breach.code, breach.message.map recode⟩

theorem behind_recoded (run : List Char) (breach : Breach) :
    (breach.behind run).recoded recode = (breach.recoded recode).behind (run.map recode) := by
  simp only [behind, recoded, List.map_append]

-- Messages are made of words, blanks, braces and perhaps the marker.
theorem map_message (recodes : Recoding recode) (first last : String)
    (starts : first.toList.all hasMeaning) (ends : last.toList.all hasMeaning) (c : Char) :
    (first ++ toString c ++ last).map recode = first ++ toString (recode c) ++ last := by
  apply String.toList_injective
  have middle (d : Char) : (toString d).toList = [d] := String.toList_singleton d
  rw [String.toList_map, String.toList_append, String.toList_append, String.toList_append,
    String.toList_append, middle, middle, List.map_append, List.map_append, List.map_singleton,
    recodes.fixes_run starts, recodes.fixes_run ends]

theorem unclosed_recoded (recodes : Recoding recode) {closing : Char}
    (fixed : recode closing = closing) (lead : List Char) :
    (unclosed lead closing).recoded recode = unclosed (lead.map recode) closing := by
  have message := map_message recodes "missing closing `" "`" (by decide) (by decide) closing
  rw [fixed] at message
  exact congrArg (Breach.mk [] (lead.map recode) .unbalanced) message

theorem unopened_recoded (recodes : Recoding recode) (fixed : name.map recode = name) :
    (unopened marker name).recoded recode = unopened (recode marker) name := by
  have message := map_message recodes "expected `\x7b" "` to open the block body" (by decide)
    (by decide) marker
  rw [recoded, unopened, List.map_cons, List.map_cons, recodes.fixes '.' (by decide), fixed]
  exact congrArg (Breach.mk [] (recode marker :: '.' :: name) .noBlockOpen) message

theorem unended_recoded (recodes : Recoding recode) :
    (unended marker).recoded recode = unended (recode marker) := by
  have message := map_message recodes "missing `" "\x7d` to close the block" (by decide)
    (by decide) marker
  exact congrArg (Breach.mk [] [] .unterminatedBody) message

theorem ofBody_recoded (recodes : Recoding recode) (run : List Char) (found : Option Breach) :
    (ofBody marker run found).recoded recode =
      ofBody (recode marker) (run.map recode) (found.map (·.recoded recode)) := by
  cases found with
  | none => exact unended_recoded recodes
  | some breach => exact behind_recoded run breach

theorem map_behind_recoded (run : List Char) (found : Option Breach) :
    (found.map (behind run)).map (·.recoded recode) =
      (found.map (·.recoded recode)).map (behind (run.map recode)) := by
  cases found with
  | none => rfl
  | some breach => exact congrArg some (behind_recoded run breach)

end Breach

namespace Recoding
variable {recode : Char → Char} {marker : Char} {known : String → Bool} {name : List Char}

theorem fixes_block (recodes : Recoding recode) (block : name = forName ∨ name = ifName) :
    name.map recode = name := by
  rcases block with rfl | rfl
  · exact recodes.fixes_forName
  · exact recodes.fixes_ifName

theorem breaks (recodes : Recoding recode) {part : Part} {text : List Char} {found : Option Breach}
    (breaks : Breaks marker known part text found) :
    Breaks (recode marker) known part (text.map recode) (found.map (·.recoded recode)) := by
  induction breaks with
  | @unclosed ahead closing text unclosed =>
    have fixed : recode closing = closing := by
      cases unclosed <;> exact recodes.fixes _ (by decide)
    rw [Option.map_some, Breach.unclosed_recoded recodes fixed, List.map_take]
    exact .unclosed (recodes.unclosed unclosed)
  | unopened block called headless =>
    have fixed := recodes.fixes_block block
    have still := recodes.header?_map _ ▸ congrArg (Option.map (List.map recode)) headless
    rw [recodes.call_recoded fixed, Option.map_some, Breach.unopened_recoded recodes fixed]
    exact .unopened block (recodes.called called) still
  | body block called opens breaks ih =>
    have fixed := recodes.fixes_block block
    have begins := recodes.called called
    rw [recodes.opened_recoded] at begins
    rw [recodes.call_recoded fixed, recodes.opened_recoded, Option.map_some,
      Breach.ofBody_recoded recodes]
    have body := Breaks.body block begins (recodes.header_recoded opens) ih
    rwa [← recodes.opening_recoded fixed] at body
  | branches called opens lexes breaks ih =>
    have begins := recodes.called called
    rw [recodes.opened_recoded] at begins
    have body := recodes.lexes lexes
    rw [List.map_cons] at body
    rw [recodes.call_recoded recodes.fixes_ifName, recodes.opened_recoded, Option.map_some,
      Breach.ofBody_recoded recodes, List.map_append, List.map_append, List.map_singleton,
      ← Fragment.source_recoded]
    have branches := Breaks.branches begins (recodes.header_recoded opens) body ih
    rwa [← recodes.opening_recoded recodes.fixes_ifName] at branches
  | ended => exact .ended
  | here stays breaks item => exact .here (fun inside => recodes.close_unmet (stays inside)) item
  | later stays first breaks ih =>
    rw [Breach.map_behind_recoded, ← Fragment.source_recoded]
    exact .later (fun inside => recodes.close_unmet (stays inside)) (recodes.lexes first) ih
  | @elseIfBody text head header inner found words splits breaks ih =>
    have apart := recodes.elseIf_splits splits
    rw [List.map_cons, recodes.fixes '}' (by decide), Breach.map_behind_recoded, recodes.elseIf_run]
    exact .elseIfBody (recodes.elseIf_words words) apart ih
  | @elseIfLater text head header inner body rest found words splits lexes breaks ih =>
    have apart := recodes.elseIf_splits splits
    have further := recodes.lexes lexes
    rw [List.map_cons] at further
    rw [List.map_cons, recodes.fixes '}' (by decide), Breach.map_behind_recoded, List.map_append,
      recodes.elseIf_run, List.map_append, List.map_singleton, ← Fragment.source_recoded]
    exact .elseIfLater (recodes.elseIf_words words) apart further ih
  | @elseBody text head inner found noElseIf words splits breaks ih =>
    have apart := recodes.else_splits splits
    rw [List.map_cons, recodes.fixes '}' (by decide), Breach.map_behind_recoded, List.map_append,
      List.map_singleton]
    exact .elseBody (recodes.elseIf_words noElseIf) (recodes.else_words words) apart ih

end Recoding
end TemplateCompiler
