import TemplateCompiler.Proofs.BlockAnswers
import TemplateCompiler.Proofs.Lexing

namespace TemplateCompiler
open Text Code Scan

namespace Lexer
variable {σ : Type} {lexer : Lexer σ} {source : Source} {start cursor middle later close : Cursor}
  {tokens others : List Token}

def ItemFinds (lexer : Lexer σ) (cursor : Cursor) (tokens : List Token) (later : Cursor) : Prop :=
  ∀ memory, ∃ length, lexer.itemAt cursor memory = ⟨.ok tokens, length, memory⟩ ∧
    later = cursor.skip (length + 1)

def ItemFails (lexer : Lexer σ) (cursor : Cursor) (fault : Fault) : Prop :=
  ∀ memory, (lexer.itemAt cursor memory).value = .error fault

def AllFinds (lexer : Lexer σ) (cursor : Cursor) (tokens : List Token) : Prop :=
  ∀ memory, (lexer.readAll cursor memory).value = .ok tokens

def AllFails (lexer : Lexer σ) (cursor : Cursor) (fault : Fault) : Prop :=
  ∀ memory, (lexer.readAll cursor memory).value = .error fault

theorem bodyFinds_nil (closes : [lexer.marker, '}'] <+: cursor.rest) :
    lexer.BodyFinds cursor [] cursor := by
  intro memory
  refine ⟨0, ?_, cursor.skip_zero.symm⟩
  rw [readBody, if_pos (atBodyClose_iff.mpr closes)]

theorem bodyFinds_append (stays : ¬ [lexer.marker, '}'] <+: cursor.rest) (ahead : cursor.rest ≠ [])
    (item : lexer.ItemFinds cursor tokens middle) (further : lexer.BodyFinds middle others close) :
    lexer.BodyFinds cursor (tokens ++ others) close := by
  intro memory
  obtain ⟨length, found, rfl⟩ := item memory
  obtain ⟨more, rest, rfl⟩ := further memory
  refine ⟨length + 1 + more, ?_, Cursor.skip_skip _ _ _⟩
  rw [readBody_of_ok (mt atBodyClose_iff.mp stays) ahead (by rw [found])]
  simp only [found, rest]

theorem bodyBreaks_nil (ended : cursor.rest = []) : lexer.BodyBreaks source cursor none := by
  intro memory
  have opens : ¬ cursor.atBodyClose lexer.marker = true := by
    rw [atBodyClose_iff, ended]
    simp
  rw [readBody, if_neg opens, dif_pos ended]
  rfl

theorem bodyBreaks_item {breach : Breach} (stays : ¬ [lexer.marker, '}'] <+: cursor.rest)
    (ahead : cursor.rest ≠ [])
    (item : lexer.ItemFails cursor (.error (breach.error source cursor.position))) :
    lexer.BodyBreaks source cursor (some breach) :=
  fun memory => readBody_of_error (mt atBodyClose_iff.mp stays) ahead (item memory)

theorem stopOf_behind (position : Position) (run : List Char) (found : Option Breach) :
    stopOf source position (found.map (.behind run)) =
      stopOf source (position.afterRun run) found := by
  cases found with
  | none => rfl
  | some breach => simp only [stopOf, Option.map_some, Breach.error_behind]

theorem bodyBreaks_append {run : List Char} {found : Option Breach}
    (stays : ¬ [lexer.marker, '}'] <+: cursor.rest) (ahead : cursor.rest ≠ [])
    (item : lexer.ItemFinds cursor tokens middle) (passes : cursor.Passes run middle)
    (further : lexer.BodyBreaks source middle found) :
    lexer.BodyBreaks source cursor (found.map (.behind run)) := by
  intro memory
  obtain ⟨length, read, rfl⟩ := item memory
  rw [stopOf_behind, ← passes.position, ← further memory,
    readBody_of_ok (mt atBodyClose_iff.mp stays) ahead (by rw [read])]
  simp only [read]

theorem allFinds_append (ahead : cursor.rest ≠ []) (item : lexer.ItemFinds cursor tokens middle)
    (further : lexer.AllFinds middle others) : lexer.AllFinds cursor (tokens ++ others) := by
  intro memory
  obtain ⟨length, found, rfl⟩ := item memory
  rw [readAll_of_ok ahead (by rw [found]), found, further memory]
  rfl

theorem allFails_append {fault : Fault} (ahead : cursor.rest ≠ [])
    (item : lexer.ItemFinds cursor tokens middle) (further : lexer.AllFails middle fault) :
    lexer.AllFails cursor fault := by
  intro memory
  obtain ⟨length, found, rfl⟩ := item memory
  rw [readAll_of_ok ahead (by rw [found]), found, further memory]
  rfl

theorem callItem_answers {name rest : List Char} {entry : Macro σ}
    (called : Called lexer.marker lexer.macros.contains name rest)
    (splits : start.rest = lexer.marker :: '.' :: name ++ rest)
    (known : lexer.macros.get? (String.ofList name) = some entry) (memory : σ) :
    ∃ within, lexer.itemAt start memory =
      let outcome := entry.expand (start.spanTo (start.skip (name.length + 2)) name) _
        (lexer.bodies (start.skip 1).rest.length) (start.skip (name.length + 2)) within memory
      ⟨outcome.value, name.length + 1 + outcome.length, outcome.memory⟩ := by
  have within : (start.skip (name.length + 2)).rest.length ≤ (start.skip 1).rest.length := by
    simp only [Cursor.rest_skip, List.length_drop]
    omega
  refine ⟨within, ?_⟩
  rw [itemAt, item_of_call called splits, callItem]
  split
  · rename_i absent
    cases absent.symm.trans known
  · rename_i found same
    cases same.symm.trans known
    rfl

theorem item_of_finds {name rest : List Char} {entry : Macro σ}
    (called : Called lexer.marker lexer.macros.contains name rest)
    (splits : start.rest = lexer.marker :: '.' :: name ++ rest)
    (known : lexer.macros.get? (String.ofList name) = some entry)
    (finds : Finds (lexer.bodies (start.skip 1).rest.length)
      (entry.expand (start.spanTo (start.skip (name.length + 2)) name))
      (start.skip (name.length + 2)) tokens later) : lexer.ItemFinds start tokens later := by
  intro memory
  obtain ⟨within, same⟩ := callItem_answers called splits known memory
  obtain ⟨length, found, rfl⟩ := finds within memory
  refine ⟨name.length + 1 + length, ?_, ?_⟩
  · rw [same, found]
  · rw [Cursor.skip_skip]
    congr 1
    omega

theorem item_of_fails {name rest : List Char} {entry : Macro σ} {fault : Fault}
    (called : Called lexer.marker lexer.macros.contains name rest)
    (splits : start.rest = lexer.marker :: '.' :: name ++ rest)
    (known : lexer.macros.get? (String.ofList name) = some entry)
    (fails : Fails (lexer.bodies (start.skip 1).rest.length)
      (entry.expand (start.spanTo (start.skip (name.length + 2)) name))
      (start.skip (name.length + 2)) fault) : lexer.ItemFails start fault := by
  intro memory
  obtain ⟨within, same⟩ := callItem_answers called splits known memory
  rw [same]
  exact fails within memory

theorem item_of_fragment {fragment : Fragment} {rest : List Char}
    (plain : Plain lexer.marker lexer.macros.contains fragment rest)
    (splits : cursor.rest = fragment.covered ++ rest) :
    ∃ tokens later, lexer.ItemFinds cursor tokens later ∧ later.rest = rest ∧
      cursor.Covers [fragment] tokens later := by
  have covered := List.length_pos_iff.mpr plain.nonempty
  obtain ⟨passes, past⟩ := Cursor.passes_to splits rfl
  refine ⟨_, _, ?_, past, .one passes⟩
  intro memory
  refine ⟨fragment.covered.length - 1, item_of_plain plain splits, ?_⟩
  rw [Nat.sub_add_cancel covered]

end Lexer

namespace MacroTable
variable {σ : Type} {table : MacroTable σ}

theorem BlocksOnly.get?_for (blocks : table.BlocksOnly)
    (known : table.contains (String.ofList forName) = true) :
    table.get? (String.ofList forName) = some .forBlock := by
  obtain ⟨entry, found⟩ := Option.isSome_iff_exists.mp known
  rcases blocks.of_get? found with ⟨_, rfl⟩ | ⟨same, _⟩
  · exact found
  · exact absurd same (by decide)

theorem BlocksOnly.get?_if (blocks : table.BlocksOnly)
    (known : table.contains (String.ofList ifName) = true) :
    table.get? (String.ofList ifName) = some .ifBlock := by
  obtain ⟨entry, found⟩ := Option.isSome_iff_exists.mp known
  rcases blocks.of_get? found with ⟨same, _⟩ | ⟨_, rfl⟩
  · exact absurd same (by decide)
  · exact found

theorem BlocksOnly.names (blocks : table.BlocksOnly) : BlockNames table.contains := by
  intro name known
  obtain ⟨entry, found⟩ := Option.isSome_iff_exists.mp known
  rcases blocks.of_get? found with ⟨same, _⟩ | ⟨same, _⟩
  · exact .inl (String.ofList_injective same)
  · exact .inr (String.ofList_injective same)

end MacroTable

namespace Blocks
variable {σ : Type} {lexer : Lexer σ}

theorem opened (bound : Nat) {start : Cursor} {name header inner : List Char}
    (splits : start.rest = lexer.marker :: '.' :: name ++ (header ++ '{' :: lexer.marker :: inner))
    (opens : header? lexer.marker (header ++ '{' :: lexer.marker :: inner) = some header) :
    ∃ token place, Finds (lexer.bodies bound) (openBlock start.position (String.ofList name))
        (start.skip (name.length + 2)) token place ∧ place.rest = inner ∧
      start.Covers [.opening lexer.marker name header] [token] place := by
  obtain ⟨passes, ahead⟩ : start.Passes (lexer.marker :: '.' :: name)
      (start.skip (name.length + 2)) ∧ _ = header ++ '{' :: lexer.marker :: inner :=
    Cursor.passes_to splits rfl
  exact openBlock_finds passes ahead (ahead ▸ opens)

end Blocks

def Part.Found {σ : Type} (lexer : Lexer σ) (fragments : List Fragment) (text rest : List Char) :
    Part → Prop
  | .item => ∀ cursor : Cursor, cursor.rest = text → ∃ tokens later,
      lexer.ItemFinds cursor tokens later ∧ later.rest = rest ∧
        cursor.Covers fragments tokens later
  | .items true => [lexer.marker, '}'] <+: rest → ∀ cursor : Cursor, cursor.rest = text →
      ∃ tokens close, lexer.BodyFinds cursor tokens close ∧ close.rest = rest ∧
        cursor.Covers fragments tokens close
  | .items false => rest = [] → ∀ cursor : Cursor, cursor.rest = text → ∃ tokens later,
      lexer.AllFinds cursor tokens ∧ cursor.Covers fragments tokens later
  | .branches => ∀ bound openedAt close cursor ahead tokens, text = '}' :: ahead →
      Closing lexer.marker close cursor ahead → ∃ added last beyond,
        Blocks.BranchesFind lexer bound openedAt close cursor tokens (tokens ++ added) last ∧
          rest = '}' :: beyond ∧ Closing lexer.marker last (last.skip 1) beyond ∧
          close.Covers fragments added last

section Found
variable {σ : Type} {lexer : Lexer σ}

theorem found_forBlock (blocks : lexer.macros.BlocksOnly) {header inner rest : List Char}
    {body : List Fragment}
    (called : Called lexer.marker lexer.macros.contains forName
      (header ++ '{' :: lexer.marker :: inner))
    (opens : header? lexer.marker (header ++ '{' :: lexer.marker :: inner) = some header)
    (found : Part.Found lexer body inner (lexer.marker :: '}' :: rest) (.items true)) :
    Part.Found lexer (.opening lexer.marker forName header :: body ++ [.closing lexer.marker])
      (lexer.marker :: '.' :: forName ++ (header ++ '{' :: lexer.marker :: inner)) rest .item := by
  intro start splits
  obtain ⟨token, place, head, inside, opened⟩ := Blocks.opened (start.skip 1).rest.length splits opens
  obtain ⟨tokens, close, reads, stops, covers⟩ := found ⟨rest, rfl⟩ place inside
  obtain ⟨last, later, finds, past, closed⟩ :=
    Blocks.expandFor_finds head reads ⟨stops, rfl⟩
  exact ⟨_, later, Lexer.item_of_finds called splits (blocks.get?_for called.known) finds, past,
    (opened.append covers).append closed⟩

theorem found_ifBlock (blocks : lexer.macros.BlocksOnly) {header inner text rest : List Char}
    {body branches : List Fragment}
    (called : Called lexer.marker lexer.macros.contains ifName
      (header ++ '{' :: lexer.marker :: inner))
    (opens : header? lexer.marker (header ++ '{' :: lexer.marker :: inner) = some header)
    (begins : ∃ ahead, text = '}' :: ahead)
    (found : Part.Found lexer body inner (lexer.marker :: text) (.items true))
    (further : Part.Found lexer branches text ('}' :: rest) .branches) :
    Part.Found lexer
      (.opening lexer.marker ifName header :: body ++ branches ++ [.closing lexer.marker])
      (lexer.marker :: '.' :: ifName ++ (header ++ '{' :: lexer.marker :: inner)) rest .item := by
  intro start splits
  obtain ⟨ahead, rfl⟩ := begins
  obtain ⟨token, place, head, inside, opened⟩ := Blocks.opened (start.skip 1).rest.length splits opens
  obtain ⟨tokens, close, reads, stops, covers⟩ := found ⟨ahead, rfl⟩ place inside
  obtain ⟨added, last, beyond, others, same, shut, covered⟩ :=
    further _ _ close _ ahead (token :: tokens) rfl ⟨stops, rfl⟩
  cases same
  obtain ⟨ending, later, finds, past, closed⟩ := Blocks.expandIf_finds head reads others shut
  exact ⟨_, later, Lexer.item_of_finds called splits (blocks.get?_if called.known) finds, past,
    ((opened.append covers).append covered).append closed⟩

theorem found_elseIf {head header inner text rest last : List Char} {body others : List Fragment}
    (words : elseIfAt? lexer.marker ('}' :: text) = some (head, header))
    (splits : '}' :: text = head ++ header ++ '{' :: lexer.marker :: inner)
    (begins : ∃ ahead, rest = '}' :: ahead)
    (found : Part.Found lexer body inner (lexer.marker :: rest) (.items true))
    (further : Part.Found lexer others rest last .branches) :
    Part.Found lexer (.elseIf lexer.marker head header :: body ++ others) ('}' :: text) last
      .branches := by
  intro bound openedAt close cursor ahead tokens same closing
  cases same
  obtain ⟨beyond, rfl⟩ := begins
  obtain ⟨place, reading, inside, passes⟩ := Blocks.elseIfHead?_finds closing words splits
  obtain ⟨more, again, reads, stops, covers⟩ := found ⟨beyond, rfl⟩ place inside
  obtain ⟨added, final, past, finds, ends, shut, covered⟩ :=
    further bound openedAt again (again.skip 1) beyond
      (tokens ++ (Fragment.elseIf lexer.marker head header).token close.name close.position :: more)
      rfl ⟨stops, rfl⟩
  have shorter : (again.skip 1).rest.length < cursor.rest.length := by
    have length := congrArg List.length covers.passes.rest
    have whole := congrArg List.length splits
    rw [inside, stops] at length
    rw [closing.rest_eq, Cursor.rest_skip, stops]
    simp at length whole ⊢
    omega
  have all : tokens ++ (Fragment.elseIf lexer.marker head header).token close.name close.position ::
      more ++ added = tokens ++ ([(Fragment.elseIf lexer.marker head header).token close.name
        close.position] ++ more ++ added) := by simp
  rw [all] at finds
  exact ⟨_, final, past, Blocks.branches_elseIf reading passes reads shorter finds, ends, shut,
    ((Cursor.Covers.one passes).append covers).append covered⟩

theorem found_elseLast {head inner text rest : List Char} {body : List Fragment}
    (noElseIf : elseIfAt? lexer.marker ('}' :: text) = none)
    (words : elseAt? lexer.marker ('}' :: text) = some head)
    (splits : '}' :: text = head ++ lexer.marker :: inner)
    (found : Part.Found lexer body inner (lexer.marker :: '}' :: rest) (.items true)) :
    Part.Found lexer (.elseLast lexer.marker head :: body) ('}' :: text) ('}' :: rest)
      .branches := by
  intro bound openedAt close cursor ahead tokens same closing
  cases same
  obtain ⟨place, reading, inside, passes⟩ := Blocks.elseHead?_finds closing words splits
  obtain ⟨more, again, reads, stops, covers⟩ := found ⟨rest, rfl⟩ place inside
  exact ⟨_, again, rest, Blocks.branches_elseLast closing noElseIf reading passes reads, rfl,
    ⟨stops, rfl⟩, (Cursor.Covers.one passes).append covers⟩

theorem Lexes.branches_begin {marker : Char} {known : String → Bool} {text rest : List Char}
    {fragments : List Fragment} (lexes : Lexes marker known .branches text fragments rest) :
    ∃ ahead, text = '}' :: ahead := by
  cases lexes <;> exact ⟨_, rfl⟩

theorem Lexes.found (blocks : lexer.macros.BlocksOnly) {part : Part} {text rest : List Char}
    {fragments : List Fragment}
    (lexes : Lexes lexer.marker lexer.macros.contains part text fragments rest) :
    part.Found lexer fragments text rest := by
  induction lexes with
  | plain plain => exact fun cursor splits => Lexer.item_of_fragment plain splits
  | forBlock called opens lexes ih => exact found_forBlock blocks called opens ih
  | ifBlock called opens lexes further inner branches =>
    exact found_ifBlock blocks called opens further.branches_begin inner branches
  | @done inside text =>
    cases inside with
    | true =>
      exact fun closes cursor same =>
        ⟨[], cursor, Lexer.bodyFinds_nil (same ▸ closes), same, .nil cursor⟩
    | false =>
      intro ended cursor same
      refine ⟨[], cursor, ?_, .nil cursor⟩
      intro memory
      rw [Lexer.readAll, dif_pos (same.trans ended)]
  | @more inside text one rest others last stays first lexes item further =>
    cases inside with
    | true =>
      intro closes cursor same
      obtain ⟨tokens, later, finds, past, covers⟩ := item cursor same
      obtain ⟨added, close, reads, stops, covered⟩ := further closes later past
      exact ⟨_, close, Lexer.bodyFinds_append (same ▸ stays rfl) (same ▸ first.ahead) finds reads,
        stops, covers.append covered⟩
    | false =>
      intro ended cursor same
      obtain ⟨tokens, later, finds, past, covers⟩ := item cursor same
      obtain ⟨added, close, reads, covered⟩ := further ended later past
      exact ⟨_, close, Lexer.allFinds_append (same ▸ first.ahead) finds reads,
        covers.append covered⟩
  | noBranch noElseIf noElse =>
    intro bound openedAt close cursor ahead tokens same closing
    cases same
    refine ⟨[], close, _, ?_, rfl, closing.moved ▸ closing, .nil close⟩
    rw [List.append_nil]
    exact Blocks.branches_none closing noElseIf noElse
  | elseIf words splits lexes further inner others =>
    exact found_elseIf words splits further.branches_begin inner others
  | elseLast noElseIf words splits lexes inner => exact found_elseLast noElseIf words splits inner

end Found

def Part.Broken {σ : Type} (lexer : Lexer σ) (text : List Char) (found : Option Breach) : Part → Prop
  | .item => ∀ source cursor, Cursor.Canonical source cursor → cursor.rest = text →
      ∀ breach, found = some breach →
        lexer.ItemFails cursor (.error (breach.error source cursor.position))
  | .items true => ∀ source cursor, Cursor.Canonical source cursor → cursor.rest = text →
      lexer.BodyBreaks source cursor found
  | .items false => ∀ source cursor, Cursor.Canonical source cursor → cursor.rest = text →
      ∀ breach, found = some breach →
        lexer.AllFails cursor (.error (breach.error source cursor.position))
  | .branches => ∀ source bound start run close cursor ahead tokens,
      Cursor.Canonical source start → text = '}' :: ahead →
      Closing lexer.marker close cursor ahead → start.Passes run cursor →
        Blocks.BranchesFail lexer bound start.offset close cursor tokens
          (Blocks.blamed lexer.marker source start run found)

section Broken
variable {σ : Type} {lexer : Lexer σ}

theorem broken_unclosed {ahead : Nat} {closing : Char} {text : List Char}
    (unclosed : Unclosed lexer.marker ahead closing text) :
    Part.Broken lexer text (some (.unclosed (text.take (ahead + 1)) closing)) .item := by
  intro source cursor canonical same breach blamed memory
  cases blamed
  subst same
  rw [Lexer.itemAt, Lexer.item_of_unclosed unclosed]
  simp only [Cursor.errorHere, Cursor.source_skip, canonical.source_eq]
  rfl

theorem block_entry (blocks : lexer.macros.BlocksOnly) {name rest : List Char}
    (block : name = forName ∨ name = ifName)
    (called : Called lexer.marker lexer.macros.contains name rest) :
    ∃ entry, lexer.macros.get? (String.ofList name) = some entry ∧
      ∀ bound (start cursor : Cursor) fault,
        Blocks.HeadFails lexer bound start name cursor fault →
          Fails (lexer.bodies bound) (entry.expand (start.spanTo cursor name)) cursor fault := by
  rcases block with rfl | rfl
  · exact ⟨_, blocks.get?_for called.known, fun _ _ _ _ fails => fails.bind⟩
  · exact ⟨_, blocks.get?_if called.known, fun _ _ _ _ fails => fails.bind⟩

theorem broken_unopened (blocks : lexer.macros.BlocksOnly) {name rest : List Char}
    (block : name = forName ∨ name = ifName)
    (called : Called lexer.marker lexer.macros.contains name rest)
    (headless : header? lexer.marker rest = none) :
    Part.Broken lexer (lexer.marker :: '.' :: name ++ rest) (some (.unopened lexer.marker name))
      .item := by
  intro source start canonical splits breach blamed
  cases blamed
  obtain ⟨entry, known, fails⟩ := block_entry blocks block called
  obtain ⟨passes, ahead⟩ := Cursor.passes_to splits rfl
  exact Lexer.item_of_fails called splits known (fails _ _ _ _ (.inl
    (Blocks.openBlock_fails (canonical.skip _) passes (ahead ▸ headless))))

theorem broken_body (blocks : lexer.macros.BlocksOnly) {name header inner : List Char}
    {found : Option Breach} (block : name = forName ∨ name = ifName)
    (called : Called lexer.marker lexer.macros.contains name
      (header ++ '{' :: lexer.marker :: inner))
    (opens : header? lexer.marker (header ++ '{' :: lexer.marker :: inner) = some header)
    (broken : Part.Broken lexer inner found (.items true)) :
    Part.Broken lexer (lexer.marker :: '.' :: name ++ (header ++ '{' :: lexer.marker :: inner))
      (some (.ofBody lexer.marker (Fragment.opening lexer.marker name header).covered found))
      .item := by
  intro source start canonical splits breach blamed
  cases blamed
  obtain ⟨entry, known, fails⟩ := block_entry blocks block called
  obtain ⟨token, place, head, inside, opened⟩ := Blocks.opened (start.skip 1).rest.length splits opens
  have passes : start.Passes (Fragment.opening lexer.marker name header).covered place := by
    simpa using opened.passes
  have breaks := broken source place (passes.moved ▸ canonical.skip _) inside
  exact Lexer.item_of_fails called splits known (fails _ _ _ _ (.inr
    ⟨token, place, head, Blocks.readBranch_fails canonical passes breaks⟩))

theorem broken_branches (blocks : lexer.macros.BlocksOnly) {header inner text : List Char}
    {body : List Fragment} {found : Option Breach}
    (called : Called lexer.marker lexer.macros.contains ifName
      (header ++ '{' :: lexer.marker :: inner))
    (opens : header? lexer.marker (header ++ '{' :: lexer.marker :: inner) = some header)
    (begins : ∃ ahead, text = '}' :: ahead)
    (whole : Part.Found lexer body inner (lexer.marker :: text) (.items true))
    (broken : Part.Broken lexer text found .branches) :
    Part.Broken lexer (lexer.marker :: '.' :: ifName ++ (header ++ '{' :: lexer.marker :: inner))
      (some (.ofBody lexer.marker ((Fragment.opening lexer.marker ifName header).covered ++
        (Fragment.source body ++ [lexer.marker])) found)) .item := by
  intro source start canonical splits breach blamed
  cases blamed
  obtain ⟨ahead, rfl⟩ := begins
  obtain ⟨token, place, head, inside, opened⟩ := Blocks.opened (start.skip 1).rest.length splits opens
  obtain ⟨tokens, close, reads, stops, covers⟩ := whole ⟨ahead, rfl⟩ place inside
  have closing : Closing lexer.marker close (close.skip 1) ahead := ⟨stops, rfl⟩
  have passes : start.Passes ((Fragment.opening lexer.marker ifName header).covered ++
      (Fragment.source body ++ [lexer.marker])) (close.skip 1) := by
    simpa using opened.passes.trans (covers.passes.trans closing.passes)
  have fails := broken source (start.skip 1).rest.length start _ close (close.skip 1) ahead
    (token :: tokens) canonical rfl closing passes
  refine Lexer.item_of_fails called splits (blocks.get?_if called.known)
    (fails_after head (fails_after (Blocks.readBranch_finds _ reads) ?_))
  rcases fails with fails | ⟨state, middle, others, fails⟩
  · exact fails_bind fails
  · exact fails_after others (fails_bind fails)

theorem broken_elseIfBody {head header inner text : List Char} {found : Option Breach}
    (words : elseIfAt? lexer.marker ('}' :: text) = some (head, header))
    (splits : '}' :: text = head ++ header ++ '{' :: lexer.marker :: inner)
    (broken : Part.Broken lexer inner found (.items true)) :
    Part.Broken lexer ('}' :: text)
      (found.map (.behind (head ++ header ++ ['{', lexer.marker]))) .branches := by
  intro source bound start run close cursor ahead tokens canonical same closing passes
  cases same
  obtain ⟨place, reading, inside, enters⟩ := Blocks.elseIfHead?_finds closing words splits
  have further : cursor.Passes (head ++ header ++ ['{', lexer.marker]) place :=
    closing.passes.behind (by simpa [Fragment.elseIf] using enters)
  have begins := passes.trans further
  rw [Blocks.blamed, Breach.ofBody_behind]
  exact Blocks.branches_elseIf_body reading enters canonical begins
    (broken source place (begins.moved ▸ canonical.skip _) inside)

theorem broken_elseBody {head inner text : List Char} {found : Option Breach}
    (noElseIf : elseIfAt? lexer.marker ('}' :: text) = none)
    (words : elseAt? lexer.marker ('}' :: text) = some head)
    (splits : '}' :: text = head ++ lexer.marker :: inner)
    (broken : Part.Broken lexer inner found (.items true)) :
    Part.Broken lexer ('}' :: text) (found.map (.behind (head ++ [lexer.marker]))) .branches := by
  intro source bound start run close cursor ahead tokens canonical same closing passes
  cases same
  obtain ⟨place, reading, inside, enters⟩ := Blocks.elseHead?_finds closing words splits
  have further : cursor.Passes (head ++ [lexer.marker]) place :=
    closing.passes.behind (by simpa [Fragment.elseLast] using enters)
  have begins := passes.trans further
  rw [Blocks.blamed, Breach.ofBody_behind]
  exact Blocks.branches_elseLast_body closing noElseIf reading enters canonical begins
    (broken source place (begins.moved ▸ canonical.skip _) inside)

theorem broken_elseIfLater {head header inner text rest : List Char} {body : List Fragment}
    {found : Option Breach}
    (words : elseIfAt? lexer.marker ('}' :: text) = some (head, header))
    (splits : '}' :: text = head ++ header ++ '{' :: lexer.marker :: inner)
    (begins : ∃ ahead, rest = '}' :: ahead)
    (whole : Part.Found lexer body inner (lexer.marker :: rest) (.items true))
    (broken : Part.Broken lexer rest found .branches) :
    Part.Broken lexer ('}' :: text) (found.map (.behind (head ++ header ++ ['{', lexer.marker] ++
      (Fragment.source body ++ [lexer.marker])))) .branches := by
  intro source bound start run close cursor ahead tokens canonical same closing passes
  cases same
  obtain ⟨beyond, rfl⟩ := begins
  obtain ⟨place, reading, inside, enters⟩ := Blocks.elseIfHead?_finds closing words splits
  obtain ⟨more, again, reads, stops, covers⟩ := whole ⟨beyond, rfl⟩ place inside
  have shut : Closing lexer.marker again (again.skip 1) beyond := ⟨stops, rfl⟩
  have further : cursor.Passes (head ++ header ++ ['{', lexer.marker]) place :=
    closing.passes.behind (by simpa [Fragment.elseIf] using enters)
  have reached := passes.trans (further.trans (covers.passes.trans shut.passes))
  have shorter : (again.skip 1).rest.length < cursor.rest.length := by
    have length := congrArg List.length (further.trans covers.passes).rest
    rw [Cursor.rest_skip, List.length_drop]
    simp at length
    omega
  have fails := broken source bound start _ again (again.skip 1) beyond
    (tokens ++ (Fragment.elseIf lexer.marker head header).token close.name close.position :: more)
    canonical rfl shut reached
  rw [Blocks.blamed, Breach.ofBody_behind, List.append_assoc]
  exact Blocks.branches_elseIf_later reading enters reads shorter (by simpa [Blocks.blamed] using fails)

-- By induction on the derivation; whole parts before a breach are read as the grammar says.
theorem Breaks.broken (blocks : lexer.macros.BlocksOnly) {part : Part} {text : List Char}
    {found : Option Breach}
    (breaks : Breaks lexer.marker lexer.macros.contains part text found) :
    part.Broken lexer text found := by
  induction breaks with
  | unclosed unclosed => exact broken_unclosed unclosed
  | unopened block called headless => exact broken_unopened blocks block called headless
  | body block called opens breaks ih => exact broken_body blocks block called opens ih
  | branches called opens lexes breaks ih =>
    exact broken_branches blocks called opens breaks.branches_begin (lexes.found blocks) ih
  | ended => exact fun source cursor canonical same => Lexer.bodyBreaks_nil same
  | @here inside text breach stays breaks item =>
    cases inside with
    | true =>
      exact fun source cursor canonical same => Lexer.bodyBreaks_item (same ▸ stays rfl)
        (same ▸ breaks.ahead) (item source cursor canonical same breach rfl)
    | false =>
      intro source cursor canonical same other blamed memory
      exact Lexer.readAll_of_error (same ▸ breaks.ahead)
        (item source cursor canonical same other blamed memory)
  | @later inside text one rest found stays first breaks ih =>
    cases inside with
    | true =>
      intro source cursor canonical same
      obtain ⟨tokens, later, finds, past, covers⟩ := first.found blocks cursor same
      exact Lexer.bodyBreaks_append (same ▸ stays rfl) (same ▸ first.ahead) finds covers.passes
        (ih source later (covers.passes.moved ▸ canonical.skip _) past)
    | false =>
      intro source cursor canonical same breach blamed
      obtain ⟨breach, rfl, rfl⟩ := Option.map_eq_some_iff.mp blamed
      obtain ⟨tokens, later, finds, past, covers⟩ := first.found blocks cursor same
      rw [Breach.error_behind, ← covers.passes.position]
      exact Lexer.allFails_append (same ▸ first.ahead) finds
        (ih source later (covers.passes.moved ▸ canonical.skip _) past breach rfl)
  | elseIfBody words splits breaks ih => exact broken_elseIfBody words splits ih
  | elseIfLater words splits lexes breaks ih =>
    exact broken_elseIfLater words splits breaks.branches_begin (lexes.found blocks) ih
  | elseBody noElseIf words splits breaks ih => exact broken_elseBody noElseIf words splits ih

end Broken

namespace Lexer
variable {σ : Type} {lexer : Lexer σ} {source : Source}

theorem tokenize_finds (blocks : lexer.macros.BlocksOnly) {fragments : List Fragment}
    (lexes : Lexes lexer.marker lexer.macros.contains (.items false) source.text fragments [])
    (memory : σ) :
    (lexer.tokenize source memory).value = .ok (Fragment.lay source.name .start fragments) := by
  obtain ⟨tokens, later, finds, covers⟩ := lexes.found blocks rfl (.ofSource source) rfl
  rw [tokenize, finds memory, covers.laid]
  rfl

theorem tokenize_fails (blocks : lexer.macros.BlocksOnly) {breach : Breach}
    (breaks : Breaks lexer.marker lexer.macros.contains (.items false) source.text (some breach))
    (memory : σ) :
    (lexer.tokenize source memory).value = .error (.error (breach.error source .start)) :=
  breaks.broken blocks source (.ofSource source) (Cursor.canonical_ofSource source) rfl breach rfl
    memory

-- A failure tells that the text breaks: had the grammar derived it, it would have been read.
theorem tokenize_breaks (blocks : lexer.macros.BlocksOnly) {memory : σ} {fault : Fault}
    (failed : (lexer.tokenize source memory).value = .error fault) :
    ∃ breach,
      Breaks lexer.marker lexer.macros.contains (.items false) source.text (some breach) ∧
        fault = .error (breach.error source .start) := by
  rcases text_settles blocks.names source.text with ⟨fragments, lexes⟩ | ⟨breach, breaks⟩
  · rw [tokenize_finds blocks lexes memory] at failed
    cases failed
  · rw [tokenize_fails blocks breaks memory] at failed
    exact ⟨breach, breaks, (Except.error.inj failed).symm⟩

end Lexer
end TemplateCompiler
