import TemplateCompiler.Proofs.Grammar
import TemplateCompiler.Proofs.ScanRuns

namespace TemplateCompiler
open Text Code Scan

namespace Surroundings
variable {σ : Type} {bound : Nat}

def ReadsBody (around : Surroundings σ bound) (cursor : Cursor) (tokens : List Token)
    (close : Cursor) : Prop :=
  ∃ within memory, (around.readBody cursor within memory).stop = .closed ∧
    tokens = (around.readBody cursor within memory).tokens ∧
    close = cursor.skip (around.readBody cursor within memory).length

def EndsOnMarker (around : Surroundings σ bound) : Prop :=
  ∀ cursor tokens close, around.ReadsBody cursor tokens close → [around.marker, '}'] <+: close.rest

def FollowsGrammar (around : Surroundings σ bound) (known : String → Bool) : Prop :=
  ∀ cursor within memory, (around.readBody cursor within memory).stop = .closed →
    ∃ fragments close, close = cursor.skip (around.readBody cursor within memory).length ∧
      [around.marker, '}'] <+: close.rest ∧
      Lexes around.marker known (.items true) cursor.rest fragments close.rest ∧
      cursor.Covers fragments (around.readBody cursor within memory).tokens close

variable {around : Surroundings σ bound} {known : String → Bool}

theorem FollowsGrammar.ends (follows : around.FollowsGrammar known) : around.EndsOnMarker := by
  rintro cursor tokens close ⟨within, memory, closed, rfl, rfl⟩
  obtain ⟨_, _, rfl, ends, _⟩ := follows cursor within memory closed
  exact ends

theorem FollowsGrammar.body (follows : around.FollowsGrammar known) {cursor close : Cursor}
    {tokens : List Token} (reads : around.ReadsBody cursor tokens close) :
    ∃ fragments, Lexes around.marker known (.items true) cursor.rest fragments close.rest ∧
      cursor.Covers fragments tokens close := by
  obtain ⟨within, memory, closed, rfl, rfl⟩ := reads
  obtain ⟨fragments, _, rfl, _, lexes, covers⟩ := follows cursor within memory closed
  exact ⟨fragments, lexes, covers⟩

theorem ReadsBody.length_le {cursor close : Cursor} {tokens : List Token}
    (reads : around.ReadsBody cursor tokens close) :
    close.rest.length ≤ cursor.rest.length := by
  obtain ⟨within, memory, _, _, rfl⟩ := reads
  exact Cursor.skip_within (Nat.le_refl _) _

end Surroundings

-- The cursor stands between the marker and the brace that close a body.
structure Closing (marker : Char) (close cursor : Cursor) (rest : List Char) : Prop where
  ahead : close.rest = marker :: '}' :: rest
  moved : cursor = close.skip 1

theorem Closing.rest_eq {marker : Char} {close cursor : Cursor} {rest : List Char}
    (closing : Closing marker close cursor rest) :
    cursor.rest = '}' :: rest := by
  rw [closing.moved, Cursor.rest_skip, closing.ahead]
  rfl

theorem Closing.passes {marker : Char} {close cursor : Cursor} {rest : List Char}
    (closing : Closing marker close cursor rest) :
    close.Passes [marker] cursor :=
  ⟨by rw [closing.ahead, closing.rest_eq]; rfl, closing.moved⟩

theorem Cursor.text_ahead {cursor : Cursor} {run rest : List Char}
    (splits : cursor.rest = run ++ rest) :
    (cursor.ahead run.length).text = String.ofList run := by
  simp only [ahead, spanTo, splits, List.take_left]

namespace Blocks
variable {σ : Type} {bound : Nat} {around : Surroundings σ bound} {known : String → Bool}
  {start cursor later close : Cursor} {rest : List Char}

theorem runs_fragment (fragment : Fragment) {found : Token}
    (passes : start.Passes fragment.covered cursor)
    (runs : Runs around
      (tokenFrom start.position fragment.kind (String.ofList fragment.text)) cursor found later) :
    start.Covers [fragment] [found] later ∧ later = cursor := by
  obtain ⟨rfl, rfl⟩ := runs_tokenFrom runs
  refine ⟨?_, rfl⟩
  have same := passes.token
  rw [Cursor.spanTo] at same
  rw [passes.name, same]
  exact .one passes

theorem openBlock_runs {name : List Char} {token : Token}
    (passes : start.Passes (around.marker :: '.' :: name) cursor)
    (runs : Runs around (openBlock start.position (String.ofList name)) cursor token later) :
    ∃ header, header? around.marker cursor.rest = some header ∧
      cursor.rest = header ++ '{' :: around.marker :: later.rest ∧
      start.Covers [.opening around.marker name header] [token] later := by
  obtain ⟨marker, middle, runs, others⟩ := runs_bind runs
  obtain ⟨rfl, rfl⟩ := runs_marker runs
  obtain ⟨taken, last, runs, others⟩ := runs_bind others
  obtain ⟨read, found, rfl, rfl⟩ := runs_readOrFail runs
  obtain ⟨header, opens, rfl⟩ : ∃ header, header? around.marker middle.rest = some header ∧
      read = ⟨middle.ahead header.length, header.length + 2⟩ := by
    unfold Cursor.readBlockHeader Cursor.tryBlockHeader? at found
    cases opens : header? around.marker middle.rest with
    | none =>
      rw [opens] at found
      cases found
    | some header =>
      rw [opens] at found
      exact ⟨header, rfl, (Except.ok.inj found).symm⟩
  obtain ⟨inner, splits⟩ := header?_split opens
  have text := Cursor.text_ahead splits
  obtain ⟨passed, inside⟩ : middle.Passes (header ++ ['{', around.marker])
      (middle.after ⟨middle.ahead header.length, header.length + 2⟩) ∧ _ = inner :=
    Cursor.passes_to (by simpa using splits) (by simp [Cursor.after])
  have covers : start.Passes (Fragment.opening around.marker name header).covered
      (middle.after ⟨middle.ahead header.length, header.length + 2⟩) := by
    simpa [Fragment.opening] using passes.trans passed
  rw [text] at others
  obtain ⟨covered, rfl⟩ := runs_fragment (.opening around.marker name header) covers (by
    simpa [Fragment.opening, String.ofList_append, String.append_assoc] using others)
  exact ⟨header, opens, inside ▸ splits, covered⟩

theorem readBranch_runs (ends : around.EndsOnMarker) {openedAt : Nat}
    {found : List Token × Position}
    (runs : Runs around (readBranch openedAt) cursor found later) :
    ∃ close rest, Closing around.marker close later rest ∧
      around.ReadsBody cursor found.1 close ∧ found.2 = close.position := by
  obtain ⟨tokens, close, body, others⟩ := runs_bind runs
  have reads : around.ReadsBody cursor tokens close := runs_readBody body
  obtain ⟨rest, ahead⟩ := ends _ _ _ reads
  obtain ⟨place, middle, here, others⟩ := runs_bind others
  obtain ⟨same, still⟩ := runs_cursor here
  obtain ⟨_, last, passes, others⟩ := runs_bind others
  have moved := runs_skip passes
  obtain ⟨rfl, rfl⟩ := runs_pure others
  exact ⟨close, rest, ⟨ahead.symm, still ▸ moved⟩, reads, congrArg Cursor.position same⟩

theorem closeBlock_runs {token : Token} (closing : Closing around.marker close cursor rest)
    (runs : Runs around (closeBlock close.position) cursor token later) :
    close.Covers [.closing around.marker] [token] later ∧ later.rest = rest := by
  obtain ⟨_, middle, runs, others⟩ := runs_bind runs
  obtain ⟨_, moved⟩ := runs_read runs
  have ahead := closing.rest_eq
  rw [Cursor.consume, if_pos (by rw [Cursor.peek, ahead]; rfl)] at moved
  obtain ⟨passed, past⟩ : cursor.Passes ['}'] middle ∧ middle.rest = rest :=
    Cursor.passes_to ahead moved
  obtain ⟨covers, rfl⟩ := runs_fragment (.closing around.marker)
    (closing.passes.trans passed) others
  exact ⟨covers, past⟩

theorem elseIfHead?_eq (marker : Char) (cursor : Cursor) :
    elseIfHead? marker cursor = match elseIfAt? marker cursor.rest with
      | none => ⟨none, 0⟩
      | some (head, header) =>
        ⟨some (String.ofList (head ++ header ++ ['{'])), head.length + (header.length + 2)⟩ := by
  unfold elseIfHead? elseIfAt? Cursor.readPattern? Cursor.readMatch?
  cases found : elseIfPattern.length? cursor.rest with
  | none => rfl
  | some length =>
    have long := List.length_take_of_le (Pattern.length?_le found)
    simp only [Option.map_some, Option.bind_some, Cursor.tryBlockHeader?, Cursor.after, Cursor.take,
      Cursor.rest_skip]
    cases opens : header? marker (cursor.rest.drop length) with
    | none => rfl
    | some header =>
      obtain ⟨inner, splits⟩ := header?_split opens
      have code : ((cursor.skip length).ahead header.length).text = String.ofList header :=
        Cursor.text_ahead splits
      have words : (cursor.ahead length).text = String.ofList (cursor.rest.take length) := rfl
      simp only [Option.map_some, code, words, long, String.ofList_append]

theorem elseHead?_eq (marker : Char) (cursor : Cursor) :
    elseHead? marker cursor = match elseAt? marker cursor.rest with
      | none => ⟨false, 0⟩
      | some head => ⟨true, head.length + 1⟩ := by
  unfold elseHead? elseAt? Cursor.readPattern? Cursor.readMatch?
  cases found : elsePattern.length? cursor.rest with
  | none => rfl
  | some length =>
    have long := List.length_take_of_le (Pattern.length?_le found)
    simp only [Option.map_some, Option.bind_some, Cursor.peek, Cursor.after, Cursor.take,
      Cursor.rest_skip]
    by_cases ahead : (cursor.rest.drop length).head? = some marker
    · simp only [if_pos ahead, long]
      exact if_pos ahead
    · simp only [if_neg ahead]
      exact if_neg ahead

-- One more branch, read from the marker that closed the one before it. Its opening fragment is
-- passed, its body is read from there, and the later cursor stands behind its closing marker.
def BranchRead (around : Surroundings σ bound) (close : Cursor) (tokens : List Token)
    (opening : Fragment) (inner : Cursor) (found : List Token × Position) (later : Cursor) : Prop :=
  ∃ middle body again ahead, found = (tokens ++ middle :: body, again.position) ∧
    Closing around.marker again later ahead ∧
    close.Covers [opening] [middle] inner ∧ around.ReadsBody inner body again

theorem branchRead_runs (ends : around.EndsOnMarker) {α : Type} {openedAt : Nat}
    (tokens : List Token) (opening : Fragment) {next : Token → List Token × Position → Scan σ α}
    {found : α} (passes : close.Passes opening.covered cursor)
    (runs : Runs around (do
      let middle ← tokenFrom close.position opening.kind (String.ofList opening.text)
      let branch ← readBranch openedAt
      next middle branch) cursor found later) :
    ∃ middle branch past,
      BranchRead around close tokens opening cursor (tokens ++ middle :: branch.1, branch.2) past ∧
      Runs around (next middle branch) past found later := by
  obtain ⟨middle, place, opens, bodies⟩ := runs_bind runs
  obtain ⟨opened, rfl⟩ := runs_fragment opening passes opens
  obtain ⟨⟨body, position⟩, past, reads, others⟩ := runs_bind bodies
  obtain ⟨again, ahead, closed, reads, rfl⟩ := readBranch_runs ends reads
  exact ⟨middle, _, past, ⟨middle, body, again, ahead, rfl, closed, opened, reads⟩, others⟩

theorem elseIfBranch_runs (ends : around.EndsOnMarker) {openedAt : Nat}
    {tokens : List Token} {found : Option (List Token × Position)}
    (closing : Closing around.marker close cursor rest)
    (runs : Runs around (elseIfBranch openedAt (tokens, close.position)) cursor found later) :
    (found = none ∧ later = cursor ∧ elseIfAt? around.marker ('}' :: rest) = none) ∨
    ∃ head header inner next, found = some next ∧
      elseIfAt? around.marker ('}' :: rest) = some (head, header) ∧
      BranchRead around close tokens (.elseIf around.marker head header) inner next later := by
  obtain ⟨marker, middle, runs, others⟩ := runs_bind runs
  obtain ⟨rfl, rfl⟩ := runs_marker runs
  obtain ⟨opening, last, runs, others⟩ := runs_bind others
  obtain ⟨rfl, moved⟩ := runs_read runs
  rw [elseIfHead?_eq, closing.rest_eq] at others moved
  cases branch : elseIfAt? around.marker ('}' :: rest) with
  | none =>
    rw [branch] at others moved
    obtain ⟨rfl, rfl⟩ := runs_pure others
    exact .inl ⟨rfl, moved.trans (Cursor.skip_zero _), rfl⟩
  | some words =>
    obtain ⟨head, header⟩ := words
    rw [branch] at others moved
    obtain ⟨inner, splits⟩ := elseIfAt?_split branch
    obtain ⟨passed, _⟩ :
        middle.Passes (head ++ header ++ ['{', around.marker]) last ∧ last.rest = inner :=
      Cursor.passes_to (by simp [closing.rest_eq, splits]) (by simp [moved, Cursor.after])
    have covers : close.Passes (Fragment.elseIf around.marker head header).covered last := by
      simpa [Fragment.elseIf] using closing.passes.trans passed
    obtain ⟨_, _, past, read, further⟩ := branchRead_runs ends tokens _ covers others
    obtain ⟨rfl, rfl⟩ := runs_pure further
    exact .inr ⟨head, header, _, _, rfl, rfl, read⟩

theorem elseBranch_runs (ends : around.EndsOnMarker) {openedAt : Nat}
    {tokens : List Token} {found : List Token × Position}
    (closing : Closing around.marker close cursor rest)
    (runs : Runs around (elseBranch openedAt (tokens, close.position)) cursor found later) :
    (found = (tokens, close.position) ∧ later = cursor ∧
      elseAt? around.marker ('}' :: rest) = none) ∨
    ∃ head inner, elseAt? around.marker ('}' :: rest) = some head ∧
      BranchRead around close tokens (.elseLast around.marker head) inner found later := by
  obtain ⟨marker, middle, runs, others⟩ := runs_bind runs
  obtain ⟨rfl, rfl⟩ := runs_marker runs
  obtain ⟨opening, last, runs, others⟩ := runs_bind others
  obtain ⟨rfl, moved⟩ := runs_read runs
  rw [elseHead?_eq, closing.rest_eq] at others moved
  cases branch : elseAt? around.marker ('}' :: rest) with
  | none =>
    rw [branch] at others moved
    obtain ⟨rfl, rfl⟩ := runs_pure others
    exact .inl ⟨rfl, moved.trans (Cursor.skip_zero _), rfl⟩
  | some head =>
    rw [branch] at others moved
    obtain ⟨inner, splits⟩ := elseAt?_split branch
    obtain ⟨passed, _⟩ :
        middle.Passes (head ++ [around.marker]) last ∧ last.rest = inner :=
      Cursor.passes_to (by simp [closing.rest_eq, splits]) (by simp [moved, Cursor.after])
    have covers : close.Passes (Fragment.elseLast around.marker head).covered last := by
      simpa [Fragment.elseLast] using closing.passes.trans passed
    obtain ⟨_, _, past, read, further⟩ := branchRead_runs ends tokens _ covers others
    obtain ⟨rfl, rfl⟩ := runs_pure further
    exact .inr ⟨head, _, rfl, read⟩

-- The branches between two closing markers, with what the text behind each marker offered.
inductive BranchesRead (around : Surroundings σ bound) : Cursor → List Token → Cursor → Prop
  | noBranch {close : Cursor} {rest : List Char} (ahead : close.rest = around.marker :: '}' :: rest)
      (noElseIf : elseIfAt? around.marker ('}' :: rest) = none)
      (noElse : elseAt? around.marker ('}' :: rest) = none) : BranchesRead around close [] close
  | elseIf {close inner again last : Cursor} {rest head header : List Char} {middle body others}
      (ahead : close.rest = around.marker :: '}' :: rest)
      (found : elseIfAt? around.marker ('}' :: rest) = some (head, header))
      (opened : close.Covers [.elseIf around.marker head header] [middle] inner)
      (reads : around.ReadsBody inner body again)
      (further : BranchesRead around again others last) :
      BranchesRead around close (middle :: body ++ others) last
  | elseLast {close inner last : Cursor} {rest head : List Char} {middle body}
      (ahead : close.rest = around.marker :: '}' :: rest)
      (noElseIf : elseIfAt? around.marker ('}' :: rest) = none)
      (found : elseAt? around.marker ('}' :: rest) = some head)
      (opened : close.Covers [.elseLast around.marker head] [middle] inner)
      (reads : around.ReadsBody inner body last) :
      BranchesRead around close (middle :: body) last

-- Every round leaves less text, so that the rounds come to an end with the last branch.
theorem branches_runs (ends : around.EndsOnMarker) {openedAt : Nat}
    {tokens : List Token} {state found : List Token × Position} {middle : Cursor}
    (closing : Closing around.marker close cursor rest)
    (others : Runs around (rounds (elseIfBranch openedAt) (tokens, close.position)) cursor state
      middle)
    (last : Runs around (elseBranch openedAt state) middle found later) :
    ∃ added again ahead, found = (tokens ++ added, again.position) ∧
      Closing around.marker again later ahead ∧ BranchesRead around close added again := by
  induction size : rest.length using Nat.strongRecOn generalizing close cursor rest tokens with
  | _ length ih =>
    subst size
    rcases runs_rounds others with ⟨round, rfl⟩ | ⟨next, place, round, further⟩
    · rcases elseIfBranch_runs ends closing round with ⟨_, rfl, noElseIf⟩ | ⟨_, _, _, _, branch, _⟩
      · rcases elseBranch_runs ends closing last with
          ⟨rfl, rfl, noElse⟩ | ⟨head, inner, found, read⟩
        · exact ⟨[], close, rest, by simp, closing, .noBranch closing.ahead noElseIf noElse⟩
        · obtain ⟨token, body, again, ahead, rfl, closed, opened, reads⟩ := read
          exact ⟨_, again, ahead, rfl, closed, .elseLast closing.ahead noElseIf found opened reads⟩
      · cases branch
    · rcases elseIfBranch_runs ends closing round with
        ⟨branch, _⟩ | ⟨head, header, inner, state, same, found, read⟩
      · cases branch
      · obtain ⟨token, body, again, ahead, rfl, closed, opened, reads⟩ := read
        cases same
        have shorter : ahead.length < rest.length := by
          have start := congrArg List.length opened.passes.rest
          have stop := reads.length_le
          rw [closing.ahead] at start
          rw [closed.ahead] at stop
          simp [Fragment.elseIf] at start stop
          omega
        rcases further with ⟨_, further⟩ | ⟨longer, _⟩
        · obtain ⟨more, final, beyond, rfl, ended, branches⟩ := ih _ shorter closed further rfl
          exact ⟨_, final, beyond, by simp, ended,
            .elseIf closing.ahead found opened reads branches⟩
        · exact absurd (by simpa [closing.rest_eq, closed.rest_eq] using shorter) longer

theorem BranchesRead.lexes (follows : around.FollowsGrammar known) {last : Cursor}
    {added : List Token} (branches : BranchesRead around close added last) {ahead : List Char}
    (opens : close.rest = around.marker :: rest) (stops : last.rest = around.marker :: ahead) :
    ∃ fragments, Lexes around.marker known .branches rest fragments ahead ∧
      close.Covers fragments added last := by
  induction branches generalizing rest with
  | noBranch brace noElseIf noElse =>
    cases opens.symm.trans brace
    cases stops.symm.trans brace
    exact ⟨[], .noBranch noElseIf noElse, .nil _⟩
  | @elseIf close inner again last text head header middle body others brace found opened reads
      _ ih =>
    cases opens.symm.trans brace
    obtain ⟨fragments, lexes, covers⟩ := follows.body reads
    obtain ⟨ended, closes⟩ := follows.ends _ _ _ reads
    obtain ⟨more, lexed, covered⟩ := ih closes.symm stops
    have splits : '}' :: text = head ++ header ++ '{' :: around.marker :: inner.rest := by
      have whole := brace.symm.trans opened.passes.rest
      simpa [Fragment.elseIf] using whole
    rw [← closes] at lexes
    exact ⟨_, .elseIf found splits lexes lexed, (opened.append covers).append covered⟩
  | @elseLast close inner last text head middle body brace noElseIf found opened reads =>
    cases opens.symm.trans brace
    obtain ⟨fragments, lexes, covers⟩ := follows.body reads
    obtain ⟨ended, closes⟩ := follows.ends _ _ _ reads
    have splits : '}' :: text = head ++ around.marker :: inner.rest := by
      have whole := brace.symm.trans opened.passes.rest
      simpa [Fragment.elseLast] using whole
    cases stops.symm.trans closes.symm
    rw [← closes] at lexes
    exact ⟨_, .elseLast noElseIf found splits lexes, opened.append covers⟩

theorem expandFor_runs (follows : around.FollowsGrammar known) {tokens : List Token}
    (called : Called around.marker known forName cursor.rest)
    (passes : start.Passes (around.marker :: '.' :: forName) cursor)
    (runs : Runs around (expandFor (start.spanTo cursor forName)) cursor tokens later) :
    ∃ fragments, Lexes around.marker known .item start.rest fragments later.rest ∧
      start.Covers fragments tokens later := by
  obtain ⟨opening, place, opens, others⟩ := runs_bind runs
  obtain ⟨header, ahead, splits, opened⟩ := openBlock_runs passes opens
  obtain ⟨⟨branch, position⟩, past, reads, others⟩ := runs_bind others
  obtain ⟨close, rest, closing, reads, rfl⟩ := readBranch_runs follows.ends reads
  obtain ⟨body, lexes, covers⟩ := follows.body reads
  obtain ⟨last, final, closes, ends⟩ := runs_bind others
  obtain ⟨closed, beyond⟩ := closeBlock_runs closing closes
  obtain ⟨rfl, rfl⟩ := runs_pure ends
  rw [splits] at called ahead
  rw [closing.ahead, ← beyond] at lexes
  refine ⟨_, ?_, (opened.append covers).append closed⟩
  rw [passes.rest, splits]
  exact .forBlock called ahead lexes

-- An `if` that was read from its marker on: its header, its first body, the branches behind that
-- body and the closing brace.
inductive IfRead (around : Surroundings σ bound) (start : Cursor) : List Token → Cursor → Prop
  | mk {inner close last later : Cursor} {header : List Char} {opening closing body added}
      (opens : header? around.marker (header ++ '{' :: around.marker :: inner.rest) = some header)
      (opened : start.Covers [.opening around.marker ifName header] [opening] inner)
      (reads : around.ReadsBody inner body close)
      (branches : BranchesRead around close added last)
      (closed : last.Covers [.closing around.marker] [closing] later) :
      IfRead around start (opening :: body ++ added ++ [closing]) later

theorem expandIf_parts (ends : around.EndsOnMarker) {tokens : List Token}
    (passes : start.Passes (around.marker :: '.' :: ifName) cursor)
    (runs : Runs around (expandIf (start.spanTo cursor ifName)) cursor tokens later) :
    IfRead around start tokens later := by
  obtain ⟨opening, place, opens, others⟩ := runs_bind runs
  obtain ⟨header, ahead, splits, opened⟩ := openBlock_runs passes opens
  obtain ⟨⟨branch, position⟩, past, reads, others⟩ := runs_bind others
  obtain ⟨close, rest, closing, reads, rfl⟩ := readBranch_runs ends reads
  obtain ⟨state, middle, elseIfs, others⟩ := runs_bind others
  obtain ⟨⟨all, position⟩, after, last, others⟩ := runs_bind others
  obtain ⟨added, again, beyond, same, shut, branches⟩ := branches_runs ends closing elseIfs last
  cases same
  obtain ⟨final, finish, closes, done⟩ := runs_bind others
  obtain ⟨closed, _⟩ := closeBlock_runs shut closes
  obtain ⟨rfl, rfl⟩ := runs_pure done
  exact .mk (splits ▸ ahead) opened reads branches closed

theorem expandIf_runs (follows : around.FollowsGrammar known) {tokens : List Token}
    (called : Called around.marker known ifName cursor.rest)
    (passes : start.Passes (around.marker :: '.' :: ifName) cursor)
    (runs : Runs around (expandIf (start.spanTo cursor ifName)) cursor tokens later) :
    ∃ fragments, Lexes around.marker known .item start.rest fragments later.rest ∧
      start.Covers fragments tokens later := by
  cases expandIf_parts follows.ends passes runs with
  | @mk inner close last _ header opening closing body added opens opened reads branches closed =>
    obtain ⟨fragments, lexes, covers⟩ := follows.body reads
    obtain ⟨ended, closes⟩ := follows.ends _ _ _ reads
    have stops : last.rest = around.marker :: '}' :: later.rest := by
      simpa [Fragment.closing] using closed.passes.rest
    obtain ⟨others, lexed, covered⟩ := branches.lexes follows closes.symm stops
    have splits : start.rest =
        around.marker :: '.' :: ifName ++ (header ++ '{' :: around.marker :: inner.rest) := by
      simpa [Fragment.opening] using opened.passes.rest
    have behind : cursor.rest = header ++ '{' :: around.marker :: inner.rest :=
      List.append_cancel_left (passes.rest.symm.trans splits)
    rw [← closes] at lexes
    rw [behind] at called
    refine ⟨_, ?_, ((opened.append covers).append covered).append closed⟩
    rw [splits]
    exact .ifBlock called opens lexes lexed

end Blocks
end TemplateCompiler
