import TemplateCompiler.Proofs.BlockMacros
import TemplateCompiler.Proofs.Breaking
import TemplateCompiler.Proofs.CursorPositions
import TemplateCompiler.Proofs.ScanAnswers

namespace TemplateCompiler
open Text Code Scan

namespace Lexer
variable {σ : Type}

def bodies (lexer : Lexer σ) (bound : Nat) : Surroundings σ bound :=
  ⟨lexer.marker, fun later _ memory => lexer.readBody later memory⟩

def BodyFinds (lexer : Lexer σ) (cursor : Cursor) (tokens : List Token) (close : Cursor) : Prop :=
  ∀ memory, ∃ length, lexer.readBody cursor memory = ⟨tokens, .closed, length, memory⟩ ∧
    close = cursor.skip length

def stopOf (source : Source) (position : Position) : Option Breach → BodyStop
  | none => .ended
  | some breach => .failed (.error (breach.error source position))

def BodyBreaks (lexer : Lexer σ) (source : Source) (cursor : Cursor) (found : Option Breach) :
    Prop :=
  ∀ memory, (lexer.readBody cursor memory).stop = stopOf source cursor.position found

end Lexer

namespace Blocks
variable {σ : Type} {lexer : Lexer σ} {bound : Nat} {source : Source}
  {start cursor later close : Cursor} {rest : List Char}

def blamed (marker : Char) (source : Source) (start : Cursor) (run : List Char)
    (found : Option Breach) : Fault :=
  .error ((Breach.ofBody marker run found).error source start.position)

theorem openBlock_finds {name header inner : List Char}
    (passes : start.Passes (lexer.marker :: '.' :: name) cursor)
    (splits : cursor.rest = header ++ '{' :: lexer.marker :: inner)
    (opens : header? lexer.marker cursor.rest = some header) :
    ∃ token place, Finds (lexer.bodies bound) (openBlock start.position (String.ofList name)) cursor
        token place ∧ place.rest = inner ∧
      start.Covers [.opening lexer.marker name header] [token] place := by
  have read : cursor.readBlockHeader lexer.marker =
      .ok ⟨cursor.ahead header.length, header.length + 2⟩ := by
    rw [Cursor.readBlockHeader, Cursor.tryBlockHeader?, opens]
    rfl
  obtain ⟨passed, inside⟩ : cursor.Passes (header ++ ['{', lexer.marker])
      (cursor.skip (header.length + 2)) ∧ (cursor.skip (header.length + 2)).rest = inner :=
    Cursor.passes_to (by simpa using splits) (by simp)
  have covers : start.Passes (Fragment.opening lexer.marker name header).covered
      (cursor.skip (header.length + 2)) := by
    simpa [Fragment.opening] using passes.trans passed
  have text : (cursor.ahead header.length).text = String.ofList header :=
    Cursor.text_ahead splits
  refine ⟨_, _, finds_bind finds_marker (finds_bind (finds_readOrFail (congrArg _ read)) ?_),
    inside, .one covers⟩
  have token : Finds (lexer.bodies bound) _ _ _ _ := finds_fragment _ covers
  simpa [Fragment.opening, text, String.ofList_append, String.append_assoc, Cursor.after] using token

theorem openBlock_fails {name : List Char} (canonical : Cursor.Canonical source cursor)
    (passes : start.Passes (lexer.marker :: '.' :: name) cursor)
    (headless : header? lexer.marker cursor.rest = none) :
    Fails (lexer.bodies bound) (openBlock start.position (String.ofList name)) cursor
      (.error ((Breach.unopened lexer.marker name).error source start.position)) := by
  have read : cursor.readBlockHeader lexer.marker =
      .error ((Breach.unopened lexer.marker name).error source start.position) := by
    rw [Cursor.readBlockHeader, Cursor.tryBlockHeader?, headless]
    simp only [Option.map_none, Cursor.errorHere, canonical.source_eq, passes.position]
    rfl
  exact fails_after finds_marker (fails_bind (fails_readOrFail (congrArg _ read)))

theorem readBranch_finds {tokens : List Token} (openedAt : Nat)
    (body : lexer.BodyFinds cursor tokens close) :
    Finds (lexer.bodies bound) (readBranch openedAt) cursor (tokens, close.position)
      (close.skip 1) :=
  finds_bind (finds_readBody fun _ memory => body memory)
    (finds_bind finds_cursor (finds_bind (finds_skip 1) (finds_pure _)))

-- A body that ends with the text is reported where its block began, wherever the reading stopped.
theorem readBranch_fails {run : List Char} {found : Option Breach}
    (canonical : Cursor.Canonical source start) (passes : start.Passes run cursor)
    (body : lexer.BodyBreaks source cursor found) :
    Fails (lexer.bodies bound) (readBranch start.offset) cursor
      (blamed lexer.marker source start run found) := by
  apply fails_bind
  intro within memory
  have stops := body memory
  have placed (length : Nat) : (cursor.skip length).errorAt start.offset .unterminatedBody
      s!"missing `{lexer.marker}\x7d` to close the block" =
        .ok ((Breach.unended lexer.marker).error source start.position) := by
    have later : Cursor.Canonical source (cursor.skip length) := by
      rw [passes.moved]
      exact (canonical.skip _).skip _
    simp only [Cursor.errorAt, later.positionAt_boundary canonical.isBoundary, later.source_eq,
      ← canonical.position_eq]
    rfl
  simp only [Scan.readBody, BodyRun.settle, Lexer.bodies]
  cases found with
  | none =>
    rw [show (lexer.readBody cursor memory).stop = .ended from stops]
    simp only [placed]
    rfl
  | some breach =>
    rw [show (lexer.readBody cursor memory).stop =
      .failed (.error (breach.error source cursor.position)) from stops, passes.position]
    simp only [blamed, Breach.ofBody, Breach.error_behind]

theorem closeBlock_finds (bound : Nat) (closing : Closing lexer.marker close cursor rest) :
    ∃ token place, Finds (lexer.bodies bound) (closeBlock close.position) cursor token place ∧
      place.rest = rest ∧ close.Covers [.closing lexer.marker] [token] place := by
  have consumed : cursor.consume '}' = ⟨true, 1⟩ := by
    rw [Cursor.consume, if_pos (by rw [Cursor.peek, closing.rest_eq]; rfl)]
  obtain ⟨passed, past⟩ : cursor.Passes ['}'] (cursor.skip 1) ∧ (cursor.skip 1).rest = rest :=
    Cursor.passes_to closing.rest_eq rfl
  have covers := closing.passes.trans passed
  exact ⟨_, _, finds_bind (finds_read consumed) (finds_fragment (.closing lexer.marker) covers),
    past, Cursor.Covers.one covers⟩

theorem elseIfHead?_finds {head header inner : List Char}
    (closing : Closing lexer.marker close cursor rest)
    (words : elseIfAt? lexer.marker ('}' :: rest) = some (head, header))
    (splits : '}' :: rest = head ++ header ++ '{' :: lexer.marker :: inner) :
    ∃ place, Finds (lexer.bodies bound) (Scan.read (elseIfHead? lexer.marker)) cursor
        (some (String.ofList (head ++ header ++ ['{']))) place ∧ place.rest = inner ∧
      close.Passes (Fragment.elseIf lexer.marker head header).covered place := by
  have read : elseIfHead? lexer.marker cursor =
      ⟨some (String.ofList (head ++ header ++ ['{'])), head.length + (header.length + 2)⟩ := by
    rw [elseIfHead?_eq, closing.rest_eq, words]
  obtain ⟨passed, inside⟩ : cursor.Passes (head ++ header ++ ['{', lexer.marker])
      (cursor.skip (head.length + (header.length + 2))) ∧ _ = inner :=
    Cursor.passes_to (by simp [closing.rest_eq, splits]) (by simp)
  refine ⟨_, finds_read read, inside, ?_⟩
  simpa [Fragment.elseIf, Cursor.after] using closing.passes.trans passed

theorem elseHead?_finds {head inner : List Char}
    (closing : Closing lexer.marker close cursor rest)
    (words : elseAt? lexer.marker ('}' :: rest) = some head)
    (splits : '}' :: rest = head ++ lexer.marker :: inner) :
    ∃ place, Finds (lexer.bodies bound) (Scan.read (elseHead? lexer.marker)) cursor true place ∧
      place.rest = inner ∧ close.Passes (Fragment.elseLast lexer.marker head).covered place := by
  have read : elseHead? lexer.marker cursor = ⟨true, head.length + 1⟩ := by
    rw [elseHead?_eq, closing.rest_eq, words]
  obtain ⟨passed, inside⟩ : cursor.Passes (head ++ [lexer.marker])
      (cursor.skip (head.length + 1)) ∧ _ = inner :=
    Cursor.passes_to (by simp [closing.rest_eq, splits]) (by simp)
  refine ⟨_, finds_read read, inside, ?_⟩
  simpa [Fragment.elseLast, Cursor.after] using closing.passes.trans passed

theorem elseIfHead?_finds_none (closing : Closing lexer.marker close cursor rest)
    (noElseIf : elseIfAt? lexer.marker ('}' :: rest) = none) :
    Finds (lexer.bodies bound) (Scan.read (elseIfHead? lexer.marker)) cursor none cursor := by
  have read : elseIfHead? lexer.marker cursor = ⟨none, 0⟩ := by
    rw [elseIfHead?_eq, closing.rest_eq, noElseIf]
  exact fun _ _ => ⟨0, by rw [Scan.read, read], cursor.skip_zero.symm⟩

theorem elseHead?_finds_none (closing : Closing lexer.marker close cursor rest)
    (noElse : elseAt? lexer.marker ('}' :: rest) = none) :
    Finds (lexer.bodies bound) (Scan.read (elseHead? lexer.marker)) cursor false cursor := by
  have read : elseHead? lexer.marker cursor = ⟨false, 0⟩ := by
    rw [elseHead?_eq, closing.rest_eq, noElse]
  exact fun _ _ => ⟨0, by rw [Scan.read, read], cursor.skip_zero.symm⟩

def BranchesFind (lexer : Lexer σ) (bound openedAt : Nat) (close cursor : Cursor)
    (tokens all : List Token) (last : Cursor) : Prop :=
  ∃ state middle,
    Finds (lexer.bodies bound) (rounds (elseIfBranch openedAt) (tokens, close.position)) cursor
      state middle ∧
    Finds (lexer.bodies bound) (elseBranch openedAt state) middle (all, last.position)
      (last.skip 1)

def BranchesFail (lexer : Lexer σ) (bound openedAt : Nat) (close cursor : Cursor)
    (tokens : List Token) (fault : Fault) : Prop :=
  Fails (lexer.bodies bound) (rounds (elseIfBranch openedAt) (tokens, close.position)) cursor
      fault ∨
    ∃ state middle,
      Finds (lexer.bodies bound) (rounds (elseIfBranch openedAt) (tokens, close.position)) cursor
        state middle ∧ Fails (lexer.bodies bound) (elseBranch openedAt state) middle fault

section Branches
variable {openedAt : Nat} {tokens all body : List Token} {head header inner run : List Char}
  {place again last : Cursor} {fault : Fault} {found : Option Breach}

theorem rounds_none (openedAt : Nat) (tokens : List Token)
    (closing : Closing lexer.marker close cursor rest)
    (noElseIf : elseIfAt? lexer.marker ('}' :: rest) = none) :
    Finds (lexer.bodies bound) (rounds (elseIfBranch openedAt) (tokens, close.position)) cursor
      (tokens, close.position) cursor :=
  finds_rounds_none (finds_bind finds_marker
    (finds_bind (elseIfHead?_finds_none closing noElseIf) (finds_pure none)))

theorem branches_none (closing : Closing lexer.marker close cursor rest)
    (noElseIf : elseIfAt? lexer.marker ('}' :: rest) = none)
    (noElse : elseAt? lexer.marker ('}' :: rest) = none) :
    BranchesFind lexer bound openedAt close cursor tokens tokens close := by
  refine ⟨_, _, rounds_none openedAt tokens closing noElseIf, ?_⟩
  rw [← closing.moved]
  exact finds_bind finds_marker
    (finds_bind (elseHead?_finds_none closing noElse) (finds_pure (tokens, close.position)))

theorem branches_elseLast (closing : Closing lexer.marker close cursor rest)
    (noElseIf : elseIfAt? lexer.marker ('}' :: rest) = none)
    (words : Finds (lexer.bodies bound) (Scan.read (elseHead? lexer.marker)) cursor true place)
    (passes : close.Passes (Fragment.elseLast lexer.marker head).covered place)
    (reads : lexer.BodyFinds place body again) :
    BranchesFind lexer bound openedAt close cursor tokens
      (tokens ++ (Fragment.elseLast lexer.marker head).token close.name close.position :: body)
      again :=
  ⟨_, _, rounds_none openedAt tokens closing noElseIf,
    finds_bind finds_marker (finds_bind words (finds_bind (finds_fragment _ passes)
      (finds_bind (readBranch_finds openedAt reads) (finds_pure _))))⟩

theorem elseIfBranch_finds
    (words : Finds (lexer.bodies bound) (Scan.read (elseIfHead? lexer.marker)) cursor
      (some (String.ofList (head ++ header ++ ['{']))) place)
    (passes : close.Passes (Fragment.elseIf lexer.marker head header).covered place)
    (reads : lexer.BodyFinds place body again) :
    Finds (lexer.bodies bound) (elseIfBranch openedAt (tokens, close.position)) cursor
      (some (tokens ++ (Fragment.elseIf lexer.marker head header).token close.name close.position ::
        body, again.position)) (again.skip 1) :=
  finds_bind finds_marker (finds_bind words (finds_bind (finds_fragment _ passes)
    (finds_bind (readBranch_finds openedAt reads) (finds_pure _))))

theorem branches_elseIf
    (words : Finds (lexer.bodies bound) (Scan.read (elseIfHead? lexer.marker)) cursor
      (some (String.ofList (head ++ header ++ ['{']))) place)
    (passes : close.Passes (Fragment.elseIf lexer.marker head header).covered place)
    (reads : lexer.BodyFinds place body again)
    (shorter : (again.skip 1).rest.length < cursor.rest.length)
    (further : BranchesFind lexer bound openedAt again (again.skip 1)
      (tokens ++ (Fragment.elseIf lexer.marker head header).token close.name close.position :: body)
      all last) :
    BranchesFind lexer bound openedAt close cursor tokens all last := by
  obtain ⟨state, middle, others, ends⟩ := further
  exact ⟨state, middle, finds_rounds_some (elseIfBranch_finds words passes reads) shorter others,
    ends⟩

theorem branches_elseIf_later
    (words : Finds (lexer.bodies bound) (Scan.read (elseIfHead? lexer.marker)) cursor
      (some (String.ofList (head ++ header ++ ['{']))) place)
    (passes : close.Passes (Fragment.elseIf lexer.marker head header).covered place)
    (reads : lexer.BodyFinds place body again)
    (shorter : (again.skip 1).rest.length < cursor.rest.length)
    (further : BranchesFail lexer bound openedAt again (again.skip 1)
      (tokens ++ (Fragment.elseIf lexer.marker head header).token close.name close.position :: body)
      fault) :
    BranchesFail lexer bound openedAt close cursor tokens fault := by
  have goes : Finds (lexer.bodies bound) (elseIfBranch openedAt (tokens, close.position)) cursor _ _ :=
    elseIfBranch_finds words passes reads
  rcases further with fails | ⟨state, middle, others, fails⟩
  · exact .inl (fails_rounds_after goes shorter fails)
  · exact .inr ⟨state, middle, finds_rounds_some goes shorter others, fails⟩

theorem branches_elseIf_body
    (words : Finds (lexer.bodies bound) (Scan.read (elseIfHead? lexer.marker)) cursor
      (some (String.ofList (head ++ header ++ ['{']))) place)
    (passes : close.Passes (Fragment.elseIf lexer.marker head header).covered place)
    (canonical : Cursor.Canonical source start) (begins : start.Passes run place)
    (breaks : lexer.BodyBreaks source place found) :
    BranchesFail lexer bound start.offset close cursor tokens
      (blamed lexer.marker source start run found) :=
  .inl (fails_rounds (fails_after finds_marker (fails_after words
    (fails_after (finds_fragment _ passes)
      (fails_bind (readBranch_fails canonical begins breaks))))))

theorem branches_elseLast_body (closing : Closing lexer.marker close cursor rest)
    (noElseIf : elseIfAt? lexer.marker ('}' :: rest) = none)
    (words : Finds (lexer.bodies bound) (Scan.read (elseHead? lexer.marker)) cursor true place)
    (passes : close.Passes (Fragment.elseLast lexer.marker head).covered place)
    (canonical : Cursor.Canonical source start) (begins : start.Passes run place)
    (breaks : lexer.BodyBreaks source place found) :
    BranchesFail lexer bound start.offset close cursor tokens
      (blamed lexer.marker source start run found) :=
  .inr ⟨_, _, rounds_none start.offset tokens closing noElseIf,
    fails_after finds_marker (fails_after words (fails_after (finds_fragment _ passes)
      (fails_bind (readBranch_fails canonical begins breaks))))⟩

end Branches

def HeadFails (lexer : Lexer σ) (bound : Nat) (start : Cursor) (name : List Char) (cursor : Cursor)
    (fault : Fault) : Prop :=
  Fails (lexer.bodies bound) (openBlock start.position (String.ofList name)) cursor fault ∨
    ∃ token place,
      Finds (lexer.bodies bound) (openBlock start.position (String.ofList name)) cursor token
        place ∧ Fails (lexer.bodies bound) (readBranch start.offset) place fault

theorem HeadFails.bind {α : Type} {name : List Char} {fault : Fault}
    {next : Token → List Token × Position → Scan σ α}
    (fails : HeadFails lexer bound start name cursor fault) :
    Fails (lexer.bodies bound) (do
      let opening ← openBlock start.position (String.ofList name)
      let branch ← readBranch start.offset
      next opening branch) cursor fault := by
  rcases fails with fails | ⟨token, place, head, fails⟩
  · exact fails_bind fails
  · exact fails_after head (fails_bind fails)

section Blocks
variable {tokens : List Token} {token : Token} {run : List Char} {place : Cursor}
  {found : Option Breach}

theorem expandFor_finds
    (opens : Finds (lexer.bodies bound) (openBlock start.position (String.ofList forName)) cursor
      token place)
    (reads : lexer.BodyFinds place tokens close)
    (closing : Closing lexer.marker close (close.skip 1) rest) :
    ∃ last later, Finds (lexer.bodies bound) (expandFor (start.spanTo cursor forName)) cursor
        (token :: tokens ++ [last]) later ∧ later.rest = rest ∧
      close.Covers [.closing lexer.marker] [last] later := by
  obtain ⟨last, later, closes, past, covers⟩ := closeBlock_finds bound closing
  exact ⟨last, later, finds_bind opens (finds_bind (readBranch_finds _ reads)
    (finds_bind closes (finds_pure _))), past, covers⟩

theorem expandIf_finds {all : List Token} {last : Cursor}
    (opens : Finds (lexer.bodies bound) (openBlock start.position (String.ofList ifName)) cursor
      token place)
    (reads : lexer.BodyFinds place tokens close)
    (branches : BranchesFind lexer bound start.offset close (close.skip 1) (token :: tokens) all
      last)
    (closing : Closing lexer.marker last (last.skip 1) rest) :
    ∃ ending later, Finds (lexer.bodies bound) (expandIf (start.spanTo cursor ifName)) cursor
        (all ++ [ending]) later ∧ later.rest = rest ∧
      last.Covers [.closing lexer.marker] [ending] later := by
  obtain ⟨ending, later, closes, past, covers⟩ := closeBlock_finds bound closing
  obtain ⟨state, middle, others, ends⟩ := branches
  exact ⟨ending, later, finds_bind opens (finds_bind (readBranch_finds _ reads)
    (finds_bind others (finds_bind ends (finds_bind closes (finds_pure _))))), past, covers⟩

end Blocks

end Blocks
end TemplateCompiler
