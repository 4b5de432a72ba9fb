import TemplateCompiler.Proofs.CursorPositions
import TemplateCompiler.Proofs.Tiling
import TemplateCompiler.Proofs.TokenVector

namespace TemplateCompiler
open Text

-- A closing marker of the text, wherever it stands.
def Source.ClosesAt (source : Source) (marker : Char) (offset : Nat) : Prop :=
  ∃ before after, source.text = before ++ marker :: '}' :: after ∧ byteLength before = offset

theorem Cursor.Covers.tilesBetween {source : Source} {cursor later : Cursor}
    {fragments : List Fragment} {tokens : List Token} (canonical : Cursor.Canonical source cursor)
    (covers : cursor.Covers fragments tokens later)
    (nonempty : ∀ fragment ∈ fragments, fragment.covered ≠ []) :
    TilesBetween source cursor.position later.position tokens := by
  have splits : source.text =
      cursor.passed.reverse ++ Fragment.source fragments ++ later.rest := by
    rw [← canonical.text, covers.passes.rest, List.append_assoc]
  have laid := Fragment.tilesBetween_lay splits nonempty
  rwa [Position.afterRun_append, ← canonical.counted, ← covers.passes.position, ← canonical.name,
    ← covers.laid] at laid

namespace Lexer
variable {σ : Type}

-- An item on the level of the body itself. Only its first token was lexed there: those behind it
-- come from the macro that the item calls.
structure OwnItem (lexer : Lexer σ) (source : Source) (start later : Cursor)
    (tokens : List Token) : Prop where
  placed : Cursor.Canonical source start
  nonempty : tokens ≠ []
  tiles : TilesBetween source start.position later.position tokens
  clear : ∀ token ∈ tokens.head?, ¬ source.ClosesAt lexer.marker token.slice.start.offset
  single : ¬ lexer.Invokes start → ∃ token, tokens = [token]

def Unended (lexer : Lexer σ) (source : Source) (openedAt : Nat) (fault : Fault) : Prop :=
  source.IsBoundary openedAt → fault = .error (source.errorAt .tokenizer .unterminatedBody openedAt
    s!"missing `{lexer.marker}\x7d` to close the block")

inductive BodyEnd (lexer : Lexer σ) (source : Source) (openedAt : Nat) (last : Writing σ) :
    Except Fault Unit × Writing σ → Prop
  | closed {rest} (ahead : last.cursor.rest = lexer.marker :: '}' :: rest) :
      BodyEnd lexer source openedAt last (.ok (), last)
  | ended {fault} (empty : last.cursor.rest = []) (whole : last.cursor.offset = source.bytes)
      (unended : lexer.Unended source openedAt fault) :
      BodyEnd lexer source openedAt last (.error fault, last)
  | failed {fault later} (opens : ¬ [lexer.marker, '}'] <+: last.cursor.rest)
      (next : lexer.nextTokens last = (.error fault, later)) :
      BodyEnd lexer source openedAt last (.error fault, later)

section Items
variable {lexer : Lexer σ} {source : Source} {writing middle last : Writing σ}

theorem not_closesAt {cursor : Cursor} {marker : Char} (canonical : Cursor.Canonical source cursor)
    (opens : ¬ [marker, '}'] <+: cursor.rest) : ¬ source.ClosesAt marker cursor.offset := by
  rintro ⟨before, after, splits, bytes⟩
  rw [canonical.offset_eq] at bytes
  obtain ⟨_, ahead⟩ := split_unique (canonical.text.trans splits) bytes.symm
  exact opens ⟨after, ahead.symm⟩

theorem ownItem_of_next (blocks : lexer.macros.BlocksOnly)
    (canonical : Cursor.Canonical source writing.cursor)
    (opens : ¬ writing.cursor.atBodyClose lexer.marker = true)
    (next : lexer.nextTokens writing = (.ok true, middle)) {tokens : List Token}
    (wrote : middle.out = writing.out ++ tokens) :
    lexer.OwnItem source writing.cursor middle.cursor tokens ∧
      Cursor.Canonical source middle.cursor := by
  obtain ⟨found, made, moved, same, ahead⟩ := nextTokens_ok next
  obtain rfl := List.append_cancel_left (wrote.symm.trans same)
  have takes : lexer.Takes writing.cursor tokens middle.cursor := moved ▸ item_takes blocks
    (fun later _ memory => readBody_follows blocks later memory) ahead made
  obtain ⟨fragments, lexes, covers⟩ := takes
  have further : Cursor.Canonical source middle.cursor := moved ▸ canonical.skip _
  have tiles := covers.tilesBetween canonical lexes.nonempty
  refine ⟨⟨canonical, ?_, tiles, ?_, ?_⟩, further⟩
  · rw [covers.laid]
    generalize writing.cursor.rest = text at lexes
    cases lexes <;> exact List.cons_ne_nil _ _
  · intro token first
    rw [tiles.first token first]
    exact not_closesAt canonical (mt atBodyClose_iff.mpr opens)
  · exact fun uncalled => itemAt_single ahead uncalled made

-- The item that a run wrote behind some of its items, from the place that they led to.
def Wrote (lexer : Lexer σ) (source : Source) (writing : Writing σ) (before : List (List Token))
    (tokens : List Token) : Prop :=
  ∃ start later, lexer.Completes writing before start ∧
    lexer.nextTokens start = (.ok true, later) ∧ later.out = start.out ++ tokens ∧
    lexer.OwnItem source start.cursor later.cursor tokens

-- Every place that a run leads to is one of the source again, so each item is read as the first.
theorem Completes.wrote (blocks : lexer.macros.BlocksOnly)
    (canonical : Cursor.Canonical source writing.cursor) {items : List (List Token)}
    (completes : lexer.Completes writing items last) :
    Cursor.Canonical source last.cursor ∧
      TilesBetween source writing.cursor.position last.cursor.position items.flatten ∧
      ∀ before tokens behind, items = before ++ tokens :: behind →
        lexer.Wrote source writing before tokens := by
  induction completes with
  | nil =>
    refine ⟨canonical, .nil source _, ?_⟩
    intro before tokens behind splits
    cases before <;> cases splits
  | cons opens next wrote more ih =>
    obtain ⟨own, further⟩ := ownItem_of_next blocks canonical opens next wrote
    obtain ⟨ends, tiles, others⟩ := ih further
    refine ⟨ends, own.tiles.append tiles, ?_⟩
    intro before tokens behind splits
    cases before with
    | nil =>
      obtain ⟨rfl, _⟩ := List.cons.inj splits
      exact ⟨_, _, .nil, next, wrote, own⟩
    | cons first before =>
      obtain ⟨rfl, same⟩ := List.cons.inj splits
      obtain ⟨start, later, completes, rest⟩ := others before tokens behind same
      exact ⟨start, later, .cons opens next wrote completes, rest⟩

theorem StopsAt.bodyEnd {openedAt : Nat} {result : Except Fault Unit × Writing σ}
    (canonical : Cursor.Canonical source last.cursor)
    (stops : lexer.StopsAt openedAt last result) :
    lexer.BodyEnd source openedAt last result := by
  cases stops with
  | closed closes =>
    obtain ⟨rest, ahead⟩ := atBodyClose_iff.mp closes
    exact .closed ahead.symm
  | failed opens next => exact .failed (mt atBodyClose_iff.mpr opens) next
  | ended opens next =>
    obtain ⟨_, empty⟩ := nextTokens_none next
    have whole : last.cursor.offset = source.bytes := by
      rw [canonical.offset_eq, Source.bytes, ← canonical.text, empty, List.append_nil]
    refine .ended empty whole ?_
    intro opened
    rw [unterminated, canonical.truePositions.placed _ _ _ opened]

end Items

-- A body that was read from an offset of the source into a vector, item by item. The closing marker
-- is looked for between two of them only, whatever they have inside.
structure BodyRead (lexer : Lexer σ) (source : Source) (openedAt start : Nat)
    (writing : Writing σ) (items : List (List Token)) (last : Writing σ) : Prop where
  runs : lexer.writeBody openedAt writing = lexer.writtenBody openedAt writing
  completes : lexer.Completes writing items last
  appended : last.out = writing.out ++ items.flatten
  tiles : TilesBetween source (source.positionAt start) (source.positionAt last.cursor.offset)
    items.flatten
  placed : Cursor.Canonical source last.cursor
  own : ∀ before tokens behind, items = before ++ tokens :: behind →
    lexer.Wrote source writing before tokens
  ends : lexer.BodyEnd source openedAt last (lexer.writeBody openedAt writing)

theorem body_ends_at_close (marker : Char) {source : Source} {start : Nat} {cursor : Cursor}
    (placed : (Cursor.ofSource source).seek start = .ok cursor) (openedAt : Nat) (memory : σ)
    (out : List Token) :
    ∃ items last, BodyRead ⟨marker, .builtins⟩ source openedAt start ⟨cursor, 0, memory, out⟩
      items last := by
  obtain ⟨canonical, rfl⟩ := (Cursor.canonical_ofSource source).seek placed
  obtain ⟨items, last, completes, stops⟩ :=
    writeBody_completes ⟨marker, .builtins⟩ openedAt ⟨cursor, 0, memory, out⟩
  have blocks : (⟨marker, .builtins⟩ : Lexer σ).macros.BlocksOnly :=
    MacroTable.blocksOnly_builtins
  obtain ⟨further, tiles, own⟩ := completes.wrote blocks canonical
  refine ⟨items, last, writeBody_eq _ _ _, completes, completes.out_eq, ?_, further, own,
    stops.bodyEnd further⟩
  rwa [← canonical.position_eq, ← further.position_eq]

end Lexer

-- Closing markers inside a body: an escaped one, a quoted one in code and that of a nested block.
def bodyWithCloses : Source :=
  ⟨"page", "x◊◊\x7d◊\x7b\"◊\x7d\"\x7d◊.if a \x7b◊y◊\x7d◊\x7dz".toList⟩

theorem Lexer.body_ends_withCloses :
    ∃ cursor, (Cursor.ofSource bodyWithCloses).seek 1 = .ok cursor ∧
      (writeBody ⟨'◊', .builtins⟩ 0 ⟨cursor, 0, (), []⟩).1.isOk = true ∧
      (writeBody ⟨'◊', .builtins⟩ 0 ⟨cursor, 0, (), []⟩).2.cursor.rest = ['◊', '\x7d', 'z'] ∧
      ∃ items last,
        BodyRead ⟨'◊', .builtins⟩ bodyWithCloses 0 1 ⟨cursor, 0, (), []⟩ items last := by
  have placed : (Cursor.ofSource bodyWithCloses).seek 1 =
      .ok ((Cursor.ofSource bodyWithCloses).skip 1) := by decide +kernel
  refine ⟨_, placed, ?_, ?_, body_ends_at_close '◊' placed 0 () []⟩
  · decide +kernel
  · decide +kernel

end TemplateCompiler
