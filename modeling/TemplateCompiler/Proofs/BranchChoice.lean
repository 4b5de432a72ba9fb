import TemplateCompiler.Proofs.BlockHeads
import TemplateCompiler.Proofs.Guarded.Blocks

namespace TemplateCompiler
open Text Code

def ElseIfAhead (marker : Char) (brace : Cursor) : Prop :=
  ∃ head, ElseIfWords head ∧ head <+: brace.rest ∧
    (brace.skip head.length).peek.any isWordRune = false ∧
    ((brace.skip head.length).tryBlockHeader? marker).isSome

def ElseAhead (marker : Char) (brace : Cursor) : Prop :=
  ∃ head, ElseWords head ∧ head ++ [marker] <+: brace.rest

inductive Turn where
  | elseIf
  | elseLast
deriving DecidableEq

-- What is read behind the body that closes at a cursor. Moves that looked ahead for a branch that
-- is not there are taken back.
structure Decides (marker : Char) (close : Cursor) (next : Option Turn) : Prop where
  elseIf : next = some .elseIf ↔ ElseIfAhead marker (close.skip 1)
  elseLast : next = some .elseLast ↔
    ¬ ElseIfAhead marker (close.skip 1) ∧ ElseAhead marker (close.skip 1)
  undone : ∀ source, Guarded.Ready source close →
    (next ≠ some .elseIf →
      Guarded.elseIfHead? marker (close.skip 1) = .ok (none, close.skip 1)) ∧
    (next = none → Guarded.elseHead? marker (close.skip 1) = .ok (false, close.skip 1))

inductive Chain (marker : Char) (reads : Cursor → List Token → Cursor → Prop) :
    Cursor → List Token → Cursor → Prop
  | ends {close} (decides : Decides marker close none) : Chain marker reads close [] close
  | elseIf {close inner again last head header opening body others}
      (decides : Decides marker close (some .elseIf))
      (found : elseIfAt? marker (close.skip 1).rest = some (head, header))
      (opened : close.Covers [.elseIf marker head header] [opening] inner)
      (inside : reads inner body again) (further : Chain marker reads again others last) :
      Chain marker reads close (opening :: body ++ others) last
  | elseLast {close inner last head opening body}
      (decides : Decides marker close (some .elseLast))
      (found : elseAt? marker (close.skip 1).rest = some head)
      (opened : close.Covers [.elseLast marker head] [opening] inner)
      (inside : reads inner body last) : Chain marker reads close (opening :: body) last

section Ahead
variable {marker : Char} {brace close : Cursor}

theorem elseIfAhead_iff :
    ElseIfAhead marker brace ↔ ∃ head header, elseIfAt? marker brace.rest = some (head, header) := by
  simp only [ElseIfAhead, elseIfAt?_iff, Cursor.tryBlockHeader?, Option.isSome_map,
    Option.isSome_iff_exists, Cursor.rest_skip, Cursor.peek]
  constructor
  · rintro ⟨head, words, ⟨later, splits⟩, edge, header, opens⟩
    rw [← splits, List.drop_left] at edge opens
    exact ⟨head, header, words, later, splits.symm, edge, opens⟩
  · rintro ⟨head, header, words, later, splits, edge, opens⟩
    rw [splits]
    refine ⟨head, words, List.prefix_append head later, ?_⟩
    rw [List.drop_left]
    exact ⟨edge, header, opens⟩

theorem elseAhead_iff :
    ElseAhead marker brace ↔ ∃ head, elseAt? marker brace.rest = some head := by
  simp only [ElseAhead, elseAt?_iff]

theorem not_elseIfAhead (absent : elseIfAt? marker brace.rest = none) :
    ¬ ElseIfAhead marker brace := by
  intro ahead
  obtain ⟨head, header, found⟩ := elseIfAhead_iff.mp ahead
  cases absent.symm.trans found

theorem not_elseAhead (absent : elseAt? marker brace.rest = none) : ¬ ElseAhead marker brace := by
  intro ahead
  obtain ⟨head, found⟩ := elseAhead_iff.mp ahead
  cases absent.symm.trans found

theorem elseIfHead?_undone {source : Source} (ready : Guarded.Ready source brace)
    (absent : elseIfAt? marker brace.rest = none) :
    Guarded.elseIfHead? marker brace = .ok (none, brace) := by
  have done := Guarded.does_elseIfHead? ready marker
  rw [Blocks.elseIfHead?_eq, absent] at done
  simpa [Guarded.Does, Cursor.after] using done

theorem elseHead?_undone {source : Source} (ready : Guarded.Ready source brace)
    (absent : elseAt? marker brace.rest = none) :
    Guarded.elseHead? marker brace = .ok (false, brace) := by
  have done := Guarded.does_elseHead? ready marker
  rw [Blocks.elseHead?_eq, absent] at done
  simpa [Guarded.Does, Cursor.after] using done

theorem decides_elseIf {head header : List Char}
    (found : elseIfAt? marker (close.skip 1).rest = some (head, header)) :
    Decides marker close (some .elseIf) := by
  have ahead : ElseIfAhead marker (close.skip 1) := elseIfAhead_iff.mpr ⟨head, header, found⟩
  refine ⟨iff_of_true rfl ahead, iff_of_false nofun (fun last => last.1 ahead), ?_⟩
  intro source ready
  exact ⟨fun other => absurd rfl other, nofun⟩

theorem decides_elseLast {head : List Char}
    (absent : elseIfAt? marker (close.skip 1).rest = none)
    (found : elseAt? marker (close.skip 1).rest = some head) :
    Decides marker close (some .elseLast) := by
  have first := not_elseIfAhead absent
  refine ⟨iff_of_false nofun first, iff_of_true rfl ⟨first, elseAhead_iff.mpr ⟨head, found⟩⟩, ?_⟩
  intro source ready
  exact ⟨fun _ => elseIfHead?_undone (ready.skip 1) absent, nofun⟩

theorem decides_none (noElseIf : elseIfAt? marker (close.skip 1).rest = none)
    (noElse : elseAt? marker (close.skip 1).rest = none) : Decides marker close none := by
  have last := not_elseAhead noElse
  refine ⟨iff_of_false nofun (not_elseIfAhead noElseIf),
    iff_of_false nofun (fun both => last both.2), ?_⟩
  intro source ready
  exact ⟨fun _ => elseIfHead?_undone (ready.skip 1) noElseIf,
    fun _ => elseHead?_undone (ready.skip 1) noElse⟩

end Ahead

-- The branches that were read are those that the text offers, for every way to read bodies.
theorem Blocks.BranchesRead.chain {σ : Type} {bound : Nat} {around : Surroundings σ bound}
    {reads : Cursor → List Token → Cursor → Prop}
    (bodies : ∀ {cursor tokens close}, around.ReadsBody cursor tokens close →
      reads cursor tokens close)
    {close last : Cursor} {added : List Token} (branches : BranchesRead around close added last) :
    Chain around.marker reads close added last := by
  have behind {close : Cursor} {rest : List Char}
      (ahead : close.rest = around.marker :: '}' :: rest) : (close.skip 1).rest = '}' :: rest := by
    rw [Cursor.rest_skip, ahead]
    rfl
  induction branches with
  | noBranch ahead noElseIf noElse =>
    rw [← behind ahead] at noElseIf noElse
    exact .ends (decides_none noElseIf noElse)
  | elseIf ahead found opened body _ ih =>
    rw [← behind ahead] at found
    exact .elseIf (decides_elseIf found) found opened (bodies body) ih
  | elseLast ahead noElseIf found opened body =>
    rw [← behind ahead] at noElseIf found
    exact .elseLast (decides_elseLast noElseIf found) found opened (bodies body)

namespace Lexer
variable {σ : Type} {lexer : Lexer σ} {start : Cursor} {memory : σ} {tokens : List Token}

def ReadsBody (lexer : Lexer σ) (cursor : Cursor) (tokens : List Token) (close : Cursor) : Prop :=
  ∃ memory, (lexer.readBody cursor memory).stop = .closed ∧
    tokens = (lexer.readBody cursor memory).tokens ∧
    close = cursor.skip (lexer.readBody cursor memory).length

-- An `if` from its marker up to the closing brace of its last body, and nothing behind it.
inductive ReadsIf (lexer : Lexer σ) (start : Cursor) : List Token → Cursor → Prop
  | mk {inner close last header opening body added closing}
      (opened : start.Covers [.opening lexer.marker ifName header] [opening] inner)
      (inside : lexer.ReadsBody inner body close)
      (chain : Chain lexer.marker lexer.ReadsBody close added last)
      (closed : last.Covers [.closing lexer.marker] [closing] (last.skip 2)) :
      ReadsIf lexer start (opening :: body ++ added ++ [closing]) (last.skip 2)

theorem lent_readsBody {bound : Nat} {cursor close : Cursor} {body : List Token}
    (reads : (⟨lexer.marker, fun later _ memory => lexer.readBody later memory⟩ :
      Surroundings σ bound).ReadsBody cursor body close) : lexer.ReadsBody cursor body close := by
  obtain ⟨_, memory, closed, same, moved⟩ := reads
  exact ⟨memory, closed, same, moved⟩

theorem lent_endsOnMarker (lexer : Lexer σ) (bound : Nat) :
    (⟨lexer.marker, fun later _ memory => lexer.readBody later memory⟩ :
      Surroundings σ bound).EndsOnMarker := by
  rintro cursor tokens close ⟨_, memory, closed, _, rfl⟩
  exact readBody_ends cursor memory closed

theorem readsIf_of_item {rest : List Char}
    (known : lexer.macros.get? (String.ofList ifName) = some .ifBlock)
    (called : Called lexer.marker lexer.macros.contains ifName rest)
    (splits : start.rest = lexer.marker :: '.' :: ifName ++ rest)
    (result : (lexer.itemAt start memory).value = .ok tokens) :
    lexer.ReadsIf start tokens (start.skip ((lexer.itemAt start memory).length + 1)) := by
  unfold itemAt at result ⊢
  rw [item_of_call called splits] at result ⊢
  obtain ⟨passes, _⟩ : start.Passes (lexer.marker :: '.' :: ifName) (start.skip 4) ∧ _ = rest :=
    Cursor.passes_to splits rfl
  have runs := callItem_runs known result
  cases Blocks.expandIf_parts (lent_endsOnMarker lexer _) passes runs with
  | @mk inner close last _ header opening closing body added _ opened reads branches closed =>
    have moved := closed.passes.moved
    rw [moved] at closed ⊢
    exact .mk opened (lent_readsBody reads) (branches.chain lent_readsBody) closed

-- The construct is the branches that the text offers, and what comes after it is read from right
-- behind its last brace.
theorem branches_chosen {rest : List Char}
    (known : lexer.macros.get? (String.ofList ifName) = some .ifBlock)
    (called : Called lexer.marker lexer.macros.contains ifName rest)
    (splits : start.rest = lexer.marker :: '.' :: ifName ++ rest)
    (result : (lexer.itemAt start memory).value = .ok tokens) :
    let passed := (lexer.itemAt start memory).length + 1
    let others := (lexer.itemAt start memory).memory
    lexer.ReadsIf start tokens (start.skip passed) ∧
    (lexer.readAll start memory).value =
      (lexer.readAll (start.skip passed) others).value.map (tokens ++ ·) ∧
    (lexer.readBody start memory).tokens =
      tokens ++ (lexer.readBody (start.skip passed) others).tokens := by
  have ahead : start.rest ≠ [] := by simp [splits]
  have opens : ¬ start.atBodyClose lexer.marker = true := by
    simp [Cursor.atBodyClose, Cursor.peekNth, splits]
  refine ⟨readsIf_of_item known called splits result, readAll_of_ok ahead result, ?_⟩
  rw [readBody_of_ok opens ahead result]

def branchesInProse : Source :=
  ⟨"page", "◊.if a \x7b◊A◊\x7d\nelse if b \x7b◊B◊\x7d else if not, ◊x else \x7b◊".toList⟩

-- Behind the second body stand the words of an `else if` whose header the next marker bars. They
-- are text again, and so is the `else` after that marker.
theorem branches_chosen_inProse :
    ∃ tokens rest, MacroTable.builtins.get? (String.ofList ifName) = some (.ifBlock : Macro Unit) ∧
      Called '◊' (MacroTable.builtins : MacroTable Unit).contains ifName rest ∧
      branchesInProse.text = '◊' :: '.' :: ifName ++ rest ∧
      (itemAt ⟨'◊', .builtins⟩ (.ofSource branchesInProse) ()).value = .ok tokens ∧
      tokens.map (·.text) = ["if a \x7b", "A", "\x7d\nelse if b \x7b", "B", "\x7d"] ∧
      (⟨'◊', .builtins⟩ : Lexer Unit).ReadsIf (.ofSource branchesInProse) tokens
        ((Cursor.ofSource branchesInProse).skip 28) ∧
      (readAll ⟨'◊', .builtins⟩ (.ofSource branchesInProse) ()).value =
        (readAll ⟨'◊', .builtins⟩ ((Cursor.ofSource branchesInProse).skip 28) ()).value.map
          (tokens ++ ·) := by
  have known : MacroTable.builtins.get? (String.ofList ifName) = some (.ifBlock : Macro Unit) := rfl
  have texts : (itemAt ⟨'◊', .builtins⟩ (.ofSource branchesInProse) ()).value.toOption.map
      (List.map (·.text)) = some ["if a \x7b", "A", "\x7d\nelse if b \x7b", "B", "\x7d"] := by
    decide +kernel
  have length : (itemAt ⟨'◊', .builtins⟩ (.ofSource branchesInProse) ()).length = 27 := by
    decide +kernel
  have called : Called '◊' (MacroTable.builtins : MacroTable Unit).contains ifName
      (branchesInProse.text.drop 4) := ⟨by decide, by decide +kernel, rfl⟩
  obtain ⟨tokens, result, shown⟩ := Outcome.ok_of_map texts
  obtain ⟨reads, further, _⟩ := branches_chosen known called rfl result
  rw [length] at reads further
  exact ⟨tokens, _, known, called, rfl, result, shown, reads, further⟩

end Lexer
end TemplateCompiler
