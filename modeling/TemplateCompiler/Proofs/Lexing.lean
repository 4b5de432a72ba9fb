import TemplateCompiler.Proofs.BlockMacros

namespace TemplateCompiler
open Text Code

namespace MacroTable
variable {σ : Type}

def BlocksOnly (table : MacroTable σ) : Prop :=
  ∀ entry ∈ table.macros, entry = .forBlock ∨ entry = .ifBlock

theorem blocksOnly_builtins : BlocksOnly (builtins : MacroTable σ) := by
  intro entry member
  simpa [builtins, registerAll, register, empty, Macro.forBlock, Macro.ifBlock, or_comm] using member

theorem BlocksOnly.of_get? {table : MacroTable σ} (blocks : table.BlocksOnly) {name : String}
    {entry : Macro σ} (found : table.get? name = some entry) :
    (name = String.ofList forName ∧ entry = .forBlock) ∨
      (name = String.ofList ifName ∧ entry = .ifBlock) := by
  have named : entry.name = name := by simpa using List.find?_some found
  rcases blocks entry (List.mem_of_find?_eq_some found) with rfl | rfl
  · exact .inl ⟨named.symm, rfl⟩
  · exact .inr ⟨named.symm, rfl⟩

end MacroTable

theorem Outcome.ok_of_map {σ α β : Type} {outcome : Outcome σ α} {read : α → β} {shown : β}
    (known : outcome.value.toOption.map read = some shown) :
    ∃ answer, outcome.value = .ok answer ∧ read answer = shown := by
  cases same : outcome.value with
  | error fault => simp [same, Except.toOption] at known
  | ok answer =>
    rw [same] at known
    exact ⟨answer, rfl, Option.some.inj known⟩

namespace Lexer
variable {σ : Type} {lexer : Lexer σ} {start cursor : Cursor} {memory : σ} {tokens : List Token}
  {readBody : (cursor : Cursor) → cursor.rest.length ≤ (start.skip 1).rest.length → σ → BodyRun σ}

def Takes (lexer : Lexer σ) (start : Cursor) (tokens : List Token) (later : Cursor) : Prop :=
  ∃ fragments, Lexes lexer.marker lexer.macros.contains .item start.rest fragments later.rest ∧
    start.Covers fragments tokens later

theorem callItem_runs {name : List Char} {entry : Macro σ}
    (found : lexer.macros.get? (String.ofList name) = some entry)
    (result : (lexer.callItem start name readBody memory).value = .ok tokens) :
    Scan.Runs ⟨lexer.marker, readBody⟩
      (entry.expand (start.spanTo (start.skip (name.length + 2)) name))
      (start.skip (name.length + 2)) tokens
      (start.skip ((lexer.callItem start name readBody memory).length + 1)) := by
  unfold callItem at result ⊢
  simp only at result ⊢
  split at result
  · rename_i absent
    cases absent.symm.trans found
  · rename_i other same
    cases same.symm.trans found
    refine ⟨_, memory, result, ?_⟩
    rw [Cursor.skip_skip, Nat.add_right_comm]

theorem callItem_takes (blocks : lexer.macros.BlocksOnly) {name rest : List Char}
    (follows : Surroundings.FollowsGrammar ⟨lexer.marker, readBody⟩ lexer.macros.contains)
    (called : Called lexer.marker lexer.macros.contains name rest)
    (splits : start.rest = lexer.marker :: '.' :: name ++ rest)
    (result : (lexer.callItem start name readBody memory).value = .ok tokens) :
    lexer.Takes start tokens
      (start.skip ((lexer.callItem start name readBody memory).length + 1)) := by
  obtain ⟨entry, found⟩ := Option.isSome_iff_exists.mp called.known
  obtain ⟨passes, ahead⟩ : start.Passes (lexer.marker :: '.' :: name)
      (start.skip (name.length + 2)) ∧ (start.skip (name.length + 2)).rest = rest :=
    Cursor.passes_to splits rfl
  rw [← ahead] at called
  have runs := callItem_runs found result
  rcases blocks.of_get? found with ⟨same, rfl⟩ | ⟨same, rfl⟩
  · obtain rfl := String.ofList_injective same
    exact Blocks.expandFor_runs follows called passes runs
  · obtain rfl := String.ofList_injective same
    exact Blocks.expandIf_runs follows called passes runs

-- One step of the lexer: an item that does not fail is an item of the grammar.
theorem item_takes (blocks : lexer.macros.BlocksOnly)
    (follows : Surroundings.FollowsGrammar ⟨lexer.marker, readBody⟩ lexer.macros.contains)
    (ahead : start.rest ≠ [])
    (result : (lexer.item start readBody memory).value = .ok tokens) :
    lexer.Takes start tokens (start.skip ((lexer.item start readBody memory).length + 1)) := by
  have head := head_of_text lexer.marker lexer.macros.contains ahead
  generalize splits : start.rest = text at head
  cases head with
  | @plain fragment rest plain =>
    have covered := List.length_pos_iff.mpr plain.nonempty
    obtain ⟨passes, past⟩ : start.Passes fragment.covered
        (start.skip (fragment.covered.length - 1 + 1)) ∧ _ = rest :=
      Cursor.passes_to splits (by rw [Nat.sub_add_cancel covered])
    rw [item_of_plain plain splits] at result ⊢
    cases result
    refine ⟨[fragment], ?_, .one passes⟩
    rw [splits, fragmentItem, past]
    exact .plain plain
  | call called =>
    rw [item_of_call called splits] at result ⊢
    exact callItem_takes blocks follows called splits result
  | unclosed unclosed =>
    rw [item_of_unclosed (splits ▸ unclosed)] at result
    cases result

def itemAt (lexer : Lexer σ) (cursor : Cursor) (memory : σ) : Item σ :=
  lexer.item cursor (fun later _ memory => lexer.readBody later memory) memory

theorem readAll_step (ahead : cursor.rest ≠ []) :
    lexer.readAll cursor memory =
      let first := lexer.itemAt cursor memory
      match first.value with
      | .error fault => ⟨.error fault, first.length + 1, first.memory⟩
      | .ok tokens =>
        let others := lexer.readAll (cursor.skip (first.length + 1)) first.memory
        ⟨others.value.map (tokens ++ ·), first.length + 1 + others.length, others.memory⟩ := by
  rw [readAll, dif_neg ahead]
  rfl

theorem readBody_step (opens : ¬ cursor.atBodyClose lexer.marker = true)
    (ahead : cursor.rest ≠ []) :
    lexer.readBody cursor memory =
      let first := lexer.itemAt cursor memory
      match first.value with
      | .error fault => ⟨[], .failed fault, first.length + 1, first.memory⟩
      | .ok tokens =>
        let others := lexer.readBody (cursor.skip (first.length + 1)) first.memory
        ⟨tokens ++ others.tokens, others.stop, first.length + 1 + others.length,
          others.memory⟩ := by
  rw [readBody, if_neg opens, dif_neg ahead]
  rfl

theorem readAll_of_error {fault : Fault} (ahead : cursor.rest ≠ [])
    (failed : (lexer.itemAt cursor memory).value = .error fault) :
    (lexer.readAll cursor memory).value = .error fault := by
  rw [readAll_step ahead]
  simp only [failed]

theorem readAll_of_ok (ahead : cursor.rest ≠ [])
    (found : (lexer.itemAt cursor memory).value = .ok tokens) :
    (lexer.readAll cursor memory).value =
      (lexer.readAll (cursor.skip ((lexer.itemAt cursor memory).length + 1))
        (lexer.itemAt cursor memory).memory).value.map (tokens ++ ·) := by
  rw [readAll_step ahead]
  simp only [found]

theorem readBody_of_error {fault : Fault} (opens : ¬ cursor.atBodyClose lexer.marker = true)
    (ahead : cursor.rest ≠ []) (failed : (lexer.itemAt cursor memory).value = .error fault) :
    (lexer.readBody cursor memory).stop = .failed fault := by
  rw [readBody_step opens ahead]
  simp only [failed]

theorem readBody_of_ok (opens : ¬ cursor.atBodyClose lexer.marker = true)
    (ahead : cursor.rest ≠ []) (found : (lexer.itemAt cursor memory).value = .ok tokens) :
    lexer.readBody cursor memory =
      let passed := (lexer.itemAt cursor memory).length + 1
      let others := lexer.readBody (cursor.skip passed) (lexer.itemAt cursor memory).memory
      ⟨tokens ++ others.tokens, others.stop, passed + others.length, others.memory⟩ := by
  rw [readBody_step opens ahead]
  simp only [found]

theorem atBodyClose_iff {marker : Char} :
    cursor.atBodyClose marker = true ↔ [marker, '}'] <+: cursor.rest := by
  obtain ⟨name, passed, rest, position⟩ := cursor
  match rest with
  | [] => simp [Cursor.atBodyClose, Cursor.peek]
  | [c] => simp [Cursor.atBodyClose, Cursor.peek, Cursor.peekNth]
  | c :: d :: others =>
    simpa [Cursor.atBodyClose, Cursor.peek, Cursor.peekNth] using and_congr eq_comm eq_comm

theorem readBody_ends (cursor : Cursor) (memory : σ)
    (closed : (lexer.readBody cursor memory).stop = .closed) :
    [lexer.marker, '}'] <+: (cursor.skip (lexer.readBody cursor memory).length).rest := by
  induction size : cursor.rest.length using Nat.strongRecOn generalizing cursor memory with
  | _ length ih =>
    subst size
    by_cases stops : cursor.atBodyClose lexer.marker = true
    · rw [readBody, if_pos stops, Cursor.skip_zero]
      exact atBodyClose_iff.mp stops
    by_cases ahead : cursor.rest = []
    · rw [readBody, if_neg stops, dif_pos ahead] at closed
      cases closed
    cases result : (lexer.itemAt cursor memory).value with
    | error fault =>
      rw [readBody_of_error stops ahead result] at closed
      cases closed
    | ok tokens =>
      rw [readBody_of_ok stops ahead result] at closed ⊢
      have further := ih _ (cursor.skip_shortens _ ahead) _ _ closed rfl
      rwa [Cursor.skip_skip] at further

-- Bodies of the lexer, by induction on the text that is left.
theorem readBody_follows (blocks : lexer.macros.BlocksOnly) (cursor : Cursor) (memory : σ)
    (closed : (lexer.readBody cursor memory).stop = .closed) :
    ∃ fragments close, close = cursor.skip (lexer.readBody cursor memory).length ∧
      [lexer.marker, '}'] <+: close.rest ∧
      Lexes lexer.marker lexer.macros.contains (.items true) cursor.rest fragments close.rest ∧
      cursor.Covers fragments (lexer.readBody cursor memory).tokens close := by
  induction size : cursor.rest.length using Nat.strongRecOn generalizing cursor memory with
  | _ length ih =>
    subst size
    rw [readBody] at closed ⊢
    split at closed
    · rename_i stops
      rw [if_pos stops]
      exact ⟨[], cursor, cursor.skip_zero.symm, atBodyClose_iff.mp stops, .done, .nil cursor⟩
    rename_i opens
    rw [if_neg opens]
    split at closed
    · cases closed
    rename_i ahead
    rw [dif_neg ahead]
    have follows : (⟨lexer.marker, fun later _ memory => lexer.readBody later memory⟩ :
        Surroundings σ (cursor.skip 1).rest.length).FollowsGrammar lexer.macros.contains :=
      fun later within memory closed =>
        ih _ (Nat.lt_of_le_of_lt within (cursor.skip_shortens 0 ahead)) later memory closed rfl
    dsimp only at closed ⊢
    split at closed
    · cases closed
    rename_i tokens result
    obtain ⟨one, first, covers⟩ := item_takes blocks follows ahead result
    obtain ⟨others, close, rfl, stops, lexes, covered⟩ :=
      ih _ (cursor.skip_shortens _ ahead) _ _ closed rfl
    exact ⟨one ++ others, _, Cursor.skip_skip _ _ _, stops,
      .more (fun _ => mt atBodyClose_iff.mpr opens) first lexes, covers.append covered⟩

theorem readAll_follows (blocks : lexer.macros.BlocksOnly)
    (result : (lexer.readAll cursor memory).value = .ok tokens) :
    ∃ fragments later, later.rest = [] ∧
      Lexes lexer.marker lexer.macros.contains (.items false) cursor.rest fragments later.rest ∧
      cursor.Covers fragments tokens later := by
  induction size : cursor.rest.length using Nat.strongRecOn generalizing cursor memory tokens with
  | _ length ih =>
    subst size
    rw [readAll] at result
    split at result
    · rename_i stops
      cases result
      exact ⟨[], cursor, stops, .done, .nil cursor⟩
    rename_i ahead
    dsimp only at result
    split at result
    · cases result
    rename_i items read
    obtain ⟨one, first, covers⟩ := item_takes blocks
      (fun later _ memory => readBody_follows blocks later memory) ahead read
    unfold Except.map at result
    split at result
    · cases result
    · rename_i added rest
      cases result
      obtain ⟨others, last, stops, lexes, covered⟩ :=
        ih _ (cursor.skip_shortens _ ahead) rest rfl
      exact ⟨one ++ others, last, stops, .more (by simp) first lexes, covers.append covered⟩

theorem tokenize_follows {source : Source} (blocks : lexer.macros.BlocksOnly)
    (result : (lexer.tokenize source memory).value = .ok tokens) :
    ∃ fragments,
      Lexes lexer.marker lexer.macros.contains (.items false) source.text fragments [] ∧
      tokens = Fragment.lay source.name .start fragments := by
  obtain ⟨fragments, later, stops, lexes, covers⟩ := readAll_follows blocks result
  exact ⟨fragments, stops ▸ lexes, covers.laid⟩

end Lexer
end TemplateCompiler
