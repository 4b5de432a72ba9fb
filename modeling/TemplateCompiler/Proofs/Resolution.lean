import TemplateCompiler.Compiler
import TemplateCompiler.Proofs.Delivery
import TemplateCompiler.Proofs.Lexing

namespace TemplateCompiler

namespace MacroTable
variable {σ : Type}

def lastNamed (entries : List (Macro σ)) (name : String) : Option (Macro σ) :=
  entries.reverse.find? (·.name = name)

def Agree (table other : MacroTable σ) : Prop := ∀ name, table.get? name = other.get? name

theorem lastNamed_append (left right : List (Macro σ)) (name : String) :
    lastNamed (left ++ right) name = (lastNamed right name).or (lastNamed left name) := by
  rw [lastNamed, List.reverse_append, List.find?_append]
  rfl

theorem get?_register (table : MacroTable σ) (entry : Macro σ) (name : String) :
    (table.register entry).get? name = (lastNamed [entry] name).or (table.get? name) := by
  by_cases named : entry.name = name
  · simp [get?, register, lastNamed, named]
  · have others : (fun other : Macro σ => decide (decide (other.name ≠ entry.name) = true ∧
        decide (other.name = name) = true)) = fun other => decide (other.name = name) := by
      funext other
      by_cases same : other.name = name <;> simp [same, Ne.symm named]
    rw [get?, register, List.find?_cons_of_neg (by simpa using named), List.find?_filter, others]
    simp [lastNamed, named, get?]

theorem get?_registerAll (table : MacroTable σ) (entries : List (Macro σ)) (name : String) :
    (table.registerAll entries).get? name = (lastNamed entries name).or (table.get? name) := by
  induction entries generalizing table with
  | nil => rfl
  | cons entry rest ih =>
    have first := lastNamed_append [entry] rest name
    rw [List.singleton_append] at first
    rw [first, Option.or_assoc, ← get?_register]
    exact ih (table.register entry)

theorem get?_resolve (defaults overrides : List (Macro σ)) (name : String) :
    (resolve defaults overrides).get? name =
      (lastNamed overrides name).or ((lastNamed defaults name).or (builtins.get? name)) := by
  rw [resolve, get?_registerAll, get?_registerAll]

theorem get?_builtins (name : String) : (builtins : MacroTable σ).get? name =
    [Macro.forBlock, Macro.ifBlock].find? (·.name = name) := by
  by_cases isFor : "for" = name
  · subst isFor
    rfl
  by_cases isIf : "if" = name
  · subst isIf
    rfl
  · rw [builtins, get?_registerAll]
    simp [lastNamed, get?, empty, Macro.forBlock, Macro.ifBlock, isFor, isIf]

def SameLast (entries others : List (Macro σ)) : Prop :=
  ∀ name, lastNamed entries name = lastNamed others name

theorem agree_of_sameLast {defaults overrides otherDefaults otherOverrides : List (Macro σ)}
    (first : SameLast defaults otherDefaults) (second : SameLast overrides otherOverrides) :
    (resolve defaults overrides).Agree (resolve otherDefaults otherOverrides) := by
  intro name
  rw [get?_resolve, get?_resolve, first name, second name]

theorem sameLast_of_filter {entries others : List (Macro σ)}
    (kept : ∀ name, entries.filter (·.name = name) = others.filter (·.name = name)) :
    SameLast entries others := by
  intro name
  rw [lastNamed, lastNamed, ← List.head?_filter, ← List.head?_filter, List.filter_reverse,
    List.filter_reverse, kept name]

theorem sameLast_of_shadowed {left right : List (Macro σ)} {entry later : Macro σ}
    (behind : later ∈ right) (same : later.name = entry.name) :
    SameLast (left ++ entry :: right) (left ++ right) := by
  intro name
  have one := lastNamed_append [entry] right name
  rw [List.singleton_append] at one
  rw [lastNamed_append, lastNamed_append, one]
  by_cases named : entry.name = name
  · have present : (lastNamed right name).isSome := by
      rw [lastNamed, List.find?_isSome]
      exact ⟨later, List.mem_reverse.mpr behind, by simp [same, named]⟩
    obtain ⟨found, last⟩ := Option.isSome_iff_exists.mp present
    rw [last]
    rfl
  · have other : lastNamed [entry] name = none := by simp [lastNamed, named]
    rw [other, Option.or_none]

end MacroTable

namespace Lexer
variable {σ : Type} {marker : Char} {macros others : MacroTable σ}

theorem callItem_agree (agree : macros.Agree others) (start : Cursor) (name : List Char)
    (readBody : (cursor : Cursor) → cursor.rest.length ≤ (start.skip 1).rest.length → σ →
      BodyRun σ) (memory : σ) :
    (⟨marker, macros⟩ : Lexer σ).callItem start name readBody memory =
      (⟨marker, others⟩ : Lexer σ).callItem start name readBody memory := by
  unfold callItem
  rw [agree]

-- Of the items only calls ask for a macro.
theorem item_agree (agree : macros.Agree others) (start : Cursor)
    (readBody : (cursor : Cursor) → cursor.rest.length ≤ (start.skip 1).rest.length → σ →
      BodyRun σ) (memory : σ) :
    (⟨marker, macros⟩ : Lexer σ).item start readBody memory =
      (⟨marker, others⟩ : Lexer σ).item start readBody memory := by
  unfold item markedItem
  simp only [callItem_agree agree]

theorem itemAt_agree (agree : macros.Agree others) {cursor : Cursor} (ahead : cursor.rest ≠ [])
    (bodies : ∀ later : Cursor, later.rest.length < cursor.rest.length → ∀ memory : σ,
      (⟨marker, macros⟩ : Lexer σ).readBody later memory =
        (⟨marker, others⟩ : Lexer σ).readBody later memory) (memory : σ) :
    (⟨marker, macros⟩ : Lexer σ).itemAt cursor memory =
      (⟨marker, others⟩ : Lexer σ).itemAt cursor memory := by
  unfold itemAt
  rw [item_agree agree]
  apply congrArg (fun readBody => item ⟨marker, others⟩ cursor readBody memory)
  funext later within kept
  exact bodies later (Nat.lt_of_le_of_lt within (cursor.skip_shortens 0 ahead)) kept

theorem readBody_agree (agree : macros.Agree others) (cursor : Cursor) (memory : σ) :
    (⟨marker, macros⟩ : Lexer σ).readBody cursor memory =
      (⟨marker, others⟩ : Lexer σ).readBody cursor memory := by
  induction size : cursor.rest.length using Nat.strongRecOn generalizing cursor memory with
  | _ length ih =>
    subst size
    by_cases closes : cursor.atBodyClose marker = true
    · rw [Lexer.readBody, Lexer.readBody, if_pos closes, if_pos closes]
    by_cases ends : cursor.rest = []
    · rw [Lexer.readBody, Lexer.readBody, if_neg closes, if_neg closes, dif_pos ends, dif_pos ends]
    rw [readBody_step closes ends, readBody_step closes ends,
      itemAt_agree agree ends fun later shorter kept => ih _ shorter later kept rfl]
    dsimp only
    rw [ih _ (cursor.skip_shortens _ ends) _ _ rfl]

theorem readAll_agree (agree : macros.Agree others) (cursor : Cursor) (memory : σ) :
    (⟨marker, macros⟩ : Lexer σ).readAll cursor memory =
      (⟨marker, others⟩ : Lexer σ).readAll cursor memory := by
  induction size : cursor.rest.length using Nat.strongRecOn generalizing cursor memory with
  | _ length ih =>
    subst size
    by_cases ends : cursor.rest = []
    · rw [readAll, readAll, dif_pos ends, dif_pos ends]
    rw [readAll_step ends, readAll_step ends,
      itemAt_agree agree ends fun later _ kept => readBody_agree agree later kept]
    dsimp only
    rw [ih _ (cursor.skip_shortens _ ends) _ _ rfl]

end Lexer

namespace Handler
variable {σ τ : Type} {macros others : MacroTable σ}

def bringing (handler : Handler σ τ) (entries : List (Macro σ)) : Handler σ τ :=
  { handler with macros := entries }

theorem answer_agree (agree : macros.Agree others) (source : Source) (token : Token)
    (rest : List Token) : answer macros source token rest = answer others source token rest := by
  unfold answer
  rw [agree]

theorem walk_agree (agree : macros.Agree others) (handler : Handler σ τ)
    (entries : List (Macro σ)) (source : Source) (state : τ) (tokens : List Token) :
    (handler.bringing entries).walk macros source state tokens =
      handler.walk others source state tokens := by
  induction size : tokens.length using Nat.strongRecOn generalizing tokens state with
  | _ length ih =>
    subst size
    cases tokens with
    | nil => rw [walk, walk]
    | cons token rest =>
      rw [walk, walk, answer_agree agree]
      cases (answer others source token rest).used with
      | error error => rfl
      | ok used =>
        have shorter : (rest.drop used).length < (token :: rest).length := by
          rw [List.length_drop, List.length_cons]
          omega
        exact ih _ shorter _ _ rfl

theorem parse_agree (agree : macros.Agree others) (handler : Handler σ τ)
    (entries : List (Macro σ)) (source : Source) (tokens : List Token) (state : τ) :
    (handler.bringing entries).parse macros source tokens state =
      handler.parse others source tokens state := by
  rw [parse, parse, walk_agree agree]
  rfl

end Handler

namespace Compiler
variable {σ τ : Type}

theorem compile_agree {defaults overrides otherDefaults otherOverrides : List (Macro σ)}
    (agree : (MacroTable.resolve defaults overrides).Agree
      (MacroTable.resolve otherDefaults otherOverrides)) (handler : Handler σ τ) (config : Config)
    (formatter : Option (String → Except TemplateError String)) (source : Source) (memory : σ)
    (state : τ) :
    compile ⟨config, overrides, formatter⟩ (handler.bringing defaults) source memory state =
      compile ⟨config, otherOverrides, formatter⟩ (handler.bringing otherDefaults) source memory
        state := by
  have reparsed tokens state :=
    (Handler.parse_agree agree handler defaults source tokens state).trans
      (Handler.parse_agree (fun _ => rfl) handler otherDefaults source tokens state).symm
  unfold compile Lexer.tokenize
  dsimp only [Handler.bringing] at reparsed ⊢
  rw [Lexer.readAll_agree agree]
  simp only [reparsed]
  rfl

end Compiler

-- What the lists of a handler and a caller count for: the last entry of each name, and with it the
-- whole compilation, its calls to the handler included.
structure LastWins (σ : Type) : Prop where
  resolved : ∀ (defaults overrides : List (Macro σ)) (name : String),
    (MacroTable.resolve defaults overrides).get? name =
      (MacroTable.lastNamed overrides name).or ((MacroTable.lastNamed defaults name).or
        ([Macro.forBlock, Macro.ifBlock].find? (·.name = name)))
  compiled : ∀ defaults overrides otherDefaults otherOverrides : List (Macro σ),
    (MacroTable.resolve defaults overrides).Agree
        (MacroTable.resolve otherDefaults otherOverrides) →
      ∀ (τ : Type) (handler : Handler σ τ) marker trim formatter source memory state,
        let left : Compiler σ := ⟨⟨marker, trim⟩, overrides, formatter⟩
        let right : Compiler σ := ⟨⟨marker, trim⟩, otherOverrides, formatter⟩
        left.compile (handler.bringing defaults) source memory state =
            right.compile (handler.bringing otherDefaults) source memory state ∧
          left.compile (handler.bringing defaults).logged source memory ([], state) =
            right.compile (handler.bringing otherDefaults).logged source memory ([], state)
  lists : ∀ defaults overrides otherDefaults otherOverrides : List (Macro σ),
    MacroTable.SameLast defaults otherDefaults → MacroTable.SameLast overrides otherOverrides →
      (MacroTable.resolve defaults overrides).Agree
        (MacroTable.resolve otherDefaults otherOverrides)
  permuted : ∀ entries others : List (Macro σ),
    (∀ name, entries.filter (·.name = name) = others.filter (·.name = name)) →
      MacroTable.SameLast entries others
  shadowed : ∀ (left right : List (Macro σ)) (entry later : Macro σ), later ∈ right →
    later.name = entry.name → MacroTable.SameLast (left ++ entry :: right) (left ++ right)

theorem resolve_last_wins (σ : Type) : LastWins σ where
  resolved defaults overrides name := by
    rw [MacroTable.get?_resolve, MacroTable.get?_builtins]
  compiled _ _ _ _ agree _ handler marker trim formatter source memory state :=
    ⟨Compiler.compile_agree agree handler ⟨marker, trim⟩ formatter source memory state,
      Compiler.compile_agree agree handler.logged ⟨marker, trim⟩ formatter source memory _⟩
  lists _ _ _ _ := MacroTable.agree_of_sameLast
  permuted _ _ := MacroTable.sameLast_of_filter
  shadowed _ _ _ _ := MacroTable.sameLast_of_shadowed

end TemplateCompiler
