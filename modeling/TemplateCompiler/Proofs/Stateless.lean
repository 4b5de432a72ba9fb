import TemplateCompiler.Proofs.BlockAnswers
import TemplateCompiler.Proofs.Lexing

namespace TemplateCompiler

-- Outcomes that differ in nothing but what the macros remember.
structure Outcome.Alike {σ α : Type} (left right : Outcome σ α) : Prop where
  value : left.value = right.value
  length : left.length = right.length

structure BodyRun.Alike {σ : Type} (left right : BodyRun σ) : Prop where
  tokens : left.tokens = right.tokens
  stop : left.stop = right.stop
  length : left.length = right.length

structure Surroundings.Alike {σ : Type} {bound : Nat} (around other : Surroundings σ bound) :
    Prop where
  marker : around.marker = other.marker
  bodies : ∀ cursor within memory later,
    (around.readBody cursor within memory).Alike (other.readBody cursor within later)

def Scan.Stateless {σ α : Type} (scan : Scan σ α) : Prop :=
  ∀ (bound : Nat) (around other : Surroundings σ bound), around.Alike other →
    ∀ cursor within memory later,
      (scan bound around cursor within memory).Alike (scan bound other cursor within later)

-- The parse hook of a macro has no memory to use.
def Macro.Stateless {σ : Type} (entry : Macro σ) : Prop := ∀ call, (entry.expand call).Stateless

def MacroTable.Stateless {σ : Type} (table : MacroTable σ) : Prop :=
  ∀ entry ∈ table.macros, entry.Stateless

namespace Outcome.Alike
variable {σ α : Type}

theorem cases {left right : Outcome σ α} (alike : left.Alike right) :
    (∃ fault length memory later,
      left = ⟨.error fault, length, memory⟩ ∧ right = ⟨.error fault, length, later⟩) ∨
    ∃ value length memory later,
      left = ⟨.ok value, length, memory⟩ ∧ right = ⟨.ok value, length, later⟩ := by
  obtain ⟨value, length, memory⟩ := left
  obtain ⟨other, more, later⟩ := right
  obtain ⟨rfl, rfl⟩ := alike
  cases value with
  | error fault => exact .inl ⟨fault, length, memory, later, rfl, rfl⟩
  | ok value => exact .inr ⟨value, length, memory, later, rfl, rfl⟩

theorem after_skip {left right : Outcome σ α} (alike : left.Alike right) (count : Nat) :
    (⟨left.value, count + left.length, left.memory⟩ : Outcome σ α).Alike
      ⟨right.value, count + right.length, right.memory⟩ :=
  ⟨alike.value, congrArg (count + ·) alike.length⟩

end Outcome.Alike

namespace Scan
variable {σ α β : Type}

theorem stateless_pure (value : α) : (pure value : Scan σ α).Stateless :=
  fun _ _ _ _ _ _ _ _ => ⟨rfl, rfl⟩

theorem stateless_marker : (marker : Scan σ Char).Stateless :=
  fun _ _ _ alike _ _ _ _ => ⟨congrArg Except.ok alike.marker, rfl⟩

theorem stateless_cursor : (cursor : Scan σ Cursor).Stateless :=
  fun _ _ _ _ _ _ _ _ => ⟨rfl, rfl⟩

theorem stateless_read (reading : Cursor → Read α) : (read reading : Scan σ α).Stateless :=
  fun _ _ _ _ _ _ _ _ => ⟨rfl, rfl⟩

theorem stateless_readOrFail (reading : Cursor → Except Fault (Read α)) :
    (readOrFail reading : Scan σ α).Stateless := by
  intro bound around other alike cursor within memory later
  unfold readOrFail
  cases reading cursor <;> exact ⟨rfl, rfl⟩

theorem stateless_tokenFrom (start : Position) (kind : TokenKind) (text : String) :
    (tokenFrom start kind text : Scan σ Token).Stateless :=
  fun _ _ _ _ _ _ _ _ => ⟨rfl, rfl⟩

theorem stateless_readBody (openedAt : Nat) : (readBody openedAt : Scan σ (List Token)).Stateless := by
  intro bound around other alike cursor within memory later
  obtain ⟨tokens, stop, length⟩ := alike.bodies cursor within memory later
  have settles : (around.readBody cursor within memory).settle cursor around.marker openedAt =
      (other.readBody cursor within later).settle cursor other.marker openedAt := by
    rw [BodyRun.settle, BodyRun.settle, stop, length, alike.marker]
  simp only [readBody, settles]
  cases (other.readBody cursor within later).settle cursor other.marker openedAt with
  | error fault => exact ⟨rfl, length⟩
  | ok => exact ⟨congrArg Except.ok tokens, length⟩

theorem Stateless.bind {first : Scan σ α} {next : α → Scan σ β} (one : first.Stateless)
    (two : ∀ value, (next value).Stateless) : (first >>= next).Stateless := by
  intro bound around other alike cursor within memory later
  rcases (one bound around other alike cursor within memory later).cases with
    ⟨fault, length, left, right, failed, fails⟩ | ⟨value, length, left, right, found, finds⟩
  · rw [andThen_eq failed, andThen_eq fails]
    exact ⟨rfl, rfl⟩
  · rw [andThen_eq found, andThen_eq finds]
    exact (two value bound around other alike _ _ left right).after_skip length

theorem Stateless.rounds {round : α → Scan σ (Option α)}
    (each : ∀ state, (round state).Stateless) (state : α) : (rounds round state).Stateless := by
  intro bound around other alike cursor within memory later
  unfold Scan.rounds
  induction size : cursor.rest.length using Nat.strongRecOn
    generalizing cursor state memory later with
  | _ length ih =>
    subst size
    rw [roundsFrom, roundsFrom]
    rcases (each state bound around other alike cursor within memory later).cases with
      ⟨fault, length, left, right, failed, fails⟩ | ⟨answer, length, left, right, found, finds⟩
    · simp only [failed, fails]
      exact ⟨rfl, rfl⟩
    · simp only [found, finds]
      cases answer with
      | none => exact ⟨rfl, rfl⟩
      | some next =>
        by_cases shorter : (cursor.skip length).rest.length < cursor.rest.length
        · simp only [dif_pos shorter]
          exact (ih _ shorter next _ _ left right rfl).after_skip length
        · simp only [dif_neg shorter]
          exact ⟨rfl, rfl⟩

end Scan

namespace Blocks
open Scan
variable {σ : Type}

theorem stateless_openBlock (start : Position) (lead : String) :
    (openBlock start lead : Scan σ Token).Stateless :=
  stateless_marker.bind fun _ => (stateless_readOrFail _).bind fun _ => stateless_tokenFrom _ _ _

theorem stateless_readBranch (openedAt : Nat) :
    (readBranch openedAt : Scan σ (List Token × Position)).Stateless :=
  (stateless_readBody openedAt).bind fun _ => stateless_cursor.bind fun _ =>
    (stateless_read _).bind fun _ => stateless_pure _

theorem stateless_closeBlock (start : Position) : (closeBlock start : Scan σ Token).Stateless :=
  (stateless_read _).bind fun _ => stateless_tokenFrom _ _ _

theorem stateless_elseIfBranch (openedAt : Nat) (sofar : List Token × Position) :
    (elseIfBranch openedAt sofar : Scan σ (Option (List Token × Position))).Stateless := by
  refine stateless_marker.bind fun marker => (stateless_read _).bind fun found => ?_
  cases found with
  | none => exact stateless_pure _
  | some opening =>
    exact (stateless_tokenFrom _ _ _).bind fun _ => (stateless_readBranch openedAt).bind fun _ =>
      stateless_pure _

theorem stateless_elseBranch (openedAt : Nat) (sofar : List Token × Position) :
    (elseBranch openedAt sofar : Scan σ (List Token × Position)).Stateless := by
  refine stateless_marker.bind fun marker => (stateless_read _).bind fun found => ?_
  split
  · exact (stateless_tokenFrom _ _ _).bind fun _ => (stateless_readBranch openedAt).bind fun _ =>
      stateless_pure _
  · exact stateless_pure _

theorem stateless_expandFor (call : Slice) : (expandFor call : Scan σ (List Token)).Stateless :=
  (stateless_openBlock _ _).bind fun _ => (stateless_readBranch _).bind fun _ =>
    (stateless_closeBlock _).bind fun _ => stateless_pure _

theorem stateless_expandIf (call : Slice) : (expandIf call : Scan σ (List Token)).Stateless :=
  (stateless_openBlock _ _).bind fun _ => (stateless_readBranch _).bind fun _ =>
    (Stateless.rounds (stateless_elseIfBranch _) _).bind fun _ =>
      (stateless_elseBranch _ _).bind fun _ => (stateless_closeBlock _).bind fun _ =>
        stateless_pure _

end Blocks

namespace MacroTable
variable {σ : Type}

theorem stateless_builtins : (builtins : MacroTable σ).Stateless := by
  intro entry member
  rcases blocksOnly_builtins entry member with rfl | rfl
  · exact Blocks.stateless_expandFor
  · exact Blocks.stateless_expandIf

theorem Stateless.registerAll {table : MacroTable σ} (stateless : table.Stateless)
    {entries : List (Macro σ)} (others : ∀ entry ∈ entries, entry.Stateless) :
    (table.registerAll entries).Stateless := by
  induction entries generalizing table with
  | nil => exact stateless
  | cons entry rest ih =>
    obtain ⟨first, others⟩ := List.forall_mem_cons.mp others
    refine ih (List.forall_mem_cons.mpr ⟨first, ?_⟩) others
    exact fun kept member => stateless kept (List.mem_filter.mp member).1

theorem stateless_resolve {defaults overrides : List (Macro σ)}
    (first : ∀ entry ∈ defaults, entry.Stateless) (second : ∀ entry ∈ overrides, entry.Stateless) :
    (resolve defaults overrides).Stateless :=
  (stateless_builtins.registerAll first).registerAll second

end MacroTable

namespace Lexer
variable {σ : Type} {lexer : Lexer σ} {start : Cursor}
  {readBody other : (cursor : Cursor) → cursor.rest.length ≤ (start.skip 1).rest.length → σ →
    BodyRun σ}

theorem callItem_alike (stateless : lexer.macros.Stateless) (name : List Char)
    (alike : Surroundings.Alike ⟨lexer.marker, readBody⟩ ⟨lexer.marker, other⟩) (memory later : σ) :
    (lexer.callItem start name readBody memory).Alike (lexer.callItem start name other later) := by
  unfold callItem
  dsimp only
  split
  · exact ⟨rfl, rfl⟩
  · rename_i found same
    have known := stateless found (List.mem_of_find?_eq_some same)
    exact (known _ _ _ _ alike _ _ memory later).after_skip _

theorem item_alike (stateless : lexer.macros.Stateless)
    (alike : Surroundings.Alike ⟨lexer.marker, readBody⟩ ⟨lexer.marker, other⟩) (memory later : σ)
    (ahead : start.rest ≠ []) :
    (lexer.item start readBody memory).Alike (lexer.item start other later) := by
  have head := head_of_text lexer.marker lexer.macros.contains ahead
  generalize splits : start.rest = text at head
  cases head with
  | plain plain =>
    rw [item_of_plain plain splits, item_of_plain plain splits]
    exact ⟨rfl, rfl⟩
  | call called =>
    rw [item_of_call called splits, item_of_call called splits]
    exact callItem_alike stateless _ alike memory later
  | unclosed unclosed =>
    subst splits
    rw [item_of_unclosed unclosed, item_of_unclosed unclosed]
    exact ⟨rfl, rfl⟩

-- Bodies at any depth, by induction on the text that is left.
theorem readBody_alike (stateless : lexer.macros.Stateless) (cursor : Cursor) (memory later : σ) :
    (lexer.readBody cursor memory).Alike (lexer.readBody cursor later) := by
  induction size : cursor.rest.length using Nat.strongRecOn generalizing cursor memory later with
  | _ length ih =>
    subst size
    by_cases closes : cursor.atBodyClose lexer.marker = true
    · rw [Lexer.readBody, Lexer.readBody, if_pos closes, if_pos closes]
      exact ⟨rfl, rfl, rfl⟩
    by_cases ends : cursor.rest = []
    · rw [Lexer.readBody, Lexer.readBody, if_neg closes, if_neg closes, dif_pos ends, dif_pos ends]
      exact ⟨rfl, rfl, rfl⟩
    have bodies : (lexer.bodies (cursor.skip 1).rest.length).Alike (lexer.bodies _) :=
      ⟨rfl, fun inner within _ _ =>
        ih _ (Nat.lt_of_le_of_lt within (cursor.skip_shortens 0 ends)) inner _ _ rfl⟩
    have items := item_alike stateless bodies memory later ends
    rw [Lexer.readBody, Lexer.readBody, if_neg closes, if_neg closes, dif_neg ends, dif_neg ends]
    rcases items.cases with
      ⟨fault, length, left, right, failed, fails⟩ | ⟨tokens, length, left, right, found, finds⟩
    · simp only [failed, fails]
      exact ⟨rfl, rfl, rfl⟩
    · obtain ⟨same, stop, further⟩ := ih _ (cursor.skip_shortens length ends) _ left right rfl
      simp only [found, finds]
      exact ⟨congrArg (tokens ++ ·) same, stop, congrArg (length + 1 + ·) further⟩

theorem bodies_alike (stateless : lexer.macros.Stateless) (bound : Nat) :
    (lexer.bodies bound).Alike (lexer.bodies bound) :=
  ⟨rfl, fun cursor _ memory later => readBody_alike stateless cursor memory later⟩

theorem readAll_alike (stateless : lexer.macros.Stateless) (cursor : Cursor) (memory later : σ) :
    (lexer.readAll cursor memory).Alike (lexer.readAll cursor later) := by
  induction size : cursor.rest.length using Nat.strongRecOn generalizing cursor memory later with
  | _ length ih =>
    subst size
    by_cases ends : cursor.rest = []
    · rw [readAll, readAll, dif_pos ends, dif_pos ends]
      exact ⟨rfl, rfl⟩
    have items := item_alike stateless (bodies_alike stateless _) memory later ends
    rw [readAll, readAll, dif_neg ends, dif_neg ends]
    rcases items.cases with
      ⟨fault, length, left, right, failed, fails⟩ | ⟨tokens, length, left, right, found, finds⟩
    · simp only [failed, fails]
      exact ⟨rfl, rfl⟩
    · obtain ⟨same, further⟩ := ih _ (cursor.skip_shortens length ends) _ left right rfl
      simp only [found, finds]
      exact ⟨congrArg (Except.map (tokens ++ ·)) same, congrArg (length + 1 + ·) further⟩

theorem tokenize_alike (stateless : lexer.macros.Stateless) (source : Source) (memory later : σ) :
    (lexer.tokenize source memory).Alike (lexer.tokenize source later) :=
  readAll_alike stateless _ memory later

end Lexer
end TemplateCompiler
