import TemplateCompiler.Proofs.LimitedScans
import TemplateCompiler.Proofs.TokenVector

namespace TemplateCompiler
open Text Code

-- What a run answers where its fuel is spent, or where a check of it fails.
structure Spent (σ : Type) where
  branches : List Token × Position → Scan σ (List Token × Position)
  body : Writing σ → BodyStop × Writing σ
  text : Writing σ → Except Fault Unit × Writing σ

namespace Lexer
variable {σ : Type}

def limited (spent : Spent σ) (marker : Char) (fuel : Nat) : Lexer σ :=
  ⟨marker, MacroTable.empty.registerAll
    [.forBlock, ⟨"if", Blocks.expandIfWithin spent.branches fuel, Macro.ignoreToken⟩]⟩

-- Items up to a closing marker. `above` is the offset of the call that has them read.
def itemsWithin (spent : Spent σ) (marker : Char) : Nat → Nat → Writing σ → BodyStop × Writing σ
  | 0, _, writing => spent.body writing
  | fuel + 1, above, writing =>
    if writing.cursor.atBodyClose marker then (.closed, writing)
    else if writing.cursor.offset ≤ above then spent.body writing
    else
      let written := (limited spent marker fuel).writeItem writing fun cursor _ memory =>
        let (stop, last) :=
          itemsWithin spent marker fuel writing.cursor.offset ⟨cursor, 0, memory, []⟩
        last.body stop
      match written with
      | (.error fault, later) => (.failed fault, later)
      | (.ok false, later) => (.ended, later)
      | (.ok true, later) =>
        if writing.cursor.offset < later.cursor.offset then
          itemsWithin spent marker fuel above later
        else spent.body later

def nextWithin (spent : Spent σ) (marker : Char) (fuel : Nat) (writing : Writing σ) :
    Except Fault Bool × Writing σ :=
  (limited spent marker fuel).writeItem writing fun cursor _ memory =>
    let (stop, last) := itemsWithin spent marker fuel writing.cursor.offset ⟨cursor, 0, memory, []⟩
    last.body stop

def collect (run : Except Fault Unit × Writing σ) : Except Fault (List Token) :=
  run.1.map fun _ => run.2.out

def textWithin (spent : Spent σ) (marker : Char) :
    Nat → Writing σ → Except Fault Unit × Writing σ
  | 0, writing => spent.text writing
  | fuel + 1, writing =>
    match nextWithin spent marker fuel writing with
    | (.error fault, later) => (.error fault, later)
    | (.ok false, later) => (.ok (), later)
    | (.ok true, later) =>
      if writing.cursor.offset < later.cursor.offset then textWithin spent marker fuel later
      else spent.text later

def tokenizeWithin (spent : Spent σ) (marker : Char) (fuel : Nat) (source : Source) (memory : σ) :
    Except Fault (List Token) :=
  collect (textWithin spent marker fuel ⟨.ofSource source, 0, memory, []⟩)

end Lexer

namespace Cursor

def obeyWithin {State : Type} (spent : State → Cursor → Option String × Cursor)
    (rule : State → Option Char → Verdict State) : Nat → State → Cursor → Option String × Cursor
  | 0, state, cursor => spent state cursor
  | fuel + 1, state, cursor =>
    match rule state cursor.peek with
    | .stop => (none, cursor)
    | .refuse message => (some message, cursor)
    | .take next =>
      let step := cursor.advance
      let later := cursor.after step
      if step.value = none then (none, cursor)
      else if cursor.offset < later.offset then obeyWithin spent rule fuel next later
      else spent next later

def tryReadWithin {State : Type} (spent : State → Cursor → Option String × Cursor)
    (rule : State → Option Char → Verdict State) (fuel : Nat) (cursor : Cursor) (state : State) :
    Except ScanFailure (Read Slice) :=
  match obeyWithin spent rule fuel state cursor with
  | (none, later) => .ok (cursor.take (cursor.rest.length - later.rest.length))
  | (some message, later) => .error ⟨later.position, message⟩

end Cursor

namespace Lexer
variable {σ : Type} {source : Source} {spent : Spent σ} {marker : Char} {fuel : Nat}
  {writing : Writing σ}

-- Both tables have the same names, and what stands under them comes to the same.
theorem get?_limited (spent : Spent σ) (marker : Char) (fuel : Nat) (name : String) :
    ((limited spent marker fuel).macros.get? name = none ∧
      (MacroTable.builtins : MacroTable σ).get? name = none) ∨
    ∃ entry other, (limited spent marker fuel).macros.get? name = some entry ∧
      (MacroTable.builtins : MacroTable σ).get? name = some other ∧
      ∀ {source : Source} {cursor : Cursor}, Cursor.Canonical source cursor → cursor.left < fuel →
        ∀ call, Scan.SameAt cursor (entry.expand call) (other.expand call) := by
  by_cases isFor : name = "for"
  · subst isFor
    exact .inr ⟨_, _, rfl, rfl, fun _ _ call => Blocks.sameAt_expandFor call⟩
  by_cases isIf : name = "if"
  · subst isIf
    exact .inr ⟨_, _, rfl, rfl, fun canonical short call =>
      Blocks.sameAt_expandIf canonical spent.branches short call⟩
  · left
    have otherFor : ¬ "for" = name := fun same => isFor same.symm
    have otherIf : ¬ "if" = name := fun same => isIf same.symm
    constructor <;>
      simp [limited, MacroTable.builtins, MacroTable.get?, MacroTable.registerAll,
        MacroTable.register, MacroTable.empty, Macro.forBlock, Macro.ifBlock, otherFor, otherIf]

theorem writeCall_limited {start : Cursor} {later : Writing σ} {name : List Char} {bound : Nat}
    {within : later.cursor.rest.length ≤ bound}
    {readBody other : (cursor : Cursor) → cursor.rest.length ≤ bound → σ → BodyRun σ}
    (canonical : Cursor.Canonical source later.cursor) (short : later.cursor.left < fuel)
    (bodies : ∀ count place, place = later.cursor.skip count → ∀ within memory,
      readBody place within memory = other place within memory) :
    (limited spent marker fuel).writeCall start name later bound within readBody =
      (⟨marker, .builtins⟩ : Lexer σ).writeCall start name later bound within other := by
  unfold writeCall
  rcases get?_limited spent marker fuel (String.ofList name) with
    ⟨absent, unknown⟩ | ⟨entry, beside, found, known, same⟩
  · rw [absent, unknown]
  · rw [found, known]
    exact congrArg (later.after ())
      (same canonical short _ bound ⟨marker, readBody⟩ ⟨marker, other⟩ ⟨rfl, bodies⟩ within _)

theorem writeMarked_limited (canonical : Cursor.Canonical source writing.cursor)
    (short : writing.cursor.left ≤ fuel) (ahead : writing.cursor.rest ≠ [])
    {readBody other : (cursor : Cursor) →
      cursor.rest.length ≤ (writing.cursor.skip 1).rest.length → σ → BodyRun σ}
    (bodies : ∀ count place, 0 < count → place = writing.cursor.skip count → ∀ within memory,
      readBody place within memory = other place within memory) :
    (limited spent marker fuel).writeMarked writing readBody =
      (⟨marker, .builtins⟩ : Lexer σ).writeMarked writing other := by
  obtain ⟨text, behind⟩ : ∃ text, (writing.pass 1).cursor.rest = text := ⟨_, rfl⟩
  unfold writeMarked
  cases text with
  | nil =>
    simp only [behind]
    rfl
  | cons c rest =>
    simp only [behind]
    -- Of the constructs at a marker only a call has bodies read.
    refine ite_congr rfl (fun _ => rfl) fun _ => ?_
    refine ite_congr rfl (fun _ => rfl) fun _ => ?_
    refine ite_congr rfl (fun _ => rfl) fun _ => ?_
    refine ite_congr rfl (fun _ => rfl) fun _ => ?_
    refine ite_congr rfl (fun _ => ?_) fun _ => rfl
    cases identifier? ((writing.pass 1).pass 1).cursor.rest with
    | none => rfl
    | some name =>
      have place : (((writing.pass 1).pass 1).pass name.length).cursor =
          writing.cursor.skip (name.length + 2) := by
        have count : 1 + (1 + name.length) = name.length + 2 := by omega
        rw [Writing.pass_pass, Writing.pass_pass, count]
        rfl
      have moved : writing.cursor.offset < (writing.cursor.skip (name.length + 2)).offset :=
        Cursor.offset_lt_skip ahead (by omega)
      have total := writing.cursor.left_skip (name.length + 2)
      apply writeCall_limited (place ▸ canonical.skip _) (by rw [place]; omega)
      intro count later same
      rw [place, Cursor.skip_skip] at same
      exact bodies _ later (by omega) same

theorem writeItem_limited (canonical : Cursor.Canonical source writing.cursor)
    (short : writing.cursor.left ≤ fuel)
    {readBody other : (cursor : Cursor) → cursor.rest.length < writing.cursor.rest.length → σ →
      BodyRun σ}
    (bodies : ∀ count place, 0 < count → place = writing.cursor.skip count →
      ∀ shorter memory, readBody place shorter memory = other place shorter memory) :
    (limited spent marker fuel).writeItem writing readBody =
      (⟨marker, .builtins⟩ : Lexer σ).writeItem writing other := by
  unfold writeItem
  by_cases ended : writing.cursor.rest = []
  · rw [dif_pos ended, dif_pos ended]
  · rw [dif_neg ended, dif_neg ended]
    refine ite_congr rfl (fun _ => ?_) fun _ => rfl
    rw [writeMarked_limited canonical short ended
      (fun count place moves same _ => bodies count place moves same _)]

theorem nextTokens_advances {lexer : Lexer σ} {later : Writing σ}
    (done : lexer.nextTokens writing = (.ok true, later)) :
    writing.cursor.offset < later.cursor.offset := by
  obtain ⟨_, _, moved, _, ahead⟩ := nextTokens_ok done
  rw [moved]
  exact Cursor.offset_lt_skip ahead (Nat.succ_pos _)

theorem nextWithin_of_items (canonical : Cursor.Canonical source writing.cursor)
    (short : writing.cursor.left ≤ fuel)
    (items : ∀ {inside : Writing σ}, Cursor.Canonical source inside.cursor →
      inside.cursor.left < fuel → writing.cursor.offset < inside.cursor.offset →
      itemsWithin spent marker fuel writing.cursor.offset inside =
        (⟨marker, .builtins⟩ : Lexer σ).writeItems inside) :
    nextWithin spent marker fuel writing =
      (⟨marker, .builtins⟩ : Lexer σ).nextTokens writing := by
  apply writeItem_limited canonical short
  rintro count place moves rfl shorter memory
  have ahead := List.ne_nil_of_length_pos (Nat.zero_lt_of_lt shorter)
  have moved := Cursor.offset_lt_skip ahead moves
  have total := writing.cursor.left_skip count
  dsimp only
  rw [items (canonical.skip count) (by dsimp only; omega) moved]

-- By induction on the fuel: an item and the bodies in it have the fuel that is left below them.
theorem itemsWithin_eq {above : Nat} (canonical : Cursor.Canonical source writing.cursor)
    (short : writing.cursor.left < fuel) (beyond : above < writing.cursor.offset) :
    itemsWithin spent marker fuel above writing =
      (⟨marker, .builtins⟩ : Lexer σ).writeItems writing := by
  induction fuel generalizing above writing with
  | zero => omega
  | succ fuel ih =>
    by_cases closes : writing.cursor.atBodyClose marker = true
    · rw [itemsWithin, if_pos closes, writeItems, if_pos closes]
    have item : nextWithin spent marker fuel writing =
        (⟨marker, .builtins⟩ : Lexer σ).nextTokens writing :=
      nextWithin_of_items canonical (by omega) ih
    unfold nextWithin at item
    rw [itemsWithin, if_neg closes, if_neg (by omega), writeItems_step _ closes]
    dsimp only at item ⊢
    rw [item]
    rcases answer : (⟨marker, .builtins⟩ : Lexer σ).nextTokens writing with ⟨fault | more, later⟩
    · rfl
    cases more with
    | false => rfl
    | true =>
      have advances := nextTokens_advances answer
      obtain ⟨_, _, moved, _, _⟩ := nextTokens_ok answer
      have total := writing.cursor.left_skip
        (((⟨marker, .builtins⟩ : Lexer σ).itemAt writing.cursor writing.memory).length + 1)
      rw [← moved] at total
      dsimp only
      rw [if_pos advances]
      exact ih (moved ▸ canonical.skip _) (by omega) (by omega)

theorem nextWithin_eq (canonical : Cursor.Canonical source writing.cursor)
    (short : writing.cursor.left ≤ fuel) :
    nextWithin spent marker fuel writing =
      (⟨marker, .builtins⟩ : Lexer σ).nextTokens writing :=
  nextWithin_of_items canonical short itemsWithin_eq

theorem textWithin_eq (canonical : Cursor.Canonical source writing.cursor)
    (short : writing.cursor.left < fuel) :
    collect (textWithin spent marker fuel writing) =
      ((⟨marker, .builtins⟩ : Lexer σ).readAll writing.cursor writing.memory).value.map
        (writing.out ++ ·) := by
  induction fuel generalizing writing with
  | zero => omega
  | succ fuel ih =>
    rw [textWithin, nextWithin_eq canonical (by omega), nextTokens_eq]
    by_cases ended : writing.cursor.rest = []
    · rw [written_at_end ended, readAll, dif_pos ended]
      simp [collect, Except.map]
    rw [written_of_item ended]
    generalize first : (⟨marker, .builtins⟩ : Lexer σ).itemAt writing.cursor writing.memory = item
    obtain ⟨value, length, memory⟩ := item
    cases value with
    | error fault =>
      rw [readAll_of_error ended (congrArg Outcome.value first)]
      rfl
    | ok tokens =>
      have advances : writing.cursor.offset < (writing.cursor.skip (length + 1)).offset :=
        Cursor.offset_lt_skip ended (Nat.succ_pos length)
      have total := writing.cursor.left_skip (length + 1)
      have others := @ih ⟨writing.cursor.skip (length + 1), writing.passed + (length + 1), memory,
        writing.out ++ tokens⟩ (canonical.skip _) (by dsimp only; omega)
      rw [readAll_of_ok ended (congrArg Outcome.value first), first]
      refine (congrArg collect (if_pos advances)).trans (others.trans ?_)
      cases ((⟨marker, .builtins⟩ : Lexer σ).readAll (writing.cursor.skip (length + 1))
        memory).value with
      | error fault => rfl
      | ok more => exact congrArg Except.ok (List.append_assoc writing.out tokens more)

theorem tokenizeWithin_eq {memory : σ} (enough : source.bytes < fuel) :
    tokenizeWithin spent marker fuel source memory =
      ((⟨marker, .builtins⟩ : Lexer σ).tokenize source memory).value := by
  rw [tokenizeWithin, textWithin_eq (Cursor.canonical_ofSource source) enough]
  exact congrFun Except.map_id _

end Lexer

namespace Cursor

theorem obey_le {State : Type} (rule : State → Option Char → Verdict State) (state : State)
    (text : List Char) : (obey rule state text).1 ≤ text.length := by
  induction text generalizing state with
  | nil =>
    rw [obey]
    cases rule state none <;> exact Nat.le_refl _
  | cons c rest ih =>
    rw [obey]
    cases rule state (some c) with
    | take next => exact Nat.succ_le_succ (ih next)
    | stop | refuse => exact Nat.zero_le _

theorem obeyWithin_eq {State : Type} {spent : State → Cursor → Option String × Cursor}
    (rule : State → Option Char → Verdict State) (state : State) {cursor : Cursor} {fuel : Nat}
    (short : cursor.left < fuel) :
    obeyWithin spent rule fuel state cursor =
      ((obey rule state cursor.rest).2, cursor.skip (obey rule state cursor.rest).1) := by
  induction fuel generalizing state cursor with
  | zero => omega
  | succ fuel ih =>
    cases ahead : cursor.rest with
    | nil =>
      have peeked : cursor.peek = none := by simp [peek, ahead]
      rw [obeyWithin, obey, peeked]
      cases rule state none <;> simp [advance, peeked]
    | cons c rest =>
      have peeked : cursor.peek = some c := by simp [peek, ahead]
      have advances : cursor.offset < (cursor.skip 1).offset :=
        offset_lt_skip (by simp [ahead]) Nat.one_pos
      have total := cursor.left_skip 1
      rw [obeyWithin, obey, peeked]
      cases rule state (some c) with
      | stop => simp
      | refuse message => simp
      | take next =>
        have others := @ih next (cursor.skip 1) (by omega)
        have later : (cursor.skip 1).rest = rest := by simp [ahead]
        rw [later, skip_skip, Nat.add_comm 1] at others
        simp only [advance, peeked, after, reduceCtorEq, if_false, if_pos advances, others]

theorem tryReadWithin_eq {State : Type} {spent : State → Cursor → Option String × Cursor}
    (rule : State → Option Char → Verdict State) (state : State) {cursor : Cursor} {fuel : Nat}
    (short : cursor.left < fuel) :
    tryReadWithin spent rule fuel cursor state = cursor.tryReadWhile rule state := by
  have fits := obey_le rule state cursor.rest
  rw [tryReadWithin, obeyWithin_eq rule state short, tryReadWhile]
  generalize obey rule state cursor.rest = run at fits ⊢
  obtain ⟨taken, _ | message⟩ := run
  · have length : cursor.rest.length - (cursor.skip taken).rest.length = taken := by
      rw [rest_skip, List.length_drop]
      exact Nat.sub_sub_self fits
    simp only [length]
  · rfl

end Cursor

namespace Fragment

theorem length_lay (name : String) (start : Position) (fragments : List Fragment) :
    (lay name start fragments).length = fragments.length := by
  induction fragments generalizing start with
  | nil => rfl
  | cons one others ih => rw [lay, List.length_cons, List.length_cons, ih]

theorem length_le_source {fragments : List Fragment}
    (nonempty : ∀ fragment ∈ fragments, fragment.covered ≠ []) :
    fragments.length ≤ (source fragments).length := by
  induction fragments with
  | nil => exact Nat.le_refl _
  | cons one others ih =>
    have taken := List.length_pos_iff.mpr (nonempty one List.mem_cons_self)
    have fewer := ih fun fragment member => nonempty fragment (List.mem_cons_of_mem _ member)
    rw [source_cons, List.length_append, List.length_cons]
    omega

end Fragment

namespace Lexer
variable {σ : Type}

theorem length_tokens_le {marker : Char} {source : Source} {memory : σ} {tokens : List Token}
    (found : ((⟨marker, .builtins⟩ : Lexer σ).tokenize source memory).value = .ok tokens) :
    tokens.length ≤ source.text.length := by
  obtain ⟨fragments, lexes, rfl⟩ := tokenize_follows MacroTable.blocksOnly_builtins found
  rw [Fragment.length_lay, lexes.covers_whole]
  exact Fragment.length_le_source lexes.nonempty

theorem writeItem_inside {marker : Char} {source : Source} {writing : Writing σ}
    (canonical : Cursor.Canonical source writing.cursor)
    {readBody other : (cursor : Cursor) → cursor.rest.length < writing.cursor.rest.length → σ →
      BodyRun σ}
    (bodies : ∀ cursor shorter memory, Cursor.Canonical source cursor →
      writing.cursor.offset < cursor.offset →
        readBody cursor shorter memory = other cursor shorter memory) :
    (⟨marker, .builtins⟩ : Lexer σ).writeItem writing readBody =
      (⟨marker, .builtins⟩ : Lexer σ).writeItem writing other := by
  have spent : Spent σ := ⟨pure, (.ended, ·), (.ok (), ·)⟩
  have same : (limited spent marker writing.cursor.left).writeItem writing other =
      (⟨marker, .builtins⟩ : Lexer σ).writeItem writing other :=
    writeItem_limited canonical (Nat.le_refl _) fun _ _ _ _ _ _ => rfl
  rw [← same]
  symm
  apply writeItem_limited canonical (Nat.le_refl _)
  rintro count place moves rfl shorter memory
  have ahead := List.ne_nil_of_length_pos (Nat.zero_lt_of_lt shorter)
  exact (bodies _ shorter memory (canonical.skip count) (Cursor.offset_lt_skip ahead moves)).symm

-- What makes the lexer end. One item, or one more branch of an `if`, leaves the cursor further on
-- (`next`, `branch`), and an item depends on nothing but the bodies that begin behind its own place
-- (`inner`). So each loop, each body inside a body and the whole reading are what they are with as
-- much fuel as there are bytes left (`item`, `body`, `rule`, `whole`), and a text has at least as
-- many runes as tokens (`few`).
structure Terminates (σ : Type) (marker : Char) (source : Source) : Prop where
  next : ∀ (writing later : Writing σ), Cursor.Canonical source writing.cursor →
    (⟨marker, .builtins⟩ : Lexer σ).nextTokens writing = (.ok true, later) →
      writing.cursor.offset < later.cursor.offset
  inner : ∀ (writing : Writing σ), Cursor.Canonical source writing.cursor →
    ∀ (readBody other : (cursor : Cursor) → cursor.rest.length < writing.cursor.rest.length → σ →
      BodyRun σ),
      (∀ cursor shorter memory, Cursor.Canonical source cursor →
        writing.cursor.offset < cursor.offset →
          readBody cursor shorter memory = other cursor shorter memory) →
      (⟨marker, .builtins⟩ : Lexer σ).writeItem writing readBody =
        (⟨marker, .builtins⟩ : Lexer σ).writeItem writing other
  branch : ∀ openedAt sofar bound (around : Surroundings σ bound) cursor within memory next,
    Cursor.Canonical source cursor →
      let run := Blocks.elseIfRound openedAt sofar bound around cursor within memory
      run.value = .ok (some next) → cursor.offset < (cursor.skip run.length).offset
  item : ∀ spent fuel (writing : Writing σ), Cursor.Canonical source writing.cursor →
    writing.cursor.left ≤ fuel →
      nextWithin spent marker fuel writing =
        (⟨marker, .builtins⟩ : Lexer σ).nextTokens writing
  body : ∀ spent fuel above (writing : Writing σ), Cursor.Canonical source writing.cursor →
    writing.cursor.left < fuel → above < writing.cursor.offset →
      itemsWithin spent marker fuel above writing =
        (⟨marker, .builtins⟩ : Lexer σ).writeItems writing
  rule : ∀ (State : Type) spent (rule : State → Option Char → Verdict State) fuel state cursor,
    Cursor.left cursor < fuel →
      cursor.tryReadWithin spent rule fuel state = cursor.tryReadWhile rule state
  whole : ∀ spent fuel (memory : σ), source.bytes < fuel →
    tokenizeWithin spent marker fuel source memory =
      ((⟨marker, .builtins⟩ : Lexer σ).tokenize source memory).value
  few : ∀ (memory : σ) tokens,
    ((⟨marker, .builtins⟩ : Lexer σ).tokenize source memory).value = .ok tokens →
      tokens.length ≤ source.text.length

theorem lexing_terminates (σ : Type) (marker : Char) (source : Source) :
    Terminates σ marker source where
  next _ _ _ done := nextTokens_advances done
  inner _ canonical _ _ bodies := writeItem_inside canonical bodies
  branch _ _ _ _ _ _ _ _ canonical := Blocks.elseIfRound_advances canonical
  item _ _ _ canonical short := nextWithin_eq canonical short
  body _ _ _ _ canonical short beyond := itemsWithin_eq canonical short beyond
  rule _ _ rule _ state _ short := Cursor.tryReadWithin_eq rule state short
  whole _ _ _ enough := tokenizeWithin_eq enough
  few _ _ := length_tokens_le

-- Fuel for two items ends a reading of three before its last one.
example : tokenizeWithin ⟨pure, (.ended, ·), (.ok (), ·)⟩ '@' 2 ⟨"t", "a b".toList⟩ () =
    .ok [.plain .content ⟨"t", "a", ⟨0, 1, 1⟩, ⟨1, 1, 2⟩⟩,
      .plain .whitespace ⟨"t", " ", ⟨1, 1, 2⟩, ⟨2, 1, 3⟩⟩] := by rfl

end Lexer
end TemplateCompiler
