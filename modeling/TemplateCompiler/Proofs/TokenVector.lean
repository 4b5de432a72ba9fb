import TemplateCompiler.Proofs.Lexing

namespace TemplateCompiler
open Text Code

-- Where a lexer stands and what it has written; `passed` counts the runes that were taken.
structure Writing (σ : Type) where
  cursor : Cursor
  passed : Nat
  memory : σ
  out : List Token

namespace Writing
variable {σ : Type}

def pass (writing : Writing σ) (count : Nat) : Writing σ :=
  { writing with cursor := writing.cursor.skip count, passed := writing.passed + count }

def extend (writing : Writing σ) (tokens : List Token) : Writing σ :=
  { writing with out := writing.out ++ tokens }

def push (writing : Writing σ) (start : Cursor) (kind : TokenKind) (text : List Char) :
    Writing σ :=
  writing.extend [.plain kind (start.spanTo writing.cursor text)]

def read (writing : Writing σ) (kind : TokenKind) (run : Read Slice) : Writing σ :=
  (writing.pass run.length).extend [.plain kind run.value]

-- What a reader of items reports of a body that was written to an empty vector.
def body (stop : BodyStop) (writing : Writing σ) : BodyRun σ :=
  ⟨writing.out, stop, writing.passed, writing.memory⟩

-- The place behind an item, with its tokens and an answer, unless it failed.
def after {α : Type} (writing : Writing σ) (answer : α) (item : Outcome σ (List Token)) :
    Except Fault α × Writing σ :=
  let later := { writing.pass item.length with memory := item.memory }
  match item.value with
  | .ok tokens => (.ok answer, later.extend tokens)
  | .error fault => (.error fault, later)

def behind (writing : Writing σ) (run : BodyRun σ) : Writing σ :=
  { writing.pass run.length with memory := run.memory }.extend run.tokens

theorem pass_pass (writing : Writing σ) (first second : Nat) :
    (writing.pass first).pass second = writing.pass (first + second) := by
  simp only [pass, Cursor.skip_skip, Nat.add_assoc]

theorem after_pass {α : Type} (writing : Writing σ) (count : Nat) (answer : α)
    (item : Outcome σ (List Token)) :
    (writing.pass count).after answer item =
      writing.after answer { item with length := count + item.length } := by
  simp only [after, pass_pass]

end Writing

namespace Lexer
variable {σ : Type}

def writeBalanced (start : Cursor) (kind : TokenKind) (opening closing : Char) (keep : Bool)
    (writing : Writing σ) : Except Fault Unit × Writing σ :=
  match writing.cursor.readBalanced opening closing keep with
  | .error fault => (.error fault, writing)
  | .ok code => (.ok (), (writing.pass code.length).push start kind code.value)

-- The macro has the text behind the name; its tokens are added when it has answered them all.
def writeCall (lexer : Lexer σ) (start : Cursor) (name : List Char) (writing : Writing σ)
    (bound : Nat) (within : writing.cursor.rest.length ≤ bound)
    (readBody : (cursor : Cursor) → cursor.rest.length ≤ bound → σ → BodyRun σ) :
    Except Fault Unit × Writing σ :=
  match lexer.macros.get? (String.ofList name) with
  | none => (.ok (), writing.push start .content (start.rest.take (name.length + 2)))
  | some found =>
    let outcome := found.expand (start.spanTo writing.cursor name) bound ⟨lexer.marker, readBody⟩
      writing.cursor within writing.memory
    writing.after () outcome

-- The marker is passed first. A dot with no name behind it is given back.
def writeMarked (lexer : Lexer σ) (writing : Writing σ)
    (readBody : (cursor : Cursor) → cursor.rest.length ≤ (writing.cursor.skip 1).rest.length →
      σ → BodyRun σ) : Except Fault Unit × Writing σ :=
  let start := writing.cursor
  let behind := writing.pass 1
  match behind.cursor.rest with
  | [] => (.ok (), behind.push start .content [lexer.marker])
  | c :: rest =>
    if c = lexer.marker then (.ok (), (behind.pass 1).push start .content [lexer.marker])
    else if c = '{' then writeBalanced start .localBlock '{' '}' false behind
    else if c = '^' ∧ rest.head? = some '{' then
      writeBalanced start .globalBlock '{' '}' false (behind.pass 1)
    else if c = '(' then writeBalanced start .expression '(' ')' true behind
    else if c = '.' then
      match identifier? (behind.pass 1).cursor.rest with
      | some name =>
        lexer.writeCall start name ((behind.pass 1).pass name.length) _
          (Cursor.skip_within (Cursor.skip_within (Nat.le_refl _) 1) name.length) readBody
      | none => (.ok (), behind.push start .content [lexer.marker])
    else
      match identifier? behind.cursor.rest with
      | some name => (.ok (), (behind.pass name.length).push start .expression name)
      | none => (.ok (), behind.push start .content [lexer.marker])

def writeRun (marker : Char) (writing : Writing σ) : Writing σ :=
  if writing.cursor.peek.any isPadding then
    writing.read .whitespace (writing.cursor.readWhile isPadding)
  else if writing.cursor.peek = some '\n' then writing.read .newline (writing.cursor.take 1)
  else writing.read .content (writing.cursor.readTextRun marker)

def writeItem (lexer : Lexer σ) (writing : Writing σ)
    (readBody : (cursor : Cursor) → cursor.rest.length < writing.cursor.rest.length → σ →
      BodyRun σ) : Except Fault Bool × Writing σ :=
  if ahead : writing.cursor.rest = [] then (.ok false, writing)
  else if writing.cursor.peek = some lexer.marker then
    match lexer.writeMarked writing fun cursor within memory =>
        readBody cursor (Nat.lt_of_le_of_lt within (writing.cursor.skip_shortens 0 ahead)) memory
    with
    | (.error fault, later) => (.error fault, later)
    | (.ok (), later) => (.ok true, later)
  else (.ok true, writeRun lexer.marker writing)

def writeItems (lexer : Lexer σ) (writing : Writing σ) : BodyStop × Writing σ :=
  if writing.cursor.atBodyClose lexer.marker then (.closed, writing)
  else
    let written := lexer.writeItem writing fun cursor _shorter memory =>
      let (stop, last) := lexer.writeItems ⟨cursor, 0, memory, []⟩
      last.body stop
    match written with
    | (.error fault, later) => (.failed fault, later)
    | (.ok false, later) => (.ended, later)
    | (.ok true, later) =>
      if _shorter : later.cursor.rest.length < writing.cursor.rest.length then
        lexer.writeItems later
      else (.ended, later)
termination_by writing.cursor.rest.length

def nextTokens (lexer : Lexer σ) (writing : Writing σ) : Except Fault Bool × Writing σ :=
  lexer.writeItem writing fun cursor _ memory =>
    let (stop, last) := lexer.writeItems ⟨cursor, 0, memory, []⟩
    last.body stop

def unterminated (lexer : Lexer σ) (openedAt : Nat) (cursor : Cursor) : Fault :=
  match cursor.errorAt openedAt .unterminatedBody
      s!"missing `{lexer.marker}\x7d` to close the block" with
  | .ok error => .error error
  | .error misuse => .misuse misuse

def writeBody (lexer : Lexer σ) (openedAt : Nat) (writing : Writing σ) :
    Except Fault Unit × Writing σ :=
  match lexer.writeItems writing with
  | (.closed, last) => (.ok (), last)
  | (.failed fault, last) => (.error fault, last)
  | (.ended, last) => (.error (lexer.unterminated openedAt last.cursor), last)

-- An item counts its runes from the second one on.
def Item.whole (item : Item σ) : Outcome σ (List Token) := { item with length := item.length + 1 }

section Writers
variable {lexer : Lexer σ} {writing later : Writing σ} {start : Cursor}

theorem writeBalanced_eq {ahead : Nat} {kind : TokenKind} {opening closing : Char} {keep : Bool}
    (place : later = writing.pass (ahead + 1)) :
    writeBalanced writing.cursor kind opening closing keep later =
      writing.after () (balancedItem writing.cursor ahead kind opening closing keep
        writing.memory).whole := by
  subst place
  unfold writeBalanced balancedItem
  have same : (writing.pass (ahead + 1)).cursor = writing.cursor.skip (ahead + 1) := rfl
  rw [same]
  cases (writing.cursor.skip (ahead + 1)).readBalanced opening closing keep with
  | error fault => rfl
  | ok code =>
    have long : ahead + 1 + code.length = ahead + code.length + 1 := by omega
    simp only [Writing.pass_pass, long]
    rfl

theorem writeCall_eq {name : List Char}
    {readBody : (cursor : Cursor) → cursor.rest.length ≤ (writing.cursor.skip 1).rest.length → σ →
      BodyRun σ}
    (place : later = writing.pass (name.length + 2))
    (within : later.cursor.rest.length ≤ (writing.cursor.skip 1).rest.length) :
    lexer.writeCall writing.cursor name later _ within readBody =
      writing.after () (lexer.callItem writing.cursor name readBody writing.memory).whole := by
  subst place
  unfold writeCall callItem
  cases lexer.macros.get? (String.ofList name) with
  | none => rfl
  | some found =>
    have long (count : Nat) : name.length + 2 + count = name.length + 1 + count + 1 := by omega
    simp only [Writing.after_pass, long]
    rfl

theorem writeMarked_eq
    (readBody : (cursor : Cursor) → cursor.rest.length ≤ (writing.cursor.skip 1).rest.length → σ →
      BodyRun σ) :
    lexer.writeMarked writing readBody =
      writing.after () (lexer.markedItem writing.cursor readBody writing.memory
        (writing.cursor.skip 1).rest).whole := by
  have two := writing.pass_pass 1 1
  unfold writeMarked markedItem
  cases ahead : (writing.cursor.skip 1).rest with
  | nil =>
    have behind : (writing.pass 1).cursor.rest = [] := ahead
    simp only [behind]
    rfl
  | cons c rest =>
    have behind : (writing.pass 1).cursor.rest = c :: rest := ahead
    have further : ((writing.pass 1).pass 1).cursor.rest = rest := congrArg (List.drop 1) behind
    simp only [behind, further]
    by_cases escaped : c = lexer.marker
    · rw [if_pos escaped, if_pos escaped, two]
      rfl
    rw [if_neg escaped, if_neg escaped]
    by_cases brace : c = '{'
    · rw [if_pos brace, if_pos brace]
      exact writeBalanced_eq rfl
    rw [if_neg brace, if_neg brace]
    by_cases caret : c = '^' ∧ rest.head? = some '{'
    · rw [if_pos caret, if_pos caret]
      exact writeBalanced_eq two
    rw [if_neg caret, if_neg caret]
    by_cases parenthesis : c = '('
    · rw [if_pos parenthesis, if_pos parenthesis]
      exact writeBalanced_eq rfl
    rw [if_neg parenthesis, if_neg parenthesis]
    by_cases dot : c = '.'
    · rw [if_pos dot, if_pos dot]
      cases identifier? rest with
      | none => rfl
      | some name =>
        apply writeCall_eq
        rw [two, Writing.pass_pass, Nat.add_comm]
    rw [if_neg dot, if_neg dot]
    cases identifier? (c :: rest) with
    | none => rfl
    | some name =>
      simp only [Writing.pass_pass, Nat.add_comm 1]
      rfl

def written (lexer : Lexer σ) (writing : Writing σ) : Except Fault Bool × Writing σ :=
  match lexer.next writing.cursor writing.memory with
  | none => (.ok false, writing)
  | some item => writing.after true item

def writtenBody (lexer : Lexer σ) (openedAt : Nat) (writing : Writing σ) :
    Except Fault Unit × Writing σ :=
  let run := lexer.readBody writing.cursor writing.memory
  (run.settle writing.cursor lexer.marker openedAt, writing.behind run)

theorem length_readWhile {cursor : Cursor} {set : Char → Bool} {c : Char} {rest : List Char}
    (ahead : cursor.rest = c :: rest) (first : set c = true) :
    (cursor.readWhile set).length - 1 + 1 = (cursor.readWhile set).length := by
  have taken : (cursor.readWhile set).length = (rest.takeWhile set).length + 1 := by
    simp [Cursor.readWhile, Cursor.take, ahead, first]
  rw [taken]
  rfl

theorem writeRun_eq {readBody : (cursor : Cursor) →
      cursor.rest.length ≤ (writing.cursor.skip 1).rest.length → σ → BodyRun σ}
    {c : Char} {rest : List Char} (ahead : writing.cursor.rest = c :: rest)
    (other : c ≠ lexer.marker) :
    (.ok true, writeRun lexer.marker writing) =
      writing.after true (lexer.item writing.cursor readBody writing.memory).whole := by
  have peeked : writing.cursor.peek = some c := by rw [Cursor.peek, ahead]; rfl
  rw [item_of_rune ahead other, writeRun, peeked]
  by_cases padding : isPadding c = true
  · simp only [Option.any_some, if_pos padding, Item.whole, single,
      length_readWhile ahead padding]
    rfl
  by_cases line : c = '\n'
  · subst line
    rfl
  · have textual : isTextRune lexer.marker c = true :=
      isTextRune_iff.mpr ⟨by simpa using padding, line, other⟩
    simp only [Option.any_some, if_neg padding, Option.some.injEq, if_neg line, Item.whole, single,
      length_readWhile ahead textual]
    rfl

theorem writeItem_eq {readBody : (cursor : Cursor) →
      cursor.rest.length < writing.cursor.rest.length → σ → BodyRun σ}
    (bodies : ∀ cursor shorter memory,
      readBody cursor shorter memory = lexer.readBody cursor memory) :
    lexer.writeItem writing readBody = lexer.written writing := by
  unfold writeItem written next
  split
  · rfl
  rename_i nonempty
  obtain ⟨c, rest, ahead⟩ := List.exists_cons_of_ne_nil nonempty
  have peeked : writing.cursor.peek = some c := by rw [Cursor.peek, ahead]; rfl
  simp only [bodies, peeked, Option.some.injEq]
  split
  · rename_i marked
    subst marked
    have behind : (writing.cursor.skip 1).rest = rest := congrArg (List.drop 1) ahead
    rw [writeMarked_eq, item_of_marker ahead, ← behind]
    unfold Writing.after Item.whole
    dsimp only
    cases (lexer.markedItem writing.cursor (fun later _ memory => lexer.readBody later memory)
      writing.memory (writing.cursor.skip 1).rest).value <;> rfl
  · rename_i marked
    exact writeRun_eq ahead marked

theorem written_at_end (ended : writing.cursor.rest = []) :
    lexer.written writing = (.ok false, writing) := by
  rw [written, next, if_pos ended]

theorem written_of_item (ahead : writing.cursor.rest ≠ []) :
    lexer.written writing =
      writing.after true (lexer.itemAt writing.cursor writing.memory).whole := by
  rw [written, next, if_neg ahead]
  rfl

theorem readBody_of_fault {cursor : Cursor} {memory : σ} {fault : Fault}
    (opens : ¬ cursor.atBodyClose lexer.marker = true) (ahead : cursor.rest ≠ [])
    (failed : (lexer.itemAt cursor memory).value = .error fault) :
    lexer.readBody cursor memory = ⟨[], .failed fault, (lexer.itemAt cursor memory).length + 1,
      (lexer.itemAt cursor memory).memory⟩ := by
  rw [readBody_step opens ahead]
  simp only [failed]

-- Bodies on a vector, by induction on the text that is left; those inside are shorter.
theorem writeItems_eq (lexer : Lexer σ) (writing : Writing σ) :
    lexer.writeItems writing =
      ((lexer.readBody writing.cursor writing.memory).stop,
        writing.behind (lexer.readBody writing.cursor writing.memory)) := by
  induction size : writing.cursor.rest.length using Nat.strongRecOn generalizing writing with
  | _ length ih =>
    subst size
    have bodies (cursor : Cursor) (shorter : cursor.rest.length < writing.cursor.rest.length)
        (memory : σ) : (lexer.writeItems ⟨cursor, 0, memory, []⟩).2.body
          (lexer.writeItems ⟨cursor, 0, memory, []⟩).1 = lexer.readBody cursor memory := by
      rw [ih _ shorter ⟨cursor, 0, memory, []⟩ rfl]
      simp [Writing.body, Writing.behind, Writing.extend, Writing.pass]
    rw [writeItems]
    by_cases closes : writing.cursor.atBodyClose lexer.marker = true
    · rw [if_pos closes, readBody, if_pos closes]
      simp [Writing.behind, Writing.extend, Writing.pass]
    rw [if_neg closes]
    dsimp only
    rw [writeItem_eq bodies]
    by_cases ahead : writing.cursor.rest = []
    · rw [written_at_end ahead, readBody, if_neg closes, dif_pos ahead]
      simp [Writing.behind, Writing.extend, Writing.pass]
    rw [written_of_item ahead]
    unfold Writing.after Item.whole
    dsimp only
    cases found : (lexer.itemAt writing.cursor writing.memory).value with
    | error fault =>
      rw [readBody_of_fault closes ahead found]
      simp [Writing.behind, Writing.extend, Writing.pass]
    | ok tokens =>
      have shorter := writing.cursor.skip_shortens
        (lexer.itemAt writing.cursor writing.memory).length ahead
      rw [readBody_of_ok closes ahead found]
      refine (dif_pos shorter).trans ?_
      rw [ih _ shorter _ rfl]
      simp [Writing.behind, Writing.extend, Writing.pass, Cursor.skip_skip, Nat.add_assoc]

theorem nextTokens_eq (lexer : Lexer σ) (writing : Writing σ) :
    lexer.nextTokens writing = lexer.written writing := by
  apply writeItem_eq
  intro cursor shorter memory
  rw [writeItems_eq]
  simp [Writing.body, Writing.behind, Writing.extend, Writing.pass]

theorem writeBody_eq (lexer : Lexer σ) (openedAt : Nat) (writing : Writing σ) :
    lexer.writeBody openedAt writing = lexer.writtenBody openedAt writing := by
  unfold writeBody writtenBody BodyRun.settle
  rw [writeItems_eq]
  dsimp only
  cases (lexer.readBody writing.cursor writing.memory).stop with
  | closed => rfl
  | failed fault => rfl
  | ended =>
    have place : (writing.behind (lexer.readBody writing.cursor writing.memory)).cursor =
        writing.cursor.skip (lexer.readBody writing.cursor writing.memory).length := rfl
    simp only [unterminated, place]
    cases (writing.cursor.skip (lexer.readBody writing.cursor writing.memory).length).errorAt
      openedAt .unterminatedBody s!"missing `{lexer.marker}\x7d` to close the block" <;> rfl

end Writers

def Invokes (lexer : Lexer σ) (cursor : Cursor) : Prop :=
  ∃ name rest, Called lexer.marker lexer.macros.contains name rest ∧
    cursor.rest = lexer.marker :: '.' :: name ++ rest

-- What one item does to a vector, whatever it holds: nothing if the item fails or there is none,
-- and else it grows, by one token unless a macro was called.
structure NextAppends (lexer : Lexer σ) (writing : Writing σ) : Prop where
  runs : lexer.nextTokens writing = lexer.written writing
  failed : ∀ fault later, lexer.nextTokens writing = (.error fault, later) →
    later.out = writing.out
  exhausted : ∀ later, lexer.nextTokens writing = (.ok false, later) →
    later = writing ∧ writing.cursor.rest = []
  grown : ∀ later, lexer.nextTokens writing = (.ok true, later) →
    ∃ tokens, later.out = writing.out ++ tokens
  single : ∀ later, lexer.nextTokens writing = (.ok true, later) →
    ¬ lexer.Invokes writing.cursor → ∃ token, later.out = writing.out ++ [token]

section Items
variable {lexer : Lexer σ} {writing later : Writing σ}

theorem nextTokens_cases (lexer : Lexer σ) (writing : Writing σ) :
    (writing.cursor.rest = [] ∧ lexer.nextTokens writing = (.ok false, writing)) ∨
      (∃ fault later, lexer.nextTokens writing = (.error fault, later) ∧
        later.out = writing.out) ∨
      ∃ tokens later, lexer.nextTokens writing = (.ok true, later) ∧
        (lexer.itemAt writing.cursor writing.memory).value = .ok tokens ∧
        later.cursor =
          writing.cursor.skip ((lexer.itemAt writing.cursor writing.memory).length + 1) ∧
        later.out = writing.out ++ tokens ∧ writing.cursor.rest ≠ [] := by
  rw [nextTokens_eq]
  by_cases ahead : writing.cursor.rest = []
  · exact .inl ⟨ahead, written_at_end ahead⟩
  rw [written_of_item ahead]
  unfold Writing.after Item.whole
  cases found : (lexer.itemAt writing.cursor writing.memory).value with
  | error fault => exact .inr (.inl ⟨fault, _, rfl, rfl⟩)
  | ok tokens =>
    exact .inr (.inr ⟨tokens, _, rfl, rfl, rfl, rfl, ahead⟩)

theorem nextTokens_ok (done : lexer.nextTokens writing = (.ok true, later)) :
    ∃ tokens, (lexer.itemAt writing.cursor writing.memory).value = .ok tokens ∧
      later.cursor =
        writing.cursor.skip ((lexer.itemAt writing.cursor writing.memory).length + 1) ∧
      later.out = writing.out ++ tokens ∧ writing.cursor.rest ≠ [] := by
  rcases lexer.nextTokens_cases writing with
    ⟨_, ended⟩ | ⟨_, _, failed, _⟩ | ⟨tokens, _, same, found, moved, wrote, ahead⟩
  · cases ended.symm.trans done
  · cases failed.symm.trans done
  · cases same.symm.trans done
    exact ⟨tokens, found, moved, wrote, ahead⟩

theorem nextTokens_shortens (done : lexer.nextTokens writing = (.ok true, later)) :
    later.cursor.rest.length < writing.cursor.rest.length := by
  obtain ⟨_, _, moved, _, ahead⟩ := nextTokens_ok done
  rw [moved]
  exact writing.cursor.skip_shortens _ ahead

theorem nextTokens_error {fault : Fault}
    (failed : lexer.nextTokens writing = (.error fault, later)) : later.out = writing.out := by
  rcases lexer.nextTokens_cases writing with ⟨_, ended⟩ | ⟨_, _, same, wrote⟩ | ⟨_, _, done, _⟩
  · cases ended.symm.trans failed
  · cases same.symm.trans failed
    exact wrote
  · cases done.symm.trans failed

theorem nextTokens_none (ended : lexer.nextTokens writing = (.ok false, later)) :
    later = writing ∧ writing.cursor.rest = [] := by
  rcases lexer.nextTokens_cases writing with ⟨ahead, idle⟩ | ⟨_, _, failed, _⟩ | ⟨_, _, done, _⟩
  · cases idle.symm.trans ended
    exact ⟨rfl, ahead⟩
  · cases failed.symm.trans ended
  · cases done.symm.trans ended

theorem itemAt_single {cursor : Cursor} {memory : σ} {tokens : List Token}
    (ahead : cursor.rest ≠ []) (uncalled : ¬ lexer.Invokes cursor)
    (found : (lexer.itemAt cursor memory).value = .ok tokens) : ∃ token, tokens = [token] := by
  have head := head_of_text lexer.marker lexer.macros.contains ahead
  generalize splits : cursor.rest = text at head
  unfold itemAt at found
  cases head with
  | plain plain =>
    rw [item_of_plain plain splits] at found
    cases found
    exact ⟨_, rfl⟩
  | call called => exact absurd ⟨_, _, called, splits⟩ uncalled
  | unclosed unclosed =>
    rw [item_of_unclosed (splits ▸ unclosed)] at found
    cases found

theorem next_appends (lexer : Lexer σ) (writing : Writing σ) : lexer.NextAppends writing where
  runs := nextTokens_eq lexer writing
  failed _ _ := nextTokens_error
  exhausted _ := nextTokens_none
  grown later done := by
    obtain ⟨tokens, _, _, wrote, _⟩ := nextTokens_ok done
    exact ⟨tokens, wrote⟩
  single later done uncalled := by
    obtain ⟨tokens, found, _, wrote, ahead⟩ := nextTokens_ok done
    obtain ⟨token, rfl⟩ := itemAt_single ahead uncalled found
    exact ⟨token, wrote⟩

end Items

-- Whole items, one after another, and what each of them wrote; none begins at a closing marker.
inductive Completes (lexer : Lexer σ) : Writing σ → List (List Token) → Writing σ → Prop
  | nil {writing} : Completes lexer writing [] writing
  | cons {writing middle last tokens items}
      (opens : ¬ writing.cursor.atBodyClose lexer.marker = true)
      (next : lexer.nextTokens writing = (.ok true, middle))
      (wrote : middle.out = writing.out ++ tokens) (more : Completes lexer middle items last) :
      Completes lexer writing (tokens :: items) last

theorem Completes.out_eq {lexer : Lexer σ} {writing last : Writing σ} {items : List (List Token)}
    (completes : lexer.Completes writing items last) : last.out = writing.out ++ items.flatten := by
  induction completes with
  | nil => simp
  | cons opens next wrote more ih => rw [ih, wrote, List.flatten_cons, List.append_assoc]

-- Why no further item was written: a closing marker, a failure or the end of the text.
inductive StopsAt (lexer : Lexer σ) (openedAt : Nat) (last : Writing σ) :
    Except Fault Unit × Writing σ → Prop
  | closed (closes : last.cursor.atBodyClose lexer.marker = true) :
      StopsAt lexer openedAt last (.ok (), last)
  | failed {fault later} (opens : ¬ last.cursor.atBodyClose lexer.marker = true)
      (next : lexer.nextTokens last = (.error fault, later)) :
      StopsAt lexer openedAt last (.error fault, later)
  | ended (opens : ¬ last.cursor.atBodyClose lexer.marker = true)
      (next : lexer.nextTokens last = (.ok false, last)) :
      StopsAt lexer openedAt last (.error (lexer.unterminated openedAt last.cursor), last)

-- What a body does to a vector: it adds the tokens of its whole items and nothing else, also when
-- it fails.
structure BodyAppends (lexer : Lexer σ) (openedAt : Nat) (writing : Writing σ) : Prop where
  runs : lexer.writeBody openedAt writing = lexer.writtenBody openedAt writing
  items : ∃ items last, lexer.Completes writing items last ∧
    lexer.StopsAt openedAt last (lexer.writeBody openedAt writing) ∧
    (lexer.writeBody openedAt writing).2.out = writing.out ++ items.flatten

-- The loop of a body. An item that was written leaves less text.
theorem writeItems_step (lexer : Lexer σ) {writing : Writing σ}
    (opens : ¬ writing.cursor.atBodyClose lexer.marker = true) :
    lexer.writeItems writing =
      match lexer.nextTokens writing with
      | (.error fault, later) => (.failed fault, later)
      | (.ok false, later) => (.ended, later)
      | (.ok true, later) => lexer.writeItems later := by
  have same : (lexer.writeItem writing fun cursor _ memory =>
      (lexer.writeItems ⟨cursor, 0, memory, []⟩).2.body
        (lexer.writeItems ⟨cursor, 0, memory, []⟩).1) = lexer.nextTokens writing := rfl
  rw [writeItems, if_neg opens]
  dsimp only
  rw [same]
  rcases answer : lexer.nextTokens writing with ⟨fault | more, later⟩
  · rfl
  cases more with
  | false => rfl
  | true =>
    dsimp only
    rw [dif_pos (nextTokens_shortens answer)]

theorem writeBody_step (lexer : Lexer σ) (openedAt : Nat) {writing : Writing σ}
    (opens : ¬ writing.cursor.atBodyClose lexer.marker = true) :
    lexer.writeBody openedAt writing =
      match lexer.nextTokens writing with
      | (.error fault, later) => (.error fault, later)
      | (.ok false, later) => (.error (lexer.unterminated openedAt later.cursor), later)
      | (.ok true, later) => lexer.writeBody openedAt later := by
  rw [writeBody, writeItems_step lexer opens]
  rcases lexer.nextTokens writing with ⟨fault | more, later⟩
  · rfl
  cases more <;> rfl

theorem writeBody_completes (lexer : Lexer σ) (openedAt : Nat) (writing : Writing σ) :
    ∃ items last, lexer.Completes writing items last ∧
      lexer.StopsAt openedAt last (lexer.writeBody openedAt writing) := by
  induction size : writing.cursor.rest.length using Nat.strongRecOn generalizing writing with
  | _ length ih =>
    subst size
    by_cases closes : writing.cursor.atBodyClose lexer.marker = true
    · rw [writeBody, writeItems, if_pos closes]
      exact ⟨[], writing, .nil, .closed closes⟩
    rw [writeBody_step lexer openedAt closes]
    rcases answer : lexer.nextTokens writing with ⟨fault | more, later⟩
    · exact ⟨[], writing, .nil, .failed closes answer⟩
    cases more with
    | false =>
      obtain ⟨rfl, _⟩ := nextTokens_none answer
      exact ⟨[], later, .nil, .ended closes answer⟩
    | true =>
      obtain ⟨tokens, _, _, wrote, _⟩ := nextTokens_ok answer
      obtain ⟨items, last, completes, stops⟩ := ih _ (nextTokens_shortens answer) later rfl
      exact ⟨tokens :: items, last, .cons closes answer wrote completes, stops⟩

theorem StopsAt.out_eq {lexer : Lexer σ} {openedAt : Nat} {last : Writing σ}
    {result : Except Fault Unit × Writing σ} (stops : lexer.StopsAt openedAt last result) :
    result.2.out = last.out := by
  cases stops with
  | closed | ended => rfl
  | failed opens next => exact nextTokens_error next

theorem body_appends (lexer : Lexer σ) (openedAt : Nat) (writing : Writing σ) :
    lexer.BodyAppends openedAt writing where
  runs := writeBody_eq lexer openedAt writing
  items := by
    obtain ⟨items, last, completes, stops⟩ := writeBody_completes lexer openedAt writing
    exact ⟨items, last, completes, stops, stops.out_eq.trans completes.out_eq⟩

-- Whatever the registry, the text and the vector are: an item is written as a whole or not at all,
-- and a body up to its last whole item.
theorem appends_of_lexer (lexer : Lexer σ) (writing : Writing σ) :
    lexer.NextAppends writing ∧ ∀ openedAt, lexer.BodyAppends openedAt writing :=
  ⟨next_appends lexer writing, fun openedAt => body_appends lexer openedAt writing⟩

end Lexer
end TemplateCompiler
