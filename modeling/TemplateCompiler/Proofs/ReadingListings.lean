import TemplateCompiler.Proofs.Compilations

namespace TemplateCompiler

namespace Text

def digitValue? (c : Char) : Option Nat :=
  if c.isDigit then some (c.toNat - '0'.toNat)
  else if 'a' ≤ c ∧ c ≤ 'f' then some (c.toNat - 'a'.toNat + 10)
  else none

theorem digitValue?_digitChar {digit : Nat} (small : digit < 16) :
    digitValue? digit.digitChar = some digit := by
  have every : ∀ digit < 16, digitValue? (Nat.digitChar digit) = some digit := by decide
  exact every digit small

theorem read_toDigits {α : Type} {base : Nat} {read : Nat → List Char → α} (many : 1 < base)
    (step : ∀ value digit rest, digit < base →
      read value (digit.digitChar :: rest) = read (base * value + digit) rest)
    (number : Nat) (rest : List Char) :
    read 0 (Nat.toDigits base number ++ rest) = read number rest := by
  induction number using Nat.strongRecOn generalizing rest with
  | ind number ih =>
    by_cases single : number < base
    · rw [Nat.toDigits_of_lt_base single, List.singleton_append, step 0 number rest single,
        Nat.mul_zero, Nat.zero_add]
    · have least : base ≤ number := Nat.le_of_not_lt single
      have less : number / base < number := Nat.div_lt_self (by omega) many
      rw [Nat.toDigits_of_base_le many least, List.append_assoc, ih _ less, List.singleton_append,
        step _ _ rest (Nat.mod_lt number (by omega)), Nat.div_add_mod]

theorem mem_toDigits {base number : Nat} {c : Char} (many : 1 < base)
    (shown : c ∈ Nat.toDigits base number) : ∃ digit < base, c = digit.digitChar := by
  induction number using Nat.strongRecOn with
  | ind number ih =>
    by_cases single : number < base
    · rw [Nat.toDigits_of_lt_base single, List.mem_singleton] at shown
      exact ⟨number, single, shown⟩
    · have least : base ≤ number := Nat.le_of_not_lt single
      rw [Nat.toDigits_of_base_le many least, List.mem_append, List.mem_singleton] at shown
      cases shown with
      | inl front => exact ih _ (Nat.div_lt_self (by omega) many) front
      | inr last => exact ⟨_, Nat.mod_lt number (by omega), last⟩

theorem newline_notMem_toDigits {base : Nat} (many : 1 < base) (few : base ≤ 16) (number : Nat) :
    '\n' ∉ Nat.toDigits base number := by
  intro shown
  obtain ⟨digit, small, shows⟩ := mem_toDigits many shown
  have value := digitValue?_digitChar (Nat.lt_of_lt_of_le small few)
  rw [← shows] at value
  cases value

def readNumber (value : Nat) : List Char → Nat × List Char
  | [] => (value, [])
  | c :: rest =>
    match digitValue? c with
    | some digit => readNumber (10 * value + digit) rest
    | none => (value, c :: rest)

theorem readNumber_toDigits (number : Nat) {c : Char} (rest : List Char)
    (stops : digitValue? c = none) :
    readNumber 0 (Nat.toDigits 10 number ++ c :: rest) = (number, c :: rest) := by
  have step : ∀ value digit rest, digit < 10 →
      readNumber value (digit.digitChar :: rest) = readNumber (10 * value + digit) rest := by
    intro value digit rest small
    rw [readNumber, digitValue?_digitChar (by omega)]
  rw [read_toDigits (by decide) step, readNumber, stops]

-- Where a reader of quoted text stands: among runes shown as they are, after a backslash, before
-- the brace of a code, or within the code.
inductive Unquoting where
  | plain
  | escaped
  | opening
  | code (value : Nat)

def escapeNamed? : Char → Option Char
  | '0' => some '\x00'
  | 't' => some '\t'
  | 'n' => some '\n'
  | 'r' => some '\r'
  | '\\' => some '\\'
  | '"' => some '"'
  | _ => none

def unquote : Unquoting → List Char → Option (List Char)
  | _, [] => none
  | .plain, c :: rest =>
    if c = '"' then if rest = [] then some [] else none
    else if c = '\\' then unquote .escaped rest
    else (unquote .plain rest).map (c :: ·)
  | .escaped, c :: rest =>
    if c = 'u' then unquote .opening rest
    else (escapeNamed? c).bind fun named => (unquote .plain rest).map (named :: ·)
  | .opening, c :: rest => if c = '\x7b' then unquote (.code 0) rest else none
  | .code value, c :: rest =>
    if c = '\x7d' then (unquote .plain rest).map (Char.ofNat value :: ·)
    else (digitValue? c).bind fun digit => unquote (.code (16 * value + digit)) rest

theorem unquote_hexadecimal (c : Char) (rest : List Char) :
    unquote (.code 0) (hexadecimal c ++ '\x7d' :: rest) =
      (unquote .plain rest).map (c :: ·) := by
  have step : ∀ value digit rest, digit < 16 →
      unquote (.code value) (digit.digitChar :: rest) =
        unquote (.code (16 * value + digit)) rest := by
    intro value digit rest small
    have shown := digitValue?_digitChar small
    have inside : digit.digitChar ≠ '\x7d' := by
      intro brace
      rw [brace] at shown
      cases shown
    rw [unquote, if_neg inside, shown, Option.bind_some]
  rw [hexadecimal, read_toDigits (by decide) step, unquote, if_pos rfl, Char.ofNat_toNat]

theorem escape_forms (c : Char) :
    (∃ letter, letter ≠ 'u' ∧ letter ≠ '\n' ∧ escapeNamed? letter = some c ∧
      escape '"' c = ['\\', letter]) ∨
    escape '"' c = ['\\', 'u', '\x7b'] ++ hexadecimal c ++ ['\x7d'] ∨
    (c ≠ '"' ∧ c ≠ '\\' ∧ c ≠ '\n' ∧ escape '"' c = [c]) := by
  unfold escape
  split_ifs with zero tab newline back slash quote hidden
  · exact .inl ⟨'0', by decide, by decide, by rw [zero]; rfl, rfl⟩
  · exact .inl ⟨'t', by decide, by decide, by rw [tab]; rfl, rfl⟩
  · exact .inl ⟨'n', by decide, by decide, by rw [newline]; rfl, rfl⟩
  · exact .inl ⟨'r', by decide, by decide, by rw [back]; rfl, rfl⟩
  · exact .inl ⟨'\\', by decide, by decide, by rw [slash]; rfl, rfl⟩
  · exact .inl ⟨'"', by decide, by decide, by rw [quote]; rfl, rfl⟩
  · exact .inr (.inl rfl)
  · exact .inr (.inr ⟨quote, slash, newline, rfl⟩)

theorem unquote_escape (c : Char) (rest : List Char) :
    unquote .plain (escape '"' c ++ rest) = (unquote .plain rest).map (c :: ·) := by
  rcases escape_forms c with ⟨letter, word, -, names, shown⟩ | shown | ⟨quote, slash, -, shown⟩
  · rw [shown]
    simp [unquote, word, names]
  · rw [shown, List.append_assoc, List.append_assoc]
    exact unquote_hexadecimal c rest
  · rw [shown]
    simp [unquote, quote, slash]

theorem unquote_quoted (text : List Char) :
    unquote .plain (text.flatMap (escape '"') ++ ['"']) = some text := by
  induction text with
  | nil => rfl
  | cons c rest ih => rw [List.flatMap_cons, List.append_assoc, unquote_escape, ih, Option.map_some]

theorem newline_notMem_escape (c : Char) : '\n' ∉ escape '"' c := by
  rcases escape_forms c with ⟨letter, -, other, -, shown⟩ | shown | ⟨-, -, other, shown⟩
  · simpa [shown] using other.symm
  · have code := newline_notMem_toDigits (by decide) le_rfl c.toNat
    simpa [shown, hexadecimal] using code
  · simpa [shown] using other.symm

theorem newline_notMem_quoted (text : String) : '\n' ∉ (quoted text).toList := by
  simp [quoted, newline_notMem_escape]

theorem splitOn_lines (lines : List (List Char)) (single : ∀ line ∈ lines, '\n' ∉ line) :
    (lines.flatMap (· ++ ['\n'])).splitOn '\n' = lines ++ [[]] := by
  have joined : lines.flatMap (· ++ ['\n']) = ['\n'].intercalate (lines ++ [[]]) := by
    rw [intercalate_middle, List.append_nil]
    exact (List.append_nil _).symm
  rw [joined]
  apply List.splitOn_intercalate '\n' ?_ (by simp)
  intro line listed
  rcases List.mem_append.mp listed with listed | last
  · exact single line listed
  · cases List.mem_singleton.mp last
    exact List.not_mem_nil

end Text

def WriteKind.labelled? (label : List Char) : Option WriteKind :=
  [.text, .globalBlock, .localBlock, .expression].find? (·.label.toList = label)

namespace Instruction

def read? (line : List Char) : Option Instruction :=
  match Text.readNumber 0 line with
  | (number, ':' :: ' ' :: rest) => do
    let kind ← WriteKind.labelled? (rest.takeWhile (· ≠ ' '))
    match rest.dropWhile (· ≠ ' ') with
    | ' ' :: '"' :: quoted => do
      let text ← Text.unquote .plain quoted
      return ⟨number, kind, String.ofList text⟩
    | _ => none
  | _ => none

theorem display_toList (instruction : Instruction) :
    instruction.display.toList = Nat.toDigits 10 instruction.line ++ ':' :: ' ' ::
      (instruction.kind.label.toList ++ ' ' :: (Text.quoted instruction.text).toList) := by
  simp only [display, String.toList_append, Nat.toString_eq_ofList_toDigits, String.toList_ofList,
    List.append_assoc]
  rfl

theorem read?_display (instruction : Instruction) :
    read? instruction.display.toList = some instruction := by
  have word : instruction.kind.label.toList.all (· ≠ ' ') := by
    cases instruction.kind <;> decide
  have label := List.all_eq_true.mp word
  have kind : WriteKind.labelled? instruction.kind.label.toList = some instruction.kind := by
    cases instruction.kind <;> decide
  rw [display_toList, read?, Text.readNumber_toDigits _ _ rfl]
  simp only [List.takeWhile_append_of_pos label, List.dropWhile_append_of_pos label]
  simp [kind, Text.quoted, Text.unquote_quoted]

theorem newline_notMem_display (instruction : Instruction) :
    '\n' ∉ instruction.display.toList := by
  have number : '\n' ∉ Nat.toDigits 10 instruction.line :=
    Text.newline_notMem_toDigits (by decide) (by decide) _
  have label : '\n' ∉ instruction.kind.label.toList := by
    cases instruction.kind <;> decide
  simp [display_toList, number, label, Text.newline_notMem_quoted]

end Instruction

namespace Listing

def decode? (text : String) : Option (List Instruction) :=
  (text.toList.splitOn '\n').dropLast.mapM Instruction.read?

theorem render_toList (listing : Listing) :
    listing.render.toList =
      (listing.instructions.map (·.display.toList)).flatMap (· ++ ['\n']) := by
  simp [render, String.toList_join, List.flatMap_map, String.toList_append]

theorem decode?_render (listing : Listing) :
    decode? listing.render = some listing.instructions := by
  have single : ∀ line ∈ listing.instructions.map (·.display.toList), '\n' ∉ line := by
    simp [Instruction.newline_notMem_display]
  have reads : Instruction.read? ∘ (·.display.toList) = some := by
    funext instruction
    rw [Function.comp_apply, Instruction.read?_display]
  rw [decode?, render_toList, Text.splitOn_lines _ single, List.dropLast_concat, List.mapM_map,
    reads]
  exact List.mapM_pure.trans (congrArg some (List.map_id _))

structure Legible (writes : List Write) (text : String) : Prop where
  lines : ∃ lines : List (List Char), lines.length = writes.length ∧
    (∀ line ∈ lines, '\n' ∉ line) ∧ text.toList = lines.flatMap (· ++ ['\n'])
  decoded : decode? text =
    some ((writes.filter isGlobal ++ writes.filter (!isGlobal ·)).map Write.instruction)

theorem legible (writes : List Write) : Legible writes (ofWrites writes).render := by
  have whole := render_toList (ofWrites writes)
  constructor
  · refine ⟨_, ?_, ?_, whole⟩
    · rw [List.length_map, (perm_instructions_ofWrites writes).length_eq, List.length_map]
    · simp [Instruction.newline_notMem_display]
  · rw [decode?_render, instructions_ofWrites]

-- The kinds tell where the global blocks end, so what a listing shows is the listing itself.
def hoisted (instructions : List Instruction) : Listing where
  globals := instructions.filter (·.kind = .globalBlock)
  body := instructions.filter (!·.kind = .globalBlock)

theorem hoisted_ofWrites (writes : List Write) :
    hoisted (ofWrites writes).instructions = ofWrites writes := by
  have kept : (fun one : Instruction => decide (one.kind = .globalBlock)) ∘ Write.instruction =
      isGlobal := rfl
  have others : (fun one : Instruction => !decide (one.kind = .globalBlock)) ∘ Write.instruction =
      (!isGlobal ·) := rfl
  rw [instructions_ofWrites]
  simp [hoisted, ofWrites, List.filter_map, kept, others]

theorem render_inj {writes others : List Write} :
    (ofWrites writes).render = (ofWrites others).render ↔ ofWrites writes = ofWrites others := by
  constructor
  · intro same
    have read : decode? (ofWrites writes).render = decode? (ofWrites others).render :=
      congrArg decode? same
    rw [decode?_render, decode?_render] at read
    have again := congrArg hoisted (Option.some.inj read)
    rwa [hoisted_ofWrites, hoisted_ofWrites] at again
  · intro same
    rw [same]

end Listing

def Handler.called {σ τ : Type} (handler : Handler σ τ) (state : τ) : HandlerCall → τ
  | .begin => handler.begin state
  | .write written => handler.write state written
  | .finish => (handler.finish state).2

-- The writes of the document at hand: those since the last call that began or finished one.
def HandlerCall.pending (writes : List Write) : HandlerCall → List Write
  | .write written => writes ++ [written]
  | .begin | .finish => []

namespace Listing
variable {σ : Type}

theorem foldl_called (macros : List (Macro σ)) (writes : List Write) (calls : List HandlerCall) :
    calls.foldl (handler macros).called (ofWrites writes) =
      ofWrites (calls.foldl HandlerCall.pending writes) := by
  induction calls generalizing writes with
  | nil => rfl
  | cons call calls ih =>
    have step : (handler macros).called (ofWrites writes) call =
        ofWrites (call.pending writes) := by
      cases call with
      | begin => rfl
      | finish => rfl
      | write written =>
        have all := foldl_record_empty (writes ++ [written])
        rw [List.foldl_append, foldl_record_empty] at all
        exact all
    rw [List.foldl_cons, List.foldl_cons, step, ih]

-- Whatever was done with the handler before, the text it ends a document with can be read back, and
-- two documents have one text only if they have the same global blocks and the same other writes.
theorem finish_legible (macros : List (Macro σ)) (calls others : List HandlerCall) :
    let finished (calls : List HandlerCall) : Except TemplateError String :=
      ((handler macros).finish (calls.foldl (handler macros).called .empty)).1
    let pending (calls : List HandlerCall) : List Write := calls.foldl HandlerCall.pending []
    (∃ text, finished calls = .ok text ∧ Legible (pending calls) text) ∧
      (finished calls = finished others ↔
        ofWrites (pending calls) = ofWrites (pending others)) := by
  intro finished pending
  have renders : ∀ calls, finished calls = .ok (ofWrites (pending calls)).render := by
    intro calls
    exact congrArg (Except.ok ·.render) (foldl_called macros [] calls)
  refine ⟨⟨_, renders calls, legible _⟩, ?_⟩
  rw [renders, renders, Except.ok.injEq, render_inj]

end Listing
end TemplateCompiler
