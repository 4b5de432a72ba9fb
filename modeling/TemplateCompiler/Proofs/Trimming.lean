import TemplateCompiler.Proofs.SourceMap

namespace TemplateCompiler
open Text

namespace Instruction

def visible (instruction : Instruction) : List (WriteKind × Char) :=
  (instruction.text.toList.filter (!isBlankRune ·)).map (instruction.kind, ·)

def isExpression (instruction : Instruction) : Bool := instruction.kind = .expression

end Instruction

namespace Listing

def visible (listing : Listing) : List (WriteKind × Char) :=
  listing.instructions.flatMap Instruction.visible

def expressions (listing : Listing) : List Instruction :=
  listing.instructions.filter Instruction.isExpression

-- Listings that differ in blanks and in the cuts between records, but not around expressions.
structure AlikeButBlanks (left right : Listing) : Prop where
  visible : left.visible = right.visible
  expressions : left.expressions = right.expressions

end Listing

-- A reading of records that a merge and a deleted blank do not change. A merge puts blanks between
-- the texts at most and keeps the line of the first record; expressions never merge.
structure Overlooks {β : Type} (read : Instruction → List β) : Prop where
  blank : ∀ line (text : String), (∀ c ∈ text.toList, isBlankRune c = true) →
    read ⟨line, .text, text⟩ = []
  joint : ∀ line later kind (first between second : String), kind ≠ .expression →
    (∀ c ∈ between.toList, isBlankRune c = true) →
    read ⟨line, kind, first ++ between ++ second⟩ =
      read ⟨line, kind, first⟩ ++ read ⟨later, kind, second⟩

theorem filter_blank {text : String} (blank : ∀ c ∈ text.toList, isBlankRune c = true) :
    text.toList.filter (!isBlankRune ·) = [] :=
  List.filter_eq_nil_iff.mpr fun c member => by simp [blank c member]

theorem overlooks_visible : Overlooks Instruction.visible where
  blank line text blank := by rw [Instruction.visible, filter_blank blank, List.map_nil]
  joint line later kind first between second _ blank := by
    simp only [Instruction.visible, String.toList_append, List.filter_append, filter_blank blank,
      List.append_nil, List.map_append]

theorem overlooks_expressions :
    Overlooks fun instruction => [instruction].filter Instruction.isExpression where
  blank line text _ := rfl
  joint line later kind first between second other _ := by
    simp [Instruction.isExpression, other]

theorem flatMap_filter {α β : Type} (keep : α → Bool) (read : α → List β) (items : List α) :
    (items.filter keep).flatMap read =
      items.flatMap fun item => if keep item then read item else [] := by
  induction items with
  | nil => rfl
  | cons item others ih =>
    cases kept : keep item <;> simp [kept, ih]

namespace TwoStages
open Token

variable {β : Type} {read : Token → List β}

theorem flatMap_keptFrom {tokens : List Token}
    (blank : ∀ token ∈ tokens, token.kind = .whitespace ∨ token.kind = .newline → read token = [])
    (before : List Token) : (keptFrom before tokens).flatMap read = tokens.flatMap read := by
  induction tokens generalizing before with
  | nil => rfl
  | cons token after ih =>
    obtain ⟨first, others⟩ := List.forall_mem_cons.mp blank
    rw [keptFrom, List.flatMap_cons]
    split
    · rename_i trimmed
      rw [first (trimmed.imp And.left And.left), List.nil_append, ih others]
    · rw [List.flatMap_cons, ih others]

section Merging
variable (content : ∀ token, read token.asContent = read token)
  (joint : ∀ first second, Mergeable first second →
    read (merged first second) = read first ++ read second)
include content joint

theorem flatMap_place (written : List Token) (token : Token) :
    (place written token).reverse.flatMap read = written.reverse.flatMap read ++ read token := by
  cases written with
  | nil => simp [place, content]
  | cons last earlier =>
    unfold place
    dsimp only
    split
    · rename_i mergeable
      simp [joint _ _ mergeable, content]
    · simp [content]

theorem flatMap_foldl_place (written tokens : List Token) :
    (tokens.foldl place written).reverse.flatMap read =
      written.reverse.flatMap read ++ tokens.flatMap read := by
  induction tokens generalizing written with
  | nil => simp
  | cons token rest ih =>
    rw [List.foldl_cons, ih, flatMap_place content joint, List.append_assoc, List.flatMap_cons]

theorem flatMap_optimize {tokens : List Token} (blank : ∀ token ∈ tokens,
    token.kind = .whitespace ∨ token.kind = .newline → read token = []) (trim : Bool) :
    (optimize tokens trim).flatMap read = tokens.flatMap read := by
  rw [optimize_merges, mergeAll, flatMap_foldl_place content joint]
  cases trim with
  | false => rfl
  | true => exact flatMap_keptFrom blank []

end Merging
end TwoStages

namespace Token
open TwoStages

theorem write_asContent (token : Token) : token.asContent.write = token.write := by
  cases kind : token.kind <;> simp [asContent, write, kind, TokenKind.writtenAs?]

theorem write_merged {first second : Token} (mergeable : Mergeable first second) :
    ∃ between, (∀ c ∈ between.toList, isBlankRune c = true) ∧
      (merged first second).write.instruction = ⟨first.slice.start.line, first.write.kind,
        first.text ++ between ++ second.text⟩ ∧
      first.write.kind = second.write.kind ∧ first.write.kind ≠ .expression := by
  obtain ⟨same, merges, _⟩ := mergeable
  have kinds : first.write.kind = second.write.kind := by rw [write, write, same]
  have solid : first.write.kind ≠ .expression := by
    simp only [List.mem_cons, List.not_mem_nil, or_false] at merges
    rcases merges with kind | kind | kind <;> simp [write, kind, TokenKind.writtenAs?]
  have text := mergedText_eq second (mem_mergedKinds.mp merges)
  refine ⟨first.separator, ?_, ?_, kinds, solid⟩
  · unfold separator
    split <;> simp [isBlankRune]
  · rw [← text]
    rfl

end Token

theorem Lexer.blank_of_tokenize {σ : Type} {marker : Char} {source : Source} {memory : σ}
    {tokens : List Token}
    (lexes : (Lexer.tokenize ⟨marker, .builtins⟩ source memory).value = .ok tokens) :
    ∀ token ∈ tokens, token.kind = .whitespace ∨ token.kind = .newline →
      ∀ c ∈ token.text.toList, isBlankRune c = true := by
  obtain ⟨fragments, follows, rfl⟩ := Lexer.tokenize_follows MacroTable.blocksOnly_builtins lexes
  intro token member kind
  obtain ⟨before, fragment, others, rfl, rfl⟩ := Fragment.mem_lay member
  obtain ⟨text, inside⟩ := follows.blank fragment (by simp) kind
  simpa [Fragment.token, Token.plain, Token.text, text] using inside

namespace Listing
open TwoStages
variable {β : Type} {read : Instruction → List β}

-- Whatever a reading overlooks, the optimizer may change; it keeps the reading of every part.
theorem read_part (overlooks : Overlooks read) (part : WriteKind → Bool) {tokens : List Token}
    (blank : ∀ token ∈ tokens, token.kind = .whitespace ∨ token.kind = .newline →
      ∀ c ∈ token.text.toList, isBlankRune c = true) (trim : Bool) :
    (((optimize tokens trim).map Token.write).filter (part ·.kind)).flatMap (read ·.instruction) =
      ((tokens.map Token.write).filter (part ·.kind)).flatMap (read ·.instruction) := by
  simp only [flatMap_filter, List.flatMap_map]
  apply flatMap_optimize
  · intro token
    rw [token.write_asContent]
  · intro first second mergeable
    obtain ⟨between, spaced, joined, kinds, solid⟩ := Token.write_merged mergeable
    have kind : (Token.merged first second).write.kind = first.write.kind :=
      congrArg Instruction.kind joined
    have later : second.write.instruction =
        ⟨second.slice.start.line, first.write.kind, second.text⟩ := by
      rw [kinds]
      rfl
    have both := overlooks.joint first.slice.start.line second.slice.start.line _ first.text
      between second.text solid spaced
    rw [kind, ← kinds, joined, later, both]
    split <;> rfl
  · intro token member kind
    have text : token.write.kind = .text := by
      rcases kind with kind | kind <;> simp [Token.write, kind, TokenKind.writtenAs?]
    have silent : read token.write.instruction = [] := by
      rw [Write.instruction, text]
      exact overlooks.blank _ _ (blank token member kind)
    rw [silent, ite_self]

theorem flatMap_ofWrites (read : Instruction → List β) (writes : List Write) :
    (ofWrites writes).instructions.flatMap read =
      (writes.filter isGlobal).flatMap (read ·.instruction) ++
        (writes.filter (!isGlobal ·)).flatMap (read ·.instruction) := by
  simp only [instructions, ofWrites, List.flatMap_append, List.flatMap_map]

theorem read_optimize (overlooks : Overlooks read) {tokens : List Token}
    (blank : ∀ token ∈ tokens, token.kind = .whitespace ∨ token.kind = .newline →
      ∀ c ∈ token.text.toList, isBlankRune c = true) (trim : Bool) :
    (ofWrites ((optimize tokens trim).map Token.write)).instructions.flatMap read =
      (ofWrites (tokens.map Token.write)).instructions.flatMap read := by
  rw [flatMap_ofWrites, flatMap_ofWrites]
  exact congrArg₂ (· ++ ·) (read_part overlooks (· = .globalBlock) blank trim)
    (read_part overlooks (fun kind => !decide (kind = .globalBlock)) blank trim)

theorem expressions_eq (listing : Listing) : listing.expressions =
    listing.instructions.flatMap fun record => [record].filter Instruction.isExpression := by
  rw [← List.filter_flatMap, List.flatMap_singleton']
  rfl

theorem alike_optimize {tokens : List Token}
    (blank : ∀ token ∈ tokens, token.kind = .whitespace ∨ token.kind = .newline →
      ∀ c ∈ token.text.toList, isBlankRune c = true) (trim other : Bool) :
    (ofWrites ((optimize tokens trim).map Token.write)).AlikeButBlanks
      (ofWrites ((optimize tokens other).map Token.write)) := by
  have same {β : Type} {read : Instruction → List β} (overlooks : Overlooks read) :=
    (read_optimize overlooks blank trim).trans (read_optimize overlooks blank other).symm
  refine ⟨same overlooks_visible, ?_⟩
  rw [expressions_eq, expressions_eq]
  exact same overlooks_expressions

end Listing

namespace Compiler
variable {σ : Type}

theorem trim_changes_blanks (marker : Char) (source : Source) (memory : σ) :
    (∃ fault, ∀ trim state, ((new ⟨marker, trim⟩).compile (Listing.handler []) source memory
      state).result = .error fault) ∨
    ∃ writes : Bool → List Write,
      (∀ trim, (new ⟨marker, trim⟩).Hands source memory (writes trim) ∧
        ∀ state, ((new ⟨marker, trim⟩).compile (Listing.handler []) source memory state).result =
          .ok (Listing.ofWrites (writes trim)).render) ∧
      (Listing.ofWrites (writes true)).AlikeButBlanks (Listing.ofWrites (writes false)) := by
  cases lexes : (Lexer.tokenize ⟨marker, .builtins⟩ source memory).value with
  | error fault =>
    refine .inl ⟨fault, fun trim state => ?_⟩
    have failed : (new ⟨marker, trim⟩).lexed (Listing.handler []) source memory = .error fault :=
      lexes
    exact (compile_of_error state failed).1
  | ok tokens =>
    have hands (trim : Bool) : (new ⟨marker, trim⟩).Hands source memory
        ((optimize tokens trim).map Token.write) := hands_of_tokenize lexes
    exact .inr ⟨_, fun trim => ⟨hands trim, (hands trim).listed⟩,
      Listing.alike_optimize (Lexer.blank_of_tokenize lexes) true false⟩

-- Under trim the two blocks meet, and are one record.
example :
    let source : Source := ⟨"page", "◊\x7ba\x7d ◊\x7bb\x7d\n◊n".toList⟩
    (Lexer.tokenize ⟨'◊', .builtins⟩ source ()).value.toOption.map (fun tokens =>
        [false, true].map fun trim =>
          (Listing.ofWrites ((optimize tokens trim).map Token.write)).instructions) =
      some [[⟨1, .localBlock, "a"⟩, ⟨1, .text, " "⟩, ⟨1, .localBlock, "b"⟩, ⟨1, .text, "\n"⟩,
          ⟨2, .expression, "n"⟩],
        [⟨1, .localBlock, "a\nb"⟩, ⟨2, .expression, "n"⟩]] := by
  decide +kernel

end Compiler
end TemplateCompiler
