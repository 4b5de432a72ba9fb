import TemplateCompiler.Proofs.Compilations
import TemplateCompiler.Proofs.Decoding

namespace TemplateCompiler
open Text

def isBlankRune (c : Char) : Bool := isPadding c || c = '\n'

namespace Source

-- The parts of the source from an offset on that no slice of a row covers: before the first,
-- between neighbours and after the last.
def gapsFrom (source : Source) (offset : Nat) : List Slice → List (Option (List Char))
  | [] => [between? offset source.bytes source.text]
  | slice :: others =>
    between? offset slice.start.offset source.text :: source.gapsFrom slice.stop.offset others

-- The slices cover the source in order, up to gaps; a slice begins on the line of its start.
structure MappedBy (source : Source) (slices : List Slice) (gap : List Char → Prop) : Prop where
  solid : ∀ slice ∈ slices, slice.start.offset < slice.stop.offset
  apart : slices.Pairwise fun left right => left.stop.offset ≤ right.start.offset
  gaps : ∀ between ∈ source.gapsFrom 0 slices, ∃ run, between = some run ∧ gap run
  lines : ∀ slice ∈ slices, ∃ before after, source.text = before ++ after ∧
    byteLength before = slice.start.offset ∧ slice.start.line = before.count '\n' + 1

end Source

inductive Strewn (gap : List Char → Prop) : Position → List Char → List Slice → Prop
  | nil {start text} (rest : gap text) : Strewn gap start text []
  | cons {start lead covered text slice slices} (skipped : gap lead) (solid : covered ≠ [])
      (starts : slice.start = start.afterRun lead)
      (stops : slice.stop = slice.start.afterRun covered)
      (others : Strewn gap slice.stop text slices) :
      Strewn gap start (lead ++ covered ++ text) (slice :: slices)

namespace Strewn
variable {gap : List Char → Prop} {start : Position} {text : List Char} {slices : List Slice}

theorem lead (joins : ∀ left right, gap left → gap right → gap (left ++ right)) {run : List Char}
    (skipped : gap run) (strewn : Strewn gap (start.afterRun run) text slices) :
    Strewn gap start (run ++ text) slices := by
  cases strewn with
  | nil rest => exact .nil (joins _ _ skipped rest)
  | @cons _ lead covered text slice slices more solid starts stops others =>
    rw [← List.append_assoc, ← List.append_assoc]
    refine .cons (joins _ _ skipped more) solid ?_ stops others
    rw [starts, Position.afterRun_append]

-- Neighbours joined into one slice take the gap between them in.
theorem join {first second joined : Slice} (starts : joined.start = first.start)
    (stops : joined.stop = second.stop) (before : List Slice)
    (strewn : Strewn gap start text (before ++ first :: second :: slices)) :
    Strewn gap start text (before ++ joined :: slices) := by
  induction before generalizing start text with
  | nil =>
    cases strewn with
    | @cons _ lead covered text _ _ skipped solid begins ends others =>
      cases others with
      | @cons _ between more text _ _ _ _ starting ending others =>
        have whole : lead ++ covered ++ (between ++ more ++ text) =
            lead ++ (covered ++ between ++ more) ++ text := by simp
        rw [List.nil_append, whole]
        refine .cons skipped (by simp [solid]) (starts.trans begins) ?_ (stops ▸ others)
        rw [stops, ending, starting, ends, starts, Position.afterRun_append,
          Position.afterRun_append]
  | cons slice before ih =>
    cases strewn with
    | cons skipped solid begins ends others => exact .cons skipped solid begins ends (ih others)

theorem placed (strewn : Strewn gap start text slices) :
    ∀ slice ∈ slices, ∃ before covered after, text = before ++ covered ++ after ∧ covered ≠ [] ∧
      slice.start = start.afterRun before ∧ slice.stop = slice.start.afterRun covered := by
  induction strewn with
  | nil => nofun
  | @cons start lead covered text first others skipped solid starts stops strewn ih =>
    intro slice member
    rcases List.mem_cons.mp member with rfl | later
    · exact ⟨lead, covered, text, rfl, solid, starts, stops⟩
    · obtain ⟨before, run, after, rfl, nonempty, begins, ends⟩ := ih slice later
      refine ⟨lead ++ covered ++ before, run, after, by simp, nonempty, ?_, ends⟩
      rw [begins, stops, starts, Position.afterRun_append, Position.afterRun_append]

theorem ordered (strewn : Strewn gap start text slices) :
    slices.Pairwise fun left right =>
      left.stop.offset ≤ right.start.offset ∧ left.start.line ≤ right.start.line := by
  induction strewn with
  | nil => exact .nil
  | @cons start lead covered text first others skipped solid starts stops strewn ih =>
    refine .cons ?_ ih
    intro slice member
    obtain ⟨before, _, _, _, _, begins, _⟩ := strewn.placed slice member
    rw [begins, Position.offset_afterRun, Position.line_afterRun, stops, Position.line_afterRun]
    omega

theorem gaps {source : Source} {lead : List Char} (splits : source.text = lead ++ text)
    (strewn : Strewn gap (Position.start.afterRun lead) text slices) :
    ∀ between ∈ source.gapsFrom (byteLength lead) slices, ∃ run, between = some run ∧ gap run := by
  have offset (run : List Char) : (Position.start.afterRun run).offset = byteLength run := by
    rw [Position.offset_afterRun]
    exact Nat.zero_add _
  generalize same : Position.start.afterRun lead = start at strewn
  induction strewn generalizing lead with
  | @nil start text rest =>
    intro between member
    obtain rfl := List.mem_singleton.mp member
    have last := between?_append lead text []
    rw [List.append_nil, ← byteLength_append, ← splits] at last
    exact ⟨_, last, rest⟩
  | @cons start skip covered text slice others skipped solid starts stops strewn ih =>
    have begins : slice.start = Position.start.afterRun (lead ++ skip) := by
      rw [starts, ← same, Position.afterRun_append]
    have ends : Position.start.afterRun (lead ++ skip ++ covered) = slice.stop := by
      rw [stops, begins, Position.afterRun_append _ _ covered]
    intro between member
    rw [Source.gapsFrom, begins, offset, ← ends, offset] at member
    rcases List.mem_cons.mp member with rfl | later
    · have first := between?_append lead skip (covered ++ text)
      rw [byteLength_append]
      exact ⟨skip, by rw [splits, ← first]; simp, skipped⟩
    · exact ih (by simp [splits]) ends between later

theorem mappedBy {source : Source} (strewn : Strewn gap .start source.text slices) :
    source.MappedBy slices gap where
  solid slice member := by
    obtain ⟨_, covered, _, _, solid, _, stops⟩ := strewn.placed slice member
    have bytes : byteLength covered ≠ 0 := fun empty => solid (byteLength_eq_zero.mp empty)
    rw [stops, Position.offset_afterRun]
    omega
  apart := strewn.ordered.imp And.left
  gaps := gaps (List.nil_append _).symm strewn
  lines slice member := by
    obtain ⟨before, covered, after, splits, _, starts, _⟩ := strewn.placed slice member
    refine ⟨before, covered ++ after, by rw [splits, List.append_assoc], ?_, ?_⟩
    · rw [starts, Position.offset_afterRun]
      exact (Nat.zero_add _).symm
    · rw [starts, Position.line_afterRun]
      exact Nat.add_comm _ _

end Strewn

def Skippable (trim : Bool) (run : List Char) : Prop :=
  if trim then ∀ c ∈ run, isBlankRune c = true else run = []

theorem skippable_nil (trim : Bool) : Skippable trim [] := by
  cases trim
  · rfl
  · exact List.forall_mem_nil _

theorem skippable_append (trim : Bool) (left right : List Char) (first : Skippable trim left)
    (second : Skippable trim right) : Skippable trim (left ++ right) := by
  cases trim with
  | false =>
    obtain rfl : left = [] := first
    exact second
  | true => exact List.forall_mem_append.mpr ⟨first, second⟩

theorem Tells.blank {marker : Char} {fragment : Fragment} {after : List Char}
    (tells : Tells marker fragment after)
    (kind : fragment.kind = .whitespace ∨ fragment.kind = .newline) :
    fragment.text = fragment.covered ∧ ∀ c ∈ fragment.covered, isBlankRune c = true := by
  cases tells with
  | whitespace nonempty inside ends =>
    refine ⟨rfl, fun c member => ?_⟩
    simp [isBlankRune, isPadding_iff.mpr (inside c member)]
  | newline => exact ⟨rfl, by simp [isBlankRune]⟩
  | _ => rcases kind with kind | kind <;> cases kind

theorem Lexes.blank {marker : Char} {known : String → Bool} {part : Part} {text rest : List Char}
    {fragments : List Fragment} (lexes : Lexes marker known part text fragments rest) :
    ∀ fragment ∈ fragments, fragment.kind = .whitespace ∨ fragment.kind = .newline →
      fragment.text = fragment.covered ∧ ∀ c ∈ fragment.covered, isBlankRune c = true := by
  intro fragment member kind
  obtain ⟨before, others, rfl⟩ := List.append_of_mem member
  exact lexes.allTell.middle.blank kind

namespace Listing

-- A listing that has recorded these writes and no other: what it shows is a part of global blocks
-- and a part without any, and in neither do the lines go back.
structure Lined (listing : Listing) (writes : List Write) : Prop where
  recorded : listing.instructions.Perm (writes.map Write.instruction)
  parts : ∃ hoisted others, listing.instructions = hoisted ++ others ∧
    (∀ shown ∈ hoisted, shown.kind = .globalBlock) ∧
    (∀ shown ∈ others, shown.kind ≠ .globalBlock) ∧
    (hoisted.map (·.line)).Pairwise (· ≤ ·) ∧ (others.map (·.line)).Pairwise (· ≤ ·)

theorem kind_of_mem_filter {writes : List Write} {holds : Write → Bool} {shown : Instruction}
    (member : shown ∈ (writes.filter holds).map Write.instruction) :
    ∃ write, holds write = true ∧ shown.kind = write.kind := by
  obtain ⟨write, kept, rfl⟩ := List.mem_map.mp member
  exact ⟨write, (List.mem_filter.mp kept).2, rfl⟩

theorem lined_foldl_record {writes : List Write}
    (ordered : (writes.map (·.slice)).Pairwise fun left right =>
      left.start.line ≤ right.start.line) : (writes.foldl record .empty).Lined writes := by
  rw [List.pairwise_map] at ordered
  have lines (holds : Write → Bool) :
      (((writes.filter holds).map Write.instruction).map (·.line)).Pairwise (· ≤ ·) := by
    rw [List.map_map, List.pairwise_map]
    exact ordered.filter holds
  rw [foldl_record_empty]
  constructor
  · exact perm_instructions_ofWrites writes
  · refine ⟨_, _, rfl, ?_, ?_, lines isGlobal, lines (!isGlobal ·)⟩
    · intro shown member
      obtain ⟨write, hoisted, same⟩ := kind_of_mem_filter member
      simpa [same, isGlobal] using hoisted
    · intro shown member
      obtain ⟨write, kept, same⟩ := kind_of_mem_filter member
      simpa [same, isGlobal] using kept

end Listing

namespace TwoStages
open Token

theorem strewn_lay {gap : List Char → Prop} (nothing : gap []) {fragments : List Fragment}
    (solid : ∀ fragment ∈ fragments, fragment.covered ≠ []) (name : String) (start : Position) :
    Strewn gap start (Fragment.source fragments)
      ((Fragment.lay name start fragments).map (·.slice)) := by
  induction fragments generalizing start with
  | nil => exact .nil nothing
  | cons fragment others ih =>
    obtain ⟨first, solid⟩ := List.forall_mem_cons.mp solid
    exact .cons nothing first rfl rfl (ih solid _)

theorem strewn_keptFrom {fragments : List Fragment}
    (solid : ∀ fragment ∈ fragments, fragment.covered ≠ [])
    (blank : ∀ fragment ∈ fragments, fragment.kind = .whitespace ∨ fragment.kind = .newline →
      Skippable true fragment.covered)
    (name : String) (start : Position) (before : List Token) :
    Strewn (Skippable true) start (Fragment.source fragments)
      ((keptFrom before (Fragment.lay name start fragments)).map (·.slice)) := by
  induction fragments generalizing start before with
  | nil => exact .nil (skippable_nil true)
  | cons fragment others ih =>
    obtain ⟨first, solid⟩ := List.forall_mem_cons.mp solid
    obtain ⟨deleted, blank⟩ := List.forall_mem_cons.mp blank
    have further := ih solid blank (start.afterRun fragment.covered)
      (fragment.token name start :: before)
    rw [Fragment.lay, keptFrom]
    split
    · rename_i trimmed
      exact .lead (skippable_append true) (deleted (trimmed.imp And.left And.left)) further
    · exact .cons (skippable_nil true) first rfl rfl further

-- One step of the merge: the last slice grows or one more follows.
theorem strewn_place {gap : List Char → Prop} {start : Position} {text : List Char}
    {written rest : List Token} {token : Token}
    (strewn : Strewn gap start text ((written.reverse ++ token :: rest).map (·.slice))) :
    Strewn gap start text (((place written token).reverse ++ rest).map (·.slice)) := by
  have same : token.asContent.slice = token.slice := by
    unfold Token.asContent
    split <;> rfl
  cases written with
  | nil => simpa [place, same] using strewn
  | cons last earlier =>
    unfold place
    dsimp only
    split
    · have starts : (merged last token.asContent).slice.start = last.slice.start := rfl
      have stops : (merged last token.asContent).slice.stop = token.slice.stop := by
        rw [← same]
        rfl
      simp only [List.reverse_cons, List.map_append, List.map_cons, List.append_assoc,
        List.cons_append, List.nil_append] at strewn ⊢
      exact strewn.join starts stops _
    · simpa [same] using strewn

theorem strewn_foldl_place {gap : List Char → Prop} {start : Position} {text : List Char}
    {written tokens : List Token}
    (strewn : Strewn gap start text ((written.reverse ++ tokens).map (·.slice))) :
    Strewn gap start text ((tokens.foldl place written).reverse.map (·.slice)) := by
  induction tokens generalizing written with
  | nil => simpa using strewn
  | cons token rest ih => exact ih (strewn_place strewn)

theorem strewn_optimize {fragments : List Fragment}
    (solid : ∀ fragment ∈ fragments, fragment.covered ≠ [])
    (blank : ∀ fragment ∈ fragments, fragment.kind = .whitespace ∨ fragment.kind = .newline →
      Skippable true fragment.covered) (name : String) (trim : Bool) :
    Strewn (Skippable trim) .start (Fragment.source fragments)
      ((optimize (Fragment.lay name .start fragments) trim).map (·.slice)) := by
  rw [optimize_merges, mergeAll]
  apply strewn_foldl_place
  cases trim with
  | false => exact strewn_lay (skippable_nil false) solid name .start
  | true => exact strewn_keptFrom solid blank name .start []

end TwoStages

namespace Compiler
variable {σ : Type}

theorem writes_map_source (config : Config) (source : Source) (memory : σ) {tokens : List Token}
    (lexes : (Lexer.tokenize ⟨config.marker, .builtins⟩ source memory).value = .ok tokens) :
    ∃ writes, (new config).Hands source memory writes ∧
      source.MappedBy (writes.map (·.slice)) (Skippable config.trim) ∧
      (writes.foldl Listing.record .empty).Lined writes := by
  refine ⟨_, hands_of_tokenize lexes, ?_⟩
  obtain ⟨fragments, follows, rfl⟩ := Lexer.tokenize_follows MacroTable.blocksOnly_builtins lexes
  have strewn := TwoStages.strewn_optimize follows.nonempty
    (fun fragment member kind => (follows.blank fragment member kind).2) source.name config.trim
  rw [← follows.covers_whole] at strewn
  have slices (tokens : List Token) : (tokens.map Token.write).map (·.slice) =
      tokens.map (·.slice) := by
    rw [List.map_map]
    rfl
  rw [← slices] at strewn
  exact ⟨strewn.mappedBy, Listing.lined_foldl_record (strewn.ordered.imp And.right)⟩

-- Two blocks meet over a deleted newline, and a blank run before a third one is left out.
def blanksAroundBlocks : Source :=
  ⟨"page", "é \t◊\x7bx\x7d\n◊\x7by\x7d ◊^\x7bg\x7d\n\n◊n\n".toList⟩

theorem map_blanksAroundBlocks :
    ∃ tokens writes,
      (Lexer.tokenize ⟨'◊', .builtins⟩ blanksAroundBlocks ()).value = .ok tokens ∧
      (new ⟨'◊', true⟩).Hands blanksAroundBlocks () writes ∧
      writes.map (fun write => (write.slice.text, write.slice.start, write.slice.stop.offset)) =
        [("é", ⟨0, 1, 1⟩, 2), ("x\ny", ⟨4, 1, 4⟩, 17), ("g", ⟨18, 2, 6⟩, 25),
          ("\n", ⟨26, 3, 1⟩, 27), ("n", ⟨27, 4, 1⟩, 31), ("\n", ⟨31, 4, 3⟩, 32)] ∧
      (writes.foldl Listing.record .empty).instructions =
        [⟨2, .globalBlock, "g"⟩, ⟨1, .text, "é"⟩, ⟨1, .localBlock, "x\ny"⟩, ⟨3, .text, "\n"⟩,
          ⟨4, .expression, "n"⟩, ⟨4, .text, "\n"⟩] ∧
      blanksAroundBlocks.MappedBy (writes.map (·.slice)) (Skippable true) ∧
      (writes.foldl Listing.record .empty).Lined writes := by
  have shown : (Lexer.tokenize ⟨'◊', .builtins⟩ blanksAroundBlocks ()).value.toOption.map
      (fun tokens =>
        let writes := (optimize tokens true).map Token.write
        (writes.map fun write => (write.slice.text, write.slice.start, write.slice.stop.offset),
          (writes.foldl Listing.record .empty).instructions)) =
      some ([("é", ⟨0, 1, 1⟩, 2), ("x\ny", ⟨4, 1, 4⟩, 17), ("g", ⟨18, 2, 6⟩, 25),
          ("\n", ⟨26, 3, 1⟩, 27), ("n", ⟨27, 4, 1⟩, 31), ("\n", ⟨31, 4, 3⟩, 32)],
        [⟨2, .globalBlock, "g"⟩, ⟨1, .text, "é"⟩, ⟨1, .localBlock, "x\ny"⟩, ⟨3, .text, "\n"⟩,
          ⟨4, .expression, "n"⟩, ⟨4, .text, "\n"⟩]) := by
    decide +kernel
  obtain ⟨tokens, lexes, answered⟩ := Outcome.ok_of_map shown
  obtain ⟨spans, lines⟩ := Prod.mk.inj answered
  obtain ⟨writes, hands, mapped, lined⟩ :=
    writes_map_source ⟨'◊', true⟩ blanksAroundBlocks () lexes
  obtain rfl := hands.unique (hands_of_tokenize lexes)
  exact ⟨tokens, _, lexes, hands, spans, lines, mapped, lined⟩

end Compiler
end TemplateCompiler
