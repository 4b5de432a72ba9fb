import Mathlib.Data.List.Chain
import TemplateCompiler.Proofs.Lexing
import TemplateCompiler.Proofs.LineTable

namespace TemplateCompiler
open Text

structure Tiles (source : Source) (tokens : List Token) : Prop where
  empty : tokens = [] → source.text = []
  first : ∀ token ∈ tokens.head?, token.slice.start = .start
  chained : tokens.IsChain fun left right => left.slice.stop = right.slice.start
  solid : ∀ token ∈ tokens, token.slice.start.offset < token.slice.stop.offset
  bounded : ∀ token ∈ tokens, source.IsBoundary token.slice.start.offset ∧
    source.IsBoundary token.slice.stop.offset
  last : ∀ token ∈ tokens.getLast?, token.slice.stop.offset = source.bytes

-- What tiles a text, said of the part between two places of it.
structure TilesBetween (source : Source) (start stop : Position) (tokens : List Token) : Prop where
  empty : tokens = [] → start = stop
  first : ∀ token ∈ tokens.head?, token.slice.start = start
  chained : tokens.IsChain fun left right => left.slice.stop = right.slice.start
  solid : ∀ token ∈ tokens, token.slice.start.offset < token.slice.stop.offset
  bounded : ∀ token ∈ tokens, source.IsBoundary token.slice.start.offset ∧
    source.IsBoundary token.slice.stop.offset
  last : ∀ token ∈ tokens.getLast?, token.slice.stop = stop

namespace TilesBetween
variable {source : Source} {start middle stop : Position} {left right : List Token}

theorem nil (source : Source) (place : Position) : TilesBetween source place place [] where
  empty _ := rfl
  first := by simp
  chained := .nil
  solid := by simp
  bounded := by simp
  last := by simp

theorem append (one : TilesBetween source start middle left)
    (two : TilesBetween source middle stop right) :
    TilesBetween source start stop (left ++ right) where
  empty empty := by
    obtain ⟨noneLeft, noneRight⟩ := List.append_eq_nil_iff.mp empty
    exact (one.empty noneLeft).trans (two.empty noneRight)
  first token ahead := by
    cases left with
    | nil => exact (two.first token ahead).trans (one.empty rfl).symm
    | cons => exact one.first token ahead
  chained := by
    apply List.isChain_append.mpr
    refine ⟨one.chained, two.chained, ?_⟩
    intro earlier ends later begins
    rw [one.last earlier ends, two.first later begins]
  solid token member := by
    cases List.mem_append.mp member with
    | inl before => exact one.solid token before
    | inr behind => exact two.solid token behind
  bounded token member := by
    cases List.mem_append.mp member with
    | inl before => exact one.bounded token before
    | inr behind => exact two.bounded token behind
  last token ends := by
    rcases List.eq_nil_or_concat right with rfl | ⟨others, token, rfl⟩
    · rw [List.append_nil] at ends
      exact (one.last _ ends).trans (two.empty rfl)
    · apply two.last
      simpa using ends

end TilesBetween

theorem Position.isBoundary_afterRun {source : Source} {before after : List Char}
    (splits : source.text = before ++ after) :
    source.IsBoundary (start.afterRun before).offset :=
  ⟨before, after, splits, by rw [offset_afterRun]; exact (Nat.zero_add _).symm⟩

namespace Fragment

theorem mem_lay {name : String} {start : Position} {fragments : List Fragment} {token : Token}
    (member : token ∈ lay name start fragments) :
    ∃ before fragment others, fragments = before ++ fragment :: others ∧
      token = fragment.token name (start.afterRun (source before)) := by
  induction fragments generalizing start with
  | nil => cases member
  | cons one others ih =>
    rcases List.mem_cons.mp member with rfl | later
    · exact ⟨[], one, others, rfl, rfl⟩
    · obtain ⟨before, fragment, after, rfl, placed⟩ := ih later
      refine ⟨one :: before, fragment, after, rfl, ?_⟩
      rw [placed, source_cons, Position.afterRun_append]

theorem start_of_head?_lay {name : String} {start : Position} {fragments : List Fragment} :
    ∀ token ∈ (lay name start fragments).head?, token.slice.start = start := by
  intro token ahead
  cases fragments with
  | nil => cases ahead
  | cons one others => cases ahead; rfl

theorem isChain_lay (name : String) (start : Position) (fragments : List Fragment) :
    (lay name start fragments).IsChain fun left right => left.slice.stop = right.slice.start := by
  induction fragments generalizing start with
  | nil => exact .nil
  | cons one others ih =>
    exact (ih _).cons fun token ahead => (start_of_head?_lay token ahead).symm

theorem stop_of_getLast?_lay {name : String} {start : Position} {fragments : List Fragment} :
    ∀ token ∈ (lay name start fragments).getLast?,
      token.slice.stop = start.afterRun (source fragments) := by
  intro token ends
  rcases List.eq_nil_or_concat fragments with rfl | ⟨before, last, rfl⟩
  · cases ends
  · rw [List.concat_eq_append, lay_append] at ends
    obtain rfl : last.token name (start.afterRun (source before)) = token := by
      simpa [lay] using ends
    simp [Fragment.token, Token.plain, Position.afterRun_append]

theorem tilesBetween_lay {source : Source} {lead rest : List Char} {fragments : List Fragment}
    (splits : source.text = lead ++ Fragment.source fragments ++ rest)
    (nonempty : ∀ fragment ∈ fragments, fragment.covered ≠ []) :
    TilesBetween source (Position.start.afterRun lead)
      (Position.start.afterRun (lead ++ Fragment.source fragments))
      (lay source.name (Position.start.afterRun lead) fragments) where
  empty empty := by
    cases fragments with
    | nil => simp
    | cons => cases empty
  first := start_of_head?_lay
  chained := isChain_lay _ _ _
  solid token member := by
    obtain ⟨before, fragment, others, rfl, rfl⟩ := mem_lay member
    have bytes : byteLength fragment.covered ≠ 0 :=
      fun empty => nonempty fragment (by simp) (byteLength_eq_zero.mp empty)
    simp only [Fragment.token, Token.plain, Position.offset_afterRun]
    omega
  bounded token member := by
    obtain ⟨before, fragment, others, rfl, rfl⟩ := mem_lay member
    have splits : source.text = lead ++ Fragment.source before ++ (fragment.covered ++
        (Fragment.source others ++ rest)) := by simp [splits]
    rw [← Position.afterRun_append]
    constructor
    · exact Position.isBoundary_afterRun splits
    · rw [← List.append_assoc] at splits
      simpa only [Fragment.token, Token.plain, ← Position.afterRun_append] using
        Position.isBoundary_afterRun splits
  last token ends := by
    rw [stop_of_getLast?_lay token ends, Position.afterRun_append]

theorem tiles_lay {source : Source} {fragments : List Fragment}
    (covers : source.text = Fragment.source fragments)
    (nonempty : ∀ fragment ∈ fragments, fragment.covered ≠ []) :
    Tiles source (lay source.name .start fragments) := by
  have between : TilesBetween source .start (Position.start.afterRun source.text)
      (lay source.name .start fragments) := by
    have splits : source.text = [] ++ Fragment.source fragments ++ [] := by simpa using covers
    have laid := tilesBetween_lay splits nonempty
    rwa [List.nil_append, ← covers] at laid
  constructor
  case empty =>
    intro empty
    cases fragments with
    | nil => exact covers
    | cons => cases empty
  case first => exact between.first
  case chained => exact between.chained
  case solid => exact between.solid
  case bounded => exact between.bounded
  case last =>
    intro token ends
    rw [between.last token ends, Position.offset_afterRun]
    exact Nat.zero_add _

end Fragment

theorem Lexer.tiles_of_tokenize {σ : Type} (marker : Char) (source : Source) (memory : σ)
    {tokens : List Token}
    (result : (tokenize ⟨marker, .builtins⟩ source memory).value = .ok tokens) :
    Tiles source tokens := by
  obtain ⟨fragments, lexes, rfl⟩ := tokenize_follows MacroTable.blocksOnly_builtins result
  have covers := lexes.source_eq
  exact Fragment.tiles_lay (by simpa [Part.lead] using covers) lexes.nonempty

def nestedBlocks : Source :=
  ⟨"page", "a◊.for x \x7b◊◊.if y \x7b◊b◊\x7d else if z \x7b◊◊y◊\x7d else \x7b◊\n◊\x7d◊\x7dc".toList⟩

theorem Lexer.tiles_nestedBlocks :
    ∃ tokens, (tokenize ⟨'◊', .builtins⟩ nestedBlocks ()).value = .ok tokens ∧
      tokens.length = 11 ∧ Tiles nestedBlocks tokens := by
  have counted : (tokenize ⟨'◊', .builtins⟩ nestedBlocks ()).value.toOption.map List.length =
      some 11 := by decide +kernel
  obtain ⟨tokens, result, length⟩ := Outcome.ok_of_map counted
  exact ⟨tokens, result, length, tiles_of_tokenize '◊' nestedBlocks () result⟩

end TemplateCompiler
