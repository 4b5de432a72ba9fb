import TemplateCompiler.Cursor.Basic
import TemplateCompiler.Token.Basic

namespace TemplateCompiler

structure Fragment where
  kind : TokenKind
  text : List Char
  covered : List Char
deriving DecidableEq

namespace Fragment

def token (name : String) (start : Position) (fragment : Fragment) : Token :=
  .plain fragment.kind
    ⟨name, String.ofList fragment.text, start, start.afterRun fragment.covered⟩

def lay (name : String) (start : Position) : List Fragment → List Token
  | [] => []
  | fragment :: others =>
    fragment.token name start :: lay name (start.afterRun fragment.covered) others

def source (fragments : List Fragment) : List Char := fragments.flatMap (·.covered)

@[simp] theorem source_nil : source [] = [] := rfl

@[simp] theorem source_cons (fragment : Fragment) (others : List Fragment) :
    source (fragment :: others) = fragment.covered ++ source others := rfl

@[simp] theorem source_append (left right : List Fragment) :
    source (left ++ right) = source left ++ source right := by
  simp [source]

theorem lay_append (name : String) (start : Position) (left right : List Fragment) :
    lay name start (left ++ right) =
      lay name start left ++ lay name (start.afterRun (source left)) right := by
  induction left generalizing start with
  | nil => rfl
  | cons fragment others ih =>
    rw [List.cons_append, lay, lay, ih, source_cons, Position.afterRun_append]
    rfl

end Fragment

namespace Cursor

structure Passes (cursor : Cursor) (run : List Char) (later : Cursor) : Prop where
  rest : cursor.rest = run ++ later.rest
  moved : later = cursor.skip run.length

theorem passes_skip {cursor : Cursor} {run rest : List Char} (splits : cursor.rest = run ++ rest) :
    Passes cursor run (cursor.skip run.length) :=
  ⟨by simp [splits], rfl⟩

theorem passes_to {cursor later : Cursor} {run rest : List Char}
    (splits : cursor.rest = run ++ rest) (moved : later = cursor.skip run.length) :
    Passes cursor run later ∧ later.rest = rest := by
  subst moved
  exact ⟨passes_skip splits, by simp [splits]⟩

theorem Passes.refl (cursor : Cursor) : Passes cursor [] cursor := ⟨rfl, (skip_zero cursor).symm⟩

theorem Passes.trans {first middle last : Cursor} {left right : List Char}
    (one : Passes first left middle) (two : Passes middle right last) :
    Passes first (left ++ right) last := by
  refine ⟨by rw [one.rest, two.rest, List.append_assoc], ?_⟩
  rw [two.moved, one.moved, skip_skip, List.length_append]

theorem Passes.behind {first middle last : Cursor} {left right : List Char}
    (one : Passes first left middle) (whole : Passes first (left ++ right) last) :
    Passes middle right last := by
  refine ⟨?_, by rw [whole.moved, one.moved, skip_skip, List.length_append]⟩
  have ahead := one.rest.symm.trans whole.rest
  rwa [List.append_assoc, List.append_cancel_left_eq] at ahead

theorem Passes.name {cursor later : Cursor} {run : List Char} (passes : Passes cursor run later) :
    later.name = cursor.name := by
  rw [passes.moved, name_skip]

theorem Passes.position {cursor later : Cursor} {run : List Char}
    (passes : Passes cursor run later) :
    later.position = cursor.position.afterRun run := by
  rw [passes.moved, skip, passes.rest, List.take_left]

theorem Passes.token {cursor later : Cursor} {fragment : Fragment}
    (passes : Passes cursor fragment.covered later) :
    .plain fragment.kind (cursor.spanTo later fragment.text) =
      fragment.token cursor.name cursor.position := by
  simp only [spanTo, passes.position, Fragment.token]

-- The tokens are those of fragments that cover the text between two cursors.
structure Covers (cursor : Cursor) (fragments : List Fragment) (tokens : List Token)
    (later : Cursor) : Prop where
  passes : cursor.Passes (Fragment.source fragments) later
  laid : tokens = Fragment.lay cursor.name cursor.position fragments

theorem Covers.nil (cursor : Cursor) : Covers cursor [] [] cursor := ⟨.refl cursor, rfl⟩

theorem Covers.one {cursor later : Cursor} {fragment : Fragment}
    (passes : Passes cursor fragment.covered later) :
    Covers cursor [fragment] [fragment.token cursor.name cursor.position] later :=
  ⟨by simpa using passes, rfl⟩

theorem Covers.append {first middle last : Cursor} {left right : List Fragment}
    {tokens others : List Token} (one : Covers first left tokens middle)
    (two : Covers middle right others last) :
    Covers first (left ++ right) (tokens ++ others) last := by
  refine ⟨by simpa using one.passes.trans two.passes, ?_⟩
  rw [Fragment.lay_append, one.laid, two.laid, one.passes.name, one.passes.position]

end Cursor
end TemplateCompiler
