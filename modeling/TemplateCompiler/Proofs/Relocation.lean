import TemplateCompiler.Proofs.Fragments
import TemplateCompiler.Proofs.LineTable

namespace TemplateCompiler
open Text

namespace Position

-- A position of a text that begins at `base`. Only the first line goes on from the column there.
def shiftedBy (position base : Position) : Position :=
  ⟨position.offset + base.offset, position.line + base.line - 1,
    if position.line = 1 then position.column + base.column - 1 else position.column⟩

def below (position : Position) (bytes lines : Nat) : Position :=
  ⟨position.offset + bytes, position.line + lines, position.column⟩

theorem start_shiftedBy (base : Position) : start.shiftedBy base = base := by
  simp [shiftedBy, start]

theorem after_shiftedBy (base : Position) {position : Position} (line : 0 < position.line)
    (column : 0 < position.column) (c : Char) :
    (position.after c).shiftedBy base = (position.shiftedBy base).after c := by
  by_cases newline : c = '\n'
  · simp only [shiftedBy, after, if_pos newline, Position.mk.injEq]
    exact ⟨by omega, by omega, if_neg (by omega)⟩
  · simp only [shiftedBy, after, if_neg newline, Position.mk.injEq, true_and]
    refine ⟨by omega, ?_⟩
    split <;> omega

theorem afterRun_shiftedBy (base : Position) {position : Position} (line : 0 < position.line)
    (column : 0 < position.column) (run : List Char) :
    (position.afterRun run).shiftedBy base = (position.shiftedBy base).afterRun run := by
  induction run generalizing position with
  | nil => rfl
  | cons c rest ih =>
    have stepped : 0 < (position.after c).line ∧ 0 < (position.after c).column := by
      unfold after
      split
      · exact ⟨Nat.succ_pos _, Nat.one_pos⟩
      · exact ⟨line, Nat.succ_pos _⟩
    rw [afterRun_cons, afterRun_cons, ih stepped.1 stepped.2, after_shiftedBy base line column]

theorem afterRun_eq_shiftedBy (base : Position) (run : List Char) :
    base.afterRun run = (start.afterRun run).shiftedBy base := by
  rw [afterRun_shiftedBy base Nat.one_pos Nat.one_pos, start_shiftedBy]

theorem afterRun_below (bytes lines : Nat) (position : Position) (run : List Char) :
    (position.afterRun run).below bytes lines = (position.below bytes lines).afterRun run := by
  induction run generalizing position with
  | nil => rfl
  | cons c rest ih =>
    have stepped : (position.after c).below bytes lines = (position.below bytes lines).after c := by
      by_cases newline : c = '\n' <;>
        simp only [below, after, newline, if_true, if_false, Position.mk.injEq, and_true] <;> omega
    rw [afterRun_cons, afterRun_cons, ih, stepped]

end Position

def Token.moved (move : Position → Position) (token : Token) : Token :=
  { token with slice :=
    { token.slice with start := move token.slice.start, stop := move token.slice.stop } }

-- A move that goes along with stepping over text moves a row of fragments at once.
theorem Fragment.lay_moved (move : Position → Position) (name : String) {start : Position}
    (along : ∀ run, move (start.afterRun run) = (move start).afterRun run)
    (fragments : List Fragment) :
    lay name (move start) fragments = (lay name start fragments).map (·.moved move) := by
  induction fragments generalizing start with
  | nil => rfl
  | cons fragment others ih =>
    have further : ∀ run, move ((start.afterRun fragment.covered).afterRun run) =
        (move (start.afterRun fragment.covered)).afterRun run := by
      intro run
      rw [← Position.afterRun_append, along, along, Position.afterRun_append]
    rw [lay, lay, List.map_cons, ← along, ih further]
    simp only [token, Token.moved, Token.plain, along]

theorem Fragment.lay_shiftedBy (name : String) (base : Position) (fragments : List Fragment) :
    lay name base fragments = (lay name .start fragments).map (·.moved (·.shiftedBy base)) := by
  have along : ∀ run, (Position.start.afterRun run).shiftedBy base =
      (Position.start.shiftedBy base).afterRun run := by
    intro run
    rw [Position.start_shiftedBy, ← Position.afterRun_eq_shiftedBy]
  have moved := lay_moved (·.shiftedBy base) name along fragments
  rwa [Position.start_shiftedBy] at moved

end TemplateCompiler
