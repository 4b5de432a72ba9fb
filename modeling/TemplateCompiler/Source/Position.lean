namespace TemplateCompiler

-- Lines and columns count from one, columns in runes.
structure Position where
  offset : Nat
  line : Nat
  column : Nat
deriving DecidableEq

namespace Position

def start : Position := ⟨0, 1, 1⟩

-- A newline belongs to the line it ends.
def after (position : Position) (c : Char) : Position :=
  if c = '\n' then ⟨position.offset + c.utf8Size, position.line + 1, 1⟩
  else ⟨position.offset + c.utf8Size, position.line, position.column + 1⟩

def afterRun (position : Position) (run : List Char) : Position :=
  run.foldl after position

def display (position : Position) : String := s!"{position.line}:{position.column}"

@[simp] theorem afterRun_nil (position : Position) : position.afterRun [] = position := rfl

@[simp] theorem afterRun_cons (position : Position) (c : Char) (run : List Char) :
    position.afterRun (c :: run) = (position.after c).afterRun run := rfl

theorem afterRun_append (position : Position) (left right : List Char) :
    position.afterRun (left ++ right) = (position.afterRun left).afterRun right := by
  simp [afterRun, List.foldl_append]

end Position
end TemplateCompiler
