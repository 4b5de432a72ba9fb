import TemplateCompiler.Stored

namespace TemplateCompiler

def Position.InRange (position : Position) : Prop :=
  position.offset < offsetLimit ∧ position.line < countLimit ∧ position.column < countLimit

structure Slice.InRange (slice : Slice) : Prop where
  start : slice.start.InRange
  stop : slice.stop.InRange

def TokenKind.InRange (kind : TokenKind) : Prop := ∀ id, kind = .custom id → id < countLimit

theorem Stored.asNatural?_eq_some {limit number : Nat} {stored : Stored}
    (read : stored.asNatural? limit = some number) : number < limit := by
  cases stored with
  | natural value =>
    simp only [asNatural?] at read
    split at read
    · cases read
      assumption
    · cases read
  | _ => cases read

namespace Position

theorem read?_stored {position : Position} (inRange : position.InRange) :
    read? position.stored = some position := by
  obtain ⟨offset, line, column⟩ := inRange
  have row : position.stored.record? ["offset", "line", "column"] false =
      some [some (.natural position.offset), some (.natural position.line),
        some (.natural position.column)] := rfl
  simp [read?, row, Stored.asNatural?, offset, line, column]

theorem inRange_of_read? {stored : Stored} {position : Position}
    (read : read? stored = some position) : position.InRange := by
  unfold read? at read
  split at read
  · simp only [Option.bind_eq_bind, Option.bind_eq_some_iff] at read
    obtain ⟨offset, readOffset, line, readLine, column, readColumn, same⟩ := read
    cases same
    exact ⟨Stored.asNatural?_eq_some readOffset, Stored.asNatural?_eq_some readLine,
      Stored.asNatural?_eq_some readColumn⟩
  · cases read

end Position

namespace Slice

theorem read?_stored {slice : Slice} (inRange : slice.InRange) :
    read? slice.stored = some slice := by
  have row : slice.stored.record? ["source", "text", "start", "end"] false =
      some [some (.text slice.source), some (.text slice.text), some slice.start.stored,
        some slice.stop.stored] := rfl
  simp [read?, row, Stored.asText?, Position.read?_stored inRange.start,
    Position.read?_stored inRange.stop]

theorem inRange_of_read? {stored : Stored} {slice : Slice} (read : read? stored = some slice) :
    slice.InRange := by
  unfold read? at read
  split at read
  · simp only [Option.bind_eq_bind, Option.bind_eq_some_iff] at read
    obtain ⟨source, -, text, -, start, readStart, stop, readStop, same⟩ := read
    cases same
    exact ⟨Position.inRange_of_read? readStart, Position.inRange_of_read? readStop⟩
  · cases read

end Slice

namespace TokenKind

theorem read?_stored {kind : TokenKind} (inRange : kind.InRange) :
    read? kind.stored = some kind := by
  cases kind with
  | custom id => simp [read?, stored, Stored.asNatural?, inRange id rfl]
  | _ => decide

theorem inRange_of_builtin {name : String} {kind : TokenKind}
    (found : builtin.find? (·.dump = name) = some kind) : kind.InRange := by
  rintro id rfl
  have listed := List.mem_of_find?_eq_some found
  simp [builtin] at listed

theorem inRange_of_read? {stored : Stored} {kind : TokenKind} (read : read? stored = some kind) :
    kind.InRange := by
  unfold read? at read
  split at read
  · exact inRange_of_builtin read
  · obtain ⟨number, readNumber, same⟩ := Option.map_eq_some_iff.mp read
    rintro id rfl
    cases same
    exact Stored.asNatural?_eq_some readNumber
  · exact inRange_of_builtin read
  · cases read

end TokenKind

-- Ranges are all that reading checks: a value with an inverted span or with a custom number of a
-- built-in kind is read exactly if its numbers fit.
theorem Stored.readable_iff_inRange (slice : Slice) (kind : TokenKind) :
    ((∃ stored, Slice.read? stored = some slice) ↔ slice.InRange) ∧
      ((∃ stored, TokenKind.read? stored = some kind) ↔ kind.InRange) := by
  refine ⟨⟨?_, ?_⟩, ⟨?_, ?_⟩⟩
  · rintro ⟨stored, read⟩
    exact Slice.inRange_of_read? read
  · intro inRange
    exact ⟨slice.stored, Slice.read?_stored inRange⟩
  · rintro ⟨stored, read⟩
    exact TokenKind.inRange_of_read? read
  · intro inRange
    exact ⟨kind.stored, TokenKind.read?_stored inRange⟩

def backwardSpan : Slice := ⟨"t", "", ⟨5, 1, 6⟩, ⟨0, 1, 1⟩⟩

-- The checked way to a slice refuses this span. The custom kind has the number of a built-in one.
theorem Stored.reads_unchecked :
    Slice.read? backwardSpan.stored = some backwardSpan ∧
      ¬ backwardSpan.start.offset ≤ backwardSpan.stop.offset ∧
      Slice.make "t" "" backwardSpan.start backwardSpan.stop = .error (.invertedSlice 5 0) ∧
      TokenKind.read? (.fields [("Custom", .natural 3)]) = some (.custom 3) ∧
      ¬ firstCustomId ≤ 3 ∧ TokenKind.globalBlock.id = 3 := by
  have inRange : backwardSpan.InRange := by
    refine ⟨⟨?_, ?_, ?_⟩, ⟨?_, ?_, ?_⟩⟩
    all_goals decide
  exact ⟨Slice.read?_stored inRange, by decide, rfl, rfl, by decide, rfl⟩

end TemplateCompiler
