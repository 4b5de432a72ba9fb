import Mathlib.Data.List.Infix
import TemplateCompiler.Proofs.Constructs
import TemplateCompiler.Proofs.CursorPositions
import TemplateCompiler.Proofs.TextRunBytes

namespace TemplateCompiler
open Text

def IsFirst (holds : Nat → Prop) : Option Nat → Prop
  | some index => holds index ∧ ∀ earlier < index, ¬ holds earlier
  | none => ∀ index, ¬ holds index

theorem IsFirst.unique {holds : Nat → Prop} {left right : Option Nat} (one : IsFirst holds left)
    (two : IsFirst holds right) : left = right := by
  cases left with
  | none =>
    cases right with
    | none => rfl
    | some index => exact absurd two.1 (one index)
  | some index =>
    cases right with
    | none => exact absurd one.1 (two index)
    | some other =>
      rcases Nat.lt_trichotomy index other with less | same | less
      · exact absurd one.1 (two.2 index less)
      · rw [same]
      · exact absurd two.1 (one.2 other less)

theorem isFirst_findIdx? {α : Type} (wanted : α → Bool) (items : List α) :
    IsFirst (fun index => ∃ item ∈ items[index]?, wanted item = true) (items.findIdx? wanted) := by
  cases found : items.findIdx? wanted with
  | none =>
    rintro index ⟨item, placed, holds⟩
    have other := List.findIdx?_eq_none_iff.mp found item (List.mem_of_getElem? placed)
    rw [holds] at other
    cases other
  | some index =>
    obtain ⟨within, here, before⟩ := List.findIdx?_eq_some_iff_getElem.mp found
    refine ⟨⟨items[index], List.getElem?_eq_getElem within, here⟩, ?_⟩
    rintro earlier less ⟨item, placed, holds⟩
    obtain ⟨_, same⟩ := List.getElem?_eq_some_iff.mp placed
    apply before earlier less
    rwa [same]

def Cursor.readBytes (cursor : Cursor) (count : Nat) : Except Misuse (Slice × Cursor) := do
  let later ← cursor.seek (cursor.offset + count)
  let slice ← later.slice cursor.offset later.offset
  return (slice, later)

structure ByteSearch where
  oneOf : (first second third : UInt8) → List UInt8 → Option Nat
  run : (needle : List UInt8) → List UInt8 → Option Nat

namespace ByteSearch

structure FindsFirst (search : ByteSearch) : Prop where
  oneOf : ∀ first second third bytes,
    IsFirst (fun index => ∃ byte ∈ bytes[index]?, byte = first ∨ byte = second ∨ byte = third)
      (search.oneOf first second third bytes)
  run : ∀ needle bytes,
    IsFirst (fun index => index ≤ bytes.length ∧ needle <+: bytes.drop index)
      (search.run needle bytes)

def linear : ByteSearch where
  oneOf first second third bytes :=
    bytes.findIdx? fun byte => byte = first ∨ byte = second ∨ byte = third
  run needle bytes := bytes.tails.findIdx? needle.isPrefixOf

theorem findsFirst_linear : linear.FindsFirst where
  oneOf first second third bytes := by
    have found := isFirst_findIdx?
      (fun byte => decide (byte = first ∨ byte = second ∨ byte = third)) bytes
    simp only [decide_eq_true_eq] at found
    exact found
  run needle bytes := by
    have same : (fun index => index ≤ bytes.length ∧ needle <+: bytes.drop index) =
        fun index => ∃ tail ∈ bytes.tails[index]?, needle.isPrefixOf tail = true := by
      funext index
      apply propext
      constructor
      · rintro ⟨within, begins⟩
        refine ⟨bytes.drop index, ?_, List.isPrefixOf_iff_prefix.mpr begins⟩
        have short : index < bytes.tails.length := by
          rw [List.length_tails]
          omega
        rw [Option.mem_def, List.getElem?_eq_getElem short, List.getElem_tails]
      · rintro ⟨tail, placed, begins⟩
        obtain ⟨short, rfl⟩ := List.getElem?_eq_some_iff.mp placed
        rw [List.getElem_tails] at begins
        rw [List.length_tails] at short
        exact ⟨by omega, List.isPrefixOf_iff_prefix.mp begins⟩
    rw [same]
    exact isFirst_findIdx? needle.isPrefixOf bytes.tails

-- Where literal text ends. The marker only matters before the first separator.
def textRunEnd (search : ByteSearch) (marker : Char) (bytes : List UInt8) : Nat :=
  let run := (search.oneOf 0x20 0x9 0xA bytes).getD bytes.length
  (search.run (String.utf8EncodeChar marker) (bytes.take run)).getD run

def readTextRun (search : ByteSearch) (cursor : Cursor) (marker : Char) :
    Except Misuse (Slice × Cursor) :=
  cursor.readBytes (search.textRunEnd marker ((utf8 cursor.source.text).drop cursor.offset))

theorem findIdx?_tails {needle : List UInt8} (nonempty : needle ≠ []) (bytes : List UInt8) :
    (bytes.tails.findIdx? needle.isPrefixOf).getD bytes.length = findBytes needle bytes := by
  induction bytes with
  | nil =>
    obtain ⟨byte, others, rfl⟩ := List.exists_cons_of_ne_nil nonempty
    rfl
  | cons byte rest ih =>
    rw [List.tails_cons, List.findIdx?_cons, findBytes]
    split
    · rfl
    · rw [← ih, List.length_cons]
      cases rest.tails.findIdx? needle.isPrefixOf <;> rfl

theorem textRunEnd_linear (marker : Char) (text : List Char) :
    linear.textRunEnd marker (utf8 text) = textRunBytes marker text := by
  have separators : (fun byte : UInt8 => decide (byte = 0x20 ∨ byte = 0x9 ∨ byte = 0xA)) =
      isSeparatorByte := rfl
  have before : (utf8 text).takeWhile (fun byte => !isSeparatorByte byte) =
      (utf8 text).take ((utf8 text).findIdx isSeparatorByte) := by
    simp [List.takeWhile_eq_take_findIdx_not]
  have long : ((utf8 text).take ((utf8 text).findIdx isSeparatorByte)).length =
      (utf8 text).findIdx isSeparatorByte := by
    rw [List.length_take, Nat.min_eq_left List.findIdx_le_length]
  unfold textRunEnd textRunBytes linear
  dsimp only
  rw [separators, ← List.findIdx_eq_getD_findIdx?, before,
    ← findIdx?_tails String.utf8EncodeChar_ne_nil, long]

theorem FindsFirst.textRunEnd_eq {search : ByteSearch} (first : search.FindsFirst) (marker : Char)
    (text : List Char) :
    search.textRunEnd marker (utf8 text) = byteLength (text.takeWhile (isTextRune marker)) := by
  have oneOf : search.oneOf = linear.oneOf := by
    funext a b c bytes
    exact (first.oneOf a b c bytes).unique (findsFirst_linear.oneOf a b c bytes)
  have run : search.run = linear.run := by
    funext needle bytes
    exact (first.run needle bytes).unique (findsFirst_linear.run needle bytes)
  rw [← textRunBytes_eq, ← textRunEnd_linear, textRunEnd, oneOf, run]
  rfl

end ByteSearch

namespace Text

theorem utf8_append (left right : List Char) : utf8 (left ++ right) = utf8 left ++ utf8 right :=
  List.flatMap_append

theorem length_utf8 (text : List Char) : (utf8 text).length = byteLength text := by
  induction text with
  | nil => rfl
  | cons c rest ih =>
    rw [utf8_cons, List.length_append, ih, String.length_utf8EncodeChar, byteLength_cons]

end Text

namespace Cursor

structure TakesRun (source : Source) (set : Char → Bool) (cursor : Cursor) (run : List Char)
    (slice : Slice) (later : Cursor) : Prop where
  ahead : cursor.rest = run ++ later.rest
  inside : ∀ c ∈ run, set c = true
  outside : ∀ c ∈ later.rest.head?, set c = false
  verbatim : slice = ⟨source.name, String.ofList run, source.positionAt cursor.offset,
    source.positionAt later.offset⟩
  moved : later.offset = cursor.offset + byteLength run
  whole : source.IsBoundary later.offset
  tracked : later.position = source.positionAt later.offset

section Canonical
variable {source : Source} {cursor : Cursor}

theorem take_run (cursor : Cursor) (set : Char → Bool) :
    cursor.rest.take (cursor.rest.takeWhile set).length = cursor.rest.takeWhile set :=
  (List.prefix_iff_eq_take.mp (List.takeWhile_prefix set)).symm

theorem Canonical.takesRun (canonical : Canonical source cursor) (set : Char → Bool) :
    TakesRun source set cursor (cursor.rest.takeWhile set) (cursor.readWhile set).value
      (cursor.after (cursor.readWhile set)) := by
  obtain ⟨passes, behind⟩ : cursor.Passes (cursor.rest.takeWhile set)
      (cursor.after (cursor.readWhile set)) ∧
      (cursor.after (cursor.readWhile set)).rest = cursor.rest.dropWhile set :=
    passes_to List.takeWhile_append_dropWhile.symm rfl
  have later : Canonical source (cursor.after (cursor.readWhile set)) := canonical.skip _
  constructor
  case ahead => exact passes.rest
  case inside => exact fun c member => List.all_eq_true.mp List.all_takeWhile c member
  case outside =>
    rw [behind]
    exact head_dropWhile
  case verbatim =>
    rw [← canonical.position_eq, ← later.position_eq, ← canonical.name]
    simp only [readWhile, take, ahead, spanTo, take_run, after]
  case moved =>
    rw [offset, offset, passes.position, Position.offset_afterRun]
  case whole => exact later.isBoundary
  case tracked => exact later.position_eq

theorem Canonical.bytes_ahead (canonical : Canonical source cursor) :
    (utf8 cursor.source.text).drop cursor.offset = utf8 cursor.rest := by
  rw [canonical.source_eq, ← canonical.text, utf8_append]
  apply List.drop_left'
  rw [length_utf8, canonical.offset_eq]

theorem Canonical.readBytes_run (canonical : Canonical source cursor) (set : Char → Bool) :
    cursor.readBytes (byteLength (cursor.rest.takeWhile set)) =
      .ok ((cursor.readWhile set).value, cursor.after (cursor.readWhile set)) := by
  have moved := canonical.seek_offset (canonical.skip (cursor.rest.takeWhile set).length)
  rw [offset_skip, take_run] at moved
  have sliced := canonical.slice_skip (cursor.rest.takeWhile set).length
  unfold readBytes
  rw [moved]
  exact congrArg (Except.map (·, cursor.after (cursor.readWhile set))) sliced

end Canonical

-- Whatever session led to the cursor and whatever the marker is, a blank or a newline included,
-- the searches over bytes read what a scan over runes reads: the longest run of text runes,
-- verbatim, with true positions and no rune cut.
theorem textRun_of_firstPlaces {search : ByteSearch} (first : search.FindsFirst) {source : Source}
    {session : Session} (reached : session.Reached source) (marker : Char) :
    let read := session.current.readWhile (isTextRune marker)
    search.readTextRun session.current marker = .ok (read.value, session.current.after read) ∧
      ∃ run, TakesRun source (isTextRune marker) session.current run read.value
        (session.current.after read) := by
  have canonical := reached.canonical.1
  refine ⟨?_, _, canonical.takesRun (isTextRune marker)⟩
  rw [ByteSearch.readTextRun, canonical.bytes_ahead, first.textRunEnd_eq]
  exact canonical.readBytes_run (isTextRune marker)

-- Runes that begin or end with bytes of the marker, before the marker itself.
theorem textRun_beside_marker :
    ∃ session : Session, session.Reached ⟨"t", ['x', ' ', '⊊', 'é', '◌', '◊', 'b']⟩ ∧
      ByteSearch.linear.FindsFirst ∧ session.current.rest = ['⊊', 'é', '◌', '◊', 'b'] ∧
      ByteSearch.linear.readTextRun session.current '◊' =
        .ok (⟨"t", String.ofList ['⊊', 'é', '◌'], ⟨2, 1, 3⟩, ⟨10, 1, 6⟩⟩, session.current.skip 3) ∧
      ∃ run slice, TakesRun ⟨"t", ['x', ' ', '⊊', 'é', '◌', '◊', 'b']⟩ (isTextRune '◊')
        session.current run slice (session.current.skip 3) := by
  let source : Source := ⟨"t", ['x', ' ', '⊊', 'é', '◌', '◊', 'b']⟩
  have reached : Session.Reached source
      ⟨(ofSource source).after ((ofSource source).readWhile (· ≠ '⊊')), []⟩ :=
    .step .start (.move (.take (.run (· ≠ '⊊'))))
  obtain ⟨found, run, takes⟩ :=
    textRun_of_firstPlaces ByteSearch.findsFirst_linear reached '◊'
  exact ⟨_, reached, ByteSearch.findsFirst_linear, rfl, found, run, _, takes⟩

end Cursor
end TemplateCompiler
