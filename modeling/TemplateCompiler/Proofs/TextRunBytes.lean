import Mathlib.Data.List.TakeWhile
import TemplateCompiler.Cursor.Read

namespace TemplateCompiler
namespace Text

def utf8 (text : List Char) : List UInt8 := text.flatMap String.utf8EncodeChar

@[simp] theorem utf8_nil : utf8 [] = [] := rfl

@[simp] theorem utf8_cons (c : Char) (rest : List Char) :
    utf8 (c :: rest) = String.utf8EncodeChar c ++ utf8 rest := rfl

-- Index of the first place where a needle begins, the length if it begins nowhere.
def findBytes (needle : List UInt8) : List UInt8 → Nat
  | [] => 0
  | byte :: rest =>
    if needle.isPrefixOf (byte :: rest) then 0 else findBytes needle rest + 1

def isSeparatorByte (byte : UInt8) : Bool := byte = 0x20 ∨ byte = 0x9 ∨ byte = 0xA

def isSeparator (c : Char) : Bool := c = ' ' ∨ c = '\t' ∨ c = '\n'

def textRunBytes (marker : Char) (text : List Char) : Nat :=
  let run := (utf8 text).takeWhile fun byte => !isSeparatorByte byte
  findBytes (String.utf8EncodeChar marker) run

-- A rune is one byte of the lower half or several of the upper half.
theorem utf8EncodeChar_halves (c : Char) :
    (c.toNat ≤ 127 ∧ String.utf8EncodeChar c = [UInt8.ofNat c.toNat]) ∨
      (127 < c.toNat ∧ ∀ byte ∈ String.utf8EncodeChar c, 128 ≤ byte.toNat) := by
  unfold String.utf8EncodeChar
  dsimp only
  split
  · exact .inl ⟨‹_›, rfl⟩
  · rename_i wide
    refine .inr ⟨Nat.lt_of_not_le wide, ?_⟩
    intro byte member
    split at member <;> (try split at member) <;>
      simp only [List.mem_cons, List.not_mem_nil, or_false] at member <;>
      rcases member with rfl | rfl | rfl | rfl <;>
      simp only [UInt8.toNat_ofNat'] <;> omega

theorem isSeparator_iff_toNat {c : Char} :
    isSeparator c = true ↔ c.toNat = 32 ∨ c.toNat = 9 ∨ c.toNat = 10 := by
  simp only [isSeparator, decide_eq_true_eq, ← Char.toNat_inj]
  rfl

theorem isSeparatorByte_iff_toNat {byte : UInt8} :
    isSeparatorByte byte = true ↔ byte.toNat = 32 ∨ byte.toNat = 9 ∨ byte.toNat = 10 := by
  simp only [isSeparatorByte, decide_eq_true_eq, ← UInt8.toNat_inj]
  rfl

theorem takeWhile_utf8EncodeChar_append (c : Char) (rest : List UInt8) :
    (String.utf8EncodeChar c ++ rest).takeWhile (fun byte => !isSeparatorByte byte) =
      if isSeparator c then []
      else String.utf8EncodeChar c ++ rest.takeWhile fun byte => !isSeparatorByte byte := by
  rcases utf8EncodeChar_halves c with ⟨narrow, single⟩ | ⟨wide, high⟩
  · have same : isSeparatorByte (UInt8.ofNat c.toNat) = isSeparator c := by
      rw [Bool.eq_iff_iff, isSeparator_iff_toNat, isSeparatorByte_iff_toNat, UInt8.toNat_ofNat',
        Nat.mod_eq_of_lt (by omega)]
    rw [single, List.singleton_append, List.takeWhile_cons, same]
    cases isSeparator c <;> rfl
  · have other : ¬ isSeparator c = true := by
      rw [isSeparator_iff_toNat]
      omega
    rw [if_neg other, List.takeWhile_append_of_pos]
    intro byte member
    have far := high byte member
    rw [Bool.not_eq_true', ← Bool.not_eq_true, isSeparatorByte_iff_toNat]
    omega

theorem takeWhile_utf8 (text : List Char) :
    (utf8 text).takeWhile (fun byte => !isSeparatorByte byte) =
      utf8 (text.takeWhile fun c => !isSeparator c) := by
  induction text with
  | nil => rfl
  | cons c rest ih =>
    rw [utf8_cons, takeWhile_utf8EncodeChar_append, ih, List.takeWhile_cons]
    cases isSeparator c <;> rfl

theorem findBytes_skip {needle left right : List UInt8}
    (nowhere : ∀ index < left.length, ¬ needle <+: (left ++ right).drop index) :
    findBytes needle (left ++ right) = left.length + findBytes needle right := by
  induction left with
  | nil => simp
  | cons byte left ih =>
    have here : ¬ needle.isPrefixOf (byte :: (left ++ right)) = true := by
      rw [List.isPrefixOf_iff_prefix]
      exact nowhere 0 (by simp)
    have later := ih fun index within => nowhere (index + 1) (by simpa using within)
    rw [List.cons_append, findBytes, if_neg here, later, List.length_cons]
    omega

-- Bytes of a rune begin only where the rune begins: the first of them is no byte that continues
-- one, and together they decode to it alone.
theorem not_utf8EncodeChar_prefix {marker c : Char} (other : c ≠ marker) {index : Nat}
    (within : index < (String.utf8EncodeChar c).length) (rest : List UInt8) :
    ¬ String.utf8EncodeChar marker <+: (String.utf8EncodeChar c ++ rest).drop index := by
  rintro ⟨others, splits⟩
  have begun : 0 < (String.utf8EncodeChar marker).length := by
    rw [String.length_utf8EncodeChar]
    exact marker.utf8Size_pos
  have first : (String.utf8EncodeChar marker)[0] = (String.utf8EncodeChar c)[index] := by
    have same := congrArg (·[0]?) splits
    simp only [List.getElem?_drop, Nat.add_zero] at same
    rw [List.getElem?_append_left begun, List.getElem?_append_left within,
      List.getElem?_eq_getElem begun, List.getElem?_eq_getElem within] at same
    exact Option.some.inj same
  have start : (String.utf8EncodeChar marker)[0].IsUTF8FirstByte :=
    UInt8.isUTF8FirstByte_getElem_zero_utf8EncodeChar
  rw [first, UInt8.isUTF8FirstByte_getElem_utf8EncodeChar] at start
  subst start
  apply other
  have decoded := congrArg (fun bytes => bytes.toByteArray.utf8DecodeChar? 0) splits
  simpa [List.toByteArray_append, ByteArray.utf8DecodeChar?_utf8EncodeChar_append] using
    decoded.symm

theorem findBytes_utf8 (marker : Char) (text : List Char) :
    findBytes (String.utf8EncodeChar marker) (utf8 text) =
      byteLength (text.takeWhile (· ≠ marker)) := by
  induction text with
  | nil => rfl
  | cons c rest ih =>
    rw [utf8_cons, List.takeWhile_cons]
    by_cases same : c = marker
    · subst same
      have nonempty : String.utf8EncodeChar c ≠ [] := String.utf8EncodeChar_ne_nil
      obtain ⟨byte, bytes, encoded⟩ := List.exists_cons_of_ne_nil nonempty
      rw [encoded, List.cons_append, findBytes, if_pos (by simp [List.isPrefixOf_iff_prefix])]
      simp
    · rw [findBytes_skip fun index within => not_utf8EncodeChar_prefix same within _, ih,
        String.length_utf8EncodeChar]
      simp [same]

theorem textRunBytes_eq (marker : Char) (text : List Char) :
    textRunBytes marker text = byteLength (text.takeWhile (isTextRune marker)) := by
  rw [textRunBytes, takeWhile_utf8, findBytes_utf8, List.takeWhile_takeWhile]
  congr 2
  funext c
  simp [isTextRune, isSeparator, and_comm, and_assoc, and_left_comm, Bool.and_comm]

end Text
end TemplateCompiler
