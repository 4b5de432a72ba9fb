import TemplateCompiler.Proofs.LineTable
import TemplateCompiler.Proofs.Fragments

namespace TemplateCompiler
open Text

namespace Source

def covered (source : Source) (slice : Slice) : Option (List Char) :=
  between? slice.start.offset slice.stop.offset source.text

def beyond (source : Source) (slice : Slice) : Option (List Char) :=
  between? slice.stop.offset source.bytes source.text

end Source

namespace Fragment
variable {source : Source}

theorem offsets_token (name : String) (lead : List Char) (fragment : Fragment) :
    (fragment.token name (Position.start.afterRun lead)).slice.start.offset = byteLength lead ∧
      (fragment.token name (Position.start.afterRun lead)).slice.stop.offset =
        byteLength lead + byteLength fragment.covered := by
  have start : (Position.start.afterRun lead).offset = byteLength lead := by
    rw [Position.offset_afterRun]
    exact Nat.zero_add _
  exact ⟨start, by rw [← start]; exact Position.offset_afterRun _ _⟩

theorem covered_token {lead rest : List Char} {fragment : Fragment}
    (splits : source.text = lead ++ fragment.covered ++ rest) :
    source.covered (fragment.token source.name (Position.start.afterRun lead)).slice =
      some fragment.covered := by
  obtain ⟨start, stop⟩ := offsets_token source.name lead fragment
  rw [Source.covered, start, stop, splits]
  exact between?_append lead fragment.covered rest

theorem beyond_token {lead rest : List Char} {fragment : Fragment}
    (splits : source.text = lead ++ fragment.covered ++ rest) :
    source.beyond (fragment.token source.name (Position.start.afterRun lead)).slice =
      some rest := by
  obtain ⟨_, stop⟩ := offsets_token source.name lead fragment
  have ahead := between?_append (lead ++ fragment.covered) rest []
  rw [List.append_nil, ← byteLength_append (lead ++ fragment.covered), ← splits,
    byteLength_append] at ahead
  rw [Source.beyond, stop]
  exact ahead

theorem map_lay {α : Type} {fragments : List Fragment} (view : Token → α) (shape : Fragment → α)
    (lead : List Char) (splits : source.text = lead ++ Fragment.source fragments)
    (same : ∀ lead fragment rest, source.text = lead ++ fragment.covered ++ rest →
      view (fragment.token source.name (Position.start.afterRun lead)) = shape fragment) :
    (lay source.name (Position.start.afterRun lead) fragments).map view =
      fragments.map shape := by
  induction fragments generalizing lead with
  | nil => rfl
  | cons fragment others ih =>
    rw [source_cons, ← List.append_assoc] at splits
    rw [lay, List.map_cons, List.map_cons, same lead fragment _ splits,
      ← Position.afterRun_append, ih _ splits]

end Fragment
end TemplateCompiler
