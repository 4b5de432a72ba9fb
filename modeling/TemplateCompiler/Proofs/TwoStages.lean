import TemplateCompiler.Optimizer

namespace TemplateCompiler

namespace Token

-- Code that does not end a line is put on a line of its own before other code follows.
def mergedText (first second : Token) : String :=
  if first.kind = .content ∨ first.text.toList.getLast? = some '\n' then first.text ++ second.text
  else first.text ++ "\n" ++ second.text

def merged (first second : Token) : Token :=
  .plain first.kind
    ⟨first.slice.source, mergedText first second, first.slice.start, second.slice.stop⟩

-- Content merges when it is contiguous, code of one kind also over a gap.
def Mergeable (first second : Token) : Prop :=
  first.kind = second.kind ∧ first.kind ∈ [.content, .localBlock, .globalBlock] ∧
    first.extension = none ∧ second.extension = none ∧
    (mergedText first second).length ≤ maxMergedLength ∧
    first.slice.source = second.slice.source ∧
    if first.kind = .content then first.slice.stop = second.slice.start
    else first.slice.stop.offset ≤ second.slice.start.offset

instance (first second : Token) : Decidable (Mergeable first second) :=
  inferInstanceAs (Decidable (_ ∧ _))

end Token

namespace TwoStages
open Token

-- The nearest token that trim looks at is a code block. The list begins with the nearest one.
def besideBlock (tokens : List Token) : Bool :=
  (tokens.find? fun token => !token.kind.isOpaque).any (·.kind.isCodeBlock)

def Trimmed (before after : List Token) (token : Token) : Prop :=
  (token.kind = .whitespace ∧ besideBlock after) ∨ (token.kind = .newline ∧ besideBlock before)

instance (before after : List Token) (token : Token) : Decidable (Trimmed before after token) :=
  inferInstanceAs (Decidable (_ ∨ _))

-- First stage: each token is judged by the original tokens around it, deleted ones included.
def keptFrom (before : List Token) : List Token → List Token
  | [] => []
  | token :: after =>
    if Trimmed before after token then keptFrom (token :: before) after
    else token :: keptFrom (token :: before) after

-- Second stage, one token: the output is kept latest first.
def place (written : List Token) (token : Token) : List Token :=
  match written with
  | [] => [token.asContent]
  | last :: earlier =>
    if Mergeable last token.asContent then merged last token.asContent :: earlier
    else token.asContent :: last :: earlier

def mergeAll (tokens : List Token) : List Token := (tokens.foldl place []).reverse

def optimized (tokens : List Token) (trim : Bool) : List Token :=
  mergeAll (if trim then keptFrom [] tokens else tokens)

theorem asContent_not_blank (token : Token) :
    token.asContent.kind ≠ .whitespace ∧ token.asContent.kind ≠ .newline := by
  unfold asContent
  split <;> simp_all

theorem mergedText_eq {first : Token} (second : Token)
    (merges : first.kind = .content ∨ first.kind.isCodeBlock) :
    mergedText first second = first.text ++ first.separator ++ second.text := by
  unfold mergedText separator
  cases merges with
  | inl content => simp [content, TokenKind.isCodeBlock]
  | inr code =>
    have other : first.kind ≠ .content := by
      intro content
      simp [content, TokenKind.isCodeBlock] at code
    by_cases ends : first.text.toList.getLast? = some '\n' <;> simp [code, other, ends]

theorem mergedKind_iff {kind : TokenKind} (settled : kind ≠ .whitespace ∧ kind ≠ .newline) :
    (kind.isOpaque = false ∧ kind ≠ .expression) ↔ kind = .content ∨ kind.isCodeBlock := by
  cases kind <;> simp_all [TokenKind.isOpaque, TokenKind.isCodeBlock]

theorem mem_mergedKinds {kind : TokenKind} :
    kind ∈ [.content, .localBlock, .globalBlock] ↔ kind = .content ∨ kind.isCodeBlock := by
  cases kind <;> simp [TokenKind.isCodeBlock]

theorem mergeable_iff {first second : Token}
    (settled : second.kind ≠ .whitespace ∧ second.kind ≠ .newline) :
    Mergeable first second ↔ first.mayMerge second = true ∧
      first.slice.source = second.slice.source ∧
      if first.kind = .content then first.slice.stop = second.slice.start
      else first.slice.stop.offset ≤ second.slice.start.offset := by
  have length (merges : first.kind = .content ∨ first.kind.isCodeBlock) :
      (mergedText first second).length =
        first.slice.runeCount + first.separator.length + second.slice.runeCount := by
    rw [mergedText_eq second merges, String.length_append, String.length_append]
    rfl
  simp only [Mergeable, mem_mergedKinds, mayMerge, decide_eq_true_eq]
  constructor
  · rintro ⟨same, merges, bare, otherBare, short, place⟩
    obtain ⟨visible, code⟩ := (mergedKind_iff (same ▸ settled)).mpr merges
    exact ⟨⟨same, visible, code, bare, otherBare, length merges ▸ short⟩, place⟩
  · rintro ⟨⟨same, visible, code, bare, otherBare, short⟩, place⟩
    have merges := (mergedKind_iff (same ▸ settled)).mp ⟨visible, code⟩
    exact ⟨same, merges, bare, otherBare, length merges ▸ short, place⟩

theorem merge?_of_mergeable {first second : Token}
    (settled : second.kind ≠ .whitespace ∧ second.kind ≠ .newline)
    (mergeable : Mergeable first second) : first.merge? second = some (merged first second) := by
  have merges := mem_mergedKinds.mp mergeable.2.1
  have text := mergedText_eq second merges
  obtain ⟨allowed, source, place⟩ := (mergeable_iff settled).mp mergeable
  rw [merge?, if_pos allowed]
  cases merges with
  | inl content =>
    rw [if_pos content] at place
    have plain : first.separator = "" := by simp [separator, content, TokenKind.isCodeBlock]
    have block : ¬ first.kind.isCodeBlock = true := by simp [content, TokenKind.isCodeBlock]
    simp only [if_neg block, Slice.join, source, place, ne_eq, not_true_eq_false, if_false, merged,
      text, plain, Slice.concat, Token.text]
  | inr code =>
    have other : first.kind ≠ .content := by
      intro content
      simp [content, TokenKind.isCodeBlock] at code
    rw [if_neg other] at place
    simp only [if_pos code, Slice.joinWith, source, ne_eq, not_true_eq_false, if_false, merged,
      text, Slice.concat, Token.text, if_neg (Nat.not_lt.mpr place), gt_iff_lt]

theorem merge?_of_not_mergeable {first second : Token}
    (settled : second.kind ≠ .whitespace ∧ second.kind ≠ .newline)
    (apart : ¬ Mergeable first second) : first.merge? second = none := by
  rw [mergeable_iff settled] at apart
  unfold merge?
  split
  · rename_i allowed
    by_cases source : first.slice.source = second.slice.source
    · have refused := not_and.mp (not_and.mp apart allowed) source
      by_cases content : first.kind = .content
      · rw [if_pos content] at refused
        simp [content, TokenKind.isCodeBlock, Slice.join, source, refused]
      · have code : first.kind.isCodeBlock = true := by
          simp only [mayMerge, decide_eq_true_eq] at allowed
          obtain ⟨same, visible, expression, _⟩ := allowed
          exact ((mergedKind_iff (same ▸ settled)).mp ⟨visible, expression⟩).resolve_left content
        rw [if_neg content, Nat.not_le] at refused
        simp [code, Slice.joinWith, source, refused]
    · simp only [Slice.joinWith, Slice.join, ne_eq, source, not_false_eq_true, if_true, ite_self]
  · rfl

theorem write_eq_place (written : List Token) (token : Token) :
    Optimizer.write written token = place written token := by
  cases written with
  | nil => rfl
  | cons last earlier =>
    have settled := asContent_not_blank token
    unfold Optimizer.write place
    by_cases mergeable : Mergeable last token.asContent
    · simp only [merge?_of_mergeable settled mergeable, if_pos mergeable]
    · simp only [merge?_of_not_mergeable settled mergeable, if_neg mergeable]

theorem place_unseen (written : List Token) {token : Token} (unseen : token.kind.isOpaque) :
    place written token = token :: written := by
  have same : token.asContent = token := by
    unfold asContent
    split <;> simp_all [TokenKind.isOpaque]
  cases written with
  | nil => simp [place, same]
  | cons last earlier =>
    have apart : ¬ Mergeable last token := by
      rintro ⟨kinds, merges, _⟩
      rw [kinds] at merges
      simp only [List.mem_cons, List.not_mem_nil, or_false] at merges
      rcases merges with kind | kind | kind <;> simp [kind, TokenKind.isOpaque] at unseen
    simp only [place, same, if_neg apart]

theorem writeHeld_eq_place (written : List Token) (token : Token) :
    Optimizer.writeHeld written token = place written token := by
  unfold Optimizer.writeHeld
  split
  · rename_i unseen
    exact (place_unseen written unseen).symm
  · exact write_eq_place written token

theorem written_release (state : Optimizer) :
    state.release.written = state.held.foldl place state.written := by
  have step : Optimizer.writeHeld = place := funext fun written => funext fun token =>
    writeHeld_eq_place written token
  rw [Optimizer.release, step]

theorem foldl_place_unseen (written : List Token) {tokens : List Token}
    (unseen : ∀ token ∈ tokens, token.kind.isOpaque) :
    tokens.foldl place written = tokens.reverse ++ written := by
  induction tokens generalizing written with
  | nil => rfl
  | cons token rest ih =>
    rw [List.foldl_cons, place_unseen written (unseen token List.mem_cons_self),
      ih _ fun other member => unseen other (List.mem_cons_of_mem _ member)]
    simp

-- What the optimizer may hold back: nothing, or a blank run and opaque tokens after it.
def Holdable (held : List Token) : Prop :=
  held = [] ∨ ∃ blank hidden, held = blank :: hidden ∧ blank.kind = .whitespace ∧
    ∀ token ∈ hidden, token.kind.isOpaque

theorem besideBlock_unseen {token : Token} (unseen : token.kind.isOpaque) (others : List Token) :
    besideBlock (token :: others) = besideBlock others := by
  simp [besideBlock, unseen]

theorem besideBlock_unseens {hidden : List Token} (unseen : ∀ token ∈ hidden, token.kind.isOpaque)
    (others : List Token) : besideBlock (hidden ++ others) = besideBlock others := by
  induction hidden with
  | nil => rfl
  | cons token rest ih =>
    rw [List.cons_append, besideBlock_unseen (unseen token List.mem_cons_self)]
    exact ih fun other member => unseen other (List.mem_cons_of_mem _ member)

theorem besideBlock_visible {token : Token} (visible : token.kind.isOpaque = false)
    (others : List Token) : besideBlock (token :: others) = token.kind.isCodeBlock := by
  simp [besideBlock, visible]

theorem keptFrom_unseens (before after : List Token) {hidden : List Token}
    (unseen : ∀ token ∈ hidden, token.kind.isOpaque) :
    keptFrom before (hidden ++ after) = hidden ++ keptFrom (hidden.reverse ++ before) after := by
  induction hidden generalizing before with
  | nil => rfl
  | cons token rest ih =>
    have head := unseen token List.mem_cons_self
    have stays : ¬ Trimmed before (rest ++ after) token := by
      rintro (⟨kind, _⟩ | ⟨kind, _⟩) <;> simp [kind, TokenKind.isOpaque] at head
    rw [List.cons_append, keptFrom, if_neg stays,
      ih _ fun other member => unseen other (List.mem_cons_of_mem _ member)]
    simp

-- What is held is kept when no block follows, and loses its blank run when one does.
theorem keptFrom_held {held : List Token} (holdable : Holdable held) (before after : List Token) :
    keptFrom before (held ++ after) =
      (if besideBlock after then held.tail else held) ++
        keptFrom (held.reverse ++ before) after := by
  rcases holdable with rfl | ⟨blank, hidden, rfl, kind, unseen⟩
  · simp
  · have follows : besideBlock (hidden ++ after) = besideBlock after :=
      besideBlock_unseens unseen after
    rw [List.cons_append, keptFrom, keptFrom_unseens _ after unseen]
    have trimmed : Trimmed before (hidden ++ after) blank ↔ besideBlock after = true := by
      simp [Trimmed, kind, follows]
    by_cases block : besideBlock after = true
    · simp [trimmed, block]
    · simp [trimmed, block]

-- Behind a held blank run there is no block that a newline could follow.
theorem besideBlock_held {held : List Token} (holdable : Holdable held) (nonempty : held ≠ [])
    (before : List Token) : besideBlock (held.reverse ++ before) = false := by
  rcases holdable with rfl | ⟨blank, hidden, rfl, kind, unseen⟩
  · exact absurd rfl nonempty
  · have reversed : ∀ token ∈ hidden.reverse, token.kind.isOpaque :=
      fun token member => unseen token (List.mem_reverse.mp member)
    have visible : blank.kind.isOpaque = false := by simp [kind, TokenKind.isOpaque]
    rw [List.reverse_cons, List.append_assoc, besideBlock_unseens reversed]
    simp [besideBlock_visible visible, kind, TokenKind.isCodeBlock]

-- The optimizer stands between the tokens that it has judged, `before`, and those that it holds.
structure Between (before : List Token) (state : Optimizer) : Prop where
  holdable : Holdable state.held
  beside : state.afterBlock = besideBlock (state.held.reverse ++ before)

def pending (before : List Token) (state : Optimizer) (after : List Token) : List Token :=
  (keptFrom before (state.held ++ after)).foldl place state.written

theorem pending_kept {before : List Token} {state : Optimizer} (between : Between before state)
    {after : List Token} (apart : besideBlock after = false) :
    pending before state after =
      (keptFrom (state.held.reverse ++ before) after).foldl place state.release.written := by
  rw [pending, keptFrom_held between.holdable, apart, written_release]
  simp [List.foldl_append]

theorem pending_dropped {before : List Token} {state : Optimizer} (between : Between before state)
    {after : List Token} (block : besideBlock after = true) :
    pending before state after =
      (keptFrom (state.held.reverse ++ before) after).foldl place state.dropBlank.written := by
  have unseen : ∀ token ∈ state.held.tail, token.kind.isOpaque := by
    rcases between.holdable with empty | ⟨blank, hidden, same, _, unseen⟩
    · simp [empty]
    · simpa [same] using unseen
  rw [pending, keptFrom_held between.holdable, block, if_pos rfl, List.foldl_append,
    foldl_place_unseen _ unseen]
  rfl

theorem kept_visible {before after : List Token} {token : Token}
    (stays : ¬ Trimmed before after token) (written : List Token) :
    (keptFrom before (token :: after)).foldl place written =
      (keptFrom (token :: before) after).foldl place (place written token) := by
  rw [keptFrom, if_neg stays, List.foldl_cons]

-- What holds after one more token: some earlier tokens are judged, and nothing that is still to
-- be written has changed.
def Follows (before : List Token) (state : Optimizer) (token : Token) (after : List Token)
    (next : Optimizer) : Prop :=
  ∃ earlier, Between earlier next ∧
    pending before state (token :: after) = pending earlier next after

theorem between_append (before : List Token) {state : Optimizer} {token : Token}
    (visible : token.kind.isOpaque = false) (empty : state.held = []) :
    Between (token :: before) (state.append token) :=
  ⟨.inl empty, by simp [Optimizer.append, empty, besideBlock_visible visible]⟩

theorem feed_unseen {before : List Token} {state : Optimizer} (between : Between before state)
    {token : Token} (unseen : token.kind.isOpaque) (after : List Token) :
    Follows before state token after (state.feed true token) := by
  have beside := between.beside
  unfold Optimizer.feed
  rw [if_pos unseen]
  cases held : state.held with
  | nil =>
    rw [held] at beside
    refine ⟨token :: before, ⟨.inl rfl, ?_⟩, ?_⟩
    · simpa [besideBlock_unseen unseen] using beside
    · have stays : ¬ Trimmed before after token := by
        rintro (⟨kind, _⟩ | ⟨kind, _⟩) <;> simp [kind, TokenKind.isOpaque] at unseen
      simp only [pending, held, List.nil_append, kept_visible stays, place_unseen _ unseen]
      rfl
  | cons blank hidden =>
    rw [held] at beside
    have holdable := between.holdable
    rw [held] at holdable
    refine ⟨before, ⟨.inr ?_, ?_⟩, ?_⟩
    · rcases holdable with empty | ⟨blank, hidden, same, kind, others⟩
      · cases empty
      · cases same
        refine ⟨blank, hidden ++ [token], rfl, kind, ?_⟩
        simpa [or_imp, forall_and] using ⟨others, unseen⟩
    · simpa [besideBlock_unseen unseen] using beside
    · simp [pending, held]

theorem feed_blank {before : List Token} {state : Optimizer} (between : Between before state)
    {token : Token} (kind : token.kind = .whitespace) (after : List Token) :
    Follows before state token after (state.feed true token) := by
  have visible : token.kind.isOpaque = false := by simp [kind, TokenKind.isOpaque]
  have alone (others : List Token) : besideBlock (token :: others) = false := by
    simp [besideBlock_visible visible, kind, TokenKind.isCodeBlock]
  unfold Optimizer.feed
  rw [if_neg (by simp [visible]), if_pos rfl, if_pos kind]
  refine ⟨state.held.reverse ++ before, ⟨.inr ⟨token, [], rfl, kind, by simp⟩, ?_⟩, ?_⟩
  · exact (alone _).symm
  · rw [pending_kept between (alone after)]
    rfl

theorem feed_newline {before : List Token} {state : Optimizer} (between : Between before state)
    {token : Token} (kind : token.kind = .newline) (block : state.afterBlock = true)
    (after : List Token) : Follows before state token after (state.feed true token) := by
  have visible : token.kind.isOpaque = false := by simp [kind, TokenKind.isOpaque]
  have empty : state.held = [] := by
    apply Classical.byContradiction
    intro nonempty
    have apart := besideBlock_held between.holdable nonempty before
    rw [← between.beside, block] at apart
    cases apart
  have beside := between.beside
  rw [empty, block] at beside
  unfold Optimizer.feed
  rw [if_neg (by simp [visible]), if_pos rfl, if_neg (by simp [kind]), if_pos ⟨kind, block⟩]
  refine ⟨token :: before, ⟨.inl empty, ?_⟩, ?_⟩
  · simp [empty, besideBlock_visible visible, kind, TokenKind.isCodeBlock]
  · have trimmed : Trimmed before after token := .inr ⟨kind, beside.symm⟩
    simp only [pending, empty, List.nil_append, keptFrom, if_pos trimmed]

theorem feed_block {before : List Token} {state : Optimizer} (between : Between before state)
    {token : Token} (code : token.kind.isCodeBlock) (after : List Token) :
    Follows before state token after (state.feed true token) := by
  have visible : token.kind.isOpaque = false := by
    cases kind : token.kind <;> simp_all [TokenKind.isOpaque, TokenKind.isCodeBlock]
  have solid : token.kind ≠ .whitespace ∧ token.kind ≠ .newline := by
    constructor <;> intro kind <;> simp [kind, TokenKind.isCodeBlock] at code
  have block : besideBlock (token :: after) = true := by
    rw [besideBlock_visible visible, code]
  have stays : ¬ Trimmed (state.held.reverse ++ before) after token := by
    rintro (⟨kind, _⟩ | ⟨kind, _⟩)
    · exact solid.1 kind
    · exact solid.2 kind
  unfold Optimizer.feed
  rw [if_neg (by simp [visible]), if_pos rfl, if_neg solid.1, if_neg fun both => solid.2 both.1,
    if_pos code]
  refine ⟨_, between_append (state.held.reverse ++ before) visible rfl, ?_⟩
  rw [pending_dropped between block, kept_visible stays, ← write_eq_place]
  rfl

theorem feed_other {before : List Token} {state : Optimizer} (between : Between before state)
    {token : Token} (visible : token.kind.isOpaque = false) (solid : token.kind ≠ .whitespace)
    (stays : ¬ (token.kind = .newline ∧ state.afterBlock = true))
    (text : ¬ token.kind.isCodeBlock) (after : List Token) :
    Follows before state token after (state.feed true token) := by
  have apart : besideBlock (token :: after) = false := by
    rw [besideBlock_visible visible]
    simpa using text
  have kept : ¬ Trimmed (state.held.reverse ++ before) after token := by
    rintro (⟨kind, _⟩ | ⟨kind, block⟩)
    · exact solid kind
    · exact stays ⟨kind, between.beside.trans block⟩
  unfold Optimizer.feed
  rw [if_neg (by simp [visible]), if_pos rfl, if_neg solid, if_neg stays, if_neg text]
  refine ⟨_, between_append (state.held.reverse ++ before) visible rfl, ?_⟩
  rw [pending_kept between apart, kept_visible kept, ← write_eq_place]
  rfl

theorem feed_follows {before : List Token} {state : Optimizer} (between : Between before state)
    (token : Token) (after : List Token) :
    Follows before state token after (state.feed true token) := by
  by_cases unseen : token.kind.isOpaque = true
  · exact feed_unseen between unseen after
  by_cases blank : token.kind = .whitespace
  · exact feed_blank between blank after
  by_cases dropped : token.kind = .newline ∧ state.afterBlock = true
  · exact feed_newline between dropped.1 dropped.2 after
  by_cases code : token.kind.isCodeBlock = true
  · exact feed_block between code after
  · exact feed_other between (by simpa using unseen) blank dropped code after

theorem finish_trimmed {before : List Token} {state : Optimizer} (between : Between before state)
    (after : List Token) :
    (after.foldl (Optimizer.feed true) state).finish = (pending before state after).reverse := by
  induction after generalizing before state with
  | nil =>
    have apart : besideBlock [] = false := rfl
    rw [pending_kept between apart]
    rfl
  | cons token rest ih =>
    obtain ⟨earlier, next, same⟩ := feed_follows between token rest
    rw [List.foldl_cons, ih next, same]

theorem finish_untrimmed {state : Optimizer} (empty : state.held = []) (tokens : List Token) :
    (tokens.foldl (Optimizer.feed false) state).finish =
      (tokens.foldl place state.written).reverse := by
  induction tokens generalizing state with
  | nil => simp [Optimizer.finish, written_release, empty]
  | cons token rest ih =>
    have fed : (state.feed false token).held = [] ∧
        (state.feed false token).written = place state.written token := by
      unfold Optimizer.feed
      split
      · rename_i unseen
        simp [empty, place_unseen _ unseen]
      · exact ⟨empty, write_eq_place _ _⟩
    rw [List.foldl_cons, ih fed.1, fed.2, List.foldl_cons]

theorem optimize_merges (tokens : List Token) (trim : Bool) :
    optimize tokens trim = mergeAll (if trim then keptFrom [] tokens else tokens) := by
  unfold optimize
  cases trim with
  | false => rw [finish_untrimmed rfl, if_neg Bool.false_ne_true, mergeAll, Optimizer.start]
  | true =>
    have between : Between [] .start := ⟨.inl rfl, rfl⟩
    rw [finish_trimmed between, if_pos rfl, mergeAll, pending, Optimizer.start, List.nil_append]

theorem optimize_eq_optimized (tokens : List Token) (trim : Bool) :
    optimize tokens trim = optimized tokens trim := by
  rw [optimize_merges, optimized]

end TwoStages
end TemplateCompiler
