import TemplateCompiler.Proofs.Evaluation
import TemplateCompiler.Proofs.Locality
import TemplateCompiler.Proofs.Nesting
import TemplateCompiler.Proofs.Relocation

namespace TemplateCompiler
open Text Code

-- The opening of a block and every branch of it open a body; every branch and the closing end one.
def Role.opensBody : Role → Bool
  | .forOpen | .ifOpen | .elseIf | .elseLast => true
  | .close | .plain => false

def Role.endsBody : Role → Bool
  | .elseIf | .elseLast | .close => true
  | .forOpen | .ifOpen | .plain => false

def Role.weight : Role → Int
  | .forOpen | .ifOpen => 1
  | .close => -1
  | .elseIf | .elseLast | .plain => 0

def depth : List Role → Int
  | [] => 0
  | role :: roles => role.weight + depth roles

@[simp] theorem depth_nil : depth [] = 0 := rfl

@[simp] theorem depth_cons (role : Role) (roles : List Role) :
    depth (role :: roles) = role.weight + depth roles := rfl

@[simp] theorem depth_append (left right : List Role) :
    depth (left ++ right) = depth left + depth right := by
  induction left with
  | nil => simp
  | cons role left ih => rw [List.cons_append, depth_cons, depth_cons, ih, Int.add_assoc]

def EndsAbove (low : Int) (roles : List Role) : Prop :=
  ∀ before ending after, roles = before ++ ending :: after → ending.endsBody = true →
    low < depth before

namespace EndsAbove
variable {low : Int} {role : Role} {left right : List Role}

theorem nil : EndsAbove low [] := by
  intro before ending after splits
  simp at splits

theorem cons (first : role.endsBody = true → low < 0) (others : EndsAbove (low - role.weight) right) :
    EndsAbove low (role :: right) := by
  intro before ending after splits ends
  rcases List.cons_eq_append_iff.mp splits with ⟨rfl, same⟩ | ⟨before, rfl, rfl⟩
  · cases same
    exact first ends
  · have above := others before ending after rfl ends
    rw [depth_cons]
    omega

theorem append (first : EndsAbove low left) (second : EndsAbove (low - depth left) right) :
    EndsAbove low (left ++ right) := by
  induction left generalizing low with
  | nil => simpa using second
  | cons one others ih =>
    refine cons (fun ends => first [] one others rfl ends) (ih ?_ ?_)
    · intro before ending after splits ends
      have above := first (one :: before) ending after (by rw [splits, List.cons_append]) ends
      rw [depth_cons] at above
      omega
    · rwa [depth_cons, ← Int.sub_sub] at second

theorem lower {less : Int} (above : EndsAbove low left) (below : less ≤ low) :
    EndsAbove less left :=
  fun before ending after splits ends =>
    Int.lt_of_le_of_lt below (above before ending after splits ends)

theorem block {body : List Role} (first : role.endsBody = true → low < 0)
    (closed : depth body = 0) (inner : EndsAbove 0 body) (deep : low ≤ role.weight)
    (others : EndsAbove (low - role.weight) right) : EndsAbove low (role :: body ++ right) := by
  rw [List.cons_append]
  apply cons first
  apply append
  · apply inner.lower
    omega
  · rw [closed, Int.sub_zero]
    exact others

end EndsAbove

-- Blocks that are open behind a stretch: a chain closes the block that it belongs to.
def Stretch.level : Stretch → Int
  | .template => 0
  | .chain => -1

-- By induction on the word. A body lies one block deeper than what is around it, and a chain ends
-- one block below where it starts.
theorem Nested.level {stretch : Stretch} {roles : List Role} (nested : Nested stretch roles) :
    depth roles = stretch.level ∧ EndsAbove stretch.level roles := by
  induction nested with
  | empty => exact ⟨rfl, .nil⟩
  | plain others ih =>
    refine ⟨by simp [Role.weight, ih.1], ?_⟩
    apply EndsAbove.cons
    · intro ends
      cases ends
    · exact ih.2
  | forBlock inner others body rest =>
    refine ⟨by simp [Role.weight, body.1, rest.1, Stretch.level], ?_⟩
    apply EndsAbove.block _ body.1 body.2 (by decide)
    · exact .cons (fun _ => by decide) rest.2
    · intro ends
      cases ends
  | ifBlock inner further others body chain rest =>
    refine ⟨by simp [Role.weight, body.1, chain.1, rest.1, Stretch.level], ?_⟩
    apply EndsAbove.append
    · apply EndsAbove.block _ body.1 body.2 (by decide) chain.2
      intro ends
      cases ends
    · rw [depth_append, depth_cons, body.1, chain.1]
      exact rest.2
  | elseIf inner further body chain =>
    refine ⟨by simp [Role.weight, body.1, chain.1, Stretch.level], ?_⟩
    apply EndsAbove.block _ body.1 body.2 (by decide) chain.2
    intro _
    decide
  | elseLast inner body =>
    refine ⟨by simp [Role.weight, body.1, Stretch.level], ?_⟩
    apply EndsAbove.block _ body.1 body.2 (by decide)
    · exact .cons (fun _ => by decide) .nil
    · intro _
      decide
  | close =>
    refine ⟨rfl, ?_⟩
    exact .cons (fun _ => by decide) .nil

-- A row of roles begins with one template at most that a body can end behind.
theorem Nested.not_longer {left right : List Role} {ending : Role}
    (one : Nested .template left) (two : Nested .template (left ++ ending :: right))
    (ends : ending.endsBody = true) : False := by
  have above := two.level.2 left ending right rfl ends
  rw [one.level.1] at above
  exact absurd above (Int.lt_irrefl 0)

theorem Nested.unique {left right after others : List Role} {ending other : Role}
    (one : Nested .template left) (ends : ending.endsBody = true)
    (two : Nested .template right) (otherEnds : other.endsBody = true)
    (same : left ++ ending :: after = right ++ other :: others) : left = right := by
  rcases List.append_eq_append_iff.mp same with ⟨middle, grown, rest⟩ | ⟨middle, grown, rest⟩
  · rcases List.cons_eq_append_iff.mp rest with ⟨rfl, _⟩ | ⟨later, rfl, _⟩
    · rw [grown, List.append_nil]
    · rw [grown] at two
      exact (one.not_longer two ends).elim
  · rcases List.cons_eq_append_iff.mp rest with ⟨rfl, _⟩ | ⟨later, rfl, _⟩
    · rw [grown, List.append_nil]
    · rw [grown] at one
      exact (two.not_longer one otherEnds).elim

section Fragments
variable {marker : Char} {known : String → Bool}

structure EndsBody (marker : Char) (ending : Fragment) : Prop where
  role : (ending.role marker).endsBody = true
  covered : ∃ trail, ending.covered = marker :: '}' :: trail

structure HasBody (marker : Char) (known : String → Bool) (opening : Fragment)
    (body : List Fragment) (ending : Fragment) : Prop where
  opens : ∃ lead, opening.covered = lead ++ ['{', marker]
  ends : EndsBody marker ending
  alone : Lexes marker known (.items false) (Fragment.source body) body []

def Bodied (marker : Char) (known : String → Bool) (fragments : List Fragment) : Prop :=
  ∀ before opening after, fragments = before ++ opening :: after →
    (opening.role marker).opensBody = true →
    ∃ body ending later, after = body ++ ending :: later ∧ HasBody marker known opening body ending

theorem Bodied.nil : Bodied marker known [] := by
  intro before opening after splits
  simp at splits

theorem Bodied.append {left right : List Fragment} (first : Bodied marker known left)
    (second : Bodied marker known right) : Bodied marker known (left ++ right) := by
  intro before opening after splits opens
  rcases List.append_eq_append_iff.mp splits with ⟨middle, grown, rest⟩ | ⟨middle, grown, rest⟩
  · exact second middle opening after rest opens
  · rcases List.cons_eq_append_iff.mp rest with ⟨rfl, same⟩ | ⟨later, rfl, rfl⟩
    · exact second [] opening after same opens
    · obtain ⟨body, ending, more, rfl, has⟩ := first before opening later grown opens
      exact ⟨body, ending, more ++ right, by simp, has⟩

theorem Bodied.cons {fragment : Fragment} {others : List Fragment}
    (has : (fragment.role marker).opensBody = true →
      ∃ body ending later, others = body ++ ending :: later ∧
        HasBody marker known fragment body ending)
    (bodied : Bodied marker known others) : Bodied marker known (fragment :: others) := by
  intro before opening after splits opens
  rcases List.cons_eq_append_iff.mp splits with ⟨rfl, same⟩ | ⟨before, rfl, rfl⟩
  · cases same
    exact has opens
  · exact bodied before opening after rfl opens

theorem Bodied.block {opening ending : Fragment} {body later : List Fragment}
    (has : HasBody marker known opening body ending) (inner : Bodied marker known body)
    (others : Bodied marker known (ending :: later)) :
    Bodied marker known (opening :: body ++ ending :: later) :=
  .cons (fun _ => ⟨body, ending, later, rfl, has⟩) (inner.append others)

theorem Lexes.alone {inner rest : List Char} {body : List Fragment}
    (lexes : Lexes marker known (.items true) inner body rest) :
    Lexes marker known (.items false) (Fragment.source body) body [] := by
  have cut : Lexes marker known (.items true) (Fragment.source body) body [] :=
    lexes.truncate lexes.covers rfl (by simp)
  exact cut.anywhere

theorem endsBody_closing : EndsBody marker (.closing marker) :=
  ⟨by rw [role_closing]; rfl, [], rfl⟩

theorem bodied_closing : Bodied marker known [.closing marker] := by
  apply Bodied.cons
  · intro opens
    rw [role_closing] at opens
    cases opens
  · exact .nil

-- The branches of an `if` begin with the end of the body before them, if only with the closing.
def Part.Bodied (marker : Char) (known : String → Bool) (fragments : List Fragment) :
    Part → Prop
  | .branches => ∃ ending later, fragments ++ [.closing marker] = ending :: later ∧
      EndsBody marker ending ∧ TemplateCompiler.Bodied marker known (ending :: later)
  | _ => TemplateCompiler.Bodied marker known fragments

theorem Lexes.bodied {part : Part} {text rest : List Char} {fragments : List Fragment}
    (lexes : Lexes marker known part text fragments rest) :
    part.Bodied marker known fragments := by
  induction lexes with
  | plain plain =>
    apply Bodied.cons
    · intro opens
      rw [role_plain plain] at opens
      cases opens
    · exact .nil
  | @forBlock header inner body rest called opens lexes ih =>
    have has : HasBody marker known (.opening marker forName header) body (.closing marker) :=
      ⟨⟨marker :: '.' :: forName ++ header, by simp [Fragment.opening]⟩, endsBody_closing,
        lexes.alone⟩
    exact .block has ih bodied_closing
  | @ifBlock header inner body text branches rest called opens lexes further ih others =>
    obtain ⟨ending, later, same, ends, bodied⟩ := others
    have has : HasBody marker known (.opening marker ifName header) body ending :=
      ⟨⟨marker :: '.' :: ifName ++ header, by simp [Fragment.opening]⟩, ends, lexes.alone⟩
    have block := Bodied.block has ih bodied
    rwa [← same, List.cons_append, ← List.append_assoc] at block
  | done => exact .nil
  | more stays first lexes item items => exact item.append items
  | noBranch => exact ⟨_, [], rfl, endsBody_closing, bodied_closing⟩
  | @elseIf text head header inner body rest others last found splits lexes further ih branches =>
    obtain ⟨ending, later, same, ends, bodied⟩ := branches
    have words := (elseIfAt?_words found).1
    have has : HasBody marker known (.elseIf marker head header) body ending :=
      ⟨⟨marker :: head ++ header, by simp [Fragment.elseIf]⟩, ends, lexes.alone⟩
    refine ⟨.elseIf marker head header, body ++ (others ++ [.closing marker]), by simp, ?_, ?_⟩
    · refine ⟨by rw [role_elseIf words]; rfl, ?_⟩
      cases words
      exact ⟨_, rfl⟩
    · rw [same]
      exact .block has ih bodied
  | @elseLast text head inner body rest noElseIf found splits lexes ih =>
    have words := elseAt?_words found
    have opens : ∃ lead, (Fragment.elseLast marker head).covered = lead ++ ['{', marker] := by
      cases words with
      | @mk gap space =>
        exact ⟨marker :: ('}' :: gap ++ ['e', 'l', 's', 'e'] ++ space), by simp [Fragment.elseLast]⟩
    refine ⟨.elseLast marker head, body ++ [.closing marker], by simp, ?_, ?_⟩
    · refine ⟨by rw [role_elseLast words]; rfl, ?_⟩
      cases words
      exact ⟨_, rfl⟩
    · exact .block ⟨opens, endsBody_closing, lexes.alone⟩ ih bodied_closing

end Fragments

namespace Fragment

theorem lay_eq_append {name : String} {start : Position} {fragments : List Fragment}
    {left right : List Token} (same : lay name start fragments = left ++ right) :
    ∃ first second, fragments = first ++ second ∧ left = lay name start first ∧
      right = lay name (start.afterRun (source first)) second := by
  induction left generalizing start fragments with
  | nil => exact ⟨[], fragments, rfl, rfl, same.symm⟩
  | cons token left ih =>
    cases fragments with
    | nil => cases same
    | cons fragment others =>
      obtain ⟨rfl, later⟩ := List.cons_eq_cons.mp same
      obtain ⟨first, second, rfl, rfl, rfl⟩ := ih later
      exact ⟨fragment :: first, second, rfl, rfl, by rw [source_cons, Position.afterRun_append]⟩

section Role
variable {source : Source} {marker : Char} {lead rest : List Char}

theorem role_token {fragment : Fragment}
    (splits : source.text = lead ++ fragment.covered ++ rest) :
    source.role marker (fragment.token source.name (Position.start.afterRun lead)) =
      fragment.role marker := by
  rw [Source.role, covered_token splits]
  rfl

theorem roles_lay {fragments : List Fragment}
    (splits : source.text = lead ++ Fragment.source fragments ++ rest) :
    (lay source.name (Position.start.afterRun lead) fragments).map (source.role marker) =
      fragments.map (·.role marker) := by
  induction fragments generalizing lead with
  | nil => rfl
  | cons fragment others ih =>
    have here : source.text = lead ++ fragment.covered ++ (Fragment.source others ++ rest) := by
      simpa using splits
    have later : source.text = lead ++ fragment.covered ++ Fragment.source others ++ rest := by
      simpa using splits
    rw [lay, List.map_cons, List.map_cons, role_token here, ← Position.afterRun_append, ih later]

end Role
end Fragment

namespace Source

-- Among the tokens behind one that opens a body: the tokens of the body and the one that ends it.
structure BodyAhead (source : Source) (marker : Char) (rest body : List Token) (ending : Token) :
    Prop where
  ahead : ∃ after, rest = body ++ ending :: after
  ends : (source.role marker ending).endsBody = true
  nested : Nested .template (body.map (source.role marker))

theorem BodyAhead.unique {source : Source} {marker : Char} {rest left right : List Token}
    {ending other : Token} (one : source.BodyAhead marker rest left ending)
    (two : source.BodyAhead marker rest right other) : left = right := by
  obtain ⟨after, rfl⟩ := one.ahead
  obtain ⟨others, same⟩ := two.ahead
  have roles := congrArg (List.map (source.role marker)) same
  rw [List.map_append, List.map_append] at roles
  have lengths := congrArg List.length
    (one.nested.unique one.ends two.nested two.ends roles)
  rw [List.length_map, List.length_map] at lengths
  exact (List.append_inj same lengths).1

structure BodyBetween (source : Source) (marker : Char) (opening ending : Token)
    (text : List Char) : Prop where
  opens : ∃ lead, source.covered opening.slice = some (lead ++ ['{', marker])
  closes : ∃ trail, source.covered ending.slice = some (marker :: '}' :: trail)
  between : between? opening.slice.stop.offset ending.slice.start.offset source.text = some text

end Source

section Placed
variable {source : Source} {marker : Char} {known : String → Bool} {lead trail : List Char}
  {opening ending : Fragment} {body : List Fragment}

theorem HasBody.bodyAhead (has : HasBody marker known opening body ending) (others : List Fragment)
    (splits : source.text = lead ++ Fragment.source body ++ ending.covered ++ trail) :
    source.BodyAhead marker
      (Fragment.lay source.name (Position.start.afterRun lead) (body ++ ending :: others))
      (Fragment.lay source.name (Position.start.afterRun lead) body)
      (ending.token source.name (Position.start.afterRun (lead ++ Fragment.source body))) where
  ahead := by
    rw [Fragment.lay_append, ← Position.afterRun_append]
    exact ⟨_, rfl⟩
  ends := by
    rw [Fragment.role_token splits]
    exact has.ends.role
  nested := by
    rw [List.append_assoc] at splits
    rw [Fragment.roles_lay splits]
    exact has.alone.wellNested

theorem HasBody.bodyBetween (has : HasBody marker known opening body ending)
    (splits : source.text =
      lead ++ opening.covered ++ Fragment.source body ++ ending.covered ++ trail) :
    source.BodyBetween marker (opening.token source.name (Position.start.afterRun lead))
      (ending.token source.name
        (Position.start.afterRun (lead ++ opening.covered ++ Fragment.source body)))
      (Fragment.source body) where
  opens := by
    obtain ⟨front, opens⟩ := has.opens
    have here : source.text = lead ++ opening.covered ++
        (Fragment.source body ++ ending.covered ++ trail) := by simpa using splits
    exact ⟨front, by rw [Fragment.covered_token here, opens]⟩
  closes := by
    obtain ⟨back, closes⟩ := has.ends.covered
    exact ⟨back, by rw [Fragment.covered_token splits, closes]⟩
  between := by
    have run := between?_append (lead ++ opening.covered) (Fragment.source body)
      (ending.covered ++ trail)
    rw [(Fragment.offsets_token _ _ _).1, (Fragment.offsets_token _ _ _).2,
      ← byteLength_append, byteLength_append (lead ++ opening.covered), splits]
    simpa using run

theorem HasBody.lay_body (splits : source.text = lead ++ opening.covered ++ trail) :
    Fragment.lay source.name (Position.start.afterRun (lead ++ opening.covered)) body =
      (Fragment.lay source.name .start body).map (·.moved (·.shiftedBy (source.positionAt
        (opening.token source.name (Position.start.afterRun lead)).slice.stop.offset))) := by
  have place : source.positionAt
      (opening.token source.name (Position.start.afterRun lead)).slice.stop.offset =
        Position.start.afterRun (lead ++ opening.covered) := by
    rw [(Fragment.offsets_token _ _ _).2, ← byteLength_append]
    exact Source.positionAt_eq_afterRun splits
  rw [place]
  exact Fragment.lay_shiftedBy _ _ _

end Placed

-- For every token that opens a body, in any block: the body is told by the tokens behind it, its
-- text is a template of its own, and alone it has the same tokens at their places in the body.
theorem Lexer.body_alone {σ : Type} (marker : Char) (source : Source) (memory other : σ)
    {tokens before rest : List Token} {opening : Token}
    (result : (tokenize ⟨marker, .builtins⟩ source memory).value = .ok tokens)
    (splits : tokens = before ++ opening :: rest)
    (opens : (source.role marker opening).opensBody = true) :
    ∃ body ending text alone, source.BodyAhead marker rest body ending ∧
      (∀ others close, source.BodyAhead marker rest others close → others = body) ∧
      source.BodyBetween marker opening ending text ∧
      (tokenize ⟨marker, .builtins⟩ ⟨source.name, text⟩ other).value = .ok alone ∧
      body = alone.map (·.moved (·.shiftedBy (source.positionAt opening.slice.stop.offset))) := by
  obtain ⟨fragments, lexes, rfl⟩ := tokenize_follows MacroTable.blocksOnly_builtins result
  have covers := lexes.covers_whole
  obtain ⟨first, second, rfl, rfl, laid⟩ := Fragment.lay_eq_append splits
  cases second with
  | nil => cases laid
  | cons one later =>
    obtain ⟨rfl, rfl⟩ := List.cons_eq_cons.mp laid
    have here : source.text =
        Fragment.source first ++ one.covered ++ Fragment.source later := by simpa using covers
    rw [Fragment.role_token here] at opens
    obtain ⟨body, ending, others, rfl, has⟩ := lexes.bodied first one later rfl opens
    have whole : source.text = Fragment.source first ++ one.covered ++ Fragment.source body ++
        ending.covered ++ Fragment.source others := by simpa using here
    have ahead := has.bodyAhead others whole
    rw [Position.afterRun_append] at ahead
    refine ⟨_, _, Fragment.source body, _, ahead, fun _ _ again => again.unique ahead,
      has.bodyBetween whole, tokenize_finds MacroTable.blocksOnly_builtins has.alone other, ?_⟩
    rw [← Position.afterRun_append]
    exact HasBody.lay_body here

theorem Lexer.body_alone_nestedBlocks :
    ∃ tokens before opening rest,
      (tokenize ⟨'◊', .builtins⟩ nestedBlocks ()).value = .ok tokens ∧
      tokens = before ++ opening :: rest ∧ nestedBlocks.role '◊' opening = .elseIf ∧
      ∃ body ending text alone, nestedBlocks.BodyAhead '◊' rest body ending ∧
        (∀ others close, nestedBlocks.BodyAhead '◊' rest others close → others = body) ∧
        nestedBlocks.BodyBetween '◊' opening ending text ∧
        (tokenize ⟨'◊', .builtins⟩ ⟨"page", text⟩ ()).value = .ok alone ∧
        body = alone.map
          (·.moved (·.shiftedBy (nestedBlocks.positionAt opening.slice.stop.offset))) := by
  have roles : (tokenize ⟨'◊', .builtins⟩ nestedBlocks ()).value.toOption.map
      (List.map (nestedBlocks.role '◊')) =
        some ([.plain, .forOpen, .ifOpen, .plain] ++
          .elseIf :: [.plain, .elseLast, .plain, .close, .close, .plain]) := by decide +kernel
  obtain ⟨tokens, result, word⟩ := Outcome.ok_of_map roles
  obtain ⟨before, others, splits, _, behind⟩ := List.map_eq_append_iff.mp word
  obtain ⟨opening, rest, rfl, role, _⟩ := List.map_eq_cons_iff.mp behind
  exact ⟨tokens, before, opening, rest, result, splits, role,
    body_alone '◊' nestedBlocks () () result splits (by rw [role]; rfl)⟩

end TemplateCompiler
