import TemplateCompiler.Proofs.MatchedRuns

namespace TemplateCompiler.Code

-- Text between double quotes. A backslash protects exactly the rune after it.
inductive QuotedText : List Char → Prop
  | nil : QuotedText []
  | rune {c rest} (quote : c ≠ '"') (backslash : c ≠ '\\') (others : QuotedText rest) :
      QuotedText (c :: rest)
  | protects {c rest} (others : QuotedText rest) : QuotedText ('\\' :: c :: rest)

inductive Whole : List Char → List Char → Prop
  | nil : Whole [] []
  | rune {c rest code} (quote : c ≠ '"') (raw : c ≠ backtick) (others : Whole rest code) :
      Whole (c :: rest) (c :: code)
  | quoted {inner rest code} (inside : QuotedText inner) (others : Whole rest code) :
      Whole ('"' :: inner ++ '"' :: rest) code
  | raw {inner rest code} (inside : backtick ∉ inner) (others : Whole rest code) :
      Whole (backtick :: inner ++ backtick :: rest) code

-- A span up to the end of the text. The last rune may be a backslash with nothing to protect.
inductive OpenSpan : List Char → Prop
  | quoted {inner} (inside : QuotedText inner) : OpenSpan ('"' :: inner)
  | protecting {inner} (inside : QuotedText inner) : OpenSpan ('"' :: inner ++ ['\\'])
  | raw {inner} (inside : backtick ∉ inner) : OpenSpan (backtick :: inner)

-- Any run, with the runes of it that lie outside its spans and delimit none.
inductive Outside : List Char → List Char → Prop
  | whole {run code} (whole : Whole run code) : Outside run code
  | unclosed {run span code} (whole : Whole run code) (opens : OpenSpan span) :
      Outside (run ++ span) code

section Shape
variable {run rest code inner : List Char}

theorem QuotedText.feeds (inside : QuotedText inner) (rest : List Char) :
    inner.foldl Quoting.feed .quoted = .quoted ∧
      structural .quoted (inner ++ rest) = structural .quoted rest := by
  induction inside with
  | nil => exact ⟨rfl, rfl⟩
  | @rune c others quote backslash _ ih =>
    have fed : Quoting.quoted.feed c = .quoted := by simp [Quoting.feed, quote, backslash]
    rw [List.foldl_cons, fed, List.cons_append, structural, fed]
    exact ih
  | protects _ ih => exact ih

theorem raw_feeds (inside : backtick ∉ inner) (rest : List Char) :
    inner.foldl Quoting.feed .raw = .raw ∧
      structural .raw (inner ++ rest) = structural .raw rest := by
  induction inner with
  | nil => exact ⟨rfl, rfl⟩
  | cons c others ih =>
    rw [List.mem_cons, not_or] at inside
    have fed : Quoting.raw.feed c = .raw := by simp [Quoting.feed, Ne.symm inside.1]
    rw [List.foldl_cons, fed, List.cons_append, structural, fed]
    exact ih inside.2

theorem Whole.feeds (whole : Whole run code) :
    run.foldl Quoting.feed .plain = .plain ∧ structural .plain run = code := by
  induction whole with
  | nil => exact ⟨rfl, rfl⟩
  | @rune c rest code quote raw _ ih =>
    have fed : Quoting.plain.feed c = .plain := by simp [Quoting.feed, quote, raw]
    have counted : Quoting.plain.isStructural c = true := by
      simp [Quoting.isStructural, quote, raw]
    rw [List.foldl_cons, fed, structural, if_pos counted, fed, ih.2]
    exact ⟨ih.1, rfl⟩
  | @quoted inner rest code inside _ ih =>
    obtain ⟨stays, skips⟩ := inside.feeds ('"' :: rest)
    refine ⟨?_, skips.trans ih.2⟩
    rw [List.foldl_append]
    exact (congrArg (('"' :: rest).foldl Quoting.feed) stays).trans ih.1
  | @raw inner rest code inside _ ih =>
    obtain ⟨stays, skips⟩ := raw_feeds inside (backtick :: rest)
    refine ⟨?_, skips.trans ih.2⟩
    rw [List.foldl_append]
    exact (congrArg ((backtick :: rest).foldl Quoting.feed) stays).trans ih.1

theorem OpenSpan.feeds {span : List Char} (opens : OpenSpan span) :
    span.foldl Quoting.feed .plain ≠ .plain ∧ structural .plain span = [] := by
  cases opens with
  | @quoted inner inside =>
    obtain ⟨stays, skips⟩ := inside.feeds []
    rw [List.append_nil] at skips
    exact ⟨fun plain => (nomatch stays.symm.trans plain), skips⟩
  | @protecting inner inside =>
    obtain ⟨stays, skips⟩ := inside.feeds ['\\']
    have escapes : ('"' :: inner ++ ['\\']).foldl Quoting.feed .plain = .escaped := by
      rw [List.foldl_append]
      exact congrArg (['\\'].foldl Quoting.feed) stays
    exact ⟨fun plain => (nomatch escapes.symm.trans plain), skips⟩
  | @raw inner inside =>
    obtain ⟨stays, skips⟩ := raw_feeds inside []
    rw [List.append_nil] at skips
    exact ⟨fun plain => (nomatch stays.symm.trans plain), skips⟩

theorem Outside.structural_eq (outside : Outside run code) : structural .plain run = code := by
  cases outside with
  | whole whole => exact whole.feeds.2
  | unclosed whole opens =>
    rw [structural_append, whole.feeds.1, whole.feeds.2, opens.feeds.2, List.append_nil]

theorem quoted_splits : ∀ text : List Char,
    (∃ inner rest, text = inner ++ '"' :: rest ∧ QuotedText inner) ∨ OpenSpan ('"' :: text)
  | [] => .inr (.quoted .nil)
  | [c] => by
    by_cases quote : c = '"'
    · exact .inl ⟨[], [], by rw [quote]; rfl, .nil⟩
    by_cases backslash : c = '\\'
    · rw [backslash]
      exact .inr (.protecting .nil)
    · exact .inr (.quoted (.rune quote backslash .nil))
  | c :: d :: rest => by
    by_cases quote : c = '"'
    · exact .inl ⟨[], d :: rest, by rw [quote]; rfl, .nil⟩
    by_cases backslash : c = '\\'
    · subst backslash
      rcases quoted_splits rest with ⟨inner, later, rfl, inside⟩ | opens
      · exact .inl ⟨_, later, rfl, .protects inside⟩
      · cases opens with
        | quoted inside => exact .inr (.quoted (.protects inside))
        | protecting inside => exact .inr (.protecting (.protects inside))
    · rcases quoted_splits (d :: rest) with ⟨inner, later, same, inside⟩ | opens
      · exact .inl ⟨c :: inner, later, by rw [same]; rfl, .rune quote backslash inside⟩
      · generalize d :: rest = text at opens
        cases opens with
        | quoted inside => exact .inr (.quoted (.rune quote backslash inside))
        | protecting inside => exact .inr (.protecting (.rune quote backslash inside))

-- By induction on the text that is left behind a span. Every run has a shape.
theorem exists_outside (run : List Char) : ∃ code, Outside run code := by
  induction size : run.length using Nat.strongRecOn generalizing run with
  | _ length ih =>
    subst size
    cases run with
    | nil => exact ⟨[], .whole .nil⟩
    | cons c text =>
      by_cases quote : c = '"'
      · subst quote
        rcases quoted_splits text with ⟨inner, rest, rfl, inside⟩ | opens
        · obtain ⟨code, outside⟩ := ih rest.length (by simp; omega) rest rfl
          cases outside with
          | whole whole => exact ⟨code, .whole (.quoted inside whole)⟩
          | unclosed whole opens =>
            refine ⟨code, ?_⟩
            simpa using Outside.unclosed (.quoted inside whole) opens
        · exact ⟨[], .unclosed .nil opens⟩
      by_cases raw : c = backtick
      · subst raw
        by_cases closes : backtick ∈ text
        · obtain ⟨inner, rest, rfl, inside⟩ := List.eq_append_cons_of_mem closes
          obtain ⟨code, outside⟩ := ih rest.length (by simp; omega) rest rfl
          cases outside with
          | whole whole => exact ⟨code, .whole (.raw inside whole)⟩
          | unclosed whole opens =>
            refine ⟨code, ?_⟩
            simpa using Outside.unclosed (.raw inside whole) opens
        · exact ⟨[], .unclosed .nil (.raw closes)⟩
      · obtain ⟨code, outside⟩ := ih text.length (by simp) text rfl
        cases outside with
        | whole whole => exact ⟨c :: code, .whole (.rune quote raw whole)⟩
        | unclosed whole opens => exact ⟨c :: code, .unclosed (.rune quote raw whole) opens⟩

theorem outside_iff : Outside run code ↔ structural .plain run = code := by
  constructor
  · exact Outside.structural_eq
  · rintro rfl
    obtain ⟨code, outside⟩ := exists_outside run
    rwa [outside.structural_eq]

theorem whole_iff : Whole run code ↔
    run.foldl Quoting.feed .plain = .plain ∧ structural .plain run = code := by
  constructor
  · exact Whole.feeds
  · rintro ⟨plain, counted⟩
    cases outside_iff.mpr counted with
    | whole whole => exact whole
    | unclosed whole opens =>
      rw [List.foldl_append, whole.feeds.1] at plain
      exact absurd plain opens.feeds.1

end Shape
end TemplateCompiler.Code
