import TemplateCompiler.Text.Quoted

namespace TemplateCompiler

inductive Misuse where
  | seekPastEnd (offset : Nat) (source : String) (bytes : Nat)
  | seekSplitsRune (offset : Nat) (source : String)
  | unshiftMismatch (expected : String) (offset : Nat)
  | invertedSlice (start stop : Nat)
  | noSuchRange
deriving DecidableEq

def Misuse.message? : Misuse → Option String
  | .seekPastEnd offset source bytes =>
    some s!"seek to offset {offset} past end of `{source}` ({bytes} bytes)"
  | .seekSplitsRune offset source =>
    some s!"seek to offset {offset} splits a UTF-8 sequence in `{source}`"
  | .unshiftMismatch expected offset =>
    let shown := Text.quoted expected
    some s!"unshift of {shown} does not match consumed input at offset {offset}"
  | .invertedSlice start stop => some s!"slice start {start} is after slice end {stop}"
  | .noSuchRange => none

end TemplateCompiler
