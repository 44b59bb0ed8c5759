import StreamTable.Unicode.Decomposition
import StreamTable.Unicode.Tables.Composition

/-! Compatibility composition (NFKC): the decomposed text is read from left to
right, and each character that may join the last starter, because no mark of
its own or a higher class stands between, is joined to it. -/

namespace StreamTable.Unicode

def compose? (first second : Char) : Option Char :=
  match Hangul.compose? first.toNat second.toNat with
  | some point => some (Char.ofNat point)
  | none =>
    match compositions.find? first.toNat with
    | none => none
    | some (_, results) => (results.lookup second.toNat).map Char.ofNat

/-- Composition after a starter. The marks read since that could not be joined
are held back, the last one first; their last class decides what is blocked. -/
def composeAfter (starter : Char) (held : List Char) : List Char → List Char
  | [] => starter :: held.reverse
  | c :: rest =>
    let joined := match held with
      | [] => compose? starter c
      | last :: _ => if combiningClass last < combiningClass c then compose? starter c else none
    match joined with
    | some whole => composeAfter whole held rest
    | none =>
      if combiningClass c = 0 then starter :: held.reverse ++ composeAfter c [] rest
      else composeAfter starter (c :: held) rest

/-- Composes a decomposed text. Marks before the first starter are left alone. -/
def compose : List Char → List Char
  | [] => []
  | c :: rest => if combiningClass c = 0 then composeAfter c [] rest else c :: compose rest

def nfkc (text : List Char) : List Char := compose (nfkd text)

end StreamTable.Unicode
