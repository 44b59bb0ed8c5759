import StreamTable.Key.Normal

/-! The order of rows. Keys are compared in normal form, level by level: letters
first, then, as the sensitivity asks, marks and letter case. A run of digits is
one element; of two runs the longer is the greater, leading zeros apart. Keys
that tie are still told apart by the total order, which goes on to the characters
of the normal forms. -/

namespace StreamTable

open Unicode

inductive Sensitivity where
  | base
  | accent
  | letterCase
  | variant
  deriving DecidableEq, Repr

/-- What one pass over the keys looks at. -/
structure Level where
  keepMarks : Bool
  keepCase : Bool
  deriving DecidableEq, Repr

def Sensitivity.levels : Sensitivity → List Level
  | base => [⟨false, false⟩]
  | accent => [⟨false, false⟩, ⟨true, false⟩]
  | letterCase => [⟨false, false⟩, ⟨false, true⟩]
  | variant => [⟨false, false⟩, ⟨true, false⟩, ⟨false, true⟩, ⟨true, true⟩]

/-- One step of a comparison. A number is the digits of a run without its leading
zeros, so zero has none. -/
inductive Element where
  | number (digits : List Char)
  | character (c : Char)
  deriving DecidableEq, Repr

namespace Element

/-- Of two numbers the one of fewer digits is less, and numbers of as many digits
compare digit by digit. -/
def orderDigits (a b : List Char) : Ordering := (compare a.length b.length).then (compare a b)

/-- A number sorts before every character. -/
def order : Element → Element → Ordering
  | number a, number b => orderDigits a b
  | number _, character _ => .lt
  | character _, number _ => .gt
  | character a, character b => compare a b

instance : Ord Element := ⟨order⟩

/-- The digits of a run with one more, which does not count while there are none
and it is zero. -/
def extend (digits : List Char) (digit : Char) : List Char :=
  if digits.isEmpty && digit == '0' then digits else digits ++ [digit]

def pending : Option (List Char) → List Element
  | none => []
  | some digits => [number digits]

/-- Reads the elements of a text, given the digits of the run just read. -/
def gather (run : Option (List Char)) : List Char → List Element
  | [] => pending run
  | c :: rest =>
    if c.isDigit then gather (some (extend (run.getD []) c)) rest
    else pending run ++ character c :: gather none rest

end Element

structure Collator where
  sensitivity : Sensitivity := .base
  ignorePunctuation : Bool := true
  numeric : Bool := true
  deriving DecidableEq, Repr

namespace Collator

def keeps (collator : Collator) (level : Level) (c : Char) : Bool :=
  (level.keepMarks || !isMark c) &&
    (!collator.ignorePunctuation || isAlphanumeric c || (level.keepMarks && isMark c))

def letters (collator : Collator) (level : Level) (text : List Char) : List Char :=
  ((nfkd text).filter (collator.keeps level)).flatMap fun c => if level.keepCase then [c] else lower c

def elements (collator : Collator) (level : Level) (text : List Char) : List Element :=
  let letters := collator.letters level text
  if collator.numeric then Element.gather none letters else letters.map .character

/-- The order of two normal forms: the first level that tells them apart decides. -/
def collate (collator : Collator) (a b : List Char) : Ordering :=
  collator.sensitivity.levels.foldr
    (fun level rest => (compare (collator.elements level a) (collator.elements level b)).then rest) .eq

/-- The order of two keys up to differences that do not matter. -/
def order (collator : Collator) (a b : String) : Ordering :=
  let a := Key.normalizeText a.toList
  let b := Key.normalizeText b.toList
  if a = b then .eq else collator.collate a b

/-- The order of two keys, ties broken by the characters of their normal forms. -/
def orderTotal (collator : Collator) (a b : String) : Ordering :=
  let a := Key.normalizeText a.toList
  let b := Key.normalizeText b.toList
  if a = b then .eq else (collator.collate a b).then (compare a b)

end Collator

namespace Key

/-- The order of rows in a table. -/
def order (a b : String) : Ordering := ({} : Collator).order a b

/-- The order of rows whose keys tie. -/
def orderTotal (a b : String) : Ordering := ({} : Collator).orderTotal a b

/-- The positions of keys once they are sorted. Keys that tie keep their order. -/
def ranking (order : String → String → Ordering) (keys : List String) : List Nat :=
  (keys.zipIdx.mergeSort fun a b => order a.1 b.1 != .gt).map (·.2)

end Key

end StreamTable
