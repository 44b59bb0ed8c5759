/-! Rows that are spread over the bodies of a table, addressed by their place
among all rows. -/

namespace StreamTable.Page.Bodies

variable {α : Type}

def length : List (List α) → Nat
  | [] => 0
  | body :: rest => body.length + length rest

def row? : List (List α) → Nat → Option α
  | [], _ => none
  | body :: rest, index => if index < body.length then body[index]? else row? rest (index - body.length)

/-- Edits the body of the row at an index, given the row's index in it. -/
def edit? (change : List α → Nat → List α) : List (List α) → Nat → Option (List (List α))
  | [], _ => none
  | body :: rest, index =>
    if index < body.length then some (change body index :: rest)
    else (edit? change rest (index - body.length)).map (body :: ·)

/-- Puts a row at the end of the last body, which is made if there is none. -/
def append (row : α) : List (List α) → List (List α)
  | [] => [[row]]
  | [body] => [body ++ [row]]
  | body :: next :: rest => body :: append row (next :: rest)

/-- Puts a row before the row at an index, in its body, or after all rows if
there is no such row. -/
def insert (index : Nat) (row : α) (bodies : List (List α)) : List (List α) :=
  (edit? (fun body place => body.insertIdx place row) bodies index).getD (append row bodies)

def replace? (index : Nat) (row : α) (bodies : List (List α)) : Option (List (List α)) :=
  edit? (fun body place => body.set place row) bodies index

def remove? (index : Nat) (bodies : List (List α)) : Option (List (List α)) :=
  edit? (fun body place => body.eraseIdx place) bodies index

def clear (bodies : List (List α)) : List (List α) := bodies.map fun _ => []

end StreamTable.Page.Bodies
