/-! The set of columns whose cells hold markup. -/

namespace StreamTable

/-- Column indices in ascending order, each once, so equal sets are equal values. -/
structure HtmlColumns where
  indices : List Nat
  ascending : indices.Pairwise (· < ·)
  deriving DecidableEq

namespace HtmlColumns

def place (index : Nat) : List Nat → List Nat
  | [] => [index]
  | other :: rest =>
    if index < other then index :: other :: rest
    else if index = other then other :: rest
    else other :: place index rest

theorem mem_place {index column : Nat} {indices : List Nat} :
    column ∈ place index indices ↔ column = index ∨ column ∈ indices := by
  induction indices with
  | nil => simp [place]
  | cons other rest ih =>
    simp only [place]
    split
    · simp
    · split
      next same => subst same; simp
      next => simp only [List.mem_cons, ih]; grind

theorem ascending_place {index : Nat} {indices : List Nat} (ascending : indices.Pairwise (· < ·)) :
    (place index indices).Pairwise (· < ·) := by
  induction indices with
  | nil => simp [place]
  | cons other rest ih =>
    have ⟨least, later⟩ := List.pairwise_cons.mp ascending
    simp only [place]
    split
    next below =>
      refine List.pairwise_cons.mpr ⟨fun column member => ?_, ascending⟩
      cases List.mem_cons.mp member with
      | inl same => exact same ▸ below
      | inr inside => exact Nat.lt_trans below (least column inside)
    next above =>
      split
      · exact ascending
      next different =>
        refine List.pairwise_cons.mpr ⟨fun column member => ?_, ih later⟩
        cases mem_place.mp member with
        | inl same => omega
        | inr inside => exact least column inside

def empty : HtmlColumns := ⟨[], .nil⟩

def insert (index : Nat) (columns : HtmlColumns) : HtmlColumns :=
  ⟨place index columns.indices, ascending_place columns.ascending⟩

def ofList (indices : List Nat) : HtmlColumns := indices.foldr insert empty

/-- The link, the duration and the button of a list of connected clients. -/
def standard : HtmlColumns := ofList [0, 2, 6]

def contains (columns : HtmlColumns) (column : Nat) : Bool := columns.indices.contains column

def isEmpty (columns : HtmlColumns) : Bool := columns.indices.isEmpty

end HtmlColumns

end StreamTable
