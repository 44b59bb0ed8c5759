import StreamTable.Page.Bodies
import Mathlib.Data.List.InsertIdx

/-! The bodies of a table as one list of rows. An index counts the rows of all bodies
in order, empty bodies among them, and every edit of the bodies is the same edit of
that list. -/

namespace StreamTable.Page.Bodies

variable {α : Type}

theorem length_eq (bodies : List (List α)) : length bodies = bodies.flatten.length := by
  induction bodies with
  | nil => rfl
  | cons body rest ih => simp [length, ih]

theorem row?_eq (bodies : List (List α)) (index : Nat) : row? bodies index = bodies.flatten[index]? := by
  induction bodies generalizing index with
  | nil => rfl
  | cons body rest ih =>
    simp only [row?, List.flatten_cons, List.getElem?_append, ih]

/-- A change of a list at a place that leaves alone whatever is put before or after
the list. -/
structure IsLocal (change : List α → Nat → List α) : Prop where
  left {items : List α} {place : Nat} (rest : List α) :
    place < items.length → change (items ++ rest) place = change items place ++ rest
  right (items rest : List α) (place : Nat) :
    change (items ++ rest) (items.length + place) = items ++ change rest place

theorem isLocal_insertIdx (row : α) : IsLocal fun (items : List α) place => items.insertIdx place row where
  left {items place} rest inside := by
    induction items generalizing place with
    | nil => simp at inside
    | cons first items ih =>
      cases place with
      | zero => rfl
      | succ place =>
        have next := ih (Nat.lt_of_succ_lt_succ inside)
        simpa using next
  right items rest place := by
    induction items with
    | nil => simp
    | cons first items ih => simpa [Nat.add_right_comm] using ih

theorem isLocal_set (row : α) : IsLocal fun (items : List α) place => items.set place row where
  left rest inside := List.set_append_left _ _ inside
  right items rest place := by simp [List.set_append_right]

theorem isLocal_eraseIdx : IsLocal fun (items : List α) place => items.eraseIdx place where
  left rest inside := List.eraseIdx_append_of_lt_length inside rest
  right items rest place := by
    rw [List.eraseIdx_append_of_length_le (Nat.le_add_right _ _), Nat.add_sub_cancel_left]

theorem edit?_eq_some {change : List α → Nat → List α} (isLocal : IsLocal change) {bodies : List (List α)}
    {index : Nat} (inside : index < bodies.flatten.length) :
    ∃ edited, edit? change bodies index = some edited ∧ edited.flatten = change bodies.flatten index := by
  induction bodies generalizing index with
  | nil => simp at inside
  | cons body rest ih =>
    simp only [edit?, List.flatten_cons]
    split
    next here => exact ⟨_, rfl, (isLocal.left rest.flatten here).symm⟩
    next later =>
      obtain ⟨place, rfl⟩ := Nat.exists_eq_add_of_le (Nat.le_of_not_lt later)
      rw [List.flatten_cons, List.length_append] at inside
      obtain ⟨edited, found, flat⟩ := ih (Nat.lt_of_add_lt_add_left inside)
      rw [Nat.add_sub_cancel_left, found]
      exact ⟨body :: edited, rfl, by rw [List.flatten_cons, flat, isLocal.right]⟩

theorem edit?_eq_none (change : List α → Nat → List α) {bodies : List (List α)} {index : Nat}
    (outside : bodies.flatten.length ≤ index) : edit? change bodies index = none := by
  induction bodies generalizing index with
  | nil => rfl
  | cons body rest ih =>
    rw [List.flatten_cons, List.length_append] at outside
    have later : ¬ index < body.length := by omega
    have beyond : rest.flatten.length ≤ index - body.length := by omega
    simp only [edit?, later, ite_false, ih beyond, Option.map_none]

theorem flatten_append (row : α) (bodies : List (List α)) : (append row bodies).flatten = bodies.flatten ++ [row] := by
  induction bodies with
  | nil => rfl
  | cons body rest ih =>
    cases rest with
    | nil => simp [append]
    | cons next rest => simpa [append] using ih

theorem flatten_insert (row : α) {bodies : List (List α)} {index : Nat} (inside : index ≤ bodies.flatten.length) :
    (insert index row bodies).flatten = bodies.flatten.insertIdx index row := by
  cases Nat.lt_or_eq_of_le inside with
  | inl before =>
    obtain ⟨edited, found, flat⟩ := edit?_eq_some (isLocal_insertIdx row) before
    rw [insert, found, Option.getD_some, flat]
  | inr last =>
    rw [insert, edit?_eq_none _ (Nat.le_of_eq last.symm), Option.getD_none, flatten_append, last,
      List.insertIdx_length_self]

theorem edited_flatten {change : List α → Nat → List α} (isLocal : IsLocal change) {bodies edited : List (List α)}
    {index : Nat} (done : edit? change bodies index = some edited) : edited.flatten = change bodies.flatten index := by
  cases Nat.lt_or_ge index bodies.flatten.length with
  | inl inside =>
    obtain ⟨same, found, flat⟩ := edit?_eq_some isLocal inside
    cases done.symm.trans found
    exact flat
  | inr outside => cases done.symm.trans (edit?_eq_none change outside)

theorem edit?_ne_nil {change : List α → Nat → List α} {bodies edited : List (List α)} {index : Nat}
    (done : edit? change bodies index = some edited) : edited ≠ [] := by
  cases bodies with
  | nil => cases done
  | cons body rest =>
    simp only [edit?] at done
    split at done
    · cases done
      exact List.cons_ne_nil _ _
    · obtain ⟨others, -, rfl⟩ := Option.map_eq_some_iff.mp done
      exact List.cons_ne_nil _ _

theorem insert_ne_nil (row : α) (index : Nat) (bodies : List (List α)) : insert index row bodies ≠ [] := by
  cases done : edit? (fun body place => body.insertIdx place row) bodies index with
  | some edited =>
    rw [insert, done, Option.getD_some]
    exact edit?_ne_nil done
  | none =>
    rw [insert, done, Option.getD_none]
    cases bodies with
    | nil => exact List.cons_ne_nil _ _
    | cons body rest => cases rest <;> exact List.cons_ne_nil _ _

theorem mem_flatten_insert {row other : α} {bodies : List (List α)} {index : Nat}
    (member : other ∈ (insert index row bodies).flatten) : other = row ∨ other ∈ bodies.flatten := by
  cases done : edit? (fun body place => body.insertIdx place row) bodies index with
  | some edited =>
    rw [insert, done, Option.getD_some, edited_flatten (isLocal_insertIdx row) done] at member
    exact List.eq_or_mem_of_mem_insertIdx member
  | none =>
    rw [insert, done, Option.getD_none, flatten_append] at member
    simpa [or_comm] using member

theorem replace?_of_row? {row : α} {bodies : List (List α)} {index : Nat} (found : row? bodies index = some row) :
    replace? index row bodies = some bodies := by
  induction bodies generalizing index with
  | nil => cases found
  | cons body rest ih =>
    simp only [row?] at found
    simp only [replace?, edit?]
    split at found
    next here =>
      obtain ⟨inside, rfl⟩ := List.getElem?_eq_some_iff.mp found
      simp [here]
    next later =>
      have same := ih found
      rw [replace?] at same
      simp [later, same]

theorem flatten_clear (bodies : List (List α)) : (clear bodies).flatten = [] := by
  simp [clear]

end StreamTable.Page.Bodies
