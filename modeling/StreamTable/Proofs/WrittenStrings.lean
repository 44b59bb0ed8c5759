import StreamTable.Json.Reader
import StreamTable.Json.Writer
import Mathlib.Tactic.IntervalCases

/-! Strings are read back as they were written, alone, in a list and in a field of an
object. What a reader takes does not depend on the text behind it, so readers that follow
each other take their texts one after the other. -/

namespace StreamTable.Json

namespace Reader

variable {α β : Type}

/-- Passes over just this text, whatever comes behind it, and gives this value. -/
def Takes (reader : Reader α) (text : List Char) (value : α) : Prop :=
  ∀ rest offset, ∃ later, reader ⟨text ++ rest, offset⟩ = .ok (value, ⟨rest, later⟩)

namespace Takes

theorem pure (value : α) : Takes (Pure.pure value) [] value := fun _ offset => ⟨offset, rfl⟩

theorem skip (c : Char) : Takes Reader.skip [c] () := fun _ offset => ⟨offset + c.utf8Size, rfl⟩

theorem bind {first : Reader α} {next : α → Reader β} {text more : List Char} {value : α} {result : β}
    (head : first.Takes text value) (tail : (next value).Takes more result) :
    (first >>= next).Takes (text ++ more) result := by
  intro rest offset
  obtain ⟨middle, taken⟩ := head (more ++ rest) offset
  obtain ⟨later, done⟩ := tail rest middle
  refine ⟨later, ?_⟩
  rw [List.append_assoc]
  change StateT.bind first next _ = _
  simp only [StateT.bind, taken]
  exact done

theorem map {reader : Reader α} {text : List Char} {value : α} (change : α → β) (taken : reader.Takes text value) :
    (reader >>= fun value => Pure.pure (change value)).Takes text (change value) := by
  have both : (reader >>= fun value => Pure.pure (change value)).Takes (text ++ []) (change value) :=
    taken.bind (.pure _)
  rwa [List.append_nil] at both

theorem peeked {next : Option Char → Reader β} {c : Char} {text : List Char} {result : β}
    (taken : (next (some c)).Takes (c :: text) result) : (peek >>= next).Takes (c :: text) result := taken

theorem peekedPastBlanks {next : Option Char → Reader β} {c : Char} {text : List Char} {result : β}
    (visible : isBlank c = false) (taken : (next (some c)).Takes (c :: text) result) :
    (peekPastBlanks >>= next).Takes (c :: text) result := by
  intro rest offset
  have passed : peekPastBlanks ⟨c :: text ++ rest, offset⟩ = .ok (some c, ⟨c :: text ++ rest, offset⟩) := by
    simp [peekPastBlanks, visible]
  change ∃ later, StateT.bind peekPastBlanks next _ = _
  simp only [StateT.bind, passed]
  exact taken rest offset

end Takes

private theorem takes_escape_control {point : Nat} (control : point < 0x20) :
    escape.Takes (escaped (Char.ofNat point)).tail (Char.ofNat point) := by
  intro rest offset
  interval_cases point <;> exact ⟨_, rfl⟩

private theorem escaped_control {point : Nat} (control : point < 0x20) :
    escaped (Char.ofNat point) = '\\' :: (escaped (Char.ofNat point)).tail := by
  interval_cases point <;> rfl

private theorem takes_escape {c : Char} (special : c = '"' ∨ c = '\\' ∨ c.toNat < 0x20) :
    escaped c = '\\' :: (escaped c).tail ∧ escape.Takes (escaped c).tail c := by
  rcases special with rfl | rfl | control
  · exact ⟨rfl, fun _ _ => ⟨_, rfl⟩⟩
  · exact ⟨rfl, fun _ _ => ⟨_, rfl⟩⟩
  · rw [← Char.ofNat_toNat c]
    exact ⟨escaped_control control, takes_escape_control control⟩

private theorem escaped_plain {c : Char} (quote : c ≠ '"') (backslash : c ≠ '\\') (visible : ¬ c.toNat < 0x20) :
    escaped c = [c] := by
  have other (control : Char) (small : control.toNat < 0x20) : c ≠ control := by
    rintro rfl
    exact visible small
  have above : ¬ c.toNat < 0x10 := by omega
  simp only [escaped, quote, backslash, other '\x08' (by decide), other '\x0c' (by decide), other '\n' (by decide),
    other '\r' (by decide), other '\t' (by decide), above, visible, ite_false]

private theorem takes_character {bound : Nat} {before more : List Char} {c : Char} {result : String}
    (tail : (stringAfter bound (c :: before)).Takes more result) :
    (stringAfter (bound + 1) before).Takes (escaped c ++ more) result := by
  by_cases special : c = '"' ∨ c = '\\' ∨ c.toNat < 0x20
  · obtain ⟨start, read⟩ := takes_escape special
    rw [start]
    exact .peeked (.bind (.skip '\\') (.bind read tail))
  · simp only [not_or] at special
    obtain ⟨quote, backslash, visible⟩ := special
    rw [escaped_plain quote backslash visible]
    refine .peeked ?_
    split
    next missing => cases missing
    next same => exact absurd (Option.some.inj same) quote
    next same => exact absurd (Option.some.inj same) backslash
    next same =>
      cases same
      rw [if_neg visible]
      exact .bind (.skip c) tail

theorem takes_stringAfter {text : List Char} {bound : Nat} (enough : text.length < bound) (before : List Char) :
    (stringAfter bound before).Takes (text.flatMap escaped ++ ['"']) (String.ofList (before.reverse ++ text)) := by
  induction text generalizing bound before with
  | nil =>
    obtain ⟨bound, rfl⟩ := Nat.exists_eq_add_of_lt enough
    rw [List.append_nil]
    exact .peeked (.bind (.skip '"') (.pure _))
  | cons c rest ih =>
    obtain ⟨bound, rfl⟩ := Nat.exists_eq_add_of_lt enough
    have shorter : rest.length < rest.length + 1 + bound := by omega
    have tail := ih shorter (c :: before)
    rw [List.reverse_cons, List.append_assoc] at tail
    rw [List.flatMap_cons, List.append_assoc]
    exact takes_character tail

theorem takes_string {text : String} {bound : Nat} (enough : text.toList.length < bound) :
    (stringAfter bound []).Takes (text.toList.flatMap escaped ++ ['"']) text := by
  have taken := takes_stringAfter enough []
  rwa [List.reverse_nil, List.nil_append, String.ofList_toList] at taken

theorem takes_value_string {text : String} {bound : Nat} (enough : text.toList.length < bound) (depth : Nat) :
    (value bound depth).Takes (stringText text) (.string text) := by
  have taken : (valueWith bound (depth.casesOn none fun depth => some (value bound depth))).Takes (stringText text)
      (.string text) :=
    .peekedPastBlanks (by decide) (.bind (.skip '"') (.map Value.string (takes_string enough)))
  cases depth <;> exact taken

private theorem takes_items {item : Reader Value} {text : List Char} {held : Value} {c : Char}
    (taken : item.Takes (c :: text) held) (visible : isBlank c = false) (opens : c ≠ ']') (bound : Nat) :
    (items item (bound + 1)).Takes (c :: text ++ [']']) [held] := by
  refine .peekedPastBlanks visible ?_
  split
  next missing => cases missing
  next same => exact absurd (Option.some.inj same) opens
  next =>
    refine .bind taken ?_
    exact .peekedPastBlanks (by decide) (.bind (.skip ']') (.pure _))

private theorem takes_field {item : Reader Value} {text : List Char} {held : Value} {name : String} {bound : Nat}
    (taken : item.Takes text held) (enough : name.toList.length < bound) :
    (field item bound).Takes (stringText name ++ ':' :: text) (name, held) := by
  refine .peeked (.bind (.skip '"') ?_)
  refine .bind (takes_string enough) ?_
  exact .peekedPastBlanks (by decide) (.bind (.skip ':') (.map _ taken))

private theorem takes_fields {item : Reader Value} {text : List Char} {held : Value} {name : String} {bound : Nat}
    (taken : item.Takes text held) (enough : name.toList.length < bound) :
    (fields item bound).Takes (stringText name ++ ':' :: text ++ ['}']) [(name, held)] := by
  obtain ⟨bound, rfl⟩ := Nat.exists_eq_add_of_lt enough
  refine .peekedPastBlanks (by decide) (.bind (takes_field taken enough) ?_)
  exact .peekedPastBlanks (by decide) (.bind (.skip '}') (.pure _))

theorem takes_value_list {text : String} {bound : Nat} (enough : text.toList.length < bound) (depth : Nat) :
    (value bound (depth + 1)).Takes ('[' :: stringText text ++ [']']) (.array [.string text]) := by
  obtain ⟨more, rfl⟩ := Nat.exists_eq_add_of_lt enough
  have inside := takes_items (takes_value_string enough depth) (by decide) (by decide) (text.toList.length + more)
  exact .peekedPastBlanks (by decide) (.bind (.skip '[') (.map Value.array inside))

theorem takes_value_object {name text : String} {bound : Nat} (named : name.toList.length < bound)
    (enough : text.toList.length < bound) (depth : Nat) :
    (value bound (depth + 1)).Takes ('{' :: (stringText name ++ ':' :: stringText text ++ ['}']))
      (.object [(name, .string text)]) := by
  have inside := takes_fields (takes_value_string enough depth) named
  exact .peekedPastBlanks (by decide) (.bind (.skip '{') (.map Value.object inside))

theorem document_eq_ok {text : List Char} {bound : Nat} {held : Value}
    (taken : (value bound depthLimit).Takes text held) :
    ∃ cursor, document bound ⟨text, 0⟩ = .ok (held, cursor) := by
  obtain ⟨later, taken⟩ := taken [] 0
  rw [List.append_nil] at taken
  refine ⟨⟨[], later⟩, ?_⟩
  simp only [document, Bind.bind, StateT.bind, taken]
  rfl

end Reader

open Reader

private theorem read_of_takes {held : Value} (taken : (value (held.characters.length + 1) depthLimit).Takes
    held.characters held) : read held.text = .ok held := by
  obtain ⟨cursor, done⟩ := document_eq_ok taken
  simp only [read, Value.text, String.toList_ofList, done]

private theorem length_le_escaped (text : List Char) : text.length ≤ (text.flatMap escaped).length := by
  induction text with
  | nil => exact Nat.le_refl _
  | cons c rest ih =>
    have written : 0 < (escaped c).length := by
      by_cases special : c = '"' ∨ c = '\\' ∨ c.toNat < 0x20
      · rw [(takes_escape special).1]
        exact Nat.succ_pos _
      · simp only [not_or] at special
        rw [escaped_plain special.1 special.2.1 special.2.2]
        exact Nat.succ_pos _
    rw [List.flatMap_cons, List.length_append, List.length_cons]
    omega

private theorem length_lt_stringText (text : String) : text.toList.length < (stringText text).length := by
  have escapes := length_le_escaped text.toList
  simp only [stringText, List.cons_append, List.length_cons, List.length_append]
  omega

/-- A written string is read as itself. -/
theorem read_text_string (text : String) : read (Value.string text).text = .ok (.string text) := by
  have written := length_lt_stringText text
  exact read_of_takes (takes_value_string (Nat.lt_succ_of_lt written) depthLimit)

theorem read_text_list (text : String) : read (Value.array [.string text]).text = .ok (.array [.string text]) := by
  apply read_of_takes
  have written := length_lt_stringText text
  have enough : text.toList.length < (Value.array [.string text]).characters.length + 1 := by
    simp only [Value.characters, itemTexts, commaSeparated, List.length_append, List.length_cons]
    omega
  exact takes_value_list enough _

theorem read_text_object (name text : String) :
    read (Value.object [(name, .string text)]).text = .ok (.object [(name, .string text)]) := by
  apply read_of_takes
  have written := length_lt_stringText text
  have headed := length_lt_stringText name
  have length : (Value.object [(name, .string text)]).characters.length =
      (stringText name).length + (stringText text).length + 3 := by
    simp only [Value.characters, fieldTexts, commaSeparated, List.length_append, List.length_cons, List.length_nil]
    omega
  rw [length]
  exact takes_value_object (by omega) (by omega) _

end StreamTable.Json
