import StreamTable.Proofs.ByteOffsets
import StreamTable.Proofs.ReferenceGrammar

/-! The scan of a markup fragment at byte offsets. A turn of its loop finds where a tag or a
reference ends, cuts the name out and goes on behind it, and it fails if it asks for a part
that cannot be had. It never does: a turn is a step of the scan over characters, which takes
a beginning off the rest and yields no more bytes than it takes. So the loop ends with the
text of the fragment, whatever stands in it. -/

namespace StreamTable.Markup

/-- What a turn comes to: the loop ends, or it goes on with what was added and what is left. -/
inductive Turn where
  | ends
  | goes (yielded rest : String)

/-- The character of the reference at the front of a text and the offset of its semicolon, if one
is there. The outer option is whether the name could be cut out. -/
def decoded? (rest : String) : Option (Option (Char × Nat)) :=
  match (byteOffset? ';' rest).filter (· ≤ referenceReach) with
  | none => some none
  | some stop => (slice? rest 1 stop).map fun name => (reference? name.toList).map fun c => (c, stop)

/-- A turn of the loop, if all the parts that it asks for can be had. -/
def turn? (rest : String) : Option Turn :=
  match rest.toList.head? with
  | none => some .ends
  | some '<' =>
    match byteOffset? '>' rest with
    | none => some .ends
    | some stop => (sliceFrom? rest (stop + 1)).map (.goes "")
  | some '&' => (decoded? rest).bind fun
    | some (c, stop) => (sliceFrom? rest (stop + 1)).map (.goes (String.singleton c))
    | none => (sliceFrom? rest 1).map (.goes "&")
  | some c => (sliceFrom? rest c.utf8Size).map (.goes (String.singleton c))

/-- The loop. It has no result if a turn fails or if it takes more turns than these. -/
def loop? : Nat → String → String → Option String
  | 0, _, _ => none
  | turns + 1, rest, shown => (turn? rest).bind fun
    | .ends => some shown
    | .goes yielded next => loop? turns next (shown ++ yielded)

/-- The text of a fragment, which is the fragment itself if nothing in it has a meaning. The
loop may take a turn for each byte and one to end. -/
def textContent? (fragment : String) : Option String :=
  if '<' ∈ fragment.toList ∨ '&' ∈ fragment.toList then loop? (fragment.utf8ByteSize + 1) fragment ""
  else some fragment

/-- What is left and what was shown when the loop comes to a turn. -/
inductive Comes (fragment : String) : String → String → Prop
  | first : Comes fragment fragment ""
  | later {rest shown yielded next : String} (before : Comes fragment rest shown)
      (turn : turn? rest = some (.goes yielded next)) : Comes fragment next (shown ++ yielded)

theorem length_le_byteSize (text : List Char) : text.length ≤ byteSize text := by
  induction text with
  | nil => simp
  | cons c rest ih =>
    have size := c.utf8Size_pos
    simp only [List.length_cons, byteSize_cons]
    omega

theorem Numbers.two_le_length {sign name : List Char} {c : Char} (numbers : Numbers sign name c) : 2 ≤ name.length := by
  cases numbers with
  | decimal numeral =>
    have begun := List.length_pos_iff.mpr numeral.begun
    simp only [List.length_cons, List.length_append]
    omega
  | hexadecimal marked numeral =>
    simp only [List.length_cons]
    omega

theorem Accepted.two_le_length {name : List Char} {c : Char} (accepted : Accepted name c) : 2 ≤ name.length := by
  rcases accepted with (listed | numbers) | numbers
  · have checked : ∀ entry ∈ characterNames, 2 ≤ entry.1.length := by decide
    exact checked _ listed
  · exact numbers.two_le_length
  · exact numbers.two_le_length

/-- A step takes a beginning off a text and yields no more bytes than this has. With its two ends
a reference has four bytes at least, as many as any character. -/
theorem exists_taken {text : List Char} (more : text ≠ []) :
    ∃ taken, taken ≠ [] ∧ text = taken ++ (step text).2 ∧ byteSize (step text).1 ≤ byteSize taken := by
  fun_cases step text with
  | case1 => exact absurd rfl more
  | case2 rest =>
    cases ended : afterTag? rest with
    | none => exact ⟨'<' :: rest, by simp, by simp, by simp⟩
    | some after =>
      obtain ⟨inside, -, rfl⟩ := afterTag?_eq_some_iff.mp ended
      exact ⟨'<' :: (inside ++ ['>']), by simp, by simp, by simp⟩
  | case3 rest c after read =>
    obtain ⟨name, rfl, -, -, names⟩ := readReference?_eq_some_iff.mp read
    refine ⟨'&' :: (name ++ [';']), by simp, by simp, ?_⟩
    have letters := (reference?_eq_some_iff.mp names).two_le_length
    have long := length_le_byteSize ('&' :: (name ++ [';']))
    have short := c.utf8Size_le_four
    simp only [List.length_cons, List.length_append, List.length_nil] at long
    simp only [byteSize_cons c, byteSize_nil]
    omega
  | case4 rest => exact ⟨['&'], by simp, by simp, by simp⟩
  | case5 c rest => exact ⟨[c], by simp, by simp, by simp⟩

section Turns

variable {name rest inside after : List Char} {c : Char}

theorem decoded?_append (closed : ';' ∉ name) :
    decoded? (String.ofList ('&' :: (name ++ ';' :: after))) =
      some (if byteSize ('&' :: name) ≤ referenceReach then
        (reference? name).map fun c => (c, byteSize ('&' :: name)) else none) := by
  have absent : ';' ∉ '&' :: name := by simp [closed]
  have found : byteOffset? ';' (String.ofList ('&' :: (name ++ ';' :: after))) = some (byteSize ('&' :: name)) :=
    byteOffset?_append (by decide) absent after
  have cut : slice? (String.ofList ('&' :: (name ++ ';' :: after))) 1 (byteSize ('&' :: name)) =
      some (String.ofList name) :=
    slice?_ofList ['&'] name (';' :: after) rfl (byteSize_of_ascii (by decide)).symm rfl
  rw [decoded?, found, Option.filter_some]
  by_cases near : byteSize ('&' :: name) ≤ referenceReach
  · simp only [near, decide_true, if_true, cut, Option.map_some, String.toList_ofList]
  · simp only [near, decide_false, Bool.false_eq_true, if_false]

theorem decoded?_of_unread (unread : readReference? rest = none) :
    decoded? (String.ofList ('&' :: rest)) = some none := by
  by_cases present : ';' ∈ rest
  · obtain ⟨name, after, rfl, closed⟩ := List.eq_append_cons_of_mem present
    rw [decoded?_append closed]
    split
    next near =>
      have unnamed : reference? name = none := by
        refine Option.eq_none_iff_forall_ne_some.mpr fun c names => ?_
        have read : readReference? (name ++ ';' :: after) = some (c, after) :=
          readReference?_eq_some_iff.mpr ⟨name, rfl, closed, near, names⟩
        cases unread.symm.trans read
      rw [unnamed, Option.map_none]
    next far => rfl
  · have absent : ';' ∉ '&' :: rest := by simp [present]
    rw [decoded?, byteOffset?_of_absent (by decide) absent, Option.filter_none]

theorem turn?_unfinished (opened : '>' ∉ rest) : turn? (String.ofList ('<' :: rest)) = some .ends := by
  have absent : '>' ∉ '<' :: rest := by simp [opened]
  simp only [turn?, String.toList_ofList, List.head?_cons, byteOffset?_of_absent (by decide) absent]

theorem turn?_tag (closed : '>' ∉ inside) :
    turn? (String.ofList ('<' :: (inside ++ '>' :: after))) = some (.goes "" (String.ofList after)) := by
  have absent : '>' ∉ '<' :: inside := by simp [closed]
  have found : byteOffset? '>' (String.ofList ('<' :: (inside ++ '>' :: after))) = some (byteSize ('<' :: inside)) :=
    byteOffset?_append (by decide) absent after
  have cut : sliceFrom? (String.ofList ('<' :: (inside ++ '>' :: after))) (byteSize ('<' :: inside) + 1) =
      some (String.ofList after) :=
    sliceFrom?_ofList ('<' :: inside ++ ['>']) after (by simp) (by rw [byteSize_append, byteSize_of_ascii (by decide)])
  simp only [turn?, String.toList_ofList, List.head?_cons, found, cut, Option.map_some]

theorem turn?_reference (closed : ';' ∉ name) (near : byteSize ('&' :: name) ≤ referenceReach)
    (names : reference? name = some c) :
    turn? (String.ofList ('&' :: (name ++ ';' :: after))) =
      some (.goes (String.singleton c) (String.ofList after)) := by
  have cut : sliceFrom? (String.ofList ('&' :: (name ++ ';' :: after))) (byteSize ('&' :: name) + 1) =
      some (String.ofList after) :=
    sliceFrom?_ofList ('&' :: name ++ [';']) after (by simp) (by rw [byteSize_append, byteSize_of_ascii (by decide)])
  simp only [turn?, String.toList_ofList, List.head?_cons, decoded?_append closed, near, if_true, names,
    Option.map_some, Option.bind_some, cut]

theorem turn?_ampersand (unread : readReference? rest = none) :
    turn? (String.ofList ('&' :: rest)) = some (.goes "&" (String.ofList rest)) := by
  have cut : sliceFrom? (String.ofList ('&' :: rest)) 1 = some (String.ofList rest) :=
    sliceFrom?_ofList ['&'] rest rfl (byteSize_of_ascii (by decide)).symm
  simp only [turn?, String.toList_ofList, List.head?_cons, decoded?_of_unread unread, Option.bind_some, cut,
    Option.map_some]

theorem turn?_plain (plain : c ≠ '<' ∧ c ≠ '&') :
    turn? (String.ofList (c :: rest)) = some (.goes (String.singleton c) (String.ofList rest)) := by
  have cut : sliceFrom? (String.ofList (c :: rest)) c.utf8Size = some (String.ofList rest) :=
    sliceFrom?_ofList [c] rest rfl (by rw [byteSize_cons, byteSize_nil, Nat.add_zero])
  simp [turn?, plain, cut, -String.ofList_cons]

end Turns

/-- A turn never fails. Unless the loop ends, it is a step of the scan. -/
theorem turn?_ofList (text : List Char) :
    (turn? (String.ofList text) = some .ends ∧ step text = ([], [])) ∨
      (text ≠ [] ∧ turn? (String.ofList text) =
        some (.goes (String.ofList (step text).1) (String.ofList (step text).2))) := by
  fun_cases step text with
  | case1 => exact Or.inl ⟨rfl, rfl⟩
  | case2 rest =>
    cases ended : afterTag? rest with
    | none => exact Or.inl ⟨turn?_unfinished (afterTag?_eq_none_iff.mp ended), rfl⟩
    | some after =>
      obtain ⟨inside, closed, rfl⟩ := afterTag?_eq_some_iff.mp ended
      exact Or.inr ⟨by simp, turn?_tag closed⟩
  | case3 rest c after read =>
    obtain ⟨name, rfl, closed, near, names⟩ := readReference?_eq_some_iff.mp read
    exact Or.inr ⟨by simp, turn?_reference closed near names⟩
  | case4 rest unread => exact Or.inr ⟨by simp, turn?_ampersand unread⟩
  | case5 c rest noTag noReference => exact Or.inr ⟨by simp, turn?_plain ⟨noTag, noReference⟩⟩

/-- What a turn does that does not end the loop: a step of the scan, which takes a beginning off
the rest and adds no more bytes than this has. -/
structure Advances (rest yielded next : String) : Prop where
  isStep : step rest.toList = (yielded.toList, next.toList)
  takes : ∃ taken, taken ≠ "" ∧ rest = taken ++ next ∧ yielded.utf8ByteSize ≤ taken.utf8ByteSize

theorem turn?_cases (rest : String) :
    (turn? rest = some .ends ∧ textContent rest = "") ∨
      ∃ yielded next, turn? rest = some (.goes yielded next) ∧ Advances rest yielded next := by
  obtain ⟨text, rfl⟩ := rest.exists_eq_ofList
  rcases turn?_ofList text with ⟨turn, nothing⟩ | ⟨more, turn⟩
  · refine Or.inl ⟨turn, ?_⟩
    rw [textContent, String.toList_ofList]
    by_cases more : text = []
    · rw [more, textOf_nil, String.ofList_nil]
    · rw [textOf_eq_step more, nothing, textOf_nil, List.append_nil, String.ofList_nil]
  · obtain ⟨taken, something, split, fewer⟩ := exists_taken more
    refine Or.inr ⟨_, _, turn, by simp only [String.toList_ofList], String.ofList taken, ?_, ?_, fewer⟩
    · exact fun nothing => something (String.ofList_eq_empty_iff.mp nothing)
    · rw [← String.ofList_append, ← split]

theorem advances_of_turn? {rest yielded next : String} (turn : turn? rest = some (.goes yielded next)) :
    Advances rest yielded next := by
  rcases turn?_cases rest with ⟨ends, -⟩ | ⟨yielded', next', goes, advances⟩
  · cases ends.symm.trans turn
  · cases goes.symm.trans turn
    exact advances

namespace Advances

variable {rest yielded next : String}

theorem shorter (advances : Advances rest yielded next) : next.utf8ByteSize < rest.utf8ByteSize := by
  obtain ⟨taken, something, rfl, -⟩ := advances.takes
  have size : taken.utf8ByteSize ≠ 0 := fun none => something (String.utf8ByteSize_eq_zero_iff.mp none)
  rw [String.utf8ByteSize_append]
  omega

theorem textContent_eq (advances : Advances rest yielded next) : textContent rest = yielded ++ textContent next := by
  have more : rest.toList ≠ [] := by
    intro nothing
    have shorter := advances.shorter
    rw [String.toList_eq_nil_iff.mp nothing] at shorter
    exact Nat.not_lt_zero _ shorter
  rw [textContent, textOf_eq_step more, advances.isStep, String.ofList_append, String.ofList_toList, textContent]

end Advances

/-- A property holds of every text if it does where the loop ends and if each turn passes it on
from what is left to what it found. -/
theorem turn_induction {motive : String → Prop}
    (ends : ∀ rest, turn? rest = some .ends → textContent rest = "" → motive rest)
    (goes : ∀ rest yielded next, turn? rest = some (.goes yielded next) → Advances rest yielded next →
      motive next → motive rest) (rest : String) : motive rest := by
  induction size : rest.utf8ByteSize using Nat.strongRecOn generalizing rest with
  | ind bound ih =>
    rcases turn?_cases rest with ⟨turn, nothing⟩ | ⟨yielded, next, turn, advances⟩
    · exact ends rest turn nothing
    · exact goes rest yielded next turn advances (ih _ (size ▸ advances.shorter) next rfl)

theorem loop?_eq {turns : Nat} {rest : String} (shown : String) (enough : rest.utf8ByteSize < turns) :
    loop? turns rest shown = some (shown ++ textContent rest) := by
  induction rest using turn_induction generalizing turns shown with
  | ends rest turn nothing =>
    obtain ⟨turns, rfl⟩ := Nat.exists_eq_add_one_of_ne_zero (Nat.ne_zero_of_lt enough)
    rw [loop?, turn, nothing, String.append_empty, Option.bind_some]
  | goes rest yielded next turn advances ih =>
    obtain ⟨turns, rfl⟩ := Nat.exists_eq_add_one_of_ne_zero (Nat.ne_zero_of_lt enough)
    have shorter := advances.shorter
    rw [loop?, turn, Option.bind_some, advances.textContent_eq, ← String.append_assoc]
    exact ih (shown ++ yielded) (by omega)

theorem utf8ByteSize_textContent_le (fragment : String) : (textContent fragment).utf8ByteSize ≤ fragment.utf8ByteSize := by
  induction fragment using turn_induction with
  | ends rest turn nothing => simp [nothing]
  | goes rest yielded next turn advances ih =>
    obtain ⟨taken, -, split, fewer⟩ := advances.takes
    rw [advances.textContent_eq, split, String.utf8ByteSize_append, String.utf8ByteSize_append]
    omega

theorem textContent?_eq (fragment : String) : textContent? fragment = some (textContent fragment) := by
  rw [textContent?]
  split
  next => rw [loop?_eq _ (Nat.lt_succ_self _), String.empty_append]
  next plain =>
    rw [not_or] at plain
    have literal := textOf_literal plain []
    rw [List.append_nil, textOf_nil, List.append_nil] at literal
    rw [textContent, literal, String.ofList_toList]

/-- At every turn the fragment is what was taken and what is left. -/
theorem Comes.taken {fragment rest shown : String} (comes : Comes fragment rest shown) :
    ∃ taken, fragment = taken ++ rest ∧ shown.utf8ByteSize ≤ taken.utf8ByteSize := by
  induction comes with
  | first => exact ⟨"", by rw [String.empty_append], Nat.le_refl _⟩
  | later before turn ih =>
    obtain ⟨taken, rfl, room⟩ := ih
    obtain ⟨beginning, -, rfl, fewer⟩ := (advances_of_turn? turn).takes
    refine ⟨taken ++ beginning, by rw [String.append_assoc], ?_⟩
    rw [String.utf8ByteSize_append, String.utf8ByteSize_append]
    omega

/-- How the loop goes on a fragment, turn by turn and in the end. -/
structure ScansSafely (fragment : String) : Prop where
  /-- What is left is the end of the fragment, and a character begins where it begins. -/
  suffix : ∀ rest shown, Comes fragment rest shown →
    ∃ taken, fragment = taken ++ rest ∧ Cuttable fragment taken.utf8ByteSize fragment.utf8ByteSize
  /-- All parts that a turn asks for can be cut out. -/
  safe : ∀ rest shown, Comes fragment rest shown → (turn? rest).isSome
  /-- What a turn leaves is shorter, and it is what a step of the scan over characters leaves. -/
  shrinks : ∀ rest shown, Comes fragment rest shown → ∀ yielded next, turn? rest = some (.goes yielded next) →
    next.utf8ByteSize < rest.utf8ByteSize ∧ step rest.toList = (yielded.toList, next.toList)
  /-- What was shown has room in front of what is left. -/
  room : ∀ rest shown, Comes fragment rest shown → shown.utf8ByteSize + rest.utf8ByteSize ≤ fragment.utf8ByteSize
  ends : ∀ turns, fragment.utf8ByteSize < turns → loop? turns fragment "" = some (textContent fragment)
  result : textContent? fragment = some (textContent fragment)
  bounded : (textContent fragment).utf8ByteSize ≤ fragment.utf8ByteSize

/-- Every fragment is scanned without a cut out of bounds or within a character, to an end, and
to a text that is no longer than itself. -/
theorem scans_safely (fragment : String) : ScansSafely fragment where
  suffix rest shown comes := by
    obtain ⟨taken, rfl, -⟩ := comes.taken
    have cuttable := cuttable_append taken rest ""
    rw [String.append_empty] at cuttable
    exact ⟨taken, rfl, cuttable⟩
  safe rest shown _ := by
    rcases turn?_cases rest with ⟨turn, -⟩ | ⟨yielded, next, turn, -⟩
    · rw [turn, Option.isSome_some]
    · rw [turn, Option.isSome_some]
  shrinks rest shown _ yielded next turn :=
    have advances := advances_of_turn? turn
    ⟨advances.shorter, advances.isStep⟩
  room rest shown comes := by
    obtain ⟨taken, rfl, room⟩ := comes.taken
    rw [String.utf8ByteSize_append]
    omega
  ends turns enough := by rw [loop?_eq _ enough, String.empty_append]
  result := textContent?_eq fragment
  bounded := utf8ByteSize_textContent_le fragment

/-- Ends of tags and references are found behind characters of several bytes. -/
example : textContent? "<é→>&ς;&#x3c2;" = some "&ς;ς" := by cbv

end StreamTable.Markup
