import StreamTable.Proofs.FragmentScan

/-! Text that is put into markup is read back. A reference holds no semicolon and a tag no
second angle bracket, so each piece of a fragment ends where it was meant to, whatever
comes behind it, and what a reference stood for is not looked at again. Numbers are taken
as the library writes them, with zeros before them and hexadecimal letters in either case. -/

namespace StreamTable.Markup

theorem digits?_append (base value : Nat) (front rest : List Char) :
    digits? base value (front ++ rest) = (digits? base value front).bind fun read => digits? base read rest := by
  induction front generalizing value with
  | nil => rfl
  | cons c front ih =>
    simp only [List.cons_append, digits?]
    cases digit? base c with
    | none => rfl
    | some digit => exact ih _

theorem isSome_digit?_of_digits? {base value number : Nat} {text : List Char} (read : digits? base value text = some number) :
    ∀ c ∈ text, (digit? base c).isSome := by
  induction text generalizing value with
  | nil => simp
  | cons first rest ih =>
    simp only [digits?] at read
    cases digit : digit? base first with
    | none => simp [digit] at read
    | some shown =>
      rw [digit] at read
      intro c member
      rcases List.mem_cons.mp member with rfl | later
      · rw [digit]
        rfl
      · exact ih read c later

theorem digit?_digitChar {base digit : Nat} (small : base ≤ 16) (below : digit < base) :
    digit? base digit.digitChar = some digit := by
  have each : ∀ base ≤ 16, ∀ digit < base, digit? base digit.digitChar = some digit := by decide +kernel
  exact each base small digit below

theorem digits?_toDigits {base : Nat} (more : 1 < base) (small : base ≤ 16) (number : Nat) :
    digits? base 0 (Nat.toDigits base number) = some number := by
  induction number using Nat.strongRecOn with
  | ind number ih =>
    rw [Nat.toDigits_eq_if more]
    split
    next below => simp [digits?, digit?_digitChar small below]
    next above =>
      have positive : 0 < base := by omega
      have fewer : number / base < number := Nat.div_lt_self (by omega) more
      rw [digits?_append, ih _ fewer, Option.bind_some, digits?,
        digit?_digitChar small (Nat.mod_lt number positive)]
      simp [digits?, Nat.div_add_mod]

theorem digits?_zeros {base : Nat} (more : 1 < base) (small : base ≤ 16) (zeros : Nat) (rest : List Char) :
    digits? base 0 (List.replicate zeros '0' ++ rest) = digits? base 0 rest := by
  have zero : digit? base '0' = some 0 := digit?_digitChar small (Nat.lt_of_succ_lt more)
  induction zeros with
  | zero => rfl
  | succ zeros ih => simpa [List.replicate_succ, digits?, zero] using ih

theorem digit?_toLower (c : Char) : digit? 16 c.toLower = digit? 16 c := by
  by_cases upper : c.val ≥ 'A'.val ∧ c.val ≤ 'Z'.val
  · have checked : ∀ point ∈ List.range' 65 26, digit? 16 (Char.ofNat point).toLower = digit? 16 (Char.ofNat point) := by
      decide +kernel
    have bounds : 65 ≤ c.toNat ∧ c.toNat ≤ 90 := by
      simpa [UInt32.le_iff_toNat_le, ← Char.toNat_val] using upper
    have same := checked c.toNat (List.mem_range'_1.mpr (by omega))
    rwa [Char.ofNat_toNat] at same
  · have same : c.toLower = c := dif_neg upper
    rw [same]

theorem digits?_map_toLower (value : Nat) (digits : List Char) :
    digits? 16 value (digits.map Char.toLower) = digits? 16 value digits := by
  induction digits generalizing value with
  | nil => rfl
  | cons c rest ih => simp only [List.map_cons, digits?, digit?_toLower, ih]

theorem number?_of_digits? {base number : Nat} {digits : List Char} (begun : digits ≠ [])
    (read : digits? base 0 digits = some number) : number? base digits = some number := by
  obtain ⟨first, rest, rfl⟩ := List.exists_cons_of_ne_nil begun
  have shown : (digit? base first).isSome := isSome_digit?_of_digits? read first List.mem_cons_self
  have unsigned : first ≠ '+' := by
    rintro rfl
    have sign : digit? base '+' = none := rfl
    simp [sign] at shown
  simp [number?, unsigned, read]

theorem character?_toNat (c : Char) : character? c.toNat = some c := by
  have valid : c.toNat.isValidChar := c.valid
  rw [character?, if_pos valid, Char.ofNat_toNat]

/-- The ways to write a character between an ampersand and a semicolon: six names, and its
number in either base. The semicolon of a number is at most ten bytes behind the ampersand. -/
inductive Spells : List Char → Char → Prop
  | named {name : List Char} {c : Char}
      (listed : (name, c) ∈ [("amp".toList, '&'), ("lt".toList, '<'), ("gt".toList, '>'), ("quot".toList, '"'),
        ("apos".toList, '\''), ("nbsp".toList, '\xa0')]) : Spells name c
  | decimal {digits : List Char} {c : Char} (zeros : Nat)
      (written : digits = List.replicate zeros '0' ++ Nat.toDigits 10 c.toNat)
      (near : byteSize ('&' :: '#' :: digits) ≤ 10) : Spells ('#' :: digits) c
  | hexadecimal {mark : Char} {digits : List Char} {c : Char} (marked : mark = 'x' ∨ mark = 'X') (zeros : Nat)
      (written : digits.map Char.toLower = List.replicate zeros '0' ++ Nat.toDigits 16 c.toNat)
      (near : byteSize ('&' :: '#' :: mark :: digits) ≤ 10) : Spells ('#' :: mark :: digits) c

private theorem lookup_number (rest : List Char) : namedCharacters.lookup ('#' :: rest) = none := rfl

theorem reference?_decimal {digits : List Char} {number : Nat} (begun : digits ≠ [])
    (read : digits? 10 0 digits = some number) : reference? ('#' :: digits) = character? number := by
  obtain ⟨first, rest, rfl⟩ := List.exists_cons_of_ne_nil begun
  have shown : (digit? 10 first).isSome := isSome_digit?_of_digits? read first List.mem_cons_self
  have unmarked : first ≠ 'x' ∧ first ≠ 'X' := by
    constructor
    all_goals
      rintro rfl
      exact absurd shown (by decide)
  simp [reference?, lookup_number, unmarked, number?_of_digits? begun read]

theorem reference?_hexadecimal {mark : Char} {digits : List Char} {number : Nat} (marked : mark = 'x' ∨ mark = 'X')
    (begun : digits ≠ []) (read : digits? 16 0 digits = some number) :
    reference? ('#' :: mark :: digits) = character? number := by
  rcases marked with rfl | rfl <;> simp [reference?, lookup_number, number?_of_digits? begun read]

/-- What is known of any way to write a character. -/
structure Refers (name : List Char) (c : Char) : Prop where
  closed : ';' ∉ name
  near : byteSize ('&' :: name) ≤ referenceReach
  names : reference? name = some c

private theorem closed_of_digits? {base number : Nat} {digits : List Char} (read : digits? base 0 digits = some number) :
    ';' ∉ digits := by
  intro member
  have shown := isSome_digit?_of_digits? read ';' member
  have separator : digit? base ';' = none := rfl
  simp [separator] at shown

theorem Spells.refers {name : List Char} {c : Char} (spells : Spells name c) : Refers name c := by
  cases spells with
  | named listed =>
    have checked : ∀ entry ∈ [("amp".toList, '&'), ("lt".toList, '<'), ("gt".toList, '>'), ("quot".toList, '"'),
        ("apos".toList, '\''), ("nbsp".toList, '\xa0')],
        ';' ∉ entry.1 ∧ byteSize ('&' :: entry.1) ≤ referenceReach ∧ reference? entry.1 = some entry.2 := by
      decide +kernel
    obtain ⟨closed, near, names⟩ := checked _ listed
    exact ⟨closed, near, names⟩
  | @decimal digits c zeros written near =>
    have read : digits? 10 0 digits = some c.toNat := by
      rw [written, digits?_zeros (by decide) (by decide), digits?_toDigits (by decide) (by decide)]
    have begun : digits ≠ [] := by simp [written, Nat.toDigits_ne_nil]
    exact ⟨by simp [closed_of_digits? read], near, by rw [reference?_decimal begun read, character?_toNat]⟩
  | @hexadecimal mark digits c marked zeros written near =>
    have read : digits? 16 0 digits = some c.toNat := by
      rw [← digits?_map_toLower, written, digits?_zeros (by decide) (by decide), digits?_toDigits (by decide) (by decide)]
    have begun : digits ≠ [] := by
      rintro rfl
      simp [Nat.toDigits_ne_nil] at written
    have other : ';' ≠ mark := by
      rcases marked with rfl | rfl <;> decide
    exact ⟨by simp [closed_of_digits? read, other], near, by rw [reference?_hexadecimal marked begun read, character?_toNat]⟩

inductive Piece where
  | literal (text : List Char)
  | tag (inside : List Char)
  | reference (name : List Char) (c : Char)

namespace Piece

def Valid : Piece → Prop
  | literal text => '<' ∉ text ∧ '&' ∉ text
  | tag inside => '>' ∉ inside
  | reference name c => Spells name c

def written : Piece → List Char
  | literal text => text
  | tag inside => '<' :: (inside ++ ['>'])
  | reference name _ => '&' :: (name ++ [';'])

def shown : Piece → List Char
  | literal text => text
  | tag _ => []
  | reference _ c => [c]

theorem textOf_written {piece : Piece} (valid : piece.Valid) (rest : List Char) :
    textOf (piece.written ++ rest) = piece.shown ++ textOf rest := by
  cases piece with
  | literal text => exact textOf_literal valid rest
  | tag inside => simpa [written, shown] using textOf_tag valid rest
  | reference name c =>
    obtain ⟨closed, near, names⟩ := Spells.refers valid
    simpa [written, shown] using textOf_reference closed near names rest

theorem textOf_pieces {pieces : List Piece} (valid : ∀ piece ∈ pieces, piece.Valid) :
    textOf (pieces.flatMap written) = pieces.flatMap shown := by
  induction pieces with
  | nil => rfl
  | cons piece pieces ih =>
    rw [List.flatMap_cons, List.flatMap_cons, textOf_written (valid piece List.mem_cons_self),
      ih fun other member => valid other (List.mem_cons_of_mem piece member)]

end Piece

/-- A text with its characters written raw or as references, and with tags between them. -/
inductive Escapes : List Char → List Char → Prop
  | done : Escapes [] []
  | raw {c : Char} {text written : List Char} (plain : c ≠ '<' ∧ c ≠ '&') (rest : Escapes text written) :
      Escapes (c :: text) (c :: written)
  | reference {name : List Char} {c : Char} {text written : List Char} (spells : Spells name c)
      (rest : Escapes text written) : Escapes (c :: text) ('&' :: (name ++ ';' :: written))
  | tag {inside text written : List Char} (closed : '>' ∉ inside) (rest : Escapes text written) :
      Escapes text ('<' :: (inside ++ '>' :: written))

theorem Escapes.textOf_eq {text written : List Char} (escapes : Escapes text written) : textOf written = text := by
  induction escapes with
  | done => exact textOf_nil
  | raw plain _ ih => rw [textOf_plain plain, ih]
  | reference spells _ ih =>
    obtain ⟨closed, near, names⟩ := spells.refers
    rw [textOf_reference closed near names, ih]
  | tag closed _ ih => rw [textOf_tag closed, ih]

def escaped (text : String) : String :=
  String.ofList (text.toList.flatMap fun c => if c = '&' then "&amp;".toList else if c = '<' then "&lt;".toList else [c])

theorem textContent_escaped (text : String) : textContent (escaped text) = text := by
  have escapes (chars : List Char) : Escapes chars
      (chars.flatMap fun c => if c = '&' then "&amp;".toList else if c = '<' then "&lt;".toList else [c]) := by
    induction chars with
    | nil => exact .done
    | cons c rest ih =>
      rw [List.flatMap_cons]
      by_cases ampersand : c = '&'
      · subst c
        exact @Escapes.reference "amp".toList _ _ _ (.named (by simp)) ih
      · by_cases bracket : c = '<'
        · subst c
          exact @Escapes.reference "lt".toList _ _ _ (.named (by simp)) ih
        · simpa [ampersand, bracket] using Escapes.raw ⟨bracket, ampersand⟩ ih
  rw [textContent, escaped, String.toList_ofList, (escapes text.toList).textOf_eq, String.ofList_toList]

/-- The text of a fragment is what its pieces show, and so a text is read back however it
was escaped, wherever tags stand in it. -/
theorem textContent_inverts_markup :
    (∀ pieces : List Piece, (∀ piece ∈ pieces, piece.Valid) →
        textContent (String.ofList (pieces.flatMap Piece.written)) = String.ofList (pieces.flatMap Piece.shown)) ∧
      ∀ text written : String, Escapes text.toList written.toList → textContent written = text := by
  constructor
  · intro pieces valid
    rw [textContent, String.toList_ofList, Piece.textOf_pieces valid]
  · intro text written escapes
    rw [textContent, escapes.textOf_eq, String.ofList_toList]

/-- A reference in a tag is no reference, brackets and semicolons stand where they may, and
a decoded ampersand begins no reference. -/
theorem textContent_inverts_markup_link :
    let pieces : List Piece := [.tag "a title='1 &lt; 2'".toList, .literal "bob; > ".toList, .reference "amp".toList '&',
      .reference "#X03c2".toList 'ς', .tag "/a".toList, .reference "#0000233".toList 'é']
    (∀ piece ∈ pieces, piece.Valid) ∧
      String.ofList (pieces.flatMap Piece.written) = "<a title='1 &lt; 2'>bob; > &amp;&#X03c2;</a>&#0000233;" ∧
      textContent "<a title='1 &lt; 2'>bob; > &amp;&#X03c2;</a>&#0000233;" = "bob; > &ςé" ∧
      Escapes "&lt;".toList "&amp;<b>lt;</b>".toList ∧ textContent "&amp;<b>lt;</b>" = "&lt;" := by
  intro pieces
  have hexadecimal : Spells "#X03c2".toList 'ς' := .hexadecimal (Or.inr rfl) 1 (by decide) (by decide +kernel)
  have decimal : Spells "#0000233".toList 'é' := .decimal 4 (by decide) (by decide +kernel)
  have named : Spells "amp".toList '&' := .named List.mem_cons_self
  have valid : ∀ piece ∈ pieces, piece.Valid := by
    have plain : '<' ∉ "bob; > ".toList ∧ '&' ∉ "bob; > ".toList := by decide
    have opens : '>' ∉ "a title='1 &lt; 2'".toList := by decide
    have closes : '>' ∉ "/a".toList := by decide
    simp only [pieces, List.forall_mem_cons, Piece.Valid]
    exact ⟨opens, plain, named, hexadecimal, closes, decimal, by simp⟩
  have written : String.ofList (pieces.flatMap Piece.written) =
      "<a title='1 &lt; 2'>bob; > &amp;&#X03c2;</a>&#0000233;" := by decide +kernel
  have escapes : Escapes "&lt;".toList "&amp;<b>lt;</b>".toList := by
    have closing : Escapes [] "</b>".toList := @Escapes.tag "/b".toList [] [] (by decide) .done
    have letters : Escapes "lt;".toList "lt;</b>".toList :=
      .raw (by decide) (.raw (by decide) (.raw (by decide) closing))
    exact .reference named (@Escapes.tag "b".toList _ _ (by decide) letters)
  obtain ⟨fromPieces, fromText⟩ := textContent_inverts_markup
  refine ⟨valid, written, ?_, escapes, fromText _ _ escapes⟩
  rw [← written, fromPieces pieces valid]
  decide +kernel

end StreamTable.Markup
