import StreamTable.Proofs.EventKeys

/-! How a chain of any steps reads a payload of a removal. The first step that finds a value
decides, and a search over a chain is a search over its front and then over its rest. So
nothing behind that step counts, the step that takes the whole payload ends every chain,
and a step that finds nothing may stand anywhere. -/

namespace StreamTable

/-- What a step finds in a payload: a field that an object has and that is not null, or
the payload itself. -/
inductive TargetStep.Finds (payload : Json.Value) : TargetStep → Json.Value → Prop where
  | field {name : String} {fields : List (String × Json.Value)} {found : Json.Value}
      (object : payload = .object fields) (held : fields.lookup name = some found) (given : found ≠ .null) :
      Finds payload (.field name) found
  | whole : Finds payload .whole payload

variable {payload found : Json.Value} {step : TargetStep} {name : String}

theorem TargetStep.extract?_eq_some_iff : step.extract? payload = some found ↔ step.Finds payload found := by
  have given (value : Json.Value) : value.isNull = false ↔ value ≠ .null := by cases value <;> simp [Json.Value.isNull]
  cases step with
  | field name =>
    simp only [extract?, Option.filter_eq_some_iff, Bool.not_eq_true', given]
    constructor
    · rintro ⟨held, notNull⟩
      cases payload with
      | object fields => exact .field rfl held notNull
      | null | boolean _ | number _ | string _ | array _ => cases held
    · rintro (⟨rfl, held, notNull⟩ | _)
      exact ⟨held, notNull⟩
  | whole =>
    simp only [extract?, Option.some.injEq]
    constructor
    · rintro rfl
      exact .whole
    · intro finds
      cases finds
      rfl

theorem TargetStep.extract?_eq_none_iff : step.extract? payload = none ↔ ∀ found, ¬ step.Finds payload found := by
  simp only [Option.eq_none_iff_forall_ne_some, ← extract?_eq_some_iff, ne_eq]

theorem bare_of_kind (other : payload.kind ≠ .object) (name : String) : Bare name payload := by
  cases payload with
  | object fields => exact absurd rfl other
  | null | boolean _ | number _ | string _ | array _ => exact Or.inl rfl

namespace TargetChain

theorem extract?_append (front rest : List TargetStep) (payload : Json.Value) :
    extract? ⟨front ++ rest⟩ payload = (extract? ⟨front⟩ payload).or (extract? ⟨rest⟩ payload) :=
  List.findSome?_append

theorem extract?_cons (step : TargetStep) (rest : List TargetStep) (payload : Json.Value) :
    extract? ⟨step :: rest⟩ payload = (step.extract? payload).or (extract? ⟨rest⟩ payload) := by
  simp only [extract?, List.findSome?_cons]
  cases step.extract? payload <;> rfl

variable {before after : List TargetStep}

theorem extract?_eq_none_iff {steps : List TargetStep} :
    extract? ⟨steps⟩ payload = none ↔ ∀ step ∈ steps, ∀ found, ¬ step.Finds payload found := by
  simp only [extract?, List.findSome?_eq_none_iff, TargetStep.extract?_eq_none_iff]

/-- The first step that finds a value decides. -/
theorem extract?_of_first (missed : ∀ earlier ∈ before, ∀ found, ¬ earlier.Finds payload found)
    (finds : step.Finds payload found) : extract? ⟨before ++ step :: after⟩ payload = some found := by
  rw [extract?_append, extract?_eq_none_iff.mpr missed, Option.none_or, extract?_cons,
    TargetStep.extract?_eq_some_iff.mpr finds, Option.some_or]

theorem extract?_whole (before after others : List TargetStep) (payload : Json.Value) :
    extract? ⟨before ++ .whole :: after⟩ payload = extract? ⟨before ++ .whole :: others⟩ payload := by
  have ends (rest : List TargetStep) : extract? ⟨.whole :: rest⟩ payload = some payload := by rw [extract?_cons]; rfl
  rw [extract?_append, extract?_append, ends, ends]

theorem extract?_bare (bare : Bare name payload) (before after : List TargetStep) :
    extract? ⟨before ++ .field name :: after⟩ payload = extract? ⟨before ++ after⟩ payload := by
  rw [extract?_append, extract?_append, extract?_cons, TargetStep.extract?_field_eq_none_iff.mpr bare, Option.none_or]

theorem extract?_of_bare (bare : ∀ name, Bare name payload) (steps : List TargetStep) :
    extract? ⟨steps⟩ payload = if .whole ∈ steps then some payload else none := by
  induction steps with
  | nil => rfl
  | cons step rest ih =>
    rw [extract?_cons, ih]
    cases step with
    | field name => rw [TargetStep.extract?_field_eq_none_iff.mpr (bare name)]; simp
    | whole => simp [TargetStep.extract?]

variable {text key : String}

theorem resolve_of_read (chain : TargetChain) (read : Json.read text = .ok payload) :
    chain.resolve text = chain.resolveValue payload := by simp only [resolve, read]

theorem resolve_of_error {error : Json.Error} (chain : TargetChain) (unread : Json.read text = .error error) :
    chain.resolve text = nonempty? text := by simp only [resolve, unread]

theorem resolve_congr {chain other : TargetChain}
    (same : ∀ payload, Json.read text = .ok payload → chain.extract? payload = other.extract? payload) :
    chain.resolve text = other.resolve text := by
  cases read : Json.read text with
  | error error => rw [chain.resolve_of_error read, other.resolve_of_error read]
  | ok payload =>
    rw [chain.resolve_of_read read, other.resolve_of_read read]
    simp only [resolveValue, same payload read]

/-- How the steps of a chain come to the name in a payload. -/
structure ResolvesInOrder (chain : TargetChain) (text : String) : Prop where
  nonempty : chain.resolve text ≠ some ""
  /-- A payload that is no JSON is the name, whatever the steps are. -/
  verbatim : ∀ error, Json.read text = .error error → ∀ key, chain.resolve text = some key ↔ key = text ∧ text ≠ ""
  /-- The first step that finds a value decides, even if it finds no text. -/
  decided : ∀ payload, Json.read text = .ok payload → ∀ before step after found,
    chain.steps = before ++ step :: after → (∀ earlier ∈ before, ∀ other, ¬ earlier.Finds payload other) →
      step.Finds payload found → ∀ key, chain.resolve text = some key ↔ found = .string key ∧ key ≠ ""
  unmatched : ∀ payload, Json.read text = .ok payload →
    (∀ step ∈ chain.steps, ∀ found, ¬ step.Finds payload found) → chain.resolve text = none
  /-- The steps behind the whole payload may be dropped, put in another order or replaced. -/
  ended : ∀ before after others, chain.steps = before ++ .whole :: after →
    resolve ⟨before ++ .whole :: others⟩ text = chain.resolve text
  /-- A field that is missing or null may be asked for anywhere. -/
  inert : ∀ payload, Json.read text = .ok payload → ∀ name, Bare name payload →
    ∀ before after, chain.steps = before ++ after → resolve ⟨before ++ .field name :: after⟩ text = chain.resolve text
  /-- No field counts in a payload that is no object. -/
  fieldless : ∀ payload, Json.read text = .ok payload → payload.kind ≠ .object → (∀ name, Bare name payload) ∧
    ∀ key, chain.resolve text = some key ↔ .whole ∈ chain.steps ∧ payload = .string key ∧ key ≠ ""

/-- Every chain resolves every payload in the order of its steps. -/
theorem resolves_in_order (chain : TargetChain) (text : String) : chain.ResolvesInOrder text where
  nonempty named := by
    cases read : Json.read text with
    | error error =>
      rw [chain.resolve_of_error read, nonempty?_eq_some_iff] at named
      exact named.2 rfl
    | ok payload =>
      rw [chain.resolve_of_read read, resolveValue_eq_some_iff] at named
      exact named.2 rfl
  verbatim error unread key := by
    rw [chain.resolve_of_error unread, nonempty?_eq_some_iff]
    constructor
    · rintro ⟨rfl, visible⟩
      exact ⟨rfl, visible⟩
    · rintro ⟨rfl, visible⟩
      exact ⟨rfl, visible⟩
  decided payload read before step after found split missed finds key := by
    obtain ⟨steps⟩ := chain
    subst split
    rw [resolve_of_read _ read, resolveValue_eq_some_iff, extract?_of_first missed finds, Option.some.injEq]
  unmatched payload read missed := by
    rw [chain.resolve_of_read read, resolveValue, extract?_eq_none_iff.mpr missed]
  ended before after others split := by
    obtain ⟨steps⟩ := chain
    subst split
    exact resolve_congr fun payload _ => extract?_whole before others after payload
  inert payload read name bare before after split := by
    obtain ⟨steps⟩ := chain
    subst split
    refine resolve_congr fun other reread => ?_
    cases read.symm.trans reread
    exact extract?_bare bare before after
  fieldless payload read other := by
    have bare := bare_of_kind other
    refine ⟨bare, fun key => ?_⟩
    rw [chain.resolve_of_read read, resolveValue_eq_some_iff, extract?_of_bare bare, ← and_assoc]
    refine and_congr_left fun _ => ?_
    split
    next takes => simp [takes]
    next leaves => simp [leaves]

/-- A field that holds no text decides as well, and a chain without steps still takes a
payload that is no JSON. -/
example : resolve {} "\x7b\"key\":5,\"s\":\"bob\"\x7d" = none ∧ resolve ⟨[]⟩ "bob" = some "bob" := by decide +kernel

end TargetChain

end StreamTable
