import StreamTable.Proofs.FlatRows

/-! A table whose rows cannot be rendered. If the page accepts no entry of the name under
which rows keep their key, every row that is brought is lost before anything was done to
the table, whatever is said of it. Removals and resets render nothing and go on, so rows
are only ever taken out, each from its own body. -/

namespace StreamTable

namespace Operation

def upserts (settings : Settings) (operation : Operation) : Bool :=
  match operation with
  | placeRow _ => true
  | operation => (operation.event? settings).any fun (kind, _) => kind = .upsert

theorem place_of_upserts {sanitizer : Option (String → String)} {synchronizer : Synchronizer} {operation : Operation}
    {edit : Edit} (upserts : operation.upserts synchronizer.settings)
    (asked : operation.edit? sanitizer synchronizer = some edit) : ∃ row, edit = .place row := by
  rcases operation.cases_event synchronizer with quiet | ⟨kind, payload, event⟩ | ⟨target, rfl⟩ | ⟨row, rfl⟩
  · rw [edit?_of_isQuiet quiet] at asked
    cases asked
  · have upserting : kind = .upsert := by
      cases operation with
      | connecting | opened | close | removeNamed _ | placeRow _ => cases event
      | upsert _ | remove _ | reset | apply _ _ | named _ _ => simpa [Operation.upserts, event] using upserts
    subst upserting
    rw [edit?_of_event event] at asked
    obtain ⟨row, -, same⟩ := Option.map_eq_some_iff.mp asked
    exact ⟨row, same.symm⟩
  · cases upserts
  · cases asked
    exact ⟨row, rfl⟩

end Operation

/-- What is kept across everything that a host does is kept by a run, after each of its steps. -/
theorem Host.Moves.run {σ : Type} {host : Host σ} {moves : σ → σ → Prop} (along : host.Moves moves)
    (synchronizer : Synchronizer) (store : σ) (operations : List Operation) :
    ∀ step ∈ Operation.run host synchronizer store operations, moves store step.store := by
  induction operations generalizing synchronizer store with
  | nil => simp [Operation.run]
  | cons operation rest ih =>
    have first := along.perform operation synchronizer store
    intro step member
    cases List.mem_cons.mp member with
    | inl same => exact same ▸ first
    | inr later => exact along.trans first (ih _ _ step later)

namespace Page

namespace Bodies

variable {α : Type} {bodies others : List (List α)}

def PartOf (bodies others : List (List α)) : Prop := List.Forall₂ List.Sublist bodies others

theorem PartOf.refl (bodies : List (List α)) : PartOf bodies bodies := List.forall₂_same.mpr fun body _ => .refl body

theorem PartOf.trans {more : List (List α)} (first : PartOf bodies others) (second : PartOf others more) :
    PartOf bodies more := by
  induction first generalizing more with
  | nil => exact second
  | cons here _ ih =>
    cases second with
    | cons there rest => exact .cons (here.trans there) (ih rest)

theorem PartOf.flatten (part : PartOf bodies others) : bodies.flatten.Sublist others.flatten := by
  induction part with
  | nil => exact .refl _
  | cons first _ ih => exact first.append ih

theorem partOf_clear (bodies : List (List α)) : PartOf (clear bodies) bodies :=
  List.forall₂_map_left_iff.mpr (List.forall₂_same.mpr fun body _ => List.nil_sublist body)

theorem partOf_of_remove? {index : Nat} (removed : remove? index bodies = some others) : PartOf others bodies := by
  induction bodies generalizing index others with
  | nil => cases removed
  | cons body rest ih =>
    simp only [remove?, edit?] at removed
    split at removed
    next here =>
      cases removed
      exact .cons (List.eraseIdx_sublist ..) (PartOf.refl rest)
    next later =>
      obtain ⟨edited, found, rfl⟩ := Option.map_eq_some_iff.mp removed
      exact .cons (.refl body) (ih found)

end Bodies

namespace TableRows

variable {rows : TableRows} {page : Page} {thrown : ScriptValue}

theorem render_rejected (rejected : Dataset.nameError? rows.identityAttribute = some thrown) (row : Row) :
    rows.render row = .error thrown := by simp only [render, rejected]

theorem insert_rejected (rejected : Dataset.nameError? rows.identityAttribute = some thrown) (index : Nat) (row : Row) :
    rows.insert index row page = (page, [.insertFailed index thrown]) := by
  simp only [insert, render_rejected rejected]

theorem replace_rejected (rejected : Dataset.nameError? rows.identityAttribute = some thrown) (index : Nat) (row : Row) :
    (rows.replace index row page).1 = page := by
  simp only [replace, render_rejected rejected]
  split <;> rfl

/-- A row that is put at its place is lost, even one that was to replace another. -/
theorem put_rejected (rejected : Dataset.nameError? rows.identityAttribute = some thrown)
    (sanitizer : Option (String → String)) (row : Row) (count : Nat) (placement : Placement) :
    ((rows.host sanitizer).put row count page placement).1 = page := by
  cases placement with
  | replace index => exact replace_rejected rejected index row
  | insert index => exact congrArg Prod.fst (insert_rejected rejected index row)
  | append => exact congrArg Prod.fst (insert_rejected rejected count row)

theorem becomes_remove {index : Nat} (inside : index < (page.rowsOf rows.id).length) :
    ∃ front body back place, Bodies.Located (rows.bodies page) index front body back place ∧
      rows.Becomes page ((page.rowsOf rows.id).eraseIdx index) (front ++ body.eraseIdx place :: back)
        (rows.remove index page) := by
  have bodied : rows.bodies page ≠ [] := by
    intro none
    have empty : page.rowsOf rows.id = [] := congrArg List.flatten none
    simp [empty] at inside
  obtain ⟨front, body, back, place, located, done, flat⟩ := exists_edited Bodies.isLocal_eraseIdx inside
  refine ⟨front, body, back, place, located, ?_⟩
  simp only [remove, Bodies.remove?, done]
  exact becomes_setBodies (present_of_bodied bodied) flat

theorem becomes_clear (rows : TableRows) (page : Page) :
    rows.Becomes page [] ((rows.bodies page).map fun _ => []) (rows.clear page, []) := by
  cases found : page.table? rows.id with
  | some table => exact becomes_setBodies (by rw [found]; rfl) (Bodies.flatten_clear _)
  | none =>
    have cleared : (rows.clear page).table? rows.id = none := by
      rw [clear, setBodies, table?_modifyTable, found, Option.map_none]
    exact ⟨by simp [rowsOf, cleared], by rw [cleared, found]; rfl,
      fun id different => table?_modifyTable_of_ne page different _, rfl, rfl⟩

/-- A page from which some rows of one table were taken, and nothing else. -/
structure Thins (rows : TableRows) (before after : Page) : Prop where
  bodies : Bodies.PartOf (rows.bodies after) (rows.bodies before)
  others : ∀ id, id ≠ rows.id → after.table? id = before.table? id
  rest : { after with elements := before.elements } = before

theorem Thins.refl (rows : TableRows) (page : Page) : rows.Thins page page :=
  ⟨.refl _, fun _ _ => rfl, rfl⟩

theorem Thins.of_eq {after : Page} (same : after = page) : rows.Thins page after := same ▸ .refl rows page

theorem Thins.trans {first second third : Page} (earlier : rows.Thins first second) (later : rows.Thins second third) :
    rows.Thins first third where
  bodies := later.bodies.trans earlier.bodies
  others id different := (later.others id different).trans (earlier.others id different)
  rest := by
    have again := congrArg (fun page : Page => { page with elements := first.elements }) later.rest
    exact again.trans earlier.rest

theorem Thins.setBodies {bodies : List (List PageRow)} (part : Bodies.PartOf bodies (rows.bodies page)) :
    rows.Thins page (rows.setBodies bodies page) where
  bodies := by
    cases found : page.table? rows.id with
    | some table => rwa [bodies_setBodies (by rw [found]; rfl)]
    | none =>
      simp only [TableRows.bodies, TableRows.setBodies, table?_modifyTable, found, Option.map_none]
      exact .refl _
  others id different := table?_modifyTable_of_ne page different _
  rest := rfl

/-- No edit of a synchronizer does more than to take rows out. -/
theorem moves_thins (rejected : Dataset.nameError? rows.identityAttribute = some thrown)
    (sanitizer : Option (String → String)) : (rows.host sanitizer).Moves rows.Thins where
  refl := Thins.refl rows
  trans := Thins.trans
  clean _ page := .refl rows page
  insert index row page := .of_eq (congrArg Prod.fst (insert_rejected rejected index row))
  replace index row page := .of_eq (replace_rejected rejected index row)
  remove index page := by
    change rows.Thins page (rows.remove index page).1
    simp only [remove]
    split
    · exact .refl rows page
    next bodies removed => exact .setBodies (Bodies.partOf_of_remove? removed)
  clear page := .setBodies (Bodies.partOf_clear _)

/-- What an operation does to a table whose rows cannot be rendered. -/
structure Spares (rows : TableRows) (sanitizer : Option (String → String)) (synchronizer : Synchronizer) (page : Page)
    (operation : Operation) (step : Step Page) : Prop where
  /-- No upsert changes the page, even if it tells of a row that was put there or replaced. -/
  upserted : operation.upserts synchronizer.settings → step.store = page
  kept : (∀ index, step.outcome ≠ some (.removed index)) → (∀ count, step.outcome ≠ some (.cleared count)) →
    step.store = page
  removed : ∀ index, step.outcome = some (.removed index) →
    ∃ front body back place, Bodies.Located (rows.bodies page) index front body back place ∧
      rows.Becomes page ((page.rowsOf rows.id).eraseIdx index) (front ++ body.eraseIdx place :: back) (step.store, [])
  cleared : ∀ count, step.outcome = some (.cleared count) → count = (page.rowsOf rows.id).length ∧
    rows.Becomes page [] ((rows.bodies page).map fun _ => []) (step.store, [])
  /-- A removal still finds the first row of its name. -/
  named : ∀ target, operation.edit? sanitizer synchronizer = some (.remove target) → synchronizer.phase ≠ .closed →
    step.outcome = some (((rows.labels page).findIdx? fun label =>
      Key.lowerCase label.effective = Key.lowerCase target).elim .notFound .removed)
  reset : operation.edit? sanitizer synchronizer = some .reset → synchronizer.phase ≠ .closed →
    step.outcome = some (.cleared (page.rowsOf rows.id).length)

section Step

variable (sanitizer : Option (String → String)) (synchronizer : Synchronizer)

variable (records : List Record) {operation : Operation}

private theorem spares_place (rejected : Dataset.nameError? rows.identityAttribute = some thrown) {row : Row}
    (asked : operation.edit? sanitizer synchronizer = some (.place row)) (active : synchronizer.phase ≠ .closed) :
    rows.Spares sanitizer synchronizer page operation
      (((Edit.place row).operation.perform (rows.host sanitizer) synchronizer page).after records) := by
  obtain ⟨own, placed⟩ := Synchronizer.placeRow_active (rows.host sanitizer) page active row
  simp only [Edit.operation, Operation.perform, placed, put_rejected rejected]
  have said := ((rows.host sanitizer).placement row page).outcome_eq ((rows.host sanitizer).labels page).length
  generalize ((rows.host sanitizer).placement row page).outcome ((rows.host sanitizer).labels page).length = outcome at said
  refine ⟨fun _ => rfl, fun _ _ => rfl, fun index told => ?_, fun count told => ?_, fun target other _ => ?_,
    fun other _ => ?_⟩
  · cases told
    rcases said with same | same | same <;> cases same
  · cases told
    rcases said with same | same | same <;> cases same
  · cases asked.symm.trans other
  · cases asked.symm.trans other

private theorem spares_remove {target : String} (asked : operation.edit? sanitizer synchronizer = some (.remove target))
    (active : synchronizer.phase ≠ .closed) :
    rows.Spares sanitizer synchronizer page operation
      (((Edit.remove target).operation.perform (rows.host sanitizer) synchronizer page).after records) := by
  have noUpsert : ¬ operation.upserts synchronizer.settings := by
    intro upserts
    obtain ⟨row, same⟩ := Operation.place_of_upserts upserts asked
    cases same
  have labels : (rows.host sanitizer).labels page = rows.labels page := rfl
  simp only [Edit.operation, Operation.perform, Synchronizer.removeNamed, active, ite_false, labels]
  split
  next index found =>
    obtain ⟨inside, -⟩ := List.findIdx?_eq_some_iff_getElem.mp found
    obtain ⟨front, body, back, place, located, becomes⟩ := becomes_remove (labels_length page ▸ inside)
    refine ⟨fun upserts => absurd upserts noUpsert, fun other _ => absurd rfl (other index), fun other told => ?_,
      fun count told => ?_, fun other same _ => ?_, fun other _ => ?_⟩
    · cases told
      exact ⟨front, body, back, place, located, becomes.flat, becomes.table, becomes.others, becomes.rest, rfl⟩
    · cases told
    · cases asked.symm.trans same
      rw [found]
      rfl
    · cases asked.symm.trans other
  next missed =>
    refine ⟨fun _ => rfl, fun _ _ => rfl, fun other told => ?_, fun count told => ?_, fun other same _ => ?_,
      fun other _ => ?_⟩
    · cases told
    · cases told
    · cases asked.symm.trans same
      rw [missed]
      rfl
    · cases asked.symm.trans other

private theorem spares_reset (asked : operation.edit? sanitizer synchronizer = some .reset)
    (active : synchronizer.phase ≠ .closed) :
    rows.Spares sanitizer synchronizer page operation
      ((Edit.reset.operation.perform (rows.host sanitizer) synchronizer page).after records) := by
  have noUpsert : ¬ operation.upserts synchronizer.settings := by
    intro upserts
    obtain ⟨row, same⟩ := Operation.place_of_upserts upserts asked
    cases same
  have count : ((rows.host sanitizer).labels page).length = (page.rowsOf rows.id).length := labels_length page
  simp only [Edit.operation, Operation.perform, Synchronizer.applyReset, active, ite_false, count]
  refine ⟨fun upserts => absurd upserts noUpsert, fun _ other => absurd rfl (other _), fun index told => ?_,
    fun count told => ?_, fun target other _ => ?_, fun _ _ => rfl⟩
  · cases told
  · cases told
    exact ⟨rfl, becomes_clear rows page⟩
  · cases asked.symm.trans other

theorem spares (rejected : Dataset.nameError? rows.identityAttribute = some thrown) (operation : Operation) :
    rows.Spares sanitizer synchronizer page operation
      (operation.perform (rows.host sanitizer) synchronizer page) := by
  cases operation.course sanitizer synchronizer with
  | quiet silent done =>
    have unasked : operation.edit? sanitizer synchronizer = none := Operation.edit?_of_isQuiet silent
    rw [done]
    exact ⟨fun _ => rfl, fun _ _ => rfl, by simp [Step.quiet], by simp [Step.quiet], by simp [unasked], by simp [unasked]⟩
  | dropped told useless records done =>
    rw [done]
    exact ⟨fun _ => rfl, fun _ _ => rfl, by simp, by simp, by simp [useless], by simp [useless]⟩
  | edited told edit asked records done =>
    rw [done (rows.host sanitizer) page fun _ _ => rfl]
    by_cases closed : synchronizer.phase = .closed
    · obtain ⟨own, dropped⟩ := edit.perform_closed (rows.host sanitizer) page closed
      rw [dropped]
      exact ⟨fun _ => rfl, fun _ _ => rfl, by simp [Step.after], by simp [Step.after], by simp [closed], by simp [closed]⟩
    · cases edit with
      | place row => exact spares_place sanitizer synchronizer records rejected asked closed
      | remove target => exact spares_remove sanitizer synchronizer records asked closed
      | reset => exact spares_reset sanitizer synchronizer records asked closed

end Step

/-- While rows cannot be rendered, no upsert touches the table and removals and resets work,
so that the rows are at all times some of the first ones, in their order and unchanged,
each in its own body. -/
theorem run_spares_rows (rows : TableRows) (sanitizer : Option (String → String)) (synchronizer : Synchronizer)
    (page : Page) (operations : List Operation) (rejected : (Dataset.nameError? rows.identityAttribute).isSome) :
    (∀ (synchronizer : Synchronizer) (page : Page) (operation : Operation),
      rows.Spares sanitizer synchronizer page operation (operation.perform (rows.host sanitizer) synchronizer page)) ∧
    ∀ step ∈ Operation.run (rows.host sanitizer) synchronizer page operations,
      (step.store.rowsOf rows.id).Sublist (page.rowsOf rows.id) ∧
        (rows.bodies step.store).length = (rows.bodies page).length ∧ rows.Thins page step.store := by
  obtain ⟨thrown, rejected⟩ := Option.isSome_iff_exists.mp rejected
  refine ⟨fun synchronizer page operation => spares sanitizer synchronizer rejected operation, fun step member => ?_⟩
  have thins := (moves_thins rejected sanitizer).run synchronizer page operations step member
  exact ⟨thins.bodies.flatten, thins.bodies.length_eq, thins⟩

/-- A name with a dash before a small letter is refused. The row of Ann is said to be
replaced and stays until it is removed. -/
theorem run_spares_rows_dashed :
    let rows : TableRows := .ofSettings "clients" { identityAttribute := "client-id" }
    let steps := Operation.run (rows.host none) ⟨1, {}, .live⟩ spreadPage
      [.upsert "[\"ANN\"]", .upsert "[\"Bob\"]", .remove "a-1", .reset]
    (Dataset.nameError? rows.identityAttribute).isSome ∧
      steps.map (·.outcome) = [some (.replaced 0), some (.inserted 1), some (.removed 0), some (.cleared 1)] ∧
      (steps.map fun step => (rows.bodies step.store).map (·.length)) =
        [[0, 1, 0, 1, 0], [0, 1, 0, 1, 0], [0, 0, 0, 1, 0], [0, 0, 0, 0, 0]] ∧
      (∀ (synchronizer : Synchronizer) (page : Page) (operation : Operation),
        rows.Spares none synchronizer page operation (operation.perform (rows.host none) synchronizer page)) ∧
      ∀ step ∈ steps, (step.store.rowsOf rows.id).Sublist (spreadPage.rowsOf rows.id) ∧
        (rows.bodies step.store).length = (rows.bodies spreadPage).length ∧ rows.Thins spreadPage step.store := by
  intro rows steps
  have rejected : (Dataset.nameError? rows.identityAttribute).isSome := by decide +kernel
  exact ⟨rejected, by decide +kernel, by decide +kernel, run_spares_rows rows none _ spreadPage _ rejected⟩

end TableRows

end Page

end StreamTable
