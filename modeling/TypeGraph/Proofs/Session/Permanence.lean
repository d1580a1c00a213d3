import TypeGraph.Proofs.Session.Bindings

/-!
What is observed of objects over the life of a session. Answers are worked out anew each time they
are asked for, from the object and from all that it is built from, and none of these ever changes.
So what an object has once answered on its own account it answers at any later time. What it is
called, and what its parts are called, is up to the names of the session.
-/

namespace TypeGraph.Session

/-- What a description says is what an object answers on its own account, whatever it and its parts
are called. -/
structure Description.Tells (d : Description) (probe : Json) (subject : Item) : Prop where
  item : d.item = subject
  imports : subject.imports? = .ok d.imports
  properties : d.properties.map Prod.fst = subject.properties.keys
  required : ∃ asked, subject.asked probe = .ok asked ∧
    asked.mapM (fun name => (name, ·) <$> subject.isRequired? name) = .ok d.required
  referencedImports : subject.referencedImports? = .ok d.referencedImports

theorem map_fst_of_mapM {α : Type} {f : α → Except Fault Json} {entries : List (Json × α)}
    {shown : List (Json × Json)}
    (h : entries.mapM (fun e => (e.1, ·) <$> f e.2) = .ok shown) :
    shown.map Prod.fst = entries.map Prod.fst := by
  induction entries generalizing shown with
  | nil =>
      cases h
      rfl
  | cons entry rest ih =>
      rw [List.mapM_cons] at h
      obtain ⟨first, here, h⟩ := Except.bind_eq_ok_iff.mp h
      obtain ⟨others, later, h⟩ := Except.bind_eq_ok_iff.mp h
      obtain ⟨name, -, rfl⟩ := Except.map_eq_ok_iff.mp here
      cases h
      rw [List.map_cons, List.map_cons, ih later]

theorem Item.tells_of_describe {item : Item} {nameOf : Item → Except Fault Json} {probe : Json}
    {d : Description} (h : item.describe nameOf probe = .ok d) : d.Tells probe item := by
  obtain ⟨imports, importing, h⟩ := Except.bind_eq_ok_iff.mp h
  obtain ⟨properties, shown, h⟩ := Except.bind_eq_ok_iff.mp h
  obtain ⟨asked, asking, h⟩ := Except.bind_eq_ok_iff.mp h
  obtain ⟨required, requiring, h⟩ := Except.bind_eq_ok_iff.mp h
  obtain ⟨constituents, -, h⟩ := Except.bind_eq_ok_iff.mp h
  obtain ⟨objectConstituents, -, h⟩ := Except.bind_eq_ok_iff.mp h
  obtain ⟨referencedImports, referencing, h⟩ := Except.bind_eq_ok_iff.mp h
  cases h
  exact ⟨rfl, importing, map_fst_of_mapM shown, ⟨asked, asking, requiring⟩, referencing⟩

theorem answer_describe {s : Session} {name probe : Json} {d : Description}
    (h : s.answer (.describe name probe) = .ok (.described d)) :
    ∃ item, s.lookup name = .ok item ∧ item.describe s.nameOf probe = .ok d := by
  obtain ⟨item, found, h⟩ := Except.bind_eq_ok_iff.mp h
  obtain ⟨d', described, same⟩ := Except.map_eq_ok_iff.mp (Except.mapError_eq_ok_iff.mp h)
  cases same
  exact ⟨item, found, described⟩

theorem knows_of_lookup {s : Session} {name : Json} {item : Item} (h : s.lookup name = .ok item) :
    s.Knows item :=
  ⟨item, mem_of_lookup h, .refl⟩

/-- Of all objects, only compositions that are not flattened are reported, each with a warning. -/
theorem warns_iff (item : Item) :
    ((∃ entry, item.constructionEntries = [entry] ∧ entry.level = .warning) ↔
      ∃ kind, item.composition? = some kind ∧ kind ≠ .allOf) ∧
    (item.constructionEntries = [] ↔ ∀ kind, item.composition? = some kind → kind = .allOf) := by
  cases item with
  | constraints _ _ | documentation _ _ => simp [Item.constructionEntries, Item.composition?]
  | type id carried name ns form =>
      cases form with
      | primitive _ | unresolved | object _ => simp [Item.constructionEntries, Item.composition?]
      | composed kind constituents =>
          cases kind <;> simp [Item.constructionEntries, Item.composition?,
            CompositionKind.isFlattened, Log.Event.notFlattenedEntry]

/-- Building is all or nothing, and objects never change. A composition is built from all its
constituents and an object type from all its properties, or else the first fault is reported. A step
that builds nothing leaves the session as it is and logs nothing; one that builds an object logs a
warning for a composition that is not flattened and nothing else. From then on the object with this
identity is the same one, wherever it is found and whatever else has been tried, and so are the
objects it is built from and those that its properties show; what was once described of it stays
true. A name stays with its object until it is bound anew, and where no name is, every question that
had an answer has it still. -/
theorem construction_whole_and_permanent :
    (∀ (s : Session) (carried : Carried Item) (typeName ns kind constituents : Json)
        (targets : List (Option Item)), s.FindsEach constituents targets →
      ((∃ e, s.build carried (.composition typeName ns kind constituents) = .error e) ↔
        (∀ k : CompositionKind, kind ≠ .str k.keyword) ∨ none ∈ targets) ∧
      (∀ e, s.build carried (.composition typeName ns kind constituents) = .error e ↔
        ∃ fault, CompositionFault typeName kind targets fault ∧ e = .build fault) ∧
      ∀ item, s.build carried (.composition typeName ns kind constituents) = .ok item ↔
        ∃ (k : CompositionKind) (items : List Item), kind = .str k.keyword ∧
          targets = items.map some ∧
          item = .type s.built carried typeName ns (.composed k items)) ∧
    (∀ (s : Session) (carried : Carried Item) (typeName ns properties : Json)
        (targets : Json.Table (Option Item)),
        lookupTable s.lookupUnlessNull properties = .ok targets →
      ((∃ e, s.build carried (.object typeName ns properties) = .error e) ↔
        none ∈ targets.values) ∧
      (∀ e, s.build carried (.object typeName ns properties) = .error e ↔
        ∃ fault, ObjectFault typeName targets fault ∧ e = .build fault) ∧
      ∀ item, s.build carried (.object typeName ns properties) = .ok item ↔
        ∃ fields : List (Json × Item),
          targets.entries = fields.map (fun field => (field.1, some field.2)) ∧
          item = .type s.built carried typeName ns (.object fields)) ∧
    (∀ (s : Session) (step : Step),
      ((∀ name item, ¬ s.Builds step name item) → (s.step step).2 = ([], s) ∧
        ((∀ question, step.action ≠ .ask question) → ∃ e, (s.step step).1 = .error e)) ∧
      ∀ name item, s.Builds step name item →
        (keyFault? name = none → (s.step step).2.2.Knows item) ∧
        ((∃ entry, (s.step step).2.1 = [entry] ∧ entry.level = .warning) ↔
          ∃ kind, item.composition? = some kind ∧ kind ≠ .allOf) ∧
        ((s.step step).2.1 = [] ↔ ∀ kind, item.composition? = some kind → kind = .allOf)) ∧
    ∀ (steps more : List Step) (s s' : Session), s = empty.after steps → s' = s.after more →
      (∀ item, s.Knows item → ∀ child ∈ item.parts ++ item.properties.values,
        s.Knows child ∧ child.id < item.id) ∧
      (∀ item later, s.Knows item → s'.Knows later → later.id = item.id → later = item) ∧
      (∀ name probe d later, s.answer (.describe name probe) = .ok (.described d) →
        s'.Knows later → later.id = d.item.id → d.Tells probe later) ∧
      (∀ name item, s.lookup name = .ok item →
        (∀ step ∈ more, ∀ key ∈ s.bound.keys, key.same name = true → ¬ step.Rebinds key) →
        s'.lookup name = .ok item) ∧
      ((∀ step ∈ more, ∀ key ∈ s.bound.keys, ¬ step.Rebinds key) →
        ∀ question a, s.answer question = .ok a → s'.answer question = .ok a) := by
  refine ⟨?compositions, ?objects, ?steps, ?permanent⟩
  case compositions =>
    intro s carried typeName ns kind constituents targets finds
    refine ⟨?_, fun e => build_composition_eq_error_iff finds,
      fun item => build_composition_eq_ok_iff finds⟩
    rw [← exists_compositionFault_iff typeName]
    simp only [build_composition_eq_error_iff finds]
    exact ⟨fun ⟨_, fault, h, _⟩ => ⟨fault, h⟩, fun ⟨fault, h⟩ => ⟨_, fault, h, rfl⟩⟩
  case objects =>
    intro s carried typeName ns properties targets finds
    refine ⟨?_, fun e => build_object_eq_error_iff finds, fun item => build_object_eq_ok_iff finds⟩
    rw [← exists_objectFault_iff typeName]
    simp only [build_object_eq_error_iff finds]
    exact ⟨fun ⟨_, fault, h, _⟩ => ⟨fault, h⟩, fun ⟨fault, h⟩ => ⟨_, fault, h, rfl⟩⟩
  case steps =>
    intro s step
    refine ⟨step_of_not_builds, fun name item builds => ⟨builds.knows, ?_⟩⟩
    rw [builds.step_eq.1]
    exact warns_iff item
  case permanent =>
    rintro steps more _ _ rfl rfl
    obtain ⟨objects, holds⟩ := holds_empty.after steps
    obtain ⟨new, holds'⟩ := holds.after more
    refine ⟨fun item known child => holds.knows_child known,
      fun item later => holds.eq_of_id_eq holds', ?described, fun name item => lookup_after,
      fun spared => (extends_after spared).answer⟩
    intro name probe d later h known id
    obtain ⟨item, found, described⟩ := answer_describe h
    have tells := Item.tells_of_describe described
    rw [tells.item] at id
    rw [holds.eq_of_id_eq holds' (knows_of_lookup found) known id]
    exact tells

end TypeGraph.Session
