import Mathlib.Logic.Relation
import TypeGraph.Proofs.Session.Construction

/-!
The objects of a session over its whole life. They are listed in the order in which they are built:
an object is built from earlier ones, and its identity is its place in the list. Steps only ever add
to the list, so whatever is found later under an identity is the object that was built with it.
-/

namespace TypeGraph

namespace Json.Table

variable {α : Type} {key : Json} {v value : α}

theorem mem_values_setEntry {l : List (Json × α)} (h : v ∈ (setEntry key value l).map Prod.snd) :
    v = value ∨ v ∈ l.map Prod.snd := by
  induction l with
  | nil => exact .inl (List.mem_singleton.mp h)
  | cons entry rest ih =>
      rw [setEntry] at h
      split at h
      · rcases List.mem_cons.mp h with written | kept
        · exact .inl written
        · exact .inr (List.mem_cons_of_mem _ kept)
      · rcases List.mem_cons.mp h with here | later
        · exact .inr (here ▸ List.mem_cons_self)
        · exact (ih later).imp_right (List.mem_cons_of_mem _)

theorem mem_values_set {t : Table α} (h : v ∈ (t.set key value).values) :
    v = value ∨ v ∈ t.values :=
  mem_values_setEntry h

theorem mem_values_set_self {t : Table α} : value ∈ (t.set key value).values := by
  change value ∈ (setEntry key value t.entries).map Prod.snd
  induction t.entries with
  | nil => exact List.mem_singleton_self value
  | cons entry rest ih =>
      rw [setEntry]
      split
      · exact List.mem_cons_self
      · exact List.mem_cons_of_mem _ ih

theorem mem_values_setAll {l : List (Json × α)} {t : Table α} (h : v ∈ (t.setAll l).values) :
    v ∈ t.values ∨ v ∈ l.map Prod.snd := by
  induction l generalizing t with
  | nil => exact .inl h
  | cons entry rest ih =>
      rcases ih h with before | later
      · rcases mem_values_set before with written | kept
        · exact .inr (written ▸ List.mem_cons_self)
        · exact .inl kept
      · exact .inr (List.mem_cons_of_mem _ later)

theorem mem_values_ofList {l : List (Json × α)} (h : v ∈ (ofList l).values) :
    v ∈ l.map Prod.snd :=
  (mem_values_setAll h).resolve_left List.not_mem_nil

theorem mem_values_merge {ts : List (Table α)} (h : v ∈ (merge ts).values) :
    ∃ t ∈ ts, v ∈ t.values := by
  have merged : ∀ acc : Table α, v ∈ (ts.foldl (fun acc t => acc.setAll t.entries) acc).values →
      v ∈ acc.values ∨ ∃ t ∈ ts, v ∈ t.values := by
    clear h
    induction ts with
    | nil => exact fun _ => .inl
    | cons t ts ih =>
        intro acc h
        rcases ih _ h with before | ⟨t', mem, later⟩
        · rcases mem_values_setAll before with kept | written
          · exact .inl kept
          · exact .inr ⟨t, List.mem_cons_self, written⟩
        · exact .inr ⟨t', List.mem_cons_of_mem _ mem, later⟩
  exact (merged _ h).resolve_left List.not_mem_nil

theorem mem_values_of_get? {t : Table α} (h : t.get? key = some v) : v ∈ t.values := by
  obtain ⟨entry, found, rfl⟩ := Option.map_eq_some_iff.mp h
  exact List.mem_map_of_mem (List.mem_of_find?_eq_some found)

end Json.Table

namespace Session

/-- What a type carries that is an object itself. -/
def Carried.items {α : Type} (c : Carried α) : List α :=
  c.constraints.toList ++ c.documentation.toList

/-- What a type is made of. -/
def Form.targets {α : Type} : Form α → List α
  | .object fields => fields.map Prod.snd
  | .composed _ constituents => constituents
  | _ => []

/-- What an object is built from. -/
def Item.parts : Item → List Item
  | .type _ carried _ _ form => carried.items ++ form.targets
  | _ => []

def Item.HasPart (owner part : Item) : Prop := part ∈ owner.parts

/-- An object is found under a name, or in what has been built from it. -/
def Knows (s : Session) (item : Item) : Prop :=
  ∃ root ∈ s.bound.values, Relation.ReflTransGen Item.HasPart root item

/-- A step builds an object for a name. Whether the object is kept depends on the name, since lists
and objects are none. -/
def Builds (s : Session) (step : Step) (name : Json) (item : Item) : Prop :=
  ∃ carried plan probe, s.lookupCarried step.carried = .ok carried ∧
    step.action = .build name plan probe ∧ s.build carried plan = .ok item

/-- The session after some steps. -/
def after (s : Session) : List Step → Session
  | [] => s
  | step :: rest => (s.step step).2.2.after rest

/-- The objects of a session, in the order in which they are built. -/
structure Holds (s : Session) (objects : List Item) : Prop where
  count : objects.length = s.built
  placed : ∀ item ∈ objects, objects[item.id]? = some item
  parts : ∀ item ∈ objects, ∀ part ∈ item.parts, part ∈ objects ∧ part.id < item.id
  bound : ∀ item ∈ s.bound.values, item ∈ objects

section Lookup

variable {s : Session} {item : Item}

theorem mem_of_lookup {name : Json} (h : s.lookup name = .ok item) : item ∈ s.bound.values := by
  unfold lookup at h
  split at h
  · cases h
  · rename_i found
    cases h
    exact Json.Table.mem_values_of_get? found
  · cases h

theorem mem_of_lookupGiven {name : Option Json} (h : s.lookupGiven name = .ok (some item)) :
    item ∈ s.bound.values := by
  cases name with
  | none => cases h
  | some name =>
      cases found : s.lookup name with
      | error e => simp [lookupGiven, found, Functor.map, Except.map] at h
      | ok item' =>
          simp only [lookupGiven, found, Functor.map, Except.map, Except.ok.injEq,
            Option.some.injEq] at h
          exact h ▸ mem_of_lookup found

theorem mem_of_lookupTable {find : Json → Except Error (Option Item)} {entries : Json}
    {table : Json.Table (Option Item)} (h : lookupTable find entries = .ok table)
    (mem : some item ∈ table.values) : ∃ name, find name = .ok (some item) := by
  obtain ⟨list, -, written⟩ := Except.bind_eq_ok_iff.mp h
  have all : ∀ t : Json.Table (Option Item), list.foldlM (addEntry find) t = .ok table →
      some item ∈ t.values ∨ ∃ name, find name = .ok (some item) := by
    clear h written
    induction list with
    | nil =>
        intro t same
        cases same
        exact .inl mem
    | cons entry rest ih =>
        intro t written
        rw [List.foldlM_cons] at written
        obtain ⟨t', here, later⟩ := Except.bind_eq_ok_iff.mp written
        rcases ih t' later with before | found
        · obtain ⟨⟨key, name⟩, -, here⟩ := Except.bind_eq_ok_iff.mp here
          obtain ⟨value, found, here⟩ := Except.bind_eq_ok_iff.mp here
          split at here
          · cases here
          · cases here
            rcases Json.Table.mem_values_set before with same | kept
            · exact .inr ⟨name, same ▸ found⟩
            · exact .inl kept
        · exact .inr found
  exact (all _ written).resolve_left List.not_mem_nil

theorem mem_of_mapM {f : Json → Except Error (Option Item)} {names : List Json}
    {targets : List (Option Item)} (h : names.mapM f = .ok targets) (mem : some item ∈ targets) :
    ∃ name, f name = .ok (some item) := by
  induction names generalizing targets with
  | nil =>
      cases h
      cases mem
  | cons name names ih =>
      rw [List.mapM_cons] at h
      obtain ⟨target, here, h⟩ := Except.bind_eq_ok_iff.mp h
      obtain ⟨rest, later, h⟩ := Except.bind_eq_ok_iff.mp h
      cases h
      rcases List.mem_cons.mp mem with rfl | mem
      · exact ⟨name, here⟩
      · exact ih later mem

end Lookup

section Build

variable {s : Session} {carried : Carried Item} {item part : Item}

theorem mem_of_lookupCarried {names : Carried Json} (h : s.lookupCarried names = .ok carried)
    (mem : part ∈ carried.items) : part ∈ s.bound.values := by
  obtain ⟨constraints, found, h⟩ := Except.bind_eq_ok_iff.mp h
  obtain ⟨documentation, found', h⟩ := Except.bind_eq_ok_iff.mp h
  cases h
  rcases List.mem_append.mp mem with mem | mem
  · exact mem_of_lookupGiven (found.trans (congrArg _ (Option.mem_toList.mp mem)))
  · exact mem_of_lookupGiven (found'.trans (congrArg _ (Option.mem_toList.mp mem)))

/-- What is built is built from what the type carries and from objects that have a name. -/
theorem parts_of_build {plan : Plan} (h : s.build carried plan = .ok item) :
    item.id = s.built ∧ ∀ part ∈ item.parts, part ∈ carried.items ∨ part ∈ s.bound.values := by
  cases plan with
  | constraints arguments =>
      obtain ⟨_, -, h⟩ := Except.bind_eq_ok_iff.mp h
      obtain ⟨_, -, rfl⟩ := Except.map_eq_ok_iff.mp (Except.mapError_eq_ok_iff.mp h)
      exact ⟨rfl, nofun⟩
  | documentation arguments =>
      obtain ⟨_, -, h⟩ := Except.bind_eq_ok_iff.mp h
      obtain ⟨_, -, rfl⟩ := Except.map_eq_ok_iff.mp (Except.mapError_eq_ok_iff.mp h)
      exact ⟨rfl, nofun⟩
  | primitive kindName =>
      obtain ⟨_, -, h⟩ := Except.bind_eq_ok_iff.mp h
      cases h
      exact ⟨rfl, fun part mem => (List.mem_append.mp mem).imp_right nofun⟩
  | unresolved typeName =>
      cases h
      exact ⟨rfl, fun part mem => (List.mem_append.mp mem).imp_right nofun⟩
  | object typeName ns properties =>
      obtain ⟨targets, found, -⟩ := Except.bind_eq_ok_iff.mp h
      obtain ⟨fields, whole, rfl⟩ := (build_object_eq_ok_iff found).mp h
      refine ⟨rfl, fun part mem => (List.mem_append.mp mem).imp_right fun mem => ?_⟩
      obtain ⟨field, hfield, rfl⟩ := List.mem_map.mp mem
      have target : some field.2 ∈ targets.values := by
        rw [Json.Table.values, whole, List.map_map]
        exact List.mem_map_of_mem hfield
      obtain ⟨name, found⟩ := mem_of_lookupTable found target
      exact mem_of_lookupGiven found
  | composition typeName ns kind constituents =>
      obtain ⟨names, listed, h'⟩ := Except.bind_eq_ok_iff.mp h
      obtain ⟨targets, found, -⟩ := Except.bind_eq_ok_iff.mp h'
      obtain ⟨k, items, -, rfl, rfl⟩ := (build_composition_eq_ok_iff ⟨names, listed, found⟩).mp h
      refine ⟨rfl, fun part mem => (List.mem_append.mp mem).imp_right fun mem => ?_⟩
      obtain ⟨name, found⟩ := mem_of_mapM found (List.mem_map_of_mem mem)
      exact mem_of_lookupGiven found

end Build

section Step

variable {s : Session} {step : Step} {name : Json} {item : Item}

theorem Builds.parts (builds : s.Builds step name item) :
    item.id = s.built ∧ ∀ part ∈ item.parts, part ∈ s.bound.values := by
  obtain ⟨carried, plan, probe, looked, -, built⟩ := builds
  obtain ⟨id, parts⟩ := parts_of_build built
  exact ⟨id, fun part mem => (parts part mem).elim (mem_of_lookupCarried looked) fun named => named⟩

/-- What a step that builds an object logs, and what becomes of the object. -/
theorem Builds.step_eq (builds : s.Builds step name item) :
    (s.step step).2.1 = item.constructionEntries ∧
      (s.step step).2.2 =
        if keyFault? name = none then ⟨s.bound.set name item, s.built + 1⟩ else s := by
  obtain ⟨carried, plan, probe, looked, action, built⟩ := builds
  simp only [Session.step, looked, action, act, built, introduce, Session.bind]
  cases keyFault? name with
  | some e => exact ⟨trivial, rfl⟩
  | none => exact ⟨trivial, rfl⟩

theorem Builds.knows (builds : s.Builds step name item) (named : keyFault? name = none) :
    (s.step step).2.2.Knows item := by
  rw [builds.step_eq.2, if_pos named]
  exact ⟨item, Json.Table.mem_values_set_self, .refl⟩

/-- A step that builds no object does nothing, and unless it asks a question it fails. -/
theorem step_of_not_builds (nothing : ∀ name item, ¬ s.Builds step name item) :
    (s.step step).2 = ([], s) ∧
      ((∀ question, step.action ≠ .ask question) → ∃ e, (s.step step).1 = .error e) := by
  cases looked : s.lookupCarried step.carried with
  | error e => exact ⟨by simp [Session.step, looked], fun _ => ⟨e, by simp [Session.step, looked]⟩⟩
  | ok carried =>
      cases action : step.action with
      | build name plan probe =>
          cases built : s.build carried plan with
          | error e =>
              simp only [Session.step, looked, action, act, built]
              exact ⟨trivial, fun _ => ⟨e, rfl⟩⟩
          | ok item =>
              exact absurd ⟨carried, plan, probe, looked, action, built⟩ (nothing name item)
      | ask question =>
          simp only [Session.step, looked, action, act]
          exact ⟨trivial, fun asks => absurd rfl (asks question)⟩
      | change attempt =>
          simp only [Session.step, looked, action, act]
          exact ⟨trivial, fun _ => ⟨_, rfl⟩⟩

end Step

namespace Holds

variable {s : Session} {objects : List Item} {item part : Item}

theorem id_lt (holds : s.Holds objects) (mem : item ∈ objects) : item.id < objects.length :=
  List.getElem?_eq_some_iff.mp (holds.placed item mem) |>.1

theorem add (holds : s.Holds objects) (id : item.id = s.built)
    (parts : ∀ part ∈ item.parts, part ∈ s.bound.values) (name : Json) :
    Holds ⟨s.bound.set name item, s.built + 1⟩ (objects ++ [item]) := by
  have place : item.id = objects.length := id.trans holds.count.symm
  refine ⟨?count, ?placed, ?parts, ?bound⟩
  case count => rw [List.length_append, List.length_singleton, holds.count]
  case placed =>
    intro other mem
    rcases List.mem_append.mp mem with old | new
    · rw [List.getElem?_append_left (holds.id_lt old), holds.placed other old]
    · rw [List.mem_singleton.mp new, place, List.getElem?_concat_length]
  case parts =>
    intro other mem part hpart
    rcases List.mem_append.mp mem with old | new
    · obtain ⟨known, before⟩ := holds.parts other old part hpart
      exact ⟨List.mem_append_left _ known, before⟩
    · rw [List.mem_singleton.mp new] at hpart ⊢
      have known := holds.bound part (parts part hpart)
      exact ⟨List.mem_append_left _ known, place ▸ holds.id_lt known⟩
  case bound =>
    intro other mem
    rcases Json.Table.mem_values_set mem with new | old
    · exact List.mem_append_right _ (List.mem_singleton.mpr new)
    · exact List.mem_append_left _ (holds.bound other old)

/-- A step adds an object to those of a session, or leaves them as they are. -/
theorem step (holds : s.Holds objects) (step : Step) :
    ∃ new, (s.step step).2.2.Holds (objects ++ new) := by
  by_cases builds : ∃ name item, s.Builds step name item
  · obtain ⟨name, item, builds⟩ := builds
    rw [builds.step_eq.2]
    split
    · exact ⟨[item], holds.add builds.parts.1 builds.parts.2 name⟩
    · exact ⟨[], (List.append_nil objects).symm ▸ holds⟩
  · obtain ⟨same, -⟩ := step_of_not_builds fun name item h => builds ⟨name, item, h⟩
    rw [same]
    exact ⟨[], (List.append_nil objects).symm ▸ holds⟩

theorem after (holds : s.Holds objects) (steps : List Step) :
    ∃ new, (s.after steps).Holds (objects ++ new) := by
  induction steps generalizing s objects with
  | nil => exact ⟨[], (List.append_nil objects).symm ▸ holds⟩
  | cons step rest ih =>
      obtain ⟨new, holds⟩ := holds.step step
      obtain ⟨newer, holds⟩ := ih holds
      exact ⟨new ++ newer, List.append_assoc objects new newer ▸ holds⟩

/-- What objects are built from, directly or not, are earlier objects. -/
theorem mem_of_within (holds : s.Holds objects) (mem : item ∈ objects)
    (within : Relation.TransGen Item.HasPart item part) : part ∈ objects ∧ part.id < item.id := by
  induction within with
  | single direct => exact holds.parts item mem _ direct
  | tail _ direct ih =>
      obtain ⟨known, before⟩ := ih
      obtain ⟨known', before'⟩ := holds.parts _ known _ direct
      exact ⟨known', Nat.lt_trans before' before⟩

theorem mem_of_knows (holds : s.Holds objects) (known : s.Knows item) : item ∈ objects := by
  obtain ⟨root, bound, within⟩ := known
  rcases Relation.reflTransGen_iff_eq_or_transGen.mp within with rfl | within
  · exact holds.bound _ bound
  · exact (holds.mem_of_within (holds.bound root bound) within).1

end Holds

theorem holds_empty : empty.Holds [] := ⟨rfl, nofun, nofun, nofun⟩

theorem Item.mem_propertiesOfEach {items : List Item} {t : Json.Table Item}
    (h : t ∈ Item.propertiesOfEach items) : ∃ item ∈ items, t = item.properties := by
  induction items with
  | nil => cases h
  | cons item items ih =>
      have later (h : t ∈ Item.propertiesOfEach items) :
          ∃ item' ∈ item :: items, t = item'.properties :=
        (ih h).imp fun _ h => ⟨List.mem_cons_of_mem _ h.1, h.2⟩
      rw [Item.propertiesOfEach] at h
      split at h
      · rcases List.mem_cons.mp h with rfl | h
        · exact ⟨item, List.mem_cons_self, rfl⟩
        · exact later h
      · exact later h

/-- Properties, flattened ones as well, are within what has them. -/
theorem Holds.within_of_property {s : Session} {objects : List Item} (holds : s.Holds objects)
    {item target : Item} (mem : item ∈ objects) (h : target ∈ item.properties.values) :
    Relation.TransGen Item.HasPart item target := by
  -- Flattening asks the constituents, and these are built before the composition.
  induction hid : item.id using Nat.strongRecOn generalizing item with
  | ind id ih =>
      subst hid
      cases item with
      | constraints _ _ | documentation _ _ =>
          simp [Item.properties, Json.Table.values, Json.Table.empty] at h
      | type id carried name ns form =>
          cases form with
          | primitive _ | unresolved =>
              simp [Item.properties, Json.Table.values, Json.Table.empty] at h
          | object fields =>
              rw [Item.properties] at h
              exact .single (List.mem_append_right _ (Json.Table.mem_values_ofList h))
          | composed kind constituents =>
              cases kind with
              | oneOf | anyOf => simp [Item.properties, Json.Table.values, Json.Table.empty] at h
              | allOf =>
                  rw [Item.properties] at h
                  obtain ⟨t, ht, h⟩ := Json.Table.mem_values_merge h
                  obtain ⟨constituent, hc, rfl⟩ := Item.mem_propertiesOfEach ht
                  have part := List.mem_append_right carried.items hc
                  obtain ⟨known, before⟩ := holds.parts _ mem _ part
                  exact .head part (ih _ before known h rfl)

section Knows

variable {s s' : Session} {objects new : List Item} {item child later : Item}

/-- What an object is built from is known with it, and so is what its properties show. -/
theorem Holds.knows_child (holds : s.Holds objects) (known : s.Knows item)
    (mem : child ∈ item.parts ++ item.properties.values) : s.Knows child ∧ child.id < item.id := by
  have built := holds.mem_of_knows known
  have within : Relation.TransGen Item.HasPart item child := by
    rcases List.mem_append.mp mem with part | property
    · exact .single part
    · exact holds.within_of_property built property
  obtain ⟨root, bound, reached⟩ := known
  exact ⟨⟨root, bound, reached.trans within.to_reflTransGen⟩, (holds.mem_of_within built within).2⟩

/-- Whatever is found later under the identity of an object is this object. -/
theorem Holds.eq_of_id_eq (holds : s.Holds objects) (holds' : s'.Holds (objects ++ new))
    (known : s.Knows item) (known' : s'.Knows later) (same : later.id = item.id) :
    later = item := by
  have place := holds'.placed item (List.mem_append_left new (holds.mem_of_knows known))
  have place' := holds'.placed later (holds'.mem_of_knows known')
  rw [same, place] at place'
  exact (Option.some.inj place').symm

end Knows

end Session
end TypeGraph
