import Mathlib.Data.List.Induction
import TypeGraph.Config
import TypeGraph.Proofs.Merging

/-!
Configurations read from objects. What an object says of a setting is its last entry under the
setting's key, or else the default. A configuration read from an object says the same of each
setting, exports just that and is read back from its export, unless the object has entries under
the few keys that a configuration takes for itself: some of them are refused, one replaces all
entries before it, and two stand in the way of the export.
-/

namespace TypeGraph.Config

/-- What entries say of a setting. -/
def stated (entries : List (Text × Json)) (setting : Setting) : Json :=
  ((Mapping.ofList entries).get? setting.key).getD (default.get setting)

theorem get_set (c : Config) (value : Json) (setting other : Setting) :
    (c.set value setting).get other = if other = setting then value else c.get other := by
  cases setting <;> cases other <;> rfl

theorem key_injective : Function.Injective Setting.key := by
  intro setting other same
  have found := congrArg Setting.ofKey? same
  rw [Setting.ofKey?_key, Setting.ofKey?_key] at found
  exact Option.some.inj found

theorem ofKey?_eq_some_iff {key : Text} {setting : Setting} :
    Setting.ofKey? key = some setting ↔ setting.key = key := by
  constructor
  · intro found
    exact eq_of_beq (List.find?_some (p := fun s : Setting => s.key == key) found)
  · rintro rfl
    exact Setting.ofKey?_key setting

/-- What entries come to when the last one of each key counts: a value for each setting, and what
stands in the way of the export. -/
structure Reflects (entries : List (Text × Json)) (c : Config) : Prop where
  settings : ∀ setting, c.get setting = stated entries setting
  exportOverride : c.exportOverride = (Mapping.ofList entries).get? exportKey
  listingOverride : c.listingOverride = (Mapping.ofList entries).get? listingKey

theorem reflects_default : Reflects [] default := ⟨fun _ => rfl, rfl, rfl⟩

theorem Reflects.unique {entries : List (Text × Json)} {c d : Config} (hc : Reflects entries c)
    (hd : Reflects entries d) : c = d := by
  have same (setting : Setting) : c.get setting = d.get setting :=
    (hc.settings setting).trans (hd.settings setting).symm
  obtain ⟨level, json, fail, imports, documentation, exported, listed⟩ := c
  obtain ⟨level', json', fail', imports', documentation', exported', listed'⟩ := d
  obtain rfl : level = level' := same .logLevel
  obtain rfl : json = json' := same .jsonLogs
  obtain rfl : fail = fail' := same .failOnUnresolved
  obtain rfl : imports = imports' := same .showImports
  obtain rfl : documentation = documentation' := same .showDocumentation
  obtain rfl : exported = exported' := hc.exportOverride.trans hd.exportOverride.symm
  obtain rfl : listed = listed' := hc.listingOverride.trans hd.listingOverride.symm
  rfl

theorem stated_concat (entries : List (Text × Json)) (key : Text) (value : Json)
    (setting : Setting) :
    stated (entries ++ [(key, value)]) setting =
      if setting.key = key then value else stated entries setting := by
  rw [stated, stated, Mapping.ofList_concat, Mapping.get?_set]
  split_ifs <;> rfl

/-- Storing an entry is one more thing said. -/
theorem Reflects.store {entries : List (Text × Json)} {c : Config} (reflects : Reflects entries c)
    (key : Text) (value : Json) : Reflects (entries ++ [(key, value)]) (c.store key value) := by
  unfold Config.store
  cases found : Setting.ofKey? key with
  | some setting =>
      obtain rfl := ofKey?_eq_some_iff.mp found
      have foreign : exportKey ≠ setting.key ∧ listingKey ≠ setting.key := by
        cases setting <;> decide
      refine ⟨fun other => ?_, ?_, ?_⟩
      · rw [get_set, stated_concat, reflects.settings]
        simp only [key_injective.eq_iff]
      · rw [Mapping.ofList_concat, Mapping.get?_set, if_neg foreign.1, ← reflects.exportOverride]
        cases setting <;> rfl
      · rw [Mapping.ofList_concat, Mapping.get?_set, if_neg foreign.2, ← reflects.listingOverride]
        cases setting <;> rfl
  | none =>
      have foreign (setting : Setting) : setting.key ≠ key := fun same => by
        rw [ofKey?_eq_some_iff.mpr same] at found
        cases found
      have kept : Reflects (entries ++ [(key, value)])
          { c with
            exportOverride := if exportKey = key then some value else c.exportOverride
            listingOverride := if listingKey = key then some value else c.listingOverride } := by
        refine ⟨fun setting => ?_, ?_, ?_⟩
        · rw [stated_concat, if_neg (foreign setting), ← reflects.settings]
          cases setting <;> rfl
        · rw [Mapping.ofList_concat, Mapping.get?_set, ← reflects.exportOverride]
        · rw [Mapping.ofList_concat, Mapping.get?_set, ← reflects.listingOverride]
      dsimp only
      split_ifs with isExport isListing
      · subst isExport
        exact kept
      · subst isListing
        exact kept
      · rwa [if_neg (Ne.symm isExport), if_neg (Ne.symm isListing)] at kept

theorem reflects_ofEntries (entries : List (Text × Json)) :
    Reflects entries (ofEntries entries) := by
  induction entries using List.reverseRecOn with
  | nil => exact reflects_default
  | append_singleton entries e ih =>
      rw [ofEntries, List.foldl_append]
      exact ih.store e.1 e.2

/-- Entries that a configuration refuses, and why. -/
inductive Refused (key : Text) (value : Json) : Error → Prop
  | ofClass (h : key = classKey) : Refused key value (.notClass value.typeName)
  | references (h : key = referencesKey) : Refused key value .readOnlyReferences
  | whole (h : key = entriesKey) (noObject : ∀ entries, value ≠ .obj entries) :
      Refused key value (.notEntries value.typeName)

/-- Take an entry over after others: an object under the key of all entries replaces them. -/
def accept (kept : List (Text × Json)) (key : Text) (value : Json) : List (Text × Json) :=
  match value with
  | .obj entries => if key = entriesKey then entries else kept ++ [(key, value)]
  | _ => kept ++ [(key, value)]

/-- The entries that count in the end. -/
def effective (entries : List (Text × Json)) : List (Text × Json) :=
  entries.foldl (fun kept e => accept kept e.1 e.2) []

/-- The first entry that is refused is refused for the given reason. -/
def FirstRefused (entries : List (Text × Json)) (error : Error) : Prop :=
  ∃ before e after, entries = before ++ e :: after ∧ Refused e.1 e.2 error ∧
    ∀ other ∈ before, ∀ error, ¬ Refused other.1 other.2 error

theorem firstRefused_or_none (entries : List (Text × Json)) :
    (∃ error, FirstRefused entries error) ∨ ∀ e ∈ entries, ∀ error, ¬ Refused e.1 e.2 error := by
  induction entries with
  | nil => exact .inr nofun
  | cons e entries ih =>
      by_cases here : ∃ error, Refused e.1 e.2 error
      · obtain ⟨error, refused⟩ := here
        exact .inl ⟨error, [], e, entries, rfl, refused, nofun⟩
      · have accepted := not_exists.mp here
        rcases ih with ⟨error, before, later, after, rfl, refused, first⟩ | none
        · refine .inl ⟨error, e :: before, later, after, rfl, refused, ?_⟩
          exact List.forall_mem_cons.mpr ⟨accepted, first⟩
        · exact .inr (List.forall_mem_cons.mpr ⟨accepted, none⟩)

theorem accept_of_ne {key : Text} (h : key ≠ entriesKey) (kept : List (Text × Json))
    (value : Json) : accept kept key value = kept ++ [(key, value)] := by
  unfold accept
  split
  · rw [if_neg h]
  · rfl

theorem effective_eq {entries : List (Text × Json)} (h : ∀ e ∈ entries, e.1 ≠ entriesKey) :
    effective entries = entries := by
  unfold effective
  induction entries using List.reverseRecOn with
  | nil => rfl
  | append_singleton entries e ih =>
      rw [List.foldl_append, ih fun e he => h e (List.mem_append_left _ he)]
      exact accept_of_ne (h e (by simp)) entries e.2

theorem Refused.assign_eq {key : Text} {value : Json} {error : Error}
    (refused : Refused key value error) (c : Config) : c.assign key value = .error error := by
  cases refused with
  | ofClass h | references h =>
      subst h
      rfl
  | whole h noObject =>
      subst h
      cases value with
      | obj entries => exact absurd rfl (noObject entries)
      | _ => rfl

/-- What is not refused is taken over. -/
theorem Reflects.assign {kept : List (Text × Json)} {c : Config} (reflects : Reflects kept c)
    {key : Text} {value : Json} (accepted : ∀ error, ¬ Refused key value error) :
    ∃ c', c.assign key value = .ok c' ∧ Reflects (accept kept key value) c' := by
  have noClass : key ≠ classKey := fun h => accepted _ (.ofClass h)
  have noReferences : key ≠ referencesKey := fun h => accepted _ (.references h)
  by_cases whole : key = entriesKey
  · subst whole
    by_cases object : ∃ entries, value = .obj entries
    · obtain ⟨entries, rfl⟩ := object
      exact ⟨ofEntries entries, rfl, reflects_ofEntries entries⟩
    · exact absurd (.whole rfl (not_exists.mp object)) (accepted _)
  · refine ⟨c.store key value, ?_, ?_⟩
    · unfold Config.assign
      rw [if_neg noClass, if_neg noReferences, if_neg whole]
    · rw [accept_of_ne whole]
      exact reflects.store key value

theorem Reflects.read {kept : List (Text × Json)} {c : Config} (reflects : Reflects kept c)
    {entries : List (Text × Json)} (accepted : ∀ e ∈ entries, ∀ error, ¬ Refused e.1 e.2 error) :
    ∃ c', entries.foldlM (fun c e => c.assign e.1 e.2) c = .ok c' ∧
      Reflects (entries.foldl (fun kept e => accept kept e.1 e.2) kept) c' := by
  induction entries generalizing kept c with
  | nil => exact ⟨c, rfl, reflects⟩
  | cons e entries ih =>
      obtain ⟨here, there⟩ := List.forall_mem_cons.mp accepted
      obtain ⟨c₁, next, reflects₁⟩ := reflects.assign here
      rw [List.foldlM_cons, next]
      exact ih reflects₁ there

theorem ofJson_of_accepted {entries : List (Text × Json)}
    (accepted : ∀ e ∈ entries, ∀ error, ¬ Refused e.1 e.2 error) :
    ∃ c, ofJson (.obj entries) = .ok c ∧ Reflects (effective entries) c :=
  reflects_default.read accepted

theorem FirstRefused.ofJson_eq {entries : List (Text × Json)} {error : Error}
    (h : FirstRefused entries error) : ofJson (.obj entries) = .error error := by
  obtain ⟨before, e, after, rfl, refused, first⟩ := h
  obtain ⟨c, read, -⟩ := reflects_default.read first
  rw [ofJson, List.foldlM_append, read]
  change List.foldlM (fun c e => c.assign e.1 e.2) c (e :: after) = _
  rw [List.foldlM_cons, refused.assign_eq]
  rfl

/-- Reading fails on what is refused and on nothing else. -/
theorem ofJson_eq_error_iff {entries : List (Text × Json)} {error : Error} :
    ofJson (.obj entries) = .error error ↔ FirstRefused entries error := by
  refine ⟨fun failed => ?_, FirstRefused.ofJson_eq⟩
  rcases firstRefused_or_none entries with ⟨other, refused⟩ | accepted
  · obtain rfl := Except.error.inj (failed.symm.trans refused.ofJson_eq)
    exact refused
  · obtain ⟨c, read, -⟩ := ofJson_of_accepted accepted
    cases failed.symm.trans read

theorem reflects_of_ofJson {entries : List (Text × Json)} {c : Config}
    (read : ofJson (.obj entries) = .ok c) : Reflects (effective entries) c := by
  rcases firstRefused_or_none entries with ⟨error, refused⟩ | accepted
  · cases read.symm.trans refused.ofJson_eq
  · obtain ⟨c', read', reflects⟩ := ofJson_of_accepted accepted
    obtain rfl := Except.ok.inj (read.symm.trans read')
    exact reflects

/-- The keys that a configuration takes for itself. -/
def ownKeys : List Text := [exportKey, listingKey, classKey, entriesKey, referencesKey]

theorem key_notMem_ownKeys (setting : Setting) : setting.key ∉ ownKeys := by
  cases setting <;> decide

/-- Entries under other keys are all read, and all of them count. -/
theorem ofJson_of_foreign {entries : List (Text × Json)}
    (foreign : ∀ e ∈ entries, e.1 ∉ ownKeys) :
    ∃ c, ofJson (.obj entries) = .ok c ∧ Reflects entries c := by
  have other (e : Text × Json) (he : e ∈ entries) :
      e.1 ≠ classKey ∧ e.1 ≠ entriesKey ∧ e.1 ≠ referencesKey := by
    have h := foreign e he
    simp only [ownKeys, List.mem_cons, not_or] at h
    exact ⟨h.2.2.1, h.2.2.2.1, h.2.2.2.2.1⟩
  have accepted : ∀ e ∈ entries, ∀ error, ¬ Refused e.1 e.2 error := by
    rintro e he _ (h | h | ⟨h, -⟩)
    · exact (other e he).1 h
    · exact (other e he).2.2 h
    · exact (other e he).2.1 h
  obtain ⟨c, read, reflects⟩ := ofJson_of_accepted accepted
  rw [effective_eq fun e he => (other e he).2.1] at reflects
  exact ⟨c, read, reflects⟩

/-- An object whose keys are all settings is read without a fault, and its last entry for a setting
counts. -/
theorem ofJson_of_settings (entries : List (Text × Json))
    (known : ∀ e ∈ entries, ∃ setting : Setting, e.1 = setting.key) :
    ∃ c, ofJson (.obj entries) = .ok c ∧ ∀ setting, c.get setting = stated entries setting := by
  have foreign : ∀ e ∈ entries, e.1 ∉ ownKeys := fun e he => by
    obtain ⟨setting, key⟩ := known e he
    exact key ▸ key_notMem_ownKeys setting
  obtain ⟨c, read, reflects⟩ := ofJson_of_foreign foreign
  exact ⟨c, read, reflects.settings⟩

/-- Everything that is stated of the settings, in the order of an export. -/
def statements (entries : List (Text × Json)) : List (Text × Json) :=
  Setting.all.map fun setting => (setting.key, stated entries setting)

theorem Reflects.options_eq {entries : List (Text × Json)} {c : Config}
    (reflects : Reflects entries c) : c.options = statements entries :=
  List.map_congr_left fun setting _ => by rw [reflects.settings]

section Export

variable {c : Config}

theorem toJson_of_plain (exported : c.exportOverride = none) (listed : c.listingOverride = none) :
    c.toJson = .ok (.obj c.options) := by
  rw [toJson, exported, Config.listed, listed]
  rfl

theorem plain_of_toJson {e : Text × Json} {options : List (Text × Json)}
    (written : c.toJson = .ok (.obj (e :: options))) :
    c.exportOverride = none ∧ c.listingOverride = none := by
  unfold toJson at written
  cases exported : c.exportOverride with
  | some value => simp [exported] at written
  | none =>
      refine ⟨rfl, ?_⟩
      cases listed : c.listingOverride with
      | none => rfl
      | some value =>
          -- Whatever stands in the list's place, it lists no entry.
          rw [exported, Config.listed, listed] at written
          cases value with
          | obj fields => cases fields <;> simp [Except.map] at written
          | _ => simp [Except.map] at written

theorem reflects_options (exported : c.exportOverride = none) (listed : c.listingOverride = none) :
    Reflects c.options c := by
  refine ⟨fun setting => ?_, exported, listed⟩
  cases setting <;> rfl

/-- A configuration with nothing in the way of its export is read back from it. -/
theorem ofJson_options (exported : c.exportOverride = none) (listed : c.listingOverride = none) :
    ofJson (.obj c.options) = .ok c := by
  have foreign : ∀ e ∈ c.options, e.1 ∉ ownKeys := fun e he => by
    obtain ⟨setting, -, rfl⟩ := List.mem_map.mp he
    exact key_notMem_ownKeys setting
  obtain ⟨c', read, reflects⟩ := ofJson_of_foreign foreign
  rw [read, reflects.unique (reflects_options exported listed)]

end Export

theorem get?_ofList_eq_none_iff {entries : List (Text × Json)} {key : Text} :
    (Mapping.ofList entries).get? key = none ↔ ∀ e ∈ entries, e.1 ≠ key := by
  rw [Mapping.get?_eq_none_iff, Mapping.keys_ofList, List.mem_eraseDups]
  simp only [List.mem_map, not_exists, not_and, ne_eq]

theorem Reflects.plain_iff {entries : List (Text × Json)} {c : Config}
    (reflects : Reflects entries c) :
    (c.exportOverride = none ∧ c.listingOverride = none) ↔
      ∀ e ∈ entries, e.1 ≠ exportKey ∧ e.1 ≠ listingKey := by
  rw [reflects.exportOverride, reflects.listingOverride, get?_ofList_eq_none_iff,
    get?_ofList_eq_none_iff, forall₂_and]

/-- A configuration read from an object exports the defaults overridden by what the object says of
the settings, and is read back from this, whatever other keys the object has and in whatever order,
as long as it has none of the configuration's own. So is every configuration with nothing in the
way of its export. With the configuration's own keys, reading fails at the first entry that is
refused and for no other reason, and an export lists what the effective entries say exactly if none
of them stands in its way. -/
theorem export_states_settings (entries : List (Text × Json)) (c : Config) :
    ((∀ e ∈ entries, e.1 ∉ ownKeys) →
      ∃ read, ofJson (.obj entries) = .ok read ∧ read.toJson = .ok (.obj (statements entries)) ∧
        ofJson (.obj (statements entries)) = .ok read) ∧
    (c.exportOverride = none → c.listingOverride = none →
      ∃ exported, c.toJson = .ok exported ∧ ofJson exported = .ok c) ∧
    (∀ error, ofJson (.obj entries) = .error error ↔ FirstRefused entries error) ∧
    (ofJson (.obj entries) = .ok c →
      (c.toJson = .ok (.obj (statements (effective entries))) ↔
        ∀ e ∈ effective entries, e.1 ≠ exportKey ∧ e.1 ≠ listingKey)) := by
  refine ⟨?foreign, ?plain, fun error => ofJson_eq_error_iff, ?exported⟩
  case foreign =>
    intro foreign
    obtain ⟨read, hread, reflects⟩ := ofJson_of_foreign foreign
    obtain ⟨exported, listed⟩ := reflects.plain_iff.mpr fun e he => by
      have own := foreign e he
      simp only [ownKeys, List.mem_cons, not_or] at own
      exact ⟨own.1, own.2.1⟩
    rw [← reflects.options_eq]
    exact ⟨read, hread, toJson_of_plain exported listed, ofJson_options exported listed⟩
  case plain =>
    intro exported listed
    exact ⟨_, toJson_of_plain exported listed, ofJson_options exported listed⟩
  case exported =>
    intro read
    have reflects := reflects_of_ofJson read
    rw [← reflects.plain_iff, ← reflects.options_eq]
    exact ⟨plain_of_toJson, fun ⟨exported, listed⟩ => toJson_of_plain exported listed⟩

/-- A value under the key of the export sets nothing, but keeps the settings from being exported. -/
theorem export_key_not_ignored :
    ¬ ∀ entries, ∃ c, ofJson (.obj entries) = .ok c ∧
      c.toJson = .ok (.obj (statements entries)) := by
  intro ignored
  obtain ⟨c, read, exported⟩ := ignored [(exportKey, .int 1)]
  cases read
  cases exported

end TypeGraph.Config
