import TypeGraph.Log.Call
import TypeGraph.Log.Event
import TypeGraph.Proofs.Merging

/-!
Writing a log never fails. An entry without fields that mean something to a logger can be written
by the function of its level under any settings, and the entries of events have no such fields.
-/

namespace TypeGraph.Log

def Entry.call (e : Entry) : Call := ⟨.str e.level.name, .str e.logger, e.text, e.fields⟩

/-- Fields that stand for arguments of a logger's functions, or for what is no plain value. -/
def reservedFields : List Text :=
  [selfArgument, textArgument, sharedArgument, recordField, stackField, exceptionField]

def Entry.Ordinary (e : Entry) : Prop := ∀ field ∈ e.fields.keys, field ∉ reservedFields

section

variable {e : Entry}

theorem Entry.method_call (e : Entry) :
    ∃ method : Method, e.call.method = .ok method ∧ method.level? = some e.level ∧
      method ≠ .exception ∧ method.ownArguments = [selfArgument, textArgument] := by
  have named : ∃ method : Method, Method.ofName? e.level.name = some method ∧
      method.level? = some e.level ∧ method ≠ .exception ∧
      method.ownArguments = [selfArgument, textArgument] := by
    cases e.level with
    | debug => exact ⟨.debug, rfl, rfl, nofun, rfl⟩
    | info => exact ⟨.info, rfl, rfl, nofun, rfl⟩
    | warning => exact ⟨.warning, rfl, rfl, nofun, rfl⟩
    | error => exact ⟨.error, rfl, rfl, nofun, rfl⟩
    | critical => exact ⟨.critical, rfl, rfl, nofun, rfl⟩
  obtain ⟨method, found, rest⟩ := named
  refine ⟨method, ?_, rest⟩
  have writes : e.level.name ∉ derivingFunctions := by cases e.level <;> decide
  simp [call, Call.method, Json.asText?, writes, found]

theorem Entry.Ordinary.get?_eq_none (ordinary : e.Ordinary) (field : Text)
    (reserved : field ∈ reservedFields) : e.fields.get? field = none := by
  rw [Mapping.get?_eq_none_iff]
  exact fun given => ordinary field given reserved

theorem Entry.Ordinary.takenName (ordinary : e.Ordinary) (function : Text)
    (arguments : List Text) (reserved : ∀ name ∈ arguments, name ∈ reservedFields) :
    e.call.takenName function arguments = .ok () := by
  have free : e.call.fields.keys.find? arguments.contains = none := by
    rw [List.find?_eq_none]
    intro field given taken
    exact ordinary field given (reserved field (List.contains_iff_mem.mp taken))
  rw [Call.takenName, free]

theorem Entry.Ordinary.request (ordinary : e.Ordinary) : e.call.request = .ok ⟨e, false⟩ := by
  obtain ⟨method, hmethod, level, notException, arguments⟩ := e.method_call
  have own := ordinary.takenName method.function method.ownArguments (by rw [arguments]; decide)
  have shared := ordinary.takenName sharedFunction [sharedArgument] (by decide)
  simp only [Call.request, hmethod, own, shared, level, notException, bind, Except.bind]
  rfl

theorem Entry.Ordinary.valueFault? (ordinary : e.Ordinary) (format : Format) :
    e.valueFault? format = none := by
  have record := ordinary.get?_eq_none recordField (by decide)
  have stack := ordinary.get?_eq_none stackField (by decide)
  have exception := ordinary.get?_eq_none exceptionField (by decide)
  cases format <;>
    simp [Entry.valueFault?, givenType?, attachmentFault?, record, stack, exception]

/-- Entries are written one after the other. -/
theorem Settings.write_eq_join (s : Settings) (entries : List Entry) :
    s.write entries = Text.join (entries.map fun e => s.write [e]) := by
  induction entries with
  | nil => rfl
  | cons e rest ih =>
      rw [List.map_cons, Text.join_cons, ← ih]
      cases h : s.threshold.admits e.level <;> simp [write, h]

theorem Settings.writeCall_of_ordinary (s : Settings) (ordinary : e.Ordinary) :
    s.writeCall e.call = .ok (s.write [e]) := by
  rw [writeCall, ordinary.request]
  cases h : s.threshold.admits e.level <;>
    simp [h, ordinary.valueFault?, write, bind, Except.bind]

theorem Settings.writeCalls_of_ordinary (s : Settings) {entries : List Entry}
    (ordinary : ∀ e ∈ entries, e.Ordinary) :
    s.writeCalls (entries.map Entry.call) = .ok (s.write entries) := by
  have each : (entries.map Entry.call).mapM s.writeCall =
      .ok (entries.map fun e => s.write [e]) := by
    induction entries with
    | nil => rfl
    | cons e rest ih =>
        obtain ⟨here, there⟩ := List.forall_mem_cons.mp ordinary
        rw [List.map_cons, List.mapM_cons, s.writeCall_of_ordinary here, ih there]
        rfl
  rw [writeCalls, each, s.write_eq_join]
  rfl

end

theorem Event.ordinary_entry (event : Event) : event.entry.Ordinary := by
  cases event <;>
    simp [Entry.Ordinary, entry, notFlattenedEntry, Mapping.keys_ofList, reservedFields,
      selfArgument, textArgument, sharedArgument, recordField, stackField, exceptionField]

/-- Under no settings is there an event whose log entry cannot be written. -/
theorem Settings.writeCalls_events (s : Settings) (events : List Event) :
    s.writeCalls ((events.map Event.entry).map Entry.call) =
      .ok (s.write (events.map Event.entry)) := by
  apply s.writeCalls_of_ordinary
  intro e he
  obtain ⟨event, -, rfl⟩ := List.mem_map.mp he
  exact event.ordinary_entry

end TypeGraph.Log
