import TypeGraph.Command.Run
import TypeGraph.Proofs.Controls
import TypeGraph.Proofs.Text.Encoding

/-!
The output of a run. A stream that is no terminal shows a text without its control sequences. The
report is sent out as a whole or, if what is sent has no encoding, not at all. The error stream
spells surrogates out and so takes every message.
-/

namespace TypeGraph.Command

open Text (LeavesOutControls)

/-- What a stream shows of a text. -/
structure Shows (ws : Workspace) (terminal : Bool) (text shown : Text) : Prop where
  whole : terminal = true → shown = text
  cleared : terminal = false → shown = ws.withoutControls text
  plain : text.Unescaped → shown = text

/-- An error stream ends with a message as it is shown there. -/
def EndsWith (ws : Workspace) (stderr : String) (message : Text) : Prop :=
  ∃ (log : String) (shown : Text), Shows ws ws.terminalErrors message shown ∧
    stderr = log ++ shown.spelled ∧ ∀ s : String, shown = s → stderr = log ++ s

/-- What is sent out of a report, to a file or to the output stream. -/
def sent (ws : Workspace) (toFile : Bool) (report : Text) : Text :=
  if toFile then report else ws.shown ws.terminalOutput report

theorem writable_of_none {ws : Workspace} {output : Option Location} (printed : output = none) :
    ∀ location, output = some location → ws.writeFault? location = none := by
  simp [printed]

section Shown

variable {ws : Workspace} (strips : LeavesOutControls ws.withoutControls)

include strips

theorem shows_shown (terminal : Bool) (text : Text) :
    Shows ws terminal text (ws.shown terminal text) := by
  cases terminal with
  | true => exact ⟨fun _ => rfl, nofun, fun _ => rfl⟩
  | false => exact ⟨nofun, fun _ => rfl, strips.unescaped text⟩

theorem encodable_sent {report : Text} (h : report.Encodable) (toFile : Bool) :
    (sent ws toFile report).Encodable := by
  unfold sent Workspace.shown
  split_ifs
  · exact h
  · exact h
  · exact h.of_sublist (strips.sublist report)

theorem endsWith_errorText (log : String) (message : Text) :
    EndsWith ws (log ++ Outcome.errorText ws message) ("Error: " ++ message ++ "\n") := by
  refine ⟨log, _, shows_shown strips _ _, rfl, fun s plain => ?_⟩
  rw [Outcome.errorText, plain, Text.spelled_ofString]

end Shown

namespace Run

variable {ws : Workspace} {r : Request} {c : Config} {types : Mapping DataType}

theorem deliver_of_fault {location : Location} {fault : FileFault}
    (asked : r.output = some location) (unwritable : ws.writeFault? location = some fault)
    (events : List Log.Event) :
    deliver ws r c events types = ⟨events, "", none, .uncaught (.file fault)⟩ := by
  simp only [deliver, asked, unwritable]

variable (writable : ∀ location, r.output = some location → ws.writeFault? location = none)

include writable

/-- What is sent out goes to one place, and the check for unresolved types comes after that. -/
theorem deliver_eq (events : List Log.Event) :
    deliver ws r c events types =
      match (sent ws r.output.isSome (Report.render types c)).encode with
      | .error fault => ⟨events, "", r.output.map (·, ""), .uncaught (.unencodable fault)⟩
      | .ok content =>
          ⟨events ++ (gate (strict r c) (Report.unresolvedNames types)).1,
            if r.output = none then content else "", r.output.map (·, content),
            (gate (strict r c) (Report.unresolvedNames types)).2⟩ := by
  unfold deliver
  cases asked : r.output with
  | none => rfl
  | some location =>
      simp only [writable location asked]
      rfl

theorem deliver_of_sent {content : String}
    (encoded : sent ws r.output.isSome (Report.render types c) = content)
    (events : List Log.Event) :
    deliver ws r c events types =
      ⟨events ++ (gate (strict r c) (Report.unresolvedNames types)).1,
        if r.output = none then content else "", r.output.map (·, content),
        (gate (strict r c) (Report.unresolvedNames types)).2⟩ := by
  rw [deliver_eq writable, Text.encode_eq_ok_iff.mpr encoded]

theorem deliver_of_not_encodable
    (unencodable : ¬ (sent ws r.output.isSome (Report.render types c)).Encodable)
    (events : List Log.Event) :
    ∃ fault : Text.EncodingFault,
      fault.Meets (sent ws r.output.isSome (Report.render types c)) ∧
      deliver ws r c events types =
        ⟨events, "", r.output.map (·, ""), .uncaught (.unencodable fault)⟩ := by
  obtain ⟨fault, failed, meets⟩ := Text.exists_fault_of_not_encodable unencodable
  exact ⟨fault, meets, by rw [deliver_eq writable, failed]⟩

end Run
end TypeGraph.Command
