import Mathlib.Data.List.Basic
import TypeGraph.Proofs.Command.Requests

/-!
Command lines that say the same. Whatever arguments say can be written again, each option by its
long name with its value attached, and reads back. Without its output, a command line asks for the
same in all other respects.
-/

namespace TypeGraph.Command

/-- An option as a single argument. -/
def Flag.argument (flag : Flag) (value : String) : String :=
  if flag.takesValue then flag.long ++ "=" ++ value else flag.long

namespace Parsed

/-- Arguments that say what has been read, the options first. -/
def arguments (p : Parsed) : List String :=
  p.options.map (fun o => o.1.argument o.2) ++ "--" :: p.positional

def withoutOutput (p : Parsed) : Parsed :=
  { p with options := p.options.filter fun o => o.1 != .output }

/-- Options that take no value have none. -/
def Plain (p : Parsed) : Prop := ∀ o ∈ p.options, o.1.takesValue = false → o.2 = ""

section Reading

theorem option?_argument (flag : Flag) (value : String) :
    option? (flag.argument value) =
      some (.ok ⟨flag, flag.long, if flag.takesValue then some value else none⟩) := by
  cases flag <;>
    simp [option?, Flag.argument, Flag.takesValue, Flag.long, Written.ofLong, Flag.ofLong?,
      Flag.all]

theorem argument_ne_dashes (flag : Flag) (value : String) : flag.argument value ≠ "--" := by
  intro h
  have same := congrArg String.toList h
  cases flag <;> simp [Flag.argument, Flag.takesValue, Flag.long] at same

theorem readFrom_argument (p : Parsed) (flag : Flag) (value : String)
    (plain : flag.takesValue = false → value = "") (rest : List String) :
    p.readFrom (flag.argument value :: rest) = (p.addOption flag value).readFrom rest := by
  rw [readFrom, if_neg (argument_ne_dashes flag value), option?_argument]
  cases takes : flag.takesValue with
  | true => simp [takes]
  | false =>
      obtain rfl := plain takes
      simp [takes]

theorem readFrom_arguments (p q : Parsed) (plain : q.Plain) :
    p.readFrom q.arguments = .ok ⟨p.options ++ q.options, p.positional ++ q.positional⟩ := by
  obtain ⟨options, positional⟩ := q
  unfold arguments
  dsimp only
  induction options generalizing p with
  | nil => simp [readFrom, addPositional]
  | cons o options ih =>
      obtain ⟨here, there⟩ := List.forall_mem_cons.mp plain
      rw [List.map_cons, List.cons_append, readFrom_argument p o.1 o.2 here, ih _ there]
      simp [addOption]

theorem read_arguments {p : Parsed} (plain : p.Plain) : read p.arguments = .ok p :=
  readFrom_arguments ⟨[], []⟩ p plain

theorem Plain.addOption {p : Parsed} (plain : p.Plain) {flag : Flag} {value : String}
    (h : flag.takesValue = false → value = "") : (p.addOption flag value).Plain := by
  intro o ho
  rcases List.mem_append.mp ho with old | new
  · exact plain o old
  · obtain rfl := List.mem_singleton.mp new
    exact h

theorem Plain.of_readFrom {p q : Parsed} {args : List String} (plain : p.Plain)
    (read : p.readFrom args = .ok q) : q.Plain := by
  fun_induction readFrom p args with
  | case1 p | case2 p _ =>
      cases read
      exact plain
  | case3 p arg rest _ _ ih => exact ih plain read
  | case4 | case7 | case8 => cases read
  | case5 p _ _ written _ takes _ _ _ ih | case6 p _ _ written _ takes _ _ _ ih =>
      exact ih (plain.addOption fun none => absurd takes (by simp [none])) read
  | case9 p _ _ _ written _ takes _ ih => exact ih (plain.addOption fun _ => rfl) read

theorem exists_read_withoutOutput {args : List String} {p : Parsed} (h : read args = .ok p) :
    ∃ args', read args' = .ok p.withoutOutput := by
  have plain : p.Plain := Plain.of_readFrom (p := ⟨[], []⟩) nofun h
  exact ⟨_, read_arguments fun o ho => plain o (List.mem_filter.mp ho).1⟩

end Reading

section WithoutOutput

variable (p : Parsed)

theorem has_withoutOutput {flag : Flag} (other : flag ≠ .output) :
    p.withoutOutput.has flag = p.has flag := by
  rw [Bool.eq_iff_iff]
  simp only [has, withoutOutput, List.any_eq_true, List.mem_filter, bne_iff_ne, beq_iff_eq]
  constructor
  · rintro ⟨o, ⟨ho, -⟩, rfl⟩
    exact ⟨o, ho, rfl⟩
  · rintro ⟨o, ho, rfl⟩
    exact ⟨o, ⟨ho, other⟩, rfl⟩

theorem lookup_filter {flag : Flag} (options : List (Flag × String)) :
    (options.filter fun o => o.1 != .output).lookup flag =
      if flag = .output then none else options.lookup flag := by
  induction options with
  | nil => simp
  | cons o options ih =>
      obtain ⟨other, value⟩ := o
      by_cases isOutput : other = .output
      · subst isOutput
        rw [List.filter_cons_of_neg (by simp), ih, List.lookup_cons]
        split_ifs with h
        · rfl
        · rw [beq_eq_false_iff_ne.mpr h]
      · rw [List.filter_cons_of_pos (by simpa using isOutput), List.lookup_cons, ih,
          List.lookup_cons]
        split_ifs with h
        · subst h
          rw [beq_eq_false_iff_ne.mpr (Ne.symm isOutput)]
        · rfl

theorem value?_withoutOutput (flag : Flag) :
    p.withoutOutput.value? flag = if flag = .output then none else p.value? flag := by
  rw [value?, withoutOutput, ← List.filter_reverse, lookup_filter]
  rfl

end WithoutOutput

end Parsed

section Requests

variable {ws : Workspace} {p : Parsed}

theorem checkConfig_withoutOutput : checkConfig ws p.withoutOutput = checkConfig ws p := by
  rw [checkConfig, Parsed.value?_withoutOutput, if_neg nofun, checkConfig]

theorem checkOutput_withoutOutput : checkOutput ws p.withoutOutput = .ok none := by
  rw [checkOutput, Parsed.value?_withoutOutput, if_pos rfl]

theorem ofArguments_withoutOutput {args args' : List String} {r : Request}
    (read : Parsed.read args = .ok p) (asked : Invocation.ofArguments ws args = .ok (.run r))
    (read' : Parsed.read args' = .ok p.withoutOutput) :
    Invocation.ofArguments ws args' = .ok (.run { r with output := none }) := by
  rw [ofArguments_eq_run_iff read] at asked
  obtain ⟨noHelp, config, -, document, strict⟩ := asked
  rw [ofArguments_eq_run_iff read', checkConfig_withoutOutput, checkOutput_withoutOutput,
    p.has_withoutOutput (by decide), p.has_withoutOutput (by decide)]
  exact ⟨noHelp, config, rfl, document, strict⟩

end Requests

end TypeGraph.Command
