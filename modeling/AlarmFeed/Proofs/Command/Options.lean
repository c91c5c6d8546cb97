/-
**Reading options as they are written.**

An option can be written with its value behind an equals sign (`attached`). A command that takes an option
under its name in that form (`Takes`) reads a command line of such arguments as the options that were
written: of values of one option the last counts (`read_attached`).

`Fetch.takes_names` — the command that prints one table takes each of its options so, whatever the value.
-/

import AlarmFeed.Command.Fetch

namespace AlarmFeed.Options

/-- An option with its value as one argument. -/
def attached (option : Text × Text) : Text :=
  option.1 ++ ("=" : Text) ++ option.2

/-- A command with given options takes one of them, with any value behind its name. -/
def Takes (names : List Text) (name : Text) : Prop :=
  ∀ value, classify names (attached (name, value)) = .option name (some value)

section Reading

variable {names : List Text} {accept : Text → Text → Bool} {options : Fields Text}

theorem isAmbiguous_attached (taken : ∀ option ∈ options, Takes names option.1) :
    isAmbiguous names (options.map attached) = false := by
  refine List.any_eq_false.mpr fun argument member => ?_
  obtain ⟨option, among, rfl⟩ := List.mem_map.mp ((List.takeWhile_sublist _).subset member)
  rw [decide_eq_true_iff, taken option among option.2]
  exact nofun

theorem readFrom_attached (taken : ∀ option ∈ options, Takes names option.1)
    (accepted : ∀ option ∈ options, accept option.1 option.2 = true) (found : Fields Text) :
    readFrom names accept true found (options.map attached) =
      .ok (options.foldl (fun fields (name, value) => Fields.set name value fields) found) := by
  induction options generalizing found with
  | nil => rfl
  | cons option options ih =>
    obtain ⟨takenFirst, takenLater⟩ := List.forall_mem_cons.mp taken
    obtain ⟨acceptedFirst, acceptedLater⟩ := List.forall_mem_cons.mp accepted
    rw [List.map_cons, readFrom, takenFirst option.2]
    dsimp only
    rw [if_pos acceptedFirst, ih takenLater acceptedLater, List.foldl_cons]

/-- **Options are read as they are written.** -/
theorem read_attached (taken : ∀ option ∈ options, Takes names option.1)
    (accepted : ∀ option ∈ options, accept option.1 option.2 = true) :
    read names accept (options.map attached) = .ok (Fields.ofPairs options) := by
  rw [read, isAmbiguous_attached taken, if_neg Bool.false_ne_true, readFrom_attached taken accepted]
  rfl

end Reading

end AlarmFeed.Options

namespace AlarmFeed.Fetch

/-- **Each option of the command is taken** with any value. -/
theorem takes_names {name : Text} (known : name ∈ names) : Options.Takes names name := by
  simp only [names, List.mem_cons, List.not_mem_nil, or_false] at known
  rcases known with rfl | rfl | rfl <;> exact fun value => rfl

/-- The command goes on with the options that were written. -/
theorem run_attached {environment : Environment} {options : Fields Text}
    (written : environment.arguments = options.map Options.attached)
    (known : ∀ option ∈ options, option.1 ∈ names) (replies : List Reply) :
    run environment replies = runWith environment (Fields.ofPairs options) replies := by
  rw [run, written, Options.read_attached (fun option among => takes_names (known option among))
    fun _ _ => rfl]

end AlarmFeed.Fetch
