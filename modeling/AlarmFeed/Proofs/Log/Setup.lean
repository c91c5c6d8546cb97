/-
**What a log is like once it is set up.**

A level in either case stands for the rank of the standard level that it names, or for that of plain
information if it names none (`StandsFor`); two names that are found among the levels and are none of them
(`Misnamed`) have no rank. A call that sets up the log says what it wants of both level and format, and does
so in steps: the handler is replaced first, then the level is set, then the loud loggers are quieted.

* `apply_of_named`, `apply_of_misnamed` — what one call leaves: all of it, or the new handler alone;
* `setUp_after` — and so what any run of calls leaves, from whatever was set up before.
-/

import AlarmFeed.Log.Setup
import AlarmFeed.Proofs.Text.Fields
import Mathlib.Tactic.SplitIfs

namespace AlarmFeed.Log

/-! ### Levels -/

/-- **A standard level**: in upper case it is the name of one. -/
def IsStandard (level : Text) : Prop :=
  ∃ known ∈ ranks, level.flatMap upperPoint = Text.ofString known.1

/-- **The name of something else** that stands among the levels. -/
def Misnamed (level : Text) : Prop :=
  level.flatMap upperPoint = "BASIC_FORMAT" ∨ level.flatMap upperPoint = "_STYLES"

/-- **The rank that a level stands for**: that of the standard level that it names, in upper case or not,
and that of plain information if it names none. -/
def StandsFor (level : Text) (rank : Nat) : Prop :=
  (∃ known ∈ ranks, level.flatMap upperPoint = Text.ofString known.1 ∧ rank = known.2) ∨
    ¬IsStandard level ∧ rank = Level.info.rank

section Levels

variable {level : Text}

theorem not_misnamed_of_standard (standard : IsStandard level) : ¬Misnamed level := by
  obtain ⟨known, member, same⟩ := standard
  have apart : ∀ known ∈ ranks, ¬(Text.ofString known.1 = "BASIC_FORMAT" ∨
      Text.ofString known.1 = "_STYLES") := by decide
  rw [Misnamed, same]
  exact apart known member

theorem rankOf_of_misnamed (misnamed : Misnamed level) : ∃ fault, rankOf level = .error fault := by
  rw [rankOf]
  dsimp only
  rcases misnamed with format | styles
  · exact ⟨_, if_pos format⟩
  · have noFormat : ¬level.flatMap upperPoint = "BASIC_FORMAT" := by
      rw [styles]
      decide
    rw [if_neg noFormat]
    exact ⟨_, if_pos styles⟩

/-- **Every other level has a rank**, the one that it stands for. -/
theorem rankOf_of_named (named : ¬Misnamed level) :
    ∃ rank, rankOf level = .ok rank ∧ StandsFor level rank := by
  rw [Misnamed, not_or] at named
  rw [rankOf]
  dsimp only
  rw [if_neg named.1, if_neg named.2]
  cases found : ranks.find? fun known => Text.ofString known.1 == level.flatMap upperPoint with
  | some known =>
    obtain ⟨same, _⟩ := List.find?_eq_some_iff_append.mp found
    exact ⟨known.2, rfl,
      .inl ⟨known, List.mem_of_find?_eq_some found, (beq_iff_eq.mp same).symm, rfl⟩⟩
  | none =>
    refine ⟨_, rfl, .inr ⟨?_, rfl⟩⟩
    rintro ⟨known, member, same⟩
    exact List.find?_eq_none.mp found known member (beq_iff_eq.mpr same.symm)

end Levels

/-! ### One call -/

namespace Setup

/-- **There is one handler**: it writes to the stream of errors, and as JSON exactly if that format is
wanted. -/
def HandlesAs (setup : Setup) (format : Text) : Prop :=
  ∃ renderer, setup.handlers = [⟨.errors, renderer⟩] ∧ (renderer = .json ↔ format = "json")

/-- **Nothing below a warning** is written for the loud loggers. -/
def IsQuiet (setup : Setup) : Prop :=
  ∀ name ∈ quietLoggers, setup.rankFor name = Level.warning.rank

section Calls

variable {configured : LogSettings} {level : Option Text}

theorem rendererOf_eq_json_iff (format : Text) : rendererOf format = .json ↔ format = "json" := by
  rw [rendererOf]
  split_ifs with json
  · exact iff_of_true rfl json
  · exact iff_of_false (by decide) json

theorem isQuiet_quieted (setup : Setup) : setup.quieted.IsQuiet := by
  intro name loud
  rw [rankFor, quieted]
  dsimp only
  rw [Fields.get?_foldl_set_of_mem loud]
  rfl

theorem rankFor_quieted (setup : Setup) {name : Text} (other : name ∉ quietLoggers) :
    setup.quieted.rankFor name = setup.rankFor name := by
  rw [rankFor, quieted, rankFor]
  dsimp only
  rw [Fields.get?_foldl_set_of_not_mem other]

/-- **A call replaces the handler**, whatever comes of it. -/
theorem handlesAs_apply (setup : Setup) (configured : LogSettings) (level format : Option Text) :
    (setup.apply configured level format).1.HandlesAs (chosen format configured.format) := by
  have json := rendererOf_eq_json_iff (chosen format configured.format)
  rw [apply]
  split
  · exact ⟨_, rfl, json⟩
  · exact ⟨_, rfl, json⟩

/-- **A call that names a level**, or none, sets up all of the log. -/
theorem apply_of_named (setup : Setup) (named : ¬Misnamed (chosen level configured.level))
    (format : Option Text) :
    (setup.apply configured level format).2 = .ok () ∧
      StandsFor (chosen level configured.level) (setup.apply configured level format).1.rank ∧
      (setup.apply configured level format).1.IsQuiet ∧
      ∀ name ∉ quietLoggers,
        (setup.apply configured level format).1.rankFor name = setup.rankFor name := by
  obtain ⟨rank, known, stands⟩ := rankOf_of_named named
  rw [apply, known]
  exact ⟨rfl, stands, isQuiet_quieted _, fun name => rankFor_quieted _⟩

/-- **A call that names something else** is refused and leaves nothing but the new handler. -/
theorem apply_of_misnamed (setup : Setup) (misnamed : Misnamed (chosen level configured.level))
    (format : Option Text) :
    (∃ fault, (setup.apply configured level format).2 = .error fault) ∧
      (setup.apply configured level format).1.rank = setup.rank ∧
      ∀ name, (setup.apply configured level format).1.rankFor name = setup.rankFor name := by
  obtain ⟨fault, known⟩ := rankOf_of_misnamed misnamed
  rw [apply, known]
  exact ⟨⟨fault, rfl⟩, rfl, fun _ => rfl⟩

/-- A standard level is not empty, so it is the one that is set up. -/
theorem apply_of_standard {wanted : Text} (standard : IsStandard wanted) (setup : Setup)
    (configured : LogSettings) :
    ∃ now, setup.apply configured (some wanted) none = (now, .ok ()) := by
  have nonempty : wanted ≠ [] := by
    rintro rfl
    obtain ⟨known, member, same⟩ := standard
    exact absurd same ((by decide : ∀ known ∈ ranks, ¬([] : Text) = Text.ofString known.1) known member)
  obtain ⟨c, rest, rfl⟩ := List.exists_cons_of_ne_nil nonempty
  have named : ¬Misnamed (chosen (some (c :: rest)) configured.level) := not_misnamed_of_standard standard
  exact ⟨_, Prod.ext rfl (apply_of_named setup named none).1⟩

end Calls

/-! ### Calls one after another -/

/-- **A choice is refused**: the level that it asks for, or else the configured one, is the name of
something else. -/
def Refuses (configured : LogSettings) (choice : Choice) : Prop :=
  Misnamed (chosen choice.level configured.level)

section Runs

variable {configured : LogSettings} {choices : List Choice}

theorem after_append (configured : LogSettings) (setup : Setup) (earlier later : List Choice) :
    setup.after configured (earlier ++ later) = (setup.after configured earlier).after configured later :=
  List.foldl_append ..

theorem after_cons (configured : LogSettings) (setup : Setup) (choice : Choice) (later : List Choice) :
    setup.after configured (choice :: later) =
      (setup.apply configured choice.level choice.format).1.after configured later :=
  List.foldl_cons ..

/-- **Calls that are refused** leave every level as it was. -/
theorem after_of_refused (refused : ∀ choice ∈ choices, Refuses configured choice) (setup : Setup) :
    (setup.after configured choices).rank = setup.rank ∧
      ∀ name, (setup.after configured choices).rankFor name = setup.rankFor name := by
  induction choices generalizing setup with
  | nil => exact ⟨rfl, fun _ => rfl⟩
  | cons choice choices ih =>
    obtain ⟨first, others⟩ := List.forall_mem_cons.mp refused
    obtain ⟨_, rank, ranks⟩ := apply_of_misnamed setup first choice.format
    obtain ⟨later, laters⟩ := ih others (setup.apply configured choice.level choice.format).1
    rw [after_cons]
    exact ⟨later.trans rank, fun name => (laters name).trans (ranks name)⟩

/-- **No call touches a logger** that is none of the loud ones. -/
theorem rankFor_after (configured : LogSettings) (setup : Setup) (choices : List Choice) {name : Text}
    (other : name ∉ quietLoggers) :
    (setup.after configured choices).rankFor name = setup.rankFor name := by
  induction choices generalizing setup with
  | nil => rfl
  | cons choice choices ih =>
    rw [after_cons, ih]
    by_cases refused : Refuses configured choice
    · exact (apply_of_misnamed setup refused choice.format).2.2 name
    · exact (apply_of_named setup refused choice.format).2.2.2 name other

/-- **Setting up the log**, however often and with whatever choices, from any setup. A call succeeds unless
it is refused. After the last call there is one handler, which writes to the stream of errors in the format
that this call wants. The level is that of the latest call that was not refused: the standard level that it
names, or that of plain information if it names none; and the loud loggers are quiet since. Calls that are
refused change no level, and no call that of another logger. -/
theorem setUp_after (configured : LogSettings) (setup : Setup) (choices : List Choice) :
    (∀ choice : Choice,
        ((setup.after configured choices).apply configured choice.level choice.format).2 = .ok () ↔
          ¬Refuses configured choice) ∧
      (∀ (earlier : List Choice) (last : Choice), choices = earlier ++ [last] →
        (setup.after configured choices).HandlesAs (chosen last.format configured.format)) ∧
      (∀ (earlier : List Choice) (latest : Choice) (refused : List Choice),
        choices = earlier ++ latest :: refused → ¬Refuses configured latest →
        (∀ choice ∈ refused, Refuses configured choice) →
        StandsFor (chosen latest.level configured.level) (setup.after configured choices).rank ∧
          (setup.after configured choices).IsQuiet) ∧
      ((∀ choice ∈ choices, Refuses configured choice) →
        (setup.after configured choices).rank = setup.rank ∧
          ∀ name, (setup.after configured choices).rankFor name = setup.rankFor name) ∧
      ∀ name ∉ quietLoggers, (setup.after configured choices).rankFor name = setup.rankFor name := by
  refine ⟨fun choice => ⟨fun succeeds misnamed => ?_, fun named => (apply_of_named _ named _).1⟩, ?_, ?_,
    fun refused => after_of_refused refused setup, fun name => rankFor_after configured setup choices⟩
  · obtain ⟨⟨fault, fails⟩, _⟩ := apply_of_misnamed (setup.after configured choices) misnamed
      choice.format
    rw [succeeds] at fails
    cases fails
  · rintro earlier last rfl
    rw [after_append]
    exact handlesAs_apply _ configured last.level last.format
  · rintro earlier latest refused rfl named others
    obtain ⟨_, stands, quiet, _⟩ := apply_of_named (setup.after configured earlier) named
      latest.format
    obtain ⟨rank, loggers⟩ := after_of_refused others
      ((setup.after configured earlier).apply configured latest.level latest.format).1
    rw [after_append, after_cons, rank]
    exact ⟨stands, fun name loud => (loggers name).trans (quiet name loud)⟩

end Runs

/-- A choice whose level is, in upper case, the name of a format. -/
def formatNamed : Choice := { level := some "basic_format" }

/-- **Not every choice is set up**: a format that stands among the levels is refused, and the loud loggers
stay as loud as they were. -/
theorem not_every_choice_set_up :
    ¬∀ (configured : LogSettings) (setup : Setup) (choice : Choice),
      (setup.apply configured choice.level choice.format).2 = .ok () ∧
        (setup.apply configured choice.level choice.format).1.IsQuiet := by
  intro every
  have refused : Refuses {} formatNamed := .inl (by decide)
  obtain ⟨⟨fault, fails⟩, _⟩ := apply_of_misnamed {} refused formatNamed.format
  rw [(every {} {} formatNamed).1] at fails
  cases fails

end Setup

end AlarmFeed.Log
