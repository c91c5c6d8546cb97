/-
**What one action does to the settings in force.**

An action loads settings if it is a load, or if it needs settings and none are in force
(`Workspace.loads?`). Whatever the state, an action takes one of five courses (`Workspace.Course`), and
all that follows of one action is read off them.

* `course_step` — the courses are all there are;
* `step_of_loads` — a load makes a new object, or leaves everything as it was;
* `inForce_step`, `cache_of_none`, `retired_step` — what becomes of settings in force while no others are
  made, of a cache without any, and of settings that were in force before.
-/

import AlarmFeed.Proofs.Settings.Load
import AlarmFeed.Settings.Workspace

namespace AlarmFeed

open Settings

namespace Cache

variable {cache : Cache} {place : Nat} {settings : Settings}

/-- What is in force was made. -/
def Placed (cache : Cache) : Prop :=
  ∀ place, cache.current = some place → place < cache.made.length

/-- Settings that were made and are not in force. -/
def Retired (cache : Cache) (place : Nat) (settings : Settings) : Prop :=
  cache.made[place]? = some settings ∧ cache.current ≠ some place

theorem inForce?_eq_some :
    cache.inForce? = some (place, settings) ↔
      cache.current = some place ∧ cache.made[place]? = some settings := by
  simp [inForce?, Option.bind_eq_some_iff]

theorem Placed.inForce?_eq_none (placed : cache.Placed) :
    cache.inForce? = none ↔ cache.current = none := by
  cases current : cache.current with
  | none => simp [inForce?, current]
  | some place => simp [inForce?, current, placed place current]

theorem set_of_inForce (inForce : cache.inForce? = some (place, settings)) :
    (⟨cache.made.set place settings, some place⟩ : Cache) = cache := by
  obtain ⟨current, made⟩ := inForce?_eq_some.mp inForce
  obtain ⟨_, rfl⟩ := List.getElem?_eq_some_iff.mp made
  rw [List.set_getElem_self, ← current]

theorem get_of_inForce (files : Files) (inForce : cache.inForce? = some (place, settings)) :
    cache.get files = (cache, .ok (place, settings)) := by
  unfold get
  rw [inForce]

theorem get_of_none (files : Files) (empty : cache.inForce? = none) :
    cache.get files = cache.load files none := by
  unfold get
  rw [empty]

end Cache

namespace Workspace

/-! ### Actions -/

/-- Whether an action needs settings in force. -/
def Action.asks : Action → Bool
  | .get | .client | .setPort _ => true
  | _ => false

/-- What an action makes of the settings in force. -/
def Action.assign : Action → Settings → Settings
  | .setPort portNumber, settings =>
    { settings with server := { settings.server with portNumber := portNumber } }
  | _, settings => settings

/-- What comes of an action that leaves settings in force. -/
def Action.answer : Action → Nat → Settings → Answer
  | .load _, place, settings => .settings place settings
  | .get, place, settings => .settings place settings
  | .client, _, settings => .client { settings := settings.monitor }
  | _, _, _ => .done

/-- The path of the file that an action loads, if it loads one. -/
def loads? (workspace : Workspace) : Action → Option Text
  | .load path => some (pathOf path)
  | action =>
    if action.asks && workspace.cache.inForce?.isNone then some defaultPath else none

/-- The settings that an action makes, if it makes some. -/
def makes? (workspace : Workspace) (action : Action) : Option Settings :=
  (workspace.loads? action).bind fun path => (load workspace.files (some path)).toOption

variable {workspace : Workspace} {action : Action} {place : Nat} {settings loaded : Settings}

/-! ### Actions that need settings -/

theorem loads?_of_inForce (asks : action.asks = true)
    (inForce : workspace.cache.inForce? = some (place, settings)) : workspace.loads? action = none := by
  cases action with
  | load path => exact nomatch asks
  | _ => simp [loads?, inForce]

theorem loads?_of_none (asks : action.asks = true) (empty : workspace.cache.inForce? = none) :
    workspace.loads? action = some defaultPath := by
  cases action with
  | load path => exact nomatch asks
  | _ => simp [loads?, asks, empty]

/-- What loads is a load, or finds nothing in force. -/
theorem cases_of_loads {path : Text} (loads : workspace.loads? action = some path) :
    (∃ named, action = .load named) ∨ workspace.cache.inForce? = none := by
  cases action with
  | load named => exact .inl ⟨named, rfl⟩
  | get | client | setPort =>
    refine .inr (Option.eq_none_iff_forall_ne_some.mpr fun (place, settings) inForce => ?_)
    exact nomatch (loads?_of_inForce rfl inForce).symm.trans loads
  | _ => exact nomatch loads

/-- Settings in force are used, and nothing is read. -/
theorem step_of_asks (asks : action.asks = true)
    (inForce : workspace.cache.inForce? = some (place, settings)) :
    workspace.step action =
      ({ workspace with
          cache := ⟨workspace.cache.made.set place (action.assign settings), some place⟩ },
        action.answer place settings) := by
  have same := Cache.set_of_inForce inForce
  have got := Cache.get_of_inForce workspace.files inForce
  cases action with
  | get =>
    rw [step, got, Action.assign, same]
    · rfl
    · exact nofun
  | client =>
    rw [step, Cache.client, got, Action.assign, same]
    · rfl
    · exact nofun
  | setPort portNumber =>
    rw [step, Cache.setPort, got, ← (Cache.inForce?_eq_some.mp inForce).1]
    rfl
  | _ => exact nomatch asks

/-- Without settings in force the default file is read; if it is no good, nothing happens. -/
theorem step_of_failed {fault : Fault} (asks : action.asks = true)
    (empty : workspace.cache.inForce? = none)
    (failed : load workspace.files none = .error fault) :
    workspace.step action = (workspace, .failed fault) := by
  have got : workspace.cache.get workspace.files = (workspace.cache, .error fault) := by
    rw [Cache.get_of_none _ empty, Cache.load, failed]
  cases action with
  | get => rw [step, got]; rfl
  | client => rw [step, Cache.client, got]; rfl
  | setPort portNumber => rw [step, Cache.setPort, got]; rfl
  | _ => exact nomatch asks

/-- Without settings in force those of the default file are put in force, and used. -/
theorem step_of_read (asks : action.asks = true) (empty : workspace.cache.inForce? = none)
    (read : load workspace.files none = .ok loaded) :
    workspace.step action =
      ({ workspace with
          cache := ⟨workspace.cache.made ++ [action.assign loaded], some workspace.cache.made.length⟩ },
        action.answer workspace.cache.made.length loaded) := by
  have got : workspace.cache.get workspace.files =
      (⟨workspace.cache.made ++ [loaded], some workspace.cache.made.length⟩,
        .ok (workspace.cache.made.length, loaded)) := by
    rw [Cache.get_of_none _ empty, Cache.load, read]
  cases action with
  | get => rw [step, got]; rfl
  | client => rw [step, Cache.client, got]; rfl
  | setPort portNumber =>
    rw [step, Cache.setPort, got]
    simp [answered, Action.assign, Action.answer]
  | _ => exact nomatch asks

/-! ### Courses -/

/-- **What an action can do**, and what comes of it. -/
inductive Course (workspace : Workspace) (action : Action) : Workspace × Answer → Prop
  | aside (files : Files) (idle : workspace.loads? action = none) (unasked : action.asks = false)
      (kept : action ≠ .reset) : Course workspace action (⟨files, workspace.cache⟩, .done)
  | reset (resets : action = .reset) :
      Course workspace action (⟨workspace.files, workspace.cache.reset⟩, .done)
  | fails {path : Text} {fault : Fault} (loads : workspace.loads? action = some path)
      (failed : load workspace.files (some path) = .error fault) :
      Course workspace action (workspace, .failed fault)
  | makes {path : Text} {loaded : Settings} (loads : workspace.loads? action = some path)
      (read : load workspace.files (some path) = .ok loaded) :
      Course workspace action
        (⟨workspace.files,
            ⟨workspace.cache.made ++ [action.assign loaded], some workspace.cache.made.length⟩⟩,
          action.answer workspace.cache.made.length loaded)
  | uses {place : Nat} {settings : Settings} (asks : action.asks = true)
      (inForce : workspace.cache.inForce? = some (place, settings)) :
      Course workspace action
        (⟨workspace.files, ⟨workspace.cache.made.set place (action.assign settings), some place⟩⟩,
          action.answer place settings)

theorem course_of_asks (asks : action.asks = true) :
    Course workspace action (workspace.step action) := by
  cases inForce : workspace.cache.inForce? with
  | some found =>
    rw [step_of_asks asks inForce]
    exact .uses asks inForce
  | none =>
    have loads := loads?_of_none asks inForce
    cases read : load workspace.files none with
    | error fault =>
      rw [step_of_failed asks inForce read]
      exact .fails loads ((load_pathOf _ none).trans read)
    | ok loaded =>
      rw [step_of_read asks inForce read]
      exact .makes loads ((load_pathOf _ none).trans read)

theorem course_load (workspace : Workspace) (path : Option Text) :
    Course workspace (.load path) (workspace.step (.load path)) := by
  have loads : workspace.loads? (.load path) = some (pathOf path) := rfl
  rw [step, Cache.load]
  cases read : load workspace.files path with
  | error fault => exact .fails loads ((load_pathOf _ path).trans read)
  | ok loaded => exact .makes loads ((load_pathOf _ path).trans read)

/-- **An action takes one of the courses.** -/
theorem course_step (workspace : Workspace) (action : Action) :
    Course workspace action (workspace.step action) := by
  cases action with
  | write path content => exact .aside _ rfl rfl nofun
  | makeFolder path => exact .aside _ rfl rfl nofun
  | remove path => exact .aside _ rfl rfl nofun
  | reset => exact .reset rfl
  | load path => exact course_load workspace path
  | get => exact course_of_asks rfl
  | client => exact course_of_asks rfl
  | setPort portNumber => exact course_of_asks rfl

/-! ### What follows of one action -/

theorem makes?_eq_some :
    workspace.makes? action = some loaded ↔
      ∃ path, workspace.loads? action = some path ∧
        load workspace.files (some path) = .ok loaded := by
  unfold makes?
  rw [Option.bind_eq_some_iff]
  refine exists_congr fun path => and_congr_right fun _ => ?_
  cases load workspace.files (some path) <;> simp [Except.toOption]

theorem assign_of_unasked (unasked : action.asks = false) (settings : Settings) :
    action.assign settings = settings := by
  cases action with
  | setPort portNumber => exact nomatch unasked
  | _ => rfl

/-- **A load makes a new object** and puts it in force, or leaves everything as it was. -/
theorem step_of_loads {path : Text} (loads : workspace.loads? action = some path) :
    workspace.step action =
      match load workspace.files (some path) with
      | .ok loaded =>
        (⟨workspace.files,
            ⟨workspace.cache.made ++ [action.assign loaded], some workspace.cache.made.length⟩⟩,
          action.answer workspace.cache.made.length loaded)
      | .error fault => (workspace, .failed fault) := by
  have course := course_step workspace action
  generalize workspace.step action = result at course
  cases course with
  | aside files idle => exact nomatch idle.symm.trans loads
  | reset resets => subst resets; exact nomatch loads
  | fails loads' failed =>
    obtain rfl := Option.some.inj (loads.symm.trans loads')
    rw [failed]
  | makes loads' read =>
    obtain rfl := Option.some.inj (loads.symm.trans loads')
    rw [read]
  | uses asks inForce => exact nomatch (loads?_of_inForce asks inForce).symm.trans loads

theorem step_of_makes (made : workspace.makes? action = some loaded) :
    workspace.step action =
      (⟨workspace.files,
          ⟨workspace.cache.made ++ [action.assign loaded], some workspace.cache.made.length⟩⟩,
        action.answer workspace.cache.made.length loaded) := by
  obtain ⟨path, loads, read⟩ := makes?_eq_some.mp made
  rw [step_of_loads loads, read]

theorem inForce_of_makes (made : workspace.makes? action = some loaded) :
    (workspace.step action).1.cache.inForce? =
      some (workspace.cache.made.length, action.assign loaded) := by
  rw [step_of_makes made, Cache.inForce?_eq_some]
  exact ⟨rfl, List.getElem?_concat_length⟩

/-- **What is in force stays so** while no other settings are made and there is no reset. -/
theorem cache_of_inForce (inForce : workspace.cache.inForce? = some (place, settings))
    (still : workspace.makes? action = none) (kept : action ≠ .reset) :
    (workspace.step action).1.cache =
      ⟨workspace.cache.made.set place (action.assign settings), some place⟩ := by
  have course := course_step workspace action
  generalize workspace.step action = result at course
  cases course with
  | aside files idle unasked =>
    rw [assign_of_unasked unasked]
    exact (Cache.set_of_inForce inForce).symm
  | reset resets => exact absurd resets kept
  | fails loads failed =>
    -- Settings are in force, so that only a load of its own can have failed.
    have unasked : action.asks = false := Bool.eq_false_iff.mpr fun asks =>
      nomatch (loads?_of_inForce asks inForce).symm.trans loads
    rw [assign_of_unasked unasked]
    exact (Cache.set_of_inForce inForce).symm
  | makes loads read => exact nomatch still.symm.trans (makes?_eq_some.mpr ⟨_, loads, read⟩)
  | uses asks inForce' =>
    obtain ⟨rfl, rfl⟩ := Prod.mk.inj (Option.some.inj (inForce.symm.trans inForce'))
    rfl

theorem inForce_step (inForce : workspace.cache.inForce? = some (place, settings))
    (still : workspace.makes? action = none) (kept : action ≠ .reset) :
    (workspace.step action).1.cache.inForce? = some (place, action.assign settings) := by
  have older := (List.getElem?_eq_some_iff.mp (Cache.inForce?_eq_some.mp inForce).2).1
  rw [cache_of_inForce inForce still kept, Cache.inForce?_eq_some]
  exact ⟨rfl, List.getElem?_set_self older⟩

/-- Nothing comes into force unless it is made. -/
theorem cache_of_none (empty : workspace.cache.inForce? = none)
    (still : workspace.makes? action = none) (kept : action ≠ .reset) :
    (workspace.step action).1.cache = workspace.cache := by
  have course := course_step workspace action
  generalize workspace.step action = result at course
  cases course with
  | aside files idle unasked => rfl
  | reset resets => exact absurd resets kept
  | fails loads failed => rfl
  | makes loads read => exact nomatch still.symm.trans (makes?_eq_some.mpr ⟨_, loads, read⟩)
  | uses asks inForce => exact nomatch empty.symm.trans inForce

theorem answer_ne_failed (fault : Fault) : action.answer place settings ≠ .failed fault := by
  cases action <;> exact nofun

/-- **What fails is a load.** -/
theorem step_failed_iff {fault : Fault} :
    (workspace.step action).2 = .failed fault ↔
      ∃ path, workspace.loads? action = some path ∧
        load workspace.files (some path) = .error fault := by
  constructor
  · intro failed
    have course := course_step workspace action
    generalize workspace.step action = result at course failed
    cases course with
    | aside | reset => exact nomatch failed
    | fails loads read =>
      obtain rfl := Answer.failed.inj failed
      exact ⟨_, loads, read⟩
    | makes | uses => exact absurd failed (answer_ne_failed fault)
  · rintro ⟨path, loads, read⟩
    rw [step_of_loads loads, read]

/-- What is in force after an action was made. -/
theorem placed_step (placed : workspace.cache.Placed) (action : Action) :
    (workspace.step action).1.cache.Placed := by
  have course := course_step workspace action
  generalize workspace.step action = result at course
  cases course with
  | aside | fails => exact placed
  | reset => exact fun place current => nomatch current
  | makes =>
    rintro _ ⟨⟩
    simp
  | uses asks inForce =>
    rintro _ ⟨⟩
    simpa using placed _ (Cache.inForce?_eq_some.mp inForce).1

/-- **Settings that are in force no longer never change.** -/
theorem retired_step (retired : workspace.cache.Retired place settings) (action : Action) :
    (workspace.step action).1.cache.Retired place settings := by
  obtain ⟨made, passed⟩ := retired
  have older := (List.getElem?_eq_some_iff.mp made).1
  have course := course_step workspace action
  generalize workspace.step action = result at course
  cases course with
  | aside | fails => exact ⟨made, passed⟩
  | reset => exact ⟨made, nofun⟩
  | makes =>
    refine ⟨(List.getElem?_append_left older).trans made, fun current => ?_⟩
    exact absurd (Option.some.inj current) (by omega)
  | uses asks inForce =>
    have current := (Cache.inForce?_eq_some.mp inForce).1
    rw [current] at passed
    exact ⟨(List.getElem?_set_ne fun same => passed (congrArg some same)).trans made, passed⟩

/-- No object is lost. -/
theorem made_le_step (workspace : Workspace) (action : Action) :
    workspace.cache.made.length ≤ (workspace.step action).1.cache.made.length := by
  have course := course_step workspace action
  generalize workspace.step action = result at course
  cases course <;> simp [Cache.reset]

end Workspace

end AlarmFeed
