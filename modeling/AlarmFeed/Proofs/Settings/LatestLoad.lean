/-
**Which settings are in force after a run.**

The settings in force are those that the latest load made, with what was assigned to them since
(`LatestLoad`). A load may be asked for or come of an action that needs settings; whether it does depends
on what is in force, so that `LatestLoad` is not read off the actions alone. By induction on the run,
however, there is a latest load exactly if something is in force, and the two agree
(`inForce?_after_iff`).

* `lawful` — what holds of the settings after any run (`Lawful`).
-/

import AlarmFeed.Proofs.Settings.Course

namespace AlarmFeed.Workspace

open AlarmFeed.Path Settings

variable {files : Files} {actions : List Action} {action : Action} {place : Nat}
  {settings loaded : Settings}

/-! ### Runs -/

theorem after_append (files : Files) (actions : List Action) (action : Action) :
    after files (actions ++ [action]) = ((after files actions).step action).1 :=
  List.foldl_concat ..

theorem placed_after (files : Files) (actions : List Action) :
    (after files actions).cache.Placed := by
  induction actions using List.reverseRecOn with
  | nil => exact fun place current => nomatch current
  | append_singleton actions action ih =>
    rw [after_append]
    exact placed_step ih action

theorem made_le_after (files : Files) (earlier later : List Action) :
    (after files earlier).cache.made.length ≤ (after files (earlier ++ later)).cache.made.length := by
  induction later using List.reverseRecOn with
  | nil => rw [List.append_nil]
  | append_singleton later action ih =>
    rw [← List.append_assoc, after_append]
    exact ih.trans (made_le_step _ action)

/-- **Settings that are in force no longer never change**, whatever is done. -/
theorem retired_after (retired : (after files actions).cache.Retired place settings)
    (later : List Action) : (after files (actions ++ later)).cache.Retired place settings := by
  induction later using List.reverseRecOn with
  | nil => rwa [List.append_nil]
  | append_singleton later action ih =>
    rw [← List.append_assoc, after_append]
    exact retired_step ih action

/-! ### The latest load -/

/-- **The latest load of a run.** One action made settings, which stand in the place behind all that were
made before; since then there was no reset and no others were made, but something may have been
assigned. -/
inductive LatestLoad (files : Files) : List Action → Nat → Settings → Prop
  | intro (before : List Action) (action : Action) (since : List Action) (loaded : Settings)
      (made : (after files before).makes? action = some loaded)
      (kept : ∀ earlier next later, since = earlier ++ next :: later →
        next ≠ .reset ∧ (after files (before ++ action :: earlier)).makes? next = none) :
      LatestLoad files (before ++ action :: since) (after files before).cache.made.length
        ((action :: since).foldl (fun settings action => action.assign settings) loaded)

theorem latestLoad_of_makes (made : (after files actions).makes? action = some loaded) :
    LatestLoad files (actions ++ [action]) (after files actions).cache.made.length
      (action.assign loaded) :=
  .intro actions action [] loaded made fun _ _ _ cut => nomatch List.append_eq_nil_iff.mp cut.symm

/-- A load stays the latest while there is no reset and none other. -/
theorem LatestLoad.keep (latest : LatestLoad files actions place settings) (kept : action ≠ .reset)
    (still : (after files actions).makes? action = none) :
    LatestLoad files (actions ++ [action]) place (action.assign settings) := by
  obtain ⟨before, first, since, loaded, made, before_kept⟩ := latest
  have extended := LatestLoad.intro before first (since ++ [action]) loaded made ?_
  · simpa using extended
  intro earlier next later cut
  rcases List.eq_nil_or_concat later with rfl | ⟨later, last, rfl⟩
  · obtain ⟨rfl, same⟩ := List.append_inj' cut rfl
    obtain rfl := List.singleton_inj.mp same
    exact ⟨kept, still⟩
  · have cut : since ++ [action] = (earlier ++ next :: later) ++ [last] := by simpa using cut
    exact before_kept earlier next later (List.append_inj' cut rfl).1

/-- **What the latest load made is in force.** -/
theorem LatestLoad.inForce (latest : LatestLoad files actions place settings) :
    (after files actions).cache.inForce? = some (place, settings) := by
  obtain ⟨before, first, since, loaded, made, kept⟩ := latest
  induction since using List.reverseRecOn with
  | nil =>
    rw [after_append]
    exact inForce_of_makes made
  | append_singleton since next ih =>
    obtain ⟨stays, still⟩ := kept since next [] rfl
    have inForce := ih fun earlier next' later cut =>
      kept earlier next' (later ++ [next]) (by rw [cut]; simp)
    rw [← List.cons_append, ← List.append_assoc, after_append, List.foldl_concat]
    exact inForce_step inForce still stays

/-- **Where something is in force there is a latest load.** -/
theorem exists_latestLoad (files : Files) (actions : List Action) :
    (after files actions).cache.inForce? = none ∨
      ∃ place settings, LatestLoad files actions place settings := by
  induction actions using List.reverseRecOn with
  | nil => exact .inl rfl
  | append_singleton actions action ih =>
    rw [after_append]
    by_cases resets : action = .reset
    · exact .inl (by rw [resets]; rfl)
    cases makes : (after files actions).makes? action with
    | some loaded => exact .inr ⟨_, _, latestLoad_of_makes makes⟩
    | none =>
      obtain empty | ⟨place, settings, latest⟩ := ih
      · exact .inl (by rw [cache_of_none empty makes resets, empty])
      · exact .inr ⟨_, _, latest.keep resets makes⟩

theorem inForce?_after_iff :
    (after files actions).cache.inForce? = some (place, settings) ↔
      LatestLoad files actions place settings := by
  refine ⟨fun inForce => ?_, LatestLoad.inForce⟩
  obtain empty | ⟨place', settings', latest⟩ := exists_latestLoad files actions
  · exact nomatch inForce.symm.trans empty
  · obtain ⟨rfl, rfl⟩ := Prod.mk.inj (Option.some.inj (inForce.symm.trans latest.inForce))
    exact latest

/-- A number that is assigned is kept, and so are the settings when their file is removed. -/
example :
    LatestLoad []
      [.write defaultPath (Utf8.encode "logging:\n  level: DEBUG\n"), .setPort 9000,
        .remove defaultPath, .get]
      0 { server := { portNumber := 9000 }, log := { level := "DEBUG" } } :=
  inForce?_after_iff.mp (by decide +kernel)

/-! ### The law -/

/-- **What holds of settings** in the workspace that some actions leave. -/
structure Lawful (files : Files) (actions : List Action) (workspace : Workspace) : Prop where
  /-- An action fails exactly if it loads settings and what it reads is no good. -/
  fails : ∀ action fault, (workspace.step action).2 = .failed fault ↔
    ∃ path, workspace.loads? action = some path ∧
      load workspace.files (some path) = .error fault
  /-- What fails leaves everything as it was; if it is no load, that is nothing in force. -/
  unchanged : ∀ action fault, (workspace.step action).2 = .failed fault →
    (workspace.step action).1 = workspace ∧
      ((∃ path, action = .load path) ∨ workspace.cache.current = none)
  /-- The settings of the latest load are answered, whatever files there are now. -/
  latest : ∀ place settings, LatestLoad files actions place settings → ∀ files',
    workspace.cache.get files' = (workspace.cache, .ok (place, settings)) ∧
      workspace.cache.client files' = (workspace.cache, .ok { settings := settings.monitor })
  /-- Without such a load nothing is in force, and the default file is read. -/
  unloaded : (¬∃ place settings, LatestLoad files actions place settings) →
    workspace.cache.current = none ∧
      ∀ files', workspace.cache.get files' = workspace.cache.load files' none
  /-- A load that succeeds makes one more object and puts it in force. -/
  makes : ∀ action path loaded, workspace.loads? action = some path →
    load workspace.files (some path) = .ok loaded →
    workspace.step action =
      (⟨workspace.files,
          ⟨workspace.cache.made ++ [action.assign loaded], some workspace.cache.made.length⟩⟩,
        action.answer workspace.cache.made.length loaded)
  /-- None that was in force before has its place. -/
  fresh : ∀ earlier later place settings, actions = earlier ++ later →
    LatestLoad files earlier place settings → place < workspace.cache.made.length
  /-- What is found under a path decides what is loaded, whatever else there is. -/
  alone : ∀ files' path, path ≠ [] → files'.find path = workspace.files.find path →
    load files' (some path) = load workspace.files (some path)
  /-- The bytes of a file say the settings, and all defaults hold where nothing is said. -/
  said : ∀ path bytes, path ≠ [] → workspace.files.find path = .content bytes →
    load workspace.files (some path) = ofBytes bytes
  silent : ∀ path, path ≠ [] → workspace.files.Silent path →
    load workspace.files (some path) = .ok {}
  /-- Nothing is said where no file stands. -/
  absent : ∀ path, Plain path →
    (∀ bytes, workspace.files.entryAt? (parts path) ≠ some (.file bytes)) →
    workspace.files.Silent path
  /-- What an action does to files is found where it was done, if no file is in the way. -/
  written : ∀ path content, Plain path → parts path ≠ [] → workspace.files.Clear path →
    (workspace.step (.write path content)).1.files.find path = .content content
  removed : ∀ path, Plain path → (workspace.step (.remove path)).1.files.find path = .nothing
  folder : ∀ path, Plain path →
    (∀ bytes, workspace.files.entryAt? (parts path) ≠ some (.file bytes)) →
    (workspace.step (.makeFolder path)).1.files.find path = .nothing
  /-- A number that is assigned is the only change to the settings in force, and to any. -/
  assigned : ∀ portNumber place settings, LatestLoad files actions place settings →
    workspace.step (.setPort portNumber) =
      (⟨workspace.files,
          ⟨workspace.cache.made.set place
              { settings with server := { settings.server with portNumber := portNumber } },
            some place⟩⟩, .done)
  /-- Settings that are in force no longer never change. -/
  retired : ∀ place settings, workspace.cache.Retired place settings → ∀ later,
    (after files (actions ++ later)).cache.Retired place settings

/-- **The law of the settings holds after every run.** -/
theorem lawful (files : Files) (actions : List Action) :
    Lawful files actions (after files actions) := by
  have placed := placed_after files actions
  refine
    { fails := fun action fault => step_failed_iff
      unchanged := fun action fault failed => ?_
      latest := fun place settings latest files' => ?_
      unloaded := fun none => ?_
      makes := fun action path loaded loads read => by rw [step_of_loads loads, read]
      fresh := ?_
      alone := fun files' path named found => load_congr named found
      said := fun path bytes named found => by rw [load_eq named, found]
      silent := fun path named silent => load_of_silent named silent
      absent := fun path plain absent => .nothing (Files.find_of_no_file plain absent)
      written := fun path content plain inner clear => Files.find_write plain inner clear content
      removed := fun path plain => Files.find_remove plain
      folder := fun path plain absent => Files.find_makeFolder plain absent
      assigned := fun portNumber place settings latest => step_of_asks rfl latest.inForce
      retired := fun place settings retired later => retired_after retired later }
  · obtain ⟨path, loads, read⟩ := step_failed_iff.mp failed
    exact ⟨by rw [step_of_loads loads, read],
      (cases_of_loads loads).imp_right placed.inForce?_eq_none.mp⟩
  · have got := Cache.get_of_inForce files' latest.inForce
    exact ⟨got, by rw [Cache.client, got]⟩
  · have empty := (exists_latestLoad files actions).resolve_right none
    exact ⟨placed.inForce?_eq_none.mp empty, fun files' => Cache.get_of_none files' empty⟩
  · rintro earlier later place settings rfl latest
    have current := Cache.inForce?_eq_some.mp latest.inForce
    exact (List.getElem?_eq_some_iff.mp current.2).1.trans_le (made_le_after files earlier later)

end AlarmFeed.Workspace
