/-
**Files and the settings in force, action by action.**

A cache holds every settings object that was ever made, in order, and which of them is in force. A
load makes a new object and puts it in force; a load that fails changes nothing. `Cache.get` loads the
default file only if none is in force. Assigning a setting changes the object in force and no other.

Files are written and removed and folders are made while settings are loaded, asked for, changed and
reset. `Workspace.step` does one action and says what comes of it; `Workspace.after` does one after
another, with no settings in force at first. A client that is given no settings of its own is over those
in force.
-/

import AlarmFeed.Monitor.Client
import AlarmFeed.Settings.Load

namespace AlarmFeed

/-! ### The settings in force -/

/-- The settings that were made, and those in force. -/
structure Cache where
  made : List Settings := []
  /-- The place, among those made, of the settings in force. -/
  current : Option Nat := none
  deriving DecidableEq

namespace Cache

/-- The settings in force, with their place. -/
def inForce? (cache : Cache) : Option (Nat × Settings) := do
  let place ← cache.current
  let settings ← cache.made[place]?
  return (place, settings)

/-- Loads settings and puts them in force. -/
def load (cache : Cache) (files : Files) (path : Option Text) :
    Cache × Except Fault (Nat × Settings) :=
  match Settings.load files path with
  | .error fault => (cache, .error fault)
  | .ok settings =>
    let place := cache.made.length
    (⟨cache.made ++ [settings], some place⟩, .ok (place, settings))

/-- The settings in force, loaded from the default file if there are none. -/
def get (cache : Cache) (files : Files) : Cache × Except Fault (Nat × Settings) :=
  match cache.inForce? with
  | some found => (cache, .ok found)
  | none => cache.load files none

/-- Leaves no settings in force. -/
def reset (cache : Cache) : Cache :=
  { cache with current := none }

/-- Assigns `portNumber` in the settings in force, which are loaded first if there are none. -/
def setPort (cache : Cache) (files : Files) (portNumber : Int) : Cache × Except Fault Unit :=
  match cache.get files with
  | (cache, .error fault) => (cache, .error fault)
  | (cache, .ok (place, settings)) =>
    let changed := { settings with server := { settings.server with portNumber := portNumber } }
    ({ cache with made := cache.made.set place changed }, .ok ())

end Cache

/-! ### Actions -/

/-- A client over the settings in force, which are loaded first if there are none. -/
def Cache.client (cache : Cache) (files : Files) : Cache × Except Fault Client :=
  match cache.get files with
  | (cache, .error fault) => (cache, .error fault)
  | (cache, .ok (_, settings)) => (cache, .ok { settings := settings.monitor })

/-- The files, and the settings in force. -/
structure Workspace where
  files : Files := []
  cache : Cache := {}

namespace Workspace

/-- What is done with files and settings. -/
inductive Action
  | write (path : Text) (content : Bytes)
  | makeFolder (path : Text)
  | remove (path : Text)
  | reset
  | load (path : Option Text)
  | get
  | client
  | setPort (portNumber : Int)
  deriving DecidableEq

/-- What comes of an action. -/
inductive Answer
  | done
  | settings (place : Nat) (settings : Settings)
  | client (client : Client)
  | failed (fault : Fault)

/-- The workspace with what an action made of the cache, and what came of it. -/
def answered {α : Type} (workspace : Workspace) (answer : α → Answer) :
    Cache × Except Fault α → Workspace × Answer
  | (cache, .ok value) => ({ workspace with cache := cache }, answer value)
  | (cache, .error fault) => ({ workspace with cache := cache }, .failed fault)

/-- Does one action. -/
def step (workspace : Workspace) : Action → Workspace × Answer
  | .write path content => ({ workspace with files := workspace.files.write path content }, .done)
  | .makeFolder path => ({ workspace with files := workspace.files.makeFolder path }, .done)
  | .remove path => ({ workspace with files := workspace.files.remove path }, .done)
  | .reset => ({ workspace with cache := workspace.cache.reset }, .done)
  | .load path =>
    workspace.answered (fun (place, settings) => .settings place settings)
      (workspace.cache.load workspace.files path)
  | .get =>
    workspace.answered (fun (place, settings) => .settings place settings)
      (workspace.cache.get workspace.files)
  | .client => workspace.answered .client (workspace.cache.client workspace.files)
  | .setPort portNumber =>
    workspace.answered (fun _ => .done) (workspace.cache.setPort workspace.files portNumber)

/-- What some actions leave, done one after another with no settings in force at first. -/
def after (files : Files) (actions : List Action) : Workspace :=
  actions.foldl (fun workspace action => (workspace.step action).1) { files := files }

end Workspace

end AlarmFeed
