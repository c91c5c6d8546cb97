/-
**What a file says of the settings.**

A load reads one file, and the settings it gives are those of what is found under its path. Nothing else
of the folder has a part in them.

* `load_of_silent` — all defaults hold where a file says nothing (`Files.Silent`): there is none, it is
  empty, or its document is no mapping.
-/

import AlarmFeed.Proofs.Settings.Files
import AlarmFeed.Settings.Load

namespace AlarmFeed

namespace Settings

variable {files files' : Files} {path : Text}

/-- The path of the file that is read for a path, if one is named. -/
def pathOf : Option Text → Text
  | some (c :: rest) => c :: rest
  | _ => defaultPath

theorem load_pathOf (files : Files) (path : Option Text) :
    load files (some (pathOf path)) = load files path := by
  match path with
  | some (_ :: _) => rfl
  | some [] => rfl
  | none => rfl

theorem load_eq (named : path ≠ []) :
    load files (some path) =
      match files.find path with
      | .content bytes => ofBytes bytes
      | .nothing => .ok {}
      | .tooLong => .error (pathTooLong path) := by
  obtain ⟨c, rest, rfl⟩ := List.exists_cons_of_ne_nil named
  rfl

/-- **What is found under the path decides**, whatever else there is. -/
theorem load_congr (named : path ≠ []) (found : files'.find path = files.find path) :
    load files' (some path) = load files (some path) := by
  rw [load_eq named, load_eq named, found]

/-! ### Files that say nothing -/

theorem ofDocument_of_no_mapping {document : Value} (other : ∀ members, document ≠ .object members) :
    ofDocument document = .ok {} := by
  cases document with
  | object members => exact absurd rfl (other members)
  | _ => rfl

theorem ofBytes_of_no_mapping {bytes : Bytes} {t : Text} {document : Value}
    (decoded : Utf8.decode false bytes = .ok t) (read : Yaml.read depth t.unifyLineEnds = .ok document)
    (other : ∀ members, document ≠ .object members) : ofBytes bytes = .ok {} := by
  unfold ofBytes
  rw [decoded]
  dsimp only
  rw [read]
  exact ofDocument_of_no_mapping other

theorem ofBytes_nil : ofBytes [] = .ok {} :=
  rfl

end Settings

open Settings

/-- **Nothing is said under a path.** -/
inductive Files.Silent (files : Files) (path : Text) : Prop
  | nothing (found : files.find path = .nothing)
  | empty (found : files.find path = .content [])
  | noMapping {bytes : Bytes} {t : Text} {document : Value} (found : files.find path = .content bytes)
      (decoded : Utf8.decode false bytes = .ok t) (read : Yaml.read depth t.unifyLineEnds = .ok document)
      (other : ∀ members, document ≠ .object members)

/-- **All defaults hold where nothing is said.** -/
theorem Settings.load_of_silent {files : Files} {path : Text} (named : path ≠ [])
    (silent : files.Silent path) : load files (some path) = .ok {} := by
  rw [load_eq named]
  cases silent with
  | nothing found => rw [found]
  | empty found => rw [found]; exact ofBytes_nil
  | noMapping found decoded read other => rw [found]; exact ofBytes_of_no_mapping decoded read other

end AlarmFeed
