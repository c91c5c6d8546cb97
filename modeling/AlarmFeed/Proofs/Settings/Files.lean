/-
**What is found under a path.**

What an action does to the folder is said by what stands under all parts afterwards (`entryAt?_reach`,
`entryAt?_remove`, `write_eq`), and what a path leads to by what stands under its parts. The latter
holds of plain paths only: two points in a path can lead back out of a folder that is not there.

* `find_of_no_file` — a plain path leads to nothing unless a file stands under it;
* `find_write` — it leads to what was written there, if no file was in the way.
-/

import AlarmFeed.Settings.Files
import Mathlib.Data.List.Infix

namespace AlarmFeed

open AlarmFeed.Path

/-- A part of a path that leads down and that is not refused. -/
def Path.Down (part : Text) : Prop :=
  part ≠ ".." ∧ size part ≤ partLimit

/-- **A path that leads down into the folder** and is nowhere refused. -/
structure Path.Plain (path : Text) : Prop where
  possible : isPossible path = true
  short : size (normal path) < limit
  inside : isAbsolute path = false
  down : ∀ part ∈ parts path, Down part

namespace Files

variable {files : Files} {place rest q : List Text} {path : Text}

/-! ### Walks -/

@[simp] theorem entryAt?_nil : entryAt? files [] = some .folder :=
  if_pos rfl

theorem entryAt?_of_ne_nil (inner : q ≠ []) :
    entryAt? files q = (files.find? fun (known, _) => known == q).map Prod.snd :=
  if_neg inner

theorem find_of_plain (plain : Plain path) : files.find path = walk files [] (parts path) := by
  unfold find
  rw [plain.possible, plain.inside, if_neg (by decide), if_neg (Nat.not_le.mpr plain.short),
    if_neg Bool.false_ne_true]

theorem walk_cons {part : Text} (down : Down part) (folder : entryAt? files place = some .folder) :
    walk files place (part :: rest) = walk files (place ++ [part]) rest := by
  rw [walk, if_neg (not_not.mpr folder), if_neg down.1, if_neg (Nat.not_lt.mpr down.2)]

/-- A walk down that ends at no file comes to nothing. -/
theorem walk_of_no_file (down : ∀ part ∈ rest, Down part)
    (absent : ∀ bytes, entryAt? files (place ++ rest) ≠ some (.file bytes)) :
    walk files place rest = .nothing := by
  induction rest generalizing place with
  | nil =>
    rw [walk]
    split
    · rename_i bytes file
      exact absurd file (by simpa using absent bytes)
    · rfl
  | cons part rest ih =>
    by_cases folder : entryAt? files place = some .folder
    · rw [walk_cons (down part List.mem_cons_self) folder]
      exact ih (fun part member => down part (List.mem_cons_of_mem _ member)) (by simpa using absent)
    · rw [walk, if_pos folder]

/-- A walk down through folders finds the file at its end. -/
theorem walk_of_file {bytes : Bytes} (down : ∀ part ∈ rest, Down part)
    (folders : ∀ n < rest.length, entryAt? files (place ++ rest.take n) = some .folder)
    (file : entryAt? files (place ++ rest) = some (.file bytes)) :
    walk files place rest = .content bytes := by
  induction rest generalizing place with
  | nil =>
    rw [List.append_nil] at file
    rw [walk, file]
  | cons part rest ih =>
    have folder := folders 0 (Nat.succ_pos _)
    rw [List.take_zero, List.append_nil] at folder
    rw [walk_cons (down part List.mem_cons_self) folder]
    refine ih (fun part member => down part (List.mem_cons_of_mem _ member)) ?_ (by simpa using file)
    intro n less
    simpa using folders (n + 1) (Nat.succ_lt_succ less)

/-- **A plain path leads to nothing** unless a file stands under it. -/
theorem find_of_no_file (plain : Plain path)
    (absent : ∀ bytes, entryAt? files (parts path) ≠ some (.file bytes)) :
    files.find path = .nothing :=
  find_of_plain plain ▸ walk_of_no_file plain.down absent

/-! ### Folders on the way -/

theorem entryAt?_cons {entry : Entry} (inner : place ≠ []) :
    entryAt? ((place, entry) :: files) q = if q = place then some entry else entryAt? files q := by
  by_cases same : q = place
  · subst same
    simp [entryAt?_of_ne_nil inner]
  · by_cases nil : q = []
    · subst nil
      simp [inner.symm]
    · simp [entryAt?_of_ne_nil nil, beq_false_of_ne (Ne.symm same), same]

theorem enter_eq {part : Text} (down : Down part) :
    enter (files, place) part =
      if (entryAt? files (place ++ [part])).isSome then (files, place ++ [part])
      else ((place ++ [part], .folder) :: files, place ++ [part]) :=
  if_neg down.1

theorem enter_place {part : Text} (down : Down part) :
    (enter (files, place) part).2 = place ++ [part] := by
  rw [enter_eq down]
  split <;> rfl

theorem entryAt?_enter {part : Text} (down : Down part) :
    entryAt? (enter (files, place) part).1 q =
      (entryAt? files q).or (if q = place ++ [part] then some .folder else none) := by
  by_cases last : q = place ++ [part]
  · subst last
    rw [enter_eq down, if_pos rfl]
    split
    · rename_i there
      exact (Option.or_of_isSome there).symm
    · rename_i missing
      rw [entryAt?_cons (by simp), if_pos rfl, Option.not_isSome_iff_eq_none.mp missing,
        Option.none_or]
  · rw [enter_eq down, if_neg last, Option.or_none]
    split
    · rfl
    · rw [entryAt?_cons (by simp), if_neg last]

theorem reach_append (parts : List Text) (part : Text) :
    reach files (parts ++ [part]) = enter (reach files parts) part :=
  List.foldl_concat ..

theorem reach_place (down : ∀ part ∈ place, Down part) : (reach files place).2 = place := by
  induction place using List.reverseRecOn with
  | nil => rfl
  | append_singleton place part ih =>
    rw [reach_append, ← Prod.eta (reach files place), enter_place (down part (by simp)),
      ih fun part member => down part (List.mem_append_left _ member)]

/-- Where nothing stood on the way there is a folder. -/
theorem entryAt?_reach (down : ∀ part ∈ place, Down part) :
    entryAt? (reach files place).1 q =
      (entryAt? files q).or (if q <+: place then some .folder else none) := by
  induction place using List.reverseRecOn with
  | nil =>
    show entryAt? files q = _
    by_cases nil : q = []
    · simp [nil]
    · simp [nil]
  | append_singleton place part ih =>
    have before : ∀ part ∈ place, Down part := fun part member =>
      down part (List.mem_append_left _ member)
    rw [reach_append, ← Prod.eta (reach files place), entryAt?_enter (down part (by simp)),
      ih before, reach_place before, Option.or_assoc]
    congr 1
    by_cases last : q = place ++ [part]
    · subst last
      have longer : ¬place ++ [part] <+: place := fun inside =>
        absurd inside.length_le (by simp)
      rw [if_neg longer, if_pos rfl, if_pos (List.prefix_refl _), Option.none_or]
    · simp [last, List.prefix_concat_iff]

/-! ### What actions leave -/

/-- Nothing is left under a path that was removed, and everything else is. -/
theorem entryAt?_remove (down : ∀ part ∈ parts path, Down part) (inner : q ≠ []) :
    entryAt? (files.remove path) q = if parts path <+: q then none else entryAt? files q := by
  rw [entryAt?_of_ne_nil inner, entryAt?_of_ne_nil inner]
  unfold remove
  rw [reach_place down, List.find?_filter]
  split
  · rename_i under
    rw [Option.map_eq_none_iff, List.find?_eq_none]
    rintro ⟨known, entry⟩ _ both
    obtain ⟨outside, rfl⟩ : (parts path).isPrefixOf known = false ∧ known = q := by
      simpa using both
    rw [List.isPrefixOf_iff_prefix.mpr under] at outside
    exact nomatch outside
  · rename_i outside
    congr 2
    funext ⟨known, entry⟩
    by_cases same : known = q
    · subst same
      simpa [Bool.eq_false_iff, List.isPrefixOf_iff_prefix] using outside
    · simp [same]

theorem write_eq (plain : Plain path) (inner : parts path ≠ []) (content : Bytes) :
    files.write path content =
      (parts path, .file content) :: (reach files (parts path).dropLast).1.remove path := by
  have down : ∀ part ∈ (parts path).dropLast, Down part := fun part member =>
    plain.down part (List.mem_of_mem_dropLast member)
  unfold write
  rw [← Prod.eta (reach files (parts path).dropLast), reach_place down,
    List.getLast?_eq_getLast_of_ne_nil inner]
  dsimp only
  rw [List.dropLast_concat_getLast inner]

/-- No file stands in front of the last part of a path. -/
def Clear (files : Files) (path : Text) : Prop :=
  ∀ n < (parts path).length, ∀ bytes, entryAt? files ((parts path).take n) ≠ some (.file bytes)

/-- A folder stands in front of the last part of a path that was written. -/
theorem entryAt?_write_take (plain : Plain path) (clear : files.Clear path) (content : Bytes) {n : Nat}
    (less : n < (parts path).length) :
    entryAt? (files.write path content) ((parts path).take n) = some .folder := by
  by_cases inner : (parts path).take n = []
  · rw [inner, entryAt?_nil]
  have shorter : ((parts path).take n).length < (parts path).length := by
    rw [List.length_take]
    omega
  have down : ∀ part ∈ (parts path).dropLast, Down part := fun part member =>
    plain.down part (List.mem_of_mem_dropLast member)
  have parted : parts path ≠ [] := List.ne_nil_of_length_pos (by omega)
  have before : (parts path).take n <+: (parts path).dropLast := by
    rw [List.dropLast_eq_take, List.prefix_take_iff]
    exact ⟨List.take_prefix n _, by omega⟩
  have other : (parts path).take n ≠ parts path := fun same => absurd shorter (by rw [same]; simp)
  have outside : ¬parts path <+: (parts path).take n := fun under =>
    absurd under.length_le (by omega)
  rw [write_eq plain parted, entryAt?_cons parted, if_neg other, entryAt?_remove plain.down inner,
    if_neg outside, entryAt?_reach down, if_pos before]
  match there : entryAt? files ((parts path).take n) with
  | none => rfl
  | some .folder => rfl
  | some (.file bytes) => exact absurd there (clear n less bytes)

/-- **What was written is what is found**, if no file was in the way. -/
theorem find_write (plain : Plain path) (inner : parts path ≠ []) (clear : files.Clear path)
    (content : Bytes) : (files.write path content).find path = .content content := by
  rw [find_of_plain plain]
  refine walk_of_file plain.down (fun n less => entryAt?_write_take plain clear content less) ?_
  rw [List.nil_append, write_eq plain inner, entryAt?_cons inner, if_pos rfl]

/-- Nothing is found where all was removed. -/
theorem find_remove (plain : Plain path) : (files.remove path).find path = .nothing := by
  refine find_of_no_file plain fun bytes file => ?_
  by_cases inner : parts path = []
  · rw [inner, entryAt?_nil] at file
    exact nomatch file
  · rw [entryAt?_remove plain.down inner, if_pos (List.prefix_refl _)] at file
    exact nomatch file

/-- Nothing is found in place of a folder. -/
theorem find_makeFolder (plain : Plain path)
    (absent : ∀ bytes, entryAt? files (parts path) ≠ some (.file bytes)) :
    (files.makeFolder path).find path = .nothing := by
  refine find_of_no_file plain fun bytes file => ?_
  unfold makeFolder at file
  rw [entryAt?_reach plain.down, if_pos (List.prefix_refl _), Option.or_eq_some_iff] at file
  obtain file | ⟨_, folder⟩ := file
  · exact absent bytes file
  · exact nomatch folder

end Files

end AlarmFeed
