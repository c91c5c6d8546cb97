/-
**Named fields in order.**

`Fields α` holds values under names. A name that is set twice keeps its first place and has its last
value, so `ofPairs` has each name once.
-/

import AlarmFeed.Text.Basic

namespace AlarmFeed

/-- Values under names, in order. -/
abbrev Fields (α : Type) := List (Text × α)

namespace Fields

variable {α : Type}

/-- The value under a name. -/
def get? (name : Text) : Fields α → Option α
  | [] => none
  | (key, value) :: fields => if key = name then some value else get? name fields

/-- Puts a value under a name: in the place of that name if it is there, else at the end. -/
def set (name : Text) (value : α) : Fields α → Fields α
  | [] => [(name, value)]
  | (key, old) :: fields =>
    if key = name then (key, value) :: fields else (key, old) :: set name value fields

/-- The value under a name is the one that was put there last; putting it touches no other name. -/
theorem get?_set (name other : Text) (value : α) (fields : Fields α) :
    get? other (set name value fields) = if name = other then some value else get? other fields := by
  induction fields with
  | nil => rfl
  | cons field fields ih =>
    obtain ⟨key, old⟩ := field
    by_cases known : key = name
    · subst known
      rw [set, if_pos rfl, get?, get?]
      by_cases asked : key = other
      · rw [if_pos asked, if_pos asked]
      · rw [if_neg asked, if_neg asked, if_neg asked]
    · rw [set, if_neg known, get?, get?, ih]
      by_cases asked : key = other
      · have apart : ¬name = other := fun equal => known (asked.trans equal.symm)
        rw [if_pos asked, if_neg apart, if_pos asked]
      · rw [if_neg asked, if_neg asked]

/-- The fields of a list of pairs, one for each name. -/
def ofPairs (pairs : List (Text × α)) : Fields α :=
  pairs.foldl (fun fields (name, value) => set name value fields) []

end Fields

end AlarmFeed
