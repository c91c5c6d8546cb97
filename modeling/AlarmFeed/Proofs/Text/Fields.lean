/-
**Fields that are made from pairs.**

`Fields.ofPairs` puts one pair after another.

* `ofPairs_of_nodup` — pairs of distinct names stay as they are;
* `map_fst_ofPairs`, `get?_ofPairs_append` — whatever the names, each of them stays in its first place
  and has its last value;
* `get?_foldl_set_of_mem` — one value may be put under several names;
* `mem_ofPairs` — no other name and no other value comes in;
* `mem_of_get?` — what is found under a name stands there;
* `get?_ofPairs_eq_some_iff` — it is the value of the last pair of that name.

What is put in one by one is kept in the order in which it is first seen, as by `List.eraseDups`; its laws are
told from the end of a list (`eraseDups_append_singleton`, `nodup_eraseDups`, `eraseDups_eq_nil_iff`).
-/

import AlarmFeed.Text.Fields
import Mathlib.Data.List.Induction

namespace AlarmFeed

/-! ### Values in the order in which they are first seen -/

variable {α : Type} [BEq α] [LawfulBEq α]

/-- A value behind a list is new unless the list holds it. -/
theorem eraseDups_append_singleton (l : List α) (a : α) [Decidable (a ∈ l)] :
    (l ++ [a]).eraseDups = if a ∈ l then l.eraseDups else l.eraseDups ++ [a] := by
  rw [List.eraseDups_append, List.removeAll]
  by_cases known : a ∈ l
  · rw [if_pos known]
    simp [known]
  · rw [if_neg known]
    simp [known, List.eraseDups_cons]

/-- What is kept is distinct. -/
theorem nodup_eraseDups (l : List α) : l.eraseDups.Nodup := by
  induction l using List.reverseRecOn with
  | nil => exact List.nodup_nil
  | append_singleton l a ih =>
    rw [eraseDups_append_singleton]
    by_cases known : a ∈ l
    · rw [if_pos known]
      exact ih
    · rw [if_neg known, List.nodup_append]
      refine ⟨ih, List.pairwise_singleton _ a, ?_⟩
      rintro b member c only rfl
      exact known (List.mem_singleton.mp only ▸ List.mem_eraseDups.mp member)

theorem eraseDups_eq_nil_iff {l : List α} : l.eraseDups = [] ↔ l = [] := by
  simp only [List.eq_nil_iff_forall_not_mem, List.mem_eraseDups]

end AlarmFeed

namespace AlarmFeed.Fields

variable {α : Type}

/-- A new name goes to the end. -/
theorem set_of_new {name : Text} {fields : Fields α} (new : name ∉ fields.map Prod.fst) (value : α) :
    set name value fields = fields ++ [(name, value)] := by
  induction fields with
  | nil => rfl
  | cons field fields ih =>
    obtain ⟨key, old⟩ := field
    rw [List.map_cons, List.mem_cons, not_or] at new
    rw [set, if_neg (Ne.symm new.1), ih new.2, List.cons_append]

/-- Setting pairs of new and distinct names puts them behind those that are there. -/
theorem foldl_set_of_nodup (later earlier : List (Text × α))
    (distinct : ((earlier ++ later).map Prod.fst).Nodup) :
    later.foldl (fun fields (name, value) => set name value fields) earlier = earlier ++ later := by
  induction later generalizing earlier with
  | nil => exact (List.append_nil earlier).symm
  | cons pair later ih =>
    obtain ⟨name, value⟩ := pair
    have new : name ∉ earlier.map Prod.fst := by
      rw [List.map_append, List.nodup_append] at distinct
      exact fun member => distinct.2.2 name member name List.mem_cons_self rfl
    rw [List.append_cons] at distinct ⊢
    show later.foldl _ (set name value earlier) = _
    rw [set_of_new new, ih _ distinct]

/-- **Pairs of distinct names** are the fields that they make. -/
theorem ofPairs_of_nodup {pairs : List (Text × α)} (distinct : (pairs.map Prod.fst).Nodup) :
    ofPairs pairs = pairs :=
  foldl_set_of_nodup pairs [] distinct

/-! ### Names that are put there twice -/

/-- A name that is there keeps its place when it is set. -/
theorem map_fst_set_of_mem {name : Text} {fields : Fields α} (known : name ∈ fields.map Prod.fst)
    (value : α) : (set name value fields).map Prod.fst = fields.map Prod.fst := by
  induction fields with
  | nil => cases known
  | cons field fields ih =>
    obtain ⟨key, old⟩ := field
    rw [set]
    by_cases same : key = name
    · rw [if_pos same, List.map_cons, List.map_cons]
    · have later := (List.mem_cons.mp known).resolve_left (Ne.symm same)
      rw [if_neg same, List.map_cons, List.map_cons, ih later]

theorem ofPairs_append_singleton (pairs : List (Text × α)) (name : Text) (value : α) :
    ofPairs (pairs ++ [(name, value)]) = set name value (ofPairs pairs) := by
  rw [ofPairs, List.foldl_append]
  rfl

/-- **Each name stays in its first place.** -/
theorem map_fst_ofPairs (pairs : List (Text × α)) :
    (ofPairs pairs).map Prod.fst = (pairs.map Prod.fst).eraseDups := by
  induction pairs using List.reverseRecOn with
  | nil => rfl
  | append_singleton pairs pair ih =>
    obtain ⟨name, value⟩ := pair
    have held : name ∈ (ofPairs pairs).map Prod.fst ↔ name ∈ pairs.map Prod.fst := by
      rw [ih, List.mem_eraseDups]
    rw [ofPairs_append_singleton, List.map_append, List.map_singleton, eraseDups_append_singleton,
      ← ih]
    by_cases known : name ∈ pairs.map Prod.fst
    · rw [if_pos known, map_fst_set_of_mem (held.mpr known)]
    · rw [if_neg known, set_of_new (fun member => known (held.mp member)), List.map_append]
      rfl

/-- **A name has its last value**: pairs of other names behind it do not change that. -/
theorem get?_ofPairs_append (earlier : List (Text × α)) (name : Text) (value : α)
    {later : List (Text × α)} (last : name ∉ later.map Prod.fst) :
    get? name (ofPairs (earlier ++ (name, value) :: later)) = some value := by
  induction later using List.reverseRecOn with
  | nil => rw [ofPairs_append_singleton, get?_set, if_pos rfl]
  | append_singleton later pair ih =>
    obtain ⟨key, other⟩ := pair
    rw [List.map_append, List.mem_append, not_or, List.map_singleton, List.mem_singleton] at last
    obtain ⟨last, apart⟩ := last
    rw [← List.cons_append, ← List.append_assoc, ofPairs_append_singleton, get?_set,
      if_neg (Ne.symm apart), ih last]

/-- One value under several names touches no other name. -/
theorem get?_foldl_set_of_not_mem {names : List Text} {name : Text} (other : name ∉ names) (value : α)
    (fields : Fields α) :
    get? name (names.foldl (fun fields key => set key value fields) fields) = get? name fields := by
  induction names generalizing fields with
  | nil => rfl
  | cons key names ih =>
    obtain ⟨apart, others⟩ := List.ne_and_not_mem_of_not_mem_cons other
    rw [List.foldl_cons, ih others, get?_set, if_neg apart.symm]

/-- **One value under several names**: each of them has it. -/
theorem get?_foldl_set_of_mem {names : List Text} {name : Text} (member : name ∈ names) (value : α)
    (fields : Fields α) :
    get? name (names.foldl (fun fields key => set key value fields) fields) = some value := by
  induction names generalizing fields with
  | nil => cases member
  | cons key names ih =>
    rw [List.foldl_cons]
    by_cases later : name ∈ names
    · exact ih later _
    · obtain rfl := (List.mem_cons.mp member).resolve_right later
      rw [get?_foldl_set_of_not_mem later, get?_set, if_pos rfl]

/-! ### What fields hold -/

/-- A field is the one that was put there, or was there before. -/
theorem mem_set {name : Text} {value : α} {fields : Fields α} {field : Text × α}
    (member : field ∈ set name value fields) : field = (name, value) ∨ field ∈ fields := by
  induction fields with
  | nil => exact Or.inl (List.mem_singleton.mp member)
  | cons first fields ih =>
    obtain ⟨key, old⟩ := first
    rw [set] at member
    by_cases known : key = name
    · rw [if_pos known, List.mem_cons, known] at member
      exact member.imp_right (List.mem_cons_of_mem _)
    · rw [if_neg known, List.mem_cons] at member
      rcases member with same | later
      · exact Or.inr (same ▸ List.mem_cons_self)
      · exact (ih later).imp_right (List.mem_cons_of_mem _)

theorem mem_foldl_set {pairs : List (Text × α)} {earlier : Fields α} {field : Text × α}
    (member : field ∈ pairs.foldl (fun fields (name, value) => set name value fields) earlier) :
    field ∈ earlier ∨ field ∈ pairs := by
  induction pairs generalizing earlier with
  | nil => exact Or.inl member
  | cons pair pairs ih =>
    rcases ih member with first | later
    · rcases mem_set first with same | before
      · exact Or.inr (same ▸ List.mem_cons_self)
      · exact Or.inl before
    · exact Or.inr (List.mem_cons_of_mem _ later)

/-- **The fields of some pairs** are among the pairs. -/
theorem mem_ofPairs {pairs : List (Text × α)} {field : Text × α} (member : field ∈ ofPairs pairs) :
    field ∈ pairs :=
  (mem_foldl_set member).resolve_left List.not_mem_nil

theorem mem_of_get? {name : Text} {value : α} {fields : Fields α}
    (found : get? name fields = some value) : (name, value) ∈ fields := by
  induction fields with
  | nil => cases found
  | cons field fields ih =>
    obtain ⟨key, first⟩ := field
    rw [get?] at found
    by_cases known : key = name
    · rw [if_pos known] at found
      rw [known, Option.some.inj found]
      exact List.mem_cons_self
    · rw [if_neg known] at found
      exact List.mem_cons_of_mem _ (ih found)

/-! ### The last pair of a name -/

/-- **The last pair of a name** among some pairs has this value. -/
def Last (name : Text) (value : α) (pairs : List (Text × α)) : Prop :=
  ∃ earlier later, pairs = earlier ++ (name, value) :: later ∧ name ∉ later.map Prod.fst

theorem exists_last {name : Text} {pairs : List (Text × α)} (known : name ∈ pairs.map Prod.fst) :
    ∃ value, Last name value pairs := by
  induction pairs with
  | nil => cases known
  | cons pair pairs ih =>
    by_cases again : name ∈ pairs.map Prod.fst
    · obtain ⟨value, earlier, later, rfl, last⟩ := ih again
      exact ⟨value, pair :: earlier, later, rfl, last⟩
    · obtain rfl := (List.mem_cons.mp known).resolve_right again
      exact ⟨pair.2, [], pairs, rfl, again⟩

/-- **What is found under a name** in the fields of some pairs is the value of its last pair. -/
theorem get?_ofPairs_eq_some_iff {name : Text} {value : α} {pairs : List (Text × α)} :
    get? name (ofPairs pairs) = some value ↔ Last name value pairs := by
  have found : ∀ {value}, Last name value pairs → get? name (ofPairs pairs) = some value := by
    rintro value ⟨earlier, later, rfl, last⟩
    exact get?_ofPairs_append earlier name value last
  refine ⟨fun known => ?_, found⟩
  obtain ⟨other, last⟩ := exists_last (List.mem_map_of_mem (mem_ofPairs (mem_of_get? known)))
  rwa [Option.some.inj (known.symm.trans (found last))]

end AlarmFeed.Fields
