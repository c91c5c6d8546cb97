/-
**Cutting texts and joining the pieces.**

`Text.splitOn` and `Text.joinWith` are the library's `List.splitOn` and `List.intercalate`
(`splitOn_eq`, `joinWith_eq`), so the laws of those two carry over:

* `splitOn_joinWith` — pieces that hold no separator are what their joined text is cut into;
* `splitOn_append_cut` — a text that starts with a piece and a separator is cut there first;
* `length_splitOn` — there is one piece more than there are separators;
* `not_cut_of_mem_splitWhen` — no piece holds a code point of the class that cuts;
* `eq_append_of_after?` — what stands behind a start is the rest of the text;
* `cutAt?_eq_none`, `trim_eq_self` — a text without what it is cut at or trimmed of stays whole.
-/

import AlarmFeed.Text.Basic

namespace AlarmFeed.Text

/-! ### The library's functions -/

theorem splitWhen_eq (cut : CodePoint → Bool) (t : Text) : splitWhen cut t = List.splitOnP cut t := by
  induction t with
  | nil => rfl
  | cons c rest ih =>
    rw [splitWhen, List.splitOnP_cons_eq_if_modifyHead, ih]
    obtain ⟨piece, pieces, found⟩ := List.exists_cons_of_ne_nil (List.splitOnP_ne_nil cut rest)
    rw [found]
    rfl

theorem splitOn_eq (separator : CodePoint) (t : Text) :
    splitOn separator t = List.splitOn separator t :=
  splitWhen_eq _ t

theorem joinWith_eq (separator : Text) (pieces : List Text) :
    joinWith separator pieces = separator.intercalate pieces := by
  induction pieces with
  | nil => rfl
  | cons piece pieces ih =>
    cases pieces with
    | nil => simp [joinWith]
    | cons next pieces => rw [joinWith, ih, List.intercalate_cons_cons, List.append_assoc]

/-! ### Cutting -/

section Cutting

variable {separator : CodePoint}

/-- The first separator ends the first piece. -/
theorem splitOn_append_cut {piece : Text} (free : separator ∉ piece) (rest : Text) :
    splitOn separator (piece ++ separator :: rest) = piece :: splitOn separator rest := by
  rw [splitOn_eq, splitOn_eq, List.splitOn_append_cons_self_of_not_mem free]

/-- **Joining and cutting again** gives the pieces back. -/
theorem splitOn_joinWith {pieces : List Text} (some : pieces ≠ [])
    (free : ∀ piece ∈ pieces, separator ∉ piece) :
    splitOn separator (joinWith [separator] pieces) = pieces := by
  rw [splitOn_eq, joinWith_eq, List.splitOn_intercalate separator free some]

/-- A text without separators is one piece. -/
theorem splitOn_of_free {t : Text} (free : separator ∉ t) : splitOn separator t = [t] := by
  have alone : ∀ piece ∈ [t], separator ∉ piece := fun _ member => List.mem_singleton.mp member ▸ free
  show splitOn separator (joinWith [separator] [t]) = [t]
  exact splitOn_joinWith (List.cons_ne_nil _ _) alone

/-- Each separator makes one piece more. -/
theorem length_splitOn (t : Text) : (splitOn separator t).length = t.count separator + 1 := by
  rw [splitOn_eq]
  induction t with
  | nil => rfl
  | cons c rest ih =>
    rw [List.splitOn_cons_eq_if_modifyHead, List.count_cons]
    split
    · rw [List.length_cons, ih]
    · rw [List.length_modifyHead, ih, Nat.add_zero]

end Cutting

/-- **Nothing that cuts is left in a piece.** -/
theorem not_cut_of_mem_splitWhen {cut : CodePoint → Bool} {t piece : Text}
    (member : piece ∈ splitWhen cut t) : ∀ c ∈ piece, cut c = false := by
  induction t generalizing piece with
  | nil =>
    rw [splitWhen, List.mem_singleton] at member
    intro c inside
    rw [member] at inside
    cases inside
  | cons d rest ih =>
    intro c inside
    rw [splitWhen] at member
    split at member
    · rcases List.mem_cons.mp member with rfl | later
      · cases inside
      · exact ih later c inside
    · rename_i stays
      have front : ∀ c ∈ [d], cut c = false := fun c only =>
        Bool.not_eq_true _ ▸ (List.mem_singleton.mp only ▸ stays)
      split at member
      · rw [List.mem_singleton.mp member] at inside
        exact front c inside
      · rename_i first pieces found
        rw [found] at ih
        rcases List.mem_cons.mp member with rfl | later
        · rcases List.mem_cons.mp inside with rfl | inside
          · exact front c List.mem_cons_self
          · exact ih List.mem_cons_self c inside
        · exact ih (List.mem_cons_of_mem _ later) c inside

theorem not_mem_of_mem_splitOn {separator : CodePoint} {t piece : Text}
    (member : piece ∈ splitOn separator t) : separator ∉ piece := by
  intro inside
  have stays := not_cut_of_mem_splitWhen member separator inside
  rw [beq_self_eq_true] at stays
  cases stays

/-! ### Joining -/

/-- A code point of the joined text stands in a piece or in the separator. -/
theorem mem_joinWith {separator : Text} {pieces : List Text} {c : CodePoint}
    (found : c ∈ joinWith separator pieces) : c ∈ separator ∨ ∃ piece ∈ pieces, c ∈ piece := by
  induction pieces with
  | nil => cases found
  | cons piece pieces ih =>
    cases pieces with
    | nil => exact Or.inr ⟨piece, List.mem_cons_self, found⟩
    | cons next pieces =>
      rw [joinWith, List.mem_append, List.mem_append] at found
      rcases found with (here | between) | later
      · exact Or.inr ⟨piece, List.mem_cons_self, here⟩
      · exact Or.inl between
      · rcases ih later with between | ⟨other, member, inside⟩
        · exact Or.inl between
        · exact Or.inr ⟨other, List.mem_cons_of_mem _ member, inside⟩

/-- A code point of a piece stands in the joined text. -/
theorem mem_joinWith_of_mem {separator piece : Text} {pieces : List Text} {c : CodePoint}
    (among : piece ∈ pieces) (inside : c ∈ piece) : c ∈ joinWith separator pieces := by
  induction pieces with
  | nil => cases among
  | cons first pieces ih =>
    cases pieces with
    | nil => exact List.mem_singleton.mp among ▸ inside
    | cons next pieces =>
      rw [joinWith, List.mem_append, List.mem_append]
      rcases List.mem_cons.mp among with rfl | later
      · exact Or.inl (Or.inl inside)
      · exact Or.inr (ih later)

/-- Joining is injective on lists of pieces that hold no separator. -/
theorem joinWith_injective {separator : CodePoint} {first second : List Text}
    (someFirst : first ≠ []) (someSecond : second ≠ [])
    (freeFirst : ∀ piece ∈ first, separator ∉ piece)
    (freeSecond : ∀ piece ∈ second, separator ∉ piece)
    (same : joinWith [separator] first = joinWith [separator] second) : first = second := by
  rw [← splitOn_joinWith someFirst freeFirst, same, splitOn_joinWith someSecond freeSecond]

/-! ### Starts -/

/-- **What stands behind a start** is the rest of the text. -/
theorem eq_append_of_after? {start t rest : Text} (found : after? start t = some rest) :
    t = start ++ rest := by
  induction start generalizing t with
  | nil => exact Option.some.inj found
  | cons s start ih =>
    cases t with
    | nil => cases found
    | cons c t =>
      rw [after?] at found
      by_cases same : s = c
      · rw [if_pos same] at found
        rw [same, ih found, List.cons_append]
      · rw [if_neg same] at found
        cases found

/-! ### What stays whole -/

theorem cutAt?_eq_none {separator : CodePoint} {t : Text} (free : separator ∉ t) :
    cutAt? separator t = none := by
  induction t with
  | nil => rfl
  | cons c rest ih =>
    obtain ⟨other, free⟩ := List.ne_and_not_mem_of_not_mem_cons free
    rw [cutAt?, if_neg other.symm, ih free, Option.map_none]

theorem dropWhile_eq_self {drop : CodePoint → Bool} {t : Text}
    (first : ∀ c ∈ t.head?, drop c = false) : t.dropWhile drop = t := by
  cases t with
  | nil => rfl
  | cons c rest => rw [List.dropWhile_cons_of_neg (by rw [first c rfl]; exact Bool.false_ne_true)]

theorem trimEnd_eq_self {drop : CodePoint → Bool} {t : Text} (last : ∀ c ∈ t.getLast?, drop c = false) :
    trimEnd drop t = t := by
  rw [List.getLast?_eq_head?_reverse] at last
  rw [trimEnd, dropWhile_eq_self last, List.reverse_reverse]

/-- **A text is trimmed of nothing** if neither its first nor its last code point is dropped. -/
theorem trim_eq_self {drop : CodePoint → Bool} {t : Text} (first : ∀ c ∈ t.head?, drop c = false)
    (last : ∀ c ∈ t.getLast?, drop c = false) : trim drop t = t := by
  rw [trim, dropWhile_eq_self first, trimEnd_eq_self last]

end AlarmFeed.Text
