import PageQuery.Validation.Distance
import Mathlib.Data.List.MinMax
import Mathlib.Order.Bounds.Basic

namespace PageQuery.Validation

/-!
# Distances between words

The distance of two words is the least number of changes of one character that turn the one into the other.
It is read off a table with a row for each start of the one word and a column for each start of the other, of
which only the last row is kept.

* `Change`, `Changes`: one character changed, and such changes one after the other;
* `gap`: the distance by recursion on both words, and `isLeast_gap`: no fewer changes will do;
* `tableRow`: a row of the table; `nextRow_tableRow` and `lastRow_tableRow`: the next one, and the last;
* `distance_eq_gap`: the distance that is computed is the one by recursion;
* `nearest_eq`: a scan for the nearest word finds the first of the nearest ones;
* `distance_isLeast`: distances and the words that are suggested.
-/

/-! ### Changes -/

/-- A character is put into a text, taken out of it, or replaced. -/
inductive Change : Text → Text → Prop where
  | insert (u v : Text) (c : Char) : Change (u ++ v) (u ++ c :: v)
  | delete (u v : Text) (c : Char) : Change (u ++ c :: v) (u ++ v)
  | substitute (u v : Text) (c d : Char) : Change (u ++ c :: v) (u ++ d :: v)

/-- A text is turned into another by a number of changes. -/
inductive Changes : Nat → Text → Text → Prop where
  | none (a : Text) : Changes 0 a a
  | more {n : Nat} {a b c : Text} : Change a b → Changes n b c → Changes (n + 1) a c

namespace Change

variable {a b : Text}

/-- A change can be taken back. -/
theorem symm (h : Change a b) : Change b a := by
  cases h with
  | insert u v c => exact .delete u v c
  | delete u v c => exact .insert u v c
  | substitute u v c d => exact .substitute u v d c

/-- A change can be made behind a character. -/
theorem cons (h : Change a b) (x : Char) : Change (x :: a) (x :: b) := by
  cases h with
  | insert u v c => exact .insert (x :: u) v c
  | delete u v c => exact .delete (x :: u) v c
  | substitute u v c d => exact .substitute (x :: u) v c d

/-- A change can be made in texts that are read backwards. -/
theorem reverse (h : Change a b) : Change a.reverse b.reverse := by
  cases h with
  | insert u v c => simpa using Change.insert v.reverse u.reverse c
  | delete u v c => simpa using Change.delete v.reverse u.reverse c
  | substitute u v c d => simpa using Change.substitute v.reverse u.reverse c d

end Change

namespace Changes

variable {m n : Nat} {a b c : Text}

theorem single (h : Change a b) : Changes 1 a b := .more h (.none b)

theorem trans (hab : Changes m a b) (hbc : Changes n b c) : Changes (m + n) a c := by
  induction hab with
  | none a => simpa using hbc
  | more h _ ih =>
    rw [Nat.add_right_comm]
    exact .more h (ih hbc)

theorem symm (h : Changes n a b) : Changes n b a := by
  induction h with
  | none a => exact .none a
  | more h _ ih => exact ih.trans (single h.symm)

/-- Changes can be made behind a character. -/
theorem cons (h : Changes n a b) (x : Char) : Changes n (x :: a) (x :: b) := by
  induction h with
  | none a => exact .none _
  | more h _ ih => exact .more (h.cons x) ih

/-- Changes can be made in texts that are read backwards. -/
theorem reverse (h : Changes n a b) : Changes n a.reverse b.reverse := by
  induction h with
  | none a => exact .none _
  | more h _ ih => exact .more h.reverse ih

/-- No changes leave a text as it is. -/
theorem zero_iff : Changes 0 a b ↔ a = b := by
  constructor
  · intro h
    cases h
    rfl
  · rintro rfl
    exact .none a

end Changes

/-! ### The distance by recursion -/

/-- The distance of two texts. Of the first characters the one is taken out, the other put in, or the one is
    replaced by the other, unless they are the same. -/
def gap : Text → Text → Nat
  | [], b => b.length
  | c :: a, [] => a.length + 1
  | c :: a, d :: b =>
    min (min (gap a (d :: b) + 1) (gap (c :: a) b + 1)) (gap a b + if c = d then 0 else 1)
termination_by a b => a.length + b.length

@[simp]
theorem gap_nil_left (b : Text) : gap [] b = b.length := by rw [gap]

@[simp]
theorem gap_nil_right (a : Text) : gap a [] = a.length := by
  cases a with
  | nil => rw [gap]
  | cons c a => rw [gap, List.length_cons]

theorem gap_cons_cons (c d : Char) (a b : Text) :
    gap (c :: a) (d :: b) =
      min (min (gap a (d :: b) + 1) (gap (c :: a) b + 1)) (gap a b + if c = d then 0 else 1) := by
  rw [gap]

theorem gap_self (a : Text) : gap a a = 0 := by
  induction a with
  | nil => rw [gap_nil_left, List.length_nil]
  | cons c a ih =>
    rw [gap_cons_cons, if_pos rfl, ih]
    omega

/-- A character that is put in at the front adds at most one. -/
theorem gap_insert_le (x v : Text) (c : Char) : gap x (c :: v) ≤ gap x v + 1 := by
  cases x with
  | nil => simp
  | cons e x =>
    rw [gap_cons_cons]
    omega

/-- A character that is taken out at the front adds at most one. -/
theorem gap_delete_le (x v : Text) (c : Char) : gap x v ≤ gap x (c :: v) + 1 := by
  induction x with
  | nil =>
    simp only [gap_nil_left, List.length_cons]
    omega
  | cons e x ih =>
    have hfront : gap (e :: x) v ≤ gap x v + 1 := by
      cases v with
      | nil => simp
      | cons f v =>
        rw [gap_cons_cons]
        omega
    rw [gap_cons_cons]
    omega

/-- A character that is replaced at the front adds at most one. -/
theorem gap_substitute_le (x v : Text) (c d : Char) : gap x (d :: v) ≤ gap x (c :: v) + 1 := by
  induction x with
  | nil => simp
  | cons e x ih =>
    have hreplaced : (if e = d then 0 else 1) ≤ 1 := by split <;> omega
    rw [gap_cons_cons, gap_cons_cons]
    omega

/-- What adds at most one to all distances adds at most one behind a character. -/
theorem gap_cons_le {a b : Text} (h : ∀ x, gap x b ≤ gap x a + 1) (e : Char) (x : Text) :
    gap x (e :: b) ≤ gap x (e :: a) + 1 := by
  induction x with
  | nil => simpa using h []
  | cons f x ih =>
    have hrest := h x
    have hsame := h (f :: x)
    rw [gap_cons_cons, gap_cons_cons]
    omega

/-- A change adds at most one to all distances. -/
theorem gap_change_le {a b : Text} (h : Change a b) (x : Text) : gap x b ≤ gap x a + 1 := by
  -- a change inside of a text is one at its front behind other characters
  have hbehind : ∀ (u : Text) {v w : Text}, (∀ x, gap x w ≤ gap x v + 1) →
      ∀ x, gap x (u ++ w) ≤ gap x (u ++ v) + 1 := by
    intro u v w hvw
    induction u with
    | nil => exact hvw
    | cons e u ih => exact gap_cons_le ih e
  cases h with
  | insert u v c => exact hbehind u (fun x => gap_insert_le x v c) x
  | delete u v c => exact hbehind u (fun x => gap_delete_le x v c) x
  | substitute u v c d => exact hbehind u (fun x => gap_substitute_le x v c d) x

/-- Changes add at most their number to all distances. -/
theorem gap_changes_le {n : Nat} {a b : Text} (h : Changes n a b) (x : Text) : gap x b ≤ gap x a + n := by
  induction h with
  | none a => exact Nat.le_refl _
  | more h _ ih =>
    have hfirst := gap_change_le h x
    omega

/-- All characters can be taken out. -/
theorem changes_nil (a : Text) : Changes a.length a [] := by
  induction a with
  | nil => exact .none []
  | cons c a ih => exact .more (.delete [] a c) ih

/-- A text is turned into another by as many changes as their distance says. -/
theorem changes_gap (a b : Text) : Changes (gap a b) a b := by
  fun_induction gap a b with
  | case1 b => exact (changes_nil b).symm
  | case2 c a => exact changes_nil (c :: a)
  | case3 c a d b ihdelete ihinsert ihboth =>
    have hdelete : Changes (gap a (d :: b) + 1) (c :: a) (d :: b) := .more (.delete [] a c) ihdelete
    have hinsert : Changes (gap (c :: a) b + 1) (c :: a) (d :: b) :=
      .more (.insert [] (c :: a) d) (ihinsert.cons d)
    have hboth : Changes (gap a b + if c = d then 0 else 1) (c :: a) (d :: b) := by
      split
      · next h => exact h ▸ ihboth.cons c
      · exact .more (.substitute [] a c d) (ihboth.cons d)
    rcases Nat.le_total (gap a b + if c = d then 0 else 1)
      (min (gap a (d :: b) + 1) (gap (c :: a) b + 1)) with hle | hle
    · rwa [Nat.min_eq_right hle]
    · rw [Nat.min_eq_left hle]
      rcases Nat.le_total (gap a (d :: b) + 1) (gap (c :: a) b + 1) with hle | hle
      · rwa [Nat.min_eq_left hle]
      · rwa [Nat.min_eq_right hle]

/-- The distance is the least number of changes. -/
theorem isLeast_gap (a b : Text) : IsLeast {n | Changes n a b} (gap a b) := by
  refine ⟨changes_gap a b, fun n hn => ?_⟩
  have hle := gap_changes_le hn a
  rwa [gap_self, Nat.zero_add] at hle

/-- Texts that are read backwards have the same distance. -/
theorem gap_reverse (a b : Text) : gap a.reverse b.reverse = gap a b := by
  have hle : ∀ a b : Text, gap a.reverse b.reverse ≤ gap a b := fun a b =>
    (isLeast_gap a.reverse b.reverse).2 (changes_gap a b).reverse
  refine Nat.le_antisymm (hle a b) ?_
  simpa using hle a.reverse b.reverse

/-! ### The table -/

/-- The entries of a row of the table behind the one for `read`: the distances of `a` from `read` with more and
    more characters of a text in front of it. Both are read backwards. -/
def tableRow (a : Text) : (read : Text) → Text → List Nat
  | _, [] => []
  | read, d :: b => gap a (d :: read) :: tableRow a (d :: read) b

/-- The first row counts the characters. -/
theorem range'_eq_tableRow (read b : Text) :
    List.range' (read.length + 1) b.length = tableRow [] read b := by
  induction b generalizing read with
  | nil => rfl
  | cons d b ih =>
    rw [List.length_cons, List.range'_succ, tableRow, gap_nil_left]
    exact congrArg (_ :: ·) (ih (d :: read))

/-- A row is followed by the row for one more character. -/
theorem nextRow_tableRow (c : Char) (a read b : Text) :
    nextRow c b (gap a read :: tableRow a read b) (gap (c :: a) read) = tableRow (c :: a) read b := by
  induction b generalizing read with
  | nil => rfl
  | cons d b ih =>
    have hhere : min (min (gap a (d :: read) + 1) (gap (c :: a) read + 1))
        (gap a read + if c = d then 0 else 1) = gap (c :: a) (d :: read) := (gap_cons_cons c d a read).symm
    rw [tableRow, nextRow, hhere, tableRow, ih (d :: read)]

/-- The last row is the one for all characters. -/
theorem lastRow_tableRow (read a b : Text) :
    lastRow b a (gap read [] :: tableRow read [] b) =
      gap (a.reverse ++ read) [] :: tableRow (a.reverse ++ read) [] b := by
  induction a generalizing read with
  | nil => rfl
  | cons c a ih =>
    have hleft : (gap read [] :: tableRow read [] b).headD 0 + 1 = gap (c :: read) [] := by simp
    rw [lastRow, hleft, nextRow_tableRow, ih (c :: read), List.reverse_cons, List.append_assoc,
      List.singleton_append]

/-- The last entry of a row is the distance from the whole text. -/
theorem getLastD_tableRow (a read b : Text) :
    (gap a read :: tableRow a read b).getLastD 0 = gap a (b.reverse ++ read) := by
  induction b generalizing read with
  | nil => rfl
  | cons d b ih =>
    have hlast : (gap a read :: tableRow a read (d :: b)).getLastD 0 =
        (gap a (d :: read) :: tableRow a (d :: read) b).getLastD 0 := by
      rw [tableRow, List.getLastD_cons, List.getLastD_cons, List.getLastD_cons]
    rw [hlast, ih (d :: read), List.reverse_cons, List.append_assoc, List.singleton_append]

/-- The distance is the last entry of the table. -/
theorem distance_eq_gap (a b : Text) : distance a b = gap a b := by
  have hfirst : List.range (b.length + 1) = gap [] [] :: tableRow [] [] b := by
    rw [← range'_eq_tableRow, gap_nil_left, List.range_eq_range', List.range'_succ]
    rfl
  have htable : (lastRow b a (List.range (b.length + 1))).getLastD 0 = gap a b := by
    rw [hfirst, lastRow_tableRow, getLastD_tableRow, List.append_nil, List.append_nil, gap_reverse]
  unfold distance
  split
  · next h => rw [h, gap_self]
  · split
    · next h => rw [List.isEmpty_iff.1 h, gap_nil_left]
    · split
      · next h => rw [List.isEmpty_iff.1 h, gap_nil_right]
      · exact htable

/-! ### The nearest words -/

/-- Of the words that are nearer than the best one so far the first of the nearest is found, if there are any. -/
theorem nearest_eq (word : Text) (best : Text × Nat) (options : List Text) :
    nearest word best options =
      (((options.argmin (distance word)).filter (distance word · < best.2)).map fun o =>
        (o, distance word o)).getD best := by
  induction options generalizing best with
  | nil => rfl
  | cons o options ih =>
    rw [nearest, ih, List.argmin_cons]
    cases options.argmin (distance word) with
    | none => by_cases ho : distance word o < best.2 <;> simp [Option.filter_some, ho]
    | some p =>
      -- the first word is kept unless a later one is nearer
      by_cases ho : distance word o < best.2
      · by_cases hp : distance word p < distance word o
        · have hbest : distance word p < best.2 := hp.trans ho
          simp [Option.filter_some, ho, hp, hbest]
        · simp [Option.filter_some, ho, hp]
      · by_cases hp : distance word p < distance word o
        · simp [Option.filter_some, ho, hp]
        · have hbest : ¬ distance word p < best.2 := by omega
          simp [Option.filter_some, ho, hp, hbest]

/-- The distance of two words is the least number of characters that must be put in, taken out or replaced to
    turn the one into the other; so it is zero for equal words only, the same in both directions, and not made
    shorter by a detour. The word that is suggested is the first of the nearest ones if that is within two
    changes, and empty otherwise. -/
theorem distance_isLeast (a b c word : Text) (options : List Text) :
    IsLeast {n | Changes n a b} (distance a b) ∧
      (distance a b = 0 ↔ a = b) ∧ distance a b = distance b a ∧
      distance a c ≤ distance a b + distance b c ∧
      suggest word options = ((options.argmin (distance word)).filter (distance word · ≤ 2)).getD [] := by
  have hleast : ∀ a b, IsLeast {n | Changes n a b} (distance a b) := fun a b =>
    distance_eq_gap a b ▸ isLeast_gap a b
  have hle : ∀ a b, distance b a ≤ distance a b := fun a b => (hleast b a).2 (hleast a b).1.symm
  refine ⟨hleast a b, ⟨fun h => ?_, ?_⟩, Nat.le_antisymm (hle b a) (hle a b),
    (hleast a c).2 ((hleast a b).1.trans (hleast b c).1), ?_⟩
  · exact Changes.zero_iff.1 (h ▸ (hleast a b).1)
  · rintro rfl
    exact Nat.le_zero.1 ((hleast a a).2 (.none a))
  · rw [suggest, nearest_eq]
    cases options.argmin (distance word) with
    | none => rfl
    | some o => by_cases ho : distance word o ≤ 2 <;> simp [Option.filter_some, nearness, Nat.lt_succ_iff, ho]

/-- Of two words at the same distance the first is suggested, and none that is too far away. -/
example :
    distance "jsn".toList "json".toList = 1 ∧ suggest "htm" ["html", "atm"] = "html".toList ∧
      suggest "div" ["html", "json"] = [] := by decide

end PageQuery.Validation
