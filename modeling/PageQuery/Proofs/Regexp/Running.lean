import PageQuery.Proofs.Text
import PageQuery.Regexp.Matching

namespace PageQuery.Regexp

/-!
# Running patterns

What patterns of single characters, in a row or repeated, do at a place of a text, where a place is given by the two
parts into which it cuts the text.

* `Cursor.split`: a place by the two parts of the text;
* `Charset.accepts_single_iff`, `Charset.accepts_any`: what sets of characters hold;
* `Pattern.run_one`, `Pattern.run_row_cons`, `Pattern.run_alt`: single characters, patterns in a row, and alternatives;
* `Pattern.run_star_lazy`, `Pattern.run_star_greedy`: repetitions as short and as long as may be;
* `Pattern.leftmost`: what is first told in the way of a scan from the left;
* `Pattern.map_searchFrom`: what is told of the first match is told first.
-/

namespace Cursor

/-- The place between two parts of a text. -/
def split (before after : Text) : Cursor := ⟨before.length, before.reverse, after⟩

theorem next_split (before : Text) (x : Char) (after : Text) :
    (split before (x :: after)).next = split (before ++ [x]) after := by
  simp [split, next]

/-- The text between two places. -/
theorem between_split (before x after : Text) :
    (split before (x ++ after)).between (split (before ++ x) after) = x := by
  simp [split, between]

end Cursor

open Cursor (split)

/-! ### Sets of characters -/

theorem Charset.accepts_single_iff {x c : Char} : (Charset.single .exact x.toNat).accepts c = true ↔ c = x := by
  simp [accepts, single, Item.accepts, Folding.variants, Char.toNat_inj, eq_comm]

theorem Charset.accepts_any (c : Char) : (Charset.any true).accepts c = true := rfl

namespace Pattern

/-! ### Characters in a row -/

theorem run_one (s : Charset) (before : Text) (x : Char) (after : Text) (g : Captures) (rest : Rest) :
    (one s).run (split before (x :: after)) g rest =
      if s.accepts x then rest (split (before ++ [x]) after) g else none := by
  rw [← Cursor.next_split]
  rfl

theorem run_row_cons (p : Pattern) (ps : List Pattern) (c : Cursor) (g : Captures) (rest : Rest) :
    (row (p :: ps)).run c g rest = p.run c g fun c' g' => (row ps).run c' g' rest := by
  cases ps with
  | nil => rfl
  | cons q qs => rfl

theorem run_alt (p q : Pattern) (c : Cursor) (g : Captures) (rest : Rest) :
    (alt p q).run c g rest = (p.run c g rest).or (q.run c g rest) := by
  simp only [run]
  cases p.run c g rest <;> rfl

/-! ### Repetitions -/

/-- The places in a text up to the first character that is not in a set. -/
def passing (s : Charset) : (before after : Text) → List Cursor
  | before, [] => [split before []]
  | before, x :: after => split before (x :: after) :: if s.accepts x then passing s (before ++ [x]) after else []

theorem placesOf_eq (s : Charset) (before after : Text) (passed : List Cursor) :
    placesOf s none after passed (split before after) = (passing s before after).reverse ++ passed := by
  induction after generalizing before passed with
  | nil => rfl
  | cons x after ih =>
    rw [placesOf, passing, Cursor.next_split, ih]
    cases s.accepts x <;> simp

theorem take_placesOf (s : Charset) (before after : Text) :
    let places := placesOf s none (split before after).after [] (split before after)
    places.take (places.length - 0) = (passing s before after).reverse := by
  have hplaces : placesOf s none (split before after).after [] (split before after) =
      (passing s before after).reverse ++ [] := placesOf_eq s before after []
  rw [hplaces, List.append_nil]
  exact List.take_length

/-- As few characters of a set as possible. -/
theorem run_star_lazy (s : Charset) (before after : Text) (g : Captures) (rest : Rest) :
    (star .lazy (one s)).run (split before after) g rest = (passing s before after).findSome? (rest · g) := by
  show (List.take _ _).reverse.findSome? _ = _
  rw [take_placesOf, List.reverse_reverse]

/-- As many characters of a set as there are, if the rest goes on from behind them when it goes on from a place in front
    of one of them. -/
theorem run_star_greedy (s : Charset) (before after : Text) (g : Captures) (rest : Rest)
    (hrest : rest (split (before ++ after.takeWhile s.accepts) (after.dropWhile s.accepts)) g = none →
      ∀ b x a, (x :: a).dropWhile s.accepts = after.dropWhile s.accepts → s.accepts x = true →
        rest (split b (x :: a)) g = none) :
    (star .greedy (one s)).run (split before after) g rest =
      rest (split (before ++ after.takeWhile s.accepts) (after.dropWhile s.accepts)) g := by
  have hplaces : (star .greedy (one s)).run (split before after) g rest =
      (passing s before after).reverse.findSome? (rest · g) := by
    show (List.take _ _).findSome? _ = _
    rw [take_placesOf]
  rw [hplaces]
  clear hplaces
  induction after generalizing before with
  | nil => simp [passing]
  | cons x after ih =>
    by_cases hx : s.accepts x = true
    · rw [List.takeWhile_cons_of_pos hx, List.dropWhile_cons_of_pos hx] at hrest ⊢
      rw [List.append_cons] at hrest ⊢
      rw [passing, if_pos hx, List.reverse_cons, List.findSome?_append,
        ih _ hrest]
      cases hlast : rest (split (before ++ [x] ++ after.takeWhile s.accepts) (after.dropWhile s.accepts)) g with
      | some r => rfl
      | none => simp [hrest hlast before x after (List.dropWhile_cons_of_pos hx) hx]
    · rw [passing, if_neg hx, List.takeWhile_cons_of_neg hx, List.dropWhile_cons_of_neg hx]
      simp

/-! ### Searching -/

/-- What is first told of a text or of one of its ends. -/
def leftmost {α : Type} (f : Text → Option α) : Text → Option α
  | [] => f []
  | x :: t => (f (x :: t)).or (leftmost f t)

section

variable {α : Type} {f : Text → Option α}

theorem leftmost_of_eq_some {t : Text} {a : α} (h : f t = some a) : leftmost f t = some a := by
  cases t with
  | nil => exact h
  | cons x t => rw [leftmost, h, Option.some_or]

/-- What is told first is told of some end of the text. -/
theorem exists_of_leftmost_eq_some {t : Text} {a : α} (h : leftmost f t = some a) : ∃ u, u <:+ t ∧ f u = some a := by
  induction t with
  | nil => exact ⟨[], List.suffix_rfl, h⟩
  | cons x t ih =>
    rcases Option.or_eq_some_iff.1 h with hfirst | ⟨-, hrest⟩
    · exact ⟨x :: t, List.suffix_rfl, hfirst⟩
    · obtain ⟨u, hu, hsome⟩ := ih hrest
      exact ⟨u, hu.trans (List.suffix_cons x t), hsome⟩

theorem isSome_leftmost_iff {t : Text} : (leftmost f t).isSome = true ↔ ∃ u, u <:+ t ∧ (f u).isSome = true := by
  constructor
  · intro h
    obtain ⟨a, ha⟩ := Option.isSome_iff_exists.1 h
    obtain ⟨u, hu, hsome⟩ := exists_of_leftmost_eq_some ha
    exact ⟨u, hu, hsome ▸ rfl⟩
  · rintro ⟨u, ⟨before, rfl⟩, hsome⟩
    obtain ⟨a, ha⟩ := Option.isSome_iff_exists.1 hsome
    induction before with
    | nil =>
      rw [List.nil_append, leftmost_of_eq_some ha]
      rfl
    | cons x before ih =>
      rw [List.cons_append, leftmost, Option.isSome_or, ih, Bool.or_true]

/-- Where nothing is told, the text begins later. -/
theorem leftmost_append {t u : Text} (h : ∀ x y, t = x ++ y → y ≠ [] → f (y ++ u) = none) :
    leftmost f (t ++ u) = leftmost f u := by
  induction t with
  | nil => rfl
  | cons c t ih =>
    have hfirst := h [] (c :: t) rfl (List.cons_ne_nil c t)
    rw [List.cons_append] at hfirst ⊢
    rw [leftmost, hfirst, Option.none_or]
    exact ih fun x y hsplit => h (c :: x) y (congrArg (c :: ·) hsplit)

end

/-- What is told of the matches at the places of a text is told of the first match. -/
theorem map_searchFrom {α β : Type} {p : Pattern} {told : Found → β} {f : Text → Option α} {tell : α → β}
    (hmatch : ∀ b a, (p.matchAt false (split b a)).map told = (f a).map tell) (before after : Text) :
    (searchFrom p after false (split before after)).map told = (leftmost f after).map tell := by
  induction after generalizing before with
  | nil => exact hmatch before []
  | cons x after ih =>
    rw [searchFrom, leftmost, Option.map_or, ← hmatch before (x :: after), ← ih (before ++ [x]), Cursor.next_split]
    cases p.matchAt false (split before (x :: after)) <;> rfl

end Pattern

end PageQuery.Regexp
