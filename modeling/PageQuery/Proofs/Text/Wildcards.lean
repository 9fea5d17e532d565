import PageQuery.Text.Basic

namespace PageQuery.Text

/-!
# What patterns fit

A pattern is made of characters that stand for themselves, of `?` for one character, and of `*` for any number of them.

* `Fits`: the texts that a pattern fits, when its wildcards stand for characters of some kind;
* `FitsKey`: the keys that it fits, in which the end of a line is special;
* `glob_iff`: what the search in a text finds out;
* `fitsKey_iff_of_notMem`: on one line the two are the same.
-/

/-- A pattern fits a text, where the wildcards stand for characters of one kind. -/
inductive Fits (stands : Char → Prop) : (pattern t : Text) → Prop where
  | nil : Fits stands [] []
  | star {pattern u t : Text} (hu : ∀ c ∈ u, stands c) (h : Fits stands pattern t) :
    Fits stands ('*' :: pattern) (u ++ t)
  | one {pattern t : Text} {c : Char} (hc : stands c) (h : Fits stands pattern t) :
    Fits stands ('?' :: pattern) (c :: t)
  | char {pattern t : Text} {c : Char} (hstar : c ≠ '*') (hone : c ≠ '?') (h : Fits stands pattern t) :
    Fits stands (c :: pattern) (c :: t)

/-- A pattern fits a key: no wildcard stands for a line feed, and a line feed at the end of the key does not count. -/
def FitsKey (pattern key : Text) : Prop :=
  ∃ t, Fits (· ≠ '\n') pattern t ∧ (key = t ∨ key = t ++ ['\n'])

/-- What the wildcards of a pattern may stand for only matters for the characters of the text. -/
theorem Fits.imp {stands stands' : Char → Prop} {pattern t : Text} (h : Fits stands pattern t)
    (himp : ∀ c ∈ t, stands c → stands' c) : Fits stands' pattern t := by
  induction h with
  | nil => exact .nil
  | star hu _ ih =>
    obtain ⟨hleft, hright⟩ := List.forall_mem_append.1 himp
    exact .star (fun c hc => hleft c hc (hu c hc)) (ih hright)
  | one hc _ ih =>
    obtain ⟨hfirst, hrest⟩ := List.forall_mem_cons.1 himp
    exact .one (hfirst hc) (ih hrest)
  | char hstar hone _ ih => exact .char hstar hone (ih (List.forall_mem_cons.1 himp).2)

/-- A pattern whose wildcards stand for each other fits itself. -/
theorem fits_self {stands : Char → Prop} (hstar : stands '*') (hone : stands '?') (pattern : Text) :
    Fits stands pattern pattern := by
  induction pattern with
  | nil => exact .nil
  | cons c pattern ih =>
    by_cases hc : c = '*'
    · subst hc
      exact .star (List.forall_mem_singleton.2 hstar) ih
    · by_cases hc' : c = '?'
      · subst hc'
        exact .one hone ih
      · exact .char hc hc' ih

/-! ### The parts of a pattern -/

variable {pattern key : Text} {c : Char}

theorem fitsKey_nil_iff : FitsKey [] key ↔ key = [] ∨ key = ['\n'] := by
  constructor
  · rintro ⟨t, ⟨⟩, h⟩
    exact h
  · exact fun h => ⟨[], .nil, h⟩

theorem fitsKey_star_iff :
    FitsKey ('*' :: pattern) key ↔ ∃ u t, key = u ++ t ∧ (∀ d ∈ u, d ≠ '\n') ∧ FitsKey pattern t := by
  constructor
  · rintro ⟨t, h, hkey⟩
    cases h with
    | star hu h =>
      rcases hkey with rfl | rfl
      · exact ⟨_, _, rfl, hu, _, h, .inl rfl⟩
      · exact ⟨_, _, List.append_assoc .., hu, _, h, .inr rfl⟩
    | char hstar => exact absurd rfl hstar
  · rintro ⟨u, _, rfl, hu, t, h, rfl | rfl⟩
    · exact ⟨_, .star hu h, .inl rfl⟩
    · exact ⟨_, .star hu h, .inr (List.append_assoc ..).symm⟩

theorem fitsKey_one_iff : FitsKey ('?' :: pattern) key ↔ ∃ d t, key = d :: t ∧ d ≠ '\n' ∧ FitsKey pattern t := by
  constructor
  · rintro ⟨t, h, hkey⟩
    cases h with
    | one hd h =>
      rcases hkey with rfl | rfl
      · exact ⟨_, _, rfl, hd, _, h, .inl rfl⟩
      · exact ⟨_, _, rfl, hd, _, h, .inr rfl⟩
    | char _ hone => exact absurd rfl hone
  · rintro ⟨d, _, rfl, hd, t, h, rfl | rfl⟩
    · exact ⟨_, .one hd h, .inl rfl⟩
    · exact ⟨_, .one hd h, .inr rfl⟩

theorem fitsKey_char_iff (hstar : c ≠ '*') (hone : c ≠ '?') :
    FitsKey (c :: pattern) key ↔ ∃ t, key = c :: t ∧ FitsKey pattern t := by
  constructor
  · rintro ⟨t, h, hkey⟩
    cases h with
    | star => exact absurd rfl hstar
    | one => exact absurd rfl hone
    | char _ _ h =>
      rcases hkey with rfl | rfl
      · exact ⟨_, rfl, _, h, .inl rfl⟩
      · exact ⟨_, rfl, _, h, .inr rfl⟩
  · rintro ⟨_, rfl, t, h, rfl | rfl⟩
    · exact ⟨_, .char hstar hone h, .inl rfl⟩
    · exact ⟨_, .char hstar hone h, .inr rfl⟩

/-! ### The search -/

/-- Some end of a text is accepted that is reached on the first line. -/
theorem anySuffix_iff {accepts : Text → Bool} {t : Text} :
    anySuffix accepts t = true ↔ ∃ u v, t = u ++ v ∧ (∀ d ∈ u, d ≠ '\n') ∧ accepts v = true := by
  induction t with
  | nil =>
    constructor
    · exact fun h => ⟨[], [], rfl, List.forall_mem_nil _, h⟩
    · rintro ⟨u, v, huv, -, h⟩
      rwa [(List.append_eq_nil_iff.1 huv.symm).2] at h
  | cons c t ih =>
    rw [anySuffix, Bool.or_eq_true, Bool.and_eq_true, bne_iff_ne, ih]
    constructor
    · rintro (h | ⟨hc, u, v, rfl, hu, h⟩)
      · exact ⟨[], c :: t, rfl, List.forall_mem_nil _, h⟩
      · exact ⟨c :: u, v, rfl, List.forall_mem_cons.2 ⟨hc, hu⟩, h⟩
    · rintro ⟨u, v, huv, hu, h⟩
      cases u with
      | nil =>
        obtain rfl : c :: t = v := huv
        exact .inl h
      | cons d u =>
        obtain ⟨rfl, rfl⟩ := List.cons.inj huv
        obtain ⟨hc, hu⟩ := List.forall_mem_cons.1 hu
        exact .inr ⟨hc, u, v, rfl, hu, h⟩

/-- The search accepts the keys that the pattern fits. -/
theorem glob_iff : glob pattern key = true ↔ FitsKey pattern key := by
  induction pattern generalizing key with
  | nil =>
    rw [fitsKey_nil_iff, glob]
    simp
  | cons c pattern ih =>
    by_cases hstar : c = '*'
    · subst hstar
      rw [fitsKey_star_iff, glob, anySuffix_iff]
      simp only [ih]
    · by_cases hone : c = '?'
      · subst hone
        rw [fitsKey_one_iff]
        cases key with
        | nil => simp [glob]
        | cons d t =>
          rw [glob, Bool.and_eq_true, bne_iff_ne, ih]
          exact ⟨fun h => ⟨d, t, rfl, h⟩, by rintro ⟨_, _, ⟨⟩, h⟩; exact h⟩
      · rw [fitsKey_char_iff hstar hone]
        cases key with
        | nil => simp [glob]
        | cons d t =>
          have hglob : glob (c :: pattern) (d :: t) = (c == d && glob pattern t) := by
            rw [glob] <;> assumption
          rw [hglob, Bool.and_eq_true, beq_iff_eq, ih]
          exact ⟨fun ⟨hcd, h⟩ => ⟨t, by rw [hcd], h⟩, by rintro ⟨_, ⟨⟩, h⟩; exact ⟨rfl, h⟩⟩

/-- In a text without line feeds, wildcards stand for anything. -/
theorem fitsKey_iff_of_notMem (h : '\n' ∉ key) : FitsKey pattern key ↔ Fits (fun _ => True) pattern key := by
  constructor
  · rintro ⟨t, hfits, rfl | rfl⟩
    · exact hfits.imp fun _ _ _ => trivial
    · exact absurd (by simp) h
  · exact fun hfits => ⟨key, hfits.imp fun d hd _ heq => h (heq ▸ hd), .inl rfl⟩

end PageQuery.Text
