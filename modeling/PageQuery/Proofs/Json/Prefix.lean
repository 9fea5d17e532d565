import Mathlib.Data.List.TakeWhile
import PageQuery.Proofs.Json.RoundTrip

namespace PageQuery.Json

/-!
# Reading does not look ahead

What has been read from a text is read from every longer text too, up to the same place: nothing that follows a closing
bracket can change what stands in front of it. So a text in brackets is not the beginning of another one.

* `StopsNumber`: texts in front of which a number has ended, whatever is added to them;
* `units_append`, `number_append`, `atom_append`: texts, numbers and words;
* `Extends`: readers that read from a longer text what they read from a text;
* `extends_value`, `extends_items`, `extends_members`: values in rows, and rows;
* `exists_of_read_list`, `exists_of_read_map`: what is read from a text in brackets;
* `isBlank_of_read_append`: whole texts in brackets.
-/

variable {rest : Text}

/-- A text in front of which a number has ended, whatever is added to the text. -/
def StopsNumber (rest : Text) : Prop := rest ≠ [] ∧ EndsNumber rest

theorem StopsNumber.append (h : StopsNumber rest) (z : Text) : StopsNumber (rest ++ z) := by
  obtain ⟨hne, hends⟩ := h
  obtain ⟨c, u, rfl⟩ := List.exists_cons_of_ne_nil hne
  exact ⟨List.cons_ne_nil c (u ++ z), hends⟩

/-! ### White space -/

theorem skip_append {t : Text} (h : skip t ≠ []) (z : Text) : skip (t ++ z) = skip t ++ z := by
  rw [skip, List.dropWhile_append, ← skip, List.isEmpty_eq_false_iff.2 h]
  rfl

theorem skip_append_cons {t u : Text} {c : Char} (h : skip t = c :: u) (z : Text) :
    skip (t ++ z) = c :: (u ++ z) := by
  rw [skip_append (by simp [h]), h, List.cons_append]

/-- A number has ended in front of white space and what ends a part. -/
theorem stopsNumber_of_skip {c : Char} {u : Text} (hc : c.isDigit = false ∧ c ≠ '.' ∧ c ≠ 'e' ∧ c ≠ 'E')
    (h : skip rest = c :: u) : StopsNumber rest := by
  have hsplit : rest.takeWhile isGap ++ c :: u = rest := h ▸ List.takeWhile_append_dropWhile
  refine ⟨fun hnil => ?_, ?_⟩
  · rw [hnil] at h
    cases h
  · rw [← hsplit]
    exact .gap (fun c hc => List.mem_takeWhile_imp hc) (endsNumber_cons hc u)

/-! ### Texts -/

/-- What is read up to a closing quote. -/
theorem units_append {start : Nat} {t : Text} {us : List Nat} (h : units start t = .ok (us, rest)) (start' : Nat)
    (z : Text) : units start' (t ++ z) = .ok (us, rest ++ z) := by
  fun_induction units start t generalizing us with
  | case2 t =>
    cases h
    rfl
  | case5 a b c d e t n hcode ih =>
    obtain ⟨⟨us', after⟩, hread, hus⟩ := bind_eq_ok_iff.1 h
    cases hus
    have hmore := ih hread
    simp only [List.cons_append] at hmore ⊢
    rw [units, hcode]
    simp only [hmore]
    rfl
  | case8 c t hcode hletter x hescaped ih =>
    obtain ⟨⟨us', after⟩, hread, hus⟩ := bind_eq_ok_iff.1 h
    cases hus
    simp only [List.cons_append]
    rw [units, if_neg hletter, hescaped]
    · simp only [ih hread]
      rfl
    · exact fun a b c d e u hc _ => hletter (beq_iff_eq.2 hc)
  | case10 c t hquote hlast hcode hslash hplain ih =>
    obtain ⟨⟨us', after⟩, hread, hus⟩ := bind_eq_ok_iff.1 h
    cases hus
    have hslash : c ≠ '\\' := by
      rintro rfl
      cases t with
      | nil => exact hlast rfl rfl
      | cons d t => exact hslash d t rfl rfl
    rw [List.cons_append, units, if_neg hplain, ih hread]
    · rfl
    · exact hquote
    · exact fun h => absurd h hslash
    · exact fun _ _ _ _ _ _ h => absurd h hslash
    · exact fun _ _ h => absurd h hslash
  | _ => cases h

theorem string_append {t s : Text} (h : string t = .ok (s, rest)) (z : Text) :
    string (t ++ z) = .ok (s, rest ++ z) := by
  obtain ⟨⟨us, after⟩, hread, hs⟩ := bind_eq_ok_iff.1 h
  cases hs
  rw [string, units_append hread]
  rfl

/-! ### Numbers -/

/-- Digits end where other characters follow. -/
theorem digits_append {t : Text} (h : t.dropWhile Char.isDigit ≠ []) (z : Text) :
    (t ++ z).takeWhile Char.isDigit = t.takeWhile Char.isDigit ∧
      (t ++ z).dropWhile Char.isDigit = t.dropWhile Char.isDigit ++ z := by
  induction t with
  | nil => exact absurd rfl h
  | cons c t ih =>
    by_cases hc : c.isDigit = true
    · rw [List.dropWhile_cons_of_pos hc] at h
      simp [hc, ih h]
    · simp [hc]

theorem wholeDigits?_append {t whole : Text} (h : wholeDigits? t = some (whole, rest)) (hne : rest ≠ []) (z : Text) :
    wholeDigits? (t ++ z) = some (whole, rest ++ z) := by
  fun_cases wholeDigits? t with
  | case1 t =>
    cases h
    rfl
  | case2 c t hzero hc =>
    rw [wholeDigits?, if_pos hc] at h
    · cases h
      rw [List.cons_append, wholeDigits?, if_pos hc, (digits_append hne z).1, (digits_append hne z).2]
      exact hzero
    · exact hzero
  | case3 c t hzero hc =>
    rw [wholeDigits?, if_neg hc] at h
    · cases h
    · exact hzero
  | case4 => cases h

theorem fraction_append {t places : Text} (h : fraction t = (some places, rest)) (hne : rest ≠ []) (z : Text) :
    fraction (t ++ z) = (some places, rest ++ z) := by
  unfold fraction at h
  split at h
  · next d t =>
    split at h
    · next hd =>
      cases h
      simp only [List.cons_append, fraction, if_pos hd, digits_append hne z]
    · cases h
  · cases h

theorem sign_append {t : Text} (hne : t ≠ []) (z : Text) :
    Numeral.sign (t ++ z) = ((Numeral.sign t).1, (Numeral.sign t).2 ++ z) := by
  fun_cases Numeral.sign t with
  | case1 => rfl
  | case2 => rfl
  | case3 t hminus hplus =>
    obtain ⟨c, t, rfl⟩ := List.exists_cons_of_ne_nil hne
    rw [List.cons_append, Numeral.sign]
    · exact fun u h => hminus t (by rw [(List.cons.inj h).1])
    · exact fun u h => hplus t (by rw [(List.cons.inj h).1])

theorem exponent_append {t : Text} {n : Int} (h : exponent t = (some n, rest)) (hne : rest ≠ []) (z : Text) :
    exponent (t ++ z) = (some n, rest ++ z) := by
  unfold exponent at h
  split at h
  · next e t =>
    split at h
    · next he =>
      dsimp only at h
      split at h
      · cases h
      · next hdigits =>
        have ht : t ≠ [] := by
          rintro rfl
          exact hdigits rfl
        cases h
        simp only [List.cons_append, exponent, if_pos he, sign_append ht, digits_append hne z]
        rw [if_neg hdigits]
    · cases h
  · cases h

theorem eq_of_fraction_eq_none {t : Text} (h : fraction t = (none, rest)) : rest = t := by
  unfold fraction at h
  split at h
  · split at h
    · cases h
    · exact (Prod.mk.inj h).2.symm
  · exact (Prod.mk.inj h).2.symm

theorem eq_of_exponent_eq_none {t : Text} (h : exponent t = (none, rest)) : rest = t := by
  unfold exponent at h
  split at h
  · split at h
    · dsimp only at h
      split at h
      · exact (Prod.mk.inj h).2.symm
      · cases h
    · exact (Prod.mk.inj h).2.symm
  · exact (Prod.mk.inj h).2.symm

/-- Where an exponent starts, no fraction does. -/
theorem fraction_of_exponent {t : Text} {n : Int} (h : exponent t = (some n, rest)) (z : Text) :
    fraction (t ++ z) = (none, t ++ z) := by
  unfold fraction
  split
  · next d u hpoint =>
    cases t with
    | nil => cases h
    | cons e t =>
      obtain rfl := (List.cons.inj hpoint).1
      cases h
  · rfl

theorem number_append {negative : Bool} {whole t : Text} {s : Scalar} (h : number negative whole t = .ok (s, rest))
    (hrest : StopsNumber rest) (z : Text) : number negative whole (t ++ z) = .ok (s, rest ++ z) := by
  have hends := (hrest.append z).2
  have hne := hrest.1
  unfold number at h
  rcases hfraction : fraction t with ⟨_ | places, t₁⟩ <;> rcases hexponent : exponent t₁ with ⟨_ | power, t₂⟩ <;>
    simp only [hfraction, hexponent] at h
  · split at h
    · cases h
    · next hshort =>
      cases h
      rw [number_whole negative (Nat.le_of_not_lt hshort) hends]
  · obtain rfl := eq_of_fraction_eq_none hfraction
    cases h
    simp only [number, fraction_of_exponent hexponent, exponent_append hexponent hne]
  · obtain rfl := eq_of_exponent_eq_none hexponent
    cases h
    simp only [number, fraction_append hfraction hne, exponent_of_endsNumber hends]
  · cases h
    have hmore : t₁ ≠ [] := by
      rintro rfl
      cases hexponent
    simp only [number, fraction_append hfraction hmore, exponent_append hexponent hne]

/-- What a word or a number is: a word, or digits with or without a sign. -/
theorem atom_cases {t : Text} {s : Scalar} (h : atom t = .ok (s, rest)) :
    (∃ word : Text, t = word ++ rest ∧ ∀ u, atom (word ++ u) = .ok (s, u)) ∨
      ∃ negative body whole u, t = (if negative then '-' :: body else body) ∧ wholeDigits? body = some (whole, u) ∧
        number negative whole u = .ok (s, rest) := by
  unfold atom at h
  iterate 6
    split at h
    · next hword =>
      cases h
      exact .inl ⟨_, Text.after?_eq_some_iff.1 hword, fun _ => rfl⟩
  refine .inr ?_
  split at h
  next negative body hsign =>
    split at h
    · next whole u hwhole =>
      refine ⟨negative, body, whole, u, ?_, hwhole, h⟩
      split at hsign <;> cases hsign <;> rfl
    · cases h

theorem exists_of_wholeDigits? {t whole : Text} (h : wholeDigits? t = some (whole, rest)) :
    ∃ c u, t = c :: u ∧ c.isDigit = true := by
  unfold wholeDigits? at h
  split at h
  · exact ⟨'0', _, rfl, rfl⟩
  · split at h
    · next hc => exact ⟨_, _, rfl, hc⟩
    · cases h
  · cases h

/-- Words and numbers. -/
theorem atom_append {t : Text} {s : Scalar} (h : atom t = .ok (s, rest)) (hrest : StopsNumber rest) (z : Text) :
    atom (t ++ z) = .ok (s, rest ++ z) := by
  rcases atom_cases h with ⟨word, rfl, hword⟩ | ⟨negative, body, whole, u, rfl, hwhole, hnumber⟩
  · rw [List.append_assoc, hword]
  · have hne : u ≠ [] := by
      rintro rfl
      simp only [number, fraction_of_endsNumber endsNumber_nil, exponent_of_endsNumber endsNumber_nil] at hnumber
      split at hnumber
      · cases hnumber
      · cases hnumber
        exact hrest.1 rfl
    have hmore := wholeDigits?_append hwhole hne z
    have hread := number_append hnumber hrest z
    obtain ⟨c, v, rfl, hc⟩ := exists_of_wholeDigits? hwhole
    rw [List.cons_append] at hmore
    cases negative with
    | false =>
      show atom (c :: (v ++ z)) = _
      rw [(atom_digit hc (v ++ z)).1, hmore]
      exact hread
    | true =>
      show atom ('-' :: c :: (v ++ z)) = _
      rw [(atom_digit hc (v ++ z)).2, hmore]
      exact hread

/-! ### Values -/

/-- A reader reads from a longer text what it reads from a text, if what is left over is as it should be. -/
def Extends {α : Type} (read : Nat → Text → Reading (α × Text)) (P : Text → Prop) (fuel : Nat) : Prop :=
  ∀ ⦃t a rest⦄, read fuel t = .ok (a, rest) → P rest → ∀ ⦃fuel'⦄, fuel ≤ fuel' → ∀ z,
    read fuel' (t ++ z) = .ok (a, rest ++ z)

/-- What ends a part of a row stops numbers. -/
theorem stops_comma : ','.isDigit = false ∧ ',' ≠ '.' ∧ ',' ≠ 'e' ∧ ',' ≠ 'E' := by decide

theorem stops_bracket : ']'.isDigit = false ∧ ']' ≠ '.' ∧ ']' ≠ 'e' ∧ ']' ≠ 'E' := by decide

theorem stops_brace : '}'.isDigit = false ∧ '}' ≠ '.' ∧ '}' ≠ 'e' ∧ '}' ≠ 'E' := by decide

/-- Nothing is read from the empty text. -/
theorem value_nil (fuel : Nat) : value fuel [] = fail .expectingValue [] := by
  cases fuel <;> rfl

theorem items_nil (fuel : Nat) : items fuel [] = fail .expectingValue [] := by
  cases fuel with
  | zero => rfl
  | succ fuel =>
    rw [items, value_nil]
    rfl

theorem members_nil (fuel : Nat) : members fuel [] = fail .expectingName [] := by
  cases fuel <;> rfl

section

variable {fuel : Nat}

theorem extends_items (hvalue : Extends value StopsNumber fuel) (hitems : Extends items (fun _ => True) fuel) :
    Extends items (fun _ => True) (fuel + 1) := by
  intro t vs rest h _ fuel' hfuel z
  obtain ⟨fuel', rfl⟩ := Nat.exists_eq_add_of_le' (Nat.le_trans (Nat.le_add_left 1 fuel) hfuel)
  have hfuel := Nat.le_of_succ_le_succ hfuel
  rw [items] at h ⊢
  obtain ⟨⟨v, after⟩, hv, h⟩ := bind_eq_ok_iff.1 h
  dsimp only at h
  split at h
  · next u hskip =>
    cases h
    rw [hvalue hv (stopsNumber_of_skip stops_bracket hskip) hfuel]
    simp only [bind, Except.bind, skip_append_cons hskip]
    rfl
  · next u hskip =>
    obtain ⟨⟨ws, after'⟩, hws, h⟩ := bind_eq_ok_iff.1 h
    cases h
    have hu : skip u ≠ [] := fun hnil => by
      rw [hnil, items_nil] at hws
      cases hws
    rw [hvalue hv (stopsNumber_of_skip stops_comma hskip) hfuel]
    simp only [bind, Except.bind, skip_append_cons hskip, skip_append hu, hitems hws trivial hfuel]
    rfl
  · cases h

theorem extends_members (hvalue : Extends value StopsNumber fuel) (hmembers : Extends members (fun _ => True) fuel) :
    Extends members (fun _ => True) (fuel + 1) := by
  intro t es rest h _ fuel' hfuel z
  obtain ⟨fuel', rfl⟩ := Nat.exists_eq_add_of_le' (Nat.le_trans (Nat.le_add_left 1 fuel) hfuel)
  have hfuel := Nat.le_of_succ_le_succ hfuel
  unfold members at h
  split at h
  · next t =>
    obtain ⟨⟨key, after⟩, hkey, h⟩ := bind_eq_ok_iff.1 h
    dsimp only at h
    split at h
    · next u hcolon =>
      obtain ⟨⟨v, after'⟩, hv, h⟩ := bind_eq_ok_iff.1 h
      dsimp only at h
      have hu : skip u ≠ [] := fun hnil => by
        rw [hnil, value_nil] at hv
        cases hv
      rw [List.cons_append, members, string_append hkey]
      simp only [bind, Except.bind, skip_append_cons hcolon, skip_append hu]
      split at h
      · next u' hskip =>
        cases h
        rw [hvalue hv (stopsNumber_of_skip stops_brace hskip) hfuel]
        simp only [skip_append_cons hskip]
        rfl
      · next u' hskip =>
        obtain ⟨⟨fs, after''⟩, hfs, h⟩ := bind_eq_ok_iff.1 h
        cases h
        have hu' : skip u' ≠ [] := fun hnil => by
          rw [hnil, members_nil] at hfs
          cases hfs
        rw [hvalue hv (stopsNumber_of_skip stops_comma hskip) hfuel]
        simp only [skip_append_cons hskip, skip_append hu', hmembers hfs trivial hfuel]
        rfl
      · cases h
    · cases h
  · cases h

/-- Lists, whatever is left over. -/
theorem value_list_append (hitems : Extends items (fun _ => True) fuel) {t : Text} {v : Value}
    (h : value (fuel + 1) ('[' :: t) = .ok (v, rest)) {fuel' : Nat} (hfuel : fuel ≤ fuel') (z : Text) :
    value (fuel' + 1) ('[' :: (t ++ z)) = .ok (v, rest ++ z) := by
  cases hskip : skip t with
  | nil =>
    rw [value, hskip] at h
    simp only [items_nil] at h
    cases h
  | cons c u =>
    have hmore := skip_append_cons hskip z
    by_cases hc : c = ']'
    · subst hc
      rw [value, hskip] at h
      cases h
      rw [value, hmore]
      rfl
    · rw [value_list hc hskip] at h
      obtain ⟨⟨vs, after⟩, hvs, heq⟩ := map_eq_ok_iff.1 h
      cases heq
      rw [value_list hc hmore, ← List.cons_append, hitems hvs trivial hfuel]
      rfl

/-- Maps, whatever is left over. -/
theorem value_map_append (hmembers : Extends members (fun _ => True) fuel) {t : Text} {v : Value}
    (h : value (fuel + 1) ('{' :: t) = .ok (v, rest)) {fuel' : Nat} (hfuel : fuel ≤ fuel') (z : Text) :
    value (fuel' + 1) ('{' :: (t ++ z)) = .ok (v, rest ++ z) := by
  cases hskip : skip t with
  | nil =>
    rw [value, hskip] at h
    simp only [members_nil] at h
    cases h
  | cons c u =>
    have hmore := skip_append_cons hskip z
    by_cases hc : c = '}'
    · subst hc
      rw [value, hskip] at h
      cases h
      rw [value, hmore]
      rfl
    · rw [value_map hc hskip] at h
      obtain ⟨⟨es, after⟩, hes, heq⟩ := map_eq_ok_iff.1 h
      cases heq
      rw [value_map hc hmore, ← List.cons_append, hmembers hes trivial hfuel]
      rfl

theorem extends_value (hitems : Extends items (fun _ => True) fuel) (hmembers : Extends members (fun _ => True) fuel) :
    Extends value StopsNumber (fuel + 1) := by
  intro t v rest h hrest fuel' hfuel z
  obtain ⟨fuel', rfl⟩ := Nat.exists_eq_add_of_le' (Nat.le_trans (Nat.le_add_left 1 fuel) hfuel)
  have hfuel := Nat.le_of_succ_le_succ hfuel
  cases t with
  | nil =>
    rw [value_nil] at h
    cases h
  | cons c t =>
    by_cases hlist : c = '['
    · subst hlist
      exact value_list_append hitems h hfuel z
    by_cases hmap : c = '{'
    · subst hmap
      exact value_map_append hmembers h hfuel z
    by_cases hquote : c = '"'
    · subst hquote
      rw [value] at h
      obtain ⟨⟨s, after⟩, hs, heq⟩ := bind_eq_ok_iff.1 h
      cases heq
      rw [List.cons_append, value, string_append hs]
      rfl
    · rw [value_atom hquote hlist hmap] at h
      obtain ⟨⟨s, after⟩, hs, heq⟩ := map_eq_ok_iff.1 h
      cases heq
      rw [List.cons_append, value_atom hquote hlist hmap, ← List.cons_append, atom_append hs hrest]
      rfl

end

/-- Reading does not look ahead: values in rows, and rows. -/
theorem extends_all (fuel : Nat) : Extends value StopsNumber fuel ∧ Extends items (fun _ => True) fuel ∧
    Extends members (fun _ => True) fuel := by
  induction fuel with
  | zero => exact ⟨nofun, nofun, nofun⟩
  | succ fuel ih =>
    obtain ⟨hvalue, hitems, hmembers⟩ := ih
    exact ⟨extends_value hitems hmembers, extends_items hvalue hitems, extends_members hvalue hmembers⟩

/-- A text in brackets is read if nothing but white space is left over. -/
theorem read_bracketed_iff {c : Char} (hc : c = '[' ∨ c = '{') {t : Text} {v : Value} :
    read (c :: t) = .ok v ↔ ∃ rest, value (2 * (c :: t).length + 2) (c :: t) = .ok (v, rest) ∧ skip rest = [] := by
  have hmark : ((c :: t).head? == some (Char.ofNat 0xFEFF)) = false := by
    rcases hc with rfl | rfl <;> rfl
  have hskip : skip (c :: t) = c :: t := by
    rcases hc with rfl | rfl <;> rfl
  simp only [read, hmark, hskip, Bool.false_eq_true, if_false]
  cases value (2 * (c :: t).length + 2) (c :: t) with
  | error f =>
    refine iff_of_false (fun h => by cases h) ?_
    rintro ⟨rest, h, -⟩
    cases h
  | ok r =>
    obtain ⟨w, rest⟩ := r
    dsimp only
    split
    · next hrest => simp [hrest]
    · next hrest => simpa using fun _ => hrest

/-- What is read from a text in braces is a map. -/
theorem exists_of_read_map {t : Text} {v : Value} (h : read ('{' :: t) = .ok v) : ∃ es, v = .map es := by
  obtain ⟨rest, hvalue, -⟩ := (read_bracketed_iff (.inr rfl)).1 h
  rw [value] at hvalue
  split at hvalue
  · cases hvalue
    exact ⟨[], rfl⟩
  · obtain ⟨⟨es, after⟩, -, heq⟩ := bind_eq_ok_iff.1 hvalue
    cases heq
    exact ⟨_, rfl⟩

/-- What is read from a text in square brackets is a list. -/
theorem exists_of_read_list {t : Text} {v : Value} (h : read ('[' :: t) = .ok v) : ∃ vs, v = .list vs := by
  obtain ⟨rest, hvalue, -⟩ := (read_bracketed_iff (.inl rfl)).1 h
  rw [value] at hvalue
  split at hvalue
  · cases hvalue
    exact ⟨[], rfl⟩
  · obtain ⟨⟨vs, after⟩, -, heq⟩ := bind_eq_ok_iff.1 hvalue
    cases heq
    exact ⟨_, rfl⟩

/-- A text in brackets that is read is not the beginning of another one, but for white space. -/
theorem isBlank_of_read_append {c : Char} (hc : c = '[' ∨ c = '{') {t z : Text} {v v' : Value}
    (h : read (c :: t) = .ok v) (h' : read (c :: (t ++ z)) = .ok v') : IsBlank z := by
  obtain ⟨rest, hvalue, hrest⟩ := (read_bracketed_iff hc).1 h
  obtain ⟨rest', hvalue', hrest'⟩ := (read_bracketed_iff hc).1 h'
  have hlength : 2 * (c :: t).length + 1 ≤ 2 * (c :: (t ++ z)).length + 1 := by
    simp only [List.length_cons, List.length_append]
    omega
  obtain ⟨-, hitems, hmembers⟩ := extends_all (2 * (c :: t).length + 1)
  have hmore : value (2 * (c :: (t ++ z)).length + 2) (c :: (t ++ z)) = .ok (v, rest ++ z) := by
    rcases hc with rfl | rfl
    · exact value_list_append hitems hvalue hlength z
    · exact value_map_append hmembers hvalue hlength z
  obtain ⟨-, rfl⟩ := Prod.mk.inj (Except.ok.inj (hvalue'.symm.trans hmore))
  have hblank : ∀ x ∈ rest ++ z, isGap x = true := List.dropWhile_eq_nil_iff.1 hrest'
  exact fun x hx => hblank x (List.mem_append_right rest hx)

end PageQuery.Json
