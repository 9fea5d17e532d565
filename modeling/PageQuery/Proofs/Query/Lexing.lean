import PageQuery.Query.Lexeme
import PageQuery.Proofs.Text

namespace PageQuery.Query

/-!
# The lexing of a text

The pieces of a text are found from the left: at each place either a separator is read as a whole, or one
character goes to the stretch of text before the next separator.

* `split_cons`, `split_append`: the pieces after a character that starts no separator, and after a
  separator;
* `lexing`: induction along the pieces of a text;
* `split_text`: nothing is lost;
* `Single`, `Unseparated`: separators that are single characters, and texts without them;
* `split_unseparated`, `split_append_cons`: the pieces of such a text, alone and in front of a separator;
* `split_join`, `cases_of_mem_split`: a text is cut at each of its separators, and nowhere else, if they are single
  characters.
-/

variable {seps : List Text}

/-! ### Leading separators -/

/-- The separator that is read is listed, and the text starts with it. -/
theorem leading?_eq_some {t s : Text} (h : leading? seps t = some s) : s ∈ seps ∧ s <+: t := by
  have hs : Text.startsWith s t = true := List.find?_some (p := fun s => Text.startsWith s t) h
  exact ⟨List.mem_of_find?_eq_some h, Text.startsWith_iff.1 hs⟩

/-- No separator is read where none is a prefix. -/
theorem leading?_eq_none {t : Text} : leading? seps t = none ↔ ∀ s ∈ seps, ¬ s <+: t := by
  simp [leading?, Text.startsWith_iff]

/-- A text from which no separator is read does not start with more than a prefix of itself does. -/
theorem leading?_none_of_prefixed {t u : Text} (hu : u <+: t) (h : leading? seps t = none) :
    leading? seps u = none :=
  leading?_eq_none.2 fun s hs hsu => leading?_eq_none.1 h s hs (hsu.trans hu)

/-- The separator that is read does not depend on what follows it. -/
theorem leading?_some_of_prefixed {t u s : Text} (hu : u <+: t) (hs : s <+: u)
    (h : leading? seps t = some s) : leading? seps u = some s := by
  induction seps with
  | nil => simp [leading?] at h
  | cons r seps ih =>
    simp only [leading?, List.find?_cons] at h ih ⊢
    by_cases hr : r <+: t
    · rw [Text.startsWith_iff.2 hr] at h
      obtain rfl : r = s := by simpa using h
      rw [Text.startsWith_iff.2 hs]
    · -- a separator that is tried before `s` and does not fit `t` does not fit what `t` starts with
      have hru : ¬ r <+: u := fun hp => hr (hp.trans hu)
      rw [Bool.eq_false_iff.2 (mt Text.startsWith_iff.1 hr)] at h
      rw [Bool.eq_false_iff.2 (mt Text.startsWith_iff.1 hru)]
      exact ih h

/-! ### The pieces of a text -/

/-- Characters that have been read are passed over. -/
theorem splitFrom_eq_split_drop (k : Nat) (t : Text) : splitFrom seps k t = split seps (t.drop k) := by
  induction t generalizing k with
  | nil => cases k <;> rfl
  | cons c t ih =>
    cases k with
    | zero => rfl
    | succ k => simpa [splitFrom] using ih k

@[simp] theorem split_nil : split seps [] = [] := rfl

/-- A character that starts no separator goes to the stretch of text that follows. -/
theorem split_cons {c : Char} {t : Text} (h : leading? seps (c :: t) = none) :
    split seps (c :: t) = attach c (split seps t) := by
  rw [split, splitFrom, h]
  rfl

/-- A separator is read as a whole. -/
theorem split_append {s t : Text} (hs : s ≠ []) (h : leading? seps (s ++ t) = some s) :
    split seps (s ++ t) = .separator s :: split seps t := by
  obtain ⟨c, s, rfl⟩ := List.exists_cons_of_ne_nil hs
  rw [split, List.cons_append, splitFrom, ← List.cons_append, h]
  simp [splitFrom_eq_split_drop]

/-- Induction along the pieces of a text. -/
theorem lexing (hseps : [] ∉ seps) {motive : Text → Prop} (nil : motive [])
    (character : ∀ c t, leading? seps (c :: t) = none → motive t → motive (c :: t))
    (separator : ∀ s t, s ∈ seps → leading? seps (s ++ t) = some s → motive t → motive (s ++ t))
    (t : Text) : motive t := by
  -- a separator takes several characters at once, so the induction is on the length
  induction hn : t.length using Nat.strongRecOn generalizing t with
  | ind n ih =>
    subst hn
    cases t with
    | nil => exact nil
    | cons c t =>
      cases h : leading? seps (c :: t) with
      | none => exact character c t h (ih t.length (by simp) t rfl)
      | some s =>
        obtain ⟨hs, u, hu⟩ := leading?_eq_some h
        have hne : s ≠ [] := fun e => hseps (e ▸ hs)
        have hlen : u.length < (c :: t).length := by
          have := List.length_pos_iff.2 hne
          rw [← hu, List.length_append]
          omega
        rw [← hu] at h ⊢
        exact separator s u hs h (ih u.length hlen u rfl)

/-- A character put before pieces is put before their text. -/
@[simp] theorem flatMap_text_attach (c : Char) (ls : List Lexeme) :
    (attach c ls).flatMap Lexeme.text = c :: ls.flatMap Lexeme.text := by
  cases ls with
  | nil => rfl
  | cons l ls => cases l <;> rfl

/-- The pieces of a text make up the text. -/
theorem split_text (hseps : [] ∉ seps) (t : Text) : (split seps t).flatMap Lexeme.text = t := by
  induction t using lexing hseps with
  | nil => rfl
  | character c t h ih => rw [split_cons h, flatMap_text_attach, ih]
  | separator s t hs h ih =>
    rw [split_append (fun e => hseps (e ▸ hs)) h, List.flatMap_cons, ih]
    rfl

/-! ### Separators of one character -/

section

/-- Separators that are single characters. -/
def Single (seps : List Text) : Prop := ∀ s ∈ seps, ∃ c, s = [c]

/-- A text in which no separator stands. -/
def Unseparated (seps : List Text) (t : Text) : Prop := ∀ c ∈ t, [c] ∉ seps

/-- The piece that a text without separators is, unless it is empty. -/
def stretch (t : Text) : List Lexeme := if t = [] then [] else [.plain t]

variable {c : Char} {t u : Text}

theorem leading?_of_notMem (hseps : Single seps) (hc : [c] ∉ seps) (t : Text) : leading? seps (c :: t) = none := by
  refine leading?_eq_none.2 fun s hs hprefixed => ?_
  obtain ⟨d, rfl⟩ := hseps s hs
  obtain ⟨rfl, -⟩ := List.cons_prefix_cons.1 hprefixed
  exact hc hs

theorem leading?_of_mem (hseps : Single seps) (hc : [c] ∈ seps) (t : Text) : leading? seps (c :: t) = some [c] := by
  cases h : leading? seps (c :: t) with
  | none => exact absurd (List.prefix_append [c] t) (leading?_eq_none.1 h [c] hc)
  | some s =>
    obtain ⟨hs, hprefixed⟩ := leading?_eq_some h
    obtain ⟨d, rfl⟩ := hseps s hs
    obtain ⟨rfl, -⟩ := List.cons_prefix_cons.1 hprefixed
    rfl

theorem attach_stretch (c : Char) (t : Text) : attach c (stretch t) = stretch (c :: t) := by
  cases t <;> rfl

theorem attach_stretch_append (c : Char) (t s : Text) (ls : List Lexeme) :
    attach c (stretch t ++ .separator s :: ls) = stretch (c :: t) ++ .separator s :: ls := by
  cases t <;> rfl

/-- A text without separators is one piece. -/
theorem split_unseparated (hseps : Single seps) (ht : Unseparated seps t) : split seps t = stretch t := by
  induction t with
  | nil => rfl
  | cons c t ih =>
    obtain ⟨hc, ht⟩ := List.forall_mem_cons.1 ht
    rw [split_cons (leading?_of_notMem hseps hc t), ih ht, attach_stretch]

/-- A text without separators is one piece in front of a separator, too. -/
theorem split_append_cons (hseps : Single seps) (hc : [c] ∈ seps) (ht : Unseparated seps t) (u : Text) :
    split seps (t ++ c :: u) = stretch t ++ .separator [c] :: split seps u := by
  induction t with
  | nil => exact split_append (List.cons_ne_nil c []) (leading?_of_mem hseps hc u)
  | cons d t ih =>
    obtain ⟨hd, ht⟩ := List.forall_mem_cons.1 ht
    rw [List.cons_append, split_cons (leading?_of_notMem hseps hd _), ih ht, attach_stretch_append]

/-- Texts that are joined with a separator are the pieces between these separators. -/
theorem split_join (hseps : Single seps) (hc : [c] ∈ seps) {ts : List Text} (ht : Unseparated seps t)
    (hts : ∀ u ∈ ts, Unseparated seps u) :
    split seps (Text.join [c] (t :: ts)) = stretch t ++ ts.flatMap fun u => .separator [c] :: stretch u := by
  induction ts generalizing t with
  | nil => rw [Text.join_singleton, split_unseparated hseps ht, List.flatMap_nil, List.append_nil]
  | cons u ts ih =>
    obtain ⟨hu, hts⟩ := List.forall_mem_cons.1 hts
    rw [Text.join_cons_cons, List.singleton_append, split_append_cons hseps hc ht, ih hu hts, List.flatMap_cons,
      List.cons_append]

/-- Every piece of a text is a separator, or free of separators. -/
theorem cases_of_mem_split (hseps : Single seps) (t : Text) :
    ∀ l ∈ split seps t, (∃ s ∈ seps, l = .separator s) ∨ ∃ u, Unseparated seps u ∧ l = .plain u := by
  have hnil : [] ∉ seps := fun h => by
    obtain ⟨c, hc⟩ := hseps _ h
    cases hc
  induction t using lexing hnil with
  | nil => exact List.forall_mem_nil _
  | character c t h ih =>
    have hc : [c] ∉ seps := fun hmem => by
      rw [leading?_of_mem hseps hmem] at h
      cases h
    have hone : Unseparated seps [c] := List.forall_mem_singleton.2 hc
    rw [split_cons h]
    cases hls : split seps t with
    | nil => exact List.forall_mem_singleton.2 (.inr ⟨_, hone, rfl⟩)
    | cons l ls =>
      obtain ⟨hl, hrest⟩ := List.forall_mem_cons.1 (hls ▸ ih)
      cases l with
      | separator s => exact List.forall_mem_cons.2 ⟨.inr ⟨_, hone, rfl⟩, List.forall_mem_cons.2 ⟨hl, hrest⟩⟩
      | plain u =>
        obtain ⟨v, hv, heq⟩ : ∃ v, Unseparated seps v ∧ Lexeme.plain u = .plain v := by simpa using hl
        cases heq
        exact List.forall_mem_cons.2 ⟨.inr ⟨_, List.forall_mem_cons.2 ⟨hc, hv⟩, rfl⟩, hrest⟩
  | separator s t hs h ih =>
    rw [split_append (fun he => hnil (he ▸ hs)) h]
    exact List.forall_mem_cons.2 ⟨.inl ⟨s, hs, rfl⟩, ih⟩

end

end PageQuery.Query
