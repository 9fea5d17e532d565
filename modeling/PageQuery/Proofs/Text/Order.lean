import PageQuery.Text.Basic

namespace PageQuery.Text

/-!
# The order of texts

Texts are compared character by character.

* `le_total`, `le_trans`, `le_antisymm`: the comparison is a linear order;
* `mem_sort`, `pairwise_sort`, `nodup_sort`: sorting keeps the texts, and brings them into order;
* `sort_eq`: how different texts are sorted.
-/

variable {s t u : Text}

theorem le_cons_iff {a b : Char} :
    le (a :: s) (b :: t) = true ↔ a.toNat < b.toNat ∨ a = b ∧ le s t = true := by
  rw [le]
  split
  · next heq => simp [heq]
  · next hne =>
    have hother : a.toNat ≠ b.toNat := mt Char.toNat_inj.1 hne
    rw [decide_eq_true_eq, or_iff_left fun h => hne h.1]
    omega

theorem le_total (s t : Text) : le s t = true ∨ le t s = true := by
  induction s generalizing t with
  | nil => exact .inl rfl
  | cons a s ih =>
    cases t with
    | nil => exact .inr rfl
    | cons b t =>
      rw [le_cons_iff, le_cons_iff]
      rcases Nat.lt_trichotomy a.toNat b.toNat with hlt | heq | hlt
      · exact .inl (.inl hlt)
      · have hab := Char.toNat_inj.1 heq
        exact (ih t).imp (fun h => .inr ⟨hab, h⟩) fun h => .inr ⟨hab.symm, h⟩
      · exact .inr (.inl hlt)

theorem le_trans (hst : le s t = true) (htu : le t u = true) : le s u = true := by
  induction s generalizing t u with
  | nil => rfl
  | cons a s ih =>
    obtain _ | ⟨b, t⟩ := t
    · cases hst
    obtain _ | ⟨c, u⟩ := u
    · cases htu
    rw [le_cons_iff] at hst htu ⊢
    rcases hst with hab | ⟨rfl, hst⟩ <;> rcases htu with hbc | ⟨rfl, htu⟩
    · exact .inl (Nat.lt_trans hab hbc)
    · exact .inl hab
    · exact .inl hbc
    · exact .inr ⟨rfl, ih hst htu⟩

theorem le_antisymm (hst : le s t = true) (hts : le t s = true) : s = t := by
  induction s generalizing t with
  | nil =>
    cases t with
    | nil => rfl
    | cons b t => cases hts
  | cons a s ih =>
    obtain _ | ⟨b, t⟩ := t
    · cases hst
    rw [le_cons_iff] at hst hts
    rcases hst with hab | ⟨rfl, hst⟩ <;> rcases hts with hba | ⟨hba, hts⟩
    · omega
    · rw [hba] at hab
      exact absurd hab (Nat.lt_irrefl _)
    · exact absurd hba (Nat.lt_irrefl _)
    · rw [ih hst hts]

theorem le_of_lt (h : s < t) : le s t = true := by
  induction s generalizing t with
  | nil => rfl
  | cons a s ih =>
    obtain _ | ⟨b, t⟩ := t
    · exact absurd h (List.not_lt_nil _)
    rw [le_cons_iff]
    exact (List.cons_lt_cons_iff.1 h).imp id fun ⟨hab, hlt⟩ => ⟨hab, ih hlt⟩

/-! ### Sorting -/

theorem mem_sort {ts : List Text} : t ∈ sort ts ↔ t ∈ ts := List.mem_mergeSort

theorem pairwise_sort (ts : List Text) : (sort ts).Pairwise fun s t => le s t = true := by
  have htotal : ∀ s t : Text, (le s t || le t s) = true := fun s t => Bool.or_eq_true _ _ ▸ le_total s t
  exact @List.pairwise_mergeSort _ le (fun _ _ _ => le_trans) htotal ts

theorem nodup_sort {ts : List Text} (h : ts.Nodup) : (sort ts).Nodup := (List.mergeSort_perm ts le).nodup_iff.2 h

/-- Different texts are sorted into the order in which they rise. -/
theorem sort_eq {ts ms : List Text} (hts : ts.Nodup) (hms : ms.Pairwise (· < ·)) (hmem : ∀ t, t ∈ ms ↔ t ∈ ts) :
    sort ts = ms := by
  have hnodup : ms.Nodup := hms.imp fun hlt heq => absurd (heq ▸ hlt) (List.lt_irrefl _)
  have hperm : (sort ts).Perm ms :=
    (List.mergeSort_perm ts le).trans ((List.perm_ext_iff_of_nodup hts hnodup).2 fun t => (hmem t).symm)
  exact hperm.eq_of_pairwise (fun _ _ _ _ => le_antisymm) (pairwise_sort ts) (hms.imp le_of_lt)

end PageQuery.Text
