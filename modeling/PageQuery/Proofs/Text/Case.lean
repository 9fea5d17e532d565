import PageQuery.Proofs.Text
import PageQuery.Text.Case

namespace PageQuery.Text

/-!
# Laws of lower case

* `codeSet`: a list of codes as one number, so that long tables are compared by one operation on bits;
* `lowerPairs`: the table of lower-case characters, code by code;
* `lower_lower`: a text in lower case stays as it is;
* `IsUncased`, `count_lower`: characters that lower case neither changes nor brings in, such as the punctuation of ASCII.
-/

/-! ### Sets of codes -/

/-- The number in which the bits at some places are set. -/
def codeSet (ns : List Nat) : Nat := ns.foldr (fun n bits => bits ||| 1 <<< n) 0

theorem testBit_codeSet (ns : List Nat) (n : Nat) : (codeSet ns).testBit n = decide (n ∈ ns) := by
  induction ns with
  | nil => simp [codeSet]
  | cons m ns ih =>
    have hcons : codeSet (m :: ns) = codeSet ns ||| 1 <<< m := rfl
    rw [hcons, Nat.testBit_or, ih, Nat.one_shiftLeft, Nat.testBit_two_pow]
    by_cases h : m = n
    · simp [h]
    · have h' : n ≠ m := fun e => h e.symm
      simp [h, h']

/-- Sets without a common bit have no common code. -/
theorem notMem_of_codeSet {ms ns : List Nat} (h : codeSet ms &&& codeSet ns = 0) : ∀ n ∈ ms, n ∉ ns := by
  intro n hms hns
  have hbit : (codeSet ms &&& codeSet ns).testBit n = true := by
    rw [Nat.testBit_and, testBit_codeSet, testBit_codeSet]
    simp [hms, hns]
  rw [h, Nat.zero_testBit] at hbit
  cases hbit

/-! ### The table of lower case -/

/-- The codes that a run maps, each with the code that it is mapped to. -/
def runPairs (run : Nat × Nat × Nat × Int) : List (Nat × Nat) :=
  let (lo, hi, step, offset) := run
  (List.range ((hi - lo) / step + 1)).map fun k => (lo + k * step, ((lo + k * step : Nat) + offset).toNat)

/-- A code that is mapped is in one of the runs. -/
theorem exists_of_mapped?_eq_some {rs : List (Nat × Nat × Nat × Int)} {n : Nat} {c : Char} (h : mapped? rs n = some c) :
    ∃ m, (n, m) ∈ rs.flatMap runPairs ∧ c = Char.ofNat m := by
  rw [mapped?, Option.map_eq_some_iff] at h
  obtain ⟨⟨lo, hi, step, offset⟩, hfind, rfl⟩ := h
  have hrun := List.find?_some hfind
  simp only [Bool.and_eq_true, decide_eq_true_eq, beq_iff_eq] at hrun
  obtain ⟨⟨hlo, hhi⟩, hstep⟩ := hrun
  have hplace : lo + (n - lo) / step * step = n := by
    have hdiv := Nat.div_add_mod' (n - lo) step
    omega
  have hlt : (n - lo) / step < (hi - lo) / step + 1 :=
    Nat.lt_succ_of_le (Nat.div_le_div_right (Nat.sub_le_sub_right hhi lo))
  refine ⟨_, List.mem_flatMap.2 ⟨_, List.mem_of_find?_eq_some hfind, ?_⟩, rfl⟩
  refine List.mem_map.2 ⟨(n - lo) / step, List.mem_range.2 hlt, ?_⟩
  simp only [hplace]

/-- The codes outside ASCII that have a lower case, each with that of its lower case. -/
def lowerPairs : List (Nat × Nat) := lowerRuns.flatMap runPairs

/-- The codes of ASCII but for the small letters. -/
def asciiRest : List Nat := List.range 97 ++ List.range' 123 5

/-- Nothing is mapped to a code that is itself mapped, nor to a capital letter or a sign of ASCII. -/
theorem lowered_apart : ∀ n ∈ lowerPairs.map (·.2), n ∉ lowerPairs.map (·.1) ++ asciiRest :=
  notMem_of_codeSet (by decide +kernel)

/-- Everything is mapped to the code of a character. -/
theorem lowered_valid : ∀ n ∈ lowerPairs.map (·.2), n.isValidChar := by
  have hall : (lowerPairs.all fun p => Nat.blt p.2 0xD800 || (Nat.blt 0xDFFF p.2 && Nat.blt p.2 0x110000)) = true := by
    decide +kernel
  refine List.forall_mem_map.2 fun p hp => ?_
  simpa [Nat.isValidChar] using List.all_eq_true.1 hall p hp

/-- A character outside ASCII either stays, or it and its lower case are in the table. -/
theorem lowerChar_cases {c : Char} (h : 128 ≤ c.toNat) :
    lowerChar c = c ∨ (c.toNat, (lowerChar c).toNat) ∈ lowerPairs := by
  rw [lowerChar, if_neg (Nat.not_lt.2 h)]
  cases hmapped : mapped? lowerRuns c.toNat with
  | none => exact .inl rfl
  | some d =>
    obtain ⟨m, hm, rfl⟩ := exists_of_mapped?_eq_some hmapped
    have hvalid := lowered_valid m (List.mem_map.2 ⟨_, hm, rfl⟩)
    refine .inr ?_
    have hcode : (Char.ofNat m).toNat = m := by
      rw [Char.ofNat, dif_pos hvalid]
      rfl
    rwa [Option.getD_some, hcode]

/-- In ASCII, a character stays or becomes a small letter, and small letters stay. -/
theorem lowerChar_ascii {c : Char} (h : c.toNat < 128) :
    lowerChar c = c ∨ ((lowerChar c).isLower = true ∧ lowerChar (lowerChar c) = lowerChar c) := by
  refine of_toNat_lt h ?_
  decide +kernel

/-! ### Lower case stays -/

/-- A character in lower case stays. -/
theorem lowerChar_lowerChar (c : Char) : lowerChar (lowerChar c) = lowerChar c := by
  have hstays : ∀ d, lowerChar d = d → lowerChar (lowerChar d) = lowerChar d := fun d hd => by rw [hd, hd]
  by_cases hc : c.toNat < 128
  · exact (lowerChar_ascii hc).elim (hstays c) (·.2)
  rcases lowerChar_cases (Nat.not_lt.1 hc) with h | hpair
  · exact hstays c h
  generalize lowerChar c = d at hpair
  have hapart := lowered_apart d.toNat (List.mem_map.2 ⟨_, hpair, rfl⟩)
  rw [List.mem_append, not_or] at hapart
  by_cases hd : d.toNat < 128
  · -- all that is mapped into ASCII is mapped to small letters
    have hsmall : d.toNat ∉ asciiRest → lowerChar d = d := of_toNat_lt hd (by decide +kernel)
    exact hsmall hapart.2
  · refine (lowerChar_cases (Nat.not_lt.1 hd)).resolve_right fun hagain => hapart.1 ?_
    exact List.mem_map.2 ⟨_, hagain, rfl⟩

/-- A text in which every character is in lower case stays. -/
theorem lower_of_forall {t : Text} (h : ∀ c ∈ t, lowerChar c = c) : lower t = t := by
  -- the two characters with rules of their own have a lower case
  have hsigma : lowerChar 'Σ' ≠ 'Σ' := by decide +kernel
  have hdotted : lowerChar 'İ' ≠ 'İ' := by decide +kernel
  have hafter : ∀ before, lowerAfter before t = t := by
    induction t with
    | nil => exact fun _ => rfl
    | cons c t ih =>
      intro before
      obtain ⟨hc, ht⟩ := List.forall_mem_cons.1 h
      have hc₁ : c ≠ 'Σ' := fun e => hsigma (e ▸ hc)
      have hc₂ : c ≠ 'İ' := fun e => hdotted (e ▸ hc)
      simp [lowerAfter, hc₁, hc₂, hc, ih ht]
  exact hafter []

/-- The lower case of a character in a text is that of the character alone, but for a sigma, which may be one at the end
    of a word, and a capital with a dot above, which becomes two characters. -/
theorem lowerAfter_cons (before : Text) (c : Char) (t : Text) :
    ∃ low, lowerAfter before (c :: t) = low ++ lowerAfter (c :: before) t ∧
      (low = [lowerChar c] ∨ (c ∈ ['Σ', 'İ'] ∧ ∀ d ∈ low, d ∈ ['ς', 'σ', 'i', Char.ofNat 0x307])) := by
  refine ⟨_, rfl, ?_⟩
  by_cases hsigma : c = 'Σ'
  · refine .inr ⟨by simp [hsigma], ?_⟩
    rw [hsigma]
    simp only [beq_self_eq_true, if_true]
    split <;> simp
  · by_cases hdotted : c = 'İ'
    · refine .inr ⟨by simp [hdotted], ?_⟩
      simp [hdotted]
    · exact .inl (by simp [hsigma, hdotted])

/-- Every character of a text in lower case stays. -/
theorem lowerChar_of_mem_lower {t : Text} {c : Char} (h : c ∈ lower t) : lowerChar c = c := by
  have hsmall : ∀ d ∈ ['ς', 'σ', 'i', Char.ofNat 0x307], lowerChar d = d := forall_mem_of_all (by decide +kernel)
  have hafter : ∀ before, c ∈ lowerAfter before t → lowerChar c = c := by
    clear h
    induction t with
    | nil => exact fun _ h => absurd h List.not_mem_nil
    | cons d t ih =>
      intro before h
      obtain ⟨low, heq, hlow⟩ := lowerAfter_cons before d t
      rw [heq, List.mem_append] at h
      rcases h with h | h
      · rcases hlow with rfl | ⟨-, hothers⟩
        · rw [List.mem_singleton.1 h]
          exact lowerChar_lowerChar d
        · exact hsmall c (hothers c h)
      · exact ih _ h
  exact hafter [] h

/-- A text in lower case stays as it is. -/
theorem lower_lower (t : Text) : lower (lower t) = lower t :=
  lower_of_forall fun _ hc => lowerChar_of_mem_lower hc

/-! ### Characters without case -/

/-- A character that stays in lower case, and that nothing else becomes. -/
structure IsUncased (d : Char) : Prop where
  stays : lowerChar d = d
  only : ∀ c, lowerChar c = d → c = d
  ordinary : d ∉ ['Σ', 'İ', 'ς', 'σ', 'i', Char.ofNat 0x307]

/-- A character that stays, and that neither a letter of ASCII nor one in the table becomes. -/
theorem isUncased_of_notMem {d : Char} (hstays : lowerChar d = d) (hlower : d.isLower = false)
    (hnew : d.toNat ∉ lowerPairs.map (·.2)) (hordinary : d ∉ ['Σ', 'İ', 'ς', 'σ', 'i', Char.ofNat 0x307]) :
    IsUncased d where
  stays := hstays
  only := by
    rintro c rfl
    by_cases hc : c.toNat < 128
    · refine ((lowerChar_ascii hc).resolve_right fun h => ?_).symm
      rw [hlower] at h
      cases h.1
    · refine ((lowerChar_cases (Nat.not_lt.1 hc)).resolve_right fun hpair => hnew ?_).symm
      exact List.mem_map.2 ⟨_, hpair, rfl⟩
  ordinary := hordinary

/-- The signs and digits of ASCII have no case. -/
theorem isUncased_of_ascii {d : Char} (hascii : d.toNat < 128) (halpha : d.isAlpha = false) : IsUncased d := by
  have hd : d.isAlpha = false → lowerChar d = d ∧ d.isLower = false ∧ d.toNat ∈ asciiRest ∧
      d ∉ ['Σ', 'İ', 'ς', 'σ', 'i', Char.ofNat 0x307] := of_toNat_lt hascii (by decide +kernel)
  obtain ⟨hstays, hlower, hrest, hordinary⟩ := hd halpha
  refine isUncased_of_notMem hstays hlower (fun hnew => ?_) hordinary
  exact lowered_apart d.toNat hnew (List.mem_append_right _ hrest)

/-- Lower case keeps the characters without case, each as often as it stands there. -/
theorem count_lower {d : Char} (h : IsUncased d) (t : Text) : (lower t).count d = t.count d := by
  have hafter : ∀ before, (lowerAfter before t).count d = t.count d := by
    induction t with
    | nil => exact fun _ => rfl
    | cons c t ih =>
      intro before
      obtain ⟨low, heq, hlow⟩ := lowerAfter_cons before c t
      rw [heq, List.count_append, ih, List.count_cons, Nat.add_comm]
      refine congrArg (t.count d + ·) ?_
      rcases hlow with rfl | ⟨hc, hothers⟩
      · rw [List.count_singleton]
        by_cases hcd : c = d
        · simp [hcd, h.stays]
        · have hlow : lowerChar c ≠ d := fun e => hcd (h.only c e)
          simp [hcd, hlow]
      · have hnew : d ∉ low := fun hd => h.ordinary (List.mem_append_right ['Σ', 'İ'] (hothers d hd))
        have hold : c ≠ d := fun e => h.ordinary (List.mem_append_left ['ς', 'σ', 'i', Char.ofNat 0x307] (e ▸ hc))
        simp [List.count_eq_zero.2 hnew, hold]
  exact hafter []

theorem mem_lower_iff {d : Char} (h : IsUncased d) {t : Text} : d ∈ lower t ↔ d ∈ t := by
  rw [← List.count_pos_iff, ← List.count_pos_iff, count_lower h]

end PageQuery.Text
