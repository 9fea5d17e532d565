import PageQuery.Text.Basic

namespace PageQuery.Text

/-!
# Laws of texts

* `forall_mem_of_all`: what holds of all characters of a text can be decided by going through the text;
* `of_toNat_lt`: what holds of characters with small codes can be decided by going through the codes;
* `toNat_of_isUpper`, `toNat_of_isLower`, `toNat_of_isAlphanum`: where letters and digits stand among the characters;
* `startsWith_iff`: starting with a text is having it as a prefix;
* `trim_concat`, `trim_cons`: white space at an end does not count for trimming;
* `trim_infix`, `trim_trim`: a trimmed text stands inside the text, and has nothing left to be trimmed;
* `exists_eq_append_trim`: around a trimmed text there was white space;
* `trim_of_forall`, `trim_enclosed`: a text without white space, or without white space at either end, has nothing to be
  trimmed;
* `cut_append`, `eq_of_cut_eq_some`, `cut_fst_eq_iff`: where a text is cut, and what stands in front;
* `cut_cases`, `cutLast_cases`: a text is cut at its first, or its last, separator if it has one;
* `pieces_of_forall`, `pieces_append_cons`: a text that is one piece, and the pieces on both sides of a separator;
* `split_of_notMem`, `split_append_cons`: the pieces of a text that starts with one;
* `splitting`: induction along the pieces of a text;
* `join_cons_cons`, `exists_join_cons`, `getLast?_join`: parts that are joined;
* `join_split`: the pieces of a text are joined to the text again;
* `split_join`: what joined parts are read as, if each of them is read on its own;
* `replace_append`, `replace_cons`: what is replaced at the start of a text;
* `replace_append_cons`, `getLast?_replace`: what is replaced around a character, and what a text ends with then;
* `eq_of_find?_eq_some`, `exists_find?_of_prefixed`: where a text is found, and that it is found where it stands or before.
-/

/-- What holds of each character of a text holds of all of them. Unlike the statement about all, the test does not
    ask for a decision over all characters that there are. -/
theorem forall_mem_of_all {t : Text} {P : Char → Prop} [DecidablePred P]
    (h : (t.all fun c => decide (P c)) = true) : ∀ c ∈ t, P c :=
  fun c hc => of_decide_eq_true (List.all_eq_true.1 h c hc)

/-- What can be decided of the characters of all small codes holds of each character with a small code. -/
@[elab_as_elim]
theorem of_toNat_lt {n : Nat} {P : Char → Prop} {c : Char} (hc : c.toNat < n) (h : ∀ k < n, P (Char.ofNat k)) : P c := by
  have hk := h c.toNat hc
  rwa [Char.ofNat_toNat] at hk

/-! ### Letters and digits -/

section

variable {c : Char}

theorem toNat_of_isUpper (h : c.isUpper = true) : 65 ≤ c.toNat ∧ c.toNat ≤ 90 := by
  have hcodes : decide (65 ≤ c.val ∧ c.val ≤ 90) = true := h
  simpa [UInt32.le_iff_toNat_le] using hcodes

theorem toNat_of_isLower (h : c.isLower = true) : 97 ≤ c.toNat ∧ c.toNat ≤ 122 := by
  have hcodes : (decide (97 ≤ c.val) && decide (c.val ≤ 122)) = true := h
  simpa [UInt32.le_iff_toNat_le] using hcodes

/-- The letters and digits of ASCII stand between the digit zero and the letter z. -/
theorem toNat_of_isAlphanum (h : c.isAlphanum = true) : 48 ≤ c.toNat ∧ c.toNat ≤ 122 := by
  have hkinds : (c.isUpper || c.isLower || (decide (48 ≤ c.val) && decide (c.val ≤ 57))) = true := h
  rw [Bool.or_eq_true, Bool.or_eq_true] at hkinds
  rcases hkinds with (hupper | hlower) | hdigit
  · have hrange := toNat_of_isUpper hupper
    omega
  · have hrange := toNat_of_isLower hlower
    omega
  · have hrange : 48 ≤ c.toNat ∧ c.toNat ≤ 57 := by simpa [UInt32.le_iff_toNat_le] using hdigit
    omega

end

/-! ### Prefixes -/

/-- What follows a lead is what is left of the text without it. -/
theorem after?_eq_some_iff {lead t rest : Text} : after? lead t = some rest ↔ t = lead ++ rest := by
  induction lead generalizing t with
  | nil => simp [after?, eq_comm]
  | cons a lead ih =>
    cases t with
    | nil => simp [after?]
    | cons b t =>
      by_cases h : a = b
      · simp [after?, h, ih]
      · have h' : b ≠ a := fun e => h e.symm
        simp [after?, h, h']

/-- A text starts with another if that is a prefix of it. -/
theorem startsWith_iff {lead t : Text} : startsWith lead t = true ↔ lead <+: t := by
  rw [startsWith, Option.isSome_iff_exists]
  simp only [after?_eq_some_iff]
  exact exists_congr fun _ => eq_comm

/-! ### Trimming -/

/-- White space at the end does not count for trimming at the end. -/
theorem dropEndWhile_concat {p : Char → Bool} {c : Char} (hc : p c = true) (t : Text) :
    dropEndWhile p (t ++ [c]) = dropEndWhile p t := by
  induction t with
  | nil => simp [dropEndWhile, hc]
  | cons d t ih => simp only [List.cons_append, dropEndWhile, ih]

/-- What is left after dropping from the end stands at the start. -/
theorem dropEndWhile_prefixed (p : Char → Bool) (t : Text) : dropEndWhile p t <+: t := by
  induction t with
  | nil => exact List.prefix_rfl
  | cons c t ih =>
    rw [dropEndWhile]
    split
    · split
      · exact List.nil_prefix
      · exact ⟨t, rfl⟩
    · exact (List.prefix_cons_inj c).2 ih

/-- What is dropped from the end is what is to be dropped. -/
theorem exists_eq_dropEndWhile_append (p : Char → Bool) (t : Text) :
    ∃ tail, tail.all p = true ∧ t = dropEndWhile p t ++ tail := by
  induction t with
  | nil => exact ⟨[], rfl, rfl⟩
  | cons c t ih =>
    obtain ⟨tail, htail, ht⟩ := ih
    rw [dropEndWhile]
    split
    · next hnil =>
      rw [hnil, List.nil_append] at ht
      by_cases hc : p c
      · exact ⟨c :: t, by simp [hc, ht, htail], by simp [hc]⟩
      · exact ⟨t, by rw [ht, htail], by simp [hc]⟩
    · exact ⟨tail, htail, congrArg (c :: ·) ht⟩

/-- White space at the start does not count for trimming. -/
theorem trim_cons {c : Char} (hc : isSpace c = true) (t : Text) : trim (c :: t) = trim t := by
  simp [trim, trimLeft, hc]

/-- White space at the end does not count for trimming. -/
theorem trim_concat {c : Char} (hc : isSpace c = true) (t : Text) : trim (t ++ [c]) = trim t := by
  simp only [trim, trimLeft, trimRight, List.dropWhile_append]
  split
  · next h =>
    -- the text is blank, and so is the text with one more blank
    have ht : t.dropWhile isSpace = [] := by simpa using h
    simp [ht, hc]
  · exact dropEndWhile_concat hc _

/-- A trimmed text stands inside the text. -/
theorem trim_infix (t : Text) : trim t <:+: t :=
  (dropEndWhile_prefixed isSpace _).isInfix.trans (List.dropWhile_suffix _).isInfix

/-- A text is what is left of it after trimming, with white space around that. -/
theorem exists_eq_append_trim (t : Text) :
    ∃ lead tail, isBlank lead = true ∧ isBlank tail = true ∧ t = lead ++ trim t ++ tail ∧
      lead.length = t.length - (trimLeft t).length := by
  obtain ⟨tail, htail, hright⟩ := exists_eq_dropEndWhile_append isSpace (trimLeft t)
  have hleft : t = t.takeWhile isSpace ++ trimLeft t := List.takeWhile_append_dropWhile.symm
  refine ⟨t.takeWhile isSpace, tail, List.all_takeWhile, htail, ?_, ?_⟩
  · rw [List.append_assoc, trim, trimRight, ← hright]
    exact hleft
  · have hlength := congrArg List.length hleft
    rw [List.length_append] at hlength
    omega

/-- What is left after dropping from the end has nothing left to be dropped. -/
theorem dropEndWhile_dropEndWhile (p : Char → Bool) (t : Text) :
    dropEndWhile p (dropEndWhile p t) = dropEndWhile p t := by
  induction t with
  | nil => rfl
  | cons c t ih =>
    rw [dropEndWhile]
    cases h : dropEndWhile p t with
    | nil => by_cases hc : p c <;> simp [dropEndWhile, hc]
    | cons d kept =>
      rw [h] at ih
      rw [dropEndWhile, ih]

/-- A trimmed text has nothing left to be trimmed. -/
theorem trim_trim (t : Text) : trim (trim t) = trim t := by
  have hleft : trimLeft (trim t) = trim t := by
    obtain ⟨rest, hrest⟩ := dropEndWhile_prefixed isSpace (trimLeft t)
    cases htrim : trim t with
    | nil => rfl
    | cons c u =>
      -- the first character that is left stands first in the text without white space at its start
      have hlead : t.dropWhile isSpace = c :: (u ++ rest) := by
        rw [← List.cons_append, ← htrim]
        exact hrest.symm
      have hc : isSpace c = false := by
        have hhead := List.head_dropWhile_not isSpace (l := t) (by simp [hlead])
        simpa [hlead] using hhead
      simp [trimLeft, hc]
  rw [trim, hleft]
  exact dropEndWhile_dropEndWhile isSpace _

/-- Nothing is dropped from the end of a text without characters to be dropped. -/
theorem dropEndWhile_of_forall {p : Char → Bool} {t : Text} (h : ∀ c ∈ t, p c = false) :
    dropEndWhile p t = t := by
  induction t with
  | nil => rfl
  | cons c t ih =>
    obtain ⟨hc, ht⟩ := List.forall_mem_cons.1 h
    rw [dropEndWhile, ih ht]
    cases t with
    | nil => simp [hc]
    | cons d t => rfl

/-- A text without white space has nothing to be trimmed. -/
theorem trim_of_forall {t : Text} (h : ∀ c ∈ t, isSpace c = false) : trim t = t := by
  have hleft : trimLeft t = t := by
    cases t with
    | nil => rfl
    | cons c t => exact List.dropWhile_cons_of_neg (by simp [h c List.mem_cons_self])
  rw [trim, hleft]
  exact dropEndWhile_of_forall h

/-- A text without white space at its end keeps a character that is none, with what stands before it. -/
theorem dropEndWhile_append_cons {p : Char → Bool} {c : Char} (hc : p c = false) (t u : Text) :
    dropEndWhile p (t ++ c :: u) = t ++ c :: dropEndWhile p u := by
  induction t with
  | nil =>
    rw [List.nil_append, dropEndWhile]
    cases dropEndWhile p u <;> simp [hc]
  | cons d t ih =>
    rw [List.cons_append, dropEndWhile, ih]
    cases t <;> rfl

/-- A text has nothing to be dropped from its end if it does not end with a character that is dropped. -/
theorem dropEndWhile_eq_self_iff {p : Char → Bool} {t : Text} :
    dropEndWhile p t = t ↔ t.getLast?.any p = false := by
  rcases List.eq_nil_or_concat t with rfl | ⟨u, c, hconcat⟩
  · exact iff_of_true rfl rfl
  · obtain rfl : t = u ++ [c] := hconcat.trans List.concat_eq_append
    rw [List.getLast?_concat, Option.any_some]
    cases hc : p c with
    | false => exact iff_of_true (dropEndWhile_append_cons hc u []) rfl
    | true =>
      refine iff_of_false (fun h => ?_) nofun
      rw [dropEndWhile_concat hc] at h
      have hlength := (dropEndWhile_prefixed p u).length_le
      rw [h, List.length_append, List.length_singleton] at hlength
      omega

/-- Trimming a text works on either side of a character that is no white space. -/
theorem trim_append_cons {c : Char} (hc : isSpace c = false) (t u : Text) :
    trim (t ++ c :: u) = trimLeft t ++ c :: trimRight u := by
  have hleft : trimLeft (t ++ c :: u) = trimLeft t ++ c :: u := by
    simp only [trimLeft, List.dropWhile_append, List.isEmpty_iff]
    split
    · next ht => rw [ht, List.nil_append, List.dropWhile_cons_of_neg (by simp [hc])]
    · rfl
  rw [trim, hleft]
  exact dropEndWhile_append_cons hc _ _

/-- A text without white space at either end has nothing to be trimmed. -/
theorem trim_enclosed {c d : Char} (hc : isSpace c = false) (hd : isSpace d = false) (t : Text) :
    trim (c :: (t ++ [d])) = c :: (t ++ [d]) := by
  have hright : trimRight (t ++ [d]) = t ++ [d] := dropEndWhile_append_cons hd t []
  have htrim := trim_append_cons hc [] (t ++ [d])
  rwa [hright] at htrim

/-! ### Cutting -/

/-- A text is cut at the first separator. -/
theorem cut_append {sep : Char} {t : Text} (h : sep ∉ t) (u : Text) :
    cut sep (t ++ sep :: u) = (t, some u) := by
  induction t with
  | nil => simp [cut]
  | cons c t ih =>
    obtain ⟨hc, ht⟩ := not_or.1 (mt List.mem_cons.2 h)
    rw [List.cons_append, cut, if_neg fun e => hc e.symm, ih ht]

/-- A text that is cut has a separator where it is cut. -/
theorem eq_of_cut_eq_some {sep : Char} {t before rest : Text} (h : cut sep t = (before, some rest)) :
    t = before ++ sep :: rest := by
  induction t generalizing before with
  | nil => simp [cut] at h
  | cons c t ih =>
    rw [cut] at h
    split at h
    · next hc =>
      obtain ⟨rfl, rfl⟩ : [] = before ∧ t = rest := by simpa using h
      rw [hc, List.nil_append]
    · obtain ⟨rfl, hrest⟩ : c :: (cut sep t).1 = before ∧ (cut sep t).2 = some rest := by simpa using h
      rw [List.cons_append, ← ih (Prod.ext rfl hrest)]

/-- A text that is not cut is what stands before the separator. -/
theorem eq_of_cut_eq_none {sep : Char} {t before : Text} (h : cut sep t = (before, none)) :
    before = t := by
  induction t generalizing before with
  | nil => simpa [cut, eq_comm] using h
  | cons c t ih =>
    rw [cut] at h
    split at h
    · cases h
    · obtain ⟨rfl, hrest⟩ : c :: (cut sep t).1 = before ∧ (cut sep t).2 = none := by simpa using h
      exact congrArg (c :: ·) (ih (Prod.ext rfl hrest))

/-- A text without a separator is not cut. -/
theorem cut_of_notMem {sep : Char} {t : Text} (h : sep ∉ t) : cut sep t = (t, none) := by
  induction t with
  | nil => rfl
  | cons c t ih =>
    obtain ⟨hc, ht⟩ := not_or.1 (mt List.mem_cons.2 h)
    rw [cut, if_neg fun e => hc e.symm, ih ht]

/-- A name stands in front of the first separator of a text if it is the text, or the text starts with it
    and a separator. -/
theorem cut_fst_eq_iff {sep : Char} {name t : Text} (h : sep ∉ name) :
    (cut sep t).1 = name ↔ t = name ∨ name ++ [sep] <+: t := by
  constructor
  · rintro rfl
    cases hcut : cut sep t with
    | mk before found =>
      cases found with
      | none => exact .inl (eq_of_cut_eq_none hcut).symm
      | some rest =>
        refine .inr ⟨rest, ?_⟩
        rw [List.append_assoc, List.singleton_append, eq_of_cut_eq_some hcut]
  · rintro (rfl | ⟨rest, rfl⟩)
    · rw [cut_of_notMem h]
    · rw [List.append_assoc, List.singleton_append, cut_append h]

/-- A text is not cut behind a separator. -/
theorem exists_cut_eq_some (sep : Char) (before rest : Text) :
    ∃ before' rest', cut sep (before ++ sep :: rest) = (before', some rest') ∧ rest <:+ rest' := by
  induction before with
  | nil => exact ⟨[], rest, by simp [cut], List.suffix_rfl⟩
  | cons c before ih =>
    obtain ⟨before', rest', hcut, hrest⟩ := ih
    rw [List.cons_append, cut]
    split
    · exact ⟨[], _, rfl, (List.suffix_cons sep rest).trans (List.suffix_append before _)⟩
    · exact ⟨c :: before', rest', by rw [hcut], hrest⟩

/-- A text either holds no separator and is not cut, or is cut at the first one. -/
theorem cut_cases (sep : Char) (t : Text) :
    (sep ∉ t ∧ cut sep t = (t, none)) ∨
      ∃ before rest, sep ∉ before ∧ t = before ++ sep :: rest ∧ cut sep t = (before, some rest) := by
  by_cases h : sep ∈ t
  · obtain ⟨before, rest, rfl, hbefore⟩ := List.eq_append_cons_of_mem h
    exact .inr ⟨before, rest, hbefore, rfl, cut_append hbefore rest⟩
  · exact .inl ⟨h, cut_of_notMem h⟩

/-- In front of the first separator there is none. -/
theorem notMem_cut_fst (sep : Char) (t : Text) : sep ∉ (cut sep t).1 := by
  rcases cut_cases sep t with ⟨h, hcut⟩ | ⟨before, rest, h, -, hcut⟩ <;> rwa [hcut]

/-- What stands in front of the first separator stands at the start. -/
theorem cut_fst_prefixed (sep : Char) (t : Text) : (cut sep t).1 <+: t := by
  rcases cut_cases sep t with ⟨-, hcut⟩ | ⟨before, rest, -, rfl, hcut⟩
  · exact ⟨[], by rw [hcut, List.append_nil]⟩
  · rw [hcut]
    exact List.prefix_append before _

/-- What stands behind the first separator stands at the end. -/
theorem cut_snd_suffixed (sep : Char) (t : Text) : (cut sep t).2.getD [] <:+ t := by
  rcases cut_cases sep t with ⟨-, hcut⟩ | ⟨before, rest, -, rfl, hcut⟩ <;> rw [hcut]
  · exact List.nil_suffix
  · exact (List.suffix_cons sep rest).trans (List.suffix_append before _)

/-- A text without separators stays in front of what is cut behind it. -/
theorem cut_append_of_notMem {sep : Char} {t : Text} (h : sep ∉ t) (u : Text) :
    cut sep (t ++ u) = (t ++ (cut sep u).1, (cut sep u).2) := by
  induction t with
  | nil => rfl
  | cons c t ih =>
    obtain ⟨hc, ht⟩ := not_or.1 (mt List.mem_cons.2 h)
    rw [List.cons_append, cut, if_neg fun e => hc e.symm, ih ht]
    rfl

/-- A text is cut at the last separator. -/
theorem cutLast_append {sep : Char} {u : Text} (h : sep ∉ u) (t : Text) :
    cutLast sep (t ++ sep :: u) = (some t, u) := by
  have hreverse : (t ++ sep :: u).reverse = u.reverse ++ sep :: t.reverse := by simp
  rw [cutLast, hreverse, cut_append (by simpa using h)]
  simp

theorem cutLast_of_notMem {sep : Char} {t : Text} (h : sep ∉ t) : cutLast sep t = (none, t) := by
  rw [cutLast, cut_of_notMem (by simpa using h)]
  simp

/-- A text either holds no separator and is not cut, or is cut at the last one. -/
theorem cutLast_cases (sep : Char) (t : Text) :
    (sep ∉ t ∧ cutLast sep t = (none, t)) ∨
      ∃ before rest, sep ∉ rest ∧ t = before ++ sep :: rest ∧ cutLast sep t = (some before, rest) := by
  by_cases h : sep ∈ t
  · obtain ⟨rest, before, heq, hrest⟩ := List.eq_append_cons_of_mem (List.mem_reverse.2 h)
    have ht : t = before.reverse ++ sep :: rest.reverse := by
      rw [← List.reverse_reverse t, heq]
      simp
    have hrest' : sep ∉ rest.reverse := by simpa using hrest
    exact .inr ⟨before.reverse, rest.reverse, hrest', ht, ht ▸ cutLast_append hrest' before.reverse⟩
  · exact .inl ⟨h, cutLast_of_notMem h⟩

/-! ### Splitting -/

theorem pieces_ne_nil (p : Char → Bool) (t : Text) : pieces p t ≠ [] := by
  cases t with
  | nil => exact List.cons_ne_nil _ _
  | cons c t =>
    rw [pieces]
    split
    · exact List.cons_ne_nil _ _
    · split <;> exact List.cons_ne_nil _ _

/-- A text without separators is one piece. -/
theorem pieces_of_forall {p : Char → Bool} {t : Text} (h : ∀ c ∈ t, p c = false) : pieces p t = [t] := by
  induction t with
  | nil => rfl
  | cons c t ih =>
    obtain ⟨hc, ht⟩ := List.forall_mem_cons.1 h
    rw [pieces, ih ht, hc]
    rfl

/-- The pieces on both sides of a separator are pieces of their own. -/
theorem pieces_append_cons {p : Char → Bool} {c : Char} (hc : p c = true) (t u : Text) :
    pieces p (t ++ c :: u) = pieces p t ++ pieces p u := by
  induction t with
  | nil =>
    show (if p c then [] :: pieces p u else _) = [] :: pieces p u
    rw [if_pos hc]
  | cons d t ih =>
    rw [List.cons_append, pieces, pieces, ih]
    obtain ⟨first, others, hpieces⟩ := List.exists_cons_of_ne_nil (pieces_ne_nil p t)
    rw [hpieces]
    by_cases hd : p d = true
    · rw [if_pos hd, if_pos hd]
      rfl
    · rw [if_neg hd, if_neg hd]
      rfl

theorem split_of_notMem {sep : Char} {t : Text} (h : sep ∉ t) : split sep t = [t] :=
  pieces_of_forall fun _ hc => beq_false_of_ne (ne_of_mem_of_not_mem hc h)

/-- A text without separators is one piece in front of a separator, too. -/
theorem split_append_cons {sep : Char} {t : Text} (h : sep ∉ t) (u : Text) :
    split sep (t ++ sep :: u) = t :: split sep u := by
  have happend := pieces_append_cons (p := (· == sep)) (beq_self_eq_true sep) t u
  rw [split, happend, ← split, split_of_notMem h]
  rfl

/-- Induction along the pieces of a text. -/
theorem splitting (sep : Char) {motive : Text → Prop} (last : ∀ t, sep ∉ t → motive t)
    (more : ∀ t u, sep ∉ t → motive u → motive (t ++ sep :: u)) (t : Text) : motive t := by
  induction hn : t.length using Nat.strongRecOn generalizing t with
  | ind n ih =>
    subst hn
    rcases cut_cases sep t with ⟨hsep, -⟩ | ⟨before, rest, hsep, rfl, -⟩
    · exact last t hsep
    · refine more before rest hsep (ih rest.length ?_ rest rfl)
      rw [List.length_append, List.length_cons]
      omega

/-- No separator stands in a piece. -/
theorem notMem_of_mem_split {sep : Char} (t : Text) : ∀ p ∈ split sep t, sep ∉ p := by
  induction t using splitting sep with
  | last t hsep =>
    rw [split_of_notMem hsep]
    exact List.forall_mem_singleton.2 hsep
  | more t u hsep ih =>
    rw [split_append_cons hsep]
    exact List.forall_mem_cons.2 ⟨hsep, ih⟩

/-- Every other character of a text stands in one of its pieces. -/
theorem exists_mem_split {sep c : Char} (hne : c ≠ sep) {t : Text} (h : c ∈ t) : ∃ p ∈ split sep t, c ∈ p := by
  induction t using splitting sep with
  | last t hsep =>
    rw [split_of_notMem hsep]
    exact ⟨t, List.mem_singleton_self t, h⟩
  | more t u hsep ih =>
    rw [split_append_cons hsep]
    rcases List.mem_append.1 h with h | h
    · exact ⟨t, List.mem_cons_self, h⟩
    · obtain ⟨p, hp, hc⟩ := ih ((List.mem_cons.1 h).resolve_left hne)
      exact ⟨p, List.mem_cons_of_mem t hp, hc⟩

/-! ### Joining -/

theorem join_cons_cons (sep t t' : Text) (ts : List Text) :
    join sep (t :: t' :: ts) = t ++ (sep ++ join sep (t' :: ts)) := by
  simp [join, List.intercalate, List.intersperse]

theorem join_singleton (sep t : Text) : join sep [t] = t := by
  simp [join, List.intercalate]

/-- The characters of joined parts are those of the parts and of what stands between them. -/
theorem mem_of_mem_join {sep : Text} {ts : List Text} {c : Char} (h : c ∈ join sep ts) :
    c ∈ sep ∨ ∃ t ∈ ts, c ∈ t := by
  induction ts with
  | nil => cases h
  | cons t ts ih =>
    cases ts with
    | nil =>
      rw [join_singleton] at h
      exact .inr ⟨t, List.mem_singleton.2 rfl, h⟩
    | cons u ts =>
      rw [join_cons_cons, List.mem_append, List.mem_append] at h
      rcases h with h | h | h
      · exact .inr ⟨t, List.mem_cons_self, h⟩
      · exact .inl h
      · exact (ih h).imp_right fun ⟨v, hv, hc⟩ => ⟨v, List.mem_cons_of_mem t hv, hc⟩

/-- Joined parts start with the first. -/
theorem exists_join_cons (sep t : Text) (ts : List Text) : ∃ u, join sep (t :: ts) = t ++ u := by
  cases ts with
  | nil => exact ⟨[], by rw [join_singleton, List.append_nil]⟩
  | cons t' ts => exact ⟨_, join_cons_cons sep t t' ts⟩

/-- Joined parts end as all of them do. -/
theorem getLast?_join {sep : Text} {ts : List Text} {c : Char} (hne : ts ≠ [])
    (h : ∀ t ∈ ts, t.getLast? = some c) : (join sep ts).getLast? = some c := by
  induction ts with
  | nil => exact absurd rfl hne
  | cons t ts ih =>
    obtain ⟨ht, hts⟩ := List.forall_mem_cons.1 h
    cases ts with
    | nil => rwa [join_singleton]
    | cons t' ts =>
      rw [join_cons_cons, List.getLast?_append, List.getLast?_append, ih (List.cons_ne_nil t' ts) hts]
      rfl

/-- The pieces of a text are joined to the text again. -/
theorem join_split (sep : Char) (t : Text) : join [sep] (split sep t) = t := by
  induction t using splitting sep with
  | last t hsep => rw [split_of_notMem hsep, join_singleton]
  | more t u hsep ih =>
    obtain ⟨first, others, hu⟩ := List.exists_cons_of_ne_nil (pieces_ne_nil (· == sep) u)
    rw [split_append_cons hsep]
    rw [split, hu] at ih ⊢
    rw [join_cons_cons, ih, List.singleton_append]

/-- What joined parts are read as, if each of them is read as one part, and on its own in front of a separator. -/
theorem split_join {sep : Char} {split : Text → List Text} {read : Text → Text} {ts : List Text} (hne : ts ≠ [])
    (hlast : ∀ t ∈ ts, split t = [read t]) (hmore : ∀ t ∈ ts, ∀ u, split (t ++ sep :: u) = read t :: split u) :
    split (join [sep] ts) = ts.map read := by
  induction ts with
  | nil => exact absurd rfl hne
  | cons t ts ih =>
    obtain ⟨ht, hts⟩ := List.forall_mem_cons.1 hlast
    obtain ⟨ht', hts'⟩ := List.forall_mem_cons.1 hmore
    cases ts with
    | nil =>
      rw [join_singleton, ht]
      rfl
    | cons u ts =>
      rw [join_cons_cons, List.singleton_append, ht', ih (List.cons_ne_nil u ts) hts hts']
      rfl

/-! ### Replacing -/

variable {old new : Text} {c : Char}

theorem replaceFrom_append (u t : Text) : replaceFrom old new u.length (u ++ t) = replace old new t := by
  induction u with
  | nil => rfl
  | cons c u ih => exact ih

/-- An occurrence at the start is replaced. -/
theorem replace_append (hold : old ≠ []) (t : Text) : replace old new (old ++ t) = new ++ replace old new t := by
  obtain ⟨c, u, rfl⟩ := List.exists_cons_of_ne_nil hold
  have hstart : startsWith (c :: u) (c :: (u ++ t)) = true := startsWith_iff.2 (List.prefix_append (c :: u) t)
  rw [replace, List.cons_append, replaceFrom, if_pos hstart]
  exact congrArg (new ++ ·) (replaceFrom_append u t)

/-- A character that starts no occurrence stays. -/
theorem replace_cons {t : Text} (h : startsWith old (c :: t) = false) :
    replace old new (c :: t) = c :: replace old new t := by
  rw [replace, replaceFrom, h]
  rfl

/-- What has been read of an occurrence is left out. -/
theorem replaceFrom_of_le {skip : Nat} {t : Text} (h : t.length ≤ skip) : replaceFrom old new skip t = [] := by
  induction t generalizing skip with
  | nil => cases skip <;> rfl
  | cons d t ih =>
    cases skip with
    | zero => cases h
    | succ skip => exact ih (Nat.le_of_succ_le_succ h)

/-- No occurrence reaches over a character that it does not hold. -/
theorem startsWith_append_cons (hc : c ∉ old) (t u : Text) : startsWith old (t ++ c :: u) = startsWith old t := by
  rw [Bool.eq_iff_iff, startsWith_iff, startsWith_iff]
  constructor
  · rintro ⟨w, hw⟩
    rcases List.append_eq_append_iff.1 hw with ⟨a, rfl, -⟩ | ⟨a, rfl, ha⟩
    · exact List.prefix_append old a
    · cases a with
      | nil => simp
      | cons d a =>
        obtain ⟨rfl, -⟩ := List.cons.inj ha
        exact absurd (by simp) hc
  · intro h
    exact h.trans (List.prefix_append t _)

/-- On either side of a character that stands in no occurrence a text is replaced on its own. -/
theorem replaceFrom_append_cons (hold : old ≠ []) (hc : c ∉ old) {skip : Nat} {t : Text} (h : skip ≤ t.length)
    (u : Text) : replaceFrom old new skip (t ++ c :: u) = replaceFrom old new skip t ++ c :: replace old new u := by
  induction t generalizing skip with
  | nil =>
    obtain rfl : skip = 0 := Nat.le_zero.1 h
    have hnot : startsWith old (c :: u) = false := by
      rw [← List.nil_append (c :: u), startsWith_append_cons hc, ← Bool.not_eq_true, startsWith_iff]
      exact fun hnil => hold (List.prefix_nil.1 hnil)
    simp only [List.nil_append, replaceFrom, hnot, Bool.false_eq_true, if_false]
    rfl
  | cons d t ih =>
    cases skip with
    | succ skip => exact ih (Nat.le_of_succ_le_succ h)
    | zero =>
      have hsame := startsWith_append_cons hc (d :: t) u
      rw [List.cons_append] at hsame
      rw [List.cons_append, replaceFrom, replaceFrom, hsame]
      split
      · next hstart =>
        have hlength : old.length ≤ t.length + 1 := (startsWith_iff.1 hstart).length_le
        rw [ih (by omega), List.append_assoc]
      · rw [ih (Nat.zero_le _), List.cons_append]

theorem replace_append_cons (hold : old ≠ []) (hc : c ∉ old) (t u : Text) :
    replace old new (t ++ c :: u) = replace old new t ++ c :: replace old new u :=
  replaceFrom_append_cons hold hc (Nat.zero_le _) u

theorem getLast?_replaceFrom (hold : old ≠ []) (hend : old.getLast? = some c → new.getLast? = some c) {skip : Nat}
    {t : Text} (h : skip < t.length) (hlast : t.getLast? = some c) :
    (replaceFrom old new skip t).getLast? = some c := by
  induction t generalizing skip with
  | nil => cases hlast
  | cons d t ih =>
    have htail : t ≠ [] → t.getLast? = some c := by
      intro ht
      obtain ⟨e, t, rfl⟩ := List.exists_cons_of_ne_nil ht
      rwa [List.getLast?_cons_cons] at hlast
    cases skip with
    | succ skip =>
      have ht : skip < t.length := Nat.lt_of_succ_lt_succ h
      exact ih ht (htail (List.ne_nil_of_length_pos (by omega)))
    | zero =>
      rw [replaceFrom]
      split
      · next hstart =>
        have hprefixed : old <+: d :: t := startsWith_iff.1 hstart
        by_cases ht : old.length - 1 < t.length
        · rw [List.getLast?_append, ih ht (htail (List.ne_nil_of_length_pos (by omega)))]
          rfl
        · -- the occurrence is all that is left of the text
          have hpos : 0 < old.length := List.length_pos_iff.2 hold
          have hwhole : old = d :: t := hprefixed.eq_of_length_le (by rw [List.length_cons]; omega)
          rw [replaceFrom_of_le (by omega), List.append_nil]
          exact hend (hwhole ▸ hlast)
      · by_cases ht : t = []
        · subst ht
          exact hlast
        · rw [List.getLast?_cons, ih (List.length_pos_iff.2 ht) (htail ht)]
          rfl

/-- A text keeps the character that it ends with if no occurrence ends with it, or what stands for one does, too. -/
theorem getLast?_replace (hold : old ≠ []) (hend : old.getLast? = some c → new.getLast? = some c) {t : Text}
    (hlast : t.getLast? = some c) : (replace old new t).getLast? = some c := by
  have hne : t ≠ [] := by
    rintro rfl
    cases hlast
  exact getLast?_replaceFrom hold hend (List.length_pos_iff.2 hne) hlast

/-! ### Looking for a text in a text -/

/-- A text that is found stands where it is found, and nowhere before that. -/
theorem eq_of_find?_eq_some {needle t : Text} {i : Nat} (h : find? needle t = some i) :
    needle <+: t.drop i ∧ ∀ j < i, ¬ needle <+: t.drop j := by
  induction t generalizing i with
  | nil =>
    simp only [find?, List.isEmpty_iff, Option.ite_none_right_eq_some, Option.some.injEq] at h
    obtain ⟨rfl, rfl⟩ := h
    exact ⟨List.prefix_rfl, nofun⟩
  | cons c t ih =>
    rw [find?] at h
    split at h
    · next hstart =>
      obtain rfl := Option.some.inj h
      exact ⟨startsWith_iff.1 hstart, nofun⟩
    · next hstart =>
      obtain ⟨k, hk, rfl⟩ := Option.map_eq_some_iff.1 h
      obtain ⟨hfound, hbefore⟩ := ih hk
      refine ⟨hfound, fun j hj => ?_⟩
      cases j with
      | zero => exact fun hp => hstart (startsWith_iff.2 hp)
      | succ j => exact hbefore j (Nat.lt_of_succ_lt_succ hj)

/-- A text that stands somewhere is found there or before. -/
theorem exists_find?_of_prefixed {needle t : Text} {j : Nat} (h : needle <+: t.drop j) :
    ∃ i ≤ j, find? needle t = some i := by
  induction t generalizing j with
  | nil =>
    rw [List.drop_nil, List.prefix_nil] at h
    subst h
    exact ⟨0, Nat.zero_le j, rfl⟩
  | cons c t ih =>
    rw [find?]
    split
    · exact ⟨0, Nat.zero_le j, rfl⟩
    · next hstart =>
      cases j with
      | zero => exact absurd (startsWith_iff.2 h) hstart
      | succ j =>
        obtain ⟨i, hi, hfound⟩ := ih h
        exact ⟨i + 1, Nat.succ_le_succ hi, by rw [hfound]; rfl⟩

end PageQuery.Text
