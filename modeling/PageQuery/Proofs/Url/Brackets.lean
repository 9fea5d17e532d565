import PageQuery.Proofs.Url.Authority

namespace PageQuery.Url

/-!
# The checks of authorities that are put together

* `notMem_of_isLongAddress`: numbered hosts hold no `@`;
* `checkBracketed_at`: of a text in brackets that reaches into the user information, what stands behind the `@` hardly
  matters;
* `checkBrackets_rewritten`, `checkLookalikes_rewritten`: an authority that is put together passes the checks that the
  one that is written passes.
-/

open Text (IsUncased)

/-! ### Numbered hosts -/

theorem notMem_of_isOctet {t : Text} (h : isOctet t = true) : '@' ∉ t := by
  intro hmem
  simp only [isOctet, Bool.and_eq_true, List.all_eq_true] at h
  have hdigit := h.1.1.2 '@' hmem
  revert hdigit
  decide

theorem notMem_of_isShortAddress {t : Text} (h : isShortAddress t = true) : '@' ∉ t := by
  intro hmem
  obtain ⟨p, hp, hat⟩ := Text.exists_mem_split (by decide : '@' ≠ '.') hmem
  simp only [isShortAddress, Bool.and_eq_true, List.all_eq_true] at h
  exact notMem_of_isOctet (h.2 p hp) hat

theorem notMem_of_isGroup {t : Text} (h : isGroup t = true) : '@' ∉ t := by
  intro hmem
  simp only [isGroup, Bool.and_eq_true, List.all_eq_true] at h
  have hdigit := h.2 '@' hmem
  revert hdigit
  decide

theorem notMem_of_areGroups {outerEmpty : Bool} {groups : List Text} (h : areGroups outerEmpty groups = true) :
    ∀ p ∈ groups, '@' ∉ p := by
  rw [areGroups, Bool.or_eq_true, Bool.and_eq_true, List.all_eq_true, beq_iff_eq] at h
  rcases h with h | ⟨-, rfl⟩
  · exact fun p hp => notMem_of_isGroup (h p hp)
  · simp

/-- Groups of which one is empty are only as many as there are, if that is all. -/
theorem areGroups_of_empty {outerEmpty : Bool} {groups : List Text} (h : areGroups outerEmpty groups = true)
    (hempty : [] ∈ groups) : groups = [[]] := by
  rw [areGroups, Bool.or_eq_true, Bool.and_eq_true, List.all_eq_true, beq_iff_eq] at h
  exact h.elim (fun hall => absurd (hall [] hempty) (by decide)) (·.2)

/-- The groups from the gap on. -/
theorem notMem_of_areGroups_behind {outerEmpty : Bool} {behind : List Text} (hgap : ∀ p ∈ behind.head?, p = [])
    (h : areGroups outerEmpty (behind.drop 1) = true) : ∀ p ∈ behind, '@' ∉ p := by
  cases behind with
  | nil => exact fun _ hp => absurd hp List.not_mem_nil
  | cons r after =>
    intro p hp
    rcases List.mem_cons.1 hp with rfl | hp
    · rw [hgap p rfl]
      exact List.not_mem_nil
    · exact notMem_of_areGroups h p hp

/-- In an address that starts with the gap, the second group is empty as well. -/
theorem eq_nil_of_gap {outerEmpty : Bool} {x gap : Text} {after : List Text}
    (hgap : (x :: after).dropLast.filter List.isEmpty = [gap]) (h : areGroups outerEmpty after = true) : x = [] := by
  refine Classical.byContradiction fun hne => ?_
  cases after with
  | nil => cases hgap
  | cons y after =>
    have hin : gap ∈ (x :: (y :: after).dropLast).filter List.isEmpty := hgap ▸ List.mem_singleton.2 rfl
    obtain ⟨hmem, hgap⟩ := List.mem_filter.1 hin
    rw [List.isEmpty_iff.1 hgap] at hmem
    have hmem := (List.mem_cons.1 hmem).resolve_left fun heq => hne heq.symm
    have hall : y :: after = [[]] := areGroups_of_empty h (List.dropLast_subset _ hmem)
    rw [hall] at hmem
    cases hmem

theorem notMem_of_isGroups {parts : List Text} (h : isGroups parts = true) : ∀ p ∈ parts, '@' ∉ p := by
  rw [isGroups] at h
  split at h
  · rw [Bool.and_eq_true, List.all_eq_true] at h
    exact fun p hp => notMem_of_isGroup (h.2 p hp)
  · next gap hgap =>
    simp only [Bool.and_eq_true] at h
    obtain ⟨⟨hbefore, hafter⟩, -⟩ := h
    -- up to the gap all groups are full, unless the address starts with it
    have hsplit := List.takeWhile_append_dropWhile (p := fun p : Text => !p.isEmpty) (l := parts)
    have hhead := List.head?_dropWhile_not (fun p : Text => !p.isEmpty) parts
    generalize parts.dropWhile (fun p => !p.isEmpty) = behind at hsplit hhead
    generalize parts.takeWhile (fun p => !p.isEmpty) = before at hsplit hbefore hafter
    subst hsplit
    have hempty : ∀ p ∈ behind.head?, p = [] := by
      intro p hp
      rw [Option.mem_def.1 hp] at hhead
      simpa using hhead
    cases before with
    | cons q before =>
      rw [List.isEmpty_cons, if_neg Bool.false_ne_true] at hbefore hafter
      rw [← List.drop_drop, List.drop_left] at hafter
      exact List.forall_mem_append.2 ⟨notMem_of_areGroups hbefore, notMem_of_areGroups_behind hempty hafter⟩
    | nil =>
      cases behind with
      | nil => exact fun _ hp => absurd hp List.not_mem_nil
      | cons r behind =>
        have hsecond : ∀ x ∈ behind.head?, x = [] := by
          intro x hx
          obtain ⟨after, rfl⟩ := List.head?_eq_some_iff.1 hx
          exact eq_nil_of_gap hgap hafter
        refine List.forall_mem_cons.2 ⟨?_, notMem_of_areGroups_behind hsecond hafter⟩
        rw [hempty r rfl]
        exact List.not_mem_nil
  · cases h

theorem notMem_of_isLongAddress {t : Text} (h : isLongAddress t = true) : '@' ∉ (Text.cut '%' t).1 := by
  intro hmem
  simp only [isLongAddress, Bool.and_eq_true] at h
  have hparts := notMem_of_isGroups h.2
  obtain ⟨p, hp, hat⟩ := Text.exists_mem_split (by decide : '@' ≠ ':') hmem
  split at hparts
  · next hshort =>
    -- the last two groups are written as a numbered host of its own
    have hne : Text.split ':' (Text.cut '%' t).1 ≠ [] := List.ne_nil_of_mem hp
    have hlast : p ∈ (Text.split ':' (Text.cut '%' t).1).dropLast ++ [(Text.split ':' (Text.cut '%' t).1).getLast hne] := by
      rwa [List.dropLast_concat_getLast]
    rw [List.mem_append, List.mem_singleton] at hlast
    rcases hlast with hp | rfl
    · exact hparts p (List.mem_append_left _ hp) hat
    · rw [List.getLast?_eq_some_getLast hne] at hshort
      exact notMem_of_isShortAddress hshort hat
  · exact hparts p hp hat

/-- The name of a zone may be any other. -/
theorem isLongAddress_zone {name zone zone' : Text} (hname : '%' ∉ name) (h : isLongAddress (name ++ '%' :: zone) = true)
    (hne : zone' ≠ []) (hzone : '%' ∉ zone → '%' ∉ zone') : isLongAddress (name ++ '%' :: zone') = true := by
  simp only [isLongAddress, Text.cut_append hname, Bool.and_eq_true] at h ⊢
  obtain ⟨⟨⟨hzoneOk, hlow⟩, hhigh⟩, hgroups⟩ := h
  refine ⟨⟨⟨?_, hlow⟩, hhigh⟩, hgroups⟩
  have hpercent : '%' ∉ zone := by
    simpa using hzoneOk.2
  simp [hne, hzone hpercent]

/-! ### Texts in brackets -/

/-- The form of the addresses of the future. -/
theorem checkBracketed_future (t : Text) :
    checkBracketed ('v' :: t) = .ok () ↔
      ∃ version rest, t = version ++ '.' :: rest ∧ version ≠ [] ∧ (∀ c ∈ version, (Text.hexDigit? c).isSome = true) ∧
        rest ≠ [] ∧ '\n' ∉ rest := by
  constructor
  · intro h
    rw [checkBracketed] at h
    split at h
    · next c more hversion hrest =>
      split at h
      · cases h
      · next hline =>
        refine ⟨t.takeWhile fun c => (Text.hexDigit? c).isSome, c :: more, ?_, ?_, ?_, List.cons_ne_nil _ _, ?_⟩
        · have htake := List.prefix_iff_eq_take.1 (List.takeWhile_prefix (l := t) fun c => (Text.hexDigit? c).isSome)
          rw [← hrest]
          conv =>
            lhs
            rw [← List.take_append_drop (t.takeWhile fun c => (Text.hexDigit? c).isSome).length t, ← htake]
        · rintro hnil
          rw [hnil] at hversion
          cases hversion
        · exact fun c hc => List.all_eq_true.1 List.all_takeWhile c hc
        · simpa using hline
    · cases h
  · rintro ⟨version, rest, rfl, hversion, hhex, hrest, hline⟩
    have htake : (version ++ '.' :: rest).takeWhile (fun c => (Text.hexDigit? c).isSome) = version := by
      rw [List.takeWhile_append_of_pos hhex, List.takeWhile_cons_of_neg (by decide), List.append_nil]
    obtain ⟨c, more, rfl⟩ := List.exists_cons_of_ne_nil hrest
    rw [checkBracketed, htake, List.drop_left, List.isEmpty_eq_false_iff.2 hversion]
    exact if_neg (by simpa using hline)

/-- Any other text in brackets is a numbered host of eight parts. -/
theorem checkBracketed_numbered {t : Text} (h : t.head? ≠ some 'v') :
    checkBracketed t = .ok () ↔ isShortAddress t = false ∧ isLongAddress t = true := by
  rw [checkBracketed.eq_2 t fun rest heq => h (heq ▸ rfl)]
  cases isShortAddress t <;> cases isLongAddress t <;> simp

/-- Of a text in brackets that reaches into the user information, what stands behind the `@` may be any other, as long as
    it holds neither the end of a line nor the sign in front of a zone. -/
theorem checkBracketed_at {y s s' : Text} (h : checkBracketed (y ++ '@' :: s) = .ok ()) (hpercent : '%' ∉ s → '%' ∉ s')
    (hline : '\n' ∉ s') : checkBracketed (y ++ '@' :: s') = .ok () := by
  by_cases hv : ∃ y', y = 'v' :: y'
  · obtain ⟨y', rfl⟩ := hv
    rw [List.cons_append, checkBracketed_future] at h ⊢
    obtain ⟨version, rest, heq, hversion, hhex, -, hrest⟩ := h
    rcases List.append_eq_append_iff.1 heq with ⟨w, rfl, hw⟩ | ⟨w, rfl, hw⟩
    · -- an `@` would stand in the version, or behind it
      cases w with
      | nil => cases hw
      | cons c w =>
        obtain ⟨rfl, -⟩ := List.cons.inj hw
        exact absurd (hhex '@' (by simp)) (by decide)
    · cases w with
      | nil => cases hw
      | cons c w =>
        obtain ⟨rfl, rfl⟩ := List.cons.inj hw
        refine ⟨version, w ++ '@' :: s', by simp, hversion, hhex, by simp, ?_⟩
        have hplain : '\n' ∉ w ++ '@' :: s := hrest
        simp only [List.mem_append, List.mem_cons, not_or] at hplain ⊢
        exact ⟨hplain.1, hplain.2.1, hline⟩
  · have hhead : ∀ s, (y ++ '@' :: s).head? ≠ some 'v' := by
      intro s
      cases y with
      | nil => exact fun heq => absurd (Option.some.inj heq) (by decide)
      | cons c y =>
        intro heq
        obtain rfl := Option.some.inj heq
        exact hv ⟨y, rfl⟩
    rw [checkBracketed_numbered (hhead _)] at h ⊢
    have hshort : isShortAddress (y ++ '@' :: s') = false := by
      refine Bool.eq_false_iff.2 fun hshort => notMem_of_isShortAddress hshort ?_
      exact List.mem_append_right _ List.mem_cons_self
    refine ⟨hshort, ?_⟩
    have hat := notMem_of_isLongAddress h.2
    rcases Text.cut_cases '%' y with ⟨hnone, -⟩ | ⟨name, zone, hname, rfl, -⟩
    · -- an `@` would stand in the address
      refine absurd ?_ hat
      rw [Text.cut_append_of_notMem hnone, Text.cut]
      exact List.mem_append_right _ (by simp)
    · rw [List.append_assoc, List.cons_append] at h ⊢
      refine isLongAddress_zone hname h.2 (by simp) fun hzone => ?_
      simp only [List.mem_append, List.mem_cons, not_or] at hzone ⊢
      exact ⟨hzone.1, hzone.2.1, hpercent hzone.2.2⟩

/-! ### Authorities -/

theorem checkBrackets_eq_ok_iff (t : Text) :
    checkBrackets t = .ok () ↔
      ('[' ∉ t ∧ ']' ∉ t) ∨ ('[' ∈ t ∧ ']' ∈ t ∧ checkBracketed (bracketed t) = .ok ()) := by
  rw [checkBrackets, ← List.contains_iff_mem, ← List.contains_iff_mem]
  cases t.contains '[' <;> cases t.contains ']' <;> simp

theorem bracketed_append {before : Text} (h : '[' ∉ before) (inside : Text) :
    bracketed (before ++ '[' :: inside) = (Text.cut ']' inside).1 := by
  rw [bracketed, Text.cut_append h, Option.getD_some]

/-- A host whose name of a zone does not stand in front of the first bracket has it behind, in lower case, too. -/
theorem notMem_cut_lowerHost {t rest rest' : Text} (h : '%' ∉ (Text.cut ']' (t ++ rest)).1) (hrest : '%' ∉ rest') :
    '%' ∉ (Text.cut ']' (lowerHost t ++ rest')).1 := by
  intro hmem
  rcases Text.cut_cases '%' t with ⟨hnone, -⟩ | ⟨name, zone, hname, rfl, -⟩
  · rcases List.mem_append.1 ((Text.cut_fst_prefixed ']' _).subset hmem) with hmem | hmem
    · exact hnone ((mem_lowerHost_iff isUncased_percent).1 hmem)
    · exact hrest hmem
  · rw [lowerHost_append hname, List.append_assoc] at hmem
    by_cases hclose : ']' ∈ name
    · -- the bracket stands in front of the zone
      have hlow : ']' ∈ Text.lower name := (Text.mem_lower_iff isUncased_close).2 hclose
      obtain ⟨before, after, heq, hbefore⟩ := List.eq_append_cons_of_mem hlow
      rw [heq, List.append_assoc, List.cons_append, Text.cut_append hbefore] at hmem
      refine mt (Text.mem_lower_iff isUncased_percent).1 hname ?_
      rw [heq]
      exact List.mem_append_left _ hmem
    · refine h ?_
      rw [List.append_assoc, Text.cut_append_of_notMem hclose, List.cons_append, Text.cut, if_neg (by decide)]
      exact List.mem_append_right _ List.mem_cons_self

theorem checkBrackets_at (t : Text) : checkBrackets ('@' :: t) = checkBrackets t := by
  have hbracketed : bracketed ('@' :: t) = bracketed t := by
    rw [bracketed, bracketed, Text.cut, if_neg (by decide)]
  simp [checkBrackets, hbracketed]

/-- User information that is empty makes no difference. -/
theorem checkBrackets_rewritten_of_userInfo {a info : Text} (h : userInfo? a = some info) :
    checkBrackets (rewritten a) = checkBrackets (info ++ '@' :: rewrittenHost a) := by
  rw [rewritten, h, Option.getD_some]
  split
  · next hnil => rw [hnil, List.nil_append, checkBrackets_at]
  · rfl

/-- A host and a port that stay as they are written pass the check of brackets again. -/
theorem checkBrackets_rewritten_of_error {a : Text} {e : Error} (hport : port a = .error e)
    (h : checkBrackets a = .ok ()) : checkBrackets (rewritten a) = .ok () := by
  have hhost : rewrittenHost a = written a := by rw [rewrittenHost, hport]
  rcases authority_cases a with ⟨-, hinfo, hwritten⟩ | ⟨info, w, -, ha, hinfo, hwritten⟩
  · rwa [rewritten, hinfo, Option.getD_none, if_pos rfl, hhost, hwritten]
  · rwa [checkBrackets_rewritten_of_userInfo hinfo, hhost, hwritten, ← ha]

/-- Outside brackets, all but the port belongs to the host. -/
theorem mem_host_of_mem_written {a : Text} {p : Option Nat} (hport : port a = .ok p) (hopen : '[' ∉ written a) {d : Char}
    (h : IsUncased d) (hcolon : d ≠ ':') (hdigit : d.isDigit = false) (hd : d ∈ written a) : d ∈ host a := by
  rw [host_eq, mem_lowerHost_iff h]
  rw [port_eq] at hport
  rw [hostAndPort_of_notMem hopen] at hport ⊢
  rcases Text.cut_cases ':' (written a) with ⟨-, hcut⟩ | ⟨before, rest, -, heq, hcut⟩
  · rwa [hcut]
  · rw [hcut] at hport ⊢
    rw [heq, List.mem_append, List.mem_cons] at hd
    refine hd.resolve_right fun hd => ?_
    have hrest := hd.resolve_left hcolon
    have hne : (!rest.isEmpty) = true := by simpa using List.ne_nil_of_mem hrest
    rw [Option.filter_some, if_pos hne] at hport
    split at hport
    · next hnone => cases hnone
    · next t ht =>
      obtain rfl := Option.some.inj ht
      split at hport
      · next hall =>
        rw [List.all_eq_true.1 hall d hrest] at hdigit
        cases hdigit
      · cases hport

/-- What stands in brackets that open in the user information passes the check again, even where they close behind it,
    in the host. -/
theorem checkBracketed_rewritten {a y : Text} {p : Option Nat} (hport : port a = .ok p) (hline : '\n' ∉ a)
    (hopen : '[' ∉ written a) (h : checkBracketed (Text.cut ']' (y ++ '@' :: written a)).1 = .ok ()) :
    checkBracketed (Text.cut ']' (y ++ '@' :: rewrittenHost a)).1 = .ok () := by
  by_cases hy : ']' ∈ y
  · obtain ⟨y₁, y₂, rfl, hy₁⟩ := List.eq_append_cons_of_mem hy
    rw [List.append_assoc, List.cons_append, Text.cut_append hy₁] at h ⊢
    exact h
  · rw [Text.cut_append_of_notMem hy, Text.cut, if_neg (by decide)] at h ⊢
    refine checkBracketed_at h (fun hpercent => ?_) fun hmem => ?_
    · -- the port, which is written behind the host, holds no sign in front of a zone
      obtain ⟨rest, hrest⟩ := Text.cut_fst_prefixed ':' (written a)
      have hnone : '%' ∉ portText p := fun hmem => (mem_portText hmem).elim (by decide) (by decide)
      rw [rewrittenHost_of_ok hport, host_eq, hostAndPort_of_notMem hopen]
      exact notMem_cut_lowerHost (hrest.symm ▸ hpercent) hnone
    · have huncased : IsUncased '\n' := Text.isUncased_of_ascii (by decide) (by decide)
      have hmem := (Text.cut_fst_prefixed ']' _).subset hmem
      exact hline (mem_of_mem_written (mem_of_mem_rewrittenHost huncased (by decide) (by decide) hmem))

/-- An authority with a host outside brackets passes the check of brackets again. -/
theorem checkBrackets_rewritten {a : Text} {p : Option Nat} (hport : port a = .ok p) (h : checkBrackets a = .ok ())
    (hline : '\n' ∉ a) (hopen : '[' ∉ written a) : checkBrackets (rewritten a) = .ok () := by
  rw [checkBrackets_eq_ok_iff] at h
  rcases h with ⟨hno, hno'⟩ | ⟨hmem, hclose, hinside⟩
  · refine (checkBrackets_eq_ok_iff _).2 (.inl ⟨fun hmem => hno ?_, fun hmem => hno' ?_⟩)
    · exact mem_of_mem_rewritten isUncased_open (by decide) (by decide) hmem
    · exact mem_of_mem_rewritten isUncased_close (by decide) (by decide) hmem
  · -- the first bracket stands in the user information
    rcases authority_cases a with ⟨-, -, hwritten⟩ | ⟨info, w, -, ha, hinfo, hwritten⟩
    · rw [hwritten] at hopen
      exact absurd hmem hopen
    have hmem : '[' ∈ info := by
      rw [ha, List.mem_append, List.mem_cons] at hmem
      refine hmem.resolve_right fun hmem => ?_
      rw [hwritten] at hopen
      exact hmem.elim (by decide) hopen
    obtain ⟨x, y, rfl, hx⟩ := List.eq_append_cons_of_mem hmem
    have hsame : ∀ w', bracketed (x ++ '[' :: y ++ '@' :: w') = (Text.cut ']' (y ++ '@' :: w')).1 := by
      intro w'
      rw [List.append_assoc, List.cons_append, bracketed_append hx]
    rw [ha, hsame, ← hwritten] at hinside
    rw [checkBrackets_rewritten_of_userInfo hinfo]
    refine (checkBrackets_eq_ok_iff _).2 (.inr ⟨List.mem_append_left _ hmem, ?_, ?_⟩)
    · rw [ha, List.mem_append, List.mem_cons] at hclose
      rw [List.mem_append, List.mem_cons, rewrittenHost_of_ok hport]
      refine hclose.imp_right fun hclose => hclose.imp_right fun hclose => List.mem_append_left _ ?_
      rw [← hwritten] at hclose
      exact mem_host_of_mem_written hport hopen isUncased_close (by decide) (by decide) hclose
    · rw [hsame]
      exact checkBracketed_rewritten hport hline hopen hinside

/-! ### Lookalikes -/

theorem isUncased_of_lookalike {c : Char} (h : c.toNat ∈ lookalikes) : IsUncased c := by
  have hnew : ∀ n ∈ lookalikes, n ∉ Text.lowerPairs.map (·.2) := Text.notMem_of_codeSet (by decide +kernel)
  have hstays : ∀ n ∈ lookalikes, Text.lowerChar (Char.ofNat n) = Char.ofNat n ∧ (Char.ofNat n).isLower = false ∧
      Char.ofNat n ∉ ['Σ', 'İ', 'ς', 'σ', 'i', Char.ofNat 0x307] := by decide +kernel
  have hc := hstays c.toNat h
  rw [Char.ofNat_toNat] at hc
  exact Text.isUncased_of_notMem hc.1 hc.2.1 (hnew c.toNat h) hc.2.2

/-- No character of an authority that is put together can be taken for another one, if none of the one that is written
    can. -/
theorem checkLookalikes_rewritten {a : Text} (h : checkLookalikes a = .ok ()) : checkLookalikes (rewritten a) = .ok () := by
  have hsigns : ∀ n ∈ lookalikes, 128 ≤ n := by decide
  have hnone : (a.any fun c => lookalikes.contains c.toNat) = false := by
    rw [checkLookalikes] at h
    split at h
    · cases h
    · next hnone => simpa using hnone
  refine if_neg fun hany => ?_
  obtain ⟨c, hc, hlook⟩ := List.any_eq_true.1 hany
  have hcode := List.contains_iff_mem.1 hlook
  have hbig := hsigns _ hcode
  have hcolon : c ≠ ':' := by
    rintro rfl
    exact absurd hbig (by decide)
  have hdigit : c.isDigit = false := by
    refine Bool.eq_false_iff.2 fun hdigit => ?_
    have hsmall := (toNat_of_isDigit hdigit).2
    omega
  have hmem := mem_of_mem_rewritten (isUncased_of_lookalike hcode) hcolon hdigit hc
  rw [List.any_eq_false] at hnone
  exact hnone c hmem hlook

/-! ### Hosts that are kept -/

/-- An authority whose host needs no brackets: its port cannot be read, so that it stays as it is written, it has no
    brackets, or what is in them passes for the name of a host. -/
def IsRewritable (a : Text) : Prop :=
  (∃ e, port a = .error e) ∨ '[' ∉ written a ∨
    ('[' ∉ host a ∧ ':' ∉ host a ∧ checkBrackets (rewritten a) = .ok ())

/-- Such an authority is put together with the same host and port, and passes the check of brackets again. -/
theorem IsRewritable.keeps {a : Text} (h : IsRewritable a) (hbrackets : checkBrackets a = .ok ()) (hline : '\n' ∉ a) :
    host (rewritten a) = host a ∧ port (rewritten a) = port a ∧ checkBrackets (rewritten a) = .ok () := by
  cases hport : port a with
  | error e =>
    have hsame := hostAndPort_rewritten_of_error hport
    refine ⟨by rw [host_eq, hsame, host_eq], ?_, checkBrackets_rewritten_of_error hport hbrackets⟩
    rw [← hport, port_eq, hsame, port_eq]
  | ok p =>
    have hplain : '[' ∉ host a ∧ ':' ∉ host a ∧ checkBrackets (rewritten a) = .ok () := by
      rcases h with ⟨e, he⟩ | hopen | hplain
      · rw [hport] at he
        cases he
      · have hnone := notMem_host_of_notMem_written hopen
        exact ⟨hnone.1, hnone.2, checkBrackets_rewritten hport hbrackets hline hopen⟩
      · exact hplain
    exact ⟨host_rewritten hport hplain.1 hplain.2.1, hport ▸ port_rewritten hport hplain.1 hplain.2.1, hplain.2.2⟩

/-- Only such an authority keeps its host. -/
theorem isRewritable_of_host {a : Text} (h : host (rewritten a) = host a) (hbrackets : checkBrackets (rewritten a) = .ok ()) :
    IsRewritable a := by
  cases hport : port a with
  | error e => exact .inl ⟨e, hport⟩
  | ok p =>
    have hnone : ¬('[' ∈ host a ∨ ':' ∈ host a) := fun hmem => host_rewritten_ne hport hmem h
    rw [not_or] at hnone
    exact .inr (.inr ⟨hnone.1, hnone.2, hbrackets⟩)

end PageQuery.Url
