import PageQuery.Proofs.Number.Digits
import PageQuery.Proofs.Text.Case
import PageQuery.Url.Authority

namespace PageQuery.Url

/-!
# Hosts and ports are put together again

* `lowerHost_lowerHost`: a host in lower case stays as it is;
* `rewritten`: an authority put together from its host, its port and its user information;
* `userInfo_rewritten`, `written_rewritten`, `mem_of_mem_rewritten`: what is read of it, and the characters that it holds;
* `host_rewritten`, `port_rewritten`: it has the same host and port, unless the host needs its brackets;
* `host_rewritten_ne`: a host that needs its brackets is lost.
-/

open Text (IsUncased)

/-! ### Where the parts stand -/

/-- An authority either has no user information, or has it in front of its last `@`. -/
theorem authority_cases (a : Text) :
    ('@' ∉ a ∧ userInfo? a = none ∧ written a = a) ∨
      ∃ info w, '@' ∉ w ∧ a = info ++ '@' :: w ∧ userInfo? a = some info ∧ written a = w := by
  rw [userInfo?, written]
  rcases Text.cutLast_cases '@' a with ⟨hnone, hcut⟩ | ⟨info, w, hw, ha, hcut⟩
  · rw [hcut]
    exact .inl ⟨hnone, rfl, rfl⟩
  · rw [hcut]
    exact .inr ⟨info, w, hw, ha, rfl, rfl⟩

theorem notMem_written (a : Text) : '@' ∉ written a := by
  rcases authority_cases a with ⟨hnone, -, hw⟩ | ⟨info, w, hnone, -, -, hw⟩ <;> rwa [hw]

theorem mem_of_mem_written {a : Text} {c : Char} (h : c ∈ written a) : c ∈ a := by
  rcases authority_cases a with ⟨-, -, hw⟩ | ⟨info, w, -, ha, -, hw⟩
  · rwa [hw] at h
  · rw [ha]
    rw [hw] at h
    exact List.mem_append_right _ (List.mem_cons_of_mem _ h)

/-- Without a bracket, the host ends at the first colon. -/
theorem hostAndPort_of_notMem {a : Text} (h : '[' ∉ written a) :
    hostAndPort a = ((Text.cut ':' (written a)).1, (Text.cut ':' (written a)).2.filter fun p => !p.isEmpty) := by
  rw [hostAndPort, Text.cut_of_notMem h]

/-- With a bracket, the host stands behind the first one and ends at the next one that closes it. -/
theorem hostAndPort_of_append {a before inside : Text} (h : '[' ∉ before) (ha : written a = before ++ '[' :: inside) :
    hostAndPort a = ((Text.cut ']' inside).1,
      (Text.cut ':' ((Text.cut ']' inside).2.getD [])).2.filter fun p => !p.isEmpty) := by
  rw [hostAndPort, ha, Text.cut_append h]

theorem mem_of_mem_host_written {a : Text} {c : Char} (h : c ∈ (hostAndPort a).1) : c ∈ written a := by
  rcases Text.cut_cases '[' (written a) with ⟨hnone, -⟩ | ⟨before, inside, hbefore, ha, -⟩
  · rw [hostAndPort_of_notMem hnone] at h
    exact (Text.cut_fst_prefixed ':' _).subset h
  · rw [hostAndPort_of_append hbefore ha] at h
    rw [ha]
    exact List.mem_append_right _ (List.mem_cons_of_mem _ ((Text.cut_fst_prefixed ']' inside).subset h))

/-! ### Hosts in lower case -/

/-- A host in lower case, except for the name of a zone. -/
def lowerHost (t : Text) : Text :=
  Text.lower (Text.cut '%' t).1 ++ match (Text.cut '%' t).2 with
    | some z => '%' :: z
    | none => []

theorem host_eq (a : Text) : host a = lowerHost (hostAndPort a).1 := rfl

theorem lowerHost_of_notMem {t : Text} (h : '%' ∉ t) : lowerHost t = Text.lower t := by
  rw [lowerHost, Text.cut_of_notMem h, List.append_nil]

theorem lowerHost_append {name : Text} (h : '%' ∉ name) (zone : Text) :
    lowerHost (name ++ '%' :: zone) = Text.lower name ++ '%' :: zone := by
  rw [lowerHost, Text.cut_append h]

theorem isUncased_percent : IsUncased '%' := Text.isUncased_of_ascii (by decide) (by decide)

theorem isUncased_colon : IsUncased ':' := Text.isUncased_of_ascii (by decide) (by decide)

theorem isUncased_open : IsUncased '[' := Text.isUncased_of_ascii (by decide) (by decide)

theorem isUncased_close : IsUncased ']' := Text.isUncased_of_ascii (by decide) (by decide)

/-- A host in lower case stays as it is. -/
theorem lowerHost_lowerHost (t : Text) : lowerHost (lowerHost t) = lowerHost t := by
  rcases Text.cut_cases '%' t with ⟨h, -⟩ | ⟨name, zone, h, rfl, -⟩
  · have hlow : '%' ∉ Text.lower t := mt (Text.mem_lower_iff isUncased_percent).1 h
    rw [lowerHost_of_notMem h, lowerHost_of_notMem hlow, Text.lower_lower]
  · have hlow : '%' ∉ Text.lower name := mt (Text.mem_lower_iff isUncased_percent).1 h
    rw [lowerHost_append h, lowerHost_append hlow, Text.lower_lower]

/-- A host in lower case holds the same characters without case, each as often. -/
theorem count_lowerHost {d : Char} (h : IsUncased d) (t : Text) : (lowerHost t).count d = t.count d := by
  rcases Text.cut_cases '%' t with ⟨hnone, -⟩ | ⟨name, zone, hname, rfl, -⟩
  · rw [lowerHost_of_notMem hnone, Text.count_lower h]
  · rw [lowerHost_append hname, List.count_append, List.count_append, Text.count_lower h]

theorem mem_lowerHost_iff {d : Char} (h : IsUncased d) {t : Text} : d ∈ lowerHost t ↔ d ∈ t := by
  rw [← List.count_pos_iff, ← List.count_pos_iff, count_lowerHost h]

theorem mem_of_mem_host {a : Text} {d : Char} (h : IsUncased d) (hd : d ∈ host a) : d ∈ written a :=
  mem_of_mem_host_written ((mem_lowerHost_iff h).1 hd)

/-! ### Authorities that are put together -/

/-- A port behind the sign that introduces it. -/
def portText : Option Nat → Text
  | some n => ':' :: Text.ofNat n
  | none => []

/-- The host and the port put together. If the port cannot be read, both stay as they are written. -/
def rewrittenHost (a : Text) : Text :=
  match port a with
  | .ok p => host a ++ portText p
  | .error _ => written a

/-- An authority put together from its parts. User information that is empty is left out. -/
def rewritten (a : Text) : Text :=
  if (userInfo? a).getD [] = [] then rewrittenHost a else (userInfo? a).getD [] ++ '@' :: rewrittenHost a

theorem rewrittenHost_of_ok {a : Text} {p : Option Nat} (h : port a = .ok p) : rewrittenHost a = host a ++ portText p := by
  rw [rewrittenHost, h]

theorem mem_portText {p : Option Nat} {c : Char} (h : c ∈ portText p) : c = ':' ∨ c.isDigit = true := by
  cases p with
  | none => cases h
  | some n => exact (List.mem_cons.1 h).imp_right Numeral.isDigit_of_mem_ofNat

/-- Of the characters without case, other than those of ports, only those that were written are written again. -/
theorem mem_of_mem_rewrittenHost {a : Text} {d : Char} (h : IsUncased d) (hcolon : d ≠ ':') (hdigit : d.isDigit = false)
    (hd : d ∈ rewrittenHost a) : d ∈ written a := by
  rw [rewrittenHost] at hd
  split at hd
  · rcases List.mem_append.1 hd with hd | hd
    · exact mem_of_mem_host h hd
    · refine (mem_portText hd).elim (fun heq => absurd heq hcolon) fun heq => ?_
      rw [hdigit] at heq
      cases heq
  · exact hd

theorem notMem_rewrittenHost (a : Text) : '@' ∉ rewrittenHost a := by
  have huncased : IsUncased '@' := Text.isUncased_of_ascii (by decide) (by decide)
  exact fun hmem => notMem_written a (mem_of_mem_rewrittenHost huncased (by decide) (by decide) hmem)

theorem mem_of_mem_rewritten {a : Text} {d : Char} (h : IsUncased d) (hcolon : d ≠ ':') (hdigit : d.isDigit = false)
    (hd : d ∈ rewritten a) : d ∈ a := by
  have hhost : d ∈ rewrittenHost a → d ∈ a := fun hd =>
    mem_of_mem_written (mem_of_mem_rewrittenHost h hcolon hdigit hd)
  rw [rewritten] at hd
  split at hd
  · exact hhost hd
  · next hne =>
    rcases authority_cases a with ⟨-, hinfo, -⟩ | ⟨info, w, -, ha, hinfo, -⟩
    · rw [hinfo] at hne
      exact absurd rfl hne
    · rw [hinfo, Option.getD_some, List.mem_append, List.mem_cons] at hd
      rcases hd with hd | rfl | hd
      · rw [ha]
        exact List.mem_append_left _ hd
      · rw [ha]
        exact List.mem_append_right _ List.mem_cons_self
      · exact hhost hd

theorem written_rewritten (a : Text) : written (rewritten a) = rewrittenHost a := by
  rw [rewritten]
  split
  · rw [written, Text.cutLast_of_notMem (notMem_rewrittenHost a)]
  · rw [written, Text.cutLast_append (notMem_rewrittenHost a)]

/-- The user information is kept. -/
theorem userInfo_rewritten (a : Text) : (userInfo? (rewritten a)).getD [] = (userInfo? a).getD [] := by
  rw [rewritten]
  split
  · next hnil =>
    rw [userInfo?, Text.cutLast_of_notMem (notMem_rewrittenHost a), hnil]
    rfl
  · rw [userInfo?, Text.cutLast_append (notMem_rewrittenHost a), Option.getD_some]

/-! ### Hosts and ports that are read again -/

theorem hostAndPort_congr {a b : Text} (h : written a = written b) : hostAndPort a = hostAndPort b := by
  rw [hostAndPort, hostAndPort, h]

/-- A port is a row of digits that stands for a small number. -/
theorem port_eq (a : Text) :
    port a = match (hostAndPort a).2 with
      | none => .ok none
      | some t =>
        if t.all Char.isDigit then
          if Numeral.value t ≤ 65535 then .ok (some (Numeral.value t)) else .error .portRange
        else .error (.portText t) := by
  have hvalue : ∀ t : Text, t.foldl (fun n c => n * 10 + (c.toNat - 48)) 0 = Numeral.value t := by
    intro t
    have hstep : (fun (n : Nat) (c : Char) => n * 10 + (c.toNat - 48)) = fun n c => 10 * n + (c.toNat - 48) := by
      funext n c
      rw [Nat.mul_comm]
    rw [Numeral.value, Numeral.valueFrom, hstep]
  rw [port]
  cases (hostAndPort a).2 with
  | none => rfl
  | some t => simp only [hvalue]

theorem le_of_port_eq_some {a : Text} {n : Nat} (h : port a = .ok (some n)) : n ≤ 65535 := by
  rw [port_eq] at h
  split at h
  · cases h
  · split at h
    · split at h
      · next hle =>
        cases h
        exact hle
      · cases h
    · cases h

/-- The numeral of a small number is read as a port. -/
theorem port_of_hostAndPort {a : Text} {p : Option Nat} (h : (hostAndPort a).2 = p.map Text.ofNat)
    (hle : ∀ n ∈ p, n ≤ 65535) : port a = .ok p := by
  rw [port_eq, h]
  cases p with
  | none => rfl
  | some n =>
    have hdigits : (Text.ofNat n).all Char.isDigit = true := List.all_eq_true.2 fun c hc =>
      Numeral.isDigit_of_mem_ofNat hc
    simp [hdigits, Numeral.value_ofNat, hle n rfl]

section

variable {a : Text} {p : Option Nat}

/-- A host that has neither brackets nor colons and its port are read again. -/
theorem hostAndPort_rewritten (hport : port a = .ok p) (hopen : '[' ∉ host a) (hcolon : ':' ∉ host a) :
    hostAndPort (rewritten a) = (host a, p.map Text.ofNat) := by
  have hwritten : written (rewritten a) = host a ++ portText p := by
    rw [written_rewritten, rewrittenHost_of_ok hport]
  have hnone : '[' ∉ written (rewritten a) := by
    rw [hwritten, List.mem_append]
    rintro (hmem | hmem)
    · exact hopen hmem
    · exact (mem_portText hmem).elim (by decide) (by decide)
  rw [hostAndPort_of_notMem hnone, hwritten]
  cases p with
  | none =>
    rw [portText, List.append_nil, Text.cut_of_notMem hcolon]
    rfl
  | some n =>
    have hne : (!(Text.ofNat n).isEmpty) = true := by
      simpa using Numeral.ofNat_ne_nil n
    rw [portText, Text.cut_append hcolon, Option.filter_some, if_pos hne]
    rfl

theorem host_rewritten (hport : port a = .ok p) (hopen : '[' ∉ host a) (hcolon : ':' ∉ host a) :
    host (rewritten a) = host a := by
  rw [host_eq, hostAndPort_rewritten hport hopen hcolon, host_eq, lowerHost_lowerHost]

theorem port_rewritten (hport : port a = .ok p) (hopen : '[' ∉ host a) (hcolon : ':' ∉ host a) :
    port (rewritten a) = port a := by
  rw [hport]
  refine port_of_hostAndPort (congrArg Prod.snd (hostAndPort_rewritten hport hopen hcolon)) fun n hn => ?_
  exact le_of_port_eq_some (hport.trans (congrArg Except.ok hn))

/-- A host that stands outside brackets has none in it, and no colon either. -/
theorem notMem_host_of_notMem_written (h : '[' ∉ written a) : '[' ∉ host a ∧ ':' ∉ host a := by
  refine ⟨fun hmem => h (mem_of_mem_host isUncased_open hmem), fun hmem => ?_⟩
  rw [host_eq, mem_lowerHost_iff isUncased_colon, hostAndPort_of_notMem h] at hmem
  exact Text.notMem_cut_fst ':' _ hmem

/-- An authority whose port cannot be read has the same host and port, since both stay as they are written. -/
theorem hostAndPort_rewritten_of_error {e : Error} (h : port a = .error e) :
    hostAndPort (rewritten a) = hostAndPort a := by
  refine hostAndPort_congr ?_
  rw [written_rewritten, rewrittenHost, h]

/-- A host that has a bracket or a colon in it is not read again, since it is written without brackets around it. -/
theorem host_rewritten_ne (hport : port a = .ok p) (h : '[' ∈ host a ∨ ':' ∈ host a) : host (rewritten a) ≠ host a := by
  have hwritten : written (rewritten a) = host a ++ portText p := by
    rw [written_rewritten, rewrittenHost_of_ok hport]
  intro heq
  rcases Text.cut_cases '[' (written (rewritten a)) with ⟨hnone, -⟩ | ⟨before, inside, hbefore, hcut, -⟩
  · -- the host that is read ends at the first colon
    have hmem : ':' ∈ host a := h.resolve_left fun hmem => hnone (hwritten ▸ List.mem_append_left _ hmem)
    rw [← heq, host_eq, mem_lowerHost_iff isUncased_colon, hostAndPort_of_notMem hnone] at hmem
    exact Text.notMem_cut_fst ':' _ hmem
  · -- the host that is read stands behind the first bracket, which is the host's own, so that it has fewer of them
    have hport' : (portText p).count '[' = 0 := List.count_eq_zero.2 fun hmem =>
      (mem_portText hmem).elim (by decide) (by decide)
    have hcount : (host a).count '[' = (before ++ '[' :: inside).count '[' := by
      rw [← hcut, hwritten, List.count_append, hport', Nat.add_zero]
    have hread : (host (rewritten a)).count '[' ≤ inside.count '[' := by
      rw [host_eq, count_lowerHost isUncased_open, hostAndPort_of_append hbefore hcut]
      exact (Text.cut_fst_prefixed ']' inside).sublist.count_le _
    rw [heq, hcount, List.count_append, List.count_cons_self] at hread
    omega

end

end PageQuery.Url
