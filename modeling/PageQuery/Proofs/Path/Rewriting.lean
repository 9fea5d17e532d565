import PageQuery.Path.Address
import PageQuery.Proofs.Ordered.Grouping
import PageQuery.Proofs.Run
import PageQuery.Proofs.Url.Brackets
import PageQuery.Proofs.Url.Parts
import PageQuery.Proofs.Url.Percent

namespace PageQuery

/-!
# Addresses with other parameters

An address whose query is changed is taken apart and put together again. Its query is then the old one overlaid by the
parameters, and all else is as before, but for a host that needs the brackets that it loses.

* `Path.IsOrdinary`: parameters of which none stands for a part of the address;
* `Path.overlaid`: the parts of an address with such parameters, and `Path.changed_eq`, the address itself;
* `Path.group_changed`: the names and values that are read from its query;
* `Path.address_changed_iff`: the addresses whose other parts are as before.
-/

namespace Path

/-- The names of parameters that stand for parts of an address, or for names that are to be dropped. -/
def componentNames : List Text := ["_scheme", "_host", "_port", "_path", "_fragment", "_userInfo", "_remove"]

/-- Parameters of the query only. -/
def IsOrdinary (parameters : Ordered (List Text)) : Prop := ∀ name ∈ Ordered.keys parameters, name ∉ componentNames

/-- The parts of an address with parameters in its query. -/
def overlaid (u : Url.Parts) (parameters : Ordered (List Text)) : Url.Parts where
  scheme := u.scheme
  authority := Url.rewritten u.authority
  path := u.path
  query := Url.writePairs (Ordered.overlay (Ordered.group (Url.readPairs u.query)) parameters)
  fragment := u.fragment

/-! ### How an address is changed -/

/-- An ordinary parameter is one of the query. -/
theorem Draft.apply_of_notMem {name : Text} (h : name ∉ componentNames) (d : Draft) (values : List Text) :
    d.apply name values = pure { d with query := Ordered.put name values d.query } := by
  have hne : ∀ s : String, s.toList ∈ componentNames → String.ofList name ≠ s := by
    rintro s hs rfl
    rw [String.toList_ofList] at hs
    exact h hs
  unfold Draft.apply
  split
  · next heq => exact absurd heq (hne "_scheme" (by decide))
  · next heq => exact absurd heq (hne "_host" (by decide))
  · next heq => exact absurd heq (hne "_port" (by decide))
  · next heq => exact absurd heq (hne "_path" (by decide))
  · next heq => exact absurd heq (hne "_fragment" (by decide))
  · next heq => exact absurd heq (hne "_userInfo" (by decide))
  · next heq => exact absurd heq (hne "_remove" (by decide))
  · rfl

/-- Ordinary parameters change the query only. -/
theorem Draft.foldlM_apply {parameters : Ordered (List Text)} (h : IsOrdinary parameters) (d : Draft) :
    parameters.foldlM (fun d (name, values) => d.apply name values) d =
      pure { d with query := Ordered.overlay d.query parameters } := by
  induction parameters generalizing d with
  | nil => rfl
  | cons p parameters ih =>
    rcases p with ⟨name, values⟩
    obtain ⟨hname, hrest⟩ := List.forall_mem_cons.1 h
    rw [List.foldlM_cons]
    show (d.apply name values >>= fun d => _) = _
    rw [Draft.apply_of_notMem hname, pure_bind, ih hrest]
    rfl

/-- The address of a draft whose query alone has been changed. -/
theorem Draft.text_ofParts (u : Url.Parts) (query : Ordered (List Text)) :
    { Draft.ofParts u with query := query : Draft }.text =
      Url.join ⟨u.scheme, Url.rewritten u.authority, u.path, Url.writePairs query, u.fragment⟩ := by
  have hnumeral : ∀ n : Nat, Text.ofInt n = Text.ofNat n := fun n => rfl
  -- the port is unreadable, missing or read, and the user information missing or not
  rcases hport : Url.port u.authority with e | _ | n <;> rcases hinfo : Url.userInfo? u.authority with _ | info <;>
    simp [Draft.text, Draft.ofParts, Url.rewritten, Url.rewrittenHost, Url.portText, hport, hinfo, hnumeral]

theorem changed_eq {parameters : Ordered (List Text)} (h : IsOrdinary parameters) (t : Text) :
    changed t parameters = do return Url.join (overlaid (← split t) parameters) := by
  rw [changed]
  refine bind_congr fun u => ?_
  show (parameters.foldlM _ (Draft.ofParts u) >>= fun d => pure d.text) = _
  rw [Draft.foldlM_apply h, pure_bind, Draft.text_ofParts]
  rfl

/-! ### Addresses that have been changed -/

/-- The parts of an address are such as are read, with parameters in its query, too. -/
theorem isRead_overlaid {u : Url.Parts} (h : u.IsRead) (parameters : Ordered (List Text)) :
    (overlaid u parameters).IsRead := by
  have hsigns : ∀ c ∈ ['/', '?', '#', '\t', '\r', '\n'], c ∈ Url.rewritten u.authority → c ∈ u.authority := by
    have hplain : ∀ c ∈ ['/', '?', '#', '\t', '\r', '\n'],
        c.toNat < 128 ∧ c.isAlpha = false ∧ c ≠ ':' ∧ c.isDigit = false := Text.forall_mem_of_all (by decide)
    intro c hc
    obtain ⟨hascii, halpha, hcolon, hdigit⟩ := hplain c hc
    exact Url.mem_of_mem_rewritten (Text.isUncased_of_ascii hascii halpha) hcolon hdigit
  have hquery : ∀ c ∈ (overlaid u parameters).query, 32 < c.toNat ∧ c ≠ '#' := by
    intro c hc
    rcases Url.mem_writePairs hc with hc | rfl | rfl
    · refine ⟨hc.toNat_bounds.1, ?_⟩
      rintro rfl
      revert hc
      decide
    · decide
    · decide
  refine ⟨h.scheme, h.schemeless, h.start, fun c hc => ?_, fun hne => h.rooted fun hnil => hne ?_, h.path,
    fun hc => (hquery '#' hc).2 rfl, fun c hc => ?_⟩
  · refine Bool.eq_false_iff.2 fun hends => ?_
    have hmem : c ∈ ['/', '?', '#', '\t', '\r', '\n'] := by
      simp only [Url.endsAuthority, Bool.or_eq_true, beq_iff_eq] at hends
      rcases hends with (rfl | rfl) | rfl <;> decide
    rw [h.authority c (hsigns c hmem hc)] at hends
    cases hends
  · show Url.rewritten u.authority = []
    rw [hnil]
    rfl
  · have hvisible := h.visible c
    rw [List.mem_append, List.mem_append, List.mem_append] at hc hvisible
    rcases hc with hc | hc | hc | hc
    · refine Bool.eq_false_iff.2 fun hskipped => ?_
      have hmem : c ∈ ['/', '?', '#', '\t', '\r', '\n'] := by
        simp only [Url.isSkipped, Bool.or_eq_true, beq_iff_eq] at hskipped
        rcases hskipped with (rfl | rfl) | rfl <;> decide
      rw [hvisible (.inl (hsigns c hmem hc))] at hskipped
      cases hskipped
    · exact hvisible (.inr (.inl hc))
    · exact Url.isSkipped_of_lt (hquery c hc).1
    · exact hvisible (.inr (.inr (.inr hc)))

section

variable {t : Text} {u : Url.Parts} {parameters : Ordered (List Text)}

theorem split_of_ok (h : Url.split t = .ok u) : split t = pure u := by
  rw [split, h]
  rfl

theorem split_of_error {e : Url.Error} (h : Url.split t = .error e) : split t = throw (.url e) := by
  rw [split, h]
  rfl

/-- An address that is taken apart is changed, and nothing is noted. -/
theorem changed_of_split (hsplit : Url.split t = .ok u) (h : IsOrdinary parameters) :
    changed t parameters = pure (Url.join (overlaid u parameters)) := by
  rw [changed_eq h, split_of_ok hsplit, pure_bind]

/-- A changed address is taken apart again if its authority passes the checks. -/
theorem split_changed (hsplit : Url.split t = .ok u) (parameters : Ordered (List Text)) :
    Url.split (Url.join (overlaid u parameters)) = do
      Url.checkBrackets (Url.rewritten u.authority)
      Url.checkLookalikes (Url.rewritten u.authority)
      return { overlaid u parameters with path := Url.writtenPath (overlaid u parameters) } :=
  (isRead_overlaid (Url.isRead_of_split hsplit) parameters).split_join

end

/-! ### The query -/

/-- Whatever stands in names and values, the query of an address that is changed is read as the old one overlaid by the
    parameters: each name that was there keeps its place, with the values that the parameters have for it, if they have
    any, and new names come last, in the order of the parameters. A name with an empty list of values is gone. -/
theorem group_changed {t t' : Text} {parameters : Ordered (List Text)} {s s' : Session} {u' : Url.Parts}
    (hn : (Ordered.keys parameters).Nodup) (hordinary : IsOrdinary parameters)
    (hexec : (changed t parameters).exec s = (.ok t', s')) (hsplit' : Url.split t' = .ok u') :
    s' = s ∧ ∃ u, Url.split t = .ok u ∧
      Ordered.group (Url.readPairs u'.query) =
        ((Ordered.group (Url.readPairs u.query)).map (fun e => (e.1, (Ordered.get? parameters e.1).getD e.2)) ++
          parameters.filter fun e => !Ordered.contains (Ordered.group (Url.readPairs u.query)) e.1).filter
            fun e => !e.2.isEmpty := by
  cases hsplit : Url.split t with
  | error e =>
    rw [changed_eq hordinary, split_of_error hsplit] at hexec
    cases hexec
  | ok u =>
    rw [changed_of_split hsplit hordinary] at hexec
    obtain ⟨heq, rfl⟩ := Prod.mk.inj hexec
    obtain rfl := Except.ok.inj heq
    rw [split_changed hsplit] at hsplit'
    obtain ⟨⟨⟩, -, hsplit'⟩ := bind_eq_ok_iff.1 hsplit'
    obtain ⟨⟨⟩, -, hsplit'⟩ := bind_eq_ok_iff.1 hsplit'
    obtain rfl := Except.ok.inj hsplit'
    have hold : (Ordered.keys (Ordered.group (Url.readPairs u.query))).Nodup := Ordered.nodup_keys_group _
    refine ⟨rfl, u, rfl, ?_⟩
    show Ordered.group (Url.readPairs (Url.writePairs (Ordered.overlay _ parameters))) = _
    rw [Url.readPairs_writePairs, Ordered.group_flatMap ((Ordered.extends_overlay _ parameters).nodup hold),
      Ordered.overlay_eq_append hold hn]

/-- Signs that mean something in addresses stand in the names and values, and a name that was there twice is given an
    empty list. -/
theorem group_changed_signs :
    ∃ (t t' : Text) (parameters : Ordered (List Text)),
      t = "HTTP://u@Ex.org:080/p;q?a=1&b=%20x&a=+2&=e#f" ∧
      parameters = ([("b", ["q&r=#s+%", "é ?"]), ("c d", [""]), ("a", [])] : Ordered (List Text)) ∧
      t' = "http://u@ex.org:80/p;q?b=q%26r%3D%23s%2B%25&b=%C3%A9+%3F&=e&c+d=#f" ∧
      (Ordered.keys parameters).Nodup ∧ IsOrdinary parameters ∧ (changed t parameters).exec {} = (.ok t', {}) ∧
      ∃ u', Url.split t' = .ok u' ∧ Ordered.group (Url.readPairs u'.query) =
        ([("b", ["q&r=#s+%", "é ?"]), ("", ["e"]), ("c d", [""])] : Ordered (List Text)) := by
  refine ⟨_, _, _, rfl, rfl, rfl, ?_⟩
  have hsplit : Url.split "HTTP://u@Ex.org:080/p;q?a=1&b=%20x&a=+2&=e#f" =
      .ok ⟨"http", "u@Ex.org:080", "/p;q", "a=1&b=%20x&a=+2&=e", "f"⟩ := rfl
  have hordinary : IsOrdinary [("b", ["q&r=#s+%", "é ?"]), ("c d", [""]), ("a", [])] := by
    unfold IsOrdinary
    decide
  have hexec : (changed "HTTP://u@Ex.org:080/p;q?a=1&b=%20x&a=+2&=e#f"
      [("b", ["q&r=#s+%", "é ?"]), ("c d", [""]), ("a", [])]).exec {} =
        (.ok "http://u@ex.org:80/p;q?b=q%26r%3D%23s%2B%25&b=%C3%A9+%3F&=e&c+d=#f", {}) := by
    rw [changed_of_split hsplit hordinary]
    rfl
  have hsplit' : Url.split "http://u@ex.org:80/p;q?b=q%26r%3D%23s%2B%25&b=%C3%A9+%3F&=e&c+d=#f" =
      .ok ⟨"http", "u@ex.org:80", "/p;q", "b=q%26r%3D%23s%2B%25&b=%C3%A9+%3F&=e&c+d=", "f"⟩ := rfl
  refine ⟨by decide, hordinary, hexec, _, hsplit', ?_⟩
  obtain ⟨-, u, hu, hgroup⟩ := group_changed (by decide) hordinary hexec hsplit'
  obtain rfl := Except.ok.inj (hsplit.symm.trans hu)
  exact hgroup.trans rfl

/-! ### The other parts -/

/-- The names of the parts of an address other than the query. -/
def otherParts : List Text := ["scheme", "host", "port", "path", "fragment", "userInfo"]

section

variable {t part : Text} {u u' : Url.Parts} {parameters : Ordered (List Text)}

/-- Without parameters, the parts are those of the address. -/
theorem address_nil (t : Text) (hpart : part ≠ []) :
    address t part [] = do return partsOf (← split t) part := by
  have hfull : part.isEmpty = false := List.isEmpty_eq_false_iff.2 hpart
  simp [address, hfull]

theorem address_of_split (hsplit : Url.split t = .ok u) (hpart : part ≠ []) :
    address t part [] = pure (partsOf u part) := by
  rw [address_nil t hpart, split_of_ok hsplit, pure_bind]

/-- With parameters, they are those of the address that is changed by them. -/
theorem address_of_changed (hsplit : Url.split t = .ok u) (hordinary : IsOrdinary parameters) (hne : parameters ≠ []) :
    address t part parameters = address (Url.join (overlaid u parameters)) part [] := by
  rw [address, address, List.isEmpty_eq_false_iff.2 hne, if_neg Bool.false_ne_true, changed_of_split hsplit hordinary,
    List.isEmpty_nil, if_pos rfl]

/-- A changed address that is taken apart has the authority that is put together, which passes the check of brackets,
    and else the parts that it had. -/
theorem split_changed_eq_ok (hsplit : Url.split t = .ok u) (hauthority : u.authority ≠ [])
    (hsplit' : Url.split (Url.join (overlaid u parameters)) = .ok u') :
    Url.checkBrackets (Url.rewritten u.authority) = .ok () ∧ u' = overlaid u parameters := by
  rw [split_changed hsplit] at hsplit'
  obtain ⟨⟨⟩, hbrackets, hsplit'⟩ := bind_eq_ok_iff.1 hsplit'
  obtain ⟨⟨⟩, -, hsplit'⟩ := bind_eq_ok_iff.1 hsplit'
  obtain rfl := Except.ok.inj hsplit'
  have hpath : Url.writtenPath (overlaid u parameters) = (overlaid u parameters).path :=
    Url.writtenPath_of_head ((Url.isRead_of_split hsplit).rooted hauthority)
  rw [hpath]
  exact ⟨hbrackets, rfl⟩

/-- The host of a changed address is as before only if it does not need the brackets that it loses. -/
theorem isRewritable_of_address (hsplit : Url.split t = .ok u) (hauthority : u.authority ≠ [])
    (hordinary : IsOrdinary parameters) (hne : parameters ≠ [])
    (hhost : address t "host" parameters = address t "host" []) : Url.IsRewritable u.authority := by
  rw [address_of_changed hsplit hordinary hne, address_of_split hsplit (by decide)] at hhost
  have hexec := congrArg (fun r => (Run.exec r {}).1) hhost
  cases hsplit' : Url.split (Url.join (overlaid u parameters)) with
  | error e =>
    rw [address_nil _ (by decide), split_of_error hsplit'] at hexec
    cases hexec
  | ok u' =>
    obtain ⟨hbrackets, rfl⟩ := split_changed_eq_ok hsplit hauthority hsplit'
    rw [address_of_split hsplit' (by decide)] at hexec
    have hread : [Value.text (Url.host (Url.rewritten u.authority))] = [Value.text (Url.host u.authority)] :=
      Except.ok.inj hexec
    refine Url.isRewritable_of_host ?_ hbrackets
    simpa using hread

/-- An address whose host does not need brackets is taken apart again after it has been changed, and its host and port
    are as before. -/
theorem split_changed_of_isRewritable (hsplit : Url.split t = .ok u) (hauthority : u.authority ≠ [])
    (h : Url.IsRewritable u.authority) (parameters : Ordered (List Text)) :
    Url.split (Url.join (overlaid u parameters)) = .ok (overlaid u parameters) ∧
      Url.host (Url.rewritten u.authority) = Url.host u.authority ∧
      Url.port (Url.rewritten u.authority) = Url.port u.authority := by
  obtain ⟨-, -, -, -, -, -, -, hbrackets, hlookalikes⟩ := Url.split_eq_ok hsplit
  have hline : '\n' ∉ u.authority := by
    intro hmem
    have hvisible := (Url.isRead_of_split hsplit).visible '\n' (List.mem_append_left _ hmem)
    revert hvisible
    decide
  obtain ⟨hhost, hport, hbrackets'⟩ := h.keeps hbrackets hline
  have hsplit' := split_changed hsplit parameters
  rw [hbrackets', Url.checkLookalikes_rewritten hlookalikes] at hsplit'
  obtain ⟨-, heq⟩ := split_changed_eq_ok hsplit hauthority hsplit'
  rw [heq] at hsplit'
  exact ⟨hsplit', hhost, hport⟩

/-- Of the parts other than the query, only the host and the port may change with the authority. -/
theorem partsOf_overlaid (hpart : part ∈ otherParts) (hhost : Url.host (Url.rewritten u.authority) = Url.host u.authority)
    (hport : Url.port (Url.rewritten u.authority) = Url.port u.authority) :
    partsOf (overlaid u parameters) part = partsOf u part := by
  have huser := Url.userInfo_rewritten u.authority
  simp only [otherParts, List.mem_cons, List.not_mem_nil, or_false] at hpart
  rcases hpart with rfl | rfl | rfl | rfl | rfl | rfl
  · rfl
  · exact congrArg (fun t => [Value.text t]) hhost
  · show portOf _ = portOf _
    rw [portOf, portOf, overlaid, hport]
  · rfl
  · rfl
  · exact congrArg (fun t => [Value.text t]) huser

end

end Path

end PageQuery
