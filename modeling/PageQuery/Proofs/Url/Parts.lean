import PageQuery.Proofs.Except
import PageQuery.Proofs.Text
import PageQuery.Url.Parts

namespace PageQuery.Url

/-!
# Addresses are taken apart again

* `IsScheme`, `Schemeless`: what may stand in front of the first colon, and a text that starts with nothing of the kind;
* `Parts.IsRead`: what the parts of every address that is taken apart have in common;
* `isRead_of_split`: they have it;
* `Parts.IsRead.split_join`: such parts, put together, are taken apart again.
-/

/-! ### Schemes -/

/-- A name that may stand in front of the first colon. -/
def IsScheme : Text → Prop
  | [] => False
  | c :: name => c.isAlpha = true ∧ name.all isSchemeChar = true

/-- A text that does not start with a scheme. -/
def Schemeless (t : Text) : Prop := ∀ name rest, IsScheme name → t ≠ name ++ ':' :: rest

namespace IsScheme

variable {t : Text}

theorem ne_nil (h : IsScheme t) : t ≠ [] := by
  rintro rfl
  exact h

theorem isSchemeChar_of_mem (h : IsScheme t) {c : Char} (hc : c ∈ t) : isSchemeChar c = true := by
  cases t with
  | nil => cases hc
  | cons d name =>
    rcases List.mem_cons.1 hc with rfl | hc
    · simp [isSchemeChar, Char.isAlphanum, h.1]
    · exact List.all_eq_true.1 h.2 c hc

theorem notMem (h : IsScheme t) {c : Char} (hc : isSchemeChar c = false) : c ∉ t := by
  intro hmem
  rw [h.isSchemeChar_of_mem hmem] at hc
  cases hc

end IsScheme

theorem toNat_of_isSchemeChar {c : Char} (h : isSchemeChar c = true) : 32 < c.toNat ∧ c.toNat < 128 := by
  rw [isSchemeChar, Bool.or_eq_true, Bool.or_eq_true, Bool.or_eq_true, beq_iff_eq, beq_iff_eq, beq_iff_eq] at h
  rcases h with ((h | rfl) | rfl) | rfl
  · have hword := Text.toNat_of_isAlphanum h
    omega
  all_goals decide

/-- Small letters may stand wherever capital letters may, and stay as they are. -/
theorem isScheme_toLower {t : Text} (h : IsScheme t) :
    IsScheme (t.map Char.toLower) ∧ (t.map Char.toLower).map Char.toLower = t.map Char.toLower := by
  have hchar : ∀ c ∈ t, (c.isAlpha = true → c.toLower.isAlpha = true) ∧
      (isSchemeChar c = true → isSchemeChar c.toLower = true) ∧ c.toLower.toLower = c.toLower := by
    intro c hc
    refine Text.of_toNat_lt (toNat_of_isSchemeChar (h.isSchemeChar_of_mem hc)).2 ?_
    decide +kernel
  constructor
  · cases t with
    | nil => exact h
    | cons c name =>
      refine ⟨(hchar c List.mem_cons_self).1 h.1, ?_⟩
      rw [List.all_map, List.all_eq_true]
      exact fun d hd => (hchar d (List.mem_cons_of_mem c hd)).2.1 (List.all_eq_true.1 h.2 d hd)
  · rw [List.map_map]
    exact List.map_congr_left fun c hc => (hchar c hc).2.2

theorem splitScheme_append {name : Text} (h : IsScheme name) (rest : Text) :
    splitScheme (name ++ ':' :: rest) = (name.map Char.toLower, rest) := by
  have hcut := Text.cut_append (h.notMem (by decide : isSchemeChar ':' = false)) rest
  cases name with
  | nil => exact h.elim
  | cons c name =>
    rw [splitScheme, hcut]
    simp only [h.1, h.2, Bool.and_self, if_true]

theorem splitScheme_of_schemeless {t : Text} (h : Schemeless t) : splitScheme t = ([], t) := by
  rw [splitScheme]
  split
  · next c name rest hcut =>
    refine if_neg fun hscheme => ?_
    rw [Bool.and_eq_true] at hscheme
    exact h (c :: name) rest hscheme (Text.eq_of_cut_eq_some hcut)
  · rfl

/-- An address either starts with a scheme, or is left as it is. -/
theorem splitScheme_cases (t : Text) :
    (∃ name rest, IsScheme name ∧ t = name ++ ':' :: rest ∧ splitScheme t = (name.map Char.toLower, rest)) ∨
      (Schemeless t ∧ splitScheme t = ([], t)) := by
  by_cases h : Schemeless t
  · exact .inr ⟨h, splitScheme_of_schemeless h⟩
  · simp only [Schemeless, Classical.not_forall, Classical.not_not] at h
    obtain ⟨name, rest, hname, rfl⟩ := h
    exact .inl ⟨name, rest, hname, rfl, splitScheme_append hname rest⟩

/-- What stands behind the scheme is the whole address if there is no scheme. -/
theorem splitScheme_spec {t scheme rest : Text} (h : splitScheme t = (scheme, rest)) :
    rest <:+ t ∧ ((scheme = [] ∧ rest = t ∧ Schemeless t) ∨ (IsScheme scheme ∧ scheme.map Char.toLower = scheme)) := by
  rcases splitScheme_cases t with ⟨name, after, hname, rfl, hsplit⟩ | ⟨hnone, hsplit⟩
  · cases hsplit.symm.trans h
    exact ⟨(List.suffix_cons ':' rest).trans (List.suffix_append name _), .inr (isScheme_toLower hname)⟩
  · cases hsplit.symm.trans h
    exact ⟨List.suffix_rfl, .inl ⟨rfl, rfl, hnone⟩⟩

namespace Schemeless

variable {t : Text}

theorem of_prefixed (h : Schemeless t) {u : Text} (hu : u <+: t) : Schemeless u := by
  obtain ⟨v, rfl⟩ := hu
  rintro name rest hname rfl
  exact h name (rest ++ v) hname (by simp)

theorem of_head {c : Char} (hc : c.isAlpha = false) (t : Text) : Schemeless (c :: t) := by
  intro name rest hname heq
  cases name with
  | nil => exact hname
  | cons d name =>
    obtain ⟨rfl, -⟩ := List.cons.inj heq
    rw [hname.1] at hc
    cases hc

/-- A path that starts with a slash. -/
theorem of_rooted (h : ∀ c ∈ t.head?, c = '/') : Schemeless t := by
  cases t with
  | nil => exact fun name rest _ heq => by simp at heq
  | cons c t =>
    rw [h c rfl]
    exact of_head (by decide) t

/-- What starts with another sign than those of schemes may follow. -/
theorem append (h : Schemeless t) {u : Text} (hu : ∀ c ∈ u.head?, isSchemeChar c = false ∧ c ≠ ':') :
    Schemeless (t ++ u) := by
  intro name rest hname heq
  rcases List.append_eq_append_iff.1 heq with ⟨v, rfl, hv⟩ | ⟨v, rfl, hv⟩
  · cases v with
    | nil =>
      subst hv
      exact (hu ':' rfl).2 rfl
    | cons c v =>
      subst hv
      exact hname.notMem (hu c rfl).1 (by simp)
  · cases v with
    | nil =>
      subst hv
      exact (hu ':' rfl).2 rfl
    | cons c v =>
      obtain ⟨rfl, rfl⟩ := List.cons.inj hv
      exact h name v hname rfl

end Schemeless

/-! ### Authorities -/

/-- Whether a character ends the authority. -/
def endsAuthority (c : Char) : Bool := c == '/' || c == '?' || c == '#'

theorem splitAuthority_append {a rest : Text} (ha : ∀ c ∈ a, endsAuthority c = false)
    (hrest : ∀ c ∈ rest.head?, endsAuthority c = true) : splitAuthority ('/' :: '/' :: (a ++ rest)) = (a, rest) := by
  have htake : (a ++ rest).takeWhile (fun c => !endsAuthority c) = a := by
    rw [List.takeWhile_append_of_pos fun c hc => by simp [ha c hc]]
    cases rest with
    | nil => simp
    | cons c rest => rw [List.takeWhile_cons_of_neg (by simp [hrest c rfl]), List.append_nil]
  show ((a ++ rest).takeWhile (fun c => !endsAuthority c),
    (a ++ rest).drop ((a ++ rest).takeWhile (fun c => !endsAuthority c)).length) = (a, rest)
  rw [htake, List.drop_left]

theorem splitAuthority_of_not {t : Text} (h : ¬['/', '/'] <+: t) : splitAuthority t = ([], t) := by
  rw [splitAuthority.eq_2]
  rintro u rfl
  exact h (List.prefix_append ['/', '/'] u)

/-- What stands behind the scheme either starts with two slashes and an authority, or is left as it is. -/
theorem splitAuthority_cases (t : Text) :
    (∃ a rest, (∀ c ∈ a, endsAuthority c = false) ∧ (∀ c ∈ rest.head?, endsAuthority c = true) ∧
        t = '/' :: '/' :: (a ++ rest) ∧ splitAuthority t = (a, rest)) ∨
      (¬['/', '/'] <+: t ∧ splitAuthority t = ([], t)) := by
  by_cases h : ['/', '/'] <+: t
  · obtain ⟨u, rfl⟩ := h
    have hsplit := List.takeWhile_append_dropWhile (p := fun c => !endsAuthority c) (l := u)
    have ha : ∀ c ∈ u.takeWhile fun c => !endsAuthority c, endsAuthority c = false := fun c hc => by
      simpa using List.all_eq_true.1 List.all_takeWhile c hc
    have hrest : ∀ c ∈ (u.dropWhile fun c => !endsAuthority c).head?, endsAuthority c = true := fun c hc => by
      have hhead := List.head?_dropWhile_not (fun c => !endsAuthority c) u
      rw [Option.mem_def.1 hc] at hhead
      simpa using hhead
    refine .inl ⟨_, _, ha, hrest, ?_, ?_⟩
    · rw [hsplit]
      rfl
    · rw [← splitAuthority_append ha hrest, hsplit]
      rfl
  · exact .inr ⟨h, splitAuthority_of_not h⟩

/-- What stands behind the authority starts with a sign that ends one, or there is no authority. -/
theorem splitAuthority_spec {t a rest : Text} (h : splitAuthority t = (a, rest)) :
    (∀ c ∈ a, endsAuthority c = false) ∧ ((∀ c ∈ rest.head?, endsAuthority c = true) ∨ (a = [] ∧ rest = t)) ∧
      ∀ c ∈ a ++ rest, c ∈ t := by
  rcases splitAuthority_cases t with ⟨a', rest', ha, hrest, rfl, hsplit⟩ | ⟨-, hsplit⟩
  · cases hsplit.symm.trans h
    exact ⟨ha, .inl hrest, fun c hc => List.mem_cons_of_mem _ (List.mem_cons_of_mem _ hc)⟩
  · cases hsplit.symm.trans h
    exact ⟨fun _ hc => absurd hc List.not_mem_nil, .inr ⟨rfl, rfl⟩, fun c hc => hc⟩

/-! ### Queries and fragments -/

/-- A part of an address behind the sign that introduces it; an empty part is left out. -/
def marked (c : Char) (t : Text) : Text := if t.isEmpty then [] else c :: t

theorem head?_marked {c d : Char} {t : Text} (h : d ∈ (marked c t).head?) : d = c := by
  rw [marked] at h
  split at h
  · cases h
  · exact (Option.some.inj h).symm

theorem mem_marked {c d : Char} {t : Text} (h : d ∈ marked c t) : d = c ∨ d ∈ t := by
  rw [marked] at h
  split at h
  · cases h
  · exact List.mem_cons.1 h

/-- A part that stands behind its sign is cut off again. -/
theorem cut_append_marked {c : Char} {t : Text} (h : c ∉ t) (u : Text) :
    (Text.cut c (t ++ marked c u)).1 = t ∧ (Text.cut c (t ++ marked c u)).2.getD [] = u := by
  rw [marked]
  split
  · next hu =>
    rw [List.append_nil, Text.cut_of_notMem h, List.isEmpty_iff.1 hu]
    exact ⟨rfl, rfl⟩
  · rw [Text.cut_append h]
    exact ⟨rfl, rfl⟩

/-! ### Signs that are passed over -/

/-- A character that is passed over wherever it stands. -/
def isSkipped (c : Char) : Bool := c == '\t' || c == '\r' || c == '\n'

theorem isSkipped_of_lt {c : Char} (h : 32 < c.toNat) : isSkipped c = false := by
  have hne : c ≠ '\t' ∧ c ≠ '\r' ∧ c ≠ '\n' := by
    refine ⟨?_, ?_, ?_⟩ <;> rintro rfl <;> exact absurd h (by decide)
  simp [isSkipped, hne]

theorem clean_eq_self {t : Text} (hstart : ∀ c ∈ t.head?, 32 < c.toNat) (h : ∀ c ∈ t, isSkipped c = false) :
    clean t = t := by
  have hdrop : (t.dropWhile fun c => decide (c.toNat ≤ 32)) = t := by
    cases t with
    | nil => rfl
    | cons c t =>
      have hc := hstart c rfl
      exact List.dropWhile_cons_of_neg (by simpa using hc)
  show (t.dropWhile fun c => decide (c.toNat ≤ 32)).filter (fun c => !isSkipped c) = t
  rw [hdrop]
  exact List.filter_eq_self.2 fun c hc => by simp [h c hc]

theorem isSkipped_of_mem_clean {t : Text} {c : Char} (h : c ∈ clean t) : isSkipped c = false := by
  have hc : c ∈ (t.dropWhile fun c => decide (c.toNat ≤ 32)).filter fun c => !isSkipped c := h
  simpa using (List.mem_filter.1 hc).2

theorem head?_clean {t : Text} {c : Char} (h : c ∈ (clean t).head?) : 32 < c.toNat := by
  have hdrop := List.head?_dropWhile_not (fun c : Char => decide (c.toNat ≤ 32)) t
  have hc : c ∈ ((t.dropWhile fun c => decide (c.toNat ≤ 32)).filter fun c => !isSkipped c).head? := h
  cases hrest : t.dropWhile fun c => decide (c.toNat ≤ 32) with
  | nil =>
    rw [hrest] at hc
    cases hc
  | cons d rest =>
    rw [hrest] at hdrop hc
    have hd : 32 < d.toNat := by simpa using hdrop
    have hkept : (!isSkipped d) = true := by rw [isSkipped_of_lt hd, Bool.not_false]
    rw [List.filter_cons_of_pos (p := fun c => !isSkipped c) hkept] at hc
    exact Option.some.inj hc ▸ hd

/-! ### Parts that have been read -/

/-- What the parts of an address that has been taken apart have in common. -/
structure Parts.IsRead (u : Parts) : Prop where
  scheme : u.scheme = [] ∨ (IsScheme u.scheme ∧ u.scheme.map Char.toLower = u.scheme)
  schemeless : u.scheme = [] → Schemeless u.path
  start : u.scheme = [] → ∀ c ∈ u.path.head?, 32 < c.toNat
  authority : ∀ c ∈ u.authority, endsAuthority c = false
  rooted : u.authority ≠ [] → ∀ c ∈ u.path.head?, c = '/'
  path : '?' ∉ u.path ∧ '#' ∉ u.path
  query : '#' ∉ u.query
  visible : ∀ c ∈ u.authority ++ (u.path ++ (u.query ++ u.fragment)), isSkipped c = false

/-- The steps in which an address is taken apart. -/
theorem split_eq_ok {t : Text} {u : Parts} (h : split t = .ok u) :
    ∃ rest rest', splitScheme (clean t) = (u.scheme, rest) ∧ splitAuthority rest = (u.authority, rest') ∧
      u.path = (Text.cut '?' (Text.cut '#' rest').1).1 ∧ u.query = (Text.cut '?' (Text.cut '#' rest').1).2.getD [] ∧
      u.fragment = (Text.cut '#' rest').2.getD [] ∧
      checkBrackets u.authority = .ok () ∧ checkLookalikes u.authority = .ok () := by
  obtain ⟨⟨⟩, hbrackets, h⟩ := bind_eq_ok_iff.1 h
  obtain ⟨⟨⟩, hlookalikes, h⟩ := bind_eq_ok_iff.1 h
  obtain rfl := Except.ok.inj h
  exact ⟨_, _, rfl, rfl, rfl, rfl, rfl, hbrackets, hlookalikes⟩

/-- Where the path ends, no sign of a later part has come. -/
theorem path_spec {rest path : Text} (h : path = (Text.cut '?' (Text.cut '#' rest).1).1) :
    path <+: rest ∧ '?' ∉ path ∧ '#' ∉ path := by
  subst h
  have hfront := Text.cut_fst_prefixed '?' (Text.cut '#' rest).1
  exact ⟨hfront.trans (Text.cut_fst_prefixed '#' rest), Text.notMem_cut_fst '?' _,
    fun hc => Text.notMem_cut_fst '#' rest (hfront.subset hc)⟩

/-- A path behind an authority starts with a slash, and so does any that starts with what may end an authority. -/
theorem rooted_of_endsAuthority {rest path : Text} (hfront : path <+: rest) (hplain : '?' ∉ path ∧ '#' ∉ path)
    (h : ∀ c ∈ rest.head?, endsAuthority c = true) : ∀ c ∈ path.head?, c = '/' := by
  intro c hc
  have hends : endsAuthority c = true := by
    obtain ⟨v, hv⟩ := hfront
    refine h c ?_
    rw [← hv, List.head?_append, hc]
    rfl
  have hne : c ≠ '?' ∧ c ≠ '#' := by
    have hmem := List.mem_of_mem_head? hc
    exact ⟨fun heq => hplain.1 (heq ▸ hmem), fun heq => hplain.2 (heq ▸ hmem)⟩
  simpa [endsAuthority, hne] using hends

/-- Every address that is taken apart has such parts. -/
theorem isRead_of_split {t : Text} {u : Parts} (h : split t = .ok u) : u.IsRead := by
  obtain ⟨rest, rest', hscheme, hauthority, hpath, hquery, hfragment, -, -⟩ := split_eq_ok h
  obtain ⟨hsuffix, hscheme⟩ := splitScheme_spec hscheme
  obtain ⟨hends, hrest', hmem⟩ := splitAuthority_spec hauthority
  obtain ⟨hfront, hplain⟩ := path_spec hpath
  have hqueryPlain : '#' ∉ u.query := by
    rw [hquery]
    exact fun hc => Text.notMem_cut_fst '#' rest' ((Text.cut_snd_suffixed '?' _).subset hc)
  -- the path starts with a slash, unless it stands behind the scheme without an authority
  have hroot : (∀ c ∈ u.path.head?, c = '/') ∨ (u.authority = [] ∧ u.path <+: rest) :=
    hrest'.imp (rooted_of_endsAuthority hfront hplain) fun ⟨hnil, heq⟩ => ⟨hnil, heq ▸ hfront⟩
  have hnone : u.scheme = [] → rest = clean t ∧ Schemeless (clean t) := by
    intro hnil
    rcases hscheme with ⟨-, heq⟩ | ⟨hname, -⟩
    · exact heq
    · exact absurd hnil hname.ne_nil
  refine ⟨hscheme.imp_left (·.1), fun hnil => ?_, fun hnil c hc => ?_, hends, fun hne => ?_, hplain, hqueryPlain,
    fun c hc => ?_⟩
  · exact hroot.elim Schemeless.of_rooted fun hin => (hnone hnil).2.of_prefixed ((hnone hnil).1 ▸ hin.2)
  · rcases hroot with hhead | ⟨-, v, hv⟩
    · rw [hhead c hc]
      decide
    · refine head?_clean (t := t) ?_
      rw [← (hnone hnil).1, ← hv, List.head?_append, hc]
      rfl
  · exact hroot.resolve_right fun hin => hne hin.1
  · refine isSkipped_of_mem_clean (hsuffix.subset (hmem c ?_))
    rw [List.mem_append] at hc ⊢
    refine hc.imp_right fun hc => ?_
    rw [List.mem_append, List.mem_append, hquery, hfragment] at hc
    rcases hc with hc | hc | hc
    · exact hfront.subset hc
    · exact (Text.cut_fst_prefixed '#' rest').subset ((Text.cut_snd_suffixed '?' _).subset hc)
    · exact (Text.cut_snd_suffixed '#' rest').subset hc

/-! ### Putting together -/

/-- Whether the authority is written, even if it is empty. -/
def HasAuthority (u : Parts) : Prop := u.authority ≠ [] ∨ u.scheme ∈ schemesWithAuthority ∨ ['/', '/'] <+: u.path

instance (u : Parts) : Decidable (HasAuthority u) := inferInstanceAs (Decidable (_ ∨ _ ∨ _))

/-- The path as it is written: behind an authority it starts with a slash. -/
def writtenPath (u : Parts) : Text :=
  if HasAuthority u ∧ ¬(u.path = [] ∨ u.path.head? = some '/') then '/' :: u.path else u.path

theorem writtenPath_of_head {u : Parts} (h : ∀ c ∈ u.path.head?, c = '/') : writtenPath u = u.path := by
  refine if_neg fun hnot => hnot.2 ?_
  cases hcons : u.path with
  | nil => exact .inl rfl
  | cons c path =>
    rw [hcons] at h
    exact .inr (congrArg some (h c rfl))

theorem writtenPath_of_not {u : Parts} (h : ¬HasAuthority u) : writtenPath u = u.path := if_neg fun hnot => h hnot.1

/-- The characters of the path that is written are those of the path, and slashes. -/
theorem mem_writtenPath {u : Parts} {c : Char} (h : c ∈ writtenPath u) : c = '/' ∨ c ∈ u.path := by
  rw [writtenPath] at h
  split at h
  · exact List.mem_cons.1 h
  · exact .inr h

theorem head?_writtenPath {u : Parts} (h : HasAuthority u) : ∀ c ∈ (writtenPath u).head?, c = '/' := by
  intro c hc
  rw [writtenPath] at hc
  split at hc
  · exact (Option.some.inj hc).symm
  · next hnot =>
    have hhead : u.path = [] ∨ u.path.head? = some '/' := Classical.byContradiction fun hneither => hnot ⟨h, hneither⟩
    rcases hhead with hnil | hhead
    · rw [hnil] at hc
      cases hc
    · exact (Option.some.inj (hhead.symm.trans hc)).symm

/-- What stands in an address behind the scheme and in front of the query. -/
def body (u : Parts) : Text := if HasAuthority u then '/' :: '/' :: (u.authority ++ writtenPath u) else u.path

/-- The query and the fragment, each behind its sign. -/
def rear (u : Parts) : Text := marked '?' u.query ++ marked '#' u.fragment

theorem head?_rear {u : Parts} {c : Char} (h : c ∈ (rear u).head?) : c = '?' ∨ c = '#' := by
  rw [rear, List.head?_append] at h
  rcases Option.or_eq_some_iff.1 h with h | ⟨-, h⟩
  · exact .inl (head?_marked h)
  · exact .inr (head?_marked h)

/-- An address is put together from its parts and the signs between them. -/
theorem join_eq (u : Parts) : join u = (if u.scheme = [] then [] else u.scheme ++ [':']) ++ (body u ++ rear u) := by
  have hcond : (!u.authority.isEmpty || schemesWithAuthority.contains u.scheme || Text.startsWith "//" u.path) =
      decide (HasAuthority u) := by
    rw [Bool.eq_iff_iff, Bool.or_eq_true, Bool.or_eq_true, decide_eq_true_iff, or_assoc, Text.startsWith_iff,
      List.contains_iff_mem, Bool.not_eq_true', ← Bool.not_eq_true, List.isEmpty_iff]
    rfl
  have hpath : HasAuthority u →
      (if u.path.isEmpty || u.path.head? = some '/' then u.path else '/' :: u.path) = writtenPath u := by
    intro hwritten
    by_cases hhead : u.path = [] ∨ u.path.head? = some '/'
    · rw [if_pos (by simpa using hhead), writtenPath, if_neg fun hnot => hnot.2 hhead]
    · rw [if_neg (by simpa using hhead), writtenPath, if_pos ⟨hwritten, hhead⟩]
  have hbody : (if decide (HasAuthority u) then
      "//" ++ u.authority ++ (if u.path.isEmpty || u.path.head? = some '/' then u.path else '/' :: u.path)
      else u.path) = body u := by
    rw [body]
    by_cases hwritten : HasAuthority u
    · rw [if_pos (decide_eq_true hwritten), if_pos hwritten, hpath hwritten, List.append_assoc]
      rfl
    · rw [if_neg (by simpa using hwritten), if_neg hwritten]
  have hjoin : join u =
      let t := if u.scheme.isEmpty then body u else u.scheme ++ ':' :: body u
      let t := if u.query.isEmpty then t else t ++ '?' :: u.query
      if u.fragment.isEmpty then t else t ++ '#' :: u.fragment := by
    rw [← hbody, ← hcond]
    rfl
  rw [hjoin, rear, marked, marked]
  by_cases hscheme : u.scheme = [] <;> by_cases hquery : u.query = [] <;> by_cases hfragment : u.fragment = [] <;>
    simp [hscheme, hquery, hfragment]

theorem split_of {t scheme rest a rest' : Text} (hscheme : splitScheme (clean t) = (scheme, rest))
    (hauthority : splitAuthority rest = (a, rest')) :
    split t = do
      checkBrackets a
      checkLookalikes a
      return ⟨scheme, a, (Text.cut '?' (Text.cut '#' rest').1).1, (Text.cut '?' (Text.cut '#' rest').1).2.getD [],
        (Text.cut '#' rest').2.getD []⟩ := by
  simp only [split, hscheme, hauthority]

namespace Parts.IsRead

variable {u : Parts}

theorem splitAuthority_eq (h : u.IsRead) : splitAuthority (body u ++ rear u) = (u.authority, writtenPath u ++ rear u) := by
  rw [body]
  split
  · next hwritten =>
    rw [List.cons_append, List.cons_append, List.append_assoc]
    refine splitAuthority_append h.authority fun c hc => ?_
    rw [List.head?_append] at hc
    rcases Option.or_eq_some_iff.1 hc with hc | ⟨-, hc⟩
    · rw [head?_writtenPath hwritten c hc]
      decide
    · rcases head?_rear hc with rfl | rfl <;> decide
  · next hnot =>
    have hnil : u.authority = [] := Classical.byContradiction fun hne => hnot (.inl hne)
    rw [hnil, writtenPath_of_not hnot]
    refine splitAuthority_of_not fun ⟨v, hv⟩ => hnot (.inr (.inr ?_))
    rcases List.append_eq_append_iff.1 hv with ⟨w, hpath, -⟩ | ⟨w, hslashes, hrest⟩
    · exact ⟨w, hpath.symm⟩
    · cases w with
      | nil =>
        exact ⟨[], by rw [hslashes, List.append_nil, List.append_nil]⟩
      | cons c w =>
        -- the query and the fragment do not start with a slash
        have hc : c = '/' := by
          have hmem : c ∈ ['/', '/'] := hslashes ▸ List.mem_append_right _ List.mem_cons_self
          simpa using hmem
        rcases head?_rear (u := u) (c := c) (hrest ▸ rfl) with rfl | rfl <;> exact absurd hc (by decide)

theorem splitScheme_eq (h : u.IsRead) : splitScheme (join u) = (u.scheme, body u ++ rear u) := by
  rw [join_eq]
  rcases h.scheme with hnil | ⟨hname, hlower⟩
  · rw [if_pos hnil, hnil, List.nil_append]
    refine splitScheme_of_schemeless (Schemeless.append ?_ fun c hc => ?_)
    · rw [body]
      split
      · exact Schemeless.of_head (by decide) _
      · exact h.schemeless hnil
    · rcases head?_rear hc with rfl | rfl <;> decide
  · have hcolon := splitScheme_append hname (body u ++ rear u)
    rw [if_neg hname.ne_nil, List.append_assoc, List.singleton_append, hcolon, hlower]

theorem lt_of_head?_join (h : u.IsRead) : ∀ c ∈ (join u).head?, 32 < c.toNat := by
  intro c hc
  rw [join_eq] at hc
  rcases h.scheme with hnil | ⟨hname, -⟩
  · rw [if_pos hnil, List.nil_append, List.head?_append] at hc
    rcases Option.or_eq_some_iff.1 hc with hc | ⟨-, hc⟩
    · rw [body] at hc
      split at hc
      · rw [← Option.some.inj hc]
        decide
      · exact h.start hnil c hc
    · rcases head?_rear hc with rfl | rfl <;> decide
  · rw [if_neg hname.ne_nil] at hc
    obtain ⟨d, name, heq⟩ := List.exists_cons_of_ne_nil hname.ne_nil
    have hd : isSchemeChar d = true := hname.isSchemeChar_of_mem (heq ▸ List.mem_cons_self)
    rw [heq] at hc
    exact Option.some.inj hc ▸ (toNat_of_isSchemeChar hd).1

theorem isSkipped_of_mem_join (h : u.IsRead) : ∀ c ∈ join u, isSkipped c = false := by
  intro c hc
  have hsigns : ∀ c ∈ [':', '/', '?', '#'], isSkipped c = false := Text.forall_mem_of_all (by decide)
  have hslash : isSkipped '/' = false := hsigns '/' (by simp)
  have hvisible : c ∈ u.authority ∨ c ∈ u.path ∨ c ∈ u.query ∨ c ∈ u.fragment → isSkipped c = false := by
    simpa only [List.mem_append] using h.visible c
  -- the scheme, what stands in front of the query, and what follows
  rw [join_eq, List.mem_append, List.mem_append] at hc
  rcases hc with hc | hc | hc
  · rcases h.scheme with hnil | ⟨hname, -⟩
    · rw [if_pos hnil] at hc
      cases hc
    · rw [if_neg hname.ne_nil, List.mem_append, List.mem_singleton] at hc
      rcases hc with hc | rfl
      · exact isSkipped_of_lt (toNat_of_isSchemeChar (hname.isSchemeChar_of_mem hc)).1
      · exact hsigns ':' (by simp)
  · rw [body] at hc
    split at hc
    · rw [List.mem_cons, List.mem_cons, List.mem_append] at hc
      rcases hc with rfl | rfl | hc | hc
      · exact hslash
      · exact hslash
      · exact hvisible (.inl hc)
      · rcases mem_writtenPath hc with rfl | hc
        · exact hslash
        · exact hvisible (.inr (.inl hc))
    · exact hvisible (.inr (.inl hc))
  · rcases List.mem_append.1 hc with hc | hc
    · rcases mem_marked hc with rfl | hc
      · exact hsigns '?' (by simp)
      · exact hvisible (.inr (.inr (.inl hc)))
    · rcases mem_marked hc with rfl | hc
      · exact hsigns '#' (by simp)
      · exact hvisible (.inr (.inr (.inr hc)))

theorem clean_eq (h : u.IsRead) : clean (join u) = join u := clean_eq_self h.lt_of_head?_join h.isSkipped_of_mem_join

/-- Parts such as are read are read again. -/
theorem split_join (h : u.IsRead) :
    split (join u) = do
      checkBrackets u.authority
      checkLookalikes u.authority
      return { u with path := writtenPath u } := by
  have hpath : ∀ c, c ≠ '/' → c ∉ u.path → c ∉ writtenPath u := fun c hc hmem h => (mem_writtenPath h).elim hc hmem
  have hplain : '#' ∉ writtenPath u ++ marked '?' u.query ∧ '?' ∉ writtenPath u := by
    refine ⟨fun hc => ?_, hpath '?' (by decide) h.path.1⟩
    rcases List.mem_append.1 hc with hc | hc
    · exact hpath '#' (by decide) h.path.2 hc
    · exact (mem_marked hc).elim (by decide) h.query
  have hfragment := cut_append_marked hplain.1 u.fragment
  have hquery := cut_append_marked hplain.2 u.query
  rw [split_of (h.clean_eq.symm ▸ h.splitScheme_eq) h.splitAuthority_eq, rear, ← List.append_assoc, hfragment.1,
    hfragment.2, hquery.1, hquery.2]

end Parts.IsRead

end PageQuery.Url
