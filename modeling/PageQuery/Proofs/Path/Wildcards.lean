import PageQuery.Proofs.Path.Alternatives
import PageQuery.Proofs.Path.DeepSearch
import PageQuery.Proofs.Text.Order

namespace PageQuery.Path

/-!
# Wildcards in a path

A part of a path with wildcards is replaced by the keys of a map that it fits, in order and with commas between them.
What comes out is read as a part that lists keys, so that a key leads to its value only if it is read back as it stands.

* `IsWildcard`, `IsListable`: parts that ask for keys, and keys that are read back as they stand;
* `data_wildcard`: what comes of such a part;
* `exists_alternatives_eq`, `go_nested`: what is found for the keys that a part lists, whatever they are;
* `isListable_of_data`: keys that all lead to their values are read back as they stand;
* `data_wildcard_iff`: the maps in which the part leads to the values under the keys that it fits.
-/

/-! ### Parts and keys -/

/-- A part of a path that asks for keys by wildcards, and in which nothing else is special. -/
structure IsWildcard (w : Text) : Prop extends IsAlternative w where
  plain : '/' ∉ w ∧ '&' ∉ w
  wild : isWild w = true
  ne_star : w ≠ "*"
  shallow : ¬['.', '.'] <+: w

/-- A key that is read back as it stands from a list of keys, and then leads to its value. -/
structure IsListable (key : Text) : Prop extends IsAlternative key where
  ne_star : key ≠ "*"
  ne_keys : key ≠ "@keys"
  shallow : ¬['.', '.'] <+: key

/-- The entries of a map with the given keys. -/
def entriesOf (f : Text → Value) (keys : List Text) : Entries := keys.map fun key => (.text key, f key)

section

variable (f : Text → Value)

/-- The value under a key of such a map. -/
theorem get?_entriesOf (keys : List Text) (key : Text) :
    Entries.get? (entriesOf f keys) (.text key) = if key ∈ keys then some (f key) else none := by
  induction keys with
  | nil => rfl
  | cons k keys ih =>
    have hsame : Scalar.sameKey (.text k) (.text key) = (k == key) := rfl
    have hcons : Entries.get? (entriesOf f (k :: keys)) (.text key) =
        if k = key then some (f k) else Entries.get? (entriesOf f keys) (.text key) := by
      rw [entriesOf, List.map_cons, Entries.get?, List.find?_cons, hsame]
      by_cases heq : k = key
      · rw [if_pos heq, beq_iff_eq.2 heq]
        rfl
      · rw [if_neg heq, beq_eq_false_iff_ne.2 heq]
        rfl
    rw [hcons, ih]
    by_cases heq : k = key
    · subst heq
      rw [if_pos rfl, if_pos List.mem_cons_self]
    · simp only [if_neg heq, List.mem_cons, Ne.symm heq, false_or]

theorem keyTexts_entriesOf (keys : List Text) : keyTexts (entriesOf f keys) = .ok keys := by
  induction keys with
  | nil => rfl
  | cons key keys ih =>
    have hrest : (entriesOf f keys).mapM (fun e => e.1.plain) = .ok keys := ih
    rw [keyTexts, entriesOf, List.map_cons, List.mapM_cons, ← entriesOf, hrest]
    rfl

/-- Under a key that asks for nothing special, there is its value or nothing. -/
theorem step_entriesOf {key : Text} (hstar : key ≠ "*") (hkeys : key ≠ "@keys") (hshallow : ¬['.', '.'] <+: key)
    (keys : List Text) :
    step (.map (entriesOf f keys)) key >>= walk [] = .ok (if key ∈ keys then Results.ofValue (f key) else []) := by
  rw [step_map hstar hshallow hkeys, get?_entriesOf]
  split <;> rfl

end

/-! ### What a part is replaced by -/

section

variable {w : Text} {keys ms : List Text}

/-- A part with wildcards is replaced by the keys that it fits, if there are any. -/
theorem expandKey_wildcard (hw : IsWildcard w) (hnodup : keys.Nodup) (hms : ms.Pairwise (· < ·))
    (hmem : ∀ key, key ∈ ms ↔ key ∈ keys ∧ Text.FitsKey w key) (f : Text → Value) :
    expandKey (entriesOf f keys) w = .ok (if ms.isEmpty then w else Text.join [','] ms) := by
  have hspecial : (Query.wildcards.contains w || w == "*" || Text.startsWith ".." w || !isWild w) = false := by
    have hnone : w ∉ Query.wildcards := fun h => by
      rcases (by simpa [Query.wildcards] using h : w = ['|'] ∨ w = [','] ∨ w = ['&']) with rfl | rfl | rfl
      · exact hw.unseparated.1 List.mem_cons_self
      · exact hw.unseparated.2 List.mem_cons_self
      · exact hw.plain.2 List.mem_cons_self
    have hdeep : Text.startsWith ".." w = false := by
      rw [← Bool.not_eq_true, Text.startsWith_iff]
      exact hw.shallow
    rw [hdeep, hw.wild, beq_eq_false_iff_ne.2 hw.ne_star, ← Bool.not_eq_true]
    simpa using hnone
  have hpattern : Text.dropEndWhile (· == '!') w = w := by
    rw [Text.dropEndWhile_eq_self_iff]
    cases hlast : w.getLast? with
    | none => rfl
    | some c => exact beq_eq_false_iff_ne.2 fun heq => hw.unmarked (hlast.trans (congrArg some heq))
  have hsort : Text.sort (keys.filter (Text.glob w)) = ms :=
    Text.sort_eq (hnodup.filter _) hms fun key => by rw [hmem, List.mem_filter, Text.glob_iff]
  have hempty : (keys.filter (Text.glob w)).isEmpty = ms.isEmpty := by
    rw [← hsort]
    exact (List.mergeSort_perm _ _).isEmpty_eq.symm
  rw [expandKey, hspecial, if_neg Bool.false_ne_true, keyTexts_entriesOf, hpattern]
  show Except.ok _ = _
  rw [hsort, hempty]

/-- The results are those for the keys that are read back. -/
theorem data_wildcard (hw : IsWildcard w) (hnodup : keys.Nodup) (hms : ms.Pairwise (· < ·))
    (hmem : ∀ key, key ∈ ms ↔ key ∈ keys ∧ Text.FitsKey w key) (f : Text → Value) :
    data (.map (entriesOf f keys)) w =
      if ms.isEmpty then .ok []
      else alternatives (fun key => step (.map (entriesOf f keys)) key >>= walk []) [] true
        (piecesOf Query.alternatives (Text.join [','] ms)) := by
  have hexpand : expand (.map (entriesOf f keys)) w = .ok (if ms.isEmpty then w else Text.join [','] ms) := by
    show (piecesOf Query.wildcards w).mapM (expandKey (entriesOf f keys)) >>= _ = _
    rw [hw.piecesOf_wildcards hw.plain.2, List.mapM_cons, expandKey_wildcard hw hnodup hms hmem f]
    exact congrArg Except.ok List.flatten_singleton
  rw [data_eq_walk, parts_of_notMem hw.plain.1 hw.ne_nil]
  cases hempty : ms.isEmpty with
  | true =>
    -- the part stays, and is no key since it would fit itself
    have hmissing : w ∉ keys := fun hkey => by
      have hfits := (hmem w).2 ⟨hkey, w, Text.fits_self (by decide) (by decide) w, .inl rfl⟩
      rw [List.isEmpty_iff.1 hempty] at hfits
      cases hfits
    have hkeys : w ≠ "@keys" := by
      rintro rfl
      exact absurd hw.wild (by decide)
    rw [hempty, if_pos rfl] at hexpand
    rw [walk_of_expand hexpand hw.toIsAlternative, step_entriesOf f hw.ne_star hkeys hw.shallow, if_neg hmissing,
      if_pos rfl]
  | false =>
    rw [hempty, if_neg Bool.false_ne_true] at hexpand
    rw [walk_cons, hexpand, if_neg Bool.false_ne_true]
    rfl

/-- Where all keys that the part fits are read back as they stand, it leads to their values. -/
theorem data_of_isListable (hw : IsWildcard w) (hnodup : keys.Nodup) (hms : ms.Pairwise (· < ·))
    (hmem : ∀ key, key ∈ ms ↔ key ∈ keys ∧ Text.FitsKey w key) (hlistable : ∀ key ∈ ms, IsListable key)
    (f : Text → Value) :
    data (.map (entriesOf f keys)) w = .ok (ms.flatMap fun key => Results.ofValue (f key)) := by
  rw [data_wildcard hw hnodup hms hmem f]
  cases ms with
  | nil => rfl
  | cons m ms =>
    have hpieces : piecesOf Query.alternatives (Text.join [','] (m :: ms)) = m :: ms.flatMap fun key => [[','], key] :=
      piecesOf_join_trimmed single_alternatives (by decide) rfl fun key hkey =>
        have hone := (hlistable key hkey).toIsAlternative
        ⟨hone.unseparated_alternatives, hone.ne_nil, hone.trim_eq⟩
    have hgo : ∀ c ∈ (m :: ms).map (Choice.mk · false), IsAlternative c.key ∧
        (step (.map (entriesOf f keys)) c.key >>= walk []) = .ok (Results.ofValue (f c.key)) := by
      refine List.forall_mem_map.2 fun key hkey => ?_
      have hone := hlistable key hkey
      refine ⟨hone.toIsAlternative, ?_⟩
      rw [step_entriesOf f hone.ne_star hone.ne_keys hone.shallow, if_pos ((hmem key).1 hkey).1]
    have hunion : alternatives (fun key => step (.map (entriesOf f keys)) key >>= walk []) [] true
        ((Choice.mk m false).text :: (ms.map (Choice.mk · false)).flatMap fun c => [[','], c.text]) =
          .ok (((m :: ms).map (Choice.mk · false)).flatMap fun c => Results.ofValue (f c.key)) :=
      alternatives_union hgo
    rw [List.flatMap_map, List.flatMap_map] at hunion
    rw [List.isEmpty_cons, if_neg Bool.false_ne_true, hpieces]
    exact hunion

end

/-! ### What is found for any keys -/

/-- The keys that a part lists, among its pieces, without their marks. -/
def listed (pieces : List Text) : List Text :=
  (pieces.filter fun key => key ≠ ['|'] ∧ key ≠ [',']).map bare

/-- The results for the keys that a part lists are those for some of them, in order. -/
theorem exists_alternatives_eq {go : Text → Except Numeral.Error (List Value)} {results : Text → Results}
    (hgo : ∀ key, go key = .ok (results key)) (found : Results) (required : Bool) (pieces : List Text) :
    ∃ sub : List Text, sub.Sublist (listed pieces) ∧
      alternatives go found required pieces = .ok (found ++ sub.flatMap results) := by
  induction pieces generalizing found required with
  | nil => exact ⟨[], List.nil_sublist _, by rw [List.flatMap_nil, List.append_nil, alternatives]⟩
  | cons key pieces ih =>
    by_cases hbar : key = ['|']
    · obtain ⟨sub, hsub, heq⟩ := ih found false
      subst hbar
      exact ⟨sub, hsub, heq⟩
    by_cases hcomma : key = [',']
    · obtain ⟨sub, hsub, heq⟩ := ih found true
      subst hcomma
      exact ⟨sub, hsub, heq⟩
    have hlisted : listed (key :: pieces) = bare key :: listed pieces := by
      rw [listed, List.filter_cons_of_pos (by simpa using ⟨hbar, hcomma⟩), List.map_cons, listed]
    rw [hlisted, alternatives_key hbar hcomma]
    split
    · -- the key is passed over
      obtain ⟨sub, hsub, heq⟩ := ih found false
      exact ⟨sub, hsub.cons _, heq⟩
    · obtain ⟨sub, hsub, heq⟩ := ih (found ++ results (bare key)) (required || Text.endsWith ['!'] key)
      refine ⟨bare key :: sub, hsub.cons_cons _, ?_⟩
      rw [hgo, List.flatMap_cons, ← List.append_assoc]
      exact heq

/-! ### Keys that are read back -/

theorem bare_prefixed (key : Text) : bare key <+: key := by
  rw [bare]
  split
  · exact List.dropLast_prefix _
  · exact List.prefix_rfl

/-- In a key that a part lists, there is no separator. -/
theorem unseparated_of_mem_listed {part key : Text} (h : key ∈ listed (piecesOf Query.alternatives part)) :
    Query.Unseparated Query.alternatives key := by
  obtain ⟨p, hp, rfl⟩ := List.mem_map.1 h
  obtain ⟨hp, hkept⟩ := List.mem_filter.1 hp
  obtain ⟨hbar, hcomma⟩ : p ≠ ['|'] ∧ p ≠ [','] := by simpa using hkept
  obtain ⟨l, hl, rfl⟩ := List.mem_map.1 hp
  rcases Query.cases_of_mem_split single_alternatives part l hl with ⟨s, hs, rfl⟩ | ⟨u, hu, rfl⟩
  · have hsep : s = ['|'] ∨ s = [','] := by simpa [Query.alternatives] using hs
    rcases hsep with rfl | rfl
    · exact absurd rfl hbar
    · exact absurd rfl hcomma
  · exact fun c hc => hu c ((Text.trim_infix u).subset ((bare_prefixed _).subset hc))

theorem listed_append (ps qs : List Text) : listed (ps ++ qs) = listed ps ++ listed qs := by
  rw [listed, List.filter_append, List.map_append, listed, listed]

/-- A text without separators is listed as one key, unless it is empty. -/
theorem listed_trimmedStretch {t : Text} (h : Query.Unseparated Query.alternatives t) :
    listed (trimmedStretch t) = (trimmedStretch t).map bare := by
  rw [listed, List.filter_eq_self.2]
  intro p hp
  rw [trimmedStretch] at hp
  split at hp
  · cases hp
  · have hnot : ∀ c, [c] ∈ Query.alternatives → p ≠ [c] := by
      rintro c hc rfl
      have hmem : c ∈ Text.trim t := List.mem_singleton.1 hp ▸ List.mem_cons_self
      exact h c ((Text.trim_infix t).subset hmem) hc
    simpa using And.intro (hnot '|' (by decide)) (hnot ',' (by decide))

theorem listed_commas {ts : List Text} (h : ∀ t ∈ ts, Query.Unseparated Query.alternatives t) :
    listed (ts.flatMap fun t => [','] :: trimmedStretch t) = ts.flatMap fun t => (trimmedStretch t).map bare := by
  induction ts with
  | nil => rfl
  | cons t ts ih =>
    obtain ⟨ht, hts⟩ := List.forall_mem_cons.1 h
    rw [List.flatMap_cons, List.flatMap_cons, listed_append, ih hts, ← listed_trimmedStretch ht]
    rfl

/-- Keys without separators that are joined are read one by one. -/
theorem listed_join {ts : List Text} (hne : ts ≠ []) (h : ∀ t ∈ ts, Query.Unseparated Query.alternatives t) :
    listed (piecesOf Query.alternatives (Text.join [','] ts)) = ts.flatMap fun t => (trimmedStretch t).map bare := by
  obtain ⟨t, ts, rfl⟩ := List.exists_cons_of_ne_nil hne
  obtain ⟨ht, hts⟩ := List.forall_mem_cons.1 h
  rw [piecesOf_join single_alternatives (by decide) rfl h, listed_append, listed_trimmedStretch ht, listed_commas hts,
    List.flatMap_cons]

/-- A key that is read back as it stands has no white space at its ends and no mark. -/
theorem of_reading_eq {key : Text} (h : (trimmedStretch key).map bare = [key]) :
    key ≠ [] ∧ Text.trim key = key ∧ key.getLast? ≠ some '!' := by
  rw [trimmedStretch] at h
  split at h
  · cases h
  · next hne =>
    have hread : bare (Text.trim key) = key := List.singleton_inj.1 h
    have htrim : Text.trim key = key := by
      have hle := (bare_prefixed (Text.trim key)).length_le
      rw [hread] at hle
      exact (Text.trim_infix key).eq_of_length_le hle
    refine ⟨hne, htrim, fun hlast => ?_⟩
    rw [htrim, bare, if_pos (Text.endsWith_singleton_iff.2 hlast)] at hread
    have hlength := congrArg List.length hread
    rw [List.length_dropLast] at hlength
    have hpos := List.length_pos_iff.2 hne
    omega

/-- Where at most one text comes of each, and all texts are found among these, each comes of itself. -/
theorem eq_singleton_of_sublist {g : Text → List Text} (hg : ∀ t, (g t).length ≤ 1) {ts : List Text}
    (h : ts.Sublist (ts.flatMap g)) : ∀ t ∈ ts, g t = [t] := by
  have hlength : ∀ us : List Text, (us.flatMap g).length ≤ us.length := by
    intro us
    induction us with
    | nil => exact Nat.le_refl _
    | cons u us ih =>
      rw [List.flatMap_cons, List.length_append, List.length_cons]
      have := hg u
      omega
  -- there are no more results than texts, so that none of the results is left over
  have heq : ts = ts.flatMap g := h.eq_of_length_le (hlength ts)
  clear h
  induction ts with
  | nil => exact List.forall_mem_nil _
  | cons t ts ih =>
    rw [List.flatMap_cons] at heq
    cases ht : g t with
    | nil =>
      rw [ht, List.nil_append] at heq
      have hle := hlength ts
      rw [← heq, List.length_cons] at hle
      omega
    | cons u us =>
      obtain rfl : us = [] := by
        have hle := hg t
        rw [ht, List.length_cons] at hle
        exact List.length_eq_zero_iff.1 (by omega)
      rw [ht, List.singleton_append] at heq
      obtain ⟨rfl, hrest⟩ := List.cons.inj heq
      exact List.forall_mem_cons.2 ⟨ht, ih hrest⟩

/-! ### Values that tell from which key they come -/

/-- A value that names a key. -/
def nested (key : Text) : Value := .map [(.text key, .scalar (.text key))]

theorem nested_injective {key key' : Text} (h : nested key = nested key') : key = key' := by
  simpa [nested] using h

theorem deepSearch_nested (pattern : Text) (keys : List Text) :
    deepSearch pattern (.map (entriesOf nested keys)) =
      .ok (keys.flatMap fun key => if Text.glob pattern key then [nested key, .scalar (.text key)] else []) := by
  rw [deepSearch]
  induction keys with
  | nil => rfl
  | cons key keys ih =>
    have hinside : deepSearch pattern (nested key) =
        .ok (if Text.glob pattern key then [.scalar (.text key)] else []) := by
      rw [nested, deepSearch, deepEntries_cons]
      show Except.ok _ = _
      rw [List.append_nil, List.append_nil]
      rfl
    rw [entriesOf, List.map_cons, deepEntries_cons, ← entriesOf, hinside, ih]
    show Except.ok _ = _
    rw [List.flatMap_cons]
    split <;> rfl

/-- A key in a map of such values leads to the value that names it, to nothing, or to something else than them. -/
theorem go_nested (keys : List Text) (key : Text) :
    ∃ rs, (step (.map (entriesOf nested keys)) key >>= walk []) = .ok rs ∧
      ((rs = [nested key] ∧ key ≠ "*" ∧ key ≠ "@keys" ∧ ¬['.', '.'] <+: key) ∨ rs = [] ∨
        ∃ v ∈ rs, ∀ k, v ≠ nested k) := by
  by_cases hstar : key = "*"
  · subst hstar
    refine ⟨[.map (entriesOf nested keys)], rfl, .inr (.inr ⟨_, List.mem_singleton.2 rfl, fun k heq => ?_⟩)⟩
    obtain _ | ⟨k', keys⟩ := keys
    · cases heq
    · cases heq
  by_cases hshallow : ['.', '.'] <+: key
  · -- a search takes what is inside a value, too
    obtain ⟨pattern, rfl⟩ := hshallow
    rw [step_deep, deepSearch_nested]
    refine ⟨_, rfl, .inr ?_⟩
    rw [or_iff_not_imp_left]
    intro hne
    obtain ⟨v, hv⟩ := List.exists_mem_of_ne_nil _ hne
    obtain ⟨k, hk, hv⟩ := List.mem_flatMap.1 hv
    have hfits : Text.glob pattern k = true := by
      by_contra hnot
      rw [if_neg hnot] at hv
      cases hv
    refine ⟨.scalar (.text k), List.mem_flatMap.2 ⟨k, hk, ?_⟩, nofun⟩
    rw [if_pos hfits]
    exact List.mem_cons_of_mem _ List.mem_cons_self
  by_cases hkeys : key = "@keys"
  · subst hkeys
    refine ⟨(entriesOf nested keys).map fun e => .scalar e.1, rfl, .inr ?_⟩
    cases keys with
    | nil => exact .inl rfl
    | cons k keys => exact .inr ⟨.scalar (.text k), List.mem_cons_self, nofun⟩
  · refine ⟨_, step_entriesOf nested hstar hkeys hshallow keys, ?_⟩
    split
    · exact .inl ⟨rfl, hstar, hkeys, hshallow⟩
    · exact .inr (.inl rfl)

/-- If results are exactly the values that name some keys, these were asked for, in order and among others, and for
    nothing but their values. -/
theorem sublist_of_flatMap_eq {P : Text → Prop} {results : Text → Results}
    (h : ∀ key, (results key = [nested key] ∧ P key) ∨ results key = [] ∨ ∃ v ∈ results key, ∀ k, v ≠ nested k)
    {sub ms : List Text} (heq : sub.flatMap results = ms.map nested) : ms.Sublist sub ∧ ∀ key ∈ ms, P key := by
  induction sub generalizing ms with
  | nil =>
    rw [List.map_eq_nil_iff.1 heq.symm]
    exact ⟨List.nil_sublist _, List.forall_mem_nil _⟩
  | cons key sub ih =>
    rw [List.flatMap_cons] at heq
    rcases h key with ⟨hkey, hplain⟩ | hkey | ⟨v, hv, hforeign⟩
    · rw [hkey, List.singleton_append] at heq
      obtain ⟨m, ms, rfl, hm, hms⟩ := List.map_eq_cons_iff.1 heq.symm
      obtain rfl := nested_injective hm
      obtain ⟨hsub, hall⟩ := ih hms.symm
      exact ⟨hsub.cons_cons _, List.forall_mem_cons.2 ⟨hplain, hall⟩⟩
    · rw [hkey, List.nil_append] at heq
      obtain ⟨hsub, hall⟩ := ih heq
      exact ⟨hsub.cons _, hall⟩
    · have hmem : v ∈ ms.map nested := heq ▸ List.mem_append_left _ hv
      obtain ⟨k, -, rfl⟩ := List.mem_map.1 hmem
      exact absurd rfl (hforeign k)

section

variable {w : Text} {keys ms : List Text}

/-- Keys that all lead to values which name them are read back as they stand. -/
theorem isListable_of_data (hw : IsWildcard w) (hnodup : keys.Nodup) (hms : ms.Pairwise (· < ·))
    (hmem : ∀ key, key ∈ ms ↔ key ∈ keys ∧ Text.FitsKey w key)
    (h : data (.map (entriesOf nested keys)) w = .ok (ms.map nested)) : ∀ key ∈ ms, IsListable key := by
  by_cases hne : ms = []
  · rw [hne]
    exact List.forall_mem_nil _
  choose results hgo hresults using go_nested keys
  obtain ⟨sub, hsub, heq⟩ := exists_alternatives_eq hgo [] true (piecesOf Query.alternatives (Text.join [','] ms))
  rw [data_wildcard hw hnodup hms hmem, if_neg (by simpa using hne), heq] at h
  -- what is found names all keys, so that all of them were asked for
  obtain ⟨hread, hplain⟩ := sublist_of_flatMap_eq hresults (Except.ok.inj h)
  have hlisted := hread.trans hsub
  have hunseparated : ∀ key ∈ ms, Query.Unseparated Query.alternatives key := fun key hkey =>
    unseparated_of_mem_listed (hlisted.subset hkey)
  rw [listed_join hne hunseparated] at hlisted
  -- every key is one piece at most, so that there is none to spare
  have hone : ∀ key, ((trimmedStretch key).map bare).length ≤ 1 := by
    intro key
    rw [List.length_map, trimmedStretch]
    split
    · exact Nat.zero_le 1
    · exact Nat.le_refl 1
  intro key hkey
  obtain ⟨hne, htrim, hunmarked⟩ := of_reading_eq (eq_singleton_of_sublist hone hlisted key hkey)
  obtain ⟨hstar, hkeys, hshallow⟩ := hplain key hkey
  exact {
    ne_nil := hne
    unseparated := ⟨fun hbar => hunseparated key hkey _ hbar (by decide),
      fun hcomma => hunseparated key hkey _ hcomma (by decide)⟩
    trim_eq := htrim
    unmarked := hunmarked
    ne_star := hstar
    ne_keys := hkeys
    shallow := hshallow }

/-- In a map in which wildcards fit the same keys whether they stand for line feeds or not, such as one whose keys have
    no line feeds, a part with wildcards leads to the values under the keys that it fits, whatever these values are, if
    and only if all of these keys are read back as they stand. The values come in the order of the keys, of a list its
    items and of nothing none. -/
theorem data_wildcard_iff (hw : IsWildcard w) (hnodup : keys.Nodup)
    (hlines : ∀ key ∈ keys, Text.FitsKey w key ↔ Text.Fits (fun _ => True) w key) (hms : ms.Pairwise (· < ·))
    (hmem : ∀ key, key ∈ ms ↔ key ∈ keys ∧ Text.Fits (fun _ => True) w key) :
    (∀ f : Text → Value, data (.map (keys.map fun key => (.text key, f key))) w =
      .ok (ms.flatMap fun key => Results.ofValue (f key))) ↔ ∀ key ∈ ms, IsListable key := by
  have hmem' : ∀ key, key ∈ ms ↔ key ∈ keys ∧ Text.FitsKey w key := fun key =>
    (hmem key).trans (and_congr_right fun hkey => (hlines key hkey).symm)
  constructor
  · intro h
    refine isListable_of_data hw hnodup hms hmem' ((h nested).trans ?_)
    rw [List.map_eq_flatMap]
    rfl
  · exact fun hlistable f => data_of_isListable hw hnodup hms hmem' hlistable f

/-- Keys with other separators and wildcards in them. -/
theorem data_wildcard_iff_symbols :
    ∃ keys ms : List Text, keys = (["a/b & c", "b", "a-1?", "a"] : List Text) ∧
      ms = (["a", "a-1?", "a/b & c"] : List Text) ∧
      IsWildcard "a*" ∧ keys.Nodup ∧ (∀ key ∈ keys, Text.FitsKey "a*" key ↔ Text.Fits (fun _ => True) "a*" key) ∧
      ms.Pairwise (· < ·) ∧ (∀ key, key ∈ ms ↔ key ∈ keys ∧ Text.Fits (fun _ => True) "a*" key) ∧
      (∀ key ∈ ms, IsListable key) ∧
      ∀ f : Text → Value, data (.map (keys.map fun key => (.text key, f key))) "a*" =
        .ok (ms.flatMap fun key => Results.ofValue (f key)) := by
  refine ⟨_, _, rfl, rfl, ?_⟩
  generalize hkeys : [_, _, _, _] = keys
  generalize hms : [_, _, _] = ms
  have hw : IsWildcard "a*" := ⟨⟨by decide, by decide, rfl, by decide⟩, by decide, by decide, by decide, by decide⟩
  have hnodup : keys.Nodup := by
    subst hkeys
    decide
  have hlines : ∀ key ∈ keys, Text.FitsKey "a*" key ↔ Text.Fits (fun _ => True) "a*" key := fun key hkey => by
    have hfree : ∀ key ∈ keys, '\n' ∉ key := by
      subst hkeys
      decide
    exact Text.fitsKey_iff_of_notMem (hfree key hkey)
  have hrising : ms.Pairwise (· < ·) := by
    subst hms
    decide
  have hmem : ∀ key, key ∈ ms ↔ key ∈ keys ∧ Text.Fits (fun _ => True) "a*" key := fun key => by
    have hfits : (∀ key ∈ ms, key ∈ keys ∧ Text.glob "a*" key = true) ∧
        ∀ key ∈ keys, Text.glob "a*" key = true → key ∈ ms := by
      subst hkeys hms
      decide
    constructor
    · intro hkey
      obtain ⟨hkey', hglob⟩ := hfits.1 key hkey
      exact ⟨hkey', (hlines key hkey').1 (Text.glob_iff.1 hglob)⟩
    · rintro ⟨hkey, hkeyFits⟩
      exact hfits.2 key hkey (Text.glob_iff.2 ((hlines key hkey).2 hkeyFits))
  have hlistable : ∀ key ∈ ms, IsListable key := by
    subst hms
    simp only [List.forall_mem_cons]
    refine ⟨?_, ?_, ?_, List.forall_mem_nil _⟩ <;>
      exact ⟨⟨by decide, by decide, rfl, by decide⟩, by decide, by decide, by decide⟩
  exact ⟨hw, hnodup, hlines, hrising, hmem, hlistable, (data_wildcard_iff hw hnodup hlines hrising hmem).2 hlistable⟩

/-- A key with a comma is read back as two others, and no wildcard stands for a line feed, so that the values under two
    keys that patterns fit are not found. -/
theorem data_wildcard_misread :
    IsWildcard "a*" ∧ Text.Fits (fun _ => True) "a*" "a,b" ∧
      data (.map [(.text "a,b", .int 1)]) "a*" = .ok [] ∧
      data (.map [(.text "a,b", .int 1)]) "a*" ≠ .ok (Results.ofValue (.int 1)) ∧
      IsWildcard "a*b" ∧ Text.Fits (fun _ => True) "a*b" "a\nb" ∧
      data (.map [(.text "a\nb", .int 1)]) "a*b" = .ok [] ∧
      data (.map [(.text "a\nb", .int 1)]) "a*b" ≠ .ok (Results.ofValue (.int 1)) := by
  have hw : IsWildcard "a*" ∧ IsWildcard "a*b" := by
    constructor <;>
      exact ⟨⟨by decide, by decide, rfl, by decide⟩, by decide, by decide, by decide, by decide⟩
  have hcomma : data (.map [(.text "a,b", .int 1)]) "a*" = .ok [] := by
    have hmem : ∀ key, key ∈ (["a,b"] : List Text) ↔ key ∈ (["a,b"] : List Text) ∧ Text.FitsKey "a*" key := by
      refine fun key => (and_iff_left_of_imp fun hkey => ?_).symm
      rw [List.mem_singleton.1 hkey]
      exact Text.glob_iff.1 (by decide)
    exact (data_wildcard hw.1 (by decide) (List.pairwise_singleton _ _) hmem fun _ => .int 1).trans rfl
  have hlines : data (.map [(.text "a\nb", .int 1)]) "a*b" = .ok [] := rfl
  have hfits : Text.Fits (fun _ => True) "a*" "a,b" :=
    .char (by decide) (by decide) (.star (u := [',', 'b']) (fun _ _ => trivial) .nil)
  have hfits' : Text.Fits (fun _ => True) "a*b" "a\nb" :=
    .char (by decide) (by decide) (.star (u := ['\n']) (fun _ _ => trivial) (.char (by decide) (by decide) .nil))
  refine ⟨hw.1, hfits, hcomma, ?_, hw.2, hfits', hlines, ?_⟩
  · rw [hcomma]
    nofun
  · rw [hlines]
    nofun

end

end PageQuery.Path
