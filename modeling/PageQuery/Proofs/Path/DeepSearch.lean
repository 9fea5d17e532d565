import PageQuery.Proofs.Path.Heritable
import PageQuery.Proofs.Path.Parts
import PageQuery.Proofs.Text.Wildcards

namespace PageQuery.Path

/-!
# Searching a whole document

A key pattern behind two dots asks for the entries of all maps in a document, however deep. They are found in the order
in which they stand in it, an entry before what is inside its value.

* `EntryAt`: the entries of a document, with their positions;
* `located`: all of them, in order;
* `mem_located_iff`, `pairwise_located`: none is missing, and each comes once;
* `deepSearch_eq`: what the search finds;
* `data_deep`: a path that asks for it.
-/

/-- An entry of a map inside a value, with the positions that lead there: each is that of an entry in its map, or of an
    item in its list. -/
inductive EntryAt : (d : Value) → (position : List Nat) → (key : Scalar) → (v : Value) → Prop where
  | here {es : Entries} {i : Nat} {key : Scalar} {v : Value} (h : es[i]? = some (key, v)) :
    EntryAt (.map es) [i] key v
  | entry {es : Entries} {i : Nat} {e : Scalar × Value} {position : List Nat} {key : Scalar} {v : Value}
    (h : es[i]? = some e) (hrest : EntryAt e.2 position key v) : EntryAt (.map es) (i :: position) key v
  | item {vs : List Value} {i : Nat} {w : Value} {position : List Nat} {key : Scalar} {v : Value}
    (h : vs[i]? = some w) (hrest : EntryAt w position key v) : EntryAt (.list vs) (i :: position) key v

/-- An entry with its position. -/
structure Located where
  position : List Nat
  key : Scalar
  value : Value

/-- An entry that is one level deeper, under a position. -/
def Located.under (i : Nat) (l : Located) : Located := { l with position := i :: l.position }

mutual

/-- All entries inside a value, in order. -/
def located : Value → List Located
  | .map es => locatedEntries 0 es
  | .list vs => locatedItems 0 vs
  | _ => []

/-- The entries inside the items of a list, whose positions start with the given one. -/
def locatedItems (i : Nat) : List Value → List Located
  | [] => []
  | v :: vs => (located v).map (Located.under i) ++ locatedItems (i + 1) vs

/-- The same for the entries of a map, where an entry comes before what is inside it. -/
def locatedEntries (i : Nat) : List (Scalar × Value) → List Located
  | [] => []
  | (key, v) :: es => ⟨[i], key, v⟩ :: ((located v).map (Located.under i) ++ locatedEntries (i + 1) es)

end

/-! ### Which entries are listed -/

/-- What stands under a position is listed. -/
theorem mem_map_under_iff {i : Nat} {ls : List Located} {l : Located} :
    l ∈ ls.map (Located.under i) ↔ ∃ position, l.position = i :: position ∧ ⟨position, l.key, l.value⟩ ∈ ls := by
  rw [List.mem_map]
  constructor
  · rintro ⟨m, hm, rfl⟩
    exact ⟨m.position, rfl, hm⟩
  · rintro ⟨position, hposition, hm⟩
    exact ⟨_, hm, by rw [Located.under, ← hposition]⟩

mutual

/-- The entries inside a value are listed, and nothing else. -/
theorem mem_located_iff (d : Value) (l : Located) : l ∈ located d ↔ EntryAt d l.position l.key l.value := by
  cases d with
  | list vs =>
    rw [located, mem_locatedItems_iff 0 vs l]
    constructor
    · rintro ⟨j, w, position, h, hposition, hentry⟩
      rw [hposition, Nat.zero_add]
      exact .item h hentry
    · intro h
      cases hposition : l.position with
      | nil =>
        rw [hposition] at h
        cases h
      | cons j position =>
        rw [hposition] at h
        cases h with
        | item h hentry => exact ⟨j, _, position, h, by rw [Nat.zero_add], hentry⟩
  | map es =>
    rw [located, mem_locatedEntries_iff 0 es l]
    constructor
    · rintro ⟨j, e, h, ⟨hposition, hkey, hvalue⟩ | ⟨position, hposition, hentry⟩⟩
      · rw [hposition, Nat.zero_add]
        exact .here (by rw [h]; exact congrArg some (Prod.ext hkey hvalue))
      · rw [hposition, Nat.zero_add]
        exact .entry h hentry
    · intro h
      cases hposition : l.position with
      | nil =>
        rw [hposition] at h
        cases h
      | cons j position =>
        rw [hposition] at h
        cases h with
        | here h => exact ⟨j, _, h, .inl ⟨by rw [Nat.zero_add], rfl, rfl⟩⟩
        | entry h hentry => exact ⟨j, _, h, .inr ⟨position, by rw [Nat.zero_add], hentry⟩⟩
  | scalar s => exact iff_of_false (by simp [located]) nofun
  | element e => exact iff_of_false (by simp [located]) nofun
  | discarded v => exact iff_of_false (by simp [located]) nofun

theorem mem_locatedItems_iff (i : Nat) (vs : List Value) (l : Located) :
    l ∈ locatedItems i vs ↔
      ∃ j w position, vs[j]? = some w ∧ l.position = (i + j) :: position ∧ EntryAt w position l.key l.value := by
  cases vs with
  | nil => simp [locatedItems]
  | cons v vs =>
    rw [locatedItems, List.mem_append, mem_map_under_iff, mem_locatedItems_iff (i + 1) vs l]
    constructor
    · rintro (⟨position, hposition, hmem⟩ | ⟨j, w, position, h, hposition, hentry⟩)
      · exact ⟨0, v, position, rfl, hposition, (mem_located_iff v _).1 hmem⟩
      · exact ⟨j + 1, w, position, h, by rw [hposition, Nat.add_right_comm, Nat.add_assoc], hentry⟩
    · rintro ⟨j, w, position, h, hposition, hentry⟩
      cases j with
      | zero =>
        cases h
        exact .inl ⟨position, hposition, (mem_located_iff v ⟨position, l.key, l.value⟩).2 hentry⟩
      | succ j => exact .inr ⟨j, w, position, h, by rw [hposition, Nat.add_right_comm, Nat.add_assoc], hentry⟩

theorem mem_locatedEntries_iff (i : Nat) (es : Entries) (l : Located) :
    l ∈ locatedEntries i es ↔
      ∃ j e, es[j]? = some e ∧ ((l.position = [i + j] ∧ e.1 = l.key ∧ e.2 = l.value) ∨
        ∃ position, l.position = (i + j) :: position ∧ EntryAt e.2 position l.key l.value) := by
  cases es with
  | nil => simp [locatedEntries]
  | cons e es =>
    obtain ⟨key, v⟩ := e
    rw [locatedEntries, List.mem_cons, List.mem_append, mem_map_under_iff, mem_locatedEntries_iff (i + 1) es l]
    constructor
    · rintro (rfl | ⟨position, hposition, hmem⟩ | ⟨j, e, h, hentry⟩)
      · exact ⟨0, _, rfl, .inl ⟨rfl, rfl, rfl⟩⟩
      · exact ⟨0, _, rfl, .inr ⟨position, hposition, (mem_located_iff v _).1 hmem⟩⟩
      · rw [Nat.add_right_comm, Nat.add_assoc] at hentry
        exact ⟨j + 1, e, h, hentry⟩
    · rintro ⟨j, e, h, hentry⟩
      cases j with
      | zero =>
        cases h
        rcases hentry with ⟨hposition, rfl, rfl⟩ | ⟨position, hposition, hentry⟩
        · exact .inl (congrArg (Located.mk · l.key l.value) hposition)
        · exact .inr (.inl ⟨position, hposition, (mem_located_iff v ⟨position, l.key, l.value⟩).2 hentry⟩)
      | succ j =>
        refine .inr (.inr ⟨j, e, h, ?_⟩)
        rwa [Nat.add_right_comm, Nat.add_assoc]

end

/-! ### In which order they are listed -/

/-- The positions of entries rise. -/
def Rising (ls : List Located) : Prop := ls.Pairwise fun l m => l.position < m.position

/-- Under a position, positions rise as before. -/
theorem Rising.map_under {ls : List Located} (h : Rising ls) (i : Nat) : Rising (ls.map (Located.under i)) :=
  List.pairwise_map.2 (h.imp fun hlt => List.cons_lt_cons_iff.2 (.inr ⟨rfl, hlt⟩))

/-- The positions of entries are not empty. -/
theorem EntryAt.position_ne_nil {d : Value} {position : List Nat} {key : Scalar} {v : Value}
    (h : EntryAt d position key v) : position ≠ [] := by
  cases h <;> exact List.cons_ne_nil _ _

mutual

/-- The entries inside a value are listed by rising positions, so that each of them comes once. -/
theorem pairwise_located (d : Value) : Rising (located d) := by
  cases d with
  | list vs =>
    rw [located]
    exact pairwise_locatedItems 0 vs
  | map es =>
    rw [located]
    exact pairwise_locatedEntries 0 es
  | scalar s => exact .nil
  | element e => exact .nil
  | discarded v => exact .nil

theorem pairwise_locatedItems (i : Nat) (vs : List Value) : Rising (locatedItems i vs) := by
  cases vs with
  | nil => exact .nil
  | cons v vs =>
    rw [locatedItems]
    refine List.pairwise_append.2
      ⟨(pairwise_located v).map_under i, pairwise_locatedItems (i + 1) vs, fun l hl m hm => ?_⟩
    obtain ⟨p, hp, -⟩ := mem_map_under_iff.1 hl
    obtain ⟨j, w, q, -, hq, -⟩ := (mem_locatedItems_iff (i + 1) vs m).1 hm
    rw [hp, hq]
    exact List.cons_lt_cons_iff.2 (.inl (by omega))

theorem pairwise_locatedEntries (i : Nat) (es : Entries) : Rising (locatedEntries i es) := by
  cases es with
  | nil => exact .nil
  | cons e es =>
    obtain ⟨key, v⟩ := e
    have hlater : ∀ m ∈ locatedEntries (i + 1) es, ∃ j q, i < j ∧ m.position = j :: q := by
      intro m hm
      obtain ⟨j, e, -, ⟨hq, -⟩ | ⟨q, hq, -⟩⟩ := (mem_locatedEntries_iff (i + 1) es m).1 hm
      · exact ⟨_, [], by omega, hq⟩
      · exact ⟨_, q, by omega, hq⟩
    rw [locatedEntries]
    refine List.pairwise_cons.2 ⟨fun m hm => ?_, List.pairwise_append.2
      ⟨(pairwise_located v).map_under i, pairwise_locatedEntries (i + 1) es, fun l hl m hm => ?_⟩⟩
    · rcases List.mem_append.1 hm with hm | hm
      · -- an entry comes before what is inside it
        obtain ⟨p, hp, hmem⟩ := mem_map_under_iff.1 hm
        obtain ⟨k, p, rfl⟩ := List.exists_cons_of_ne_nil ((mem_located_iff v _).1 hmem).position_ne_nil
        rw [hp]
        exact List.cons_lt_cons_iff.2 (.inr ⟨rfl, List.nil_lt_cons k p⟩)
      · obtain ⟨j, q, hlt, hq⟩ := hlater m hm
        rw [hq]
        exact List.cons_lt_cons_iff.2 (.inl hlt)
    · obtain ⟨p, hp, -⟩ := mem_map_under_iff.1 hl
      obtain ⟨j, q, hlt, hq⟩ := hlater m hm
      rw [hp, hq]
      exact List.cons_lt_cons_iff.2 (.inl hlt)

end

/-! ### What is found -/

/-- Whether a pattern fits the key of an entry. -/
def Located.fits (pattern : Text) (l : Located) : Bool :=
  match l.key with
  | .text t => Text.glob pattern t
  | _ => false

theorem Located.fits_iff {pattern : Text} {l : Located} :
    l.fits pattern = true ↔ ∃ k, l.key = .text k ∧ Text.FitsKey pattern k := by
  rw [fits]
  split
  · next t hkey => simp [hkey, Text.glob_iff]
  · next hkey => exact iff_of_false Bool.false_ne_true fun ⟨k, hk, _⟩ => hkey k hk

/-- The results that the value of an entry stands for: a list stands for its items. -/
def opened : Value → List Value
  | .list vs => vs
  | v => [v]

/-- What a search takes from entries. -/
def taken (pattern : Text) (ls : List Located) : List Value :=
  (ls.filter fun l => l.fits pattern).flatMap fun l => opened l.value

theorem taken_append (pattern : Text) (ls ms : List Located) :
    taken pattern (ls ++ ms) = taken pattern ls ++ taken pattern ms := by
  rw [taken, List.filter_append, List.flatMap_append]
  rfl

theorem taken_map_under (pattern : Text) (i : Nat) (ls : List Located) :
    taken pattern (ls.map (Located.under i)) = taken pattern ls := by
  rw [taken, List.filter_map, List.flatMap_map]
  rfl

theorem taken_cons (pattern : Text) (position : List Nat) (t : Text) (v : Value) (ls : List Located) :
    taken pattern (⟨position, .text t, v⟩ :: ls) =
      (if Text.glob pattern t then opened v else []) ++ taken pattern ls := by
  rw [taken, List.filter_cons]
  show List.flatMap _ (if Text.glob pattern t = true then _ else _) = _
  split <;> rfl

/-- An entry under a text adds its own results and those inside it. -/
theorem deepEntries_cons (pattern t : Text) (v : Value) (es : Entries) :
    deepEntries pattern ((.text t, v) :: es) =
      deepSearch pattern v >>= fun inside => deepEntries pattern es >>= fun rest =>
        .ok ((if Text.glob pattern t then opened v else []) ++ inside ++ rest) := by
  cases v <;> rfl

mutual

/-- In data, a search takes the values of all entries whose key fits. -/
theorem deepSearch_eq (pattern : Text) (d : Value) (hd : d.IsJson) :
    deepSearch pattern d = .ok (taken pattern (located d)) := by
  cases d with
  | list vs =>
    cases hd with
    | list hvs => rw [deepSearch, located, deepItems_eq pattern 0 vs hvs]
  | map es =>
    cases hd with
    | map hkeys hvalues => rw [deepSearch, located, deepEntries_eq pattern 0 es hkeys hvalues]
  | scalar s => rfl
  | element e => rfl
  | discarded v => rfl

theorem deepItems_eq (pattern : Text) (i : Nat) (vs : List Value) (hvs : ∀ v ∈ vs, v.IsJson) :
    deepItems pattern vs = .ok (taken pattern (locatedItems i vs)) := by
  cases vs with
  | nil => rfl
  | cons v vs =>
    have hv := deepSearch_eq pattern v (hvs v List.mem_cons_self)
    have hrest := deepItems_eq pattern (i + 1) vs fun w hw => hvs w (List.mem_cons_of_mem v hw)
    rw [deepItems, locatedItems, hv, hrest, taken_append, taken_map_under]
    rfl

theorem deepEntries_eq (pattern : Text) (i : Nat) (es : Entries) (hkeys : ∀ e ∈ es, ∃ t, e.1 = .text t)
    (hvalues : ∀ e ∈ es, e.2.IsJson) : deepEntries pattern es = .ok (taken pattern (locatedEntries i es)) := by
  cases es with
  | nil => rfl
  | cons e es =>
    obtain ⟨key, v⟩ := e
    obtain ⟨⟨t, hkey⟩, hotherKeys⟩ := List.forall_mem_cons.1 hkeys
    obtain ⟨hv, hothers⟩ := List.forall_mem_cons.1 hvalues
    obtain rfl : key = .text t := hkey
    rw [deepEntries_cons, locatedEntries, deepSearch_eq pattern v hv,
      deepEntries_eq pattern (i + 1) es hotherKeys hothers, taken_cons, taken_append, taken_map_under,
      ← List.append_assoc]
    rfl

end

/-! ### In a path -/

/-- Two dots in front of a pattern ask for what the search finds. -/
theorem step_deep (v : Value) (w : Text) :
    step v (['.', '.'] ++ w) = deepSearch w v >>= fun found => .ok (.list found) := by
  have hafter : Text.after? ".." (['.', '.'] ++ w) = some w := Text.after?_eq_some_iff.2 rfl
  unfold step
  rw [if_neg (by simp), hafter]
  rfl

/-- A part that asks for entries by a pattern leads to what the search finds. -/
theorem walk_deep {w : Text} (hplain : ∀ c ∈ ("/|,&!" : Text), c ∉ w) (htrim : Text.trim w = w) (v : Value) :
    walk [['.', '.'] ++ w] v = deepSearch w v := by
  have hends := Text.trimLeft_and_trimRight_of_trim htrim
  have hpart : IsAlternative (['.', '.'] ++ w) := {
    ne_nil := List.cons_ne_nil _ _
    unseparated := by simpa using And.intro (hplain '|' (by decide)) (hplain ',' (by decide))
    trim_eq := (Text.trim_append_cons rfl ['.'] w).trans (by rw [hends.2]; rfl)
    unmarked := fun hlast => by
      have hmark : '!' ∈ ['.', '.'] ++ w := List.mem_of_getLast? hlast
      exact hplain '!' (by decide) (by simpa using hmark) }
  have hone := hpart.piecesOf_wildcards (by simpa using hplain '&' (by decide))
  have hexpand : expand v (['.', '.'] ++ w) = .ok (['.', '.'] ++ w) := by
    refine expand_of_one hone (fun es => ?_) v
    have hdeep : Text.startsWith ".." (['.', '.'] ++ w) = true := Text.startsWith_iff.2 (List.prefix_append _ _)
    rw [expandKey, hdeep, Bool.or_true, Bool.true_or, if_pos rfl]
  rw [walk_of_expand hexpand hpart, step_deep]
  cases deepSearch w v <;> rfl

/-- In data, a path of two dots and a pattern comes to the values of all entries whose key the pattern fits, however
    deep they are. Each of them counts once, an entry before those inside its value and otherwise in the order of the
    document. A list stands for its items there and any other value for itself, null too. -/
theorem data_deep {d : Value} (hd : d.IsJson) {w : Text} (hplain : ∀ c ∈ ("/|,&!" : Text), c ∉ w)
    (htrim : Text.trim w = w) :
    ∃ ls : List Located,
      (∀ l, l ∈ ls ↔ EntryAt d l.position l.key l.value ∧ ∃ k, l.key = .text k ∧ Text.FitsKey w k) ∧
      ls.Pairwise (fun l m => l.position < m.position) ∧
      data d (['.', '.'] ++ w) = .ok (ls.flatMap fun l => opened l.value) := by
  refine ⟨(located d).filter fun l => l.fits w, fun l => ?_, (pairwise_located d).filter _, ?_⟩
  · rw [List.mem_filter, mem_located_iff, Located.fits_iff]
  · have hslash : '/' ∉ ['.', '.'] ++ w := by simpa using hplain '/' (by decide)
    rw [data_eq_walk, parts_of_notMem hslash (List.cons_ne_nil _ _), walk_deep hplain htrim, deepSearch_eq w d hd,
      taken]

/-- Keys that fit, one over a list with an entry whose key fits as well, and one over a map with another. -/
theorem data_deep_nested :
    ∃ d : Value, d = .map [(.text "ab", .list [.int 1, .map [(.text "a", .null)]]), (.text "b", .int 2),
        (.text "a", .map [(.text "ac", .int 3)])] ∧
      d.IsJson ∧ (∀ c ∈ ("/|,&!" : Text), c ∉ ("a*" : Text)) ∧ Text.trim "a*" = "a*" ∧
      ∃ ls : List Located,
        (∀ l, l ∈ ls ↔ EntryAt d l.position l.key l.value ∧ ∃ k, l.key = .text k ∧ Text.FitsKey "a*" k) ∧
        ls.Pairwise (fun l m => l.position < m.position) ∧
        ls.flatMap (fun l => opened l.value) =
          [.int 1, .map [(.text "a", .null)], .null, .map [(.text "ac", .int 3)], .int 3] := by
  refine ⟨_, rfl, ?_⟩
  generalize hd : Value.map _ = d
  have hjson : d.IsJson := by
    have hone : ∀ (t : Text) (v : Value), v.IsJson → (Value.map [(.text t, v)]).IsJson := fun t v hv =>
      .map (List.forall_mem_singleton.2 ⟨t, rfl⟩) (List.forall_mem_singleton.2 hv)
    subst hd
    refine .map ?_ ?_ <;> simp only [List.forall_mem_cons]
    · exact ⟨⟨_, rfl⟩, ⟨_, rfl⟩, ⟨_, rfl⟩, List.forall_mem_nil _⟩
    · refine ⟨.list ?_, .scalar trivial, hone _ _ (.scalar trivial), List.forall_mem_nil _⟩
      exact List.forall_mem_cons.2 ⟨.scalar trivial, List.forall_mem_singleton.2 (hone _ _ (.scalar trivial))⟩
  have hplain : ∀ c ∈ ("/|,&!" : Text), c ∉ ("a*" : Text) := Text.forall_mem_of_all (by decide)
  obtain ⟨ls, hmem, hrising, hdata⟩ := data_deep hjson hplain rfl
  have hfound : data d "..a*" =
      .ok [.int 1, .map [(.text "a", .null)], .null, .map [(.text "ac", .int 3)], .int 3] := by
    subst hd
    rfl
  exact ⟨hjson, hplain, rfl, ls, hmem, hrising, Except.ok.inj (hdata.symm.trans hfound)⟩

end PageQuery.Path
