import PageQuery.Proofs.Yaml.Nodes
import PageQuery.Yaml.Reader

namespace PageQuery.Yaml

/-!
# Documents without a value

A document whose nodes are read has no value if a node of it does not fit its kind. Such a node is refused as malformed,
unless it is a scalar: a text that is tagged as a number, a day, a moment or a truth value, or looks like one, and
is none.

* `Within`: the nodes that stand in a node;
* `ends_merged`: merging takes entries from the node itself;
* `blamesAt_value`: a node is refused as malformed, or for a scalar that stands in it;
* `Suspect`, `suspect_of_read`: the texts that are refused in another way than as malformed.
-/

namespace Node

/-- A node stands in another: it is the node itself, or stands in an item, a key or a value of it. -/
inductive Within (m : Node) : Node → Prop
  | self : Within m m
  | item {tag : Option Text} {items : List Node} {n : Node} : n ∈ items → Within m n → Within m (.sequence tag items)
  | key {tag : Option Text} {entries : List (Node × Node)} {e : Node × Node} :
    e ∈ entries → Within m e.1 → Within m (.mapping tag entries)
  | value {tag : Option Text} {entries : List (Node × Node)} {e : Node × Node} :
    e ∈ entries → Within m e.2 → Within m (.mapping tag entries)

/-- A node stands in a key or a value of entries. -/
def InEntries (m : Node) (es : List (Node × Node)) : Prop := ∃ e ∈ es, Within m e.1 ∨ Within m e.2

theorem within_of_inEntries {m : Node} {tag : Option Text} {es : List (Node × Node)} (h : InEntries m es) :
    Within m (.mapping tag es) := by
  obtain ⟨e, he, hkey | hvalue⟩ := h
  · exact .key he hkey
  · exact .value he hvalue

theorem inEntries_cons {m : Node} {e : Node × Node} {es : List (Node × Node)} :
    InEntries m (e :: es) ↔ Within m e.1 ∨ Within m e.2 ∨ InEntries m es := by
  simp [InEntries, or_assoc]

theorem inEntries_append {m : Node} {es es' : List (Node × Node)} :
    InEntries m (es ++ es') ↔ InEntries m es ∨ InEntries m es' := by
  simp [InEntries, or_and_right, exists_or]

/-! ### Merging -/

mutual

/-- The entries that a mapping has after merging stand in it. -/
theorem ends_merged (n : Node) : Ends (fun es => ∀ m, InEntries m es → Within m n) (· = .malformed) n.merged := by
  match n with
  | .mapping tag entries =>
    rw [merged]
    refine ends_bind (ends_separate entries) fun r hr m hm => within_of_inEntries (hr m hm)
  | .scalar .. => unfold merged; rfl
  | .sequence .. => unfold merged; rfl

theorem ends_separate (entries : List (Node × Node)) :
    Ends (fun r => ∀ m, InEntries m (r.1 ++ r.2) → InEntries m entries) (· = .malformed) (separate entries) := by
  match entries with
  | [] => exact fun m hm => hm
  | (k, v) :: rest =>
    rw [separate]
    split
    · extract_lets after
      have hafter : ∀ new : List (Node × Node), (∀ m, InEntries m new → Within m v) →
          Ends (fun r => ∀ m, InEntries m (r.1 ++ r.2) → InEntries m ((k, v) :: rest)) (· = .malformed)
            (after new) := by
        intro new hnew
        refine ends_bind (ends_separate rest) fun r hr m hm => inEntries_cons.2 (.inr ?_)
        rw [List.append_assoc] at hm
        rcases inEntries_append.1 hm with hm | hm
        · exact .inl (hnew m hm)
        · exact .inr (hr m hm)
      split
      · exact ends_bind (ends_merged _) hafter
      · next items =>
        refine ends_bind (ends_mergedAll items) fun new hnew => hafter new fun m hm => ?_
        obtain ⟨n, hn, hin⟩ := hnew m hm
        exact .item hn hin
      · exact rfl
    · refine ends_bind (ends_separate rest) fun r hr m hm => ?_
      -- an entry of its own comes after those to be merged
      rcases inEntries_append.1 hm with hm | hm
      · exact inEntries_cons.2 (.inr (.inr (hr m (inEntries_append.2 (.inl hm)))))
      · rcases inEntries_cons.1 hm with hkey | hvalue | hm
        · exact inEntries_cons.2 (.inl hkey)
        · exact inEntries_cons.2 (.inr (.inl hvalue))
        · exact inEntries_cons.2 (.inr (.inr (hr m (inEntries_append.2 (.inr hm)))))

theorem ends_mergedAll (ns : List Node) :
    Ends (fun es => ∀ m, InEntries m es → ∃ n ∈ ns, Within m n) (· = .malformed) (mergedAll ns) := by
  match ns with
  | [] => exact fun m hm => by simp [InEntries] at hm
  | n :: rest =>
    rw [mergedAll]
    refine ends_bind (ends_merged n) fun es hes => ends_bind (ends_mergedAll rest) fun es' hes' m hm => ?_
    rcases inEntries_append.1 hm with hm | hm
    · obtain ⟨n', hn', hin⟩ := hes' m hm
      exact ⟨n', List.mem_cons_of_mem _ hn', hin⟩
    · exact ⟨n, List.mem_cons_self, hes m hm⟩

end

/-! ### Values -/

/-- Only texts of truth values, numbers, days and moments are refused other than as malformed. -/
theorem ends_scalarValue (k : Kind) (t : Text) :
    FailsOnly (fun e => e = .malformed ∨ k = .bool ∨ k = .int ∨ k = .float ∨ k = .stamp) (scalarValue k t) := by
  unfold scalarValue
  split
  · exact trivial
  · split
    · exact trivial
    · exact .inr (.inl rfl)
  · cases wholeNumber t with
    | ok n => exact trivial
    | error e => exact .inr (.inr (.inl rfl))
  · cases number t with
    | ok x => exact trivial
    | error e => exact .inr (.inr (.inr (.inl rfl)))
  · have hbinary : Mild (binary t) := by
      unfold binary
      split
      · exact rfl
      · split
        · exact trivial
        · exact rfl
    exact failsOnly_bind (ends_mono hbinary (fun _ h => h) fun _ h => .inl h) fun _ => trivial
  · split
    · exact .inr (.inr (.inr (.inr rfl)))
    · cases stamp _ with
      | ok x => exact trivial
      | error e => exact .inr (.inr (.inr (.inr rfl)))
  · exact trivial
  · exact .inl rfl

/-- A scalar whose text is not one of its kind. -/
def Misfit (m : Node) (e : Error) : Prop := ∃ s, m.text? = some s ∧ scalarValue m.kind s = .error e

/-- Nodes are refused as malformed, or for a scalar that stands in them. -/
def Blames (within : Node → Prop) (e : Error) : Prop := e = .malformed ∨ ∃ m, within m ∧ Misfit m e

theorem Blames.mono {P Q : Node → Prop} {e : Error} (h : Blames P e) (hPQ : ∀ m, P m → Q m) : Blames Q e :=
  h.imp_right fun ⟨m, hm, hfit⟩ => ⟨m, hPQ m hm, hfit⟩

/-- What the readers of values that go as deep as some fuel allows are refused for. -/
structure BlamesAt (fuel : Nat) : Prop where
  value : ∀ n, FailsOnly (Blames (Within · n)) (value fuel n)
  values : ∀ ns, FailsOnly (Blames fun m => ∃ n ∈ ns, Within m n) (values fuel ns)
  entryValues : ∀ es, FailsOnly (Blames (InEntries · es)) (entryValues fuel es)
  pairValues : ∀ ns, FailsOnly (Blames fun m => ∃ n ∈ ns, Within m n) (pairValues fuel ns)

variable {fuel : Nat}

theorem failsOnly_mono {α : Type} {P Q : Node → Prop} {x : Except Error α} (h : FailsOnly (Blames P) x)
    (hPQ : ∀ m, P m → Q m) : FailsOnly (Blames Q) x := ends_mono h (fun _ h => h) fun _ h => h.mono hPQ

theorem blamesAt_value (h : BlamesAt fuel) (n : Node) : FailsOnly (Blames (Within · n)) (value (fuel + 1) n) := by
  have hitems : ∀ {tag : Option Text} {items : List Node} (m : Node),
      (∃ n ∈ items, Within m n) → Within m (.sequence tag items) := fun m ⟨_, hn, hin⟩ => .item hn hin
  have hscalar : FailsOnly (Blames (Within · n)) (do scalarValue n.kind (← n.text)) := by
    unfold text
    cases htext : n.text? with
    | none => exact .inl rfl
    | some s =>
      show FailsOnly (Blames (Within · n)) (scalarValue n.kind s)
      cases hvalue : scalarValue n.kind s with
      | ok v => exact trivial
      | error e => exact .inr ⟨n, .self, s, htext, hvalue⟩
  unfold value
  split
  · exact failsOnly_bind (failsOnly_mono (h.values _) hitems) fun _ => trivial
  · refine ends_bind (ends_mono (ends_merged _) (fun _ h => h) fun _ h => .inl h) fun es hes => ?_
    exact failsOnly_bind (failsOnly_mono (h.entryValues es) hes) fun _ => trivial
  · exact failsOnly_bind (failsOnly_mono (h.pairValues _) hitems) fun _ => trivial
  · exact failsOnly_bind (failsOnly_mono (h.pairValues _) hitems) fun _ => trivial
  · exact hscalar

theorem blamesAt_values (h : BlamesAt fuel) (ns : List Node) :
    FailsOnly (Blames fun m => ∃ n ∈ ns, Within m n) (values (fuel + 1) ns) := by
  cases ns with
  | nil => exact trivial
  | cons n rest =>
    rw [Node.values]
    refine failsOnly_bind (failsOnly_mono (h.value n) fun m hm => ⟨n, List.mem_cons_self, hm⟩) fun _ => ?_
    refine failsOnly_bind (failsOnly_mono (h.values rest) ?_) fun _ => trivial
    rintro m ⟨n', hn', hin⟩
    exact ⟨n', List.mem_cons_of_mem _ hn', hin⟩

theorem blamesAt_entryValues (h : BlamesAt fuel) (es : List (Node × Node)) :
    FailsOnly (Blames (InEntries · es)) (entryValues (fuel + 1) es) := by
  cases es with
  | nil => exact trivial
  | cons e rest =>
    obtain ⟨k, v⟩ := e
    unfold Node.entryValues
    extract_lets after
    have hafter : ∀ key, FailsOnly (Blames (InEntries · ((k, v) :: rest))) (pure key >>= after) := by
      intro key
      rw [pure_bind]
      refine failsOnly_bind (failsOnly_mono (h.value v) fun m hm => ?_) fun _ => ?_
      · exact inEntries_cons.2 (.inr (.inl hm))
      · refine failsOnly_bind (failsOnly_mono (h.entryValues rest) fun m hm => ?_) fun _ => trivial
        exact inEntries_cons.2 (.inr (.inr hm))
    split
    · exact hafter _
    · refine failsOnly_bind (failsOnly_mono (h.value _) fun m hm => inEntries_cons.2 (.inl hm)) fun key => ?_
      split
      · exact hafter _
      · exact .inl rfl

theorem blamesAt_pairValues (h : BlamesAt fuel) (ns : List Node) :
    FailsOnly (Blames fun m => ∃ n ∈ ns, Within m n) (pairValues (fuel + 1) ns) := by
  cases ns with
  | nil => exact trivial
  | cons n rest =>
    unfold Node.pairValues
    split
    · next tag k v =>
      have hhere : ∀ m, InEntries m [(k, v)] → ∃ n ∈ Node.mapping tag [(k, v)] :: rest, Within m n := fun m hm =>
        ⟨_, List.mem_cons_self, within_of_inEntries hm⟩
      refine failsOnly_bind (failsOnly_mono (h.value k) fun m hm => ?_) fun _ => ?_
      · exact hhere m (inEntries_cons.2 (.inl hm))
      · refine failsOnly_bind (failsOnly_mono (h.value v) fun m hm => ?_) fun _ => ?_
        · exact hhere m (inEntries_cons.2 (.inr (.inl hm)))
        · refine failsOnly_bind (failsOnly_mono (h.pairValues rest) ?_) fun _ => trivial
          rintro m ⟨n', hn', hin⟩
          exact ⟨n', List.mem_cons_of_mem _ hn', hin⟩
    · exact .inl rfl

/-- However deep a node is read, it is refused as malformed, or for a scalar that stands in it. -/
theorem blamesAt (fuel : Nat) : BlamesAt fuel := by
  induction fuel with
  | zero => exact ⟨fun _ => .inl rfl, fun _ => .inl rfl, fun _ => .inl rfl, fun _ => .inl rfl⟩
  | succ fuel ih =>
    exact ⟨blamesAt_value ih, blamesAt_values ih, blamesAt_entryValues ih, blamesAt_pairValues ih⟩

/-- A scalar that is refused other than as malformed is written or tagged as one of four kinds. -/
theorem kind_of_misfit {m : Node} {e : Error} (h : Misfit m e) (he : e ≠ .malformed) :
    m.kind = .bool ∨ m.kind = .int ∨ m.kind = .float ∨ m.kind = .stamp := by
  obtain ⟨s, -, hvalue⟩ := h
  have hends := ends_scalarValue m.kind s
  rw [hvalue] at hends
  exact hends.resolve_left he

end Node

/-- A text that may be refused other than as malformed: it holds an escape of eight digits, or a truth value, number,
    day or moment stands in it that is none. -/
def Suspect (t : Text) : Prop :=
  escapeMark <:+: t ∨ ∃ (n m : Node) (e : Error), Node.read t = .ok (some n) ∧ m.Within n ∧ m.Misfit e ∧
    (m.kind = .bool ∨ m.kind = .int ∨ m.kind = .float ∨ m.kind = .stamp)

/-- A text that is refused other than as malformed has a part that gives cause to it. -/
theorem suspect_of_read {t : Text} {e : Error} (h : read t = .error e) (he : e ≠ .malformed) : Suspect t := by
  rcases bind_eq_error_iff.1 h with hnode | ⟨node?, hnode, hvalue⟩
  · have hends := Node.failsOnly_read t
    rw [hnode] at hends
    exact .inl (hends.resolve_left he)
  · cases node? with
    | none => cases hvalue
    | some n =>
      have hends := (Node.blamesAt (2 * n.size + 2)).value n
      rw [show n.value (2 * n.size + 2) = .error e from hvalue] at hends
      obtain ⟨m, hin, hfit⟩ := hends.resolve_left he
      exact .inr ⟨n, m, e, hnode, hin, hfit, Node.kind_of_misfit hfit he⟩

end PageQuery.Yaml
