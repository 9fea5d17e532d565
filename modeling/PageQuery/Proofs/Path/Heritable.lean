import PageQuery.Path.Address
import PageQuery.Path.Data
import PageQuery.Path.Document
import PageQuery.Proofs.Run
import PageQuery.Proofs.Value.Data
import PageQuery.Proofs.Value.Made

namespace PageQuery

/-!
# Paths lead to values of the same kind

What a path leads to is put together from what stands inside the data. A kind of values that comes down to the items of
lists and to the keys and values of maps is the kind of everything that paths lead to.

* `Value.Heritable`: such kinds of values, with the errors that keys give when they are written;
* `Path.ends_deepSearch`, `Path.ends_step`, `Path.ends_data`: what is found is of the kind;
* `Path.exists_data`: in data, every path leads to results;
* `Path.madeOf_data`: what is found in data is made of the scalars of the data;
* `Path.ensures_document`, `Path.ensures_address`: other paths lead to elements and texts.
-/

/-- A kind of values that comes down to the parts of values, among them keys, which fail to be written only with errors
    of one kind. -/
structure Value.Heritable (V : Value → Prop) (E : Numeral.Error → Prop) : Prop where
  null : V .null
  list : ∀ {vs : List Value}, V (.list vs) ↔ ∀ v ∈ vs, V v
  map : ∀ {es : Entries}, V (.map es) → ∀ e ∈ es, V (.scalar e.1) ∧ V e.2 ∧ FailsOnly E e.1.plain

variable {V : Value → Prop} {E : Numeral.Error → Prop}

/-- The results that a value is are of such a kind if it is. -/
theorem Value.Heritable.ofValue (hV : Heritable V E) {v : Value} (hv : V v) : ∀ w ∈ Results.ofValue v, V w := by
  unfold Results.ofValue
  split
  · exact hV.list.1 hv
  · exact List.forall_mem_nil _
  · exact List.forall_mem_singleton.2 hv

/-- The value under a key is of such a kind, or null where there is none. -/
theorem Value.Heritable.getD (hV : Heritable V E) {o : Option Value} (h : ∀ v, o = some v → V v) :
    V (o.getD .null) := by
  cases o with
  | none => exact hV.null
  | some v => exact h v rfl

namespace Path

/-! ### Anywhere inside a value -/

mutual

/-- What is found anywhere inside a value is of its kind. -/
theorem ends_deepSearch (hV : Value.Heritable V E) (pattern : Text) (v : Value) (hv : V v) :
    Ends (fun rs => ∀ w ∈ rs, V w) E (deepSearch pattern v) := by
  cases v with
  | scalar s => exact List.forall_mem_nil _
  | element e => exact List.forall_mem_nil _
  | discarded v => exact List.forall_mem_nil _
  | list vs =>
    rw [deepSearch]
    exact ends_deepItems hV pattern vs (hV.list.1 hv)
  | map es =>
    rw [deepSearch]
    exact ends_deepEntries hV pattern es (hV.map hv)

theorem ends_deepItems (hV : Value.Heritable V E) (pattern : Text) (vs : List Value) (hvs : ∀ v ∈ vs, V v) :
    Ends (fun rs => ∀ w ∈ rs, V w) E (deepItems pattern vs) := by
  cases vs with
  | nil => exact List.forall_mem_nil _
  | cons v vs =>
    rw [deepItems]
    refine ends_bind (ends_deepSearch hV pattern v (hvs v List.mem_cons_self)) fun found hfound => ?_
    refine ends_bind (ends_deepItems hV pattern vs fun w hw => hvs w (List.mem_cons_of_mem v hw)) fun rest hrest => ?_
    exact List.forall_mem_append.2 ⟨hfound, hrest⟩

theorem ends_deepEntries (hV : Value.Heritable V E) (pattern : Text) (es : Entries)
    (hes : ∀ e ∈ es, V (.scalar e.1) ∧ V e.2 ∧ FailsOnly E e.1.plain) :
    Ends (fun rs => ∀ w ∈ rs, V w) E (deepEntries pattern es) := by
  cases es with
  | nil => exact List.forall_mem_nil _
  | cons e es =>
    obtain ⟨key, v⟩ := e
    obtain ⟨-, hv, hkey⟩ := hes _ List.mem_cons_self
    refine ends_bind hkey fun t _ => ?_
    refine ends_bind (ends_deepSearch hV pattern v hv) fun inside hinside => ?_
    refine ends_bind (ends_deepEntries hV pattern es fun e he => hes e (List.mem_cons_of_mem _ he)) fun rest hrest => ?_
    refine List.forall_mem_append.2 ⟨List.forall_mem_append.2 ⟨?_, hinside⟩, hrest⟩
    -- a list under a key that fits is opened
    split
    · split
      · exact hV.list.1 hv
      · exact List.forall_mem_singleton.2 hv
    · exact List.forall_mem_nil _

end

/-! ### Step by step -/

/-- What the maps of a list have under a key is of the kind of the list. -/
theorem forall_mem_pluck (hV : Value.Heritable V E) {vs : List Value} (hvs : ∀ v ∈ vs, V v) (key : Text) :
    ∀ w ∈ pluck key vs, V w := by
  intro w hw
  obtain ⟨v, hv, hw⟩ := List.mem_filterMap.1 hw
  split at hw
  · next es =>
    obtain ⟨e, he, rfl⟩ := Option.map_eq_some_iff.1 (Option.filter_eq_some_iff.1 hw).1
    exact (hV.map (hvs _ hv) e (List.mem_of_find?_eq_some he)).2.1
  · cases hw

/-- What a list has under a key is of its kind, or null. -/
theorem of_stepInList (hV : Value.Heritable V E) {vs : List Value} (hvs : ∀ v ∈ vs, V v) (key : Text) :
    V (stepInList vs key) := by
  unfold stepInList
  split
  · split
    · exact hV.list.2 fun v hv => hvs v (List.mem_of_mem_take (List.mem_of_mem_drop hv))
    · exact hV.list.2 (forall_mem_pluck hV hvs key)
  · split
    · split
      · exact hV.null
      · exact hV.getD fun v hv => hvs v (List.mem_of_getElem? hv)
    · exact hV.list.2 (forall_mem_pluck hV hvs key)

/-- What a value has under a key is of its kind. -/
theorem ends_step (hV : Value.Heritable V E) {v : Value} (hv : V v) (key : Text) : Ends V E (step v key) := by
  unfold step
  split
  · exact hv
  · split
    · exact ends_bind (ends_deepSearch hV _ v hv) fun found hfound => hV.list.2 hfound
    · split
      · exact of_stepInList hV (hV.list.1 hv) key
      · split
        · exact hV.list.2 (List.forall_mem_map.2 fun e he => (hV.map hv e he).1)
        · refine hV.getD fun u hu => ?_
          obtain ⟨e, he, rfl⟩ := Option.map_eq_some_iff.1 hu
          exact (hV.map hv e (List.mem_of_find?_eq_some he)).2.1
      · exact hV.null

/-! ### Whole paths -/

/-- Wildcards are replaced, unless a key cannot be written. -/
theorem failsOnly_expand (hV : Value.Heritable V E) {v : Value} (hv : V v) (part : Text) :
    FailsOnly E (expand v part) := by
  unfold expand
  split
  · next es =>
    have hkeys : FailsOnly E (keyTexts es) := failsOnly_mapM fun e he => (hV.map hv e he).2.2
    refine failsOnly_bind (failsOnly_mapM fun key _ => ?_) fun _ => trivial
    unfold expandKey
    split
    · trivial
    · exact failsOnly_bind hkeys fun _ => trivial
  · trivial

/-- The results for several keys are those for each of them. -/
theorem ends_alternatives {go : Text → Except Numeral.Error (List Value)}
    (hgo : ∀ key, Ends (fun rs => ∀ w ∈ rs, V w) E (go key)) {found : List Value} (hfound : ∀ w ∈ found, V w)
    (required : Bool) (keys : List Text) :
    Ends (fun rs => ∀ w ∈ rs, V w) E (alternatives go found required keys) := by
  induction keys generalizing found required with
  | nil => exact hfound
  | cons key keys ih =>
    unfold alternatives
    split
    · exact ih hfound _
    · split
      · exact ih hfound _
      · -- a mark behind the key only decides whether it counts
        generalize (if Text.endsWith "!" key then (key.dropLast, true) else (key, required)) = p
        dsimp only
        split
        · exact ih hfound _
        · exact ends_bind (hgo _) fun more hmore => ih (List.forall_mem_append.2 ⟨hfound, hmore⟩) _

/-- The results at the end of the parts of a path are of the kind of the value. -/
theorem ends_walk (hV : Value.Heritable V E) (parts : List Text) {v : Value} (hv : V v) :
    Ends (fun rs => ∀ w ∈ rs, V w) E (walk parts v) := by
  induction parts generalizing v with
  | nil => exact hV.ofValue hv
  | cons part parts ih =>
    refine ends_bind (failsOnly_expand hV hv part) fun keys _ => ?_
    -- each key leads on from its own step
    exact ends_alternatives (fun key => ends_bind (ends_step hV hv key) fun w hw => ih hw) (List.forall_mem_nil _) _ _

/-- The results at the end of a path in data are of the kind of the data. -/
theorem ends_data (hV : Value.Heritable V E) {v : Value} (hv : V v) (path : Text) :
    Ends (fun rs => ∀ w ∈ rs, V w) E (data v path) := ends_walk hV _ hv

end Path

/-! ### Data -/

namespace Value

/-- Data is made of data, and its keys are texts. -/
theorem heritable_isJson : Heritable IsJson fun _ => False where
  null := .scalar trivial
  list := ⟨fun h => by cases h with | list hvs => exact hvs, .list⟩
  map h := by
    cases h with
    | map hkeys hvalues =>
      intro e he
      obtain ⟨t, hkey⟩ := hkeys e he
      rw [hkey]
      exact ⟨.scalar trivial, hvalues e he, trivial⟩

end Value

/-- In data, every path leads to results. -/
theorem Path.exists_data {d : Value} (hd : d.IsJson) (path : Text) : ∃ rs, data d path = .ok rs := by
  have hends := ends_data Value.heritable_isJson hd path
  cases hdata : data d path with
  | ok rs => exact ⟨rs, rfl⟩
  | error e =>
    rw [hdata] at hends
    exact hends.elim

/-! ### Values made of scalars of a kind -/

section

open Run

variable {P : Scalar → Prop}

/-- What is made of scalars of an ample kind is made of such values. -/
theorem Value.heritable_madeOf (hP : Scalar.Ample P) : Heritable (MadeOf P) fun _ => True where
  null := madeOf_null hP
  list := madeOf_list_iff
  map h e he := by
    obtain ⟨hkey, hvalue⟩ := madeOf_map_iff.1 h e he
    refine ⟨.scalar hkey, hvalue, ?_⟩
    cases e.1.plain <;> trivial

namespace Path

/-- The results at the end of a path in data are made of the scalars of the data. -/
theorem madeOf_data (hP : Scalar.Ample P) {v : Value} (hv : v.MadeOf P) {path : Text} {r : Results}
    (h : data v path = .ok r) : ∀ w ∈ r, w.MadeOf P := by
  have hends := ends_data (Value.heritable_madeOf hP) hv path
  rw [h] at hends
  exact hends

/-! ### Paths in documents and addresses -/

/-- The results at the end of a path in a document are elements and texts. -/
theorem ensures_document (hP : Scalar.Ample P) (e : Html.Element) (path : Text) :
    Ensures (document e path) fun vs => ∀ v ∈ vs, v.MadeOf P := by
  refine ensures_after _ fun found => ?_
  split
  · refine ensures_pure fun v hv => ?_
    obtain ⟨d, -, rfl⟩ := List.mem_map.1 hv
    unfold accessor
    dsimp only
    split
    · exact Value.madeOf_text hP _
    · exact Value.madeOf_null hP
  · refine ensures_pure fun v hv => ?_
    obtain ⟨d, -, rfl⟩ := List.mem_map.1 hv
    exact .element d

/-- The parts of an address are texts, and a map of texts. -/
theorem madeOf_partsOf (hP : Scalar.Ample P) (u : Url.Parts) (path : Text) : ∀ v ∈ partsOf u path, v.MadeOf P := by
  have hone : ∀ t : Text, ∀ v ∈ [Value.text t], v.MadeOf P := fun t =>
    List.forall_mem_singleton.2 (Value.madeOf_text hP t)
  unfold partsOf
  dsimp only
  split
  case h_3 =>
    unfold portOf
    split
    · simp
    · split
      · exact hone _
      · simp
  case h_9 =>
    refine List.forall_mem_singleton.2 (Value.madeOf_map_iff.2 (List.forall_mem_map.2 fun p _ => ?_))
    exact ⟨hP.text _, Value.madeOf_text hP _⟩
  case h_10 =>
    split
    · exact List.forall_mem_map.2 fun t _ => Value.madeOf_text hP t
    · simp
  all_goals exact hone _

/-- The results at the end of a path in an address are texts, or a map of texts. -/
theorem ensures_address (hP : Scalar.Ample P) (t path : Text) (parameters : Ordered (List Text)) :
    Ensures (address t path parameters) fun vs => ∀ v ∈ vs, v.MadeOf P := by
  have hrest : ∀ t, Ensures (if path.isEmpty then return [.text t]
      else return partsOf (← split t) path : Run (List Value)) fun vs => ∀ v ∈ vs, v.MadeOf P := by
    intro t
    split
    · exact ensures_pure (List.forall_mem_singleton.2 (Value.madeOf_text hP t))
    · exact ensures_after _ fun u => ensures_pure (madeOf_partsOf hP u path)
  rw [address]
  split
  · exact hrest t
  · exact ensures_after _ fun t => hrest t

end Path

end

end PageQuery
