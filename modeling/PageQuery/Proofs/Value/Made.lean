import PageQuery.Proofs.Value.Writable

namespace PageQuery

/-!
# Values made of scalars of a kind

What queries pass around is made of scalars. A kind of scalars to which all belong that queries bring in by themselves
is kept: what is made of such scalars stays so.

* `Scalar.Ample`: the kinds that are kept;
* `Value.MadeOf`: a value in which all scalars, keys among them, are of a kind, and nothing is discarded;
* `Value.madeOf_scalar_iff`, `Value.madeOf_list_iff`, `Value.madeOf_map_iff`: by the forms of values;
* `Json.holds_madeOf`: whatever is read from JSON text is so;
* `Value.Undiscarded`, `Value.undiscarded_iff_madeOf`: a value in which nothing is discarded is one that is made of
  scalars, whichever they are.
-/

/-- A kind of scalars is ample if those belong to it that queries bring in: nothing, truth values, texts, doubles, and
    whole numbers that can be written. -/
structure Scalar.Ample (P : Scalar → Prop) : Prop where
  null : P .null
  bool : ∀ b, P (.bool b)
  text : ∀ t, P (.text t)
  float : ∀ x, P (.float x)
  int : ∀ n, (Value.int n).WithinDigits → P (.int n)

/-- A value is made of scalars of a kind, with elements among them, and neither it nor anything inside it is
    discarded. -/
inductive Value.MadeOf (P : Scalar → Prop) : Value → Prop where
  | scalar {s : Scalar} (h : P s) : MadeOf P (.scalar s)
  | list {vs : List Value} (h : ∀ v ∈ vs, MadeOf P v) : MadeOf P (.list vs)
  | map {es : Entries} (hkeys : ∀ e ∈ es, P e.1) (hvalues : ∀ e ∈ es, MadeOf P e.2) : MadeOf P (.map es)
  | element (e : Html.Element) : MadeOf P (.element e)

variable {P : Scalar → Prop}

namespace Value

/-! ### The parts of a value -/

@[simp] theorem madeOf_scalar_iff {s : Scalar} : (Value.scalar s).MadeOf P ↔ P s := by
  constructor
  · rintro ⟨⟩
    assumption
  · exact .scalar

@[simp] theorem madeOf_list_iff {vs : List Value} : (Value.list vs).MadeOf P ↔ ∀ v ∈ vs, v.MadeOf P := by
  constructor
  · rintro ⟨⟩
    assumption
  · exact .list

@[simp] theorem madeOf_map_iff {es : Entries} : (Value.map es).MadeOf P ↔ ∀ e ∈ es, P e.1 ∧ e.2.MadeOf P := by
  constructor
  · intro h e he
    cases h with
    | map hkeys hvalues => exact ⟨hkeys e he, hvalues e he⟩
  · exact fun h => .map (fun e he => (h e he).1) fun e he => (h e he).2

/-- A discarded value is not made of anything. -/
theorem not_madeOf_discarded (v : Value) : ¬(Value.discarded v).MadeOf P := nofun

theorem madeOf_null (hP : Scalar.Ample P) : null.MadeOf P := .scalar hP.null

theorem madeOf_text (hP : Scalar.Ample P) (t : Text) : (text t).MadeOf P := .scalar (hP.text t)

/-- Null, where there is no value, is of every ample kind. -/
theorem madeOf_getD (hP : Scalar.Ample P) {o : Option Value} (h : ∀ v, o = some v → v.MadeOf P) :
    (o.getD .null).MadeOf P := by
  cases o with
  | none => exact madeOf_null hP
  | some v => exact h v rfl

end Value

/-! ### Maps -/

namespace Entries

/-- The value under a key is one of a map. -/
theorem madeOf_get? {es : Entries} {key : Scalar} {v : Value} (hes : ∀ e ∈ es, P e.1 ∧ e.2.MadeOf P)
    (h : get? es key = some v) : v.MadeOf P := by
  obtain ⟨e, he, rfl⟩ := Option.map_eq_some_iff.1 h
  exact (hes e (List.mem_of_find?_eq_some he)).2

end Entries

/-! ### JSON -/

namespace Json

/-- What is made of scalars of an ample kind is a kind of values to which all belongs that is read. -/
theorem holds_madeOf (hP : Scalar.Ample P) : Holds (Value.MadeOf P) where
  atom {t r} h := by
    have hwritable := isWritable_atom h
    generalize r.1 = s at hwritable ⊢
    obtain ⟨hjson, hdigits⟩ := hwritable
    refine .scalar ?_
    cases s with
    | null => exact hP.null
    | bool b => exact hP.bool b
    | int n => exact hP.int n hdigits
    | float x => exact hP.float x
    | text t => exact hP.text t
    | stamp s =>
      cases hjson with
      | scalar h => exact h.elim
    | bytes bs =>
      cases hjson with
      | scalar h => exact h.elim
  text t := Value.madeOf_text hP t
  list h := .list h
  map {es} h := Value.madeOf_map_iff.2 fun e he => by
    obtain ⟨⟨t, hkey⟩, hvalue⟩ := h e he
    exact ⟨hkey ▸ hP.text t, hvalue⟩

end Json

/-- What is decoded is made of scalars of an ample kind if the value is. -/
theorem Transform.madeOf_decode (hP : Scalar.Ample P) {v : Value} (h : v.MadeOf P) : (decode v).MadeOf P := by
  unfold decode
  split
  · next t =>
    cases hdecode : decodeText? t with
    | none => exact Value.madeOf_text hP t
    | some w => exact (Json.holds_madeOf hP).decodeText? hdecode
  · exact h

/-! ### Values without discarded parts -/

/-- Neither a value nor anything inside it is discarded. -/
inductive Value.Undiscarded : Value → Prop where
  | scalar (s : Scalar) : Undiscarded (.scalar s)
  | list {vs : List Value} (h : ∀ v ∈ vs, Undiscarded v) : Undiscarded (.list vs)
  | map {es : Entries} (h : ∀ e ∈ es, Undiscarded e.2) : Undiscarded (.map es)
  | element (e : Html.Element) : Undiscarded (.element e)

/-- The kind of all scalars is ample. -/
theorem Scalar.ample_any : Scalar.Ample fun _ => True :=
  ⟨trivial, fun _ => trivial, fun _ => trivial, fun _ => trivial, fun _ _ => trivial⟩

namespace Value

@[simp] theorem undiscarded_scalar (s : Scalar) : (Value.scalar s).Undiscarded := .scalar s

/-- A list is without marks if its items are. -/
@[simp] theorem undiscarded_list_iff {vs : List Value} :
    (Value.list vs).Undiscarded ↔ ∀ v ∈ vs, v.Undiscarded := by
  constructor
  · rintro ⟨⟩
    assumption
  · exact .list

/-- A map is without marks if its values are. -/
@[simp] theorem undiscarded_map_iff {es : Entries} :
    (Value.map es).Undiscarded ↔ ∀ e ∈ es, e.2.Undiscarded := by
  constructor
  · rintro ⟨⟩
    assumption
  · exact .map

/-- A value is without marks if it is made of any scalars. -/
theorem undiscarded_iff_madeOf {v : Value} : v.Undiscarded ↔ v.MadeOf fun _ => True := by
  constructor
  · intro h
    induction h with
    | scalar s => exact .scalar trivial
    | list _ ih => exact .list ih
    | map _ ih => exact .map (fun _ _ => trivial) ih
    | element e => exact .element e
  · intro h
    induction h with
    | scalar _ => exact .scalar _
    | list _ ih => exact .list ih
    | map _ _ ih => exact .map ih
    | element e => exact .element e

end Value

end PageQuery
