import PageQuery.Format.Writer
import PageQuery.Proofs.Value.Made

namespace PageQuery

/-!
# Which values can be printed

A value is written as JSON or YAML exactly if it is made of scalars that the format has a form for. Elements count as
their HTML, and whole numbers must not have too many digits.

* `Scalar.Prints`: the scalars that the formats have a form for, which are an ample kind (`Scalar.ample_prints`);
* `Json.ends_writeAt_bare`, `Yaml.ends_writeValue_bare`: how the writers end;
* `Format.exists_write_iff`: which values can be written.
-/

/-- A scalar that is written as YAML, or else as JSON: JSON has no form for days, moments and bytes, whether they
    stand as values or as keys. -/
def Scalar.Prints (yaml : Bool) : Scalar → Prop
  | .int n => (Value.int n).WithinDigits
  | .stamp _ => yaml = true
  | .bytes _ => yaml = true
  | _ => True

theorem Scalar.ample_prints (yaml : Bool) : Scalar.Ample (Scalar.Prints yaml) :=
  ⟨trivial, fun _ => trivial, fun _ => trivial, fun _ => trivial, fun _ h => h⟩

/-- Two steps end well if each of two statements holds that decide how they end. -/
theorem ends_bind_and {ε α β : Type} {p q : Prop} {x : Except ε α} {f : α → Except ε β}
    (hx : Ends (fun _ => p) (fun _ => ¬p) x) (hf : ∀ a, Ends (fun _ => q) (fun _ => ¬q) (f a)) :
    Ends (fun _ => p ∧ q) (fun _ => ¬(p ∧ q)) (x >>= f) := by
  have hfirst : Ends (fun _ => p) (fun _ => ¬(p ∧ q)) x := ends_mono hx (fun _ h => h) fun _ h hpq => h hpq.1
  exact ends_bind hfirst fun a hp => ends_mono (hf a) (fun _ hq => ⟨hp, hq⟩) fun _ h hpq => h hpq.2

/-! ### JSON -/

namespace Json

theorem ends_writeInt (n : Int) :
    Ends (fun _ => (Scalar.int n).Prints false) (fun _ => ¬(Scalar.int n).Prints false) (writeInt n) :=
  ends_mapError (ends_mono (Numeral.ends_ofInt n) (fun _ h => h) fun _ h => h.2)

/-- A key is written if it is a scalar that prints. -/
theorem ends_keyText (s : Scalar) : Ends (fun _ => s.Prints false) (fun _ => ¬s.Prints false) (keyText s) := by
  cases s with
  | int n => exact ends_writeInt n
  | stamp s => exact Bool.false_ne_true
  | bytes bs => exact Bool.false_ne_true
  | _ => exact trivial

theorem ends_writeScalar_strict {style : Style} (hstyle : style.lenient = false) (s : Scalar) :
    Ends (fun _ => s.Prints false) (fun _ => ¬s.Prints false) (writeScalar style s) := by
  have hother : ∀ kind v, Ends (fun _ => false = true) (fun _ => ¬false = true) (writeOther style kind v) := by
    intro kind v
    unfold writeOther
    rw [hstyle]
    exact Bool.false_ne_true
  cases s with
  | int n => exact ends_writeInt n
  | stamp s => exact hother _ _
  | bytes bs => exact hother _ _
  | _ => exact trivial

variable {style : Style}

mutual

/-- A value without elements is written as JSON if it is made of scalars that print. -/
theorem ends_writeAt_bare (hstyle : style.lenient = false) (level : Nat) (v : Value) :
    Ends (fun _ => v.MadeOf (Scalar.Prints false)) (fun _ => ¬v.MadeOf (Scalar.Prints false))
      (writeAt style level v.bare) := by
  cases v with
  | scalar s => simpa only [Value.bare, writeAt, Value.madeOf_scalar_iff] using ends_writeScalar_strict hstyle s
  | element e => exact .element e
  | discarded v =>
    simp only [Value.bare, writeAt, writeOther, hstyle]
    exact Value.not_madeOf_discarded v
  | list vs =>
    simp only [Value.bare, writeAt, Value.madeOf_list_iff]
    exact ends_bind (ends_writeItems_bare hstyle (level + 1) vs) fun _ h => h
  | map es =>
    simp only [Value.bare, writeAt, Value.madeOf_map_iff]
    exact ends_bind (ends_writeEntries_bare hstyle (level + 1) es) fun _ h => h

theorem ends_writeItems_bare (hstyle : style.lenient = false) (level : Nat) (vs : List Value) :
    Ends (fun _ => ∀ v ∈ vs, v.MadeOf (Scalar.Prints false)) (fun _ => ¬∀ v ∈ vs, v.MadeOf (Scalar.Prints false))
      (writeItems style level (Value.bareItems vs)) := by
  cases vs with
  | nil => exact List.forall_mem_nil _
  | cons v rest =>
    simp only [Value.bareItems, writeItems, List.forall_mem_cons]
    refine ends_bind_and (ends_writeAt_bare hstyle level v) fun t => ?_
    exact ends_bind (ends_writeItems_bare hstyle level rest) fun _ h => h

theorem ends_writeEntries_bare (hstyle : style.lenient = false) (level : Nat) (es : Entries) :
    Ends (fun _ => ∀ e ∈ es, e.1.Prints false ∧ e.2.MadeOf (Scalar.Prints false))
      (fun _ => ¬∀ e ∈ es, e.1.Prints false ∧ e.2.MadeOf (Scalar.Prints false))
      (writeEntries style level (Value.bareEntries es)) := by
  cases es with
  | nil => exact List.forall_mem_nil _
  | cons e rest =>
    obtain ⟨k, v⟩ := e
    simp only [Value.bareEntries, writeEntries, List.forall_mem_cons, and_assoc]
    refine ends_bind_and (ends_keyText k) fun key => ends_bind_and (ends_writeAt_bare hstyle level v) fun t => ?_
    exact ends_bind (ends_writeEntries_bare hstyle level rest) fun _ h => h

end

end Json

/-! ### YAML -/

namespace Yaml

/-- A scalar has a kind and a text if it prints. -/
theorem ends_wordOf (s : Scalar) : Ends (fun _ => s.Prints true) (fun _ => ¬s.Prints true) (wordOf s) := by
  cases s with
  | int n =>
    refine ends_bind (P := fun _ => (Scalar.int n).Prints true) ?_ fun _ h => h
    exact ends_mapError (ends_mono (Numeral.ends_ofInt n) (fun _ h => h) fun _ h => h.2)
  | stamp s => exact rfl
  | bytes bs => exact rfl
  | _ => exact trivial

mutual

/-- A value without elements is written as YAML if it is made of scalars that print. -/
theorem ends_writeValue_bare (outer : Option Nat) (ofEntry : Bool) (v : Value) (s : Sheet) :
    Ends (fun _ => v.MadeOf (Scalar.Prints true)) (fun _ => ¬v.MadeOf (Scalar.Prints true))
      (writeValue outer ofEntry v.bare s) := by
  cases v with
  | scalar w =>
    simp only [Value.bare, writeValue, Value.madeOf_scalar_iff]
    exact ends_bind (ends_wordOf w) fun _ h => h
  | element e => exact .element e
  | discarded v => exact Value.not_madeOf_discarded v
  | list vs =>
    cases vs with
    | nil => exact .list (List.forall_mem_nil _)
    | cons v rest =>
      simp only [Value.bare, Value.bareItems, writeValue, Value.madeOf_list_iff]
      exact ends_writeItems_bare _ (v :: rest) s
  | map es =>
    cases es with
    | nil => exact .map (List.forall_mem_nil _) (List.forall_mem_nil _)
    | cons e rest =>
      obtain ⟨k, v⟩ := e
      simp only [Value.bare, Value.bareEntries, writeValue, Value.madeOf_map_iff]
      exact ends_writeEntries_bare _ ((k, v) :: rest) s

theorem ends_writeItems_bare (column : Nat) (vs : List Value) (s : Sheet) :
    Ends (fun _ => ∀ v ∈ vs, v.MadeOf (Scalar.Prints true)) (fun _ => ¬∀ v ∈ vs, v.MadeOf (Scalar.Prints true))
      (writeItems column (Value.bareItems vs) s) := by
  cases vs with
  | nil => exact List.forall_mem_nil _
  | cons v rest =>
    simp only [Value.bareItems, writeItems, List.forall_mem_cons]
    exact ends_bind_and (ends_writeValue_bare _ false v _) fun s => ends_writeItems_bare column rest s

theorem ends_writeEntries_bare (column : Nat) (es : Entries) (s : Sheet) :
    Ends (fun _ => ∀ e ∈ es, e.1.Prints true ∧ e.2.MadeOf (Scalar.Prints true))
      (fun _ => ¬∀ e ∈ es, e.1.Prints true ∧ e.2.MadeOf (Scalar.Prints true))
      (writeEntries column (Value.bareEntries es) s) := by
  cases es with
  | nil => exact List.forall_mem_nil _
  | cons e rest =>
    obtain ⟨k, v⟩ := e
    simp only [Value.bareEntries, writeEntries, List.forall_mem_cons, and_assoc]
    refine ends_bind_and (ends_wordOf k) fun key => ends_bind_and (ends_writeValue_bare _ true v _) fun s => ?_
    exact ends_writeEntries_bare column rest s

end

theorem ends_write_bare (v : Value) :
    Ends (fun _ => v.MadeOf (Scalar.Prints true)) (fun _ => ¬v.MadeOf (Scalar.Prints true)) (write v.bare) :=
  ends_bind (ends_writeValue_bare none false v {}) fun _ h => h

end Yaml

/-! ### Both formats -/

/-- The value can be written in the format of the command line if it is made of scalars that print. -/
theorem Format.exists_write_iff (yaml : Bool) (v : Value) :
    (∃ t, write v (some (if yaml then "yaml" else "json")) true "root" = .ok t) ↔ v.MadeOf (Scalar.Prints yaml) := by
  cases yaml with
  | false =>
    refine exists_eq_ok_iff_of_ends (E := fun _ => ¬v.MadeOf (Scalar.Prints false)) (ends_mapError ?_) fun _ h => h
    exact Json.ends_writeAt_bare rfl 0 v
  | true =>
    refine exists_eq_ok_iff_of_ends (E := fun _ => ¬v.MadeOf (Scalar.Prints true)) (ends_mapError ?_) fun _ h => h
    exact Yaml.ends_write_bare v

end PageQuery
