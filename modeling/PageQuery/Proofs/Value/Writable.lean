import Mathlib.Data.List.TakeWhile
import PageQuery.Proofs.Number.Digits
import PageQuery.Proofs.Value.Render

namespace PageQuery

/-!
# Data that can be written

Data in which no whole number has too many digits has a text. So has whatever is read from a JSON text, since no
longer numeral is read.

* `Value.IsWritable`: data of this kind;
* `Value.exists_render`: its text;
* `Json.holds_isWritable`: what is read from a text is of this kind.
-/

/-- Data in which every whole number can be written. -/
structure Value.IsWritable (v : Value) : Prop where
  isJson : v.IsJson
  withinDigits : v.WithinDigits

namespace Value

theorem isWritable_null : null.IsWritable := ⟨.scalar trivial, .scalar nofun⟩

theorem isWritable_text (t : Text) : (text t).IsWritable := ⟨.scalar trivial, .scalar nofun⟩

/-- A list can be written if its items can. -/
theorem isWritable_list_iff {vs : List Value} : (Value.list vs).IsWritable ↔ ∀ v ∈ vs, v.IsWritable := by
  constructor
  · rintro ⟨hjson, hdigits⟩ v hv
    cases hjson with
    | list hitems => exact ⟨hitems v hv, withinDigits_list_iff.1 hdigits v hv⟩
  · exact fun h => ⟨.list fun v hv => (h v hv).isJson, .list fun v hv => (h v hv).withinDigits⟩

/-- A map can be written if its keys are texts and its values can be written. -/
theorem isWritable_map_iff {es : Entries} :
    (Value.map es).IsWritable ↔ ∀ e ∈ es, (∃ t, e.1 = .text t) ∧ e.2.IsWritable := by
  constructor
  · rintro ⟨hjson, hdigits⟩ e he
    cases hjson with
    | map hkeys hvalues => exact ⟨hkeys e he, hvalues e he, withinDigits_map_iff.1 hdigits e he⟩
  · intro h
    exact ⟨.map (fun e he => (h e he).1) fun e he => (h e he).2.isJson,
      .map fun e he => (h e he).2.withinDigits⟩

/-- What can be written has a text. -/
theorem exists_render {v : Value} (hv : v.IsWritable) : ∃ t, v.render = .ok t := by
  obtain ⟨t, ht⟩ := (Expression.exists_rendered_iff hv.isJson).2 hv.withinDigits
  exact ⟨t, mapError_eq_ok_iff.1 ht⟩

end Value

/-! ### Numbers that are read -/

namespace Json

/-- The digits of a whole number are digits. -/
theorem isDigit_of_wholeDigits? {t whole rest : Text} (h : wholeDigits? t = some (whole, rest)) :
    ∀ c ∈ whole, c.isDigit = true := by
  unfold wholeDigits? at h
  split at h
  · cases h
    simp
  · split at h
    · next hc =>
      cases h
      exact List.forall_mem_cons.2 ⟨hc, fun d hd => List.mem_takeWhile_imp hd⟩
    · cases h
  · cases h

/-- A number that is read has few enough digits to be written. -/
theorem withinDigits_number {negative : Bool} {whole rest : Text} (hwhole : ∀ c ∈ whole, c.isDigit = true)
    {r : Scalar × Text} (h : number negative whole rest = .ok r) : (Value.scalar r.1).WithinDigits := by
  unfold number at h
  dsimp only at h
  split at h
  · split at h
    · cases h
    · next hshort =>
      cases h
      have hvalue : Numeral.value whole < tenTo Numeral.maxDigits :=
        Nat.lt_of_lt_of_le (Numeral.value_lt hwhole) (tenTo_le_tenTo (Nat.le_of_not_lt hshort))
      refine Value.withinDigits_int_iff.2 ?_
      split <;> simpa using hvalue
  · cases h
    exact .scalar nofun

/-- A word or a number that is read can be written. -/
theorem isWritable_atom {t : Text} {r : Scalar × Text} (h : atom t = .ok r) :
    (Value.scalar r.1).IsWritable := by
  refine ⟨.scalar (isJson_atom h), ?_⟩
  unfold atom at h
  repeat' split at h
  all_goals first
    | exact withinDigits_number (isDigit_of_wholeDigits? ‹_›) h
    | cases h <;> exact .scalar nofun

/-- What can be written is a kind of values to which all belongs that is read. -/
theorem holds_isWritable : Holds Value.IsWritable :=
  ⟨isWritable_atom, Value.isWritable_text, Value.isWritable_list_iff.2, Value.isWritable_map_iff.2⟩

end Json

end PageQuery
