import PageQuery.Proofs.Environment
import PageQuery.Proofs.Value.Render
import PageQuery.Template

namespace PageQuery.Expression

/-!
# Expressions over data

Where the variables hold data, so does every expression that has a value, and one that has none fails in a way
that leaves its placeholder as it is.

* `IsForgiven`: failures that leave a placeholder as it is;
* `ends_apply`, `ends_evaluate`: operators, and expressions by their structure.
-/

/-- A failure that leaves its placeholder as it is. -/
def Failure.IsForgiven (f : Failure) : Prop := Template.isForgiven f = true

/-- Too large a number is forgiven, wherever it stands. -/
theorem Failure.IsTooLarge.isForgiven {f : Failure} (h : f.IsTooLarge) : f.IsForgiven := by
  rcases h with rfl | rfl <;> rfl

/-- Numbers are data. -/
theorem isJson_ofQuantity (q : Quantity) : (ofQuantity q).IsJson := by
  cases q <;> exact .scalar trivial

/-- The value of a numeral is a number. -/
theorem ends_numeralValue (t : Text) : Ends Value.IsJson Failure.IsForgiven (numeralValue t) := by
  unfold numeralValue
  split
  · exact .scalar trivial
  · refine ends_mapError (ends_map ?_)
    cases Numeral.readInt t with
    | ok n => exact .scalar trivial
    | error e => rfl

/-- The value of a quoted text is data. -/
theorem ends_literalValue (t : Text) : Ends Value.IsJson Failure.IsForgiven (literalValue t) := by
  unfold literalValue
  split
  · exact .scalar trivial
  · refine ends_mapError ?_
    cases hread : Json.read t with
    | ok v => exact Json.isJson_read hread
    | error e => rfl

/-- Arithmetic gives numbers. -/
theorem ends_arithmetic (r : Except ArithmeticError Quantity) :
    Ends Value.IsJson Failure.IsForgiven (arithmetic r) := by
  cases r with
  | ok q => exact isJson_ofQuantity q
  | error e => rfl

/-- A failure to show a value is forgiven. -/
theorem ends_shown (v : Value) :
    Ends (fun _ => True) Failure.IsForgiven (v.shown.mapError Failure.numeral) := by
  cases v.shown with
  | ok t => trivial
  | error e => rfl

/-- An operator makes data of data. -/
theorem ends_apply (o : Operator) {left right : Value} (hleft : left.IsJson) (hright : right.IsJson) :
    Ends Value.IsJson Failure.IsForgiven (apply o left right) := by
  have hrendered : ∀ {v : Value}, v.IsJson → Ends (fun _ => True) Failure.IsForgiven (rendered v) :=
    fun hv => ends_mono (ends_rendered hv) (fun _ _ => trivial) fun _ h => h.1.isForgiven
  unfold apply
  split
  · exact ends_arithmetic _
  · split
    · refine ends_bind (hrendered hleft) fun s _ => ends_bind (hrendered hright) fun t _ => ?_
      exact .scalar trivial
    · exact ends_bind (ends_shown left) fun s _ => ends_bind (ends_shown right) fun t _ => rfl

/-- An expression over data has data as its value, or fails in a way that is forgiven. -/
theorem ends_evaluate {env : Environment} (henv : ∀ b ∈ env, b.2.IsJson) (e : Expr) :
    Ends Value.IsJson Failure.IsForgiven (e.evaluate env) := by
  induction e with
  | numeral t => exact ends_numeralValue t
  | literal t => exact ends_literalValue t
  | «variable» name =>
    rw [Expr.evaluate]
    split
    · next v hv => exact henv _ (Ordered.mem_of_get? hv)
    · rfl
  | negated e ih =>
    refine ends_bind ih fun v _ => ?_
    split
    · exact isJson_ofQuantity _
    · rfl
  | binary o left right hleft hright =>
    exact ends_bind hleft fun v hv => ends_bind hright fun w hw => ends_apply o hv hw
  | broken e => rfl
  | stopped e fault ih => exact ends_bind ih fun _ _ => rfl

end PageQuery.Expression
