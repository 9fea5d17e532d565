import PageQuery.Proofs.Expression
import PageQuery.Proofs.Number.Digits
import PageQuery.Proofs.Template.Filling

namespace PageQuery

/-!
# Numerals count as numbers

To a template a variable that holds a whole number is the same as one that holds its numeral.

* `Environment.spelledOut`: an environment in which chosen whole numbers are texts;
* `Value.Alike`: a whole number and its numeral, which count as the same number and have the same text;
* `Expression.together_evaluate`: an expression in both environments: its values are alike, or it fails in both;
* `Template.resolve_spelledOut`: templates in both environments.
-/

/-- A whole number of no more digits than a numeral may have, as the text of its numeral; any other value as
    it is. -/
def Value.spelledOut : Value → Value
  | .int n => if n.natAbs < tenTo Numeral.maxDigits then .text (Text.ofInt n) else .int n
  | v => v

/-- An environment in which the whole numbers under chosen names are replaced by the texts of their
    numerals. -/
def Environment.spelledOut (chosen : Text → Bool) (env : Environment) : Environment :=
  env.map fun (name, v) => (name, if chosen name then v.spelledOut else v)

/-- Two values are the same, or a whole number and the text of its numeral. -/
inductive Value.Alike : Value → Value → Prop where
  | same (v : Value) : Alike v v
  | numeral {n : Int} (h : n.natAbs < tenTo Numeral.maxDigits) : Alike (.int n) (.text (Text.ofInt n))

/-- A value is like the one by which it is replaced. -/
theorem Value.alike_spelledOut (v : Value) : v.Alike v.spelledOut := by
  match v with
  | .int n =>
    rw [Value.spelledOut]
    split
    · next hn => exact .numeral hn
    · exact .same _
  | .scalar .null | .scalar (.bool _) | .scalar (.float _) | .scalar (.text _) | .scalar (.stamp _)
  | .scalar (.bytes _) | .list _ | .map _ | .element _ | .discarded _ => exact .same _

/-- The values under a name in both environments. -/
theorem Environment.get?_spelledOut (chosen : Text → Bool) (env : Environment) (name : Text) :
    Ordered.get? (env.spelledOut chosen) name =
      (Ordered.get? env name).map fun v => if chosen name then v.spelledOut else v := by
  induction env with
  | nil => rfl
  | cons b env ih =>
    rcases b with ⟨key, v⟩
    have hcons : Environment.spelledOut chosen ((key, v) :: env) =
        (key, if chosen key then v.spelledOut else v) :: Environment.spelledOut chosen env := rfl
    rw [hcons, Ordered.get?_cons, Ordered.get?_cons, ih]
    by_cases hname : name = key
    · rw [if_pos hname, if_pos hname, hname]
      rfl
    · rw [if_neg hname, if_neg hname]

/-- What is under a name in both environments is alike. -/
theorem Environment.alike_get? (chosen : Text → Bool) {env : Environment} {name : Text} {v : Value}
    (hv : Ordered.get? env name = some v) :
    ∃ w, Ordered.get? (env.spelledOut chosen) name = some w ∧ v.Alike w := by
  refine ⟨if chosen name then v.spelledOut else v, ?_, ?_⟩
  · rw [get?_spelledOut, hv]
    rfl
  · split
    · exact v.alike_spelledOut
    · exact .same v

namespace Expression

/-! ### Alike values -/

/-- Alike values count as the same number. -/
theorem quantity?_eq_of_alike {v w : Value} (h : v.Alike w) : quantity? v = quantity? w := by
  cases h with
  | same => rfl
  | numeral hn => exact (Quantity.ofText?_ofInt hn).symm

/-- Alike values have the same text. -/
theorem rendered_eq_of_alike {v w : Value} (h : v.Alike w) : rendered v = rendered w := by
  cases h with
  | same => rfl
  | @numeral n hn =>
    have hplain : (Value.int n).render = (Numeral.ofInt n).mapError .numeral := rfl
    rw [rendered, hplain, Numeral.ofInt_of_lt hn]
    rfl

/-! ### Two computations -/

variable {α β γ δ : Type} {R : α → β → Prop} {S : γ → δ → Prop}

/-- Two computations end together: with related values, with the same failure, or with failures that are
    both forgiven. -/
def Together (R : α → β → Prop) : Except Failure α → Except Failure β → Prop
  | .ok a, .ok b => R a b
  | .error e, .error f => e = f ∨ e.IsForgiven ∧ f.IsForgiven
  | _, _ => False

/-- A computation ends together with itself. -/
theorem together_self {R : α → α → Prop} (hR : ∀ a, R a a) (x : Except Failure α) : Together R x x := by
  cases x with
  | ok a => exact hR a
  | error e => exact .inl rfl

/-- Two computations that both fail in forgiven ways end together. -/
theorem together_of_ends {x : Except Failure α} {y : Except Failure β}
    (hx : Ends (fun _ => False) Failure.IsForgiven x) (hy : Ends (fun _ => False) Failure.IsForgiven y) :
    Together R x y := by
  cases x with
  | ok a => exact hx.elim
  | error e =>
    cases y with
    | ok b => exact hy.elim
    | error f => exact .inr ⟨hx, hy⟩

theorem together_bind {x : Except Failure α} {y : Except Failure β} {f : α → Except Failure γ}
    {g : β → Except Failure δ} (hxy : Together R x y) (hfg : ∀ a b, R a b → Together S (f a) (g b)) :
    Together S (x >>= f) (y >>= g) := by
  cases x with
  | ok a =>
    cases y with
    | ok b => exact hfg a b hxy
    | error e => exact hxy.elim
  | error e =>
    cases y with
    | ok b => exact hxy.elim
    | error e' => exact hxy

/-! ### Expressions -/

/-- Operators make alike values of alike values. Where they fail for want of numbers, the messages need not be
    the same. -/
theorem together_apply (o : Operator) {l l' r r' : Value} (hl : l.Alike l') (hr : r.Alike r') :
    Together Value.Alike (apply o l r) (apply o l' r') := by
  have hfails : ∀ {o} {v w : Value}, Ends (fun _ => False) Failure.IsForgiven (do
      let s ← v.shown.mapError Failure.numeral
      let t ← w.shown.mapError Failure.numeral
      throw (.wrong (.needsNumbers o s t)) : Except Failure Value) :=
    fun {_ v w} => ends_bind (ends_shown v) fun _ _ => ends_bind (ends_shown w) fun _ _ => rfl
  unfold apply
  rw [quantity?_eq_of_alike hl, quantity?_eq_of_alike hr]
  split
  · exact together_self .same _
  · split
    · rw [rendered_eq_of_alike hl, rendered_eq_of_alike hr]
      exact together_self .same _
    · exact together_of_ends hfails hfails

/-- An expression has alike values in both environments, or fails in both. -/
theorem together_evaluate (chosen : Text → Bool) (env : Environment) (e : Expr) :
    Together Value.Alike (e.evaluate env) (e.evaluate (env.spelledOut chosen)) := by
  induction e with
  | numeral t => exact together_self .same _
  | literal t => exact together_self .same _
  | «variable» name =>
    rw [Expr.evaluate, Expr.evaluate]
    cases hv : Ordered.get? env name with
    | none =>
      have hw : Ordered.get? (env.spelledOut chosen) name = none := by
        rw [Environment.get?_spelledOut, hv]
        rfl
      rw [hw]
      exact .inl rfl
    | some v =>
      obtain ⟨w, hw, halike⟩ := Environment.alike_get? chosen hv
      rw [hw]
      exact halike
  | negated e ih =>
    refine together_bind ih fun v w halike => ?_
    rw [quantity?_eq_of_alike halike]
    exact together_self .same _
  | binary o l r ihl ihr =>
    exact together_bind ihl fun _ _ hl => together_bind ihr fun _ _ hr => together_apply o hl hr
  | broken e => exact .inl rfl
  | stopped e fault ih => exact together_bind ih fun _ _ _ => .inl rfl

end Expression

namespace Template

open Expression (Together together_bind together_self together_evaluate rendered_eq_of_alike)

/-- The text of an expression is the same in both environments, or there is none in both. -/
theorem together_fillExpression (chosen : Text → Bool) (env : Environment) (body : Text) :
    Together Eq (fillExpression env body) (fillExpression (env.spelledOut chosen) body) := by
  refine together_bind (together_evaluate chosen env _) fun v w halike => ?_
  rw [rendered_eq_of_alike halike]
  exact together_self (fun _ => rfl) _

/-- A placeholder is replaced by the same text in both environments. -/
theorem fill_spelledOut (chosen : Text → Bool) (env : Environment) (body : Text) :
    fill (env.spelledOut chosen) body = fill env body := by
  cases hv : Ordered.get? env (Text.trim body) with
  | some v =>
    obtain ⟨w, hw, halike⟩ := Environment.alike_get? chosen hv
    rw [fill_of_named hv, fill_of_named hw, rendered_eq_of_alike halike]
  | none =>
    have hw : Ordered.get? (env.spelledOut chosen) (Text.trim body) = none := by
      rw [Environment.get?_spelledOut, hv]
      rfl
    have hends := together_fillExpression chosen env body
    cases hx : fillExpression env body with
    | ok t =>
      cases hy : fillExpression (env.spelledOut chosen) body with
      | ok u =>
        rw [hx, hy] at hends
        obtain rfl : t = u := hends
        rw [fill_of_value hv hx, fill_of_value hw hy]
      | error f =>
        rw [hx, hy] at hends
        exact hends.elim
    | error e =>
      cases hy : fillExpression (env.spelledOut chosen) body with
      | ok u =>
        rw [hx, hy] at hends
        exact hends.elim
      | error f =>
        rw [hx, hy] at hends
        rw [fill_of_failure hv hx, fill_of_failure hw hy]
        -- a failure that is forgiven leaves the placeholder, whatever its message
        rcases hends with rfl | ⟨he, hf⟩
        · rfl
        · have hkeep : isForgiven e = true ∧ isForgiven f = true := ⟨he, hf⟩
          rw [if_pos hkeep.1, if_pos hkeep.2]

/-- A template has the same text, or fails in the same way, whether its environment holds whole numbers or the
    texts of their numerals. -/
theorem resolve_spelledOut (chosen : Text → Bool) (env : Environment) (t : Text) :
    resolve (env.spelledOut chosen) t = resolve env t := by
  have hpieces : (pieces t).mapM (fillPiece (env.spelledOut chosen)) = (pieces t).mapM (fillPiece env) := by
    refine mapM_congr fun p _ => ?_
    cases p with
    | plain c => rfl
    | hole body => exact fill_spelledOut chosen env body
  rw [resolve, resolve, hpieces]

end Template

end PageQuery
