import PageQuery.Expression.Evaluate
import PageQuery.Proofs.Except
import PageQuery.Proofs.Expression.Grammar
import PageQuery.Proofs.Expression.Spelling

namespace PageQuery.Expression

/-!
# Arithmetic is exact

What becomes of texts of whole numbers, signs and parentheses.

* `Expr.exact`: the whole number that a tree stands for, of any size and with floor modulo;
* `Expr.ModuliNonzero`: no remainder on division by zero is taken;
* `Expr.ends_evaluate_of_over`: what a tree of arithmetic is evaluated to;
* `evaluate_arithmetic`: a text has a value if the grammar derives its tokens and no divisor is zero, and that is
  the number of the derived tree.
-/

/-- The operation of an operator on whole numbers. A quotient is no whole number. -/
def Operator.exact : Operator → Int → Int → Int
  | .plus, m, n => m + n
  | .minus, m, n => m - n
  | .times, m, n => m * n
  | .modulo, m, n => m.fmod n
  | .divide, _, _ => 0

namespace Expr

/-- The whole number that a tree of arithmetic stands for. -/
def exact : Expr → Int
  | .numeral t => Numeral.value t
  | .negated e => -e.exact
  | .binary o l r => o.exact l.exact r.exact
  | _ => 0

/-- No remainder on division by zero is taken. -/
def ModuliNonzero : Expr → Prop
  | .negated e => e.ModuliNonzero
  | .binary o l r => l.ModuliNonzero ∧ r.ModuliNonzero ∧ (o = .modulo → r.exact ≠ 0)
  | .stopped e _ => e.ModuliNonzero
  | _ => True

/-! ### Operators -/

/-- A numeral of ASCII digits is a whole number. -/
theorem numeralValue_digits {t : Text} (ht : Token.IsArithmetic (.numeral t)) :
    numeralValue t = .ok (.int (Numeral.value t)) := by
  have hpoint : t.contains '.' = false := by
    refine Bool.eq_false_iff.2 fun h => ?_
    exact absurd (ht.2.1 '.' (List.contains_iff_mem.1 h)) (by decide)
  rw [numeralValue, hpoint, Numeral.readInt_digits ht.2.1 ht.1 ht.2.2]
  rfl

/-- Operators work exactly on whole numbers, except for a remainder on division by zero. -/
theorem apply_int {o : Operator} (ho : o ≠ .divide) {m n : Int} :
    Ends (fun v => (o = .modulo → n ≠ 0) ∧ v = .int (o.exact m n))
      (fun f => (o = .modulo ∧ n = 0) ∧ ∃ x, f = .wrong x) (apply o (.int m) (.int n)) := by
  cases o with
  | divide => exact absurd rfl ho
  | plus | minus | times => exact ⟨nofun, rfl⟩
  | modulo =>
    by_cases hn : n = 0
    · subst hn
      exact ⟨⟨rfl, rfl⟩, _, rfl⟩
    · have hzero : (Quantity.whole n).isZero = false := by simpa [Quantity.isZero] using hn
      show Ends _ _ (arithmetic (Quantity.modulo (.whole m) (.whole n)))
      rw [Quantity.modulo, hzero]
      exact ⟨fun _ => hn, rfl⟩

/-! ### Trees -/

/-- A tree has a value: it has no fault, and no divisor of a remainder in it is zero. -/
def HasValue (e : Expr) : Prop := e.isWhole = true ∧ e.ModuliNonzero

theorem hasValue_binary {o : Operator} {l r : Expr} :
    (binary o l r).HasValue ↔ l.HasValue ∧ r.HasValue ∧ (o = .modulo → r.exact ≠ 0) := by
  simp only [HasValue, isWhole, ModuliNonzero, Bool.and_eq_true]
  constructor
  · rintro ⟨⟨hwl, hwr⟩, hml, hmr, hmodulo⟩
    exact ⟨⟨hwl, hml⟩, ⟨hwr, hmr⟩, hmodulo⟩
  · rintro ⟨⟨hwl, hml⟩, ⟨hwr, hmr⟩, hmodulo⟩
    exact ⟨⟨hwl, hwr⟩, hml, hmr, hmodulo⟩

/-- A failure is that of a wrong expression, where a tree has no value. -/
def Refuses (e : Expr) (f : Failure) : Prop := ¬e.HasValue ∧ ∃ x, f = .wrong x

/-- A tree has no value if a part of it has none. -/
theorem Refuses.of_part {part e : Expr} {f : Failure} (h : part.Refuses f)
    (hpart : e.HasValue → part.HasValue) : e.Refuses f :=
  ⟨fun hvalue => h.1 (hpart hvalue), h.2⟩

/-- A tree of arithmetic is evaluated to its whole number, or fails as a wrong expression. -/
theorem ends_evaluate_of_over (env : Environment) {e : Expr} (he : e.Over Token.IsArithmetic) :
    Ends (fun v => e.HasValue ∧ v = .int e.exact) e.Refuses (e.evaluate env) := by
  induction e with
  | numeral t =>
    rw [Expr.evaluate, numeralValue_digits he]
    exact ⟨⟨rfl, trivial⟩, rfl⟩
  | literal t => exact he.elim
  | «variable» name => exact he.elim
  | negated e ih =>
    have hoperand := ends_mono (ih he) (fun _ h => h) fun _ hf => hf.of_part (e := negated e) id
    refine ends_bind hoperand ?_
    rintro v ⟨hvalue, rfl⟩
    exact ⟨hvalue, rfl⟩
  | binary o l r ihl ihr =>
    obtain ⟨ho, hl, hr⟩ := he
    have hleft := ends_mono (ihl hl) (fun _ h => h)
      fun _ hf => hf.of_part (e := binary o l r) fun hvalue => (hasValue_binary.1 hvalue).1
    have hright := ends_mono (ihr hr) (fun _ h => h)
      fun _ hf => hf.of_part (e := binary o l r) fun hvalue => (hasValue_binary.1 hvalue).2.1
    refine ends_bind hleft ?_
    rintro v ⟨hvalueLeft, rfl⟩
    refine ends_bind hright ?_
    rintro w ⟨hvalueRight, rfl⟩
    refine ends_mono (apply_int ho) ?_ ?_
    · rintro v ⟨hmodulo, rfl⟩
      exact ⟨hasValue_binary.2 ⟨hvalueLeft, hvalueRight, hmodulo⟩, rfl⟩
    · rintro f ⟨⟨hmodulo, hzero⟩, hf⟩
      exact ⟨fun hvalue => (hasValue_binary.1 hvalue).2.2 hmodulo hzero, hf⟩
  | broken x => exact ⟨nofun, x, rfl⟩
  | stopped e fault ih =>
    -- whatever stands before the fault, there is no value
    have hbefore := ends_mono (ih he) (fun _ h => h) fun _ hf => hf.of_part (e := stopped e fault) nofun
    exact ends_bind hbefore fun _ _ => ⟨nofun, fault, rfl⟩

end Expr

/-! ### Texts -/

/-- A text of whole numbers, signs and parentheses is made of one list of tokens, from which the grammar
    derives one tree at most. It has a value if there is such a tree and no divisor of a remainder in it is
    zero; the value is the whole number of the tree. Else it fails as a wrong expression. -/
theorem evaluate_arithmetic (env : Environment) {t : Text} (ht : IsArithmetic t) :
    ∃ ts, Spells t ts ∧ (∀ us, Spells t us → us = ts) ∧
      (∀ e e', Derives .sum ts e → Derives .sum ts e' → e = e') ∧
      (∀ v, evaluate env t = .ok v ↔
        ∃ e, Derives .sum ts e ∧ e.ModuliNonzero ∧ v = .int e.exact) ∧
      ∀ f, evaluate env t = .error f → ∃ x, f = .wrong x := by
  obtain ⟨ts, hts⟩ := exists_spells ht
  have hread : evaluate env t = (Expr.ofTokens ts).evaluate env := by
    rw [evaluate, Expr.ofText, tokens_of_spells hts]
  have hends := Expr.ends_evaluate_of_over env (Expr.over_ofTokens hts.isArithmetic)
  refine ⟨ts, hts, fun us hus => hus.unique hts, ?_, ?_, ?_⟩
  · intro e e' he he'
    rw [← (Expr.derives_iff.1 he).1, ← (Expr.derives_iff.1 he').1]
  · intro v
    rw [hread]
    constructor
    · intro hv
      rw [hv] at hends
      obtain ⟨⟨hwhole, hmoduli⟩, rfl⟩ := hends
      exact ⟨_, Expr.derives_iff.2 ⟨rfl, hwhole⟩, hmoduli, rfl⟩
    · rintro ⟨e, hderives, hmoduli, rfl⟩
      obtain ⟨rfl, hwhole⟩ := Expr.derives_iff.1 hderives
      cases heval : (Expr.ofTokens ts).evaluate env with
      | ok v =>
        rw [heval] at hends
        rw [hends.2]
      | error f =>
        rw [heval] at hends
        exact absurd ⟨hwhole, hmoduli⟩ hends.1
  · intro f hf
    rw [hread] at hf
    rw [hf] at hends
    exact hends.2

/-- A product and a remainder group to the left, the remainder has the sign of the divisor, and white space does
    not count. -/
theorem evaluate_arithmetic_mixed :
    IsArithmetic "2 -(7)* -3 % 4" ∧ evaluate [] "2 -(7)* -3 % 4" = .ok (.int (-1)) := by
  have ht : IsArithmetic "2 -(7)* -3 % 4" := by
    refine ⟨?_, fun ds hds _ => hds.length_le.trans (by decide)⟩
    simp only [IsCharacter]
    exact Text.forall_mem_of_all (by decide)
  refine ⟨ht, ?_⟩
  obtain ⟨ts, hts, -, -, hvalue, -⟩ := evaluate_arithmetic [] ht
  have htokens : tokens "2 -(7)* -3 % 4" = .ok [.numeral ['2'], .operator .minus, .opening, .numeral ['7'],
      .closing, .operator .times, .operator .minus, .numeral ['3'], .operator .modulo, .numeral ['4']] := by
    decide
  obtain rfl := Except.ok.inj ((tokens_of_spells hts).symm.trans htokens)
  have hproduct := Derives.times (o := .times)
    (.factor (.enclosed (.summand (.factor (.numeral ['7']))))) rfl (.negated (.numeral ['3']))
  have hsum := Derives.plus (o := .minus) (.summand (.factor (.numeral ['2']))) rfl
    (.times (o := .modulo) hproduct rfl (.numeral ['4']))
  have hdivisor : (Expr.numeral ['4']).exact ≠ 0 := by decide
  refine (hvalue _).2 ⟨_, hsum, ?_, rfl⟩
  simp only [Expr.ModuliNonzero, reduceCtorEq, false_implies, true_implies, and_true, true_and]
  exact hdivisor

end PageQuery.Expression
