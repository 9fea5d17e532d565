import PageQuery.Expression.Grammar

namespace PageQuery.Expression

/-!
# The grammar of expressions

Which lists of tokens are expressions, said apart from how they are read.

* `Derives`: the trees that the grammar derives from lists of tokens, level by level;
* `Expr.isWhole`: the trees in which no fault was met, and `Expr.Over`, those whose parts come from tokens of
  one kind;
* `reads_of_derives`: what is derived is read, whatever follows it;
* `isSound_operand`: what is read without a fault is derived;
* `derives_iff`: the two together, for whole lists of tokens.
-/

/-- The levels of the grammar. -/
inductive Level where
  | sum
  | product
  | operand
  deriving Repr, DecidableEq

/-- The tree that the grammar derives from a list of tokens at a level. Operators group to the left. -/
inductive Derives : Level → List Token → Expr → Prop where
  | numeral (t : Text) : Derives .operand [.numeral t] (.numeral t)
  | literal (t : Text) : Derives .operand [.literal t] (.literal t)
  | name (t : Text) : Derives .operand [.name t] (.variable t)
  | negated {ts : List Token} {e : Expr} (h : Derives .operand ts e) :
    Derives .operand (.operator .minus :: ts) (.negated e)
  | enclosed {ts : List Token} {e : Expr} (h : Derives .sum ts e) :
    Derives .operand (.opening :: ts ++ [.closing]) e
  | factor {ts : List Token} {e : Expr} (h : Derives .operand ts e) : Derives .product ts e
  | times {ts us : List Token} {o : Operator} {l r : Expr} (hl : Derives .product ts l)
    (ho : Expr.isMultiplicative o = true) (hr : Derives .operand us r) :
    Derives .product (ts ++ .operator o :: us) (.binary o l r)
  | summand {ts : List Token} {e : Expr} (h : Derives .product ts e) : Derives .sum ts e
  | plus {ts us : List Token} {o : Operator} {l r : Expr} (hl : Derives .sum ts l)
    (ho : Expr.isAdditive o = true) (hr : Derives .product us r) :
    Derives .sum (ts ++ .operator o :: us) (.binary o l r)

namespace Expr

/-- Whether no fault was met in reading an expression. -/
def isWhole : Expr → Bool
  | .negated e => e.isWhole
  | .binary _ l r => l.isWhole && r.isWhole
  | .broken _ => false
  | .stopped .. => false
  | _ => true

/-- The leaves and operators of an expression are tokens of one kind. -/
def Over (Q : Token → Prop) : Expr → Prop
  | .numeral t => Q (.numeral t)
  | .literal t => Q (.literal t)
  | .variable name => Q (.name name)
  | .negated e => e.Over Q
  | .binary o l r => Q (.operator o) ∧ l.Over Q ∧ r.Over Q
  | .broken _ => True
  | .stopped e _ => e.Over Q

/-- The reader of products. -/
abbrev product (operand : Reader) (fuel : Nat) : Reader := chain isMultiplicative operand fuel

/-- No accepted operator comes next. -/
def Unled (accepted : Operator → Bool) (ts : List Token) : Prop :=
  ∀ o, ts.head? = some (.operator o) → accepted o = false

theorem unled_nil (accepted : Operator → Bool) : Unled accepted [] := nofun

theorem unled_closing (accepted : Operator → Bool) (ts : List Token) :
    Unled accepted (.closing :: ts) := nofun

/-! ### What is derived is read -/

variable {accepted : Operator → Bool} {operand : Reader}

/-- An accepted operator is read with the operand after it. -/
theorem chainFrom_operator {o : Operator} {ts rest : List Token} {e : Expr} (ho : accepted o = true)
    (hoperand : operand ts = (e, rest)) (fuel : Nat) (left : Expr) :
    chainFrom accepted operand (fuel + 1) left (.operator o :: ts) =
      chainFrom accepted operand fuel (.binary o left e) rest := by
  simp only [chainFrom, ho, hoperand, if_true]

/-- A chain that is read up to an accepted operator goes on behind the operand after it. -/
theorem exists_chainFrom_operator {read : Reader} {o : Operator} {ts us rest : List Token} {l r : Expr}
    {fuel : Nat} (ho : accepted o = true) (hfuel : (ts ++ .operator o :: us).length ≤ fuel)
    (hl : ∃ left, fuel ≤ left + ts.length ∧
      read (ts ++ (.operator o :: us ++ rest)) =
        chainFrom accepted operand left l (.operator o :: us ++ rest))
    (hr : operand (us ++ rest) = (r, rest)) :
    ∃ left, fuel ≤ left + (ts ++ .operator o :: us).length ∧
      read (ts ++ .operator o :: us ++ rest) = chainFrom accepted operand left (.binary o l r) rest := by
  obtain ⟨left, hleft, hread⟩ := hl
  rw [List.length_append, List.length_cons] at hfuel
  -- the operator has not been taken yet, so there is fuel left for it
  obtain ⟨left, rfl⟩ : ∃ n, left = n + 1 := Nat.exists_eq_succ_of_ne_zero (by omega)
  refine ⟨left, ?_, ?_⟩
  · rw [List.length_append, List.length_cons]
    omega
  · rw [List.append_assoc, hread]
    exact chainFrom_operator ho hr left l

/-- A chain ends where no accepted operator comes next. -/
theorem chainFrom_of_unled {ts : List Token} (h : Unled accepted ts) (fuel : Nat) (left : Expr) :
    chainFrom accepted operand fuel left ts = (left, ts) := by
  cases fuel with
  | zero => rfl
  | succ fuel =>
    match ts, h with
    | .operator o :: rest, h => simp [chainFrom, h o rfl]
    | [], _ | .numeral _ :: _, _ | .literal _ :: _, _ | .name _ :: _, _ | .opening :: _, _
    | .closing :: _, _ => rfl

/-- What the reader of a level makes of tokens from which a tree is derived, and of those that follow. A chain
    is read up to the place where it may still go on, with fuel left for the tokens that have not been
    taken. -/
def Reads (fuel : Nat) (ts : List Token) (e : Expr) (rest : List Token) : Level → Prop
  | .operand => Expr.operand fuel (ts ++ rest) = (e, rest)
  | .product => ∃ left, fuel ≤ left + ts.length ∧
    product (Expr.operand fuel) fuel (ts ++ rest) =
      chainFrom isMultiplicative (Expr.operand fuel) left e rest
  | .sum => Unled isMultiplicative rest → ∃ left, fuel ≤ left + ts.length ∧
    sum (Expr.operand fuel) fuel (ts ++ rest) =
      chainFrom isAdditive (product (Expr.operand fuel) fuel) left e rest

/-- A product after which the chain ends is read to its end. -/
theorem Reads.product_eq {fuel : Nat} {ts rest : List Token} {e : Expr}
    (h : Reads fuel ts e rest .product) (hrest : Unled isMultiplicative rest) :
    product (Expr.operand fuel) fuel (ts ++ rest) = (e, rest) := by
  obtain ⟨left, -, hread⟩ := h
  rw [hread, chainFrom_of_unled hrest]

/-- A sum after which the chain ends is read to its end. -/
theorem Reads.sum_eq {fuel : Nat} {ts rest : List Token} {e : Expr} (h : Reads fuel ts e rest .sum)
    (hrest : ∀ accepted, Unled accepted rest) : sum (Expr.operand fuel) fuel (ts ++ rest) = (e, rest) := by
  obtain ⟨left, -, hread⟩ := h (hrest _)
  rw [hread, chainFrom_of_unled (hrest _)]

/-- What is derived is read, whatever follows it. -/
theorem reads_of_derives {level : Level} {ts : List Token} {e : Expr} (h : Derives level ts e) {fuel : Nat}
    (hfuel : ts.length ≤ fuel) (rest : List Token) : Reads fuel ts e rest level := by
  induction h generalizing fuel rest with
  | numeral t | literal t | name t =>
    obtain ⟨fuel, rfl⟩ := Nat.exists_eq_add_of_lt (Nat.lt_of_lt_of_le Nat.zero_lt_one hfuel)
    simp [Reads, Expr.operand]
  | @negated ts e _ ih =>
    obtain ⟨fuel, rfl⟩ : ∃ n, fuel = n + 1 := Nat.exists_eq_succ_of_ne_zero (by grind)
    have hread : Expr.operand fuel (ts ++ rest) = (e, rest) := ih (Nat.le_of_succ_le_succ hfuel) rest
    simp only [Reads, List.cons_append, Expr.operand, hread]
  | @enclosed ts e _ ih =>
    obtain ⟨fuel, rfl⟩ : ∃ n, fuel = n + 1 := Nat.exists_eq_succ_of_ne_zero (by grind)
    have hlength : ts.length ≤ fuel := by
      simp only [List.cons_append, List.length_cons, List.length_append, List.length_nil] at hfuel
      omega
    -- the closing parenthesis ends the sum
    have hread : sum (Expr.operand fuel) fuel (ts ++ .closing :: rest) = (e, .closing :: rest) :=
      (ih hlength (.closing :: rest)).sum_eq fun accepted => unled_closing accepted rest
    simp only [Reads, List.cons_append, List.append_assoc, List.nil_append, Expr.operand, hread, closed]
  | @factor ts e _ ih =>
    have hread : Expr.operand fuel (ts ++ rest) = (e, rest) := ih hfuel rest
    exact ⟨fuel, Nat.le_add_right _ _, by simp only [product, chain, hread]⟩
  | @times ts us o l r _ ho _ ihl ihr =>
    have hlength : ts.length + (us.length + 1) ≤ fuel := by simpa using hfuel
    have hfuelLeft : ts.length ≤ fuel := by omega
    have hfuelRight : us.length ≤ fuel := by omega
    have hoperand : Expr.operand fuel (us ++ rest) = (r, rest) := ihr hfuelRight rest
    exact exists_chainFrom_operator ho hfuel (ihl hfuelLeft (.operator o :: us ++ rest)) hoperand
  | @summand ts e _ ih =>
    intro hrest
    have hread := (ih hfuel rest).product_eq hrest
    refine ⟨fuel, Nat.le_add_right _ _, ?_⟩
    show chain isAdditive (product (Expr.operand fuel) fuel) fuel (ts ++ rest) = _
    rw [chain, hread]
  | @plus ts us o l r _ ho _ ihl ihr =>
    intro hrest
    have hlength : ts.length + (us.length + 1) ≤ fuel := by simpa using hfuel
    have hfuelLeft : ts.length ≤ fuel := by omega
    have hfuelRight : us.length ≤ fuel := by omega
    -- the operator of a sum ends the product before it
    have hunled : Unled isMultiplicative (.operator o :: us ++ rest) := by
      intro o' ho'
      obtain rfl : o = o' := by simpa using ho'
      rw [isMultiplicative, ho]
      rfl
    have hproduct := (ihr hfuelRight rest).product_eq hrest
    exact exists_chainFrom_operator ho hfuel (ihl hfuelLeft (.operator o :: us ++ rest) hunled) hproduct

/-! ### What is read is derived -/

variable {Q : Token → Prop} {P C : List Token → Expr → Prop}

/-- A reader makes trees over the tokens that it is given and leaves some of them. If it meets no fault, it
    has taken tokens from which its tree is derived. -/
def Reader.IsSound (Q : Token → Prop) (P : List Token → Expr → Prop) (r : Reader) : Prop :=
  ∀ {ts : List Token} {e : Expr} {rest : List Token}, r ts = (e, rest) → (∀ t ∈ ts, Q t) →
    e.Over Q ∧ (∀ t ∈ rest, Q t) ∧ (e.isWhole = true → ∃ us, ts = us ++ rest ∧ P us e)

/-- A chain that goes on is sound if its operands are and it may be joined with one. -/
theorem sound_chainFrom (hoperand : operand.IsSound Q P)
    (hjoin : ∀ {ts us : List Token} {o : Operator} {l r : Expr}, C ts l → accepted o = true → P us r →
      C (ts ++ .operator o :: us) (.binary o l r))
    {fuel : Nat} {left e : Expr} {ts rest : List Token}
    (hread : chainFrom accepted operand fuel left ts = (e, rest)) (hleft : left.Over Q)
    (hts : ∀ t ∈ ts, Q t) :
    e.Over Q ∧ (∀ t ∈ rest, Q t) ∧ (e.isWhole = true → left.isWhole = true ∧
      ∀ before, C before left → ∃ us, ts = us ++ rest ∧ C (before ++ us) e) := by
  have hstop : ∀ {left : Expr} {ts : List Token}, (left, ts) = (e, rest) → left.Over Q → (∀ t ∈ ts, Q t) →
      e.Over Q ∧ (∀ t ∈ rest, Q t) ∧ (e.isWhole = true → left.isWhole = true ∧
        ∀ before, C before left → ∃ us, ts = us ++ rest ∧ C (before ++ us) e) := by
    intro left ts heq hleft hts
    obtain ⟨rfl, rfl⟩ := Prod.mk.inj heq
    exact ⟨hleft, hts, fun h => ⟨h, fun before hbefore => ⟨[], rfl, by rwa [List.append_nil]⟩⟩⟩
  induction fuel generalizing left ts with
  | zero => exact hstop hread hleft hts
  | succ fuel ih =>
    by_cases hled : ∃ o after, ts = .operator o :: after ∧ accepted o = true
    · obtain ⟨o, after, rfl, ho⟩ := hled
      obtain ⟨hoperator, hafter⟩ := List.forall_mem_cons.1 hts
      cases hright : operand after with
      | mk right after' =>
        rw [chainFrom_operator ho hright] at hread
        obtain ⟨hover, hafter', hderived⟩ := hoperand hright hafter
        obtain ⟨hresult, hrest, hchain⟩ := ih hread ⟨hoperator, hleft, hover⟩ hafter'
        refine ⟨hresult, hrest, fun hwhole => ?_⟩
        obtain ⟨hparts, hjoined⟩ := hchain hwhole
        obtain ⟨hwholeLeft, hwholeRight⟩ : left.isWhole = true ∧ right.isWhole = true := by
          simpa [isWhole] using hparts
        refine ⟨hwholeLeft, fun before hbefore => ?_⟩
        obtain ⟨us, rfl, hP⟩ := hderived hwholeRight
        obtain ⟨vs, rfl, hC⟩ := hjoined _ (hjoin hbefore ho hP)
        refine ⟨.operator o :: us ++ vs, by simp, ?_⟩
        rwa [List.append_assoc] at hC
    · have hunled : Unled accepted ts := by
        intro o ho
        obtain ⟨after, rfl⟩ : ∃ after, ts = .operator o :: after := List.head?_eq_some_iff.1 ho
        exact Bool.eq_false_iff.2 fun h => hled ⟨o, after, rfl, h⟩
      rw [chainFrom_of_unled hunled] at hread
      exact hstop hread hleft hts

/-- A chain is sound if its operands are, each is a chain, and a chain may be joined with one. -/
theorem isSound_chain (hoperand : operand.IsSound Q P) (hsingle : ∀ {ts e}, P ts e → C ts e)
    (hjoin : ∀ {ts us : List Token} {o : Operator} {l r : Expr}, C ts l → accepted o = true → P us r →
      C (ts ++ .operator o :: us) (.binary o l r)) (fuel : Nat) :
    Reader.IsSound Q C (chain accepted operand fuel) := by
  intro ts e rest hread hts
  cases hfirst : operand ts with
  | mk left after =>
    rw [chain, hfirst] at hread
    obtain ⟨hleft, hafter, hderived⟩ := hoperand hfirst hts
    obtain ⟨hover, hrest, hchain⟩ := sound_chainFrom (C := C) hoperand hjoin hread hleft hafter
    refine ⟨hover, hrest, fun hwhole => ?_⟩
    obtain ⟨hwholeLeft, hjoined⟩ := hchain hwhole
    obtain ⟨us, rfl, hP⟩ := hderived hwholeLeft
    obtain ⟨vs, rfl, hC⟩ := hjoined us (hsingle hP)
    exact ⟨us ++ vs, (List.append_assoc us vs rest).symm, hC⟩

/-- Sums are sound if operands are. -/
theorem isSound_sum (hoperand : operand.IsSound Q (Derives .operand)) (fuel : Nat) :
    Reader.IsSound Q (Derives .sum) (sum operand fuel) :=
  isSound_chain (isSound_chain hoperand .factor .times fuel) .summand .plus fuel

/-- What is read as an operand without a fault is derived. -/
theorem isSound_operand (fuel : Nat) : Reader.IsSound Q (Derives .operand) (Expr.operand fuel) := by
  induction fuel with
  | zero =>
    intro ts e rest hread _
    obtain ⟨rfl, rfl⟩ := Prod.mk.inj hread
    exact ⟨trivial, nofun, nofun⟩
  | succ fuel ih =>
    intro ts e rest hread hts
    match ts, hread, hts with
    | [], hread, hts =>
      obtain ⟨rfl, rfl⟩ := Prod.mk.inj hread
      exact ⟨trivial, nofun, nofun⟩
    | .operator .minus :: ts, hread, hts =>
      cases hoperand : Expr.operand fuel ts with
      | mk e' after =>
        rw [Expr.operand, hoperand] at hread
        obtain ⟨rfl, rfl⟩ := Prod.mk.inj hread
        obtain ⟨hover, hrest, hderived⟩ := ih hoperand (List.forall_mem_cons.1 hts).2
        refine ⟨hover, hrest, fun hwhole => ?_⟩
        obtain ⟨us, rfl, hderives⟩ := hderived hwhole
        exact ⟨.operator .minus :: us, rfl, .negated hderives⟩
    | .opening :: ts, hread, hts =>
      cases hsum : sum (Expr.operand fuel) fuel ts with
      | mk e' after =>
        rw [Expr.operand, hsum] at hread
        obtain ⟨hover, hafter, hderived⟩ := isSound_sum ih fuel hsum (List.forall_mem_cons.1 hts).2
        -- only a closing parenthesis lets the sum stand as it is
        by_cases hclosing : after.head? = some .closing
        · obtain ⟨after, rfl⟩ := List.head?_eq_some_iff.1 hclosing
          obtain ⟨rfl, rfl⟩ := Prod.mk.inj hread
          refine ⟨hover, (List.forall_mem_cons.1 hafter).2, fun hwhole => ?_⟩
          obtain ⟨us, rfl, hderives⟩ := hderived hwhole
          exact ⟨.opening :: us ++ [.closing], by simp, .enclosed hderives⟩
        · obtain ⟨fault, hfault⟩ : ∃ fault, closed (e', after) = (.stopped e' fault, []) := by
            unfold closed
            split <;> simp_all
          obtain ⟨rfl, rfl⟩ := Prod.mk.inj (hfault.symm.trans hread)
          exact ⟨hover, nofun, nofun⟩
    | .numeral t :: ts, hread, hts =>
      obtain ⟨rfl, rfl⟩ := Prod.mk.inj hread
      obtain ⟨ht, hrest⟩ := List.forall_mem_cons.1 hts
      exact ⟨ht, hrest, fun _ => ⟨[.numeral t], rfl, .numeral t⟩⟩
    | .literal t :: ts, hread, hts =>
      obtain ⟨rfl, rfl⟩ := Prod.mk.inj hread
      obtain ⟨ht, hrest⟩ := List.forall_mem_cons.1 hts
      exact ⟨ht, hrest, fun _ => ⟨[.literal t], rfl, .literal t⟩⟩
    | .name t :: ts, hread, hts =>
      obtain ⟨rfl, rfl⟩ := Prod.mk.inj hread
      obtain ⟨ht, hrest⟩ := List.forall_mem_cons.1 hts
      exact ⟨ht, hrest, fun _ => ⟨[.name t], rfl, .name t⟩⟩
    | .operator .plus :: _, hread, _ | .operator .times :: _, hread, _ | .operator .divide :: _, hread, _
    | .operator .modulo :: _, hread, _ | .closing :: _, hread, _ =>
      obtain ⟨rfl, rfl⟩ := Prod.mk.inj hread
      exact ⟨trivial, nofun, nofun⟩

/-! ### Whole lists of tokens -/

/-- A derived tree has met no fault. -/
theorem isWhole_of_derives {level : Level} {ts : List Token} {e : Expr} (h : Derives level ts e) :
    e.isWhole = true := by
  induction h <;> simp_all [isWhole]

/-- Nothing is derived from no tokens. -/
theorem ne_nil_of_derives {level : Level} {ts : List Token} {e : Expr} (h : Derives level ts e) :
    ts ≠ [] := by
  induction h <;> simp_all

/-- A list of tokens is read as the tree that the grammar derives from it, and as a tree with a fault if there
    is none. -/
theorem derives_iff {ts : List Token} {e : Expr} :
    Derives .sum ts e ↔ ofTokens ts = e ∧ e.isWhole = true := by
  constructor
  · intro h
    refine ⟨?_, isWhole_of_derives h⟩
    have hread := (reads_of_derives h (Nat.le_refl _) []).sum_eq unled_nil
    rw [List.append_nil] at hread
    have hne : ts.isEmpty = false := by simp [ne_nil_of_derives h]
    simp only [ofTokens, hne, hread, Bool.false_eq_true, if_false]
  · rintro ⟨rfl, hwhole⟩
    unfold ofTokens at hwhole ⊢
    split at hwhole
    · cases hwhole
    · next hne =>
      rw [if_neg hne]
      split at hwhole
      · next e hread =>
        obtain ⟨-, -, hderived⟩ := isSound_sum (isSound_operand (Q := fun _ => True) _) _ hread
          fun _ _ => trivial
        obtain ⟨us, hus, hderives⟩ := hderived hwhole
        obtain rfl : ts = us := hus.trans (List.append_nil us)
        simpa only [hread] using hderives
      · cases hwhole

/-- The tree of a list of tokens is over its tokens. -/
theorem over_ofTokens {ts : List Token} (hts : ∀ t ∈ ts, Q t) : (ofTokens ts).Over Q := by
  unfold ofTokens
  split
  · trivial
  · split
    · next hread => exact (isSound_sum (isSound_operand _) _ hread hts).1
    · next hread => exact (isSound_sum (isSound_operand _) _ hread hts).1

end Expr

end PageQuery.Expression
