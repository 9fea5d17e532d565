namespace PageQuery

/-!
# Computations that may fail

* `bind_eq_ok_iff`, `bind_eq_error_iff`: how two computations in a row end;
* `map_eq_ok_iff`, `mapError_eq_ok_iff`: when a computation gives a value that is changed, or whose
  error is;
* `exists_first_of_mapM_eq_error`, `exists_of_mapM_eq_error`: where a row of computations fails;
* `exists_of_mapM_eq_ok`, `exists_mem_iff_of_mapM_eq_ok`: where the values of a row of computations come from, and
  what holds of one of them;
* `mapM_cons_eq_ok_iff`, `mapM_append_eq_ok_iff`, `exists_mapM_eq_ok_iff`: when a row of computations
  gives values;
* `length_of_mapM_eq_ok`, `eq_map_of_mapM_eq_ok`: how many values a row of computations gives, and a row whose values
  are known;
* `mapM_congr`, `mapM_flatMap`: rows of the same computations, and rows one after the other;
* `errorOf?`: the error of a computation;
* `Ends`, `FailsOnly`: what the values and the errors of a computation have in common;
* `Refused`: errors of which some come only from inputs that have a mark in them.
-/

variable {ε α β : Type}

/-- Two computations in a row give a value if both do. -/
theorem bind_eq_ok_iff {x : Except ε α} {f : α → Except ε β} {b : β} :
    (x >>= f) = .ok b ↔ ∃ a, x = .ok a ∧ f a = .ok b := by
  cases x <;> simp [bind, Except.bind]

/-- Two computations in a row fail if the first does, or the second after it. -/
theorem bind_eq_error_iff {x : Except ε α} {f : α → Except ε β} {e : ε} :
    (x >>= f) = .error e ↔ x = .error e ∨ ∃ a, x = .ok a ∧ f a = .error e := by
  cases x <;> simp [bind, Except.bind]

/-- A computation whose value is changed gives one if it does. -/
theorem map_eq_ok_iff {f : α → β} {x : Except ε α} {b : β} :
    x.map f = .ok b ↔ ∃ a, x = .ok a ∧ f a = b := by
  cases x <;> simp [Except.map]

/-- A computation whose error is changed gives the same values. -/
theorem mapError_eq_ok_iff {ε' : Type} {f : ε → ε'} {x : Except ε α} {a : α} :
    x.mapError f = .ok a ↔ x = .ok a := by
  cases x with
  | error e => exact iff_of_false nofun nofun
  | ok b =>
    constructor
    · intro h
      rw [Except.ok.inj h]
    · intro h
      rw [← Except.ok.inj h]
      rfl

/-- The error of a computation that fails. Errors can be compared even if values cannot. -/
def errorOf? : Except ε α → Option ε
  | .ok _ => none
  | .error e => some e

theorem errorOf?_eq_some_iff {x : Except ε α} {e : ε} : errorOf? x = some e ↔ x = .error e := by
  cases x <;> simp [errorOf?]

/-- What comes after a computation matters for the values that it gives. -/
theorem bind_congr_ok {x : Except ε α} {f g : α → Except ε β} (h : ∀ a, x = .ok a → f a = g a) :
    (x >>= f) = (x >>= g) := by
  cases x with
  | error e => rfl
  | ok a => exact h a rfl

/-- A row of computations fails in the first of them that does. -/
theorem exists_first_of_mapM_eq_error {f : α → Except ε β} {as : List α} {e : ε} (h : as.mapM f = .error e) :
    ∃ before a after, as = before ++ a :: after ∧ (∀ b ∈ before, ∃ c, f b = .ok c) ∧ f a = .error e := by
  induction as with
  | nil => cases h
  | cons a as ih =>
    rw [List.mapM_cons, bind_eq_error_iff] at h
    rcases h with ha | ⟨c, hc, h⟩
    · exact ⟨[], a, as, rfl, nofun, ha⟩
    · rcases bind_eq_error_iff.1 h with has | ⟨cs, -, h⟩
      · obtain ⟨before, a', after, rfl, hbefore, ha'⟩ := ih has
        exact ⟨a :: before, a', after, rfl, List.forall_mem_cons.2 ⟨⟨c, hc⟩, hbefore⟩, ha'⟩
      · cases h

/-- A row of computations fails in one of them. -/
theorem exists_of_mapM_eq_error {f : α → Except ε β} {as : List α} {e : ε}
    (h : as.mapM f = .error e) : ∃ a ∈ as, f a = .error e := by
  obtain ⟨before, a, after, rfl, -, ha⟩ := exists_first_of_mapM_eq_error h
  exact ⟨a, List.mem_append_right _ List.mem_cons_self, ha⟩

/-- Each value of a row of computations is given by one of them. -/
theorem exists_of_mapM_eq_ok {f : α → Except ε β} {as : List α} {bs : List β}
    (h : as.mapM f = .ok bs) {b : β} (hb : b ∈ bs) : ∃ a ∈ as, f a = .ok b := by
  induction as generalizing bs with
  | nil => obtain rfl : [] = bs := Except.ok.inj h; cases hb
  | cons a as ih =>
    rw [List.mapM_cons, bind_eq_ok_iff] at h
    obtain ⟨c, hc, h⟩ := h
    obtain ⟨cs, hcs, h⟩ := bind_eq_ok_iff.1 h
    obtain rfl : c :: cs = bs := Except.ok.inj h
    rcases List.mem_cons.1 hb with rfl | hb
    · exact ⟨a, List.mem_cons_self, hc⟩
    · obtain ⟨a', ha', hb⟩ := ih hcs hb
      exact ⟨a', List.mem_cons_of_mem _ ha', hb⟩

/-- A row of computations with one more in front gives values if all do. -/
theorem mapM_cons_eq_ok_iff {f : α → Except ε β} {a : α} {as : List α} {cs : List β} :
    (a :: as).mapM f = .ok cs ↔ ∃ b bs, f a = .ok b ∧ as.mapM f = .ok bs ∧ cs = b :: bs := by
  simp only [List.mapM_cons, bind_eq_ok_iff]
  constructor
  · rintro ⟨b, hb, bs, hbs, h⟩
    exact ⟨b, bs, hb, hbs, (Except.ok.inj h).symm⟩
  · rintro ⟨b, bs, hb, hbs, rfl⟩
    exact ⟨b, hb, bs, hbs, rfl⟩

/-- What the values of a row of computations are like is told of what they are made of. -/
theorem exists_mem_iff_of_mapM_eq_ok {f : α → Except ε β} {P : β → Prop} {Q : α → Prop} {as : List α} {bs : List β}
    (h : as.mapM f = .ok bs) (hPQ : ∀ a ∈ as, ∀ b, f a = .ok b → (P b ↔ Q a)) :
    (∃ b ∈ bs, P b) ↔ ∃ a ∈ as, Q a := by
  induction as generalizing bs with
  | nil =>
    obtain rfl : [] = bs := Except.ok.inj h
    exact iff_of_false nofun nofun
  | cons a as ih =>
    obtain ⟨b, bs, hb, hbs, rfl⟩ := mapM_cons_eq_ok_iff.1 h
    obtain ⟨hfirst, hrest⟩ := List.forall_mem_cons.1 hPQ
    simp [hfirst b hb, ih hbs hrest]

/-- A row of computations gives one value each. -/
theorem length_of_mapM_eq_ok {f : α → Except ε β} {as : List α} {bs : List β} (h : as.mapM f = .ok bs) :
    as.length = bs.length := by
  induction as generalizing bs with
  | nil => exact congrArg List.length (Except.ok.inj h)
  | cons a as ih =>
    obtain ⟨b, bs, -, hbs, rfl⟩ := mapM_cons_eq_ok_iff.1 h
    rw [List.length_cons, List.length_cons, ih hbs]

/-- Two rows of computations give values if both do. -/
theorem mapM_append_eq_ok_iff {f : α → Except ε β} {as bs : List α} {cs : List β} :
    (as ++ bs).mapM f = .ok cs ↔
      ∃ xs ys, as.mapM f = .ok xs ∧ bs.mapM f = .ok ys ∧ cs = xs ++ ys := by
  simp only [List.mapM_append, bind_eq_ok_iff]
  constructor
  · rintro ⟨xs, hxs, ys, hys, h⟩
    exact ⟨xs, ys, hxs, hys, (Except.ok.inj h).symm⟩
  · rintro ⟨xs, ys, hxs, hys, rfl⟩
    exact ⟨xs, hxs, ys, hys, rfl⟩

/-- A row of computations gives values if each of them gives one. -/
theorem exists_mapM_eq_ok_iff {f : α → Except ε β} {as : List α} :
    (∃ bs, as.mapM f = .ok bs) ↔ ∀ a ∈ as, ∃ b, f a = .ok b := by
  induction as with
  | nil => exact iff_of_true ⟨[], rfl⟩ (by simp)
  | cons a as ih =>
    rw [List.forall_mem_cons, ← ih]
    simp only [mapM_cons_eq_ok_iff]
    constructor
    · rintro ⟨_, b, bs, hb, hbs, -⟩
      exact ⟨⟨b, hb⟩, bs, hbs⟩
    · rintro ⟨⟨b, hb⟩, bs, hbs⟩
      exact ⟨_, b, bs, hb, hbs, rfl⟩

/-- A row of computations that can give one value each gives these values. -/
theorem eq_map_of_mapM_eq_ok {f : α → Except ε β} {g : α → β} (hf : ∀ a b, f a = .ok b → b = g a)
    {as : List α} {bs : List β} (h : as.mapM f = .ok bs) : bs = as.map g := by
  induction as generalizing bs with
  | nil => exact (Except.ok.inj h).symm
  | cons a as ih =>
    obtain ⟨b, bs, hb, hbs, rfl⟩ := mapM_cons_eq_ok_iff.1 h
    rw [hf a b hb, ih hbs, List.map_cons]

/-- Rows of the same computations give the same. -/
theorem mapM_congr {f g : α → Except ε β} {as : List α} (h : ∀ a ∈ as, f a = g a) :
    as.mapM f = as.mapM g := by
  induction as with
  | nil => rfl
  | cons a as ih =>
    obtain ⟨ha, has⟩ := List.forall_mem_cons.1 h
    rw [List.mapM_cons, List.mapM_cons, ha, ih has]

/-- Rows of computations one after the other are one row. -/
theorem mapM_flatMap {γ : Type} (g : α → List β) (f : β → Except ε γ) (as : List α) :
    (as.flatMap g).mapM f = List.flatten <$> as.mapM fun a => (g a).mapM f := by
  induction as with
  | nil => rfl
  | cons a as ih => simp [List.flatMap_cons, List.mapM_append, List.mapM_cons, ih]

/-! ### What values and errors have in common -/

/-- A computation ends with a value of one kind, or with an error of another. -/
def Ends (P : α → Prop) (E : ε → Prop) : Except ε α → Prop
  | .ok a => P a
  | .error e => E e

variable {P : α → Prop} {Q : β → Prop} {E : ε → Prop}

theorem ends_mono {P' : α → Prop} {E' : ε → Prop} {x : Except ε α} (h : Ends P E x)
    (hP : ∀ a, P a → P' a) (hE : ∀ e, E e → E' e) : Ends P' E' x := by
  cases x with
  | ok a => exact hP a h
  | error e => exact hE e h

theorem ends_bind {x : Except ε α} {f : α → Except ε β} (hx : Ends P E x)
    (hf : ∀ a, P a → Ends Q E (f a)) : Ends Q E (x >>= f) := by
  cases x with
  | ok a => exact hf a hx
  | error e => exact hx

/-- A test in front of a computation ends it with an error or lets it go on. -/
theorem ends_guard {e : ε} {c : Prop} [Decidable c] {f : PUnit → Except ε α} (he : c → E e)
    (hf : Ends P E (f ())) : Ends P E (if c then throw e >>= f else f ()) := by
  split
  · next hc => exact he hc
  · exact hf

theorem ends_mapError {ε' : Type} {E' : ε' → Prop} {f : ε → ε'} {x : Except ε α}
    (h : Ends P (fun e => E' (f e)) x) : Ends P E' (x.mapError f) := by
  cases x <;> exact h

theorem ends_map {f : α → β} {x : Except ε α} (h : Ends (fun a => Q (f a)) E x) : Ends Q E (x.map f) := by
  cases x <;> exact h

/-- A computation whose errors are all of one kind, whatever its values are. -/
abbrev FailsOnly (E : ε → Prop) (x : Except ε α) : Prop := Ends (fun _ => True) E x

theorem failsOnly_bind {x : Except ε α} {f : α → Except ε β} (hx : Ends P E x)
    (hf : ∀ a, FailsOnly E (f a)) : FailsOnly E (x >>= f) :=
  ends_bind hx fun a _ => hf a

/-- A computation that has a value where a statement holds, and an error where it does not. -/
theorem exists_eq_ok_iff_of_ends {P : Prop} {x : Except ε α} (h : Ends (fun _ => P) E x)
    (hE : ∀ e, E e → ¬P) : (∃ a, x = .ok a) ↔ P := by
  cases x with
  | ok a => exact iff_of_true ⟨a, rfl⟩ h
  | error e => exact iff_of_false nofun (hE e h)

/-- The errors of an input: the usual one, or any other if there is a mark in the input. -/
def Refused {γ : Type} (usual : ε) (mark input : List γ) (e : ε) : Prop := e = usual ∨ mark <:+: input

section

variable {γ : Type} {usual : ε} {mark input : List γ}

theorem refused_of_usual {x : Except ε α} (h : Ends P (· = usual) x) : Ends P (Refused usual mark input) x :=
  ends_mono h (fun _ h => h) fun _ h => .inl h

/-- What is refused at the end of an input is refused in it. -/
theorem refused_of_suffix {rest : List γ} {x : Except ε α} (h : Ends P (Refused usual mark rest) x)
    (hrest : rest <:+ input) : Ends P (Refused usual mark input) x :=
  ends_mono h (fun _ h => h) fun _ h => h.imp_right fun hmark => hmark.trans hrest.isInfix

end

/-- A row of computations ends well if all of them do, and else as one of them does. -/
theorem ends_mapM {P : α → Prop} {E : α → ε → Prop} {f : α → Except ε β} {as : List α}
    (h : ∀ a ∈ as, Ends (fun _ => P a) (E a) (f a)) :
    Ends (fun _ => ∀ a ∈ as, P a) (fun e => ∃ a ∈ as, E a e) (as.mapM f) := by
  cases hrow : as.mapM f with
  | ok bs =>
    intro a ha
    obtain ⟨b, hb⟩ := exists_mapM_eq_ok_iff.1 ⟨bs, hrow⟩ a ha
    have hends := h a ha
    rw [hb] at hends
    exact hends
  | error e =>
    obtain ⟨a, ha, he⟩ := exists_of_mapM_eq_error hrow
    have hends := h a ha
    rw [he] at hends
    exact ⟨a, ha, hends⟩

/-- A row of computations fails only as they do. -/
theorem failsOnly_mapM {E : ε → Prop} {f : α → Except ε β} {as : List α} (h : ∀ a ∈ as, FailsOnly E (f a)) :
    FailsOnly E (as.mapM f) := by
  refine ends_mono (ends_mapM (P := fun _ => True) (E := fun _ => E) h) (fun _ _ => trivial) ?_
  rintro e ⟨_, -, he⟩
  exact he

end PageQuery
