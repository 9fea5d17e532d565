import PageQuery.Expression.Evaluate
import PageQuery.Proofs.Number.Numeral
import PageQuery.Proofs.Value.Data

namespace PageQuery

/-!
# Which data has a text

Data has a text unless a whole number in it has too many digits.

* `Value.WithinDigits`: every whole number in a value can be written;
* `Json.ends_writeAt`: when data is written as JSON;
* `Expression.ends_rendered`, `Expression.exists_rendered_iff`: when data has a text, and why not.
-/

/-- Every whole number in a value has few enough digits to be written. Keys are not looked at: data has texts
    for keys. -/
inductive Value.WithinDigits : Value → Prop where
  | scalar {s : Scalar} (h : ∀ n, s = .int n → n.natAbs < tenTo Numeral.maxDigits) :
    WithinDigits (.scalar s)
  | list {vs : List Value} (h : ∀ v ∈ vs, WithinDigits v) : WithinDigits (.list vs)
  | map {es : Entries} (h : ∀ e ∈ es, WithinDigits e.2) : WithinDigits (.map es)

namespace Value

theorem withinDigits_int_iff {n : Int} :
    (Value.int n).WithinDigits ↔ n.natAbs < tenTo Numeral.maxDigits := by
  constructor
  · rintro ⟨h⟩
    exact h n rfl
  · exact fun h => .scalar fun m hm => Scalar.int.inj hm ▸ h

theorem withinDigits_list_iff {vs : List Value} :
    (Value.list vs).WithinDigits ↔ ∀ v ∈ vs, v.WithinDigits := by
  constructor
  · rintro ⟨⟩
    assumption
  · exact .list

theorem withinDigits_map_iff {es : Entries} :
    (Value.map es).WithinDigits ↔ ∀ e ∈ es, e.2.WithinDigits := by
  constructor
  · rintro ⟨⟩
    assumption
  · exact .map

end Value

/-! ### Numbers -/

/-- A whole number is written, or it is too large. -/
theorem Numeral.ends_ofInt (n : Int) :
    Ends (fun _ => (Value.int n).WithinDigits) (fun e => e = .tooLarge ∧ ¬(Value.int n).WithinDigits)
      (ofInt n) := by
  simp only [Value.withinDigits_int_iff]
  by_cases h : n.natAbs < tenTo maxDigits
  · rw [ofInt_of_lt h]
    exact h
  · rw [ofInt_of_le (Nat.not_lt.1 h)]
    exact ⟨rfl, h⟩

/-- Every double has a text. -/
theorem Value.exists_floatText (x : Float) : ∃ t, floatText x = .ok t := by
  unfold floatText
  split
  · next n hn => exact ⟨_, by rw [Binary64.ofInt_of_whole? hn]; rfl⟩
  · exact ⟨_, rfl⟩

/-! ### JSON -/

namespace Json

/-- An entry of a map. -/
def writeEntry (style : Style) (level : Nat) (e : Scalar × Value) : Except WriteError Text := do
  let key ← keyText e.1
  let t ← writeAt style level e.2
  return writeText key ++ style.keyGap ++ t

theorem writeItems_eq_mapM (style : Style) (level : Nat) (vs : List Value) :
    writeItems style level vs = vs.mapM (writeAt style level) := by
  induction vs with
  | nil => rfl
  | cons v vs ih => rw [writeItems, List.mapM_cons, ih]

theorem writeEntries_eq_mapM (style : Style) (level : Nat) (es : Entries) :
    writeEntries style level es = es.mapM (writeEntry style level) := by
  induction es with
  | nil => rfl
  | cons e es ih =>
    obtain ⟨key, v⟩ := e
    rw [writeEntries, List.mapM_cons, ih, writeEntry]
    simp only [bind_assoc, pure_bind]

/-- A scalar is written, or it is a whole number that is too large. -/
theorem ends_writeScalar (style : Style) {s : Scalar} (hs : s.IsJson) :
    Ends (fun _ => (Value.scalar s).WithinDigits)
      (fun e => e = .numeral .tooLarge ∧ ¬(Value.scalar s).WithinDigits) (writeScalar style s) := by
  cases s with
  | int n =>
    refine ends_mapError (ends_mono (Numeral.ends_ofInt n) (fun _ h => h) fun e h => ⟨?_, h.2⟩)
    rw [h.1]
  | stamp s => exact hs.elim
  | bytes bs => exact hs.elim
  | _ => exact .scalar nofun

/-- The entry of a map is written, or its value is not. -/
theorem ends_writeEntry {style : Style} {level : Nat} {e : Scalar × Value} (hkey : ∃ t, e.1 = .text t)
    {P : Prop} {E : WriteError → Prop} (hv : Ends (fun _ => P) E (writeAt style level e.2)) :
    Ends (fun _ => P) E (writeEntry style level e) := by
  obtain ⟨key, hkey⟩ := hkey
  rw [writeEntry, hkey]
  show Ends _ E (writeAt style level e.2 >>= fun t => pure (writeText key ++ style.keyGap ++ t))
  exact ends_bind hv fun _ h => h

/-- Data is written, or a whole number in it is too large. -/
theorem ends_writeAt (style : Style) {v : Value} (hv : v.IsJson) (level : Nat) :
    Ends (fun _ => v.WithinDigits) (fun e => e = .numeral .tooLarge ∧ ¬v.WithinDigits)
      (writeAt style level v) := by
  induction hv generalizing level with
  | scalar hs => exact ends_writeScalar style hs
  | @list vs _ ih =>
    rw [writeAt, writeItems_eq_mapM]
    have hitems := ends_mapM fun v hv => ih v hv (level + 1)
    refine ends_bind (ends_mono hitems (fun _ h => .list h) ?_) fun _ h => h
    -- one item that is too large makes the list too large
    rintro e ⟨v, hv, he, hlarge⟩
    exact ⟨he, fun hwithin => hlarge (Value.withinDigits_list_iff.1 hwithin v hv)⟩
  | @map es hkeys _ ih =>
    rw [writeAt, writeEntries_eq_mapM]
    have hentries := ends_mapM fun e he => ends_writeEntry (hkeys e he) (ih e he (level + 1))
    refine ends_bind (ends_mono hentries (fun _ h => .map h) ?_) fun _ h => h
    rintro e ⟨entry, hentry, he, hlarge⟩
    exact ⟨he, fun hwithin => hlarge (Value.withinDigits_map_iff.1 hwithin entry hentry)⟩

end Json

/-! ### Texts of values -/

namespace Expression

/-- The failure to write a whole number of too many digits, alone or inside a list or map. -/
def Failure.IsTooLarge (f : Failure) : Prop := f = .numeral .tooLarge ∨ f = .writing (.numeral .tooLarge)

/-- Data has a text, or a whole number in it is too large. -/
theorem ends_rendered {v : Value} (hv : v.IsJson) :
    Ends (fun _ => v.WithinDigits) (fun f => f.IsTooLarge ∧ ¬v.WithinDigits) (rendered v) := by
  have hjson := Json.ends_writeAt .compact hv 0
  refine ends_mapError ?_
  cases hv with
  | list h =>
    exact ends_mapError (ends_mono hjson (fun _ h => h) fun e h => ⟨.inr (by rw [h.1]; rfl), h.2⟩)
  | map hkeys h =>
    exact ends_mapError (ends_mono hjson (fun _ h => h) fun e h => ⟨.inr (by rw [h.1]; rfl), h.2⟩)
  | @scalar s hs =>
    cases s with
    | int n =>
      refine ends_mapError (ends_mono (Numeral.ends_ofInt n) (fun _ h => h) fun e h => ⟨.inl ?_, h.2⟩)
      rw [h.1]
      rfl
    | float x =>
      obtain ⟨t, ht⟩ := Value.exists_floatText x
      rw [Value.render, ht]
      exact .scalar nofun
    | stamp s => exact hs.elim
    | bytes bs => exact hs.elim
    | _ => exact .scalar nofun

/-- The data that has a text is the data in which every whole number has few enough digits. -/
theorem exists_rendered_iff {v : Value} (hv : v.IsJson) : (∃ t, rendered v = .ok t) ↔ v.WithinDigits :=
  exists_eq_ok_iff_of_ends (ends_rendered hv) fun _ h => h.2

end Expression

end PageQuery
