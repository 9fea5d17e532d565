import PageQuery.Proofs.Except
import PageQuery.Transform.Literal

namespace PageQuery

/-!
# Data

The values that JSON documents hold: null, truth values, numbers and texts, and lists and maps of such values,
where keys are texts.

* `Value.isNull_iff`: the value that is absent;
* `Value.IsJson`: values of this kind;
* `Entries.forall_mem_ofList`: what holds of all entries of a map, however it is put together;
* `Json.Holds`: kinds of values to which whatever is read belongs; `Json.isJson_read`: data is one.
-/

/-- Only the value that stands for the absence of one is absent. -/
theorem Value.isNull_iff {v : Value} : v.isNull = true ↔ v = .null := by
  constructor
  · intro h
    unfold isNull at h
    split at h
    · rfl
    · cases h
  · rintro rfl
    rfl

/-- A scalar that JSON has a form for. -/
def Scalar.IsJson : Scalar → Prop
  | .stamp _ => False
  | .bytes _ => False
  | _ => True

/-- A value as JSON documents hold it. -/
inductive Value.IsJson : Value → Prop where
  | scalar {s : Scalar} (h : s.IsJson) : IsJson (.scalar s)
  | list {vs : List Value} (h : ∀ v ∈ vs, IsJson v) : IsJson (.list vs)
  | map {es : Entries} (hkeys : ∀ e ∈ es, ∃ t, e.1 = .text t) (hvalues : ∀ e ∈ es, IsJson e.2) :
    IsJson (.map es)

/-! ### Maps -/

namespace Entries

variable {K : Scalar → Prop} {V : Value → Prop}

/-- Setting a key keeps the old key or adds the new one, and has the new value in one place. -/
theorem forall_mem_put {es : Entries} {key : Scalar} {v : Value} (hes : ∀ e ∈ es, K e.1 ∧ V e.2)
    (hkey : K key) (hv : V v) : ∀ e ∈ put key v es, K e.1 ∧ V e.2 := by
  induction es with
  | nil => exact List.forall_mem_singleton.2 ⟨hkey, hv⟩
  | cons e es ih =>
    obtain ⟨he, hrest⟩ := List.forall_mem_cons.1 hes
    rw [put]
    split
    · exact List.forall_mem_cons.2 ⟨⟨he.1, hv⟩, hrest⟩
    · exact List.forall_mem_cons.2 ⟨he, ih hrest⟩

/-- Overlaying a map sets its keys one after the other. -/
theorem forall_mem_overlay {es changes : Entries} (hes : ∀ e ∈ es, K e.1 ∧ V e.2)
    (hchanges : ∀ e ∈ changes, K e.1 ∧ V e.2) : ∀ e ∈ overlay es changes, K e.1 ∧ V e.2 := by
  induction changes generalizing es with
  | nil => exact hes
  | cons e changes ih =>
    obtain ⟨he, hrest⟩ := List.forall_mem_cons.1 hchanges
    exact ih (forall_mem_put hes he.1 he.2) hrest

/-- A map made of pairs has no other keys and values than they. -/
theorem forall_mem_ofList {pairs : Entries} (h : ∀ e ∈ pairs, K e.1 ∧ V e.2) :
    ∀ e ∈ ofList pairs, K e.1 ∧ V e.2 :=
  forall_mem_overlay (List.forall_mem_nil _) h

end Entries

namespace Json

/-- A number is a whole number or a double. -/
theorem isJson_number {negative : Bool} {whole rest : Text} {r : Scalar × Text}
    (h : number negative whole rest = .ok r) : r.1.IsJson := by
  unfold number at h
  dsimp only at h
  split at h
  · split at h
    · cases h
    · cases h
      trivial
  · cases h
    trivial

/-- A word stands for null, a truth value or a double. -/
theorem isJson_atom {t : Text} {r : Scalar × Text} (h : atom t = .ok r) : r.1.IsJson := by
  unfold atom at h
  repeat' split at h
  all_goals first
    | exact isJson_number h
    | cases h <;> trivial

/-! ### What is read -/

/-- A kind of values that holds the scalars that are read, and lists and maps of its values. -/
structure Holds (V : Value → Prop) : Prop where
  atom : ∀ {t : Text} {r : Scalar × Text}, atom t = .ok r → V (.scalar r.1)
  text : ∀ t, V (.text t)
  list : ∀ {vs : List Value}, (∀ v ∈ vs, V v) → V (.list vs)
  map : ∀ {es : Entries}, (∀ e ∈ es, (∃ key, e.1 = .text key) ∧ V e.2) → V (.map es)

variable {V : Value → Prop}

/-- Values, items and members are of such a kind, whatever the fuel. -/
theorem Holds.reading (hV : Holds V) (fuel : Nat) (t : Text) :
    (∀ r, value fuel t = .ok r → V r.1) ∧
    (∀ r, items fuel t = .ok r → ∀ v ∈ r.1, V v) ∧
    (∀ r, members fuel t = .ok r → ∀ e ∈ r.1, (∃ key, e.1 = .text key) ∧ V e.2) := by
  -- the three readers call each other with less fuel, so one induction carries all of them
  induction fuel generalizing t with
  | zero => exact ⟨nofun, nofun, nofun⟩
  | succ fuel ih =>
    have hvalue := fun t => (ih t).1
    have hitems := fun t => (ih t).2.1
    have hmembers := fun t => (ih t).2.2
    refine ⟨fun r h => ?value, fun r h => ?items, fun r h => ?members⟩
    case value =>
      unfold value at h
      split at h
      · obtain ⟨_, -, h⟩ := bind_eq_ok_iff.1 h
        cases h
        exact hV.text _
      · split at h
        · cases h
          exact hV.list (List.forall_mem_nil _)
        · obtain ⟨vs, hvs, h⟩ := bind_eq_ok_iff.1 h
          cases h
          exact hV.list (hitems _ _ hvs)
      · split at h
        · cases h
          exact hV.map (List.forall_mem_nil _)
        · obtain ⟨es, hes, h⟩ := bind_eq_ok_iff.1 h
          cases h
          exact hV.map (Entries.forall_mem_ofList (K := fun key => ∃ t, key = .text t) (hmembers _ _ hes))
      · obtain ⟨_, hatom, h⟩ := bind_eq_ok_iff.1 h
        cases h
        exact hV.atom hatom
    case items =>
      unfold items at h
      obtain ⟨⟨v, rest⟩, hv, h⟩ := bind_eq_ok_iff.1 h
      dsimp only at h
      split at h
      · cases h
        exact List.forall_mem_singleton.2 (hvalue _ _ hv)
      · obtain ⟨vs, hvs, h⟩ := bind_eq_ok_iff.1 h
        cases h
        exact List.forall_mem_cons.2 ⟨hvalue _ _ hv, hitems _ _ hvs⟩
      · cases h
    case members =>
      unfold members at h
      split at h
      · obtain ⟨⟨key, rest⟩, -, h⟩ := bind_eq_ok_iff.1 h
        dsimp only at h
        split at h
        · obtain ⟨⟨v, rest⟩, hv, h⟩ := bind_eq_ok_iff.1 h
          have hentry : (∃ t, Scalar.text key = .text t) ∧ V v := ⟨⟨key, rfl⟩, hvalue _ _ hv⟩
          dsimp only at h
          split at h
          · cases h
            exact List.forall_mem_singleton.2 hentry
          · obtain ⟨es, hes, h⟩ := bind_eq_ok_iff.1 h
            cases h
            exact List.forall_mem_cons.2 ⟨hentry, hmembers _ _ hes⟩
          · cases h
        · cases h
      · cases h

/-- What is read from a text is of such a kind. -/
theorem Holds.read (hV : Holds V) {t : Text} {v : Value} (h : read t = .ok v) : V v := by
  unfold Json.read at h
  split at h
  · cases h
  · split at h
    · cases h
    · next v' rest hvalue =>
      split at h
      · cases h
        exact (hV.reading _ _).1 _ hvalue
      · cases h

theorem Holds.read? (hV : Holds V) {t : Text} {v : Value} (h : read? t = some v) : V v := by
  rw [Json.read?] at h
  cases hread : Json.read t with
  | error e =>
    rw [hread] at h
    cases h
  | ok w =>
    rw [hread] at h
    cases h
    exact hV.read hread

/-- What a text is decoded to is of such a kind. -/
theorem Holds.decodeText? (hV : Holds V) {t : Text} {v : Value} (h : Transform.decodeText? t = some v) :
    V v := by
  unfold Transform.decodeText? at h
  split at h
  · next inner hinner =>
    cases h
    split
    · cases hread : Json.read? inner with
      | none => exact hV.text inner
      | some w => exact hV.read? hread
    · exact hV.text inner
  · exact hV.read? h

/-- Data is such a kind of values. -/
theorem holds_isJson : Holds Value.IsJson where
  atom h := .scalar (isJson_atom h)
  text _ := .scalar trivial
  list h := .list h
  map h := .map (fun e he => (h e he).1) fun e he => (h e he).2

/-- What is read from a text is data. -/
theorem isJson_read {t : Text} {v : Value} (h : read t = .ok v) : v.IsJson := holds_isJson.read h

end Json

end PageQuery
