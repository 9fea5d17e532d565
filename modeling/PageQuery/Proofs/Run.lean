import PageQuery.Session
import PageQuery.Proofs.Except

namespace PageQuery.Run

/-!
# Laws of computations with a session

* `exec`: what a computation gives, and the session that it leaves;
* `Blind`: a computation of which the session decides nothing but the session that it leaves;
* `Ensures`: a computation of which every value has a property;
* `Settles`: a computation of which every value has one property and every fault another;
* `Confined`, `AllowsCalls`: a blind computation that asks the sandbox for certain things only, and whether
  calls are among them.

Blindness, postconditions and confinement hold of a computation if they hold of its parts.
-/

variable {α β : Type}

/-- What a computation gives, and the session that it leaves. -/
def exec (r : Run α) (s : Session) : Except Fault α × Session := StateT.run r.run s

/-! ### Execution of the parts -/

/-- A computation goes on with what the one before it gives, in the session that it leaves. -/
theorem exec_bind (r : Run α) (k : α → Run β) (s : Session) :
    (r >>= k).exec s =
      match r.exec s with
      | (.ok a, s') => (k a).exec s'
      | (.error f, s') => (.error f, s') := by
  have hbind : (r >>= k).exec s = StateT.run (ExceptT.bindCont k (r.exec s).1) (r.exec s).2 := rfl
  rw [hbind]
  rcases r.exec s with ⟨f | a, s'⟩ <;> rfl

/-- What two computations in a row give. -/
theorem exec_bind_fst (r : Run α) (k : α → Run β) (s : Session) :
    ((r >>= k).exec s).1 = (r.exec s).1 >>= fun a => ((k a).exec (r.exec s).2).1 := by
  rw [exec_bind]
  rcases r.exec s with ⟨f | a, s'⟩ <;> rfl

/-- An attempt gives how a computation ends, and leaves the session that it leaves. -/
theorem exec_attempt (r : Run α) (s : Session) : r.attempt.exec s = (.ok (r.exec s).1, (r.exec s).2) := by
  have hattempt : r.attempt.exec s = StateT.run (Except.ok <$> r.run) s := rfl
  rw [hattempt, StateT.run_map]
  rfl

/-! ### Computations that do not look at the session -/

/-- The session decides nothing of what a computation gives. -/
def Blind (r : Run α) : Prop := ∀ s s', (r.exec s).1 = (r.exec s').1

theorem blind_pure (a : α) : Blind (pure a) := fun _ _ => rfl

theorem blind_throw (f : Fault) : Blind (throw f : Run α) := fun _ _ => rfl

theorem blind_of (r : Except Fault α) : Blind (Run.of r) := fun _ _ => rfl

theorem blind_modify (g : Session → Session) : Blind (modify g : Run Unit) := fun _ _ => rfl

theorem blind_note (n : Notice) : Blind (Run.note n) := fun _ _ => rfl

theorem blind_bind {r : Run α} {k : α → Run β} (hr : Blind r) (hk : ∀ a, Blind (k a)) :
    Blind (r >>= k) := by
  intro s s'
  -- the second computation starts in two sessions, but from one value
  rw [exec_bind_fst, exec_bind_fst, hr s s']
  cases (r.exec s').1 with
  | error f => rfl
  | ok a => exact hk a _ _

theorem blind_mapM {f : α → Run β} {as : List α} (hf : ∀ a ∈ as, Blind (f a)) : Blind (as.mapM f) := by
  induction as with
  | nil => exact blind_pure _
  | cons a as ih =>
    rw [List.mapM_cons]
    refine blind_bind (hf a List.mem_cons_self) fun b => ?_
    refine blind_bind (ih fun a' ha' => hf a' (List.mem_cons_of_mem _ ha')) fun bs => ?_
    exact blind_pure _

/-- What a computation gives in an empty session, and, if it is blind, in every session. -/
def outcome (r : Run α) : Except Fault α := (r.exec {}).1

theorem Blind.exec_fst {r : Run α} (hr : Blind r) (s : Session) : (r.exec s).1 = r.outcome := hr s {}

/-- What two computations in a row give, of which the second is blind. -/
theorem outcome_bind (r : Run α) {k : α → Run β} (hk : ∀ a, Blind (k a)) :
    (r >>= k).outcome = r.outcome >>= fun a => (k a).outcome := by
  rw [outcome, exec_bind_fst]
  exact bind_congr_ok fun a _ => (hk a).exec_fst _

/-- What a row of blind computations gives. -/
theorem outcome_mapM {f : α → Run β} {as : List α} (hf : ∀ a ∈ as, Blind (f a)) :
    (as.mapM f).outcome = as.mapM fun a => (f a).outcome := by
  induction as with
  | nil => rfl
  | cons a as ih =>
    have has : ∀ a' ∈ as, Blind (f a') := fun a' ha' => hf a' (List.mem_cons_of_mem _ ha')
    have hrest : ∀ b, Blind (do return b :: (← as.mapM f)) := fun b =>
      blind_bind (blind_mapM has) fun _ => blind_pure _
    rw [List.mapM_cons, List.mapM_cons, outcome_bind _ hrest, ← ih has]
    exact bind_congr_ok fun b _ => outcome_bind _ fun _ => blind_pure _

/-- A row of blind computations gives values if each of them does. -/
theorem exists_outcome_mapM_iff {f : α → Run β} {as : List α} (hf : ∀ a ∈ as, Blind (f a)) :
    (∃ bs, (as.mapM f).outcome = .ok bs) ↔ ∀ a ∈ as, ∃ b, (f a).outcome = .ok b := by
  rw [outcome_mapM hf]
  exact exists_mapM_eq_ok_iff

/-! ### What all values of a computation have in common -/

/-- Every value that a computation gives has a property. -/
def Ensures (r : Run α) (P : α → Prop) : Prop := ∀ s a, (r.exec s).1 = .ok a → P a

variable {P Q : α → Prop} {R : β → Prop}

theorem ensures_pure {a : α} (h : P a) : Ensures (pure a) P := by
  intro s b hb
  exact Except.ok.inj hb ▸ h

theorem ensures_throw (f : Fault) : Ensures (throw f : Run α) P := by
  intro s a h
  cases h

theorem ensures_of {r : Except Fault α} (h : ∀ a, r = .ok a → P a) : Ensures (Run.of r) P :=
  fun _ a ha => h a ha

theorem ensures_trivial (r : Run α) : Ensures r fun _ => True := fun _ _ _ => trivial

theorem ensures_mono {r : Run α} (hr : Ensures r P) (h : ∀ a, P a → Q a) : Ensures r Q :=
  fun s a ha => h a (hr s a ha)

theorem ensures_bind {r : Run α} {k : α → Run β} (hr : Ensures r P)
    (hk : ∀ a, P a → Ensures (k a) R) : Ensures (r >>= k) R := by
  intro s b hb
  rw [exec_bind_fst] at hb
  obtain ⟨a, ha, hb⟩ := bind_eq_ok_iff.1 hb
  exact hk a (hr s a ha) _ b hb

/-- Whatever the first of two computations gives, the values are those of the second. -/
theorem ensures_after (r : Run α) {k : α → Run β} (hk : ∀ a, Ensures (k a) R) : Ensures (r >>= k) R :=
  ensures_bind (ensures_trivial r) fun a _ => hk a

theorem ensures_mapM {f : α → Run β} {as : List α} (hf : ∀ a ∈ as, Ensures (f a) R) :
    Ensures (as.mapM f) fun bs => ∀ b ∈ bs, R b := by
  induction as with
  | nil => exact ensures_pure (by simp)
  | cons a as ih =>
    rw [List.mapM_cons]
    refine ensures_bind (hf a List.mem_cons_self) fun b hb => ?_
    refine ensures_bind (ih fun a' ha' => hf a' (List.mem_cons_of_mem _ ha')) fun bs hbs => ?_
    exact ensures_pure (List.forall_mem_cons.2 ⟨hb, hbs⟩)

theorem ensures_foldlM {f : β → α → Run β} {as : List α}
    (hf : ∀ b, R b → ∀ a ∈ as, Ensures (f b a) R) {b : β} (hb : R b) : Ensures (as.foldlM f b) R := by
  induction as generalizing b with
  | nil => exact ensures_pure hb
  | cons a as ih =>
    rw [List.foldlM_cons]
    refine ensures_bind (hf b hb a List.mem_cons_self) fun b' hb' => ?_
    exact ih (fun b hb a' ha' => hf b hb a' (List.mem_cons_of_mem _ ha')) hb'

/-- The session does not decide what the first of two computations gives. -/
theorem ensures_bind_outcome {r : Run α} {k : α → Run β} (hr : Blind r)
    (hk : ∀ a, r.outcome = .ok a → Ensures (k a) R) : Ensures (r >>= k) R :=
  ensures_bind (fun s _ ha => hr.exec_fst s ▸ ha) hk

/-! ### How computations end -/

/-- In every session a computation gives a value of one kind, or ends in a fault of another. -/
def Settles (r : Run α) (P : α → Prop) (E : Fault → Prop) : Prop := ∀ s, Ends P E (r.exec s).1

variable {E E' : Fault → Prop}

theorem settles_pure {a : α} (h : P a) : Settles (pure a) P E := fun _ => h

theorem settles_throw {f : Fault} (h : E f) : Settles (throw f : Run α) P E := fun _ => h

theorem settles_of {r : Except Fault α} (h : Ends P E r) : Settles (Run.of r) P E := fun _ => h

theorem settles_modify (g : Session → Session) : Settles (modify g : Run Unit) (fun _ => True) E :=
  fun _ => trivial

theorem settles_note (n : Notice) : Settles (Run.note n) (fun _ => True) E := settles_modify _

theorem settles_mono {r : Run α} (hr : Settles r P E) (hP : ∀ a, P a → Q a) (hE : ∀ f, E f → E' f) :
    Settles r Q E' := fun s => ends_mono (hr s) hP hE

theorem settles_bind {r : Run α} {k : α → Run β} (hr : Settles r P E) (hk : ∀ a, P a → Settles (k a) R E) :
    Settles (r >>= k) R E := by
  intro s
  rw [exec_bind_fst]
  exact ends_bind (hr s) fun a ha => hk a ha _

/-- A remark does not decide how a computation ends. -/
theorem settles_note_then (n : Notice) {r : Run α} (hr : Settles r P E) :
    Settles (do Run.note n; r) P E := settles_bind (settles_note n) fun _ _ => hr

/-- The value of a blind computation is known. -/
theorem settles_outcome {r : Run α} (hblind : Blind r) (hr : Settles r P E) :
    Settles r (fun a => P a ∧ r.outcome = .ok a) E := by
  intro s
  have hends := hr s
  rw [hblind.exec_fst] at hends ⊢
  cases hr' : r.outcome with
  | ok a =>
    rw [hr'] at hends
    exact ⟨hends, rfl⟩
  | error f =>
    rw [hr'] at hends
    exact hends

/-- Of a row of computations, each of which gives a value where something holds, all give values where it holds
    of all. -/
theorem settles_mapM {C : α → Prop} {f : α → Run β} {as : List α}
    (hf : ∀ a ∈ as, Settles (f a) (fun b => C a ∧ R b) fun _ => ¬C a) :
    Settles (as.mapM f) (fun bs => (∀ a ∈ as, C a) ∧ ∀ b ∈ bs, R b) fun _ => ¬∀ a ∈ as, C a := by
  induction as with
  | nil => exact settles_pure ⟨nofun, nofun⟩
  | cons a as ih =>
    obtain ⟨ha, has⟩ := List.forall_mem_cons.1 hf
    rw [List.mapM_cons]
    have hfirst : ¬C a → ¬∀ a' ∈ a :: as, C a' := mt fun h => h a List.mem_cons_self
    have hrest : (¬∀ a' ∈ as, C a') → ¬∀ a' ∈ a :: as, C a' := mt fun h => (List.forall_mem_cons.1 h).2
    refine settles_bind (settles_mono ha (fun _ h => h) fun _ => hfirst) fun b hb => ?_
    refine settles_bind (settles_mono (ih has) (fun _ h => h) fun _ => hrest) fun bs hbs => settles_pure ?_
    exact ⟨List.forall_mem_cons.2 ⟨hb.1, hbs.1⟩, List.forall_mem_cons.2 ⟨hb.2, hbs.2⟩⟩

/-- A fold of computations that keep a property, and end in no fault where it holds. -/
theorem settles_foldlM {f : β → α → Run β} {as : List α}
    (hf : ∀ b, R b → ∀ a ∈ as, Settles (f b a) R E) {b : β} (hb : R b) : Settles (as.foldlM f b) R E := by
  induction as generalizing b with
  | nil => exact settles_pure hb
  | cons a as ih =>
    rw [List.foldlM_cons]
    refine settles_bind (hf b hb a List.mem_cons_self) fun b' hb' => ?_
    exact ih (fun b hb a' ha' => hf b hb a' (List.mem_cons_of_mem _ ha')) hb'

/-! ### What computations ask of the sandbox -/

/-- The session decides nothing of what a computation gives, and of the events that the computation adds
    to it each has a property. -/
structure Confined (A : Event → Prop) (r : Run α) : Prop where
  blind : Blind r
  adds : ∀ s, ∃ es, (r.exec s).2.events = s.events ++ es ∧ ∀ e ∈ es, A e

/-- Every call of the sandbox has a property. -/
def AllowsCalls (A : Event → Prop) : Prop := ∀ script names, A (.call script names)

variable {A : Event → Prop}

theorem confined_pure (a : α) : Confined A (pure a) :=
  ⟨blind_pure a, fun s => ⟨[], (List.append_nil s.events).symm, nofun⟩⟩

theorem confined_throw (f : Fault) : Confined A (throw f : Run α) :=
  ⟨blind_throw f, fun s => ⟨[], (List.append_nil s.events).symm, nofun⟩⟩

theorem confined_of (r : Except Fault α) : Confined A (Run.of r) :=
  ⟨blind_of r, fun s => ⟨[], (List.append_nil s.events).symm, nofun⟩⟩

/-- A change of the session that leaves the events as they are. -/
theorem confined_modify {g : Session → Session} (hg : ∀ s, (g s).events = s.events) :
    Confined A (modify g : Run Unit) :=
  ⟨blind_modify g, fun s => ⟨[], (hg s).trans (List.append_nil s.events).symm, nofun⟩⟩

theorem confined_note (n : Notice) : Confined A (Run.note n) := confined_modify fun _ => rfl

/-- An event that is allowed. -/
theorem confined_record {e : Event} (he : A e) : Confined A (modify (·.record e) : Run Unit) :=
  ⟨blind_modify _, fun _ => ⟨[e], rfl, List.forall_mem_singleton.2 he⟩⟩

/-- A computation goes on with what the one before it gives, of which something is known. -/
theorem confined_bind_of {r : Run α} {k : α → Run β} (hr : Confined A r) (hP : Ensures r P)
    (hk : ∀ a, P a → Confined A (k a)) : Confined A (r >>= k) := by
  constructor
  · intro s s'
    rw [exec_bind_fst, exec_bind_fst, hr.blind s s']
    exact bind_congr_ok fun a ha => (hk a (hP s' a ha)).blind _ _
  · intro s
    obtain ⟨es, hes, hA⟩ := hr.adds s
    rw [exec_bind]
    split
    · next a s' hexec =>
      rw [hexec] at hes
      obtain ⟨es', hes', hA'⟩ := (hk a (hP s a (congrArg Prod.fst hexec))).adds s'
      refine ⟨es ++ es', ?_, List.forall_mem_append.2 ⟨hA, hA'⟩⟩
      rw [hes', hes, List.append_assoc]
    · next f s' hexec =>
      rw [hexec] at hes
      exact ⟨es, hes, hA⟩

theorem confined_bind {r : Run α} {k : α → Run β} (hr : Confined A r) (hk : ∀ a, Confined A (k a)) :
    Confined A (r >>= k) := confined_bind_of hr (ensures_trivial r) fun a _ => hk a

theorem confined_map {r : Run α} (g : α → β) (hr : Confined A r) : Confined A (g <$> r) := by
  rw [map_eq_pure_bind]
  exact confined_bind hr fun a => confined_pure (g a)

theorem confined_mapM {f : α → Run β} {as : List α} (hf : ∀ a ∈ as, Confined A (f a)) :
    Confined A (as.mapM f) := by
  induction as with
  | nil => exact confined_pure _
  | cons a as ih =>
    rw [List.mapM_cons]
    refine confined_bind (hf a List.mem_cons_self) fun b => ?_
    refine confined_bind (ih fun a' ha' => hf a' (List.mem_cons_of_mem _ ha')) fun bs => ?_
    exact confined_pure _

theorem confined_foldlM {f : β → α → Run β} {as : List α} (hf : ∀ b, ∀ a ∈ as, Confined A (f b a))
    (b : β) : Confined A (as.foldlM f b) := by
  induction as generalizing b with
  | nil => exact confined_pure _
  | cons a as ih =>
    rw [List.foldlM_cons]
    refine confined_bind (hf b a List.mem_cons_self) fun b' => ?_
    exact ih (fun b a' ha' => hf b a' (List.mem_cons_of_mem _ ha')) b'

theorem confined_forM {f : α → Run PUnit} {as : List α} (hf : ∀ a ∈ as, Confined A (f a)) :
    Confined A (as.forM f) := by
  induction as with
  | nil => exact confined_pure _
  | cons a as ih =>
    exact confined_bind (hf a List.mem_cons_self) fun _ =>
      ih fun a' ha' => hf a' (List.mem_cons_of_mem _ ha')

end PageQuery.Run
