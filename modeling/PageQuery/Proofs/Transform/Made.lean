import PageQuery.Proofs.Environment
import PageQuery.Proofs.Run
import PageQuery.Proofs.Transform.Filters
import PageQuery.Proofs.Value.Made
import PageQuery.Transform.Pipeline
import PageQuery.Transform.Textual

namespace PageQuery

/-!
# The pipeline keeps kinds of scalars

* `Transform.Context.Makes`: registered functions and the sandbox bring in no scalars of other kinds;
* `Transform.ensures_applyStages`: nor do transforms, updates, filters and indices;
* `Value.MarkedOutside`: a value that saving may mark;
* `Transform.markedOutside_saveAndKeep`, `Transform.madeOf_saveAndKeep`: what saving makes of a value,
  and what it leaves in the environment.
-/

open Run

variable {P : Scalar → Prop}

/-- A value made of scalars of a kind that may be marked as discarded, as a whole, but not inside. -/
inductive Value.MarkedOutside (P : Scalar → Prop) : Value → Prop where
  | unmarked {v : Value} (h : v.MadeOf P) : MarkedOutside P v
  | discarded {v : Value} (h : v.MadeOf P) : MarkedOutside P (.discarded v)

namespace Transform

/-- The functions of a context turn values made of scalars of a kind into such values, and its sandbox gives no
    others. -/
structure Context.Makes (P : Scalar → Prop) (ctx : Context) : Prop where
  functions : ∀ scope ∈ ctx.scopes, ∀ table ∈ scope, ∀ entry ∈ table, ∀ v w : Value,
    v.MadeOf P → entry.2 v = .ok w → w.MadeOf P
  sandbox : ∀ box, ctx.sandbox = some box → ∀ script names v,
    box.evaluate script names = .ok v → v.MadeOf P

variable {ctx : Context}

/-! ### Transforms -/

theorem ensures_null (hP : Scalar.Ample P) : Ensures (pure .null) (Value.MadeOf P) :=
  ensures_pure (Value.madeOf_null hP)

theorem ensures_text (hP : Scalar.Ample P) (t : Text) : Ensures (pure (.text t)) (Value.MadeOf P) :=
  ensures_pure (Value.madeOf_text hP t)

/-- A regular expression gives texts, nothing, or the value itself. -/
theorem ensures_applyRegexp (hP : Scalar.Ample P) {v : Value} (hv : v.MadeOf P) (body : Text) :
    Ensures (applyRegexp v body) (Value.MadeOf P) := by
  unfold applyRegexp
  split
  · exact ensures_null hP
  · split
    · exact ensures_after _ fun _ => ensures_pure hv
    · split
      · exact ensures_after _ fun _ => ensures_pure hv
      · exact ensures_throw _
      · refine ensures_after _ fun t => ?_
        split
        · refine ensures_pure ?_
          unfold firstMatch
          split
          · exact Value.madeOf_text hP _
          · exact Value.madeOf_null hP
        · exact ensures_after _ fun _ => ensures_text hP _

/-- Decoding gives what JSON text stands for, or the text. -/
theorem ensures_decodeOrWarn (hP : Scalar.Ample P) (t : Text) : Ensures (decodeOrWarn t) (Value.MadeOf P) := by
  unfold decodeOrWarn
  split
  · next v hv => exact ensures_pure ((Json.holds_madeOf hP).decodeText? hv)
  · split
    · exact ensures_after _ fun _ => ensures_text hP _
    · exact ensures_text hP _

theorem ensures_applyJson (hP : Scalar.Ample P) {v : Value} (hv : v.MadeOf P) (name : Option Text) :
    Ensures (applyJson v name) (Value.MadeOf P) := by
  unfold applyJson
  split
  · exact ensures_null hP
  · exact ensures_pure hv
  · exact ensures_pure hv
  · refine ensures_after _ fun t => ?_
    split
    · exact ensures_decodeOrWarn hP _
    · dsimp only
      split
      · exact ensures_null hP
      · split
        · exact ensures_text hP _
        · exact ensures_decodeOrWarn hP _

/-- A script gives what the sandbox gives, or nothing. -/
theorem ensures_applyScript (hP : Scalar.Ample P) {sandbox : Option Sandbox}
    (hbox : ∀ box, sandbox = some box → ∀ script names v,
      box.evaluate script names = .ok v → v.MadeOf P) (v : Value) (names : Option Text) :
    Ensures (applyScript v names sandbox) (Value.MadeOf P) := by
  unfold applyScript
  split
  · exact ensures_null hP
  · split
    · exact ensures_after _ fun _ => ensures_null hP
    · next box =>
      refine ensures_after _ fun t => ?_
      dsimp only
      split
      · exact ensures_null hP
      · refine ensures_after _ fun _ => ?_
        split
        · next v hv => exact ensures_pure (hbox box rfl _ _ v hv)
        · exact ensures_after _ fun _ => ensures_null hP

/-- Transforms of text give texts, or nothing. -/
theorem ensures_textual? (hP : Scalar.Ample P) {name : Text} {f : Text → Run Value} (h : textual? name = some f)
    (t : Text) :
    Ensures (f t) (Value.MadeOf P) := by
  rcases eq_of_textual? h with ⟨g, rfl⟩ | rfl
  · exact ensures_text hP _
  · unfold decodeBase64
    split
    · exact ensures_after _ fun _ => ensures_null hP
    · split
      · exact ensures_after _ fun _ => ensures_null hP
      · exact ensures_text hP _

/-- The function of a spec is one of the context. -/
theorem Context.Makes.find? (hctx : ctx.Makes P) {spec name : Text} {f : Function}
    (h : ctx.find? spec name = some f) {v w : Value} (hv : v.MadeOf P) (hw : f v = .ok w) :
    w.MadeOf P := by
  obtain ⟨scope, hscope, hf⟩ := List.exists_of_findSome?_eq_some h
  -- the whole spec and its name are looked up in the same tables
  have htable : ∀ name, scope.find? name = some f → w.MadeOf P := by
    intro name hname
    obtain ⟨table, htable, hentry⟩ := List.exists_of_findSome?_eq_some hname
    obtain ⟨l₁, l₂, rfl, -⟩ := List.lookup_eq_some_iff.1 hentry
    exact hctx.functions scope hscope _ htable _ (List.mem_append_right _ List.mem_cons_self) v w hv hw
  rcases Option.or_eq_some_iff.1 hf with hspec | ⟨-, hname⟩
  · exact htable spec hspec
  · exact htable name hname

/-- One transform of one value. -/
theorem ensures_applyTransform (hP : Scalar.Ample P) (hctx : ctx.Makes P) {v : Value} (hv : v.MadeOf P) (spec : Text) :
    Ensures (applyTransform ctx v spec) (Value.MadeOf P) := by
  unfold applyTransform
  split
  · exact ensures_null hP
  · dsimp only
    split
    · exact ensures_applyRegexp hP hv _
    · split
      · exact ensures_applyJson hP hv _
      · split
        · exact ensures_applyScript hP hctx.sandbox v _
        · split
          · next h => exact ensures_after _ fun t => ensures_textual? hP h t
          · split
            · next f hf => exact ensures_of fun w hw => hctx.find? hf hv hw
            · exact ensures_after _ fun _ => ensures_pure hv

/-! ### Updates, filters and indices -/

theorem ensures_applyUpdate (hP : Scalar.Ample P) {v : Value} (hv : v.MadeOf P) (update : Text) :
    Ensures (applyUpdate v update) (Value.MadeOf P) := by
  unfold applyUpdate
  split
  · next es =>
    split
    · exact ensures_after _ fun _ => ensures_pure hv
    · next changes hread =>
      have hchanges := Value.madeOf_map_iff.1 ((Json.holds_madeOf hP).read hread)
      exact ensures_pure (Value.madeOf_map_iff.2 (Entries.forall_mem_overlay (Value.madeOf_map_iff.1 hv) hchanges))
    · exact ensures_after _ fun _ => ensures_pure hv
  · exact ensures_pure hv

theorem madeOf_applyFilter (hP : Scalar.Ample P) {v w : Value} (hv : v.MadeOf P) {spec : Text}
    (h : applyFilter v spec = .ok w) : w.MadeOf P := by
  have hends := ends_applyFilter v spec
  rw [h] at hends
  rcases hends with rfl | rfl | ⟨vs, ws, rfl, rfl, hws⟩
  · exact hv
  · exact Value.madeOf_null hP
  · exact .list fun u hu => Value.madeOf_list_iff.1 hv u (hws.subset hu)

theorem ensures_applyIndex (hP : Scalar.Ample P) {v : Value} (hv : v.MadeOf P) (spec : Text) :
    Ensures (applyIndex v spec) (Value.MadeOf P) := by
  unfold applyIndex
  split
  · exact ensures_null hP
  · split
    · exact ensures_after _ fun _ => ensures_null hP
    · split
      · refine ensures_pure (Value.madeOf_getD hP fun w hw => ?_)
        unfold itemAt? at hw
        extract_lets j at hw
        split at hw
        · cases hw
        · exact Value.madeOf_list_iff.1 hv w (List.mem_of_getElem? hw)
      · split
        · exact ensures_pure hv
        · exact ensures_null hP

/-! ### The pipeline -/

/-- What keeps a kind of scalars keeps it in each item of a list. -/
theorem ensures_each {f : Value → Run Value}
    (hf : ∀ v : Value, v.MadeOf P → Ensures (f v) (Value.MadeOf P)) {v : Value}
    (hv : v.MadeOf P) : Ensures (each f v) (Value.MadeOf P) := by
  unfold each
  split
  · next vs =>
    have hvs := Value.madeOf_list_iff.1 hv
    exact ensures_bind (ensures_mapM fun w hw => hf w (hvs w hw)) fun ws hws => ensures_pure (.list hws)
  · exact hf v hv

/-- The stages before saving keep a kind of scalars. -/
theorem ensures_applyStages (hP : Scalar.Ample P) (hctx : ctx.Makes P) (ts : Query.Transforms) {v : Value}
    (hv : v.MadeOf P) : Ensures (applyStages ctx ts v) (Value.MadeOf P) := by
  -- transforms, updates, filters and indices are folds, each of whose steps keeps the kind
  refine ensures_bind (ensures_foldlM (fun v hv spec _ => ?_) hv) fun v hv => ?_
  · refine ensures_bind (ensures_each (fun v hv => ensures_applyTransform hP hctx hv spec) hv) fun w hw => ?_
    refine ensures_pure ?_
    unfold dropInvalid
    split
    · exact .list fun u hu => Value.madeOf_list_iff.1 hw u (List.mem_filter.1 hu).1
    · exact hw
  refine ensures_bind (ensures_foldlM (fun v hv spec _ => ?_) hv) fun v hv => ?_
  · exact ensures_each (fun v hv => ensures_applyUpdate hP hv spec) hv
  refine ensures_bind (ensures_foldlM (fun v hv spec _ => ?_) hv) fun v hv => ?_
  · exact ensures_of fun w hw => madeOf_applyFilter hP hv (mapError_eq_ok_iff.1 hw)
  exact ensures_foldlM (fun v hv spec _ => ensures_applyIndex hP hv spec) hv

/-- Saving marks a value at the outside at most. -/
theorem markedOutside_saveAndKeep (ts : Query.Transforms) (env : Environment) {v : Value}
    (hv : v.MadeOf P) : (saveAndKeep ts env v).1.MarkedOutside P := by
  unfold saveAndKeep
  split
  · exact .unmarked hv
  · dsimp only
    split
    · exact .discarded hv
    · exact .unmarked hv

/-- Saving leaves the value without a mark in the environment. -/
theorem madeOf_saveAndKeep (ts : Query.Transforms) {env : Environment}
    (henv : ∀ p ∈ env, p.2.MadeOf P) {v : Value} (hv : v.MadeOf P) :
    ∀ p ∈ (saveAndKeep ts env v).2, p.2.MadeOf P := by
  have hsaved : ∀ names : List Text, ∀ p ∈ names.foldl (fun env name => Ordered.put name v env) env,
      p.2.MadeOf P := by
    intro names
    induction names generalizing env with
    | nil => exact henv
    | cons name names ih => exact ih (Ordered.forall_mem_put henv hv)
  unfold saveAndKeep
  split
  · exact henv
  · dsimp only
    split <;> exact hsaved _

end Transform

end PageQuery
