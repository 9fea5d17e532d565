import PageQuery.Proofs.Execution.Confined
import PageQuery.Proofs.Number.Digits
import PageQuery.Proofs.Transform.Filters
import PageQuery.Proofs.Value.Writable

namespace PageQuery

/-!
# Which transforms abort a pipeline

Whatever goes wrong in a stage is reported, and the value stays as it is or becomes null. What is not caught are
patterns that are refused for a reason other than being none, and references to groups by numbers that cannot be
read.

* `Transform.Aborts`: a transform of a value where something is not caught;
* `Transform.Uninterrupted`: transforms in a row, none of which aborts;
* `Transform.settles_transformed`: how transforms in a row end;
* `Transform.settles_applyUpdate`, `Transform.isWritable_applyFilter`, `Transform.settles_applyIndex`: updates,
  filters and indices always go well;
* `Transform.exists_applyPipeline_iff`: a pipeline gives a value if none of its transforms aborts.
-/

open Run

/-- A value that has a text. -/
theorem Run.settles_text {v : Value} {t : Text} (ht : v.render = .ok t) {E : Fault → Prop} :
    Settles (Run.text v) (· = t) E := by
  refine settles_of ?_
  rw [ht]
  rfl

namespace Transform

/-- The name of a transform: what stands before the colon. -/
def nameOf (spec : Text) : Text := (Text.cut ':' (Text.trim spec)).1

/-- What a transform is given: what stands after the colon. -/
def argumentOf (spec : Text) : Text := (Text.cut ':' (Text.trim spec)).2.getD []

/-! ### What is not caught -/

/-- A pattern is refused for a reason other than being none. -/
def RefusesPattern (pattern : Text) : Prop :=
  ∃ r, Regexp.compile { multiline := true } pattern = .error r ∧ ∀ e place, r ≠ .wrong e place

/-- A replacement has a reference to a group by a number that has too many digits to be read. -/
def HasOverlongReference (replacement : Text) : Prop :=
  ∃ digits, Part.group digits ∈ partsOf replacement ∧ Numeral.maxDigits < digits.length

/-- What the body of a regular expression does to a text is not caught: its pattern is refused, or a match is
    replaced by a text with a reference that cannot be read. -/
def IsUncaught (body t : Text) : Prop :=
  ∃ pattern replacement, parseBody? body = some (pattern, replacement) ∧
    (RefusesPattern pattern ∨ ∃ c, Regexp.compile { multiline := true } pattern = .ok c ∧
      (c.pattern.search t).isSome = true ∧ HasOverlongReference replacement)

/-- A transform of a value that aborts the pipeline: a regular expression on a text where it is not caught. -/
def Aborts (spec : Text) (v : Value) : Prop :=
  v.isNull = false ∧ nameOf spec = "regexp" ∧ ∃ t, v.render = .ok t ∧ IsUncaught (argumentOf spec) t

section

variable {body t pattern replacement : Text}

/-- A body without a pattern is caught. -/
theorem not_isUncaught_of_none (hbody : parseBody? body = none) : ¬IsUncaught body t := by
  rintro ⟨pattern, replacement, hparsed, -⟩
  rw [hbody] at hparsed
  cases hparsed

theorem isUncaught_iff (hbody : parseBody? body = some (pattern, replacement)) :
    IsUncaught body t ↔ RefusesPattern pattern ∨
      ∃ c, Regexp.compile { multiline := true } pattern = .ok c ∧ (c.pattern.search t).isSome = true ∧
        HasOverlongReference replacement := by
  constructor
  · rintro ⟨pattern', replacement', hparsed, h⟩
    rw [hbody] at hparsed
    obtain ⟨rfl, rfl⟩ := Prod.mk.inj (Option.some.inj hparsed)
    exact h
  · exact fun h => ⟨pattern, replacement, hbody, h⟩

/-- A text that is no pattern is caught. -/
theorem not_isUncaught_of_wrong (hbody : parseBody? body = some (pattern, replacement))
    {e : Regexp.Complaint} {place : Option Nat}
    (hcompile : Regexp.compile { multiline := true } pattern = .error (.wrong e place)) :
    ¬IsUncaught body t := by
  rw [isUncaught_iff hbody, RefusesPattern, hcompile]
  rintro (⟨r, hr, hother⟩ | ⟨c, hc, -⟩)
  · exact hother e place (Except.error.inj hr).symm
  · cases hc

/-- With a pattern, it is the replacement that decides. -/
theorem isUncaught_iff_of_ok (hbody : parseBody? body = some (pattern, replacement)) {c : Regexp.Compiled}
    (hcompile : Regexp.compile { multiline := true } pattern = .ok c) :
    IsUncaught body t ↔ (c.pattern.search t).isSome = true ∧ HasOverlongReference replacement := by
  rw [isUncaught_iff hbody, RefusesPattern, hcompile]
  constructor
  · rintro (⟨r, hr, -⟩ | ⟨c', hc, h⟩)
    · cases hr
    · obtain rfl := Except.ok.inj hc
      exact h
  · exact fun h => .inr ⟨c, rfl, h⟩

end

/-! ### Replacements -/

/-- References have digits. -/
theorem isDigit_of_group_mem_partsFrom {t : Text} {skip : Nat} {digits : Text}
    (h : Part.group digits ∈ partsFrom skip t) : digits ≠ [] ∧ ∀ c ∈ digits, Text.isDigit c = true := by
  induction t generalizing skip with
  | nil => cases skip <;> cases h
  | cons c t ih =>
    cases skip with
    | succ skip => exact ih h
    | zero =>
      unfold partsFrom at h
      dsimp only at h
      split at h
      · next hdollar =>
        rcases List.mem_cons.1 h with heq | h
        · obtain rfl := Part.group.inj heq
          simp only [Bool.and_eq_true, Bool.not_eq_true', List.isEmpty_eq_false_iff] at hdollar
          exact ⟨hdollar.2, fun d hd => List.mem_takeWhile_imp hd⟩
        · exact ih h
      · rcases List.mem_cons.1 h with heq | h
        · cases heq
        · exact ih h

/-- A part of a replacement is read, unless it is a reference by too many digits. -/
theorem ends_step {replacement : Text} {p : Part} (hp : p ∈ partsOf replacement) :
    Ends (fun _ => ∀ digits, p = .group digits → digits.length ≤ Numeral.maxDigits)
      (fun _ => ∃ digits, p = .group digits ∧ Numeral.maxDigits < digits.length) p.step := by
  cases p with
  | plain c => exact nofun
  | group digits =>
    obtain ⟨hne, hdigits⟩ := isDigit_of_group_mem_partsFrom hp
    refine ends_bind (ends_mono (Numeral.ends_readInt hdigits hne) (fun _ h => h) ?_) ?_
    · exact fun _ hlong => ⟨digits, rfl, hlong⟩
    · rintro n hshort digits' heq
      obtain rfl := Part.group.inj heq
      exact hshort

/-- Matches are replaced, unless there are some and the replacement has a reference that cannot be read. -/
theorem ends_replaceAll (c : Regexp.Compiled) (replacement t : Text) :
    Ends (fun _ => ¬((c.pattern.search t).isSome = true ∧ HasOverlongReference replacement))
      (fun _ => (c.pattern.search t).isSome = true ∧ HasOverlongReference replacement)
      (replaceAll c replacement t) := by
  unfold replaceAll
  split
  · next hnone =>
    rintro ⟨hsome, -⟩
    rw [Option.isNone_iff_eq_none.1 hnone] at hsome
    cases hsome
  · next hsome =>
    have hsome : (c.pattern.search t).isSome = true := by simpa [← Option.isSome_iff_ne_none] using hsome
    refine ends_bind (ends_mono (ends_mapM fun p hp => ends_step hp) (fun _ h => h) ?_) ?_
    · rintro e ⟨_, hp, digits, rfl, hlong⟩
      exact ⟨hsome, digits, hp, hlong⟩
    · rintro steps hshort ⟨-, digits, hp, hlong⟩
      exact Nat.not_lt.2 (hshort _ hp digits rfl) hlong

/-! ### Transforms -/

/-- The first match in a text is a text, or there is none. -/
theorem isWritable_firstMatch (c : Regexp.Compiled) (t : Text) : (firstMatch c t).IsWritable := by
  unfold firstMatch
  split
  · exact Value.isWritable_text _
  · exact Value.isWritable_null

/-- A regular expression gives a value unless it is not caught. -/
theorem settles_applyRegexp {v : Value} (hv : v.IsWritable) (hnull : v.isNull = false) {t : Text}
    (ht : v.render = .ok t) (body : Text) :
    Settles (applyRegexp v body) (fun w => ¬IsUncaught body t ∧ w.IsWritable) fun _ => IsUncaught body t := by
  unfold applyRegexp
  rw [hnull, if_neg Bool.false_ne_true]
  split
  · next hbody => exact settles_note_then _ (settles_pure ⟨not_isUncaught_of_none hbody, hv⟩)
  · next pattern replacement hbody =>
    split
    · next hcompile => exact settles_note_then _ (settles_pure ⟨not_isUncaught_of_wrong hbody hcompile, hv⟩)
    · next r hother hcompile => exact settles_throw ((isUncaught_iff hbody).2 (.inl ⟨r, hcompile, hother⟩))
    · next c hcompile =>
      simp only [isUncaught_iff_of_ok hbody hcompile]
      refine settles_bind (settles_text ht) ?_
      rintro _ rfl
      split
      · next hempty =>
        refine settles_pure ⟨?_, isWritable_firstMatch c _⟩
        rintro ⟨-, digits, hdigits, -⟩
        rw [List.isEmpty_iff.1 hempty] at hdigits
        cases hdigits
      · refine settles_bind (settles_of (ends_mapError (ends_replaceAll c replacement _))) fun replaced h => ?_
        exact settles_pure ⟨h, Value.isWritable_text replaced⟩

section

variable {E : Fault → Prop}

theorem settles_decodeOrWarn (t : Text) : Settles (decodeOrWarn t) Value.IsWritable E := by
  unfold decodeOrWarn
  split
  · next v hv => exact settles_pure (Json.holds_isWritable.decodeText? hv)
  · split
    · exact settles_note_then _ (settles_pure (Value.isWritable_text t))
    · exact settles_pure (Value.isWritable_text t)

/-- Decoding always gives a value. -/
theorem settles_applyJson {v : Value} (hv : v.IsWritable) (name : Option Text) :
    Settles (applyJson v name) Value.IsWritable E := by
  obtain ⟨t, ht⟩ := Value.exists_render hv
  unfold applyJson
  split
  · exact settles_pure hv
  · exact settles_pure hv
  · exact settles_pure hv
  · refine settles_bind (settles_text ht) ?_
    rintro _ rfl
    split
    · exact settles_decodeOrWarn _
    · dsimp only
      split
      · exact settles_pure Value.isWritable_null
      · split
        · exact settles_pure (Value.isWritable_text _)
        · exact settles_decodeOrWarn _

/-- A script always gives a value, whether there is a sandbox and whether it complains. -/
theorem settles_applyScript {v : Value} (hv : v.IsWritable) (names : Option Text) {sandbox : Option Sandbox}
    (hbox : ∀ box, sandbox = some box → ∀ script names v,
      box.evaluate script names = .ok v → v.IsWritable) :
    Settles (applyScript v names sandbox) Value.IsWritable E := by
  obtain ⟨t, ht⟩ := Value.exists_render hv
  unfold applyScript
  split
  · exact settles_pure Value.isWritable_null
  · split
    · exact settles_note_then _ (settles_pure Value.isWritable_null)
    · next box =>
      refine settles_bind (settles_text ht) fun t _ => ?_
      dsimp only
      split
      · exact settles_pure Value.isWritable_null
      · refine settles_bind (settles_modify _) fun _ _ => ?_
        split
        · next w hw => exact settles_pure (hbox box rfl _ _ w hw)
        · exact settles_note_then _ (settles_pure Value.isWritable_null)

/-- A transform of text always gives a value. -/
theorem settles_textual? {name : Text} {f : Text → Run Value} (h : textual? name = some f) (t : Text) :
    Settles (f t) Value.IsWritable E := by
  rcases eq_of_textual? h with ⟨g, rfl⟩ | rfl
  · exact settles_pure (Value.isWritable_text _)
  · unfold decodeBase64
    split
    · exact settles_note_then _ (settles_pure Value.isWritable_null)
    · split
      · exact settles_note_then _ (settles_pure Value.isWritable_null)
      · exact settles_pure (Value.isWritable_text _)

end

/-- A context in which transforms have no functions, and of which the sandbox gives values that can be written. -/
structure Context.IsPlain (ctx : Context) (specs : List Text) : Prop where
  find? : ∀ spec ∈ specs, ctx.find? (Text.trim spec) (nameOf spec) = none
  sandbox : ∀ box, ctx.sandbox = some box → ∀ script names v,
    box.evaluate script names = .ok v → v.IsWritable

/-- Nothing but a regular expression aborts. -/
theorem not_aborts_of_name {spec : Text} (h : nameOf spec ≠ "regexp") (v : Value) : ¬Aborts spec v :=
  fun haborts => h haborts.2.1

/-- A regular expression aborts where it is not caught on the text of the value. -/
theorem aborts_iff {spec : Text} (hname : nameOf spec = "regexp") {v : Value} (hnull : v.isNull = false) {t : Text}
    (ht : v.render = .ok t) : Aborts spec v ↔ IsUncaught (argumentOf spec) t := by
  constructor
  · rintro ⟨-, -, t', ht', h⟩
    rw [ht] at ht'
    exact Except.ok.inj ht' ▸ h
  · exact fun h => ⟨hnull, hname, t, ht, h⟩

/-- A transform of one value gives a value unless it aborts. -/
theorem settles_applyTransform {ctx : Context} {specs : List Text} (hctx : ctx.IsPlain specs) {spec : Text}
    (hspec : spec ∈ specs) {v : Value} (hv : v.IsWritable) :
    Settles (applyTransform ctx v spec) (fun w => ¬Aborts spec v ∧ w.IsWritable) fun _ => ¬¬Aborts spec v := by
  obtain ⟨t, ht⟩ := Value.exists_render hv
  have hsafe : ∀ {r : Run Value}, ¬Aborts spec v → Settles r Value.IsWritable (fun _ => ¬¬Aborts spec v) →
      Settles r (fun w => ¬Aborts spec v ∧ w.IsWritable) fun _ => ¬¬Aborts spec v :=
    fun hnot hr => settles_mono hr (fun _ h => ⟨hnot, h⟩) fun _ h => h
  unfold applyTransform
  split
  · next hnull =>
    refine settles_pure ⟨fun h => ?_, Value.isWritable_null⟩
    rw [h.1] at hnull
    cases hnull
  · next hnull =>
    have hnull := Bool.eq_false_iff.2 hnull
    dsimp only
    split
    · next hname =>
      simp only [aborts_iff hname hnull ht]
      exact settles_mono (settles_applyRegexp hv hnull ht _) (fun _ h => h) fun _ => not_not.2
    · next hname =>
      refine hsafe (not_aborts_of_name hname v) ?_
      split
      · exact settles_applyJson hv _
      · split
        · exact settles_applyScript hv _ hctx.sandbox
        · split
          · next hf => exact settles_bind (settles_text ht) fun t _ => settles_textual? hf t
          · split
            · next hf =>
              have hnone := hctx.find? spec hspec
              rw [nameOf, hf] at hnone
              cases hnone
            · exact settles_note_then _ (settles_pure hv)

/-! ### Transforms in a row -/

/-- The values to which a transform is applied. -/
def itemsOf : Value → List Value
  | .list vs => vs
  | v => [v]

/-- A transform of a value, or of each item of a list. -/
def applyEach (ctx : Context) (v : Value) (spec : Text) : Run Value :=
  do return dropInvalid (← each (applyTransform ctx · spec) v)

/-- Transforms in a row, none of which aborts on what the ones before it have made of the value. -/
def Uninterrupted (ctx : Context) : List Text → Value → Prop
  | [], _ => True
  | spec :: specs, v =>
    (∀ u ∈ itemsOf v, ¬Aborts spec u) ∧
      ∀ w, (applyEach ctx v spec).outcome = .ok w → Uninterrupted ctx specs w

/-- Transforms that abort on no value are uninterrupted. -/
theorem uninterrupted_of_forall {ctx : Context} {specs : List Text} (h : ∀ spec ∈ specs, ∀ u, ¬Aborts spec u)
    (v : Value) : Uninterrupted ctx specs v := by
  induction specs generalizing v with
  | nil => trivial
  | cons spec specs ih =>
    obtain ⟨hfirst, hrest⟩ := List.forall_mem_cons.1 h
    exact ⟨fun u _ => hfirst u, fun w _ => ih hrest w⟩

theorem blind_applyEach (ctx : Context) (v : Value) (spec : Text) : Blind (applyEach ctx v spec) :=
  blind_bind (blind_each (fun u => blind_applyTransform ctx u spec) v) fun _ => blind_pure _

/-- What gives values of each item gives a list of them. -/
theorem settles_each {C : Value → Prop} {f : Value → Run Value}
    (hf : ∀ v : Value, v.IsWritable → Settles (f v) (fun w => C v ∧ w.IsWritable) fun _ => ¬C v) {v : Value}
    (hv : v.IsWritable) :
    Settles (each f v) (fun w => (∀ u ∈ itemsOf v, C u) ∧ w.IsWritable) fun _ => ¬∀ u ∈ itemsOf v, C u := by
  unfold each
  split
  · next vs =>
    have hvs := Value.isWritable_list_iff.1 hv
    refine settles_bind (settles_mapM fun u hu => hf u (hvs u hu)) fun ws hws => ?_
    exact settles_pure ⟨hws.1, Value.isWritable_list_iff.2 hws.2⟩
  · next hlist =>
    have hitems : itemsOf v = [v] := by
      cases v with
      | list vs => exact absurd rfl (hlist vs)
      | _ => rfl
    simp only [hitems, List.forall_mem_singleton]
    exact hf v hv

theorem isWritable_dropInvalid {v : Value} (hv : v.IsWritable) : (dropInvalid v).IsWritable := by
  unfold dropInvalid
  split
  · have hvs := Value.isWritable_list_iff.1 hv
    exact Value.isWritable_list_iff.2 fun u hu => hvs u (List.mem_filter.1 hu).1
  · exact hv

/-- Transforms in a row give a value unless one of them aborts. -/
theorem settles_transformed {ctx : Context} {specs : List Text} (hctx : ctx.IsPlain specs) {v : Value}
    (hv : v.IsWritable) :
    Settles (specs.foldlM (applyEach ctx) v) (fun w => Uninterrupted ctx specs v ∧ w.IsWritable)
      fun _ => ¬Uninterrupted ctx specs v := by
  induction specs generalizing v with
  | nil => exact settles_pure ⟨trivial, hv⟩
  | cons spec specs ih =>
    have hrest : ctx.IsPlain specs := ⟨fun s hs => hctx.find? s (List.mem_cons_of_mem _ hs), hctx.sandbox⟩
    have hfirst : Settles (applyEach ctx v spec) (fun w => (∀ u ∈ itemsOf v, ¬Aborts spec u) ∧ w.IsWritable)
        fun _ => ¬Uninterrupted ctx (spec :: specs) v := by
      have hall := settles_each (fun u hu => settles_applyTransform hctx List.mem_cons_self hu) hv
      refine settles_bind (settles_mono hall (fun _ h => h) fun _ h hunint => h hunint.1) fun w hw => ?_
      exact settles_pure ⟨hw.1, isWritable_dropInvalid hw.2⟩
    rw [List.foldlM_cons]
    refine settles_bind (settles_outcome (blind_applyEach ctx v spec) hfirst) ?_
    rintro w ⟨⟨hnone, hw⟩, houtcome⟩
    -- the first transform makes one value only, so the others are asked about that one
    refine settles_mono (ih hrest hw) (fun u hu => ⟨⟨hnone, fun w' hw' => ?_⟩, hu.2⟩) fun _ h hunint => ?_
    · rw [houtcome] at hw'
      exact Except.ok.inj hw' ▸ hu.1
    · exact h (hunint.2 w houtcome)

/-! ### Updates, filters and indices -/

section

variable {E : Fault → Prop}

/-- An update always gives a value. -/
theorem settles_applyUpdate {v : Value} (hv : v.IsWritable) (update : Text) :
    Settles (applyUpdate v update) Value.IsWritable E := by
  unfold applyUpdate
  split
  · next es =>
    split
    · exact settles_note_then _ (settles_pure hv)
    · next changes hread =>
      have hchanges := Value.isWritable_map_iff.1 (Json.holds_isWritable.read hread)
      have hoverlaid := Entries.forall_mem_overlay (K := fun key => ∃ t, key = .text t)
        (Value.isWritable_map_iff.1 hv) hchanges
      exact settles_pure (Value.isWritable_map_iff.2 hoverlaid)
    · exact settles_note_then _ (settles_pure hv)
  · exact settles_pure hv

variable {F : RenderError → Prop}

/-- A filter always gives a value. -/
theorem isWritable_applyFilter {v : Value} (hv : v.IsWritable) (spec : Text) :
    Ends Value.IsWritable F (applyFilter v spec) := by
  refine ends_mono (ends_applyFilter v spec) ?_ ?_
  · rintro w (rfl | rfl | ⟨vs, ws, rfl, rfl, hws⟩)
    · exact hv
    · exact Value.isWritable_null
    · exact Value.isWritable_list_iff.2 fun u hu => Value.isWritable_list_iff.1 hv u (hws.subset hu)
  · -- the value and its items have texts
    rintro e ⟨u, hu, he⟩
    have hwritable : u.IsWritable := by
      rcases hu with rfl | ⟨vs, rfl, hu⟩
      · exact hv
      · exact Value.isWritable_list_iff.1 hv u hu
    obtain ⟨t, ht⟩ := Value.exists_render hwritable
    cases he.symm.trans ht

theorem isWritable_itemAt? {items : List Value} (hitems : ∀ v ∈ items, v.IsWritable) (i : Int) :
    ((itemAt? items i).getD .null).IsWritable := by
  cases hitem : itemAt? items i with
  | none => exact Value.isWritable_null
  | some v =>
    unfold itemAt? at hitem
    extract_lets j at hitem
    split at hitem
    · cases hitem
    · exact hitems v (List.mem_of_getElem? hitem)

/-- An index always gives a value. -/
theorem settles_applyIndex {v : Value} (hv : v.IsWritable) (spec : Text) :
    Settles (applyIndex v spec) Value.IsWritable E := by
  unfold applyIndex
  split
  · exact settles_pure Value.isWritable_null
  · split
    · exact settles_note_then _ (settles_pure Value.isWritable_null)
    · split
      · exact settles_pure (isWritable_itemAt? (Value.isWritable_list_iff.1 hv) _)
      · split
        · exact settles_pure hv
        · exact settles_pure Value.isWritable_null

end

/-! ### The pipeline -/

/-- The stages before saving give a value unless a transform aborts. -/
theorem settles_applyStages {ctx : Context} {ts : Query.Transforms} (hctx : ctx.IsPlain ts.transform) {v : Value}
    (hv : v.IsWritable) :
    Settles (applyStages ctx ts v) (fun _ => Uninterrupted ctx ts.transform v)
      fun _ => ¬Uninterrupted ctx ts.transform v := by
  refine settles_bind (settles_transformed hctx hv) fun v hv => ?_
  refine settles_mono (P := Value.IsWritable) (E := fun _ => False) ?_ (fun _ _ => hv.1) fun _ => False.elim
  refine settles_bind (settles_foldlM (fun v hv spec _ => ?_) hv.2) fun v hv => ?_
  · have hupdate := settles_each (C := fun _ => True) (v := v)
      (fun u hu => settles_mono (settles_applyUpdate hu spec) (fun _ h => ⟨trivial, h⟩) fun _ => id) hv
    exact settles_mono hupdate (fun _ h => h.2) fun _ h => h fun _ _ => trivial
  refine settles_bind (settles_foldlM (fun v hv spec _ => ?_) hv) fun v hv => ?_
  · exact settles_of (ends_mapError (isWritable_applyFilter hv spec))
  exact settles_foldlM (fun v hv spec _ => settles_applyIndex hv spec) hv

end Transform

end PageQuery
