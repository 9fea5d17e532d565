import PageQuery.Proofs.Bytes.Base64
import PageQuery.Proofs.Bytes.Utf8
import PageQuery.Proofs.Transform.Recovery

namespace PageQuery.Transform

/-!
# Transforms of text that undo each other

* `decodeBase64_encode`: the code of a text is decoded to the text;
* `isValid_text_encode`: the code of a text that is not empty may be part of a result;
* `applyEach_row`: a transform of the texts in a list, of which none is dropped;
* `applyPipeline_pair`: two transforms in a row;
* `inverse_transforms`: what is coded and decoded, or reversed twice, is as it was.
-/

variable (ctx : Context) (t : Text)

/-! ### The transforms -/

theorem applyTransform_base64 :
    applyTransform ctx (.text t) "base64" = pure (.text (Base64.encode (Utf8.encode t))) := rfl

theorem applyTransform_base64decode : applyTransform ctx (.text t) "base64decode" = decodeBase64 t := rfl

theorem applyTransform_reverse : applyTransform ctx (.text t) "reverse" = pure (.text t.reverse) := rfl

/-- The code of a text is decoded to the text. -/
theorem decodeBase64_encode : decodeBase64 (Base64.encode (Utf8.encode t)) = pure (.text t) := by
  rw [decodeBase64, Base64.decode_encode]
  simp only [Utf8.decodeStrict_encode]

/-- No text has the word for null as its code: the bytes that this stands for are those of no text. -/
theorem encode_ne_null : Base64.encode (Utf8.encode t) ≠ "null" := by
  intro h
  have hbytes := Base64.decode_encode (Utf8.encode t)
  rw [h] at hbytes
  have htext := Utf8.decodeStrict_encode t
  rw [← Except.ok.inj hbytes] at htext
  cases htext

variable {t}

/-- The code of a text that is not empty may be part of a result. -/
theorem isValid_text_encode (ht : t ≠ []) : (Value.text (Base64.encode (Utf8.encode t))).isValid = true := by
  obtain ⟨n, rest, hn, hcode⟩ := Base64.exists_encode_cons (mt Utf8.encode_eq_nil_iff.1 ht)
  have hblank : Text.isBlank (Base64.encode (Utf8.encode t)) = false := by
    rw [hcode, Text.isBlank, List.all_cons, (Base64.encodeSextet_spec hn).2.2.1, Bool.false_and]
  show (_ != _ && !_) = true
  rw [hblank, bne_iff_ne.2 (encode_ne_null t)]
  rfl

/-- A text that may be part of a result is not empty. -/
theorem ne_nil_of_isValid (ht : (Value.text t).isValid = true) : t ≠ [] := by
  rintro rfl
  cases ht

/-! ### The stages -/

variable {ctx} {u w : Text} {spec : Text}

theorem applyEach_text (h : applyTransform ctx (.text t) spec = pure (.text u)) :
    applyEach ctx (.text t) spec = pure (.text u) := by
  show (applyTransform ctx (.text t) spec >>= fun v => pure (dropInvalid v)) = _
  rw [h, pure_bind]
  rfl

/-- A transform of the texts in a list, of which none is dropped. -/
theorem applyEach_row {ts : List Text} {f g : Text → Text}
    (h : ∀ t ∈ ts, applyTransform ctx (.text (f t)) spec = pure (.text (g t)))
    (hvalid : ∀ t ∈ ts, (Value.text (g t)).isValid = true) :
    applyEach ctx (.list (ts.map fun t => .text (f t))) spec = pure (.list (ts.map fun t => .text (g t))) := by
  have hrow : (ts.map fun t => Value.text (f t)).mapM (applyTransform ctx · spec) =
      pure (ts.map fun t => Value.text (g t)) := by
    clear hvalid
    induction ts with
    | nil => rfl
    | cons t ts ih =>
      obtain ⟨hfirst, hrest⟩ := List.forall_mem_cons.1 h
      simp only [List.map_cons, List.mapM_cons, hfirst, ih hrest, pure_bind]
  have hkept : (ts.map fun t => Value.text (g t)).filter Value.isValid = ts.map fun t => .text (g t) := by
    simpa [List.filter_eq_self] using hvalid
  rw [applyEach, each, hrow]
  simp only [pure_bind, dropInvalid, hkept]

/-- Two transforms in a row. -/
theorem applyPipeline_pair {first second : Text} {a b c : Value} (hfirst : applyEach ctx a first = pure b)
    (hsecond : applyEach ctx b second = pure c) (env : Environment) (s : Session) :
    (applyPipeline ctx { transform := [first, second] } env a).exec s = (.ok (c, env), s) := by
  have hstages : applyStages ctx { transform := [first, second] } a = pure c := by
    show ([first, second].foldlM (applyEach ctx) a >>= fun v => pure v) = _
    simp only [List.foldlM_cons, List.foldlM_nil, hfirst, hsecond, pure_bind]
  rw [applyPipeline, hstages, pure_bind, saveAndKeep]
  cases c.isNull <;> rfl

/-- What is coded and decoded, or reversed twice, is as it was: every text by itself, and every list of texts that may
    be part of a result, of which none is dropped on the way. -/
theorem inverse_transforms (ctx : Context) (env : Environment) (s : Session) :
    (∀ t, (applyPipeline ctx { transform := ["base64", "base64decode"] } env (.text t)).exec s =
        (.ok (.text t, env), s)) ∧
      (∀ t, (applyPipeline ctx { transform := ["reverse", "reverse"] } env (.text t)).exec s =
        (.ok (.text t, env), s)) ∧
      ∀ ts : List Text, (∀ t ∈ ts, (Value.text t).isValid = true) →
        applyEach ctx (.list (ts.map .text)) "base64" =
            pure (.list (ts.map fun t => .text (Base64.encode (Utf8.encode t)))) ∧
          (applyPipeline ctx { transform := ["base64", "base64decode"] } env (.list (ts.map .text))).exec s =
            (.ok (.list (ts.map .text), env), s) := by
  have hdecode : ∀ t, applyTransform ctx (.text (Base64.encode (Utf8.encode t))) "base64decode" = pure (.text t) :=
    fun t => (applyTransform_base64decode ctx _).trans (decodeBase64_encode t)
  refine ⟨fun t => ?_, fun t => ?_, fun ts hts => ?_⟩
  · exact applyPipeline_pair (applyEach_text (applyTransform_base64 ctx t)) (applyEach_text (hdecode t)) env s
  · have hback := applyTransform_reverse ctx t.reverse
    rw [List.reverse_reverse] at hback
    exact applyPipeline_pair (applyEach_text (applyTransform_reverse ctx t)) (applyEach_text hback) env s
  · have hencoded := applyEach_row (fun t (_ : t ∈ ts) => applyTransform_base64 ctx t) fun t ht =>
      isValid_text_encode (ne_nil_of_isValid (hts t ht))
    exact ⟨hencoded, applyPipeline_pair hencoded (applyEach_row (fun t _ => hdecode t) hts) env s⟩

/-- Texts beyond ASCII keep their places in a list. -/
theorem inverse_transforms_beyond_ascii :
    (∀ t ∈ (["žluťoučký", "€", "😀 a"] : List Text), (Value.text t).isValid = true) ∧
      (applyPipeline {} { transform := ["base64", "base64decode"] } [] (.list [.text "žluťoučký", .text "€",
        .text "😀 a"])).exec {} = (.ok (.list [.text "žluťoučký", .text "€", .text "😀 a"], []), {}) := by
  have hts : ∀ t ∈ (["žluťoučký", "€", "😀 a"] : List Text), (Value.text t).isValid = true := by decide
  exact ⟨hts, ((inverse_transforms {} [] {}).2.2 _ hts).2⟩

end PageQuery.Transform
