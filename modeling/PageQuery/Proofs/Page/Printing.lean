import PageQuery.File.Locator
import PageQuery.Proofs.Execution.Made
import PageQuery.Proofs.Page.Loading

namespace PageQuery

/-!
# What pages are made of

The data of a page is made of texts, truth values, and numbers that can be written, unless it is read as YAML, which
knows days, moments, bytes and numbers of any size besides.

* `Xml.madeOf_read`: documents in XML are made of texts;
* `Format.madeOf_load`: what is loaded in a format, apart from YAML;
* `Page.madeOf_ofText`, `Folder.madeOf_load`, `Http.madeOf_fetch`: the pages of texts, of files and of answers.
-/

variable {P : Scalar → Prop}

/-! ### XML -/

namespace Xml

theorem madeOf_addChild (hP : Scalar.Ample P) (name : Text) {v : Value} (hv : v.MadeOf P) {es : Entries}
    (hes : ∀ e ∈ es, P e.1 ∧ e.2.MadeOf P) : ∀ e ∈ addChild name v es, P e.1 ∧ e.2.MadeOf P := by
  unfold addChild
  split
  · exact Entries.forall_mem_put hes (hP.text name) hv
  · next vs hvs =>
    have hvs := Value.madeOf_list_iff.1 (Entries.madeOf_get? hes hvs)
    refine Entries.forall_mem_put hes (hP.text name) (.list ?_)
    exact List.forall_mem_append.2 ⟨hvs, List.forall_mem_singleton.2 hv⟩
  · next first _ hfirst =>
    have hfirst := Entries.madeOf_get? hes hfirst
    refine Entries.forall_mem_put hes (hP.text name) (.list ?_)
    exact List.forall_mem_cons.2 ⟨hfirst, List.forall_mem_singleton.2 hv⟩

theorem madeOf_elementValue (hP : Scalar.Ample P) {es : Entries} (hes : ∀ e ∈ es, P e.1 ∧ e.2.MadeOf P) (own : Text) :
    (elementValue es own).MadeOf P := by
  unfold elementValue
  split
  · exact Value.madeOf_null hP
  · exact Value.madeOf_text hP _
  · exact Value.madeOf_map_iff.2 hes
  · exact Value.madeOf_map_iff.2 (madeOf_addChild hP _ (Value.madeOf_text hP _) hes)

mutual

/-- The value of an element is made of texts. -/
theorem madeOf_value (hP : Scalar.Ample P) (n : Node) : n.value.MadeOf P := by
  cases n with
  | text t => exact Value.madeOf_text hP t
  | element name attributes children =>
    rw [Node.value]
    refine madeOf_elementValue hP (madeOf_childEntries hP children (List.forall_mem_map.2 fun e _ => ?_)) _
    exact ⟨hP.text _, Value.madeOf_text hP _⟩

theorem madeOf_childEntries (hP : Scalar.Ample P) (ns : List Node) {es : Entries}
    (hes : ∀ e ∈ es, P e.1 ∧ e.2.MadeOf P) : ∀ e ∈ childEntries es ns, P e.1 ∧ e.2.MadeOf P := by
  cases ns with
  | nil => exact hes
  | cons n rest =>
    cases n with
    | text t => exact madeOf_childEntries hP rest hes
    | element name attributes children =>
      rw [childEntries]
      exact madeOf_childEntries hP rest (madeOf_addChild hP name (madeOf_value hP _) hes)

end

/-- What is read from a document is made of texts. -/
theorem madeOf_read (hP : Scalar.Ample P) {t : Text} {v : Value} (h : read t = .ok v) : v.MadeOf P := by
  obtain ⟨root, -, rfl⟩ := map_eq_ok_iff.1 h
  unfold Node.entry
  split
  · exact Value.madeOf_text hP _
  · exact Value.madeOf_map_iff.2 (List.forall_mem_singleton.2 ⟨hP.text _, madeOf_value hP _⟩)

end Xml

/-! ### Pages -/

/-- What is loaded is what YAML reads, or made of scalars of an ample kind. -/
theorem Format.madeOf_load (hP : Scalar.Ample P) {f : Format} {t : Text} {v : Value} (h : f.load t = .ok v) :
    Yaml.read t = .ok v ∨ v.MadeOf P := by
  rcases Format.load_eq_ok_iff.1 h with hparses | ⟨rfl, -⟩
  · cases f with
    | json =>
      rcases hparses with hjson | ⟨-, hyaml⟩
      · exact .inr ((Json.holds_madeOf hP).read? hjson)
      · exact .inl hyaml
    | yaml => exact .inl hparses
    | xml => exact .inr (Xml.madeOf_read hP hparses)
    | html => exact hparses.elim
  · exact .inr (Value.madeOf_text hP t)

namespace Page

theorem madeOf_structured? (hP : Scalar.Ample P) {f : Format} {t : Text} {v : Value}
    (h : structured? f t = .ok (some v)) : (Yaml.read t = .ok v ∨ v.MadeOf P) ∧ ∀ s, v ≠ .text s := by
  obtain ⟨w, hload, h⟩ := bind_eq_ok_iff.1 h
  split at h
  · cases h
  · next hw =>
    cases h
    exact ⟨Format.madeOf_load hP hload, fun s hs => hw s hs⟩

theorem madeOf_firstStructured? (hP : Scalar.Ample P) {t : Text} {fs : List Format} {v : Value}
    (h : firstStructured? t fs = .ok (some v)) : (Yaml.read t = .ok v ∨ v.MadeOf P) ∧ ∀ s, v ≠ .text s := by
  induction fs with
  | nil => cases h
  | cons f rest ih =>
    obtain ⟨found, hfound, h⟩ := bind_eq_ok_iff.1 h
    cases found with
    | none => exact ih h
    | some w =>
      cases h
      exact madeOf_structured? hP hfound

/-- Data that is no text stays as it is in a page. -/
theorem data_build {url html : Text} {v : Value} (hv : ∀ s, v ≠ .text s) {p : Page}
    (h : build url html v [] = .ok p) : p.data = v := by
  obtain ⟨document, -, h⟩ := bind_eq_ok_iff.1 h
  have hdecode : Transform.decode v = v := by
    unfold Transform.decode
    split
    · exact absurd rfl (hv _)
    · rfl
  cases h
  simp [hdecode]

/-- The data of a page of a text is what YAML reads, or made of scalars of an ample kind. -/
theorem madeOf_ofText (hP : Scalar.Ample P) {url t : Text} {contentType : Option Text} {p : Page}
    (h : ofText url t contentType = .ok p) : Yaml.read t = .ok p.data ∨ p.data.MadeOf P := by
  obtain ⟨found, hfound, h⟩ := bind_eq_ok_iff.1 h
  cases found with
  | none => exact .inr (madeOf_build hP (Value.madeOf_null hP) h)
  | some v =>
    obtain ⟨hmade, hv⟩ := madeOf_firstStructured? hP hfound
    rwa [data_build hv h]

end Page

/-- The data of a page of a file is what YAML reads, or made of scalars of an ample kind. -/
theorem Folder.madeOf_load (hP : Scalar.Ample P) {f : Folder} {folder locator url : Text} {p : Page}
    (h : f.load folder locator .null url = .ok p) : (∃ t, Yaml.read t = .ok p.data) ∨ p.data.MadeOf P := by
  obtain ⟨bs, -, h⟩ := bind_eq_ok_iff.1 h
  obtain ⟨found, hfound, h⟩ := bind_eq_ok_iff.1 h
  cases found with
  | some v =>
    have hstructured : ∃ g, Page.structured? g (Utf8.decodeReplacing bs) = .ok (some v) := by
      cases hformat : File.formatOf? (File.suffix (f.resolve folder locator)) with
      | none =>
        rw [hformat] at hfound
        cases hfound
      | some g =>
        rw [hformat] at hfound
        exact ⟨g, hfound⟩
    obtain ⟨g, hg⟩ := hstructured
    obtain ⟨hmade, hv⟩ := Page.madeOf_structured? hP hg
    rw [Page.data_build hv h]
    exact hmade.imp_left fun hyaml => ⟨_, hyaml⟩
  | none =>
    obtain ⟨t, -, h⟩ := bind_eq_ok_iff.1 h
    exact (Page.madeOf_ofText hP h).imp_left fun hyaml => ⟨t, hyaml⟩

/-- The data of a page from an address is what YAML reads, or made of scalars of an ample kind. -/
theorem Http.madeOf_fetch (hP : Scalar.Ample P) {s : Http.Settings} {url : Text} {outcome : Nat → Http.Outcome}
    {p : Page} (h : (Http.fetch s url outcome).1 = .ok p) : (∃ t, Yaml.read t = .ok p.data) ∨ p.data.MadeOf P := by
  obtain ⟨r, -, h⟩ := bind_eq_ok_iff.1 h
  exact (Page.madeOf_ofText hP h).imp_left fun hyaml => ⟨_, hyaml⟩

end PageQuery
