import PageQuery.Proofs.Except
import PageQuery.Proofs.Text
import PageQuery.Xml.Reader

namespace PageQuery.Xml

/-!
# Documents with entities

A document that is not well-formed is one thing, and a document that declares an entity another. The second is found
only where the words of such a declaration stand in the text.

* `ends_subset`, `ends_documentType`: what is read of a document type is a part of the text, and a declaration of an
  entity is found at its words;
* `mild_element`: elements are refused only if they are not well-formed;
* `entityMark_infix_of_read`: a text in which no entity is declared is a document, or not well-formed.
-/

/-- What starts the declaration of an entity. -/
def entityMark : Text := "<!ENTITY"

/-- A text is refused because it is not well-formed, or it has a declaration of an entity in it. -/
abbrev Refuses (t : Text) : Error → Prop := Refused .malformed entityMark t

/-! ### Parts of texts -/

theorem skipGap_suffixed (t : Text) : skipGap t <:+ t := List.dropWhile_suffix _

theorem ends_needGap (t : Text) : Ends (· <:+ t) (· = .malformed) (needGap t) := by
  unfold needGap
  split
  · exact skipGap_suffixed t
  · rfl

theorem ends_need (lead t : Text) : Ends (· <:+ t) (· = .malformed) (need lead t) := by
  unfold need
  split
  · next rest h => exact ⟨lead, (Text.after?_eq_some_iff.1 h).symm⟩
  · rfl

theorem ends_upTo (stop t : Text) : Ends (·.2 <:+ t) (· = .malformed) (upTo stop t) := by
  unfold upTo
  split
  · exact List.drop_suffix _ _
  · rfl

/-- A name stands in front of what follows it. -/
theorem ends_name (t : Text) : Ends (fun r => t = r.1 ++ r.2) (· = .malformed) (name t) := by
  unfold name
  split
  · split
    · exact congrArg (_ :: ·) List.takeWhile_append_dropWhile.symm
    · rfl
  · rfl

theorem ends_comment (t : Text) : Ends (· <:+ t) (· = .malformed) (comment t) := by
  refine ends_bind (ends_upTo _ t) fun r hr => ?_
  exact ends_mono (ends_need _ r.2) (fun _ h => h.trans hr) fun _ h => h

theorem ends_instruction (t : Text) : Ends (· <:+ t) (· = .malformed) (instruction t) := by
  refine ends_bind (ends_name t) fun ⟨target, rest⟩ hname => ?_
  have hrest : rest <:+ t := ⟨target, hname.symm⟩
  refine ends_guard (fun _ => rfl) ?_
  split
  · next after h => exact List.IsSuffix.trans ⟨_, (Text.after?_eq_some_iff.1 h).symm⟩ hrest
  · refine ends_guard (fun _ => rfl) ?_
    exact ends_bind (ends_upTo _ rest) fun u hu => hu.trans hrest

theorem ends_literal (t : Text) : Ends (·.2 <:+ t) (· = .malformed) (literal t) := by
  unfold literal
  split
  · exact ends_mono (ends_upTo _ _) (fun _ h => h.trans (List.suffix_cons _ _)) fun _ h => h
  · exact ends_mono (ends_upTo _ _) (fun _ h => h.trans (List.suffix_cons _ _)) fun _ h => h
  · rfl

theorem ends_external (t : Text) : Ends (·.2 <:+ t) (· = .malformed) (external t) := by
  unfold external
  split
  · next rest h =>
    have hrest : rest <:+ t := ⟨_, (Text.after?_eq_some_iff.1 h).symm⟩
    refine ends_bind (ends_needGap rest) fun u hu => ?_
    exact ends_bind (ends_literal u) fun r hr => hr.trans (hu.trans hrest)
  · split
    · next rest h =>
      have hrest : rest <:+ t := ⟨_, (Text.after?_eq_some_iff.1 h).symm⟩
      refine ends_bind (ends_needGap rest) fun u hu => ?_
      refine ends_bind (ends_literal u) fun ⟨id, v⟩ hv => ends_guard (fun _ => rfl) ?_
      refine ends_bind (ends_needGap v) fun w hw => ?_
      exact ends_bind (ends_literal w) fun r hr => hr.trans (hw.trans (hv.trans (hu.trans hrest)))
    · exact List.suffix_rfl

theorem ends_declarationRest (fuel : Nat) (t : Text) : Ends (· <:+ t) (· = .malformed) (declarationRest fuel t) := by
  induction fuel generalizing t with
  | zero => rfl
  | succ fuel ih =>
    unfold declarationRest
    split
    · rfl
    · exact List.suffix_cons _ _
    · rfl
    · next c rest _ _ =>
      have hrest : rest <:+ c :: rest := List.suffix_cons _ _
      split
      · refine ends_bind (ends_upTo _ rest) fun r hr => ?_
        exact ends_mono (ih r.2) (fun _ h => h.trans (hr.trans hrest)) fun _ h => h
      · exact ends_mono (ih rest) (fun _ h => h.trans hrest) fun _ h => h

/-! ### Document types -/

/-- The declarations between brackets: a declaration of an entity is found at the words that start it. -/
theorem ends_subset (elsewhere : Bool) (fuel : Nat) (t : Text) :
    Ends (·.2 <:+ t) (Refuses t) (subset elsewhere fuel t) := by
  induction fuel generalizing elsewhere t with
  | zero => exact .inl rfl
  | succ fuel ih =>
    have hgap := skipGap_suffixed t
    -- what comes after a part of the text is read from a part of it
    have hrest : ∀ {elsewhere : Bool} {u : Text}, u <:+ t →
        Ends (·.2 <:+ t) (Refuses t) (subset elsewhere fuel u) := fun hu =>
      ends_mono (refused_of_suffix (ih _ _) hu) (fun _ h => h.trans hu) fun _ h => h
    have hlead : ∀ (lead : Text) {u : Text}, skipGap t = lead ++ u → u <:+ t := fun lead u h =>
      (List.suffix_append lead u).trans (h ▸ hgap)
    unfold subset
    split
    · next h => exact hlead [']'] h
    · next rest h =>
      refine ends_bind (refused_of_usual (ends_name rest)) fun ⟨n, u⟩ hname => ?_
      have hu : u <:+ rest := ⟨n, hname.symm⟩
      exact ends_bind (refused_of_usual (ends_need _ u)) fun w hw => hrest (hw.trans (hu.trans (hlead ['%'] h)))
    · next rest h =>
      exact ends_bind (refused_of_usual (ends_comment rest)) fun u hu => hrest (hu.trans (hlead ['<', '!', '-', '-'] h))
    · next rest h =>
      exact ends_bind (refused_of_usual (ends_instruction rest)) fun u hu => hrest (hu.trans (hlead ['<', '?'] h))
    · next rest _ h =>
      refine ends_bind (refused_of_usual (ends_name rest)) fun ⟨word, u⟩ hword => ?_
      have hu : u <:+ t := List.IsSuffix.trans ⟨word, hword.symm⟩ (hlead ['<', '!'] h)
      refine ends_guard (fun _ => .inl rfl) (ends_guard (fun hentity => ?_) ?_)
      · -- the words of the declaration stand here
        have hhere : skipGap t = entityMark ++ u := by
          rw [h, hword, hentity]
          rfl
        exact .inr ((List.prefix_append entityMark u).isInfix.trans (hhere ▸ hgap).isInfix)
      · split
        · exact ends_bind (refused_of_usual (ends_declarationRest _ u)) fun w hw => hrest (hw.trans hu)
        · exact .inl rfl
    · exact .inl rfl

theorem ends_documentType (t : Text) : Ends (·.2 <:+ t) (Refuses t) (documentType t) := by
  unfold documentType
  refine ends_bind (refused_of_usual (ends_need _ t)) fun u hu => ?_
  refine ends_bind (refused_of_usual (ends_needGap u)) fun v hv => ?_
  refine ends_bind (refused_of_usual (ends_name v)) ?_
  rintro ⟨n, w⟩ hname
  dsimp -zeta only
  have hw : w <:+ t := List.IsSuffix.trans ⟨n, hname.symm⟩ (hv.trans hu)
  extract_lets close after
  have hclose : ∀ r : Bool × Text, r.2 <:+ t → Ends (·.2 <:+ t) (Refuses t) (close r) := fun r hr =>
    ends_bind (refused_of_usual (ends_need _ _)) fun x hx => hx.trans ((skipGap_suffixed _).trans hr)
  have hafter : ∀ r : Bool × Text, r.2 <:+ t → Ends (·.2 <:+ t) (Refuses t) (after r) := by
    rintro ⟨found, rest⟩ hrest
    have hgap : skipGap rest <:+ t := (skipGap_suffixed rest).trans hrest
    dsimp only [after]
    split
    · next inner h =>
      have hinner : inner <:+ t := List.IsSuffix.trans ⟨['['], h.symm⟩ hgap
      exact ends_bind (refused_of_suffix (ends_subset found _ inner) hinner) fun r hr => hclose r (hr.trans hinner)
    · exact hclose (found, skipGap rest) hgap
  split
  · exact ends_bind (refused_of_usual (ends_external _)) fun r hr => hafter r (hr.trans ((skipGap_suffixed w).trans hw))
  · exact hafter (false, w) hw

/-! ### Elements -/

/-- A step is mild if it only ever refuses a text for not being well-formed. -/
abbrev Mild {α : Type} (x : Reading α) : Prop := FailsOnly (· = .malformed) x

theorem mild_character (n : Nat) : Mild (character n) := by
  unfold character
  dsimp only
  repeat' split
  all_goals first | exact trivial | exact rfl

theorem mild_reference (lenient : Bool) (t : Text) : Mild (reference lenient t) := by
  unfold reference
  split
  · refine failsOnly_bind (ends_upTo _ _) ?_
    rintro ⟨body, after⟩
    dsimp only
    split
    · exact failsOnly_bind (mild_character _) fun c => trivial
    · exact rfl
  · refine failsOnly_bind (ends_name _) fun r => failsOnly_bind (ends_need _ _) fun u => ?_
    repeat' split
    all_goals first | exact trivial | exact rfl

theorem mild_attributeText (lenient : Bool) (quote : Char) (fuel : Nat) (t : Text) :
    Mild (attributeText lenient quote fuel t) := by
  induction fuel generalizing t with
  | zero => exact rfl
  | succ fuel ih =>
    unfold attributeText
    split
    · exact rfl
    · next c rest =>
      split
      · exact trivial
      · split
        · exact rfl
        · split
          · exact failsOnly_bind (mild_reference _ _) fun _ => failsOnly_bind (ih _) fun _ => trivial
          · exact failsOnly_bind (P := fun _ => True) trivial fun _ => failsOnly_bind (ih _) fun _ => trivial

theorem mild_quotedText (lenient : Bool) (t : Text) : Mild (quotedText lenient t) := by
  unfold quotedText
  split
  · exact mild_attributeText _ _ _ _
  · exact mild_attributeText _ _ _ _
  · exact rfl

theorem mild_attributes (lenient : Bool) (seen : List Text) (fuel : Nat) (t : Text) :
    Mild (attributes lenient seen fuel t) := by
  induction fuel generalizing seen t with
  | zero => exact rfl
  | succ fuel ih =>
    unfold attributes
    split
    · exact trivial
    · exact trivial
    · refine ends_guard (fun _ => rfl) (failsOnly_bind (ends_name _) fun r => ?_)
      refine ends_guard (fun _ => rfl) (failsOnly_bind (ends_need _ _) fun u => ?_)
      exact failsOnly_bind (mild_quotedText _ _) fun v => failsOnly_bind (ih _ _) fun _ => trivial

/-- Elements and their content are refused only for not being well-formed. -/
theorem mild_element (lenient : Bool) (fuel : Nat) (t : Text) :
    Mild (element lenient fuel t) ∧ Mild (content lenient fuel t) := by
  induction fuel generalizing t with
  | zero => exact ⟨rfl, rfl⟩
  | succ fuel ih =>
    have hcontent : ∀ {β : Type} {f : List Node × Text → Reading β} (u : Text), (∀ r, Mild (f r)) →
        Mild (content lenient fuel u >>= f) := fun u hf => failsOnly_bind (ih u).2 hf
    constructor
    · unfold element
      refine failsOnly_bind (ends_name _) fun r => failsOnly_bind (mild_attributes _ _ _ _) ?_
      rintro ⟨attrs, rest⟩
      dsimp -zeta only
      split
      · exact trivial
      · refine hcontent _ fun c => failsOnly_bind (ends_name _) fun n => ends_guard (fun _ => rfl) ?_
        exact failsOnly_bind (ends_need _ _) fun _ => trivial
      · exact rfl
    · unfold content
      split
      · exact rfl
      · exact trivial
      · exact failsOnly_bind (ends_comment _) fun u => (ih u).2
      · refine failsOnly_bind (ends_need _ _) fun u => failsOnly_bind (ends_upTo _ _) fun r => ?_
        exact hcontent _ fun _ => trivial
      · exact failsOnly_bind (ends_instruction _) fun u => (ih u).2
      · exact failsOnly_bind (ih _).1 fun r => hcontent _ fun _ => trivial
      · exact failsOnly_bind (mild_reference _ _) fun r => hcontent _ fun _ => trivial
      · exact ends_guard (fun _ => rfl) (hcontent _ fun _ => trivial)

/-! ### Documents -/

theorem mild_pseudoAttribute (t : Text) : Mild (pseudoAttribute t) := by
  unfold pseudoAttribute
  refine failsOnly_bind (ends_needGap _) fun u => failsOnly_bind (ends_need _ _) fun v => ?_
  split
  · refine ends_guard (fun _ => rfl) (failsOnly_bind (ends_upTo _ _) ?_)
    rintro ⟨v, after⟩
    dsimp only
    split
    · exact trivial
    · exact rfl
  · exact rfl

theorem mild_declaration (t : Text) : Mild (declaration t) := by
  unfold declaration
  refine failsOnly_bind (mild_pseudoAttribute _) fun r => ends_guard (fun _ => rfl) ?_
  split
  · exact trivial
  · refine failsOnly_bind (mild_pseudoAttribute _) ?_
    rintro ⟨key, v, rest⟩
    dsimp -zeta only
    extract_lets standing encoded
    have hstanding : ∀ key v rest, Mild (standing key v rest) := by
      intro key v rest
      dsimp only [standing]
      split
      · exact trivial
      · exact rfl
    have hencoded : Mild (encoded ()) := by
      dsimp only [encoded]
      split
      · exact trivial
      · exact failsOnly_bind (mild_pseudoAttribute _) fun r => hstanding _ _ _
    split
    · exact ends_guard (fun _ => rfl) hencoded
    · exact hstanding _ _ _

theorem ends_between (fuel : Nat) (t : Text) : Ends (· <:+ t) (· = .malformed) (between fuel t) := by
  induction fuel generalizing t with
  | zero => exact List.suffix_rfl
  | succ fuel ih =>
    have hgap := skipGap_suffixed t
    have hlead : ∀ (lead : Text) {u : Text}, skipGap t = lead ++ u → u <:+ t := fun lead u h =>
      (List.suffix_append lead u).trans (h ▸ hgap)
    have hrest : ∀ {u : Text}, u <:+ t → Ends (· <:+ t) (· = .malformed) (between fuel u) := fun hu =>
      ends_mono (ih _) (fun _ h => h.trans hu) fun _ h => h
    unfold between
    split
    · next rest h => exact ends_bind (ends_comment rest) fun u hu => hrest (hu.trans (hlead ['<', '!', '-', '-'] h))
    · next rest h => exact ends_bind (ends_instruction rest) fun u hu => hrest (hu.trans (hlead ['<', '?'] h))
    · exact hgap

/-- A document is not well-formed, or the words that declare an entity stand in it. -/
theorem ends_document (t : Text) : Ends (fun _ => True) (Refuses t) (document t) := by
  unfold document
  extract_lets size begun
  have hbegun : ∀ r : Bool × Text, r.2 <:+ t → Ends (fun _ => True) (Refuses t) (begun r) := by
    rintro ⟨alone, u⟩ hu
    dsimp -zeta only [begun]
    refine ends_bind (refused_of_usual (ends_between size u)) fun v hv => ?_
    have hv : v <:+ t := hv.trans hu
    extract_lets typed
    have htyped : ∀ r, Ends (fun _ => True) (Refuses t) (typed r) := by
      rintro ⟨elsewhere, w⟩
      dsimp only [typed]
      refine ends_bind (refused_of_usual (ends_between size w)) fun x _ => ?_
      split
      · refine ends_bind (refused_of_usual (mild_element _ _ _).1) ?_
        rintro ⟨root, after⟩ -
        refine ends_bind (refused_of_usual (ends_between size after)) fun y _ => ?_
        dsimp only
        split
        · exact trivial
        · exact .inl rfl
      · exact .inl rfl
    split
    · next inner _ =>
      have hinner : inner <:+ t := (List.suffix_append ['<', '!'] inner).trans hv
      exact ends_bind (refused_of_suffix (ends_documentType inner) hinner) fun r _ => htyped r
    · exact htyped (false, v)
  split
  · next rest h =>
    have hrest : rest <:+ t := ⟨_, (Text.after?_eq_some_iff.1 h).symm⟩
    split
    · refine ends_bind (refused_of_usual (ends_upTo _ _)) ?_
      rintro ⟨words, after⟩ hafter
      refine ends_bind (refused_of_usual (mild_declaration words)) fun alone _ => ?_
      exact hbegun (alone, after) (hafter.trans hrest)
    · exact hbegun (false, t) List.suffix_rfl
  · exact hbegun (false, t) List.suffix_rfl

/-- A word without line ends that starts a text with line ends in their normal form starts the text itself. -/
theorem prefixed_of_normalLines {word t : Text} (hword : '\n' ∉ word) (h : word <+: normalLines t) : word <+: t := by
  have hreturn : ∀ {word rest : Text}, '\n' ∉ word → word <+: '\n' :: rest → word = [] := by
    intro word rest hword h
    cases word with
    | nil => rfl
    | cons d word => exact absurd (List.mem_cons.2 (.inl (List.cons_prefix_cons.1 h).1.symm)) hword
  fun_induction normalLines t generalizing word with
  | case1 rest ih =>
    rw [hreturn hword h]
    exact List.nil_prefix
  | case2 rest hpair ih =>
    rw [hreturn hword h]
    exact List.nil_prefix
  | case3 c rest _ _ ih =>
    cases word with
    | nil => exact List.nil_prefix
    | cons d word =>
      obtain ⟨rfl, hrest⟩ := List.cons_prefix_cons.1 h
      exact List.cons_prefix_cons.2 ⟨rfl, ih (fun hmem => hword (List.mem_cons_of_mem _ hmem)) hrest⟩
  | case4 => exact h

/-- A word without line ends in a text with line ends in their normal form stands in the text itself. -/
theorem infix_of_normalLines {word t : Text} (hword : '\n' ∉ word) (h : word <:+: normalLines t) : word <:+: t := by
  fun_induction normalLines t with
  | case1 rest ih =>
    rcases List.infix_cons_iff.1 h with h | h
    · exact (prefixed_of_normalLines hword (t := '\r' :: '\n' :: rest) h).isInfix
    · exact (ih h).trans (List.suffix_append ['\r', '\n'] rest).isInfix
  | case2 rest hpair ih =>
    rcases List.infix_cons_iff.1 h with h | h
    · refine (prefixed_of_normalLines hword (t := '\r' :: rest) ?_).isInfix
      rwa [normalLines]
      exact hpair
    · exact (ih h).trans (List.suffix_cons _ rest).isInfix
  | case3 c rest hpair hreturn ih =>
    rcases List.infix_cons_iff.1 h with h | h
    · refine (prefixed_of_normalLines hword (t := c :: rest) ?_).isInfix
      rwa [normalLines]
      · exact hpair
      · exact hreturn
    · exact (ih h).trans (List.suffix_cons _ rest).isInfix
  | case4 => exact h

/-- A text in which no entity is declared is a document, or is not well-formed. -/
theorem entityMark_infix_of_read {t : Text} (h : read t = .error .entity) : entityMark <:+: t := by
  have hnode : Node.read t = .error .entity := by
    cases hnode : Node.read t with
    | ok root =>
      rw [read, hnode] at h
      cases h
    | error e =>
      rw [read, hnode] at h
      cases h
      rfl
  unfold Node.read at hnode
  dsimp only at hnode
  split at hnode
  · next e hdocument =>
    cases hnode
    have hends := ends_document (normalLines ((if t.head? == some '\ufeff' then t.drop 1 else t).takeWhile isChar))
    rw [hdocument] at hends
    rcases hends with hends | hends
    · cases hends
    · have hgood := infix_of_normalLines (by decide) hends
      refine (hgood.trans (List.takeWhile_prefix _).isInfix).trans ?_
      split
      · exact (List.drop_suffix 1 t).isInfix
      · exact List.infix_rfl
  · split at hnode <;> exact absurd hnode (by split <;> nofun)

end PageQuery.Xml
