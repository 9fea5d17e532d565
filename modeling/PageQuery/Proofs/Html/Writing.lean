import PageQuery.Html.Writer
import PageQuery.Proofs.Text

namespace PageQuery.Html

/-!
# What elements are written as

Of what is written, the tags that declare its type are left out.

* `stripped`: a text without such tags, and `declaration_induction`, how it comes about;
* `stripped_append`: the parts of a text up to the end of a tag and behind it;
* `stripped_eq_self_iff`: texts in which there is no such tag;
* `outer_eq_iff`: the elements that are written as their start tag, what stands inside, and their end tag.
-/

/-! ### Tags that are left out -/

/-- A text without the tags that declare its type. -/
def stripped (t : Text) : Text := withoutDeclarations 0 t

/-- A text that starts with a tag that declares its type. -/
def Declares (t : Text) : Prop := ∃ z w, '>' ∉ z ∧ t = declaration ++ (z ++ '>' :: w)

theorem withoutDeclarations_eq (skip : Nat) (t : Text) : withoutDeclarations skip t = stripped (t.drop skip) := by
  induction t generalizing skip with
  | nil => cases skip <;> simp [withoutDeclarations, stripped]
  | cons c t ih =>
    cases skip with
    | zero => rfl
    | succ skip => exact ih skip

theorem find?_append {z : Text} (h : '>' ∉ z) (w : Text) : Text.find? ['>'] (z ++ '>' :: w) = some z.length := by
  induction z with
  | nil => simp [Text.find?, Text.startsWith, Text.after?]
  | cons c z ih =>
    obtain ⟨hc, hz⟩ := not_or.1 (mt List.mem_cons.2 h)
    simp [Text.find?, Text.startsWith, Text.after?, hc, ih hz]

theorem exists_of_find? {t : Text} {n : Nat} (h : Text.find? ['>'] t = some n) :
    ∃ z w, '>' ∉ z ∧ t = z ++ '>' :: w := by
  by_cases hmem : '>' ∈ t
  · obtain ⟨z, w, rfl, hz⟩ := List.eq_append_cons_of_mem hmem
    exact ⟨z, w, hz, rfl⟩
  · exfalso
    induction t generalizing n with
    | nil => cases h
    | cons c t ih =>
      obtain ⟨hc, ht⟩ := not_or.1 (mt List.mem_cons.2 hmem)
      have hstart : Text.startsWith ['>'] (c :: t) = false := by simp [Text.startsWith, Text.after?, hc]
      rw [Text.find?, if_neg (by simp [hstart])] at h
      obtain ⟨m, hm, -⟩ := Option.map_eq_some_iff.1 h
      exact ih hm ht

/-- A tag that declares the type is left out. -/
theorem stripped_declaration {z : Text} (h : '>' ∉ z) (w : Text) :
    stripped (declaration ++ (z ++ '>' :: w)) = stripped w := by
  have hafter : Text.after? declaration (declaration ++ (z ++ '>' :: w)) = some (z ++ '>' :: w) :=
    Text.after?_eq_some_iff.2 rfl
  obtain ⟨c, rest, hcons⟩ : ∃ c rest, declaration = c :: rest := ⟨_, _, rfl⟩
  rw [hcons, List.cons_append] at hafter ⊢
  rw [stripped, withoutDeclarations, hcons, hafter, Option.map_some, find?_append h]
  show withoutDeclarations ((c :: rest).length + z.length) (rest ++ (z ++ '>' :: w)) = _
  have htag : rest ++ (z ++ '>' :: w) = (rest ++ (z ++ ['>'])) ++ w := by simp
  rw [withoutDeclarations_eq, htag, List.drop_left']
  simp only [List.length_append, List.length_cons, List.length_nil]
  omega

/-- Any other character stays. -/
theorem stripped_cons {c : Char} {t : Text} (h : ¬Declares (c :: t)) : stripped (c :: t) = c :: stripped t := by
  rw [stripped, withoutDeclarations]
  split
  · next n heq =>
    obtain ⟨rest, hrest, hfind⟩ := Option.map_eq_some_iff.1 heq
    obtain ⟨z, w, hz, rfl⟩ := exists_of_find? hfind
    exact absurd ⟨z, w, hz, Text.after?_eq_some_iff.1 hrest⟩ h
  · rfl

/-- A text is built up of tags that are left out and characters that stay. -/
theorem declaration_induction {motive : Text → Prop} (nil : motive [])
    (keep : ∀ c t, ¬Declares (c :: t) → motive t → motive (c :: t))
    (drop : ∀ z w, '>' ∉ z → motive w → motive (declaration ++ (z ++ '>' :: w))) (t : Text) : motive t := by
  induction hn : t.length using Nat.strongRecOn generalizing t with
  | ind n ih =>
    subst hn
    by_cases h : Declares t
    · obtain ⟨z, w, hz, rfl⟩ := h
      refine drop z w hz (ih w.length ?_ w rfl)
      simp only [List.length_append, List.length_cons]
      omega
    · cases t with
      | nil => exact nil
      | cons c t => exact keep c t h (ih t.length (Nat.lt_succ_self _) t rfl)

/-- A tag that declares the type starts with its first character, and ends behind it. -/
theorem Declares.mem {t : Text} (h : Declares t) : declaration <+: t ∧ '>' ∈ t := by
  obtain ⟨z, w, -, rfl⟩ := h
  exact ⟨List.prefix_append _ _, by simp⟩

theorem declares_of_mem {t : Text} (h : declaration <+: t) (hmem : '>' ∈ t) : Declares t := by
  obtain ⟨rest, rfl⟩ := h
  have hrest : '>' ∈ rest := (List.mem_append.1 hmem).resolve_left (by decide)
  obtain ⟨z, w, rfl, hz⟩ := List.eq_append_cons_of_mem hrest
  exact ⟨z, w, hz, rfl⟩

theorem Declares.head?_eq {c : Char} {t : Text} (h : Declares (c :: t)) : c = '<' := by
  obtain ⟨z, w, -, heq⟩ := h
  exact (List.cons.inj heq).1

/-- A tag that declares the type ends with its first end of a tag. -/
theorem Declares.stripped_eq {z w : Text} (h : Declares (z ++ '>' :: w)) (hz : '>' ∉ z) :
    stripped (z ++ '>' :: w) = stripped w := by
  obtain ⟨z', w', hz', heq⟩ := h
  have hnone : '>' ∉ declaration ++ z' := fun hmem => (List.mem_append.1 hmem).elim (by decide) hz'
  have hcut := Text.cut_append hz w
  rw [heq, ← List.append_assoc, Text.cut_append hnone] at hcut
  obtain rfl : w' = w := Option.some.inj (Prod.mk.inj hcut).2
  rw [heq, stripped_declaration hz']

/-- What is left is a selection of the characters. -/
theorem stripped_sublist (t : Text) : (stripped t).Sublist t := by
  induction t using declaration_induction with
  | nil => exact List.Sublist.refl []
  | keep c t h ih =>
    rw [stripped_cons h]
    exact ih.cons_cons c
  | drop z w hz ih =>
    rw [stripped_declaration hz]
    refine ih.trans ((List.suffix_append_of_suffix ?_).sublist)
    exact (List.suffix_cons '>' w).trans (List.suffix_append z _)

/-! ### Parts of a text -/

/-- A text that ends with a tag, or is empty. -/
def EndsTag (t : Text) : Prop := t = [] ∨ t.getLast? = some '>'

theorem getLast?_append_cons (t : Text) (c : Char) (u : Text) : (t ++ c :: u).getLast? = (c :: u).getLast? := by
  rw [List.getLast?_append, List.getLast?_cons, Option.some_or]

/-- Behind the end of a tag, a new tag starts. -/
theorem stripped_append {t : Text} (h : EndsTag t) (u : Text) : stripped (t ++ u) = stripped t ++ stripped u := by
  induction t using declaration_induction with
  | nil => rfl
  | keep c t hkeep ih =>
    have hlast : (c :: t).getLast? = some '>' := h.resolve_left (List.cons_ne_nil c t)
    have ht : EndsTag t := by
      cases t with
      | nil => exact .inl rfl
      | cons d t =>
        rw [List.getLast?_cons_cons] at hlast
        exact .inr hlast
    have hkeep' : ¬Declares (c :: (t ++ u)) := by
      intro hdeclares
      refine hkeep (declares_of_mem ?_ (List.mem_of_getLast? hlast))
      -- the start of a tag does not reach over the end of another
      obtain ⟨t', ht'⟩ := List.getLast?_eq_some_iff.1 hlast
      have hstart := Text.startsWith_iff.2 hdeclares.mem.1
      rw [← List.cons_append, ht', List.append_assoc, List.singleton_append,
        Text.startsWith_append_cons (by decide), Text.startsWith_iff] at hstart
      rw [ht']
      exact hstart.trans (List.prefix_append t' _)
    rw [List.cons_append, stripped_cons hkeep', stripped_cons hkeep, ih ht, List.cons_append]
  | drop z w hz ih =>
    have hw : EndsTag w := by
      have hlast := h.resolve_left (by simp)
      cases w with
      | nil => exact .inl rfl
      | cons c w =>
        refine .inr ?_
        rwa [← List.append_assoc, getLast?_append_cons, List.getLast?_cons_cons] at hlast
    rw [List.append_assoc, List.append_assoc, List.cons_append, stripped_declaration hz, stripped_declaration hz, ih hw]

/-- In front of the start of a tag all characters stay. -/
theorem stripped_append_of_notMem {t : Text} (h : '<' ∉ t) (u : Text) : stripped (t ++ u) = t ++ stripped u := by
  induction t with
  | nil => rfl
  | cons c t ih =>
    obtain ⟨hc, ht⟩ := not_or.1 (mt List.mem_cons.2 h)
    rw [List.cons_append, stripped_cons fun hdeclares => hc hdeclares.head?_eq.symm, ih ht, List.cons_append]

/-- What is left behind the end of a tag is left of the whole, too. -/
theorem length_stripped_le_of_notMem {z : Text} (h : '>' ∉ z) (w : Text) :
    (stripped w).length ≤ (stripped (z ++ '>' :: w)).length := by
  induction z with
  | nil =>
    rw [List.nil_append, stripped_cons fun hdeclares => absurd hdeclares.head?_eq (by decide), List.length_cons]
    omega
  | cons c z ih =>
    by_cases hdeclares : Declares (c :: z ++ '>' :: w)
    · exact Nat.le_of_eq (congrArg List.length (hdeclares.stripped_eq h)).symm
    · rw [List.cons_append] at hdeclares ⊢
      rw [stripped_cons hdeclares, List.length_cons]
      exact Nat.le_succ_of_le (ih fun hmem => h (List.mem_cons_of_mem c hmem))

/-- A text in front adds at most its own characters. -/
theorem length_stripped_append_le (t u : Text) : (stripped (t ++ u)).length ≤ t.length + (stripped u).length := by
  induction hn : t.length using Nat.strongRecOn generalizing t with
  | ind n ih =>
    subst hn
    by_cases hdeclares : Declares (t ++ u)
    · by_cases hmem : '>' ∈ t
      · -- the tag that is left out ends in the text in front
        obtain ⟨z, w, rfl, hz⟩ := List.eq_append_cons_of_mem hmem
        rw [List.append_assoc, List.cons_append] at hdeclares ⊢
        have hrest := ih w.length (by simp only [List.length_append, List.length_cons]; omega) w rfl
        rw [hdeclares.stripped_eq hz, List.length_append, List.length_cons]
        omega
      · -- it ends behind the text in front
        have hu : '>' ∈ u := (List.mem_append.1 hdeclares.mem.2).resolve_left hmem
        obtain ⟨z, w, rfl, hz⟩ := List.eq_append_cons_of_mem hu
        have hnone : '>' ∉ t ++ z := fun h => (List.mem_append.1 h).elim hmem hz
        have hrest := length_stripped_le_of_notMem hz w
        rw [← List.append_assoc] at hdeclares ⊢
        rw [hdeclares.stripped_eq hnone]
        omega
    · cases t with
      | nil => simp
      | cons c t =>
        have hrest := ih t.length (Nat.lt_succ_self _) t rfl
        rw [List.cons_append] at hdeclares ⊢
        rw [stripped_cons hdeclares, List.length_cons, List.length_cons]
        omega

theorem stripped_of_notInfix {t : Text} (h : ¬declaration <:+: t) : stripped t = t := by
  induction t with
  | nil => rfl
  | cons c t ih =>
    have hkeep : ¬Declares (c :: t) := fun hdeclares => h hdeclares.mem.1.isInfix
    rw [stripped_cons hkeep, ih fun hinside => h (hinside.trans (List.suffix_cons c t).isInfix)]

/-- From a text that ends with a tag nothing is left out exactly if there is no tag in it that declares its type. -/
theorem stripped_eq_self_iff {t : Text} (h : t.getLast? = some '>') : stripped t = t ↔ ¬declaration <:+: t := by
  refine ⟨?_, stripped_of_notInfix⟩
  rintro heq ⟨before, after, rfl⟩
  have hafter : '>' ∈ after := by
    cases after with
    | nil =>
      rw [List.append_nil, List.getLast?_append] at h
      cases h
    | cons c after =>
      rw [getLast?_append_cons] at h
      exact List.mem_of_getLast? h
  obtain ⟨z, w, rfl, hz⟩ := List.eq_append_cons_of_mem hafter
  have hle := length_stripped_append_le before (declaration ++ (z ++ '>' :: w))
  rw [← List.append_assoc, heq, stripped_declaration hz] at hle
  have hsub := (stripped_sublist w).length_le
  simp only [List.length_append, List.length_cons] at hle
  omega

/-! ### Escaped text -/

/-- A text in which nothing has to be escaped. -/
def IsPlain (t : Text) : Prop := ∀ c ∈ t, c ≠ '&' ∧ c ≠ '<' ∧ c ≠ '>'

theorem escape_cons (c : Char) (t : Text) : escape (c :: t) = escape [c] ++ escape t := by
  rw [escape, escape, escape, List.flatMap_cons, List.flatMap_singleton]

theorem escape_singleton {c : Char} (h : c ≠ '&' ∧ c ≠ '<' ∧ c ≠ '>') : escape [c] = [c] := by
  rw [escape, List.flatMap_singleton, if_neg (by simpa using h.1), if_neg (by simpa using h.2.1),
    if_neg (by simpa using h.2.2)]

theorem escape_of_isPlain {t : Text} (h : IsPlain t) : escape t = t := by
  induction t with
  | nil => rfl
  | cons c t ih =>
    obtain ⟨hc, ht⟩ := List.forall_mem_cons.1 h
    rw [escape_cons, escape_singleton hc, ih ht, List.singleton_append]

/-- A special character is written as a longer reference, in which no tag starts. -/
theorem escape_special {c : Char} (h : ¬(c ≠ '&' ∧ c ≠ '<' ∧ c ≠ '>')) : '<' ∉ escape [c] ∧ 1 < (escape [c]).length := by
  have hspecial : c = '&' ∨ c = '<' ∨ c = '>' := by
    by_cases h₁ : c = '&'
    · exact .inl h₁
    · by_cases h₂ : c = '<'
      · exact .inr (.inl h₂)
      · exact .inr (.inr (Classical.byContradiction fun h₃ => h ⟨h₁, h₂, h₃⟩))
  rcases hspecial with rfl | rfl | rfl <;> decide

theorem notMem_escape (t : Text) : '<' ∉ escape t := by
  induction t with
  | nil => exact List.not_mem_nil
  | cons c t ih =>
    rw [escape_cons, List.mem_append]
    refine fun hmem => hmem.elim (fun hmem => ?_) ih
    by_cases hc : c ≠ '&' ∧ c ≠ '<' ∧ c ≠ '>'
    · rw [escape_singleton hc] at hmem
      exact hc.2.1 (List.mem_singleton.1 hmem).symm
    · exact (escape_special hc).1 hmem

theorem length_le_escape (t : Text) : t.length ≤ (escape t).length := by
  induction t with
  | nil => exact Nat.le_refl 0
  | cons c t ih =>
    have hc : 1 ≤ (escape [c]).length := by
      by_cases hc : c ≠ '&' ∧ c ≠ '<' ∧ c ≠ '>'
      · rw [escape_singleton hc]
        exact Nat.le_refl 1
      · exact Nat.le_of_lt (escape_special hc).2
    rw [escape_cons, List.length_append, List.length_cons]
    omega

/-- A text in which something is escaped becomes longer. -/
theorem length_lt_escape {t : Text} (h : ¬IsPlain t) : t.length < (escape t).length := by
  induction t with
  | nil => exact absurd (fun _ hc => absurd hc List.not_mem_nil) h
  | cons c t ih =>
    have hall := length_le_escape t
    rw [escape_cons, List.length_append, List.length_cons]
    by_cases hc : c ≠ '&' ∧ c ≠ '<' ∧ c ≠ '>'
    · have ht : ¬IsPlain t := fun ht => h (List.forall_mem_cons.2 ⟨hc, ht⟩)
      have hrest := ih ht
      rw [escape_singleton hc, List.length_singleton]
      omega
    · have hfirst := (escape_special hc).2
      omega

/-! ### Nodes -/

theorem writeNode_element (verbatim : Bool) (name : Text) (attributes : List Attribute) (children : List Node) :
    writeNode verbatim (.element name attributes children) =
      if isVoid name || (children.isEmpty && endsSilently name) then
        '<' :: name ++ attributes.flatMap (writeAttribute name) ++ ['>']
      else
        '<' :: name ++ attributes.flatMap (writeAttribute name) ++ ['>'] ++ writeNodes (isRaw name) children ++ "</" ++
          name ++ ['>'] := rfl

theorem writeNodes_cons (verbatim : Bool) (n : Node) (ns : List Node) :
    writeNodes verbatim (n :: ns) = writeNode verbatim n ++ writeNodes verbatim ns := rfl

/-- All nodes but runs of text end with a tag, and are the same wherever they stand. -/
theorem writeNode_of_not_text {n : Node} (h : ∀ t, n ≠ .text t) :
    (writeNode true n = writeNode false n) ∧ (writeNode false n).getLast? = some '>' := by
  cases n with
  | text t => exact absurd rfl (h t)
  | comment t => exact ⟨rfl, getLast?_append_cons ("<!--" ++ t) '-' "->"⟩
  | instruction t => exact ⟨rfl, getLast?_append_cons ("<?" ++ t) '>' ""⟩
  | element name attributes children =>
    refine ⟨rfl, ?_⟩
    rw [writeNode_element]
    split
    · exact List.getLast?_concat
    · exact List.getLast?_concat

/-- The tags that declare the type are left out of nodes and of what follows them, each on its own. -/
theorem stripped_writeNodes_append (ns : List Node) (u : Text) :
    stripped (writeNodes false ns ++ u) = stripped (writeNodes false ns) ++ stripped u := by
  induction ns with
  | nil => rfl
  | cons n ns ih =>
    rw [writeNodes_cons, List.append_assoc]
    by_cases h : ∃ t, n = .text t
    · obtain ⟨t, rfl⟩ := h
      have hnone : '<' ∉ writeNode false (.text t) := notMem_escape t
      rw [stripped_append_of_notMem hnone, stripped_append_of_notMem hnone, ih, List.append_assoc]
    · have hend : EndsTag (writeNode false n) := .inr (writeNode_of_not_text fun t heq => h ⟨t, heq⟩).2
      rw [stripped_append hend, stripped_append hend, ih, List.append_assoc]

/-- Nodes of which no text has to be escaped are the same as they stand. -/
theorem writeNodes_of_isPlain {ns : List Node} (h : ∀ t, Node.text t ∈ ns → IsPlain t) :
    writeNodes true ns = writeNodes false ns := by
  induction ns with
  | nil => rfl
  | cons n ns ih =>
    rw [writeNodes_cons, writeNodes_cons, ih fun t ht => h t (List.mem_cons_of_mem n ht)]
    refine congrArg (· ++ _) ?_
    by_cases htext : ∃ t, n = .text t
    · obtain ⟨t, rfl⟩ := htext
      exact (escape_of_isPlain (h t List.mem_cons_self)).symm
    · exact (writeNode_of_not_text fun t heq => htext ⟨t, heq⟩).1

/-- How many characters escaping adds to the runs of text among nodes. -/
def excess : List Node → Nat
  | [] => 0
  | .text t :: ns => ((escape t).length - t.length) + excess ns
  | _ :: ns => excess ns

theorem excess_of_not_text {n : Node} (h : ∀ t, n ≠ .text t) (ns : List Node) : excess (n :: ns) = excess ns := by
  cases n with
  | text t => exact absurd rfl (h t)
  | _ => rfl

theorem excess_pos {ns : List Node} {t : Text} (ht : Node.text t ∈ ns) (h : ¬IsPlain t) : 0 < excess ns := by
  induction ns with
  | nil => cases ht
  | cons n ns ih =>
    rcases List.mem_cons.1 ht with rfl | ht
    · have hlonger := length_lt_escape h
      rw [excess]
      omega
    · have hrest := ih ht
      cases n with
      | text s =>
        rw [excess]
        omega
      | _ => exact hrest

/-- Nodes whose text stands as it is are shorter by what escaping adds to it, or by more: a tag may be left out that else
    would be escaped. -/
theorem length_stripped_writeNodes_add_le (ns : List Node) (u : Text) :
    (stripped (writeNodes true ns ++ u)).length + excess ns ≤
      (stripped (writeNodes false ns)).length + (stripped u).length := by
  induction ns with
  | nil => exact Nat.le_add_left _ _
  | cons n ns ih =>
    rw [writeNodes_cons, writeNodes_cons, List.append_assoc]
    by_cases h : ∃ t, n = .text t
    · obtain ⟨t, rfl⟩ := h
      have hnone : '<' ∉ writeNode false (.text t) := notMem_escape t
      have hfirst : (stripped (writeNode true (.text t) ++ (writeNodes true ns ++ u))).length ≤
        t.length + (stripped (writeNodes true ns ++ u)).length := length_stripped_append_le t _
      have hescaped : (writeNode false (.text t)).length = (escape t).length := rfl
      have hlonger := length_le_escape t
      rw [stripped_append_of_notMem hnone, List.length_append, excess]
      omega
    · obtain ⟨hsame, hend⟩ := writeNode_of_not_text fun t heq => h ⟨t, heq⟩
      rw [hsame, stripped_append (.inr hend), stripped_append (.inr hend), List.length_append, List.length_append,
        excess_of_not_text fun t heq => h ⟨t, heq⟩]
      omega

/-! ### Elements -/

namespace Element

/-- The start tag of an element. -/
def startTag (e : Element) : Text := '<' :: e.name ++ e.node.attributes.flatMap (writeAttribute e.name) ++ ['>']

/-- The end tag of an element, which one that may end without it does not have if it is empty. -/
def endTag (e : Element) : Text :=
  if e.node.children.isEmpty && endsSilently e.name then [] else "</" ++ e.name ++ ['>']

variable {e : Element}

theorem getLast?_startTag (e : Element) : e.startTag.getLast? = some '>' := List.getLast?_concat

/-- An element is written as its tags and the nodes between them, whose text may stand as it is. -/
theorem outer_eq (he : e.node.isElement = true) (hvoid : isVoid e.name = false) :
    e.outer = stripped e.startTag ++ stripped (writeNodes (isRaw e.name) e.node.children ++ e.endTag) := by
  rw [← stripped_append (.inr (getLast?_startTag e))]
  refine congrArg stripped ?_
  rw [Element.name] at hvoid
  rw [startTag, endTag, Element.name]
  generalize e.node = n at he hvoid
  cases n with
  | element name attributes children =>
    have hvoid : isVoid name = false := hvoid
    show writeNode false (.element name attributes children) =
      '<' :: name ++ attributes.flatMap (writeAttribute name) ++ ['>'] ++ (writeNodes (isRaw name) children ++
        (if children.isEmpty && endsSilently name then [] else "</" ++ name ++ ['>'] : Text))
    rw [writeNode_element]
    by_cases hsilent : (children.isEmpty && endsSilently name) = true
    · rw [if_pos hsilent, if_pos (by rw [hsilent, Bool.or_true])]
      rw [Bool.and_eq_true, List.isEmpty_iff] at hsilent
      rw [hsilent.1]
      exact (List.append_nil _).symm
    · rw [if_neg hsilent, if_neg (by rwa [hvoid, Bool.false_or])]
      simp only [List.append_assoc]
  | text t => cases he
  | comment t => cases he
  | instruction t => cases he

/-- A tag that declares the type stands in the end tag only if it stands in the name, and so in the start tag. -/
theorem notInfix_endTag (h : ¬declaration <:+: e.startTag) : ¬declaration <:+: e.endTag := by
  rw [endTag]
  split
  · exact fun hinside => absurd (List.infix_nil.1 hinside) (by decide)
  intro hinside
  have hinside : declaration <:+: '<' :: '/' :: (e.name ++ ['>']) := hinside
  have hslash : declaration <:+: '/' :: (e.name ++ ['>']) :=
    (List.infix_cons_iff.1 hinside).resolve_left fun ⟨w, hw⟩ =>
      absurd (List.cons.inj (List.cons.inj hw).2).1 (by decide)
  have hclosed : declaration <:+: e.name ++ ['>'] :=
    (List.infix_cons_iff.1 hslash).resolve_left fun ⟨w, hw⟩ => absurd (List.cons.inj hw).1 (by decide)
  have hname : declaration <:+: e.name := by
    refine (List.infix_concat_iff.1 hclosed).resolve_left fun ⟨w, hw⟩ => ?_
    have hlast := congrArg List.getLast? hw
    rw [List.getLast?_append, List.getLast?_concat] at hlast
    cases hlast
  refine h (hname.trans ⟨['<'], e.node.attributes.flatMap (writeAttribute e.name) ++ ['>'], ?_⟩)
  rw [startTag]
  simp

/-- An element that is not void is written as its start tag, what stands inside, and its end tag, exactly if its text
    stands as it is only where nothing in it has to be escaped, and no declaration is left out of the start tag. -/
theorem outer_eq_iff (he : e.node.isElement = true) (hvoid : isVoid e.name = false) :
    e.outer = e.startTag ++ e.inner ++ e.endTag ↔
      (isRaw e.name = true → ∀ t, Node.text t ∈ e.node.children → IsPlain t) ∧ ¬declaration <:+: e.startTag := by
  have hinner : e.inner = stripped (writeNodes false e.node.children) := rfl
  rw [outer_eq he hvoid, hinner]
  constructor
  · -- no part is longer in the whole than on its own, so that none may be shorter either
    intro heq
    have hlength := congrArg List.length heq
    have hstart := (stripped_sublist e.startTag).length_le
    have hend := (stripped_sublist e.endTag).length_le
    have hcontent : (stripped (writeNodes (isRaw e.name) e.node.children ++ e.endTag)).length +
        (if isRaw e.name then excess e.node.children else 0) ≤
          (stripped (writeNodes false e.node.children)).length + (stripped e.endTag).length := by
      cases isRaw e.name with
      | true => exact length_stripped_writeNodes_add_le _ _
      | false =>
        rw [stripped_writeNodes_append, List.length_append]
        exact Nat.le_refl _
    simp only [List.length_append] at hlength
    refine ⟨fun hraw t ht => Classical.byContradiction fun hplain => ?_, (stripped_eq_self_iff (getLast?_startTag e)).1 ?_⟩
    · have hpos := excess_pos ht hplain
      rw [hraw, if_pos rfl] at hcontent
      rw [hraw] at hlength
      omega
    · refine (stripped_sublist e.startTag).eq_of_length ?_
      omega
  · rintro ⟨hplain, hnone⟩
    have hsame : writeNodes (isRaw e.name) e.node.children = writeNodes false e.node.children := by
      cases hraw : isRaw e.name with
      | true => exact writeNodes_of_isPlain (hplain hraw)
      | false => rfl
    rw [hsame, stripped_writeNodes_append, stripped_of_notInfix hnone, stripped_of_notInfix (notInfix_endTag hnone),
      List.append_assoc]

/-- A script in which nothing would have to be escaped. -/
theorem outer_eq_iff_script :
    ∃ d e : Element, document? "<body><script type=a>x='1'</script></body>" = some d ∧ e = ⟨d.root, [0, 0]⟩ ∧
      e.node.isElement = true ∧ isVoid e.name = false ∧ isRaw e.name = true ∧
      e.outer = e.startTag ++ e.inner ++ e.endTag ∧ e.outer = "<script type=\"a\">x='1'</script>" := by
  let root : Node := .element "html" [] [.element "body" [] [.element "script" [⟨"type", some "a"⟩] [.text "x='1'"]]]
  have hdocument : document? "<body><script type=a>x='1'</script></body>" = some ⟨root, []⟩ := rfl
  have helement : (Element.mk root [0, 0]).node.isElement = true := rfl
  have hvoid : isVoid (Element.mk root [0, 0]).name = false := by decide
  have hplain : ∀ t, Node.text t ∈ (Element.mk root [0, 0]).node.children → IsPlain t := by
    intro t ht
    obtain rfl : t = "x='1'".toList := Node.text.inj (List.mem_singleton.1 ht)
    exact Text.forall_mem_of_all (by decide)
  have hnone : ¬declaration <:+: (Element.mk root [0, 0]).startTag := fun hinside =>
    absurd hinside.length_le (by decide)
  exact ⟨_, _, hdocument, rfl, helement, hvoid, by decide, (outer_eq_iff helement hvoid).2 ⟨fun _ => hplain, hnone⟩, rfl⟩

/-- A script with a sign that means something elsewhere: inside the element it is escaped, in the element it is not. -/
theorem outer_of_script :
    ∃ d e : Element, document? "<body><script>a<b</script></body>" = some d ∧ e = ⟨d.root, [0, 0]⟩ ∧
      e.name = "script" ∧ isVoid e.name = false ∧ e.outer = "<script>a<b</script>" ∧ e.startTag = "<script>" ∧
      e.inner = "a&lt;b" ∧ e.endTag = "</script>" ∧ e.outer ≠ e.startTag ++ e.inner ++ e.endTag := by
  let root : Node := .element "html" [] [.element "body" [] [.element "script" [] [.text "a<b"]]]
  have hdocument : document? "<body><script>a<b</script></body>" = some ⟨root, []⟩ := rfl
  exact ⟨_, _, hdocument, rfl, rfl, by decide, rfl, rfl, rfl, rfl, by decide⟩

end Element

end PageQuery.Html
