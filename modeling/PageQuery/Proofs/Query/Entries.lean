import PageQuery.Proofs.Query.Gathering

namespace PageQuery.Query

/-!
# Regular expressions of both forms

The bodies of a `regexp` parameter and the entries of a `transform` parameter are cut at semicolons and put together
again. A `regexp` parameter gives each of its bodies as it is written. In a `transform` parameter the white space in
front of the first semicolon of a body is lost.

* `gatherRegexps_body`, `gatherTransforms_entry`: the pieces of a body and of an entry are put together again;
* `IsEntry`, `entryOf`: how an entry is written, and what it is read as;
* `Tight`, `tightened_eq_iff`: bodies that lose nothing;
* `regexps_whole`: what the two forms give, alone and in a segment.
-/

/-! ### The short form -/

/-- As long as a body is not closed, pieces are added to it. -/
theorem gatherRegexps_open {t : Text} {pieces more : List Text}
    (h : ∀ ps, ps <+: pieces → isCompleteRegexp (regexpMark ++ Text.trim (t ++ glue ps)) = false) :
    gatherRegexps (some t) (pieces ++ more) = gatherRegexps (some (t ++ glue pieces)) more := by
  -- with each piece what is pending grows, and the pieces behind it are added to more
  induction pieces generalizing t with
  | nil => simp
  | cons part pieces ih =>
    have hpart : isCompleteRegexp (regexpMark ++ Text.trim (t ++ ';' :: part)) = false := by
      simpa using h [part] ⟨pieces, rfl⟩
    have hrest : ∀ ps, ps <+: pieces →
        isCompleteRegexp (regexpMark ++ Text.trim (t ++ ';' :: part ++ glue ps)) = false := by
      intro ps hps
      simpa using h (part :: ps) ((List.prefix_cons_inj part).2 hps)
    rw [List.cons_append, gatherRegexps]
    simp only [hpart, Bool.false_eq_true, if_false]
    rw [ih hrest, glue_cons, List.append_assoc, List.cons_append]

/-- The pieces of a body are put together again. -/
theorem gatherRegexps_body {b : Text} (hb : Delimited [';'] b) (more : List Text) :
    gatherRegexps none (splitUnescaped ';' b ++ more) = b :: gatherRegexps none more := by
  have hplain : ∀ c ∈ (['/'] : Text), c ≠ ';' ∧ c ≠ '\\' := Text.forall_mem_of_all rfl
  have hclosed : isCompleteRegexp (regexpMark ++ Text.trim b) = true := by
    rw [hb.trim_eq, isCompleteRegexp_mark, hb.isCompleteBody]
  rcases hb.exists_pieces with ⟨q, rfl, hsplit⟩ | ⟨first, init, lead, rfl, hsplit⟩
  · -- no semicolon cuts the body
    have hone : splitUnescaped ';' ('/' :: (q ++ ['/'])) = ['/' :: (q ++ ['/'])] :=
      splitUnescaped_append hplain hsplit
    rw [hone, List.singleton_append, gatherRegexps]
    simp only [hclosed, if_true]
  · have hpieces : splitUnescaped ';' ('/' :: (first ++ glue init ++ ';' :: (lead ++ ['/']))) =
        ('/' :: first) :: (init ++ [lead ++ ['/']]) := splitUnescaped_append hplain hsplit
    -- no beginning of the body is closed, be it trimmed or not
    have hopen : ∀ ps, ps <+: init →
        isCompleteRegexp (regexpMark ++ Text.trim ('/' :: first ++ glue ps)) = false := by
      intro ps hps
      have htrim : Text.trim ('/' :: first ++ glue ps) = '/' :: Text.trimRight (first ++ glue ps) :=
        Text.trim_append_cons rfl [] _
      rw [htrim, isCompleteRegexp_mark]
      apply isCompleteBody_of_unfinished
      exact (hb.unfinished_pieces ps hps).trimRight
    have hfirst : isCompleteRegexp (regexpMark ++ Text.trim ('/' :: first)) = false := by
      simpa using hopen [] List.nil_prefix
    rw [hpieces, List.cons_append, gatherRegexps]
    simp only [hfirst, Bool.false_eq_true, if_false]
    rw [List.append_assoc, gatherRegexps_open hopen, List.singleton_append, gatherRegexps]
    -- with the last piece the body is whole again
    exact if_pos hclosed

/-! ### Entries -/

/-- How an entry of a `transform` value is written: as a marked body, or as a text without semicolons that is not
    marked and does not end with a backslash. -/
inductive IsEntry : Text → Prop where
  | regexp {b : Text} (hb : Delimited [';'] b) : IsEntry (regexpMark ++ b)
  | plain {t : Text} (hsep : ';' ∉ t) (hlast : t.getLast? ≠ some '\\')
      (hmark : Text.startsWith regexpMark (Text.trim t) = false) : IsEntry t

/-- What an entry is read as. -/
def entryOf (t : Text) : Text :=
  match Text.after? regexpMark t with
  | none => t
  | some b => regexpMark ++ tightened b

theorem entryOf_mark (b : Text) : entryOf (regexpMark ++ b) = regexpMark ++ tightened b := by
  rw [entryOf, Text.after?_eq_some_iff.2 rfl]

theorem trim_regexpMark (b : Text) : Text.trim (regexpMark ++ b) = regexpMark ++ Text.trimRight b :=
  Text.trim_append_cons rfl "regexp" b

/-- A text that is not marked when it is trimmed is read as it is written. -/
theorem entryOf_plain {t : Text} (h : Text.startsWith regexpMark (Text.trim t) = false) : entryOf t = t := by
  rw [entryOf]
  split
  · rfl
  · next b hb =>
    -- a mark is not trimmed
    obtain rfl := Text.after?_eq_some_iff.1 hb
    have hmark : Text.startsWith regexpMark (Text.trim (regexpMark ++ b)) = true := by
      rw [trim_regexpMark]
      exact Text.startsWith_iff.2 (List.prefix_append _ _)
    rw [hmark] at h
    cases h

/-- A text without separators is not cut. -/
theorem splitUnescaped_of_sep_notMem {sep : Char} {t : Text} (h : sep ∉ t) : splitUnescaped sep t = [t] := by
  obtain ⟨first, others, hsplit, hjoin⟩ := exists_splitUnescapedFrom_eq sep false t
  cases others with
  | nil =>
    rw [List.flatMap_nil, List.append_nil] at hjoin
    rw [splitUnescaped, hsplit, hjoin]
  | cons part others =>
    -- a second piece stands behind a separator
    exact absurd (by simp [hjoin]) h

/-- The pieces of an entry are put together again. -/
theorem gatherTransforms_entry {t : Text} (h : IsEntry t) (more : List Text) :
    gatherTransforms none (splitUnescaped ';' t ++ more) = entryOf t :: gatherTransforms none more := by
  cases h with
  | regexp hb => rw [entryOf_mark, gatherTransforms_body hb]
  | plain hsep _ hmark =>
    rw [splitUnescaped_of_sep_notMem hsep, entryOf_plain hmark]
    exact gatherTransforms_plain (List.forall_mem_singleton.2 hmark) more

theorem Delimited.getLast?_ne {stops b : Text} (hb : Delimited stops b) : b.getLast? ≠ some '\\' := by
  rw [hb.getLast?_eq]
  decide

theorem IsEntry.getLast?_ne {t : Text} (h : IsEntry t) : t.getLast? ≠ some '\\' := by
  cases h with
  | regexp hb =>
    rw [List.getLast?_append, hb.getLast?_eq]
    simp
  | plain _ hlast _ => exact hlast

/-! ### White space in front of semicolons -/

/-- What stands in front of the first semicolon that cuts a body does not end with white space. -/
def Tight (b : Text) : Prop := ((splitUnescaped ';' b).headD []).getLast?.any Text.isSpace = false

instance : DecidablePred Tight := fun b =>
  inferInstanceAs (Decidable (((splitUnescaped ';' b).headD []).getLast?.any Text.isSpace = false))

/-- Only white space in front of that semicolon is lost. -/
theorem tightened_eq_iff (b : Text) : tightened b = b ↔ Tight b := by
  obtain ⟨first, pieces, hsplit, hjoin⟩ := exists_splitUnescapedFrom_eq ';' false b
  have hwhole : splitUnescaped ';' b = first :: pieces := hsplit
  have hb : tightened b = b ↔ Text.trimRight first ++ glue pieces = first ++ glue pieces := by
    rw [tightened, hwhole]
    show Text.trimRight first ++ glue pieces = b ↔ _
    exact Eq.congr_right hjoin
  -- the pieces behind the first are the same
  rw [hb, List.append_left_inj, Tight, hwhole]
  exact Text.dropEndWhile_eq_self_iff

theorem entryOf_mark_eq_iff (b : Text) : entryOf (regexpMark ++ b) = regexpMark ++ b ↔ Tight b := by
  rw [entryOf_mark, List.append_right_inj, tightened_eq_iff]

/-! ### Joined values -/

theorem splitRegexps_join {bodies : List Text} (hne : bodies ≠ []) (h : ∀ b ∈ bodies, Delimited [';'] b) :
    splitRegexps (Text.join [';'] bodies) = bodies := by
  have hjoin : splitRegexps (Text.join [';'] bodies) = bodies.map id := by
    refine Text.split_join hne (fun b hb => ?_) fun b hb u => ?_
    · simpa [splitRegexps, gatherRegexps] using gatherRegexps_body (h b hb) []
    · rw [splitRegexps, splitUnescaped, splitUnescapedFrom_append (fun _ => rfl) (h b hb).getLast?_ne]
      exact gatherRegexps_body (h b hb) _
  rw [hjoin, List.map_id]

theorem splitTransforms_join {items : List Text} (hne : items ≠ []) (h : ∀ t ∈ items, IsEntry t) :
    splitTransforms (Text.join [';'] items) = items.map entryOf := by
  refine Text.split_join hne (fun t ht => ?_) fun t ht u => ?_
  · simpa [splitTransforms, gatherTransforms] using gatherTransforms_entry (h t ht) []
  · rw [splitTransforms, splitUnescaped, splitUnescapedFrom_append (fun _ => rfl) (h t ht).getLast?_ne]
    exact gatherTransforms_entry (h t ht) _

/-- Entries are read as they are written if no body among them loses white space. -/
theorem splitTransforms_join_eq_iff {items : List Text} (hne : items ≠ []) (h : ∀ t ∈ items, IsEntry t) :
    splitTransforms (Text.join [';'] items) = items ↔ ∀ b, regexpMark ++ b ∈ items → Tight b := by
  rw [splitTransforms_join hne h]
  constructor
  · intro hmap b hb
    have hsame : ∀ t ∈ items, entryOf t = t := List.map_inj_left.1 (hmap.trans (List.map_id _).symm)
    exact (entryOf_mark_eq_iff b).1 (hsame _ hb)
  · intro htight
    have hsame : ∀ t ∈ items, entryOf t = t := by
      intro t ht
      cases h t ht with
      | regexp hb => exact (entryOf_mark_eq_iff _).2 (htight _ ht)
      | plain _ _ hmark => exact entryOf_plain hmark
    exact (List.map_congr_left hsame).trans (List.map_id _)

/-! ### Segments of both forms -/

/-- Bodies as a parameter of the short form. -/
def shortParam (bodies : List Text) : Text × Text := ("regexp", Text.join [';'] bodies)

/-- Bodies as entries of a `transform` parameter. -/
def longParam (bodies : List Text) : Text × Text := ("transform", Text.join [';'] (bodies.map (regexpMark ++ ·)))

section Segments

variable {pre post : List (Text × Text)} {bodies : List Text}

/-- A pair among others gives no text for their names. -/
theorem textsUnder_of_ne {name : Text} {p : Text × Text} (h : name ≠ p.1) :
    textsUnder name (pre ++ p :: post) = textsUnder name (pre ++ post) := by
  rw [textsUnder_append, textsUnder_append, textsUnder_cons, if_neg h]

/-- A pair among others gives the only text for its name. -/
theorem textsUnder_of_only (p : Text × Text) (h : ∀ q ∈ pre ++ post, q.1 ≠ p.1) :
    textsUnder p.1 (pre ++ p :: post) = [p.2] := by
  obtain ⟨hpre, hpost⟩ := List.forall_mem_append.1 h
  rw [textsUnder_append, textsUnder_cons, if_pos rfl, textsUnder_eq_nil hpre, textsUnder_eq_nil hpost]
  rfl

/-- The transforms of the short form are its bodies, marked. -/
theorem transform_shortParam (hne : bodies ≠ []) (h : ∀ b ∈ bodies, Delimited [';'] b)
    (hothers : ∀ p ∈ pre ++ post, p.1 ≠ "transform" ∧ p.1 ≠ "regexp") :
    (transformsOf (gathered (pre ++ shortParam bodies :: post))).transform = bodies.map (regexpMark ++ ·) := by
  have hname : ("transform" : Text) ≠ (shortParam bodies).1 := show ("transform" : Text) ≠ "regexp" by decide
  have hnone : textsUnder "transform" (pre ++ shortParam bodies :: post) = [] := by
    rw [textsUnder_of_ne hname]
    exact textsUnder_eq_nil fun p hp => (hothers p hp).1
  have honly : textsUnder "regexp" (pre ++ shortParam bodies :: post) = [Text.join [';'] bodies] :=
    textsUnder_of_only (shortParam bodies) fun p hp => (hothers p hp).2
  rw [transform_gathered, hnone, honly, List.flatMap_singleton, splitRegexps_join hne h]
  rfl

/-- The transforms of the other form are what its entries are read as. -/
theorem transform_longParam (hne : bodies ≠ []) (h : ∀ b ∈ bodies, Delimited [';'] b)
    (hothers : ∀ p ∈ pre ++ post, p.1 ≠ "transform" ∧ p.1 ≠ "regexp") :
    (transformsOf (gathered (pre ++ longParam bodies :: post))).transform =
      bodies.map fun b => entryOf (regexpMark ++ b) := by
  have hname : ("regexp" : Text) ≠ (longParam bodies).1 := show ("regexp" : Text) ≠ "transform" by decide
  have hnone : textsUnder "regexp" (pre ++ longParam bodies :: post) = [] := by
    rw [textsUnder_of_ne hname]
    exact textsUnder_eq_nil fun p hp => (hothers p hp).2
  have honly : textsUnder "transform" (pre ++ longParam bodies :: post) =
      [Text.join [';'] (bodies.map (regexpMark ++ ·))] :=
    textsUnder_of_only (longParam bodies) fun p hp => (hothers p hp).1
  have hentries : ∀ t ∈ bodies.map (regexpMark ++ ·), IsEntry t :=
    List.forall_mem_map.2 fun b hb => .regexp (h b hb)
  rw [transform_gathered, hnone, honly, List.flatMap_singleton, splitTransforms_join (by simpa using hne) hentries,
    List.map_map]
  exact List.append_nil _

/-- Both forms give the same transforms if no body loses white space. -/
theorem transformsOf_params_eq_iff (hne : bodies ≠ []) (h : ∀ b ∈ bodies, Delimited [';'] b)
    (hothers : ∀ p ∈ pre ++ post, p.1 ≠ "transform" ∧ p.1 ≠ "regexp") :
    transformsOf (gathered (pre ++ shortParam bodies :: post)) =
        transformsOf (gathered (pre ++ longParam bodies :: post)) ↔ ∀ b ∈ bodies, Tight b := by
  have hsame : ∀ name : Text, name ≠ "transform" → name ≠ "regexp" →
      textsUnder name (pre ++ shortParam bodies :: post) = textsUnder name (pre ++ longParam bodies :: post) := by
    -- the other names see neither of the two parameters
    intro name htransform hregexp
    rw [textsUnder_of_ne hregexp, textsUnder_of_ne htransform]
  rw [transformsOf_gathered_eq_iff hsame, transform_shortParam hne h hothers, transform_longParam hne h hothers,
    List.map_inj_left]
  exact forall₂_congr fun b _ => eq_comm.trans (entryOf_mark_eq_iff b)

/-- Two texts that spell the same but for the form of some bodies. -/
theorem parseSegment_params {t₁ t₂ x : Text} {s : Scheme} (hne : bodies ≠ [])
    (h : ∀ b ∈ bodies, Delimited [';'] b) (hothers : ∀ p ∈ pre ++ post, p.1 ≠ "transform" ∧ p.1 ≠ "regexp")
    (h₁ : Spells t₁ s x (pre ++ shortParam bodies :: post)) (h₂ : Spells t₂ s x (pre ++ longParam bodies :: post))
    (required piped : Bool) :
    (parseSegment t₁ required piped = .error (.repeatedMark t₁) ∧
      parseSegment t₂ required piped = .error (.repeatedMark t₂)) ∨
    ∃ s₁ s₂, parseSegment t₁ required piped = .ok s₁ ∧ parseSegment t₂ required piped = .ok s₂ ∧
      (s₁.transforms = s₂.transforms ↔ ∀ b ∈ bodies, Tight b) := by
  have hmark : ∀ p : Text × Text, hasStrayMark p.1 p.2 = false →
      (pre ++ p :: post).any (fun p => hasStrayMark p.1 p.2) = (pre ++ post).any fun p => hasStrayMark p.1 p.2 := by
    intro p hp
    rw [List.any_append, List.any_append, List.any_cons, hp, Bool.false_or]
  rw [parseSegment_of_spells h₁, parseSegment_of_spells h₂, hmark (shortParam bodies) rfl, hmark (longParam bodies) rfl]
  by_cases hstray : ((pre ++ post).any fun p => hasStrayMark p.1 p.2) = true
  · rw [if_pos hstray, if_pos hstray]
    exact .inl ⟨rfl, rfl⟩
  · rw [if_neg hstray, if_neg hstray]
    exact .inr ⟨_, _, rfl, rfl, transformsOf_params_eq_iff hne h hothers⟩

/-! ### Texts of both forms -/

/-- Behind the first slash of a value the short form is open at each ampersand, unless a slash stands right in front
    of it. -/
theorem steady_of_slash {v : Text} (hv : ['/'] <+: v) (h : ¬['/', '&'] <:+: v) : Steady "regexp" v := by
  rintro a u rfl -
  obtain ⟨q, rfl⟩ : ∃ q, a = '/' :: q := by
    obtain ⟨w, hw⟩ := hv
    cases a with
    | nil => cases hw
    | cons c q =>
      obtain ⟨rfl, -⟩ := List.cons.inj hw
      exact ⟨q, rfl⟩
  have hopen : isCompleteBody ('/' :: q) = false := by
    -- the slash that closes a body would stand right in front of the ampersand
    rw [← Bool.not_eq_true]
    intro hclosed
    obtain ⟨t, rfl⟩ := exists_concat_of_isCompleteBody hclosed
    exact h ⟨'/' :: t, u, by simp⟩
  rw [insideRegexp, if_pos rfl, isCompleteRegexp_mark, hopen]
  rfl

/-- Behind a slash there is no white space to be trimmed. -/
theorem trimRight_of_getLast? {t : Text} (h : t.getLast? = some '/') : Text.trimRight t = t := by
  refine Text.dropEndWhile_eq_self_iff.2 ?_
  rw [h]
  rfl

/-- Both forms are found again at the end of a segment, also if there are ampersands in the bodies. -/
theorem spells_params (hne : bodies ≠ []) (h : ∀ b ∈ bodies, IsBody b)
    (hslash : ¬['/', '&'] <:+: Text.join [';'] bodies) (s : Scheme) {x : Text} (hx : IsPath x)
    (hpre : ∀ p ∈ pre, IsName p.1 ∧ Carried p.1 p.2) :
    Spells (segmentText s x (pre ++ [shortParam bodies])) s (cleanPath s x) (pre ++ [shortParam bodies]) ∧
      Spells (segmentText s x (pre ++ [longParam bodies])) s (cleanPath s x) (pre ++ [longParam bodies]) := by
  have hshort : Text.trimRight (shortParam bodies).2 = (shortParam bodies).2 :=
    trimRight_of_getLast? (Text.getLast?_join hne fun b hb => (h b hb).delimited.getLast?_eq)
  have hlong : Text.trimRight (longParam bodies).2 = (longParam bodies).2 := by
    refine trimRight_of_getLast? (Text.getLast?_join (by simpa using hne) (List.forall_mem_map.2 fun b hb => ?_))
    rw [List.getLast?_append, (h b hb).delimited.getLast?_eq]
    rfl
  have hfirst : ['/'] <+: Text.join [';'] bodies := by
    obtain ⟨b, rest, rfl⟩ := List.exists_cons_of_ne_nil hne
    obtain ⟨q, rfl⟩ := (h b List.mem_cons_self).exists_eq_concat
    obtain ⟨u, hu⟩ := Text.exists_join_cons [';'] ('/' :: (q ++ ['/'])) rest
    exact ⟨q ++ ['/'] ++ u, hu.symm⟩
  have hitems : Carried "transform" (longParam bodies).2 :=
    .items (List.forall_mem_map.2 fun b hb => .regexp (h b hb))
  have hregexp : IsName "regexp" := ⟨'r', "egexp", rfl, .inl rfl, Text.forall_mem_of_all rfl⟩
  have htransform : IsName "transform" := ⟨'t', "ransform", rfl, .inl rfl, Text.forall_mem_of_all rfl⟩
  constructor
  · have hspells := spells_segmentText s hx hpre hregexp (v := (shortParam bodies).2)
    rw [hshort] at hspells
    exact hspells (steady_of_slash hfirst hslash)
  · have hspells := spells_segmentText s hx hpre htransform (v := (longParam bodies).2)
    rw [hlong] at hspells
    exact hspells hitems.steady

end Segments

/-- The bodies of a `regexp` value are read as they are written. The entries of a `transform` value, marked bodies and
    others, are read as they are written if and only if no body among them has white space in front of the first
    semicolon that cuts it. With this condition, and no other, two texts that spell the same but for the form of some
    bodies give segments with the same transforms, unless a question mark stands where it may not in both. They do
    spell the same if the texts are written with these forms at their ends, no replacement starts with an ampersand
    behind white space, and no ampersand stands right behind a slash. -/
theorem regexps_whole {bodies items : List Text} (hbodies : bodies ≠ []) (hdelimited : ∀ b ∈ bodies, Delimited [';'] b)
    (hitems : items ≠ []) (hentries : ∀ t ∈ items, IsEntry t) :
    splitRegexps (Text.join [';'] bodies) = bodies ∧
    (splitTransforms (Text.join [';'] items) = items ↔ ∀ b, regexpMark ++ b ∈ items → Tight b) ∧
    (∀ (t₁ t₂ : Text) (s : Scheme) (x : Text) (pre post : List (Text × Text)),
      (∀ p ∈ pre ++ post, p.1 ≠ "transform" ∧ p.1 ≠ "regexp") →
      Spells t₁ s x (pre ++ shortParam bodies :: post) → Spells t₂ s x (pre ++ longParam bodies :: post) →
      ∀ required piped : Bool,
        (parseSegment t₁ required piped = .error (.repeatedMark t₁) ∧
          parseSegment t₂ required piped = .error (.repeatedMark t₂)) ∨
        ∃ s₁ s₂, parseSegment t₁ required piped = .ok s₁ ∧ parseSegment t₂ required piped = .ok s₂ ∧
          (s₁.transforms = s₂.transforms ↔ ∀ b ∈ bodies, Tight b)) ∧
    ((∀ b ∈ bodies, IsBody b) → ¬['/', '&'] <:+: Text.join [';'] bodies →
      ∀ (s : Scheme) (x : Text) (pre : List (Text × Text)), IsPath x → (∀ p ∈ pre, IsName p.1 ∧ Carried p.1 p.2) →
        Spells (segmentText s x (pre ++ [shortParam bodies])) s (cleanPath s x) (pre ++ [shortParam bodies]) ∧
          Spells (segmentText s x (pre ++ [longParam bodies])) s (cleanPath s x) (pre ++ [longParam bodies])) := by
  refine ⟨splitRegexps_join hbodies hdelimited, splitTransforms_join_eq_iff hitems hentries, ?_, ?_⟩
  · intro t₁ t₂ s x pre post hothers h₁ h₂ required piped
    exact parseSegment_params hbodies hdelimited hothers h₁ h₂ required piped
  · intro h hslash s x pre hx hpre
    exact spells_params hbodies h hslash s hx hpre

/-- Two bodies with semicolons and an ampersand inside, in both forms, and a plain entry between them. -/
theorem regexps_whole_mixed :
    splitRegexps "/a;b &/;/c;/d;e/" = (["/a;b &/", "/c;/d;e/"] : List Text) ∧
    splitTransforms "regexp:/a;b &/; x y;regexp:/c;/d;e/" =
      (["regexp:/a;b &/", " x y", "regexp:/c;/d;e/"] : List Text) ∧
    ∃ s₁ s₂, parseSegment "json:p?n=1&regexp=/a;b &/;/c;/d;e/" true false = .ok s₁ ∧
      parseSegment "json:p?n=1&transform=regexp:/a;b &/;regexp:/c;/d;e/" true false = .ok s₂ ∧
      s₁.transforms = s₂.transforms := by
  have hfirst : IsBody "/a;b &/" := .pattern (p := "a;b &") (.of_forall (Text.forall_mem_of_all rfl))
  have hsecond : IsBody "/c;/d;e/" :=
    .replacement (p := "c;") (r := "d;e") (.of_forall (Text.forall_mem_of_all rfl))
      (.of_forall (Text.forall_mem_of_all rfl)) (by decide) (by rintro c ⟨⟩; decide)
  have hbodies : ∀ b ∈ (["/a;b &/", "/c;/d;e/"] : List Text), IsBody b :=
    List.forall_mem_cons.2 ⟨hfirst, List.forall_mem_singleton.2 hsecond⟩
  have hdelimited : ∀ b ∈ (["/a;b &/", "/c;/d;e/"] : List Text), Delimited [';'] b := fun b hb =>
    (hbodies b hb).delimited.mono (by simp)
  have hentries : ∀ t ∈ (["regexp:/a;b &/", " x y", "regexp:/c;/d;e/"] : List Text), IsEntry t := by
    refine List.forall_mem_cons.2 ⟨.regexp (b := "/a;b &/") (hdelimited _ (.head _)), List.forall_mem_cons.2 ⟨?_,
      List.forall_mem_singleton.2 (.regexp (b := "/c;/d;e/") (hdelimited _ (.tail _ (.head _))))⟩⟩
    exact .plain (by decide) (by decide) (by decide)
  have htight : ∀ b ∈ (["/a;b &/", "/c;/d;e/"] : List Text), Tight b := by decide
  have hpath : IsPath "p" := .stretch (by decide) (by decide)
  have hpre : ∀ p ∈ ([("n", "1")] : List (Text × Text)), IsName p.1 ∧ Carried p.1 p.2 :=
    List.forall_mem_singleton.2 ⟨⟨'n', [], rfl, .inl rfl, nofun⟩,
      .text (by decide) (by decide) (.of_forall (Text.forall_mem_of_all rfl))⟩
  obtain ⟨hshort, hlong, hparse, hspells⟩ := regexps_whole (by decide) hdelimited (by decide) hentries
  obtain ⟨h₁, h₂⟩ := hspells hbodies (by decide +kernel) .json "p" [("n", "1")] hpath hpre
  refine ⟨hshort, hlong.2 fun b hb => ?_, ?_⟩
  · rcases List.mem_cons.1 hb with heq | hb
    · obtain rfl : b = ("/a;b &/" : Text) := (List.append_right_inj regexpMark).1 heq
      exact htight _ (.head _)
    rcases List.mem_cons.1 hb with heq | hb
    · cases heq
    · obtain rfl : b = ("/c;/d;e/" : Text) := (List.append_right_inj regexpMark).1 (List.mem_singleton.1 hb)
      exact htight _ (.tail _ (.head _))
  · rcases hparse _ _ .json _ [("n", "1")] [] (by decide) h₁ h₂ true false with
      ⟨herror, -⟩ | ⟨s₁, s₂, hs₁, hs₂, hsame⟩
    · rw [parseSegment_of_spells h₁] at herror
      cases herror
    · exact ⟨s₁, s₂, hs₁, hs₂, hsame.2 htight⟩

/-- White space in front of a semicolon in a body is lost in a `transform` value. -/
theorem regexp_not_whole :
    Delimited [';'] "/a ;b/" ∧ splitRegexps "/a ;b/" = (["/a ;b/"] : List Text) ∧
      splitTransforms "regexp:/a ;b/" = (["regexp:/a;b/"] : List Text) ∧
      splitTransforms "regexp:/a ;b/" ≠ (["regexp:/a ;b/"] : List Text) :=
  ⟨.pattern (p := "a ;b") (.of_forall (Text.forall_mem_of_all rfl)), by decide⟩

end PageQuery.Query
