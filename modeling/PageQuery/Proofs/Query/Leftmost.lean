import PageQuery.Proofs.Query.Lexing

namespace PageQuery.Query

/-!
# The leftmost lexing is the only one

A text can be cut into separators and other pieces in many ways. The pieces that are read from the left are told from
all other rows of pieces by conditions on each piece and on what follows it.

* `IsPiece`, `IsLexing`: the conditions, for a piece and for a row of pieces;
* `Readable`: lists of separators in which only a pipe is also the start of another separator;
* `IsStretch`, `stretches`: stretches between separators, and induction along separators and stretches;
* `isLexing_splitTexts`, `eq_splitTexts_of_isLexing`: the pieces that are read meet the conditions, and no others do;
* `split_leftmost`: the two together, for the separators of queries and of paths in JSON.
-/

/-- What a piece has to be, given the pieces after it. -/
structure IsPiece (seps : List Text) (p : Text) (after : List Text) : Prop where
  ne_nil : p ≠ []
  /-- Of two neighbours at least one is a separator. -/
  apart : ∀ q ∈ after.head?, p ∈ seps ∨ q ∈ seps
  /-- In a piece that is no separator there stands none. -/
  unseparated : p ∉ seps → ∀ s ∈ seps, ¬s <:+: p
  /-- What starts like a separator inside a piece that is none does not reach into the piece after it. -/
  unreached : p ∉ seps → ∀ u v, p = u ++ v → v ≠ [] → ∀ s ∈ seps, s <+: v ++ after.flatten → s.length ≤ v.length
  /-- A pipe is not the start of an array pipe. -/
  whole : p = pipeMark → ¬['>'] <+: after.flatten

/-- A row of pieces in which each one is as it has to be in front of those after it. -/
def IsLexing (seps : List Text) : List Text → Prop
  | [] => True
  | p :: after => IsPiece seps p after ∧ IsLexing seps after

/-- Separators of which each is read wherever it stands, a pipe that an array pipe starts with excepted. -/
structure Readable (seps : List Text) : Prop where
  nil_notMem : [] ∉ seps
  leading : ∀ s ∈ seps, ∀ rest, leading? seps (s ++ rest) = some s ↔ (s = pipeMark → ¬['>'] <+: rest)
  /-- If pipes are no separators, no separator goes on with what could make one longer. -/
  pipe : pipeMark ∈ seps ∨ ∀ s ∈ seps, ¬['>'] <+: s

/-! ### The separators of queries and paths -/

theorem readable_operators : Readable operators where
  nil_notMem := by decide
  leading := by
    intro s hs rest
    simp only [operators, List.mem_cons, List.not_mem_nil, or_false] at hs
    rcases hs with rfl | rfl | rfl | rfl
    · exact iff_of_true rfl (fun h => absurd h (by decide))
    · exact iff_of_true rfl (fun h => absurd h (by decide))
    · exact iff_of_true rfl (fun h => absurd h (by decide))
    · -- the array pipe is tried first, so what follows the pipe decides
      cases rest with
      | nil => exact iff_of_true rfl (fun _ => by decide)
      | cons c rest =>
        by_cases hc : '>' = c
        · subst hc
          simp [leading?, operators, fallbackMark, joinMark, arrayPipeMark, pipeMark, Text.startsWith, Text.after?]
        · simp [leading?, operators, fallbackMark, joinMark, arrayPipeMark, pipeMark, Text.startsWith, Text.after?, hc]
  pipe := .inl (by decide)

theorem readable_of_single {seps : List Text} (hseps : Single seps) (hpipe : ['>'] ∉ seps) : Readable seps where
  nil_notMem := by
    intro hnil
    obtain ⟨c, hc⟩ := hseps _ hnil
    cases hc
  leading := by
    intro s hs rest
    obtain ⟨c, rfl⟩ := hseps s hs
    refine iff_of_true (leading?_of_mem hseps hs rest) (fun h => ?_)
    simp [pipeMark] at h
  pipe := by
    refine .inr fun s hs hprefixed => ?_
    obtain ⟨c, rfl⟩ := hseps s hs
    obtain ⟨rfl, -⟩ := List.cons_prefix_cons.1 hprefixed
    exact hpipe hs

theorem readable_alternatives : Readable alternatives :=
  readable_of_single (by simp [Single, alternatives]) (by decide)

theorem readable_wildcards : Readable wildcards :=
  readable_of_single (by simp [Single, wildcards]) (by decide)

/-! ### Stretches between separators -/

/-- A stretch of text in front of `rest`: no separator is read anywhere in it, and one is read behind it unless
    nothing follows. -/
structure IsStretch (seps : List Text) (p rest : Text) : Prop where
  ne_nil : p ≠ []
  silent : ∀ u v, p = u ++ v → v ≠ [] → leading? seps (v ++ rest) = none
  ends : rest = [] ∨ ∃ s, leading? seps rest = some s

variable {seps : List Text} {p rest t : Text} {after ps : List Text}

/-- What follows the separator that is read is read on its own. -/
theorem exists_split_of_leading? {s : Text} (hnil : [] ∉ seps) (h : leading? seps t = some s) :
    ∃ rest, t = s ++ rest ∧ split seps t = .separator s :: split seps rest := by
  obtain ⟨hs, rest, rfl⟩ := leading?_eq_some h
  have hne : s ≠ [] := fun he => hnil (he ▸ hs)
  exact ⟨rest, rfl, split_append hne h⟩

/-- A stretch is one piece. -/
theorem IsStretch.split_eq (hnil : [] ∉ seps) (h : IsStretch seps p rest) :
    split seps (p ++ rest) = .plain p :: split seps rest := by
  obtain ⟨hne, hsilent, hends⟩ := h
  induction p with
  | nil => exact absurd rfl hne
  | cons c p ih =>
    have hfirst : leading? seps (c :: (p ++ rest)) = none := hsilent [] (c :: p) rfl (List.cons_ne_nil c p)
    rw [List.cons_append, split_cons hfirst]
    by_cases hp : p = []
    · -- the last character of the stretch, in front of a separator or of the end
      subst hp
      rw [List.nil_append]
      rcases hends with rfl | ⟨s, hs⟩
      · rfl
      · obtain ⟨u, -, hsplit⟩ := exists_split_of_leading? hnil hs
        rw [hsplit]
        rfl
    · have hsilent' : ∀ u v, p = u ++ v → v ≠ [] → leading? seps (v ++ rest) = none := by
        intro u v huv hv
        exact hsilent (c :: u) v (by rw [huv, List.cons_append]) hv
      rw [ih hp hsilent']
      rfl

/-- Where no separator is read, a stretch starts. -/
theorem exists_isStretch (hne : t ≠ []) (h : leading? seps t = none) :
    ∃ p rest, t = p ++ rest ∧ IsStretch seps p rest := by
  induction t with
  | nil => exact absurd rfl hne
  | cons c t ih =>
    -- the stretch that goes on after the first character, which is empty in front of a separator and of the end
    obtain ⟨p, rest, rfl, hsilent, hends⟩ : ∃ p rest, t = p ++ rest ∧
        (∀ u v, p = u ++ v → v ≠ [] → leading? seps (v ++ rest) = none) ∧
        (rest = [] ∨ ∃ s, leading? seps rest = some s) := by
      have hnone : ∀ rest, ∀ u v : Text, [] = u ++ v → v ≠ [] → leading? seps (v ++ rest) = none := by
        intro rest u v huv hv
        exact absurd (List.append_eq_nil_iff.1 huv.symm).2 hv
      by_cases ht : t = []
      · exact ⟨[], t, rfl, hnone t, .inl ht⟩
      · cases hlead : leading? seps t with
        | some s => exact ⟨[], t, rfl, hnone t, .inr ⟨s, hlead⟩⟩
        | none =>
          obtain ⟨p, rest, hp, hstretch⟩ := ih ht hlead
          exact ⟨p, rest, hp, hstretch.silent, hstretch.ends⟩
    refine ⟨c :: p, rest, rfl, List.cons_ne_nil c p, fun u v huv hv => ?_, hends⟩
    rcases List.cons_eq_append_iff.1 huv with ⟨-, rfl⟩ | ⟨u, -, hp⟩
    · exact h
    · exact hsilent u v hp hv

/-- Induction along the separators of a text and the stretches between them. -/
theorem stretches (hnil : [] ∉ seps) {motive : Text → Prop} (nil : motive [])
    (separator : ∀ s rest, s ∈ seps → leading? seps (s ++ rest) = some s → motive rest → motive (s ++ rest))
    (stretch : ∀ p rest, IsStretch seps p rest → motive rest → motive (p ++ rest)) (t : Text) : motive t := by
  induction hn : t.length using Nat.strongRecOn generalizing t with
  | ind n ih =>
    subst hn
    by_cases hne : t = []
    · exact hne ▸ nil
    · cases hlead : leading? seps t with
      | some s =>
        obtain ⟨hs, rest, rfl⟩ := leading?_eq_some hlead
        have hlength : 0 < s.length := List.length_pos_iff.2 fun he => hnil (he ▸ hs)
        refine separator s rest hs hlead (ih rest.length ?_ rest rfl)
        rw [List.length_append]
        omega
      | none =>
        obtain ⟨p, rest, rfl, hstretch⟩ := exists_isStretch hne hlead
        have hlength : 0 < p.length := List.length_pos_iff.2 hstretch.ne_nil
        refine stretch p rest hstretch (ih rest.length ?_ rest rfl)
        rw [List.length_append]
        omega

/-! ### The conditions on a piece -/

theorem isPiece_separator {s : Text} (hseps : Readable seps) (hs : s ∈ seps)
    (h : leading? seps (s ++ after.flatten) = some s) : IsPiece seps s after where
  ne_nil := fun he => hseps.nil_notMem (he ▸ hs)
  apart := fun _ _ => .inl hs
  unseparated := fun hnot => absurd hs hnot
  unreached := fun hnot => absurd hs hnot
  whole := (hseps.leading s hs after.flatten).1 h

/-- A stretch is no separator. -/
theorem IsStretch.notMem (h : IsStretch seps p rest) : p ∉ seps := by
  intro hp
  have hfirst := h.silent [] p rfl h.ne_nil
  exact leading?_eq_none.1 hfirst p hp (List.prefix_append p rest)

theorem IsStretch.isPiece (hseps : Readable seps) (h : IsStretch seps p after.flatten)
    (hafter : ∀ q ∈ after.head?, q ∈ seps) : IsPiece seps p after where
  ne_nil := h.ne_nil
  apart := fun q hq => .inr (hafter q hq)
  unseparated := by
    rintro - s hs ⟨u, v, huv⟩
    -- an occurrence inside the stretch would be read where it starts
    have hne : s ++ v ≠ [] := List.append_ne_nil_of_left_ne_nil (fun he => hseps.nil_notMem (he ▸ hs)) v
    have hnone := h.silent u (s ++ v) (by rw [← huv, List.append_assoc]) hne
    refine leading?_eq_none.1 hnone s hs ?_
    rw [List.append_assoc]
    exact List.prefix_append s _
  unreached := by
    intro _ u v huv hv s hs hprefixed
    exact absurd hprefixed (leading?_eq_none.1 (h.silent u v huv hv) s hs)
  whole := by
    rintro rfl hgreater
    rcases hseps.pipe with hpipe | hnone
    · exact h.notMem hpipe
    · -- the stretch ends in front of a separator, and none starts with that sign
      cases after with
      | nil => exact absurd hgreater (by decide)
      | cons q after =>
        have hq : q ∈ seps := hafter q rfl
        obtain ⟨c, q, rfl⟩ := List.exists_cons_of_ne_nil fun he => hseps.nil_notMem (he ▸ hq)
        rw [List.flatten_cons, List.cons_append] at hgreater
        obtain ⟨rfl, -⟩ := List.cons_prefix_cons.1 hgreater
        exact hnone _ hq (List.prefix_append ['>'] q)

/-- A separator among the pieces is read where it stands. -/
theorem IsPiece.leading?_eq (hseps : Readable seps) (h : IsPiece seps p after) (hp : p ∈ seps) :
    leading? seps (p ++ after.flatten) = some p := (hseps.leading p hp after.flatten).2 h.whole

/-- Any other piece is a stretch. -/
theorem IsPiece.isStretch (h : IsPiece seps p after) (hp : p ∉ seps)
    (hends : after.flatten = [] ∨ ∃ s, leading? seps after.flatten = some s) :
    IsStretch seps p after.flatten where
  ne_nil := h.ne_nil
  silent := by
    intro u v huv hv
    refine leading?_eq_none.2 fun s hs hprefixed => ?_
    have hlength := h.unreached hp u v huv hv s hs hprefixed
    -- what does not reach beyond the piece stands inside it
    have hinside : s <+: v := List.prefix_of_prefix_length_le hprefixed (List.prefix_append v _) hlength
    refine h.unseparated hp s hs ?_
    rw [huv]
    exact hinside.isInfix.trans (List.suffix_append u v).isInfix
  ends := hends

/-! ### Rows of pieces -/

/-- The texts of the pieces that are read. -/
def splitTexts (seps : List Text) (t : Text) : List Text := (split seps t).map Lexeme.text

theorem flatten_splitTexts (hnil : [] ∉ seps) (t : Text) : (splitTexts seps t).flatten = t := by
  rw [splitTexts, ← List.flatMap_def]
  exact split_text hnil t

theorem splitTexts_separator {s : Text} (hnil : [] ∉ seps) (hs : s ∈ seps)
    (h : leading? seps (s ++ rest) = some s) : splitTexts seps (s ++ rest) = s :: splitTexts seps rest := by
  have hne : s ≠ [] := fun he => hnil (he ▸ hs)
  rw [splitTexts, split_append hne h]
  rfl

theorem IsStretch.splitTexts_eq (hnil : [] ∉ seps) (h : IsStretch seps p rest) :
    splitTexts seps (p ++ rest) = p :: splitTexts seps rest := by
  rw [splitTexts, h.split_eq hnil]
  rfl

/-- The pieces that are read are a lexing. -/
theorem isLexing_splitTexts (hseps : Readable seps) (t : Text) : IsLexing seps (splitTexts seps t) := by
  have hnil := hseps.nil_notMem
  induction t using stretches hnil with
  | nil => trivial
  | separator s rest hs h ih =>
    rw [splitTexts_separator hnil hs h]
    refine ⟨isPiece_separator hseps hs ?_, ih⟩
    rwa [flatten_splitTexts hnil]
  | stretch p rest h ih =>
    rw [h.splitTexts_eq hnil]
    refine ⟨IsStretch.isPiece hseps ?_ ?_, ih⟩
    · rwa [flatten_splitTexts hnil]
    · -- behind a stretch stands a separator
      intro q hq
      rcases h.ends with rfl | ⟨s, hs⟩
      · cases hq
      · obtain ⟨u, -, hsplit⟩ := exists_split_of_leading? hnil hs
        rw [splitTexts, hsplit] at hq
        obtain rfl : s = q := Option.some.inj hq
        exact (leading?_eq_some hs).1

/-- A lexing is the row of the pieces that are read. -/
theorem eq_splitTexts_of_isLexing (hseps : Readable seps) (h : IsLexing seps ps) :
    ps = splitTexts seps ps.flatten := by
  have hnil := hseps.nil_notMem
  induction ps with
  | nil => rfl
  | cons p after ih =>
    obtain ⟨hpiece, hafter⟩ := h
    rw [List.flatten_cons]
    by_cases hp : p ∈ seps
    · rw [splitTexts_separator hnil hp (hpiece.leading?_eq hseps hp), ← ih hafter]
    · have hends : after.flatten = [] ∨ ∃ s, leading? seps after.flatten = some s := by
        cases after with
        | nil => exact .inl rfl
        | cons q after =>
          have hq : q ∈ seps := (hpiece.apart q rfl).resolve_left hp
          exact .inr ⟨q, hafter.1.leading?_eq hseps hq⟩
      rw [(hpiece.isStretch hp hends).splitTexts_eq hnil, ← ih hafter]

/-- At the operators of queries, at the separators of JSON paths and at those of their key patterns, a text is cut
    into its leftmost lexing: the pieces make up the text, each is as it has to be in front of those after it, and no
    other row of pieces is like this. -/
theorem split_leftmost {seps : List Text} (hseps : seps = operators ∨ seps = alternatives ∨ seps = wildcards)
    (t : Text) (ps : List Text) :
    (ps.flatten = t ∧ IsLexing seps ps) ↔ ps = (split seps t).map Lexeme.text := by
  have hreadable : Readable seps := by
    rcases hseps with rfl | rfl | rfl
    · exact readable_operators
    · exact readable_alternatives
    · exact readable_wildcards
  constructor
  · rintro ⟨rfl, hlexing⟩
    exact eq_splitTexts_of_isLexing hreadable hlexing
  · rintro rfl
    exact ⟨flatten_splitTexts hreadable.nil_notMem t, isLexing_splitTexts hreadable t⟩

/-- In a row of signs the array pipe is read first, what is left is a pipe, and of three bars the last one is text. -/
theorem split_leftmost_pipes :
    ([['a'], arrayPipeMark, pipeMark, fallbackMark, ['|']].flatten = "a>>>>>|||".toList ∧
      IsLexing operators [['a'], arrayPipeMark, pipeMark, fallbackMark, ['|']]) :=
  (split_leftmost (.inl rfl) _ _).2 (by decide)

end PageQuery.Query
