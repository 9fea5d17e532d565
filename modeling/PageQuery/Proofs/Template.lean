import PageQuery.Execution
import PageQuery.Proofs.Run
import PageQuery.Proofs.Text

namespace PageQuery

/-!
# Laws of templates

* `Template.flatMap_text_pieces`: the pieces of a template make up its text;
* `Template.pieces_hole`, `Template.pieces_chunk`: placeholders are found where they are written, and nowhere
  else;
* `Template.isNamed`, `Template.cut_trim_resolve`: where no placeholder stands in front of the first colon,
  what does is the same whatever the placeholders stand for;
* `Execution.ensures_fillAll`, `Execution.ensures_fillTransforms`: the texts that a segment is run with.
-/

namespace Template

/-! ### Pieces -/

/-- A placeholder is written where it is found. -/
theorem eq_of_hole?_eq_some {t body : Text} (h : hole? t = some body) :
    ∃ rest, t = (Piece.hole body).text ++ rest := by
  unfold hole? at h
  split at h
  · next rest =>
    split at h
    · cases h
    · cases h
    · next hafter =>
      obtain rfl := Option.some.inj h
      obtain ⟨c, after, hdrop⟩ := List.exists_cons_of_ne_nil hafter
      -- what ends the body is a closing brace
      obtain rfl : c = '}' := by
        have hhead := List.head_dropWhile_not (· != '}') (l := rest) (by simp [hdrop])
        simpa [hdrop] using hhead
      refine ⟨after, ?_⟩
      rw [Piece.text, List.append_assoc, List.singleton_append, List.cons_append, List.cons_append,
        ← hdrop, List.takeWhile_append_dropWhile]
  · cases h

/-- The pieces of a template make up its text. -/
theorem flatMap_text_piecesFrom (skip : Nat) (t : Text) :
    (piecesFrom skip t).flatMap Piece.text = t.drop skip := by
  fun_induction piecesFrom skip t with
  | case1 skip => simp
  | case2 skip c rest ih => exact ih
  | case3 c rest body hbody ih =>
    obtain ⟨after, hafter⟩ := eq_of_hole?_eq_some hbody
    have hlength : (Piece.hole body).text.length = body.length + 2 + 1 := by simp [Piece.text]
    have hdrop : rest.drop (body.length + 2) = after := by
      rw [← List.drop_succ_cons (a := c), hafter, ← hlength, List.drop_left]
    rw [List.flatMap_cons, ih, hdrop, List.drop_zero, hafter]
  | case4 c rest _ ih => rw [List.flatMap_cons, ih]; rfl

/-- The pieces of a template make up its text. -/
theorem flatMap_text_pieces (t : Text) : (pieces t).flatMap Piece.text = t :=
  flatMap_text_piecesFrom 0 t

/-! ### Where placeholders are found -/

/-- The two characters that a placeholder starts with. -/
def opening : Text := ['$', '\x7b']

/-- Characters that belong to a placeholder are passed over. -/
theorem piecesFrom_eq_pieces_drop (skip : Nat) (t : Text) : piecesFrom skip t = pieces (t.drop skip) := by
  induction skip generalizing t with
  | zero => rfl
  | succ skip ih =>
    cases t with
    | nil => rfl
    | cons c rest => exact ih rest

/-- No placeholder starts where its two opening characters do not stand. -/
theorem hole?_eq_none {t : Text} (h : ¬opening <+: t) : hole? t = none := by
  unfold hole?
  split
  · exact absurd ⟨_, rfl⟩ h
  · rfl

/-- A placeholder is found where it is written. -/
theorem hole?_text {e : Text} (he : e ≠ []) (hbrace : '}' ∉ e) (rest : Text) :
    hole? ((Piece.hole e).text ++ rest) = some e := by
  have hbody : ∀ c ∈ e, (c != '}') = true := by
    intro c hc
    simpa using ne_of_mem_of_not_mem hc hbrace
  have htext : (Piece.hole e).text ++ rest = '$' :: '{' :: (e ++ '}' :: rest) := by simp [Piece.text]
  have htake : (e ++ '}' :: rest).takeWhile (· != '}') = e := by
    rw [List.takeWhile_append_of_pos hbody, List.takeWhile_cons_of_neg (by decide), List.append_nil]
  have hdrop : (e ++ '}' :: rest).dropWhile (· != '}') = '}' :: rest := by
    rw [List.dropWhile_append_of_pos hbody, List.dropWhile_cons_of_neg (by decide)]
  rw [htext, hole?, htake, hdrop]
  obtain ⟨c, body, rfl⟩ := List.exists_cons_of_ne_nil he
  rfl

/-- A placeholder at the start of a text is its first piece. -/
theorem pieces_hole {e : Text} (he : e ≠ []) (hbrace : '}' ∉ e) (rest : Text) :
    pieces ((Piece.hole e).text ++ rest) = .hole e :: pieces rest := by
  have hhole := hole?_text he hbrace rest
  have htext : (Piece.hole e).text ++ rest = '$' :: ('{' :: e ++ ['}'] ++ rest) := by simp [Piece.text]
  have hlength : ('{' :: e ++ ['}']).length = e.length + 2 := by simp
  rw [htext] at hhole ⊢
  rw [pieces, piecesFrom, hhole]
  dsimp only
  rw [piecesFrom_eq_pieces_drop, ← hlength, List.drop_left]

/-- A character where no placeholder starts stands for itself. -/
theorem pieces_plain {c : Char} {rest : Text} (h : ¬opening <+: c :: rest) :
    pieces (c :: rest) = .plain c :: pieces rest := by
  rw [pieces, piecesFrom, hole?_eq_none h]
  rfl

/-- A chunk without placeholders in it stands for itself, also in front of a dollar sign. -/
theorem pieces_chunk {chunk rest : Text} (hchunk : ¬opening <:+: chunk)
    (hrest : ∀ c ∈ rest.head?, c = '$') : pieces (chunk ++ rest) = chunk.map .plain ++ pieces rest := by
  induction chunk with
  | nil => rfl
  | cons c chunk ih =>
    have hnext : ¬opening <+: c :: (chunk ++ rest) := by
      intro hprefix
      obtain ⟨rfl, hbrace⟩ := List.cons_prefix_cons.1 hprefix
      cases chunk with
      | nil =>
        -- the chunk ends with a dollar sign, and no opening brace follows it
        obtain ⟨after, rfl⟩ := hbrace
        cases hrest '{' rfl
      | cons d chunk =>
        obtain ⟨rfl, -⟩ := List.cons_prefix_cons.1 hbrace
        exact hchunk ⟨[], chunk, rfl⟩
    have htail : ¬opening <:+: chunk := fun h => hchunk (List.infix_cons h)
    rw [List.cons_append, pieces_plain hnext, ih htail]
    rfl

/-! ### Templates with a fixed start -/

/-- Whether a piece is a placeholder. -/
def Piece.isHole : Piece → Bool
  | .plain _ => false
  | .hole _ => true

/-- Whether no placeholder stands in front of the first colon of a template, or none at all if there is no
    colon outside placeholders. -/
def isNamed (t : Text) : Bool := ((pieces t).takeWhile (· != .plain ':')).all (!·.isHole)

/-- What stands in front of the first colon of a template stays as it is if no placeholder does. -/
theorem resolve_of_isNamed {env : Environment} {t r : Text} (ht : isNamed t = true)
    (h : resolve env t = .ok r) :
    r = t ∨ ∃ name a b, t = name ++ ':' :: a ∧ r = name ++ ':' :: b ∧ ':' ∉ name := by
  obtain ⟨texts, htexts, hr⟩ := bind_eq_ok_iff.1 h
  obtain rfl : texts.flatten = r := Except.ok.inj hr
  rw [← flatMap_text_pieces t]
  rw [isNamed] at ht
  generalize pieces t = ps at ht htexts
  clear h hr
  induction ps generalizing texts with
  | nil => obtain rfl : [] = texts := Except.ok.inj htexts; exact .inl rfl
  | cons p ps ih =>
    obtain ⟨u, us, hu, hus, rfl⟩ := mapM_cons_eq_ok_iff.1 htexts
    cases p with
    | hole body => simp [Piece.isHole] at ht
    | plain c =>
      obtain rfl : [c] = u := Except.ok.inj hu
      by_cases hc : c = ':'
      · exact .inr ⟨[], _, us.flatten, by rw [hc]; rfl, by rw [hc]; rfl, List.not_mem_nil⟩
      · rw [List.takeWhile_cons_of_pos (by simpa using hc), List.all_cons] at ht
        rcases ih us (by simpa [Piece.isHole] using ht) hus with heq | ⟨name, a, b, ha, hb, hname⟩
        · exact .inl (congrArg ([c] ++ ·) heq)
        · refine .inr ⟨c :: name, a, b, congrArg ([c] ++ ·) ha, congrArg ([c] ++ ·) hb, ?_⟩
          simpa [hname] using Ne.symm hc

/-- The trimmed name in front of the first colon of a template stays as it is if it has no placeholder. -/
theorem cut_trim_resolve {env : Environment} {t r : Text} (ht : isNamed t = true)
    (h : resolve env t = .ok r) : (Text.cut ':' (Text.trim r)).1 = (Text.cut ':' (Text.trim t)).1 := by
  rcases resolve_of_isNamed ht h with rfl | ⟨name, a, b, rfl, rfl, hname⟩
  · rfl
  · have hlead : ':' ∉ Text.trimLeft name := fun hmem => hname ((List.dropWhile_suffix _).mem hmem)
    rw [Text.trim_append_cons rfl, Text.trim_append_cons rfl, Text.cut_append hlead, Text.cut_append hlead]

end Template

/-! ### Templates of segments -/

namespace Execution

open Run

/-- A template that is filled becomes its text in the environment. -/
theorem ensures_fill (env : Environment) (t : Text) :
    Ensures (fill env t) fun r => Template.resolve env t = .ok r :=
  ensures_after _ fun _ => ensures_of fun _ h => mapError_eq_ok_iff.1 h

/-- Templates that are filled become their texts in the environment. -/
theorem ensures_fillAll (env : Environment) (ts : List Text) :
    Ensures (fillAll env ts) fun rs => ts.mapM (Template.resolve env) = .ok rs := by
  rw [fillAll]
  induction ts with
  | nil => exact ensures_pure rfl
  | cons t ts ih =>
    rw [List.mapM_cons]
    refine ensures_bind (ensures_fill env t) fun r hr => ensures_bind ih fun rs hrs => ?_
    exact ensures_pure (mapM_cons_eq_ok_iff.2 ⟨r, rs, hr, hrs, rfl⟩)

/-- The transforms that a segment is run with, and the names that it saves under, are those of its texts in
    the environment. -/
theorem ensures_fillTransforms (env : Environment) (ts : Query.Transforms) :
    Ensures (fillTransforms env ts) fun us =>
      ts.transform.mapM (Template.resolve env) = .ok us.transform ∧
        ts.save.mapM (Template.resolve env) = .ok us.save := by
  refine ensures_bind (ensures_fillAll env ts.transform) fun transform htransform => ?_
  refine ensures_after _ fun update => ensures_after _ fun filter => ensures_after _ fun index => ?_
  refine ensures_bind (ensures_fillAll env ts.save) fun save hsave => ?_
  exact ensures_after _ fun keep => ensures_pure ⟨htransform, hsave⟩

end Execution

end PageQuery
