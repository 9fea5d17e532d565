import PageQuery.Proofs.Environment
import PageQuery.Proofs.Query.Segments
import Mathlib.Data.List.Induction

namespace PageQuery.Query

/-!
# Parameters gathered under their names

Of the pairs of a segment those with the same name are gathered in their order, and nothing else of the order matters:
what is read under a name depends on the pairs with this name alone.

* `textsUnder`, `get?_gathered`: what is gathered under a name;
* `transform_gathered`: the transforms of both forms;
* `nodup_gathered`: no name is gathered twice;
* `Rearranged`: pairs in another order, in which those with the same name keep theirs;
* `Rearranged.transforms_segmentOf`, `Rearranged.get?_parameters`: what does not depend on the order.
-/

/-! ### Values under a name -/

/-- The texts of the pairs with a name, in their order. -/
def textsUnder (name : Text) (ps : List (Text × Text)) : List Text := (ps.filter (·.1 == name)).map (·.2)

theorem textsUnder_append (name : Text) (ps qs : List (Text × Text)) :
    textsUnder name (ps ++ qs) = textsUnder name ps ++ textsUnder name qs := by
  rw [textsUnder, List.filter_append, List.map_append]
  rfl

theorem textsUnder_cons (name : Text) (p : Text × Text) (ps : List (Text × Text)) :
    textsUnder name (p :: ps) = if name = p.1 then p.2 :: textsUnder name ps else textsUnder name ps := by
  by_cases h : name = p.1
  · simp [textsUnder, h]
  · simp [textsUnder, h, Ne.symm h]

/-- Pairs of which none has a name give no text for it. -/
theorem textsUnder_eq_nil {name : Text} {ps : List (Text × Text)} (h : ∀ p ∈ ps, p.1 ≠ name) :
    textsUnder name ps = [] := by
  rw [textsUnder, List.filter_eq_nil_iff.2 fun p hp heq => h p hp (beq_iff_eq.1 heq), List.map_nil]

theorem gathered_concat (ps : List (Text × Text)) (p : Text × Text) :
    gathered (ps ++ [p]) = (gathered ps).add p.1 (paramValues p.1 p.2) :=
  List.foldl_append

/-- Of no texts there are no values. -/
theorem getD_flatMap (split : Text → List Text) (ts : List Text) :
    (if ts = [] then none else some (ts.flatMap split)).getD [] = ts.flatMap split := by
  cases ts <;> rfl

/-- Under a name there are the values of its texts, if there is one. -/
theorem get?_gathered (ps : List (Text × Text)) (name : Text) :
    Ordered.get? (gathered ps) name =
      if textsUnder name ps = [] then none else some ((textsUnder name ps).flatMap (paramValues name)) := by
  -- pairs are gathered from the left, so the induction takes the last one away
  induction ps using List.reverseRecOn with
  | nil => rfl
  | append_singleton ps p ih =>
    have hnil : textsUnder name [] = [] := rfl
    rw [gathered_concat, Ordered.get?_add, textsUnder_append, textsUnder_cons, hnil]
    by_cases h : name = p.1
    · rw [if_pos h, if_pos h, ← h, ih, getD_flatMap, if_neg (by simp), List.flatMap_append, List.flatMap_singleton]
    · rw [if_neg h, if_neg h, List.append_nil, ih]

theorem getD_get?_gathered (ps : List (Text × Text)) (name : Text) :
    (Ordered.get? (gathered ps) name).getD [] = (textsUnder name ps).flatMap (paramValues name) := by
  rw [get?_gathered, getD_flatMap]

/-- No name is gathered twice. -/
theorem nodup_gathered (ps : List (Text × Text)) : (Ordered.keys (gathered ps)).Nodup := by
  have hextends : Ordered.Extends [] (gathered ps) :=
    Ordered.extends_foldl (fun m p => Ordered.extends_put p.1 _ m) ps []
  exact hextends.nodup List.nodup_nil

/-- The explicit transforms come first, and behind them those of the short form. -/
theorem transform_gathered (ps : List (Text × Text)) :
    (transformsOf (gathered ps)).transform =
      (textsUnder "transform" ps).flatMap splitTransforms ++
        ((textsUnder "regexp" ps).flatMap splitRegexps).map (regexpMark ++ ·) := by
  have htransform : (textsUnder "transform" ps).flatMap splitTransforms =
      (Ordered.get? (gathered ps) "transform").getD [] := (getD_get?_gathered ps "transform").symm
  have hregexp : (textsUnder "regexp" ps).flatMap splitRegexps = (Ordered.get? (gathered ps) "regexp").getD [] :=
    (getD_get?_gathered ps "regexp").symm
  rw [htransform, hregexp]
  rfl

/-- Where the other names have the same texts, transforms differ in those of both forms alone. -/
theorem transformsOf_gathered_eq_iff {ps qs : List (Text × Text)}
    (h : ∀ name : Text, name ≠ "transform" → name ≠ "regexp" → textsUnder name ps = textsUnder name qs) :
    transformsOf (gathered ps) = transformsOf (gathered qs) ↔
      (transformsOf (gathered ps)).transform = (transformsOf (gathered qs)).transform := by
  have hsame : ∀ name : Text, name ≠ "transform" → name ≠ "regexp" →
      Ordered.get? (gathered ps) name = Ordered.get? (gathered qs) name := by
    -- what is gathered under a name depends on its texts alone
    intro name htransform hregexp
    rw [get?_gathered, get?_gathered, h name htransform hregexp]
  have hothers : transformsOf (gathered ps) =
      { transformsOf (gathered qs) with transform := (transformsOf (gathered ps)).transform } := by
    simp only [transformsOf, hsame "update" (by decide) (by decide), hsame "filter" (by decide) (by decide),
      hsame "index" (by decide) (by decide), hsame "save" (by decide) (by decide),
      hsame "keep" (by decide) (by decide)]
  constructor
  · exact congrArg Transforms.transform
  · intro htransform
    rw [hothers, htransform]

theorem transformsOf_congr {m m' : Ordered (List Text)} (h : ∀ name, Ordered.get? m name = Ordered.get? m' name) :
    transformsOf m = transformsOf m' := by
  simp only [transformsOf, h]

/-! ### Pairs in another order -/

/-- Pairs in another order, in which those with the same name keep theirs. -/
structure Rearranged (ps qs : List (Text × Text)) : Prop where
  perm : ps.Perm qs
  order : ∀ p ∈ ps, textsUnder p.1 ps = textsUnder p.1 qs

namespace Rearranged

variable {ps qs : List (Text × Text)}

/-- The texts of any one name are in the same order. -/
theorem textsUnder_eq (h : Rearranged ps qs) (name : Text) : textsUnder name ps = textsUnder name qs := by
  by_cases hname : ∃ p ∈ ps, p.1 = name
  · obtain ⟨p, hp, rfl⟩ := hname
    exact h.order p hp
  · -- no pair has the name, neither of these nor of those
    have hps : ∀ p ∈ ps, ¬(p.1 == name) = true := fun p hp heq => hname ⟨p, hp, beq_iff_eq.1 heq⟩
    rw [textsUnder, textsUnder, List.filter_eq_nil_iff.2 hps,
      List.filter_eq_nil_iff.2 fun p hp => hps p (h.perm.mem_iff.2 hp)]

theorem get?_gathered (h : Rearranged ps qs) (name : Text) :
    Ordered.get? (gathered ps) name = Ordered.get? (gathered qs) name := by
  rw [Query.get?_gathered, Query.get?_gathered, h.textsUnder_eq]

theorem transformsOf_gathered (h : Rearranged ps qs) :
    transformsOf (gathered ps) = transformsOf (gathered qs) := transformsOf_congr h.get?_gathered

/-- The same names are gathered, with the same values. -/
theorem mem_gathered_iff (h : Rearranged ps qs) (e : Text × List Text) : e ∈ gathered ps ↔ e ∈ gathered qs := by
  rcases e with ⟨name, vs⟩
  constructor
  · intro he
    exact Ordered.mem_of_get? ((h.get?_gathered name).symm.trans (Ordered.get?_of_mem (nodup_gathered ps) he))
  · intro he
    exact Ordered.mem_of_get? ((h.get?_gathered name).trans (Ordered.get?_of_mem (nodup_gathered qs) he))

/-- A question mark stands where it may not in both orders or in none. -/
theorem any_eq (h : Rearranged ps qs) (f : Text × Text → Bool) : ps.any f = qs.any f := h.perm.any_eq

section Segments

variable (h : Rearranged ps qs) (t₁ t₂ : Text) (s : Scheme) (path : Text) (required piped : Bool)

include h

theorem transforms_segmentOf : (segmentOf t₁ s path ps required piped).transforms =
    (segmentOf t₂ s path qs required piped).transforms := h.transformsOf_gathered

/-- The parameters that are no transforms are the same under every name. -/
theorem get?_parameters (name : Text) :
    Ordered.get? (segmentOf t₁ s path ps required piped).parameters name =
      Ordered.get? (segmentOf t₂ s path qs required piped).parameters name := by
  simp only [segmentOf]
  rw [Ordered.get?_filter fun name => !transformNames.contains name, h.get?_gathered,
    ← Ordered.get?_filter fun name => !transformNames.contains name]

theorem mem_parameters_iff (e : Text × List Text) :
    e ∈ (segmentOf t₁ s path ps required piped).parameters ↔
      e ∈ (segmentOf t₂ s path qs required piped).parameters := by
  simp only [segmentOf]
  rw [List.mem_filter, List.mem_filter, h.mem_gathered_iff]

end Segments

end Rearranged

end PageQuery.Query
