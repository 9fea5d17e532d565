import PageQuery.Proofs.Transform.Saving
import PageQuery.Query.Parser

namespace PageQuery

/-!
# What a segment says of its value

A segment tells from its transforms whether its value is saved and not returned, and the pipeline marks the value when
that is done. Blank names are names for the segment, and none for the pipeline.

* `Value.IsDiscarded`: the values that are marked;
* `Query.Segment.discards_iff`: what a segment goes by;
* `Transform.isDiscarded_saveAndKeep_iff`: when a value is marked;
* `Transform.discards_iff_marked_iff`: when the two agree.
-/

/-- A value that is marked as saved and not to be returned. -/
def Value.IsDiscarded : Value → Prop
  | .discarded _ => True
  | _ => False

instance : DecidablePred Value.IsDiscarded
  | .discarded _ => isTrue trivial
  | .scalar _ | .list _ | .map _ | .element _ => isFalse id

/-- A segment goes by all of its names, also by the blank ones. -/
theorem Query.Segment.discards_iff {seg : Query.Segment} :
    seg.discards Text.lower = true ↔ seg.transforms.save ≠ [] ∧ seg.transforms.keeps Text.lower = false := by
  simp [discards]

namespace Transform

/-- The names under which a value is saved are the ones that are not blank. -/
theorem saveNames_ne_nil_iff {ts : Query.Transforms} :
    saveNames ts ≠ [] ↔ ∃ name ∈ ts.save, Text.trim name ≠ [] := by
  simp [saveNames, List.filter_eq_nil_iff]

/-- A value is marked if it is saved under a name and not kept, or has been marked before. -/
theorem isDiscarded_saveAndKeep_iff {ts : Query.Transforms} {w : Value} (hw : w ≠ .null) (env : Environment) :
    (saveAndKeep ts env w).1.IsDiscarded ↔
      ((∃ name ∈ ts.save, Text.trim name ≠ []) ∧ ts.keeps Text.lower = false) ∨ w.IsDiscarded := by
  have hdiscards : Discards ts ↔ (∃ name ∈ ts.save, Text.trim name ≠ []) ∧ ts.keeps Text.lower = false := by
    rw [discards_iff, ← saveNames_ne_nil_iff]
    simp
  rw [saveAndKeep_of_ne_null hw, ← hdiscards]
  by_cases h : Discards ts
  · rw [if_pos h]
    exact iff_of_true trivial (.inl h)
  · rw [if_neg h]
    exact (or_iff_right h).symm

/-- A segment that discards its value gets it marked by the pipeline exactly if one of the names is not blank, unless
    the stages leave a value that has been marked before; a segment that does not discard its value gets it unmarked
    exactly if the stages leave it so. -/
theorem discards_iff_marked_iff (seg : Query.Segment) (ctx : Context) (env : Environment) {v w : Value}
    {s s' : Session} (hstages : (applyStages ctx seg.transforms v).exec s = (.ok w, s')) (hw : w ≠ .null) :
    ∃ out env', (applyPipeline ctx seg.transforms env v).exec s = (.ok (out, env'), s') ∧
      ((seg.discards Text.lower = true ↔ out.IsDiscarded) ↔
        if seg.discards Text.lower then (∃ name ∈ seg.transforms.save, Text.trim name ≠ []) ∨ w.IsDiscarded
        else ¬w.IsDiscarded) := by
  refine ⟨_, _, by rw [exec_applyPipeline, hstages], ?_⟩
  rw [isDiscarded_saveAndKeep_iff hw]
  by_cases h : seg.discards Text.lower = true
  · have hkeeps := (Query.Segment.discards_iff.1 h).2
    rw [if_pos h, iff_true_left h, hkeeps]
    simp
  · have hnot : ¬((∃ name ∈ seg.transforms.save, Text.trim name ≠ []) ∧ seg.transforms.keeps Text.lower = false) := by
      rintro ⟨⟨name, hname, -⟩, hkeeps⟩
      exact h (Query.Segment.discards_iff.2 ⟨List.ne_nil_of_mem hname, hkeeps⟩)
    rw [if_neg h, iff_false_left h, or_iff_right hnot]

/-- A segment with a blank name and another one, whose value is not kept, agrees with the pipeline. -/
theorem discards_iff_marked_iff_named :
    ∃ seg out env', Query.parseSegment "json:a?save= ;x" true false = .ok seg ∧
      (applyStages {} seg.transforms (.int 1)).exec {} = (.ok (.int 1), {}) ∧ Value.int 1 ≠ .null ∧
      (applyPipeline {} seg.transforms [] (.int 1)).exec {} = (.ok (out, env'), {}) ∧
      (seg.discards Text.lower = true ↔ out.IsDiscarded) := by
  obtain ⟨seg, hseg, hsave, hdiscards⟩ : ∃ seg, Query.parseSegment "json:a?save= ;x" true false = .ok seg ∧
      seg.transforms = { save := [" ", "x"] } ∧ seg.discards Text.lower = true := ⟨_, rfl, rfl, rfl⟩
  have hstages : (applyStages {} seg.transforms (.int 1)).exec {} = (.ok (.int 1), {}) := by
    rw [hsave]
    rfl
  obtain ⟨out, env', hout, hiff⟩ := discards_iff_marked_iff seg {} [] hstages nofun
  refine ⟨seg, out, env', hseg, hstages, nofun, hout, hiff.2 ?_⟩
  rw [if_pos hdiscards, hsave]
  exact .inl (by decide)

/-- A segment whose only name is empty says that it discards its value, and the value is neither saved nor marked. -/
theorem discards_of_blank_name :
    ∃ seg, Query.parseSegment "json:a?save=" true false = .ok seg ∧ seg.discards Text.lower = true ∧
      (applyPipeline {} seg.transforms [] (.int 1)).exec {} = (.ok (.int 1, []), {}) := by
  obtain ⟨seg, hseg, hsave, hdiscards⟩ : ∃ seg, Query.parseSegment "json:a?save=" true false = .ok seg ∧
      seg.transforms = { save := [[]] } ∧ seg.discards Text.lower = true := ⟨_, rfl, rfl, rfl⟩
  refine ⟨seg, hseg, hdiscards, ?_⟩
  rw [hsave]
  rfl

end Transform

end PageQuery
