import Mathlib.Data.List.TakeWhile
import PageQuery.Html.Reader

namespace PageQuery.Html

/-!
# Documents without an element

A document has a root element unless there is nothing in it that opens one: a start tag does, and so does a text that
is not blank.

* `Builder.HasElement`: an element has been opened, which is never undone (`hasElement_step`);
* `Builder.isSome_finish_iff`: what has been opened ends up under the root;
* `document?_eq_none_iff`: the documents without an element.
-/

/-- A token that opens no element. -/
def Token.IsIdle : Token → Prop
  | .text t => ∀ c ∈ t, isBlankChar c = true
  | .comment _ => True
  | .start .. => False
  | .stop _ => True

namespace Builder

/-- An element has been opened: one is still open, or there is a root. -/
def HasElement (b : Builder) : Prop := b.stack ≠ [] ∨ b.root.isSome

/-! ### Elements that have been opened -/

theorem hasElement_add (n : Node) {b : Builder} (h : b.HasElement) : (b.add n).HasElement := by
  unfold add
  split
  · next hstack =>
    have hroot : b.root.isSome := h.resolve_left fun hne => hne hstack
    split
    · exact .inr rfl
    · exact .inr hroot
  · split <;> exact .inl (List.cons_ne_nil _ _)

/-- The element that is closed is added to the one around it, or becomes the root. -/
theorem hasElement_pop {b : Builder} (h : b.HasElement) : b.pop.HasElement := by
  unfold pop
  split
  · exact h
  · next top rest hstack =>
    cases hrest : rest with
    | nil =>
      unfold add
      split
      · split
        · exact .inr rfl
        · next hno =>
          refine .inr (Option.isSome_iff_ne_none.2 fun hnone => hno ?_)
          rw [show b.root = none from hnone]
          rfl
      · next hne => cases hne
    | cons o rest => exact hasElement_add _ (.inl (List.cons_ne_nil _ _))

theorem hasElement_popMany (n : Nat) {b : Builder} (h : b.HasElement) : (b.popMany n).HasElement := by
  induction n generalizing b with
  | zero => exact h
  | succ n ih => exact ih (hasElement_pop h)

theorem hasElement_push (name : Text) (attributes : List Attribute) (b : Builder) :
    (b.push name attributes).HasElement := .inl (List.cons_ne_nil _ _)

/-- All tags but those of the whole document need an element around them. -/
theorem hasElement_imply (next : Text) {b : Builder} (h : next = "html" → b.HasElement) :
    (b.imply next).HasElement := by
  unfold imply
  split
  · next hnext => exact h hnext
  · have hopened : ((if b.stack.isEmpty then b.push "html" [] else b) : Builder).HasElement := by
      split
      · exact hasElement_push _ _ _
      · next hstack => exact .inl fun hnil => hstack (by rw [hnil]; rfl)
    generalize (if b.stack.isEmpty then b.push "html" [] else b : Builder) = b₁ at hopened ⊢
    dsimp only
    repeat' split
    all_goals first | exact hopened | exact hasElement_push _ _ _

theorem hasElement_start (name : Text) (attributes : List Attribute) (closed : Bool) (b : Builder) :
    (b.start name attributes closed).HasElement := by
  unfold start
  dsimp only
  split
  · next hmisplaced =>
    refine hasElement_imply (b := b.closeFor name) name fun hname => ?_
    -- only inside an element there is no place for the tag of the whole document
    refine .inl fun hstack => ?_
    subst hname
    simp only [isMisplaced, imply, if_true] at hmisplaced
    have hstack : (closeFor ['h', 't', 'm', 'l'] b).stack = [] := hstack
    simp [hstack] at hmisplaced
  · split
    · exact hasElement_pop (hasElement_push _ _ _)
    · exact hasElement_push _ _ _

theorem hasElement_stop (name : Text) {b : Builder} (h : b.HasElement) : (b.stop name).HasElement := by
  unfold stop
  split
  · exact h
  · split
    · exact hasElement_popMany _ h
    · exact h

theorem hasElement_text (t : Text) {b : Builder} (h : b.HasElement ∨ ∃ c ∈ t, isBlankChar c = false) :
    (b.text t).HasElement := by
  unfold text
  extract_lets outside lead rest before opened
  split
  · next houtside =>
    refine hasElement_add _ (.inl fun hstack => ?_)
    simp [outside, current?, hstack] at houtside
  · split
    · next hrest =>
      -- there is nothing but blanks in the text
      have hlead : t.takeWhile isBlankChar = t := by
        have hlong : t.length ≤ lead.length := List.drop_eq_nil_iff.1 (List.isEmpty_iff.1 hrest)
        exact (List.takeWhile_prefix isBlankChar).eq_of_length_le hlong
      have hb : b.HasElement := by
        refine h.resolve_right ?_
        rintro ⟨c, hc, hblank⟩
        have := List.takeWhile_eq_self_iff.1 hlead c hc
        rw [hblank] at this
        cases this
      dsimp only [before]
      split
      · exact hb
      · exact hasElement_add _ hb
    · exact hasElement_add _ (hasElement_imply _ fun h => absurd h (by decide))

/-- What has been opened is never undone, and a token that is not idle opens an element. -/
theorem hasElement_step {b : Builder} {k : Token} (h : b.HasElement ∨ ¬k.IsIdle) : (b.step k).HasElement := by
  cases k with
  | text t =>
    refine hasElement_text t (h.imp_right fun hidle => ?_)
    simpa [Token.IsIdle] using hidle
  | comment t => exact hasElement_add _ (h.resolve_right fun hidle => hidle trivial)
  | start name attributes closed => exact hasElement_start _ _ _ _
  | stop name => exact hasElement_stop name (h.resolve_right fun hidle => hidle trivial)

/-! ### Nothing opened -/

/-- Idle tokens leave a document without an element as it is. -/
theorem not_hasElement_step {b : Builder} {k : Token} (h : ¬b.HasElement) (hk : k.IsIdle) : ¬(b.step k).HasElement := by
  have hstack : b.stack = [] := Classical.byContradiction fun hne => h (.inl hne)
  cases k with
  | text t =>
    have hlead : t.takeWhile isBlankChar = t := List.takeWhile_eq_self_iff.2 hk
    have hadd : ¬(b.add (.text t)).HasElement := by simpa [add, hstack, Node.isElement] using h
    simp only [step, text, current?, hstack, hlead, List.drop_length]
    by_cases ht : t.isEmpty
    · simpa [ht] using h
    · simpa [ht] using hadd
  | comment t => simpa [step, add, hstack, Node.isElement] using h
  | start name attributes closed => exact hk.elim
  | stop name =>
    simp only [step, stop, hstack, closedByStop]
    split
    · exact fun hb => h (hb.imp_left fun hne => absurd rfl hne)
    · exact h

/-- There is an element in the end if there was one, or a token opens one. -/
theorem hasElement_foldl_iff (ks : List Token) (b : Builder) :
    (ks.foldl step b).HasElement ↔ b.HasElement ∨ ∃ k ∈ ks, ¬k.IsIdle := by
  induction ks generalizing b with
  | nil => simp
  | cons k ks ih =>
    have hstep : (b.step k).HasElement ↔ b.HasElement ∨ ¬k.IsIdle := by
      refine ⟨fun h => ?_, hasElement_step⟩
      refine Classical.or_iff_not_imp_left.2 fun hb hk => not_hasElement_step hb hk h
    rw [List.foldl_cons, ih, hstep]
    simp [or_assoc]

/-- Elements are closed until none is open. -/
theorem stack_popMany {n : Nat} (b : Builder) (h : b.stack.length = n) : (b.popMany n).stack = [] := by
  induction n generalizing b with
  | zero => exact List.length_eq_zero_iff.1 h
  | succ n ih =>
    have hadd : ∀ (n : Node) (b : Builder), (b.add n).stack.length = b.stack.length := by
      intro n b
      unfold add
      split
      · split <;> rfl
      · next hstack => split <;> rw [hstack, List.length_cons, List.length_cons]
    refine ih b.pop ?_
    unfold pop
    split
    · next hstack =>
      rw [hstack] at h
      cases h
    · next hstack =>
      rw [hadd]
      rw [hstack] at h
      exact Nat.succ.inj h

/-- What has been opened ends up under the root. -/
theorem isSome_finish_iff (b : Builder) : b.finish.isSome ↔ b.HasElement := by
  refine ⟨fun h => ?_, fun h => ?_⟩
  · refine Classical.byContradiction fun hb => hb ?_
    have hstack : b.stack = [] := Classical.byContradiction fun hne => hb (.inl hne)
    rw [finish, hstack] at h
    exact .inr h
  · exact (hasElement_popMany b.stack.length h).resolve_left fun hne => hne (stack_popMany b rfl)

end Builder

/-- A document has no element if it is not blank and nothing in it opens one. -/
theorem document?_eq_none_iff (t : Text) :
    document? t = none ↔ Text.isBlank t = false ∧ ∀ k ∈ tokens t, k.IsIdle := by
  have hread : ∀ u, (read? u).isSome ↔ ∃ k ∈ tokens u, ¬k.IsIdle := by
    intro u
    rw [read?, Builder.isSome_finish_iff, Builder.hasElement_foldl_iff]
    exact or_iff_right fun h => h.elim (fun hne => hne rfl) nofun
  unfold document?
  rw [Option.map_eq_none_iff]
  split
  · next hblank =>
    have hsome : (read? "<html></html>").isSome := rfl
    exact iff_of_false (Option.isSome_iff_ne_none.1 hsome) fun h => absurd hblank (by rw [h.1]; decide)
  · next hblank =>
    rw [← Option.not_isSome_iff_eq_none, hread]
    simp [hblank]

end PageQuery.Html
