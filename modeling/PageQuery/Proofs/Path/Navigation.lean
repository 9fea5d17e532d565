import PageQuery.Path.Document
import PageQuery.Proofs.Html.Siblings
import PageQuery.Proofs.Run

namespace PageQuery.Path

/-!
# Steps from element to element

* `StepsTo`: a path of one step that leads from an element to some others;
* `stepsTo_following`, `stepsTo_preceding`, `stepsTo_child` and so on: what each step leads to;
* `navigation_consistent`: how the steps from one element belong together.
-/

open Html (Element)

/-- The path that is one step leads from an element to exactly the given ones, in order. -/
def StepsTo (step : Text) (e : Element) (found : List Element) : Prop :=
  document e step = pure (found.map .element)

variable {e : Element} {step : Text} {found : List Element}

/-- A path of one part is one step. -/
theorem stepsTo_of_navigate (hone : documentParts step = [step]) (hplain : step.head? ≠ some '@')
    (h : navigate e step = pure found) : StepsTo step e found := by
  have hall : navigateAll [step] [e] = pure found := by
    rw [navigateAll, List.mapM_cons, h]
    simp [navigateAll]
  rw [StepsTo, document, hone]
  show (navigateAll [step] [e] >>= fun found => _) = _
  rw [hall, pure_bind, List.getLast?_singleton]
  split
  · next part heq =>
    obtain rfl := Option.some.inj heq
    exact absurd rfl hplain
  · rfl

/-- A step leads to one row of elements only. -/
theorem StepsTo.unique {found' : List Element} (h : StepsTo step e found) (h' : StepsTo step e found') :
    found = found' := by
  have hexec := congrArg (fun r => (Run.exec r {}).1) (Eq.symm h |>.trans h')
  have hvalues : found.map Value.element = found'.map Value.element := Except.ok.inj hexec
  exact List.map_inj_right (fun _ _ heq => Value.element.inj heq) |>.1 hvalues

theorem stepsTo_preceding (e : Element) : StepsTo "*-" e e.preceding := stepsTo_of_navigate rfl (by decide) rfl

theorem stepsTo_following (e : Element) : StepsTo "*+" e e.following := stepsTo_of_navigate rfl (by decide) rfl

theorem stepsTo_previous (e : Element) : StepsTo "-" e (e.preceding.take 1) := stepsTo_of_navigate rfl (by decide) rfl

theorem stepsTo_next (e : Element) : StepsTo "+" e (e.following.take 1) := stepsTo_of_navigate rfl (by decide) rfl

theorem stepsTo_child (e : Element) : StepsTo ">" e (e.children.take 1) := stepsTo_of_navigate rfl (by decide) rfl

theorem stepsTo_parent (e : Element) : StepsTo "^" e e.parent?.toList := stepsTo_of_navigate rfl (by decide) rfl

theorem stepsTo_top (e : Element) : StepsTo "^^" e [e.top] := stepsTo_of_navigate rfl (by decide) rfl

/-- The steps from an element of a document belong together. Those to its siblings, the ones before it backwards, list
    with it the elements that stand in its parent, where comments and text are passed over; a step to the nearest sibling
    leads to the first of them, and the step back leads from there to the element. Its parent is what all elements that
    stand in it have as theirs, and the first of these is where the step down leads. From everywhere the way up to the
    root leads to the same element. -/
theorem navigation_consistent {t : Text} {d e : Element} (hdocument : Html.document? t = some d) (he : e.IsIn d) :
    (∀ p, e.parent? = some p → ∃ before after,
      StepsTo "*-" e before ∧ StepsTo "*+" e after ∧ before.reverse ++ e :: after = p.childElements ∧
      StepsTo "-" e (before.take 1) ∧ StepsTo "+" e (after.take 1) ∧ (∀ f, StepsTo "+" e [f] → StepsTo "-" f [e]) ∧
      StepsTo ">" p (p.childElements.take 1)) ∧
    (∀ c ∈ e.childElements, StepsTo "^" c [e]) ∧ StepsTo "^^" e [d] := by
  have htop : e.top = d := by
    obtain ⟨root, -, rfl⟩ := Option.map_eq_some_iff.1 hdocument
    rw [Element.top, he.root_eq]
  refine ⟨fun p hp => ⟨e.preceding, e.following, stepsTo_preceding e, stepsTo_following e, ?_, stepsTo_previous e,
    stepsTo_next e, fun f hf => ?_, ?_⟩, fun c hc => ?_, ?_⟩
  · rw [Element.preceding_append_following he hp, Element.children_eq]
  · -- the step leads to the first of the siblings behind the element
    have hfirst := hf.unique (stepsTo_next e)
    cases hfollowing : e.following with
    | nil =>
      rw [hfollowing] at hfirst
      cases hfirst
    | cons g rest =>
      rw [hfollowing] at hfirst
      obtain rfl : f = g := (List.cons.inj hfirst).1
      have hback := stepsTo_previous f
      rwa [Element.preceding_of_following he hp hfollowing] at hback
  · rw [← Element.children_eq]
    exact stepsTo_child p
  · rw [← Element.children_eq] at hc
    have hparent := stepsTo_parent c
    rwa [(Element.isIn_of_mem_children he.root_eq hc).2] at hparent
  · have hroot := stepsTo_top e
    rwa [htop] at hroot

/-- A paragraph between two elements, with text, a comment and an instruction among them. -/
theorem navigation_consistent_comments :
    ∃ d e p f g : Element, Html.document? "<div>a<p>x</p><!--c--><p>y</p>b<?pi?><i>z</i></div>" = some d ∧
      e.IsIn d ∧ e.node.children = [.text "y"] ∧ e.parent? = some p ∧ p.childElements = [f, e, g] ∧
      StepsTo "*-" e [f] ∧ StepsTo "*+" e [g] ∧ StepsTo "+" e [g] ∧ StepsTo "-" g [e] ∧ StepsTo "^^" e [d] := by
  let root : Html.Node := .element "html" [] [.element "body" [] [.element "div" [] [.text "a",
    .element "p" [] [.text "x"], .comment "c", .element "p" [] [.text "y"], .text "b", .comment "?pi?",
    .element "i" [] [.text "z"]]]]
  have hdocument : Html.document? "<div>a<p>x</p><!--c--><p>y</p>b<?pi?><i>z</i></div>" = some ⟨root, []⟩ := rfl
  have he : (Element.mk root [3, 0, 0]).IsIn ⟨root, []⟩ := ⟨rfl, _, rfl, rfl⟩
  obtain ⟨hsiblings, -, htop⟩ := navigation_consistent hdocument he
  obtain ⟨before, after, hbefore, hafter, -, -, hnext, hback, -⟩ := hsiblings _ rfl
  obtain rfl : [⟨root, [1, 0, 0]⟩] = before := (stepsTo_preceding _).unique hbefore
  obtain rfl : [⟨root, [6, 0, 0]⟩] = after := (stepsTo_following _).unique hafter
  exact ⟨_, _, _, _, _, hdocument, he, rfl, rfl, rfl, hbefore, hafter, hnext, hback _ hnext, htop⟩

end PageQuery.Path
