import Mathlib.Data.List.Basic
import PageQuery.Html.Tree

namespace PageQuery.Html.Element

/-!
# Elements and their neighbours

Elements are known by their ways, so that the neighbours of an element are found by counting positions.

* `IsIn`: an element that stands somewhere in a document;
* `childElements`, `children_eq`: the elements among the nodes that stand in an element, in order;
* `preceding_append_following`: an element stands between its neighbours among the children of its parent;
* `preceding_of_following`: the neighbour before the next neighbour of an element is the element.
-/

/-- An element that stands somewhere in the document of another. -/
structure IsIn (e d : Element) : Prop where
  root_eq : e.root = d.root
  located : ∃ n, e.root.locate? e.way = some n ∧ n.isElement = true

/-- The elements among the nodes that stand in an element, in order. -/
def childElements (p : Element) : List Element :=
  (p.node.children.zipIdx.filter fun c => c.1.isElement).map fun c => ⟨p.root, c.2 :: p.way⟩

/-! ### Elements among nodes -/

section

variable (root : Node) (way : List Nat)

theorem amongFrom_eq (i : Nat) (ns : List Node) :
    amongFrom root way i ns = ((ns.zipIdx i).filter fun c => c.1.isElement).map fun c => ⟨root, c.2 :: way⟩ := by
  induction ns generalizing i with
  | nil => rfl
  | cons n ns ih =>
    rw [amongFrom, List.zipIdx_cons, List.filter_cons, ih]
    cases n.isElement <;> rfl

theorem amongFrom_append (i : Nat) (ns ns' : List Node) :
    amongFrom root way i (ns ++ ns') = amongFrom root way i ns ++ amongFrom root way (i + ns.length) ns' := by
  rw [amongFrom_eq, amongFrom_eq, amongFrom_eq, List.zipIdx_append, List.filter_append, List.map_append]

/-- No two of them are the same. -/
theorem nodup_amongFrom (i : Nat) (ns : List Node) : (amongFrom root way i ns).Nodup := by
  have hplaces : (ns.zipIdx i).Pairwise fun c c' => c.2 ≠ c'.2 := by
    rw [← List.pairwise_map (f := fun c : Node × Nat => c.2), List.zipIdx_map_snd]
    exact List.nodup_range'
  rw [amongFrom_eq, List.Nodup, List.pairwise_map]
  refine (hplaces.filter _).imp fun hne heq => hne ?_
  exact (List.cons.inj (Element.mk.inj heq).2).1

end

theorem children_eq (p : Element) : p.children = p.childElements := amongFrom_eq p.root p.way 0 p.node.children

/-! ### Children and their parent -/

variable {d e f p : Element}

/-- The children of an element of a document stand in it, too, and have the element as their parent. -/
theorem isIn_of_mem_children (hp : p.root = d.root) (h : e ∈ p.children) : e.IsIn d ∧ e.parent? = some p := by
  rw [children_eq, childElements] at h
  obtain ⟨⟨n, i⟩, hc, rfl⟩ := List.mem_map.1 h
  obtain ⟨hmem, helement⟩ := List.mem_filter.1 hc
  have hchild : p.node.children[i]? = some n := List.mk_mem_zipIdx_iff_getElem?.1 hmem
  have hlocated : p.root.locate? p.way = some p.node := by
    rw [node]
    cases hnode : p.root.locate? p.way with
    | some m => rfl
    | none =>
      -- a way that leads nowhere has no children
      rw [node, hnode] at hchild
      cases hchild
  refine ⟨⟨hp, n, ?_, helement⟩, rfl⟩
  show (p.root.locate? p.way).bind (·.children[i]?) = some n
  rw [hlocated]
  exact hchild

/-- The parent of an element stands in the same document. -/
theorem root_of_parent? (hp : e.parent? = some p) : p.root = e.root := by
  obtain ⟨root, way⟩ := e
  cases way with
  | nil => cases hp
  | cons i up => exact Option.some.inj hp ▸ rfl

/-- The siblings before an element, the element, and the siblings after it are the children of its parent. -/
theorem preceding_append_following (he : e.IsIn d) (hp : e.parent? = some p) :
    e.preceding.reverse ++ e :: e.following = p.children := by
  obtain ⟨root, way⟩ := e
  cases way with
  | nil => cases hp
  | cons i up =>
    obtain rfl : Element.mk root up = p := Option.some.inj hp
    obtain ⟨n, hn, helement⟩ := he.located
    have hchild : (Element.mk root up).node.children[i]? = some n := by
      obtain ⟨m, hm, hchild⟩ := Option.bind_eq_some_iff.1 hn
      rw [node, hm]
      exact hchild
    obtain ⟨hi, hget⟩ := List.getElem?_eq_some_iff.1 hchild
    have hsplit : (Element.mk root up).node.children =
        (Element.mk root up).node.children.take i ++ n :: (Element.mk root up).node.children.drop (i + 1) := by
      rw [← hget, ← List.drop_eq_getElem_cons hi, List.take_append_drop]
    show (amongFrom root up 0 _).reverse.reverse ++ _ :: amongFrom root up (i + 1) _ = amongFrom root up 0 _
    rw [List.reverse_reverse]
    conv => rhs; rw [hsplit, amongFrom_append, amongFrom, if_pos helement]
    rw [List.length_take_of_le (Nat.le_of_lt hi), Nat.zero_add]

theorem nodup_children (p : Element) : p.children.Nodup := nodup_amongFrom p.root p.way 0 p.node.children

/-- The siblings before the next sibling of an element are the element and those before it. -/
theorem preceding_of_following (he : e.IsIn d) (hp : e.parent? = some p) {rest : List Element}
    (hf : e.following = f :: rest) : f.preceding = e :: e.preceding := by
  have hall := preceding_append_following he hp
  rw [hf] at hall
  have hmem : f ∈ p.children := hall ▸ List.mem_append_right _ (List.mem_cons_of_mem e List.mem_cons_self)
  obtain ⟨hfin, hfp⟩ := isIn_of_mem_children ((root_of_parent? hp).trans he.root_eq) hmem
  have hall' := preceding_append_following hfin hfp
  -- the next sibling stands only once among the children
  have honce : (f :: (f.preceding.reverse ++ f.following)).Nodup :=
    List.perm_middle.nodup_iff.1 (hall' ▸ nodup_children p)
  have hnone := mt List.mem_append.2 (List.nodup_cons.1 honce).1
  rw [not_or] at hnone
  have hsame : f.preceding.reverse ++ f :: f.following = (e.preceding.reverse ++ [e]) ++ f :: rest := by
    rw [hall', ← hall, List.append_assoc, List.singleton_append]
  have hbefore := ((List.append_cons_inj_of_notMem hnone.1 hnone.2).1 hsame).1
  rw [← List.reverse_inj, hbefore, List.reverse_cons]

end PageQuery.Html.Element
