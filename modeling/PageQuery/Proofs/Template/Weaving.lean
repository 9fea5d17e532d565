import PageQuery.Proofs.Execution.Confined
import PageQuery.Proofs.Template.Filling

namespace PageQuery

/-!
# One pass over a template

A template is read once, from the left. What a placeholder stands for is put between the chunks around it and
is not read again.

* `Template.woven`: chunks with texts put between them;
* `Template.pieces_woven`: the placeholders of a template that is made of chunks and expressions;
* `Execution.outcome_runSegment_template`: what a template segment finds;
* `Template.resolve_woven`: the text of such a template, and what a segment with it finds.
-/

namespace Template

/-- Chunks with a text put in front of each but the first. -/
def woven (f : Text → Text) (first : Text) : List (Text × Text) → Text
  | [] => first
  | (e, chunk) :: parts => first ++ f e ++ woven f chunk parts

/-- The template of chunks and the expressions between them. -/
abbrev wovenHoles (first : Text) (parts : List (Text × Text)) : Text :=
  woven (fun e => (Piece.hole e).text) first parts

/-! ### Pieces between chunks -/

/-- The pieces of chunks and the expressions between them. -/
def wovenPieces (first : Text) : List (Text × Text) → List Piece
  | [] => first.map .plain
  | (e, chunk) :: parts => first.map .plain ++ .hole e :: wovenPieces chunk parts

/-- In a template of chunks without placeholders and expressions without closing braces, the placeholders are
    the expressions. -/
theorem pieces_woven {first : Text} {parts : List (Text × Text)} (hfirst : ¬opening <:+: first)
    (hparts : ∀ p ∈ parts, p.1 ≠ [] ∧ '}' ∉ p.1 ∧ ¬opening <:+: p.2) :
    pieces (wovenHoles first parts) = wovenPieces first parts := by
  induction parts generalizing first with
  | nil =>
    have hchunk : pieces (first ++ []) = first.map .plain ++ pieces [] := pieces_chunk hfirst nofun
    rw [List.append_nil] at hchunk
    exact hchunk.trans (List.append_nil _)
  | cons p parts ih =>
    obtain ⟨e, chunk⟩ := p
    obtain ⟨⟨he, hbrace, hchunk⟩, hrest⟩ := List.forall_mem_cons.1 hparts
    rw [wovenHoles, woven, List.append_assoc, pieces_chunk hfirst (by simp [Piece.text]),
      pieces_hole he hbrace, ih hchunk hrest, wovenPieces]

/-- The placeholders among such pieces. -/
theorem hole_mem_wovenPieces {first e : Text} {parts : List (Text × Text)} :
    .hole e ∈ wovenPieces first parts ↔ ∃ p ∈ parts, p.1 = e := by
  induction parts generalizing first with
  | nil => simp [wovenPieces]
  | cons p parts ih => simp [wovenPieces, ih, eq_comm]

/-- Such pieces with a text for each of them, where characters stand for themselves. -/
theorem flatMap_wovenPieces {g : Piece → Text} (hplain : ∀ c, g (.plain c) = [c]) (first : Text)
    (parts : List (Text × Text)) :
    (wovenPieces first parts).flatMap g = woven (fun e => g (.hole e)) first parts := by
  have hchunk : ∀ chunk : Text, (chunk.map Piece.plain).flatMap g = chunk := by
    intro chunk
    simp [List.flatMap_map, hplain]
  induction parts generalizing first with
  | nil => exact hchunk first
  | cons p parts ih =>
    rw [wovenPieces, List.flatMap_append, List.flatMap_cons, hchunk, ih, woven, List.append_assoc]

/-- A template of chunks and expressions has a text if each expression is replaced: the chunks with what the
    expressions stand for between them. -/
theorem resolve_wovenHoles {first : Text} {parts : List (Text × Text)} (hfirst : ¬opening <:+: first)
    (hparts : ∀ p ∈ parts, p.1 ≠ [] ∧ '}' ∉ p.1 ∧ ¬opening <:+: p.2) {env : Environment} {r : Text} :
    resolve env (wovenHoles first parts) = .ok r ↔
      (∀ p ∈ parts, ∃ u, fill env p.1 = .ok u) ∧ r = woven (fun e => settled env (.hole e)) first parts := by
  rw [resolve_eq_ok_iff, pieces_woven hfirst hparts, flatMap_wovenPieces fun _ => rfl]
  simp only [hole_mem_wovenPieces]
  refine and_congr_left fun _ => ⟨fun h p hp => h p.1 ⟨p, hp, rfl⟩, ?_⟩
  rintro h e ⟨p, hp, rfl⟩
  exact h p hp

end Template

/-! ### Template segments -/

namespace Execution

open Run
open Query (Segment)

/-- Remarks keep nothing from going on. -/
theorem outcome_forM_note {α : Type} (remark : α → Notice) (as : List α) :
    (as.forM fun a => Run.note (remark a)).outcome = .ok () := by
  induction as with
  | nil => rfl
  | cons a as ih =>
    have hblind : Blind (as.forM fun a => Run.note (remark a)) :=
      (confined_forM (A := fun _ => True) fun _ _ => confined_note _).blind
    exact (outcome_bind (Run.note (remark a)) fun _ => hblind).trans ih

/-- A template is filled with its text. -/
theorem outcome_fill (env : Environment) (t : Text) :
    (fill env t).outcome = (Template.resolve env t).mapError Fault.expression := by
  rw [fill, outcome_bind _ fun _ => blind_of _]
  have hremarks := outcome_forM_note (fun p : Text × Expression.Failure => .unresolved p.1 p.2.message)
    (Template.unresolved env t)
  exact congrArg (· >>= fun _ => (Template.resolve env t).mapError Fault.expression) hremarks

/-- A template segment without parameters and transforms finds the text of its path, unless that is blank or
    the word for nothing. -/
theorem outcome_runSegment_template {s : Segment} (hscheme : s.scheme = .template)
    (hparameters : s.parameters = []) (htransforms : s.transforms = {}) (ctx : Transform.Context) (n : Node)
    (env : Environment) :
    (runSegment ctx s n env).outcome =
      ((Template.resolve env s.path).mapError Fault.expression).map fun r : Text =>
        (if r = "null" ∨ Text.isBlank r = true then [] else [.text r], env) := by
  have hrun : runSegment ctx s n env =
      fill env s.path >>= fun r => pure (resultsOf false (.text r), env) := by
    rw [runSegment, hscheme, hparameters, htransforms]
    rfl
  have hresults : ∀ r : Text, resultsOf false (.text r) =
      if r = "null" ∨ Text.isBlank r = true then [] else [.text r] := by
    intro r
    show (if (r != "null" && !Text.isBlank r) = true then [Value.text r] else []) = _
    have hvalid : (r != "null" && !Text.isBlank r) = true ↔ ¬(r = "null" ∨ Text.isBlank r = true) := by
      simp [not_or]
    simp only [hvalid, ite_not]
  rw [hrun, outcome_bind _ fun _ => blind_pure _, outcome_fill]
  simp only [hresults]
  cases (Template.resolve env s.path).mapError Fault.expression <;> rfl

end Execution

/-! ### Chunks and expressions -/

namespace Template

/-- A template is read once. Where chunks without placeholders and expressions without closing braces take
    turns, its text is that of the chunks with what each expression stands for between them, whatever
    characters that holds: the text of a variable stands as it is. A template segment with such a path finds
    this text. -/
theorem resolve_woven {first : Text} {parts : List (Text × Text)} (hfirst : ¬opening <:+: first)
    (hparts : ∀ p ∈ parts, p.1 ≠ [] ∧ '}' ∉ p.1 ∧ ¬opening <:+: p.2) (env : Environment) :
    (∀ r, resolve env (wovenHoles first parts) = .ok r ↔
      (∀ p ∈ parts, ∃ u, fill env p.1 = .ok u) ∧ r = woven (fun e => settled env (.hole e)) first parts) ∧
    (∀ e t, Ordered.get? env (Text.trim e) = some (.text t) →
      fill env e = .ok t ∧ settled env (.hole e) = t) ∧
    (∀ (ctx : Transform.Context) (n : Node) (session : Session) (s : Query.Segment) (r : Text),
      s.scheme = .template → s.parameters = [] → s.transforms = {} → s.path = wovenHoles first parts →
      (∀ p ∈ parts, ∃ u, fill env p.1 = .ok u) → r = woven (fun e => settled env (.hole e)) first parts →
      ((Execution.runSegment ctx s n env).exec session).1 =
        .ok (if r = "null" ∨ Text.isBlank r = true then [] else [.text r], env)) := by
  refine ⟨fun r => resolve_wovenHoles hfirst hparts, ?texts, ?segments⟩
  case texts =>
    intro e t ht
    have hfill : fill env e = .ok t := fill_of_named ht
    exact ⟨hfill, (eq_settled_of_fillPiece (p := .hole e) hfill).symm⟩
  case segments =>
    intro ctx n session s r hscheme hparameters htransforms hpath hfilled hr
    have htext : resolve env s.path = .ok r := hpath ▸ (resolve_wovenHoles hfirst hparts).2 ⟨hfilled, hr⟩
    rw [(Execution.blind_runSegment ctx s n env).exec_fst,
      Execution.outcome_runSegment_template hscheme hparameters htransforms, htext]
    rfl

/-- The text of a variable is not read again, although it looks like a placeholder and like parameters. -/
theorem resolve_woven_text :
    ∃ (env : Environment) (page : Page) (s : Query.Segment),
      env = ([("x", .text "${y}?a&b")] : Environment) ∧
      s = ⟨.template, "$${ x }$${x + 1}\x7d-${?}", [], {}, true, false, []⟩ ∧
      wovenHoles "$" [(" x ", "$"), ("x + 1", "\x7d-"), ("?", "")] = s.path ∧
      resolve env s.path = .ok "$${y}?a&b$${y}?a&b1\x7d-${?}" ∧
      ((Execution.runSegment {} s page.root env).exec {}).1 =
        .ok ([.text "$${y}?a&b$${y}?a&b1\x7d-${?}"], env) := by
  let env : Environment := [("x", .text "${y}?a&b")]
  let page : Page := ⟨"https://a.org/p", ⟨.element "html" [] [], []⟩, .null⟩
  let s : Query.Segment := ⟨.template, "$${ x }$${x + 1}\x7d-${?}", [], {}, true, false, []⟩
  let parts : List (Text × Text) := [(" x ", "$"), ("x + 1", "\x7d-"), ("?", "")]
  have hparts : ∀ p ∈ parts, p.1 ≠ [] ∧ '}' ∉ p.1 ∧ ¬opening <:+: p.2 := by decide
  have hfirst : ¬opening <:+: "$" := by decide
  have hfilled : ∀ p ∈ parts, ∃ u, fill env p.1 = .ok u := by
    simp only [parts, List.forall_mem_cons]
    exact ⟨⟨"${y}?a&b", rfl⟩, ⟨"${y}?a&b1", rfl⟩, ⟨"${?}", rfl⟩, List.forall_mem_nil _⟩
  obtain ⟨htext, -, hsegment⟩ := resolve_woven hfirst hparts env
  refine ⟨env, page, s, rfl, rfl, rfl, (htext _).2 ⟨hfilled, rfl⟩, ?_⟩
  exact hsegment {} page.root {} s _ rfl rfl rfl rfl hfilled rfl

end Template

end PageQuery
