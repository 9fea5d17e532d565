import PageQuery.Proofs.Regexp.Running
import PageQuery.Transform.Literal

namespace PageQuery.Transform

/-!
# Literals in brackets

The patterns by which the literal of an assignment is looked for find a map or a list in the way of a scan from the
left: at the first place where the name, an equals sign and the opening bracket stand, and up to the first closing
bracket behind which the assignment may end.

* `endsAssignment`, `upTo?`, `literalAt?`, `valueAt?`: the scan;
* `bracketed`: the forms of maps and lists;
* `run_gap`, `run_exactly`: the parts of an assignment;
* `captures_run`: what is matched at a place;
* `search_bracketed`: the pattern does what the scan does.
-/

open Regexp Pattern Cursor

/-- Whether an assignment may end here: behind white space comes a semicolon, or nothing. -/
def endsAssignment (t : Text) : Bool :=
  match Text.trimLeft t with
  | [] => true
  | c :: _ => c == ';'

/-- A text up to the first closing bracket behind which an assignment may end. -/
def upTo? (close : Char) : Text → Option Text
  | [] => none
  | c :: t => if c = close ∧ endsAssignment t then some [c] else (upTo? close t).map (c :: ·)

/-- The literal in brackets at the start of a text. -/
def literalAt? (opening close : Char) : Text → Option Text
  | [] => none
  | c :: t => if c = opening then (upTo? close t).map (c :: ·) else none

/-- What stands behind a name and an equals sign at the start of a text. -/
def valueAt? (name t : Text) : Option Text := do
  let t ← Text.after? name t
  let t ← Text.after? ['='] (Text.trimLeft t)
  return Text.trimLeft t

/-- The form of a literal in brackets. -/
def bracketed (opening close : Char) : Pattern := .row [oneOf [opening], anything, oneOf [close]]

/-- Maps are looked for first, and then lists. -/
theorem exists_literalForms : ∃ forms, literalForms = bracketed '\x7b' '\x7d' :: bracketed '[' ']' :: forms :=
  ⟨_, rfl⟩

/-! ### The parts of an assignment -/

variable {g : Captures} {rest : Rest} {opening close : Char}

theorem accepts_space (c : Char) : Charset.accepts ⟨.exact, false, [.category .space false false]⟩ c =
    Text.isSpace c := by
  simp [Charset.accepts, Item.accepts, Regexp.Category.accepts, Folding.lower]

/-- White space is matched as far as it goes, if the rest goes on from behind it when it goes on in front of a part of
    it. -/
theorem run_gap (before after : Text) (g : Captures) (rest : Rest)
    (hrest : rest (split (before ++ after.takeWhile Text.isSpace) (Text.trimLeft after)) g = none →
      ∀ b x a, Text.trimLeft (x :: a) = Text.trimLeft after → Text.isSpace x = true →
        rest (split b (x :: a)) g = none) :
    gap.run (split before after) g rest =
      rest (split (before ++ after.takeWhile Text.isSpace) (Text.trimLeft after)) g := by
  have haccepts : Charset.accepts ⟨.exact, false, [.category .space false false]⟩ = Text.isSpace :=
    funext accepts_space
  have hgreedy := run_star_greedy ⟨.exact, false, [.category .space false false]⟩ before after g rest
  rw [haccepts] at hgreedy
  exact hgreedy hrest

/-- Characters in a row. -/
theorem run_exactly (t before after : Text) (g : Captures) (rest : Rest) :
    (row (t.map fun c => .one (.single .exact c.toNat))).run (split before after) g rest =
      (Text.after? t after).bind fun after => rest (split (before ++ t) after) g := by
  induction t generalizing before after with
  | nil =>
    rw [List.append_nil]
    rfl
  | cons x t ih =>
    rw [List.map_cons, run_row_cons]
    cases after with
    | nil => rfl
    | cons y after =>
      rw [run_one, Text.after?]
      by_cases hx : x = y
      · subst hx
        rw [if_pos (Charset.accepts_single_iff.2 rfl), if_pos rfl, ih, List.append_assoc, List.singleton_append]
      · rw [if_neg (mt Charset.accepts_single_iff.1 (Ne.symm hx)), if_neg hx]
        rfl

/-- One character. -/
theorem run_oneOf (x : Char) (before after : Text) (g : Captures) (rest : Rest) :
    (oneOf [x]).run (split before after) g rest =
      (Text.after? [x] after).bind fun after => rest (split (before ++ [x]) after) g :=
  run_exactly [x] before after g rest

/-- What ends an assignment behind white space. -/
def stop : Pattern := .oneOf [oneOf [';'], .anchor .lastLineEnd]

theorem run_stop (before after : Text) (g : Captures) :
    (stop.run (split before after) g fun c g => some (c, g)).map Prod.snd =
      if after = [] ∨ after = ['\n'] ∨ after.head? = some ';' then some g else none := by
  cases after with
  | nil => rfl
  | cons c after =>
    by_cases hc : ';' = c
    · subst hc
      rfl
    · have hsemicolon : (oneOf [';']).run (split before (c :: after)) g (fun c g => some (c, g)) = none := by
        rw [run_oneOf, Text.after?, if_neg hc]
        rfl
      have hends : Anchor.holds (split before (c :: after)) .lastLineEnd = (c :: after == ['\n']) := rfl
      show ((Pattern.alt (oneOf [';']) (.anchor .lastLineEnd)).run _ _ _).map Prod.snd = _
      rw [run_alt, hsemicolon, Option.none_or, Pattern.run, hends]
      by_cases hbreak : c :: after = ['\n']
      · simp [hbreak]
      · rw [if_neg (by simpa using hbreak), if_neg (by simpa [Ne.symm hc] using hbreak)]
        rfl

/-- No white space is left at the start of a trimmed text. -/
theorem isSpace_of_trimLeft {t u : Text} {c : Char} (h : Text.trimLeft t = c :: u) : Text.isSpace c = false := by
  have hhead := List.head?_dropWhile_not Text.isSpace t
  rw [← Text.trimLeft, h] at hhead
  exact hhead

theorem endsAssignment_iff {t : Text} :
    endsAssignment t = true ↔ Text.trimLeft t = [] ∨ (Text.trimLeft t).head? = some ';' := by
  unfold endsAssignment
  cases Text.trimLeft t <;> simp

/-- The end of an assignment. -/
theorem run_end (before after : Text) (g : Captures) :
    ((row [gap, stop]).run (split before after) g fun c g => some (c, g)).map Prod.snd =
      if endsAssignment after then some g else none := by
  show (gap.run (split before after) g fun c g => stop.run c g fun c g => some (c, g)).map Prod.snd = _
  rw [run_gap, run_stop]
  · have hbreak : Text.trimLeft after ≠ ['\n'] := fun h => by
      cases isSpace_of_trimLeft h
    simp only [endsAssignment_iff, hbreak, false_or]
  · intro hnone b x a htrim hx
    have hlast := run_stop (before ++ after.takeWhile Text.isSpace) (Text.trimLeft after) g
    have hplace := run_stop b (x :: a) g
    rw [hnone] at hlast
    rw [if_neg] at hplace
    · exact Option.map_eq_none_iff.1 hplace
    · rintro (h | h | h)
      · cases h
      · rw [← htrim, h] at hlast
        cases hlast
      · cases h
        cases hx

/-! ### Literals -/

theorem map_findSome?_cons {α β γ : Type} (told : β → γ) (f : α → Option β) (a : α) (as : List α) :
    ((a :: as).findSome? f).map told = ((f a).map told).or ((as.findSome? f).map told) := by
  rw [List.findSome?_cons]
  cases f a <;> rfl

/-- Up to the first closing bracket behind which the assignment may end, the characters are passed over one by one. -/
theorem run_upTo (close : Char) (before x after : Text) (g : Captures) :
    ((passing (.any true) (before ++ x) after).findSome? fun c => (oneOf [close]).run c g fun c' g' =>
        (row [gap, stop]).run c' ((1, (split before (x ++ after)).between c') :: g') fun c g => some (c, g)).map
      Prod.snd = (upTo? close after).map fun t => (1, x ++ t) :: g := by
  induction after generalizing x with
  | nil =>
    rw [passing, List.findSome?_singleton, run_oneOf]
    rfl
  | cons y after ih =>
    have hmore := ih (x ++ [y])
    rw [List.append_assoc, List.singleton_append, ← List.append_assoc before] at hmore
    rw [passing, if_pos (Charset.accepts_any y), map_findSome?_cons, hmore, run_oneOf, Text.after?, upTo?]
    by_cases hy : y = close
    · subst hy
      have hbetween := between_split before (x ++ [y]) after
      rw [List.append_assoc, List.singleton_append, ← List.append_assoc before] at hbetween
      rw [if_pos rfl]
      simp only [Text.after?, Option.bind_some, hbetween, run_end, true_and]
      split
      · rfl
      · simp [Function.comp_def]
    · simp [hy, Ne.symm hy, Function.comp_def]

/-- The group of a literal in brackets. -/
theorem run_literal (opening close : Char) (before after : Text) (g : Captures) :
    ((Pattern.group 1 (bracketed opening close)).run (split before after) g fun c' g' =>
        (row [gap, stop]).run c' g' fun c g => some (c, g)).map Prod.snd =
      (literalAt? opening close after).map fun t => (1, t) :: g := by
  show ((oneOf [opening]).run (split before after) g fun c g => anything.run c g fun c g =>
    (oneOf [close]).run c g fun c' g' => (row [gap, stop]).run c' ((1, (split before after).between c') :: g')
      fun c g => some (c, g)).map Prod.snd = _
  rw [run_oneOf]
  cases after with
  | nil => rfl
  | cons y after =>
    rw [literalAt?, Text.after?]
    by_cases hy : y = opening
    · subst hy
      rw [if_pos rfl, if_pos rfl]
      have hrun := run_upTo close before [y] after g
      simp only [Text.after?, Option.bind_some, anything, run_star_lazy, Option.map_map]
      exact hrun
    · rw [if_neg hy, if_neg (Ne.symm hy)]
      rfl

/-! ### Assignments -/

/-- A character that is not the next one. -/
theorem run_oneOf_ne {x y : Char} (hne : x ≠ y) (before after : Text) (g : Captures) (rest : Rest) :
    (oneOf [x]).run (split before (y :: after)) g rest = none := by
  rw [run_oneOf, Text.after?, if_neg hne]
  rfl

theorem run_bracketed_ne {y : Char} (hne : opening ≠ y) (before after : Text) (g : Captures) (rest : Rest) :
    (Pattern.group 1 (bracketed opening close)).run (split before (y :: after)) g rest = none :=
  run_oneOf_ne hne before after g fun c g => anything.run c g fun c g =>
    (oneOf [close]).run c g fun c' g' => rest c' ((1, (split before (y :: after)).between c') :: g')

theorem namePattern_eq {name : Text} (hname : '*' ∉ name) :
    namePattern name = row (name.map fun c => .one (.single .exact c.toNat)) := by
  rw [namePattern]
  congr 1
  refine List.map_congr_left fun c hc => if_neg ?_
  rw [beq_iff_eq]
  rintro rfl
  exact hname hc

/-- What is matched at a place. -/
theorem captures_run {name : Text} (hname : '*' ∉ name) (hopening : Text.isSpace opening = false)
    (before after : Text) :
    ((assignmentPattern name (bracketed opening close)).run (split before after) [] fun c g => some (c, g)).map
      Prod.snd = ((valueAt? name after).bind (literalAt? opening close)).map fun t => [(1, t)] := by
  have hspace : ∀ {x y : Char}, Text.isSpace x = false → Text.isSpace y = true → x ≠ y := by
    rintro x y hx hy rfl
    rw [hx] at hy
    cases hy
  show ((namePattern name).run _ _ fun c g => gap.run c g fun c g => (oneOf ['=']).run c g fun c g =>
    gap.run c g fun c g => (Pattern.group 1 (bracketed opening close)).run c g fun c g =>
      (row [gap, stop]).run c g fun c g => some (c, g)).map Prod.snd = _
  rw [namePattern_eq hname, run_exactly, valueAt?]
  cases Text.after? name after with
  | none => rfl
  | some after =>
    rw [Option.bind_some, run_gap _ _ _ _ fun _ b x a _ hx => run_oneOf_ne (hspace rfl hx) b a _ _, run_oneOf]
    show _ = Option.map _ (Option.bind ((Text.after? ['='] (Text.trimLeft after)).bind _) _)
    cases Text.after? ['='] (Text.trimLeft after) with
    | none => rfl
    | some after =>
      rw [Option.bind_some, run_gap _ _ _ _ fun _ b x a _ hx => run_bracketed_ne (hspace hopening hx) b a _ _]
      exact run_literal opening close _ _ []

/-- The pattern finds the literal that the scan finds. -/
theorem search_bracketed {name : Text} (hname : '*' ∉ name) (hopening : Text.isSpace opening = false) (t : Text) :
    ((assignmentPattern name (bracketed opening close)).search t).bind (·.group? 1) =
      leftmost (fun t => (valueAt? name t).bind (literalAt? opening close)) t := by
  have hmatch : ∀ b a : Text, ((assignmentPattern name (bracketed opening close)).matchAt false (split b a)).map
      (·.captures) = ((valueAt? name a).bind (literalAt? opening close)).map fun t => [(1, t)] := by
    intro b a
    rw [← captures_run hname hopening b a]
    show Option.map _ (Option.map _ (Pattern.run _ _ [] fun c g => some (c, g))) = _
    rw [Option.map_map]
    rfl
  have hgroup : ∀ o : Option Found, o.bind (·.group? 1) = (o.map (·.captures)).bind (List.lookup 1) := by
    intro o
    cases o <;> rfl
  rw [hgroup]
  show Option.bind (Option.map _ (searchFrom _ t false (split [] t))) _ = _
  rw [map_searchFrom hmatch, Option.bind_map]
  exact Option.bind_fun_some _

end PageQuery.Transform
