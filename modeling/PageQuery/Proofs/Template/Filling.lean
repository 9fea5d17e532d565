import PageQuery.Proofs.Expression
import PageQuery.Proofs.Template

namespace PageQuery

/-!
# What templates stand for

Each placeholder of a template stands for a text that the environment alone decides. A template has a text
unless a variable that one of its placeholders names has none.

* `Template.settled`: what a piece stands for;
* `Template.resolve_eq_ok_iff`: when a template has a text, and which;
* `Template.ends_fill`: the one way in which a placeholder over data fails;
* `Template.resolve_over_data`: which templates over data have a text.
-/

namespace Template

open Expression (Failure rendered)

variable {env : Environment}

/-- What a piece stands for: a placeholder for the text of the variable that it names, else for the text of
    its expression's value, and for itself where there is no such text. -/
def settled (env : Environment) : Piece → Text
  | .plain c => [c]
  | .hole body =>
    match Ordered.get? env (Text.trim body) with
    | some v => (rendered v).toOption.getD (Piece.hole body).text
    | none => (fillExpression env body).toOption.getD (Piece.hole body).text

/-! ### Placeholders -/

/-- The placeholder of a variable is replaced by the variable's text. -/
theorem fill_of_named {body : Text} {v : Value} (hv : Ordered.get? env (Text.trim body) = some v) :
    fill env body = rendered v := by
  rw [fill, hv]

/-- Any other placeholder is replaced by the text of its expression's value. -/
theorem fill_of_value {body t : Text} (hbody : Ordered.get? env (Text.trim body) = none)
    (ht : fillExpression env body = .ok t) : fill env body = .ok t := by
  simp only [fill, hbody, ht]

/-- Where the expression has no such text, the placeholder stays if the failure is forgiven. -/
theorem fill_of_failure {body : Text} {f : Failure} (hbody : Ordered.get? env (Text.trim body) = none)
    (hf : fillExpression env body = .error f) :
    fill env body = if isForgiven f then .ok (Piece.hole body).text else .error f := by
  simp only [fill, hbody, hf]

theorem settled_of_named {body : Text} {v : Value} (hv : Ordered.get? env (Text.trim body) = some v) :
    settled env (.hole body) = (rendered v).toOption.getD (Piece.hole body).text := by
  simp only [settled, hv]

theorem settled_of_unnamed {body : Text} (hbody : Ordered.get? env (Text.trim body) = none) :
    settled env (.hole body) = (fillExpression env body).toOption.getD (Piece.hole body).text := by
  simp only [settled, hbody]

/-- A piece that is replaced is replaced by what it stands for. -/
theorem eq_settled_of_fillPiece {p : Piece} {u : Text} (h : fillPiece env p = .ok u) : u = settled env p := by
  cases p with
  | plain c => exact (Except.ok.inj h).symm
  | hole body =>
    rw [fillPiece] at h
    cases hv : Ordered.get? env (Text.trim body) with
    | some v =>
      rw [fill_of_named hv] at h
      rw [settled_of_named hv, h]
      rfl
    | none =>
      rw [settled_of_unnamed hv]
      cases hvalue : fillExpression env body with
      | ok t =>
        rw [fill_of_value hv hvalue] at h
        exact (Except.ok.inj h).symm
      | error f =>
        rw [fill_of_failure hv hvalue] at h
        split at h
        · exact (Except.ok.inj h).symm
        · cases h

/-- A template has a text if each of its placeholders is replaced, and then every piece is by what it stands
    for. -/
theorem resolve_eq_ok_iff {t r : Text} :
    resolve env t = .ok r ↔
      (∀ body, .hole body ∈ pieces t → ∃ u, fill env body = .ok u) ∧
        r = (pieces t).flatMap (settled env) := by
  have hpieces : (∀ p ∈ pieces t, ∃ u, fillPiece env p = .ok u) ↔
      ∀ body, .hole body ∈ pieces t → ∃ u, fill env body = .ok u := by
    constructor
    · exact fun h body hbody => h _ hbody
    · intro h p hp
      cases p with
      | plain c => exact ⟨[c], rfl⟩
      | hole body => exact h body hp
  have hrow : ∀ texts, (pieces t).mapM (fillPiece env) = .ok texts →
      texts.flatten = (pieces t).flatMap (settled env) := by
    intro texts htexts
    rw [eq_map_of_mapM_eq_ok (fun _ _ => eq_settled_of_fillPiece) htexts, List.flatMap_def]
  rw [← hpieces, ← exists_mapM_eq_ok_iff, resolve, bind_eq_ok_iff]
  constructor
  · rintro ⟨texts, htexts, hr⟩
    exact ⟨⟨texts, htexts⟩, (Except.ok.inj hr).symm.trans (hrow texts htexts)⟩
  · rintro ⟨⟨texts, htexts⟩, rfl⟩
    exact ⟨texts, htexts, congrArg Except.ok (hrow texts htexts)⟩

/-- A template has no text because of one of its placeholders. -/
theorem exists_of_resolve_eq_error {t : Text} {f : Failure} (h : resolve env t = .error f) :
    ∃ body, .hole body ∈ pieces t ∧ fill env body = .error f := by
  have hrow : (pieces t).mapM (fillPiece env) = .error f := by
    rcases bind_eq_error_iff.1 h with h | ⟨_, -, h⟩
    · exact h
    · cases h
  obtain ⟨p, hp, hfailed⟩ := exists_of_mapM_eq_error hrow
  cases p with
  | plain c => cases hfailed
  | hole body => exact ⟨body, hp, hfailed⟩

/-- The template of one placeholder has the text by which that is replaced. -/
theorem resolve_hole {e : Text} (he : e ≠ []) (hbrace : '}' ∉ e) :
    resolve env (Piece.hole e).text = fill env e := by
  have hpieces := pieces_hole he hbrace []
  rw [List.append_nil] at hpieces
  rw [resolve, hpieces, pieces, piecesFrom, List.mapM_cons, fillPiece]
  cases fill env e with
  | ok u => exact congrArg Except.ok (List.append_nil u)
  | error f => rfl

/-! ### Templates over data -/

/-- A placeholder that names a variable is replaced if every whole number in the variable has few enough
    digits; any other placeholder always is. -/
theorem ends_fill (henv : ∀ b ∈ env, b.2.IsJson) (body : Text) :
    Ends (fun _ => ∀ v, Ordered.get? env (Text.trim body) = some v → v.WithinDigits)
      (fun f => f.IsTooLarge ∧ ∃ v, Ordered.get? env (Text.trim body) = some v ∧ ¬v.WithinDigits)
      (fill env body) := by
  cases hv : Ordered.get? env (Text.trim body) with
  | some v =>
    rw [fill_of_named hv]
    refine ends_mono (Expression.ends_rendered (henv _ (Ordered.mem_of_get? hv))) ?_ ?_
    · intro _ h w hw
      exact Option.some.inj hw ▸ h
    · exact fun f h => ⟨h.1, v, rfl, h.2⟩
  | none =>
    have hvalue : Ends (fun _ => True) Failure.IsForgiven (fillExpression env body) := by
      refine ends_bind (Expression.ends_evaluate henv _) fun v hv => ?_
      exact ends_mono (Expression.ends_rendered hv) (fun _ _ => trivial) fun _ h => h.1.isForgiven
    cases hexpression : fillExpression env body with
    | ok t =>
      rw [fill_of_value hv hexpression]
      exact nofun
    | error f =>
      rw [hexpression] at hvalue
      have hforgiven : isForgiven f = true := hvalue
      rw [fill_of_failure hv hexpression, if_pos hforgiven]
      exact nofun

/-- A template over data has a text exactly if every whole number in the variables that its placeholders name
    has few enough digits to be written. The text is then what its pieces stand for, and there is no other
    failure than a number that is too large. -/
theorem resolve_over_data (henv : ∀ b ∈ env, b.2.IsJson) (t : Text) :
    ((∃ r, resolve env t = .ok r) ↔
      ∀ body v, .hole body ∈ pieces t → Ordered.get? env (Text.trim body) = some v → v.WithinDigits) ∧
    (∀ r, resolve env t = .ok r → r = (pieces t).flatMap (settled env)) ∧
    (∀ f, resolve env t = .error f → f.IsTooLarge ∧ ∃ body v, .hole body ∈ pieces t ∧
      Ordered.get? env (Text.trim body) = some v ∧ ¬v.WithinDigits) := by
  have hfill : ∀ body, (∃ u, fill env body = .ok u) ↔
      ∀ v, Ordered.get? env (Text.trim body) = some v → v.WithinDigits := by
    intro body
    refine exists_eq_ok_iff_of_ends (ends_fill henv body) ?_
    rintro f ⟨-, v, hv, hlarge⟩ hwithin
    exact hlarge (hwithin v hv)
  refine ⟨?iff, fun r hr => (resolve_eq_ok_iff.1 hr).2, ?failure⟩
  case iff =>
    constructor
    · rintro ⟨r, hr⟩ body v hbody
      exact (hfill body).1 ((resolve_eq_ok_iff.1 hr).1 body hbody) v
    · intro hwithin
      exact ⟨_, resolve_eq_ok_iff.2 ⟨fun body hbody => (hfill body).2 fun v => hwithin body v hbody, rfl⟩⟩
  case failure =>
    intro f hf
    obtain ⟨body, hbody, hfailed⟩ := exists_of_resolve_eq_error hf
    have hends := ends_fill henv body
    rw [hfailed] at hends
    obtain ⟨hlarge, v, hv, hwithin⟩ := hends
    exact ⟨hlarge, body, v, hbody, hv, hwithin⟩

/-- A variable is replaced, and an expression that has no value stays. -/
theorem resolve_over_data_number :
    (∀ b ∈ ([("x", .int 7)] : Environment), b.2.IsJson) ∧
      resolve [("x", .int 7)] "a=${ x }&b=${x % 0}" = .ok "a=7&b=${x % 0}" := by
  have henv : ∀ b ∈ ([("x", .int 7)] : Environment), b.2.IsJson :=
    List.forall_mem_singleton.2 (.scalar trivial)
  obtain ⟨htext, hsettled, -⟩ := resolve_over_data henv "a=${ x }&b=${x % 0}"
  have hseven : (Value.int 7).WithinDigits := by
    refine Value.withinDigits_int_iff.2 ?_
    calc 7 < tenTo 1 := by decide
      _ ≤ tenTo Numeral.maxDigits := tenTo_le_tenTo (by decide)
  obtain ⟨r, hr⟩ := htext.2 fun body v _ hv => by
    obtain ⟨-, rfl⟩ := Prod.mk.inj (List.mem_singleton.1 (Ordered.mem_of_get? hv))
    exact hseven
  refine ⟨henv, hr.trans (congrArg _ ((hsettled r hr).trans ?_))⟩
  rfl

/-- A variable with a whole number of too many digits, alone or in a map, stops the template that names it,
    while the placeholder of an expression with such a value stays. -/
theorem resolve_tooLarge :
    (Value.int (tenTo Numeral.maxDigits)).IsJson ∧
      (Value.map [(.text "a", .int (tenTo Numeral.maxDigits))]).IsJson ∧
      resolve [("x", .int (tenTo Numeral.maxDigits))] "${x}" = .error (.numeral .tooLarge) ∧
      resolve [("x", .map [(.text "a", .int (tenTo Numeral.maxDigits))])] "${x}" =
        .error (.writing (.numeral .tooLarge)) ∧
      resolve [("x", .int (tenTo Numeral.maxDigits))] "${x + 1}" = .ok "${x + 1}" := by
  -- the number is not looked at until it is written
  generalize hn : (tenTo Numeral.maxDigits : Nat) = n
  have hlarge : ∀ m : Nat, n ≤ m → Numeral.ofInt m = .error .tooLarge :=
    fun m hm => Numeral.ofInt_of_le (hn ▸ hm)
  have hint : ∀ m : Nat, n ≤ m → rendered (.int m) = .error (.numeral .tooLarge) := by
    intro m hm
    show ((Numeral.ofInt m).mapError RenderError.numeral).mapError Failure.ofRender = _
    rw [hlarge m hm]
    rfl
  have hmap : rendered (.map [(.text "a", .int n)]) = .error (.writing (.numeral .tooLarge)) := by
    have hwrite : Json.writeAt .compact 1 (.int n) = .error (.numeral .tooLarge) := by
      rw [Json.writeAt, Json.writeScalar, Json.writeInt, hlarge n (Nat.le_refl n)]
      rfl
    rw [rendered, Value.render, Json.write, Json.writeAt, Json.writeEntries, hwrite]
    rfl
  have hvariable : ∀ v : Value, resolve [("x", v)] "${x}" = rendered v := fun v =>
    (resolve_hole (e := "x") (by decide) (by decide)).trans (fill_of_named rfl)
  have hjson : (Value.int n).IsJson := .scalar trivial
  refine ⟨hjson, ?map, (hvariable _).trans (hint n (Nat.le_refl n)), (hvariable _).trans hmap, ?expression⟩
  case map =>
    exact .map (List.forall_mem_singleton.2 ⟨"a", rfl⟩) (List.forall_mem_singleton.2 hjson)
  case expression =>
    have hvalue : Expression.evaluate [("x", .int n)] (Text.trim "x + 1") = .ok (.int (n + 1 : Nat)) := rfl
    have hexpression : fillExpression [("x", .int n)] "x + 1" = .error (.numeral .tooLarge) := by
      rw [fillExpression, hvalue]
      exact hint (n + 1) (Nat.le_succ n)
    exact (resolve_hole (e := "x + 1") (by decide) (by decide)).trans (fill_of_failure rfl hexpression)

end Template

end PageQuery
