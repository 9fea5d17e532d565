import PageQuery.Proofs.Number.Digits
import PageQuery.Proofs.Path.Parts

namespace PageQuery.Path

/-!
# Every place in a document has a path

The keys and positions that lead to a value, written between slashes, are a path to it.

* `Step`, `Leads`: steps into maps and lists, and where they lead;
* `Step.IsPlain`: steps that are written as they are;
* `data_of_leads`: what is found at the end of such a path.
-/

/-- A step into a value: to the entry of a map under a key, or to an item of a list. -/
inductive Step where
  | key (k : Text)
  | item (i : Nat)
  deriving Repr, DecidableEq

/-- How a step is written in a path. -/
def Step.text : Step → Text
  | .key k => k
  | .item i => Text.ofNat i

/-- A step that is written as it is: under a key that stands for itself and is no question for the keys, or to a
    position whose numeral can be read, as those in all lists that fit into memory can. -/
def Step.IsPlain : Step → Prop
  | .key k => IsPart k ∧ k ≠ "@keys"
  | .item i => i < tenTo Numeral.maxDigits

/-- Steps lead from a value to a value inside it. -/
inductive Leads : (d : Value) → List Step → (v : Value) → Prop where
  | here (v : Value) : Leads v [] v
  | key {es : Entries} {k : Text} {w v : Value} {steps : List Step} (h : Entries.get? es (.text k) = some w)
    (hrest : Leads w steps v) : Leads (.map es) (.key k :: steps) v
  | item {vs : List Value} {i : Nat} {w v : Value} {steps : List Step} (h : vs[i]? = some w)
    (hrest : Leads w steps v) : Leads (.list vs) (.item i :: steps) v

/-! ### Positions -/

/-- A position is written as a part of a path that stands for itself. -/
theorem isPart_ofNat (i : Nat) : IsPart (Text.ofNat i) := by
  have hdigit : ∀ c ∈ Text.ofNat i, c.isDigit = true := fun c => Numeral.isDigit_of_mem_ofNat
  have hother : ∀ c : Char, c.isDigit = false → c ∉ Text.ofNat i := fun c hc hmem => by
    rw [hdigit c hmem] at hc
    cases hc
  exact {
    ne_nil := Numeral.ofNat_ne_nil i
    plain := fun c hc => hother c (Text.forall_mem_of_all (P := fun c => c.isDigit = false) (by decide) c hc)
    trim_eq := Text.trim_of_forall fun c hc => Text.isSpace_eq_false_of_isDigit (hdigit c hc)
    unmarked := fun hlast => hother '!' rfl (List.mem_of_getLast? hlast)
    shallow := fun hdeep => hother '.' rfl (hdeep.subset List.mem_cons_self) }

/-- An item of a list is found under its position. -/
theorem step_item {vs : List Value} {i : Nat} {w : Value} (hi : i < tenTo Numeral.maxDigits) (h : vs[i]? = some w) :
    step (.list vs) (Text.ofNat i) = .ok w := by
  have hpart := isPart_ofNat i
  -- digits alone are a number, and no range
  have hrange : isRange (Text.ofNat i) = false := by
    have hdash : (Text.ofNat i).contains '-' = false := by
      rw [← Bool.not_eq_true, List.contains_iff_mem]
      exact fun hmem => absurd (Numeral.isDigit_of_mem_ofNat hmem) (by decide)
    rw [isRange, hdash, Bool.false_and]
  have hread : Numeral.readInt? (Text.ofNat i) = some (i : Int) := by
    have hnumeral : Numeral.readInt (Text.ofInt (i : Int)) = .ok (i : Int) := Numeral.readInt_ofInt hi
    rw [Numeral.readInt?, show Text.ofNat i = Text.ofInt (i : Int) from rfl, hnumeral]
    rfl
  have hfound : stepInList vs (Text.ofNat i) = w := by
    rw [stepInList, hrange, if_neg Bool.false_ne_true, hread]
    show (if (i : Int) < 0 then Value.null else vs[i]?.getD .null) = w
    rw [if_neg (Int.not_lt.2 (Int.natCast_nonneg i)), h]
    rfl
  rw [step_list hpart.ne_star hpart.shallow, hfound]

/-! ### Whole paths -/

/-- A step that is written as it is stands for itself as a part of a path. -/
theorem Step.IsPlain.isPart {s : Step} (h : s.IsPlain) : IsPart s.text := by
  cases s with
  | key k => exact h.1
  | item i => exact isPart_ofNat i

/-- The parts that steps are written as lead where the steps lead. -/
theorem walk_of_leads {d v : Value} {steps : List Step} (h : Leads d steps v) (hplain : ∀ s ∈ steps, s.IsPlain) :
    walk (steps.map Step.text) d = .ok (Results.ofValue v) := by
  induction h with
  | here v => rfl
  | @key es k w v steps h hrest ih =>
    obtain ⟨⟨hpart, hkeys⟩, hsteps⟩ := List.forall_mem_cons.1 hplain
    have hstep : step (.map es) k = .ok w := by
      rw [step_map hpart.ne_star hpart.shallow hkeys, h]
      rfl
    rw [List.map_cons, Step.text, walk_of_expand (hpart.expand_eq _) hpart.isAlternative, hstep]
    exact ih hsteps
  | @item vs i w v steps h hrest ih =>
    obtain ⟨hi, hsteps⟩ := List.forall_mem_cons.1 hplain
    have hpart := isPart_ofNat i
    rw [List.map_cons, Step.text, walk_of_expand (hpart.expand_eq _) hpart.isAlternative, step_item hi h]
    exact ih hsteps

/-- The steps that lead to a value in a document, written between slashes, are a path at whose end the value is
    found: as the items of a list, as nothing if it is null, and else as one result. -/
theorem data_of_leads {d v : Value} {steps : List Step} (h : Leads d steps v) (hplain : ∀ s ∈ steps, s.IsPlain) :
    data d (Text.join ['/'] (steps.map Step.text)) = .ok (Results.ofValue v) := by
  have hparts : parts (Text.join ['/'] (steps.map Step.text)) = steps.map Step.text := by
    refine parts_join (List.forall_mem_map.2 fun s hs => ?_)
    have hpart := (hplain s hs).isPart
    exact ⟨hpart.slash_notMem, hpart.ne_nil⟩
  rw [data_eq_walk, hparts, walk_of_leads h hplain]

/-- A key with a hyphen and a space, one that looks like a position, and a position. -/
theorem data_of_leads_hyphen :
    Leads (.map [(.text "2-3 b", .list [.null, .map [(.text "1", .list [.int 7, .null])]])])
        [.key "2-3 b", .item 1, .key "1"] (.list [.int 7, .null]) ∧
      (∀ s ∈ [Step.key "2-3 b", .item 1, .key "1"], s.IsPlain) ∧
      data (.map [(.text "2-3 b", .list [.null, .map [(.text "1", .list [.int 7, .null])]])]) "2-3 b/1/1" =
        .ok [.int 7, .null] := by
  have hleads : Leads (.map [(.text "2-3 b", .list [.null, .map [(.text "1", .list [.int 7, .null])]])])
      [.key "2-3 b", .item 1, .key "1"] (.list [.int 7, .null]) := .key rfl (.item rfl (.key rfl (.here _)))
  have hplain : ∀ s ∈ [Step.key "2-3 b", .item 1, .key "1"], s.IsPlain := by
    have hkey : IsPart "2-3 b" ∧ IsPart "1" := by
      constructor <;> exact ⟨by decide, Text.forall_mem_of_all (by decide), rfl, by decide, by decide⟩
    have hitem : 1 < tenTo Numeral.maxDigits :=
      Nat.lt_of_lt_of_le (by decide : 1 < tenTo 1) (tenTo_le_tenTo (by decide))
    exact List.forall_mem_cons.2 ⟨⟨hkey.1, by decide⟩, List.forall_mem_cons.2 ⟨hitem,
      List.forall_mem_singleton.2 ⟨hkey.2, by decide⟩⟩⟩
  exact ⟨hleads, hplain, data_of_leads hleads hplain⟩

end PageQuery.Path
