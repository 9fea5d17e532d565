import PageQuery.Execution
import PageQuery.Format.Reader
import PageQuery.Format.Writer
import PageQuery.Proofs.Json.RoundTrip
import PageQuery.Proofs.Run
import PageQuery.Proofs.Text

namespace PageQuery

/-!
# Values survive their JSON text

Wherever a value is written as JSON and the text is read again, the value comes back.

* `Value.bare_of_isExact`: there are no elements to be replaced;
* `Json.isBracketed_write`: the text of a list or map stands in brackets, without white space around them;
* `Format.read_sniffed`, `Transform.exec_applyJson`: it is taken for JSON where no format is given, and decoded by
  the transform;
* `Execution.exec_arrayNode`: the node behind an array pipe holds what is handed on;
* `Format.json_roundTrip`: the three together.
-/

/-! ### Values -/

namespace Value

/-- A list or a map. -/
def IsCompound : Value → Prop
  | .list _ => True
  | .map _ => True
  | _ => False

theorem bareItems_eq_map (vs : List Value) : bareItems vs = vs.map bare := by
  induction vs with
  | nil => rfl
  | cons v vs ih => rw [bareItems, List.map_cons, ih]

theorem bareEntries_eq_map (es : Entries) : bareEntries es = es.map fun e => (e.1, e.2.bare) := by
  induction es with
  | nil => rfl
  | cons e es ih => rw [bareEntries, List.map_cons, ih]

/-- There are no elements in a value that its JSON text holds. -/
theorem bare_of_isExact {v : Value} (hv : v.IsExact) : v.bare = v := by
  induction hv with
  | null | bool | int | text => rfl
  | @list vs _ ih =>
    rw [bare, bareItems_eq_map, List.map_congr_left (g := id) ih, List.map_id]
  | @map es _ _ _ ih =>
    have hself : ∀ e ∈ es, (e.1, e.2.bare) = id e := fun e he => by rw [ih e he]; rfl
    rw [bare, bareEntries_eq_map, List.map_congr_left hself, List.map_id]

end Value

/-! ### Texts -/

/-- A text of a list or a map: it stands in brackets, and starts and ends with these. -/
def Json.IsBracketed (t : Text) : Prop :=
  ∃ opening u closing, t = opening :: (u ++ [closing]) ∧ (opening = '[' ∨ opening = '{') ∧
    (closing = ']' ∨ closing = '}')

/-- What is written for a list or a map stands in brackets. -/
theorem Json.isBracketed_write {style : Style} {v : Value} {t : Text} (hv : v.IsCompound)
    (ht : write style v = .ok t) : IsBracketed t := by
  match v, hv with
  | .list vs, _ =>
    obtain ⟨u, hu⟩ := exists_of_write_list ht
    exact ⟨'[', u, ']', hu, .inl rfl, .inl rfl⟩
  | .map es, _ =>
    obtain ⟨u, hu⟩ := exists_of_write_map ht
    exact ⟨'{', u, '}', hu, .inr rfl, .inr rfl⟩

/-- A text in brackets has no white space around it. -/
theorem Json.trim_of_isBracketed {t : Text} (h : IsBracketed t) : Text.trim t = t := by
  obtain ⟨opening, u, closing, rfl, hopening, hclosing⟩ := h
  have hstart : Text.isSpace opening = false := by rcases hopening with rfl | rfl <;> decide
  have hend : Text.isSpace closing = false := by rcases hclosing with rfl | rfl <;> decide
  exact Text.trim_enclosed hstart hend u

/-- A text in brackets is taken for JSON. -/
theorem Format.ofStart?_of_isBracketed {t : Text} (h : Json.IsBracketed t) : ofStart? t = some .json := by
  obtain ⟨opening, u, closing, rfl, hopening, -⟩ := h
  rcases hopening with rfl | rfl <;> rfl

namespace Format

/-- JSON text is read as its value where JSON is asked for, whatever the content type. -/
theorem read_json {t : Text} {v : Value} (h : Json.read t = .ok v) (contentType : Option Text) :
    read (.text t) contentType (some "json") = .ok v := by
  have hload : load .json t = .ok v := by rw [load, loadJson, h]
  exact hload

/-- JSON text in brackets is read as its value where nothing is known of its format. -/
theorem read_sniffed {t : Text} {v : Value} (h : Json.read t = .ok v) (hshape : Json.IsBracketed t) :
    read (.text t) none none = .ok v := by
  have hload : load .json t = .ok v := by rw [load, loadJson, h]
  have hdetect : detect none (some t) = some .json := ofStart?_of_isBracketed hshape
  have hchosen : chosen none none t = some .json := hdetect
  have htext : (Body.text t).toText none = .ok t := rfl
  rw [read, htext]
  simp only [Except.mapError, bind, Except.bind, hchosen, hload]

end Format

/-- The transform of JSON texts decodes the text of a list or a map. -/
theorem Transform.exec_applyJson {t : Text} {v : Value} (h : Json.read t = .ok v)
    (hshape : Json.IsBracketed t) (hv : v.IsCompound) (s : Session) :
    (applyJson (.text t) none).exec s = (.ok v, s) := by
  have hdecode : decodeText? (Text.trim t) = some v := by
    rw [Json.trim_of_isBracketed hshape, decodeText?, Json.read?, h]
    cases v with
    | list vs => rfl
    | map es => rfl
    | _ => exact hv.elim
  show (decodeOrWarn (Text.trim t)).exec s = _
  rw [decodeOrWarn, hdecode]
  rfl

/-- The node behind an array pipe holds the values that are handed on. -/
theorem Execution.exec_arrayNode (base : Node) {vs : List Value} (hvs : ∀ v ∈ vs, v.IsExact) (s : Session) :
    ∃ n, (arrayNode base vs).exec s = (.ok n, s) ∧ n.data = .list vs := by
  have hlist : (Value.list vs).IsExact := .list hvs
  obtain ⟨t, hwrite, hread⟩ := Json.read_write Json.isSpaced_line hlist
  obtain ⟨document, hdocument⟩ : ∃ d, readDocument [] = .ok d := ⟨_, rfl⟩
  have hpage : Page.build base.page.url [] (.list vs) [] = .ok ⟨base.page.url, document, .list vs⟩ := by
    rw [Page.build, hdocument]
    rfl
  refine ⟨⟨⟨base.page.url, document, .list vs⟩, some document, .list vs⟩, ?_, rfl⟩
  have hdata : (Json.read? t).getD (.text t) = .list vs := by rw [Json.read?, hread]; rfl
  rw [arrayNode, Value.bare_of_isExact hlist, hwrite, Run.exec_bind]
  show Run.exec (do
    let p ← Run.of (Page.build base.page.url [] ((Json.read? t).getD (.text t)) [])
    return p.root) s = _
  rw [hdata, hpage]
  rfl

namespace Format

/-- A value of null, truth values, whole numbers that can be written, texts, lists and maps is read from its
    JSON text, in both layouts. The text of a list or map needs no format to be given, and is decoded by the
    transform, too. So an array pipe hands on such values as they are. -/
theorem json_roundTrip :
    (∀ v : Value, v.IsExact → ∀ (lines : Bool) (root : Text),
      ∃ t, write v (some "json") lines root = .ok t ∧
        (∀ contentType, read (.text t) contentType (some "json") = .ok v) ∧
        (v.IsCompound → read (.text t) none none = .ok v ∧
          ∀ s, (Transform.applyJson (.text t) none).exec s = (.ok v, s))) ∧
      ∀ (base : Node) (vs : List Value), (∀ v ∈ flattenedItems vs, v.IsExact) → ∀ s,
        ∃ n, (Execution.arrayNode base (flattenedItems vs)).exec s = (.ok n, s) ∧
          n.data = .list (flattenedItems vs) := by
  constructor
  · intro v hv lines root
    have hstyle : (if lines then Json.Style.pretty else .line).IsSpaced := by
      cases lines
      · exact Json.isSpaced_line
      · exact Json.isSpaced_pretty
    obtain ⟨t, hwrite, hread⟩ := Json.read_write hstyle hv
    have hname : ofName? (Text.lower "json") = some .json := by decide
    refine ⟨t, ?_, read_json hread, fun hcompound => ?_⟩
    · rw [write, Option.getD_some, hname, Value.bare_of_isExact hv]
      simp only [hwrite]
      rfl
    · have hshape := Json.isBracketed_write hcompound hwrite
      exact ⟨read_sniffed hread hshape, Transform.exec_applyJson hread hshape hcompound⟩
  · exact fun base vs hvs s => Execution.exec_arrayNode base hvs s

/-- A map with a list, in which there is a text full of escapes, and an empty map. -/
def nested : Value :=
  .map [(.text "a", .list [.null, .bool true, .int (-12), .text ['"', '\\', '\x01', 'é']]), (.text [], .map [])]

theorem isExact_nested : nested.IsExact := by
  refine .map (by simp) ?_ ?_
  · simp
  · intro e he
    rcases List.mem_pair.1 he with rfl | rfl
    · refine .list ?_
      have hint : (-12 : Int).natAbs < tenTo Numeral.maxDigits :=
        Nat.lt_of_lt_of_le (by decide) (tenTo_le_tenTo (j := 2) (by decide))
      simp only [List.forall_mem_cons]
      exact ⟨.null, .bool true, .int hint, .text _, List.forall_mem_nil _⟩
    · exact .map (List.forall_mem_nil _) .nil (List.forall_mem_nil _)

/-- A nested map is read from its text over several lines, and an array pipe hands it on with a number out of
    nested lists. -/
theorem json_roundTrip_nested :
    nested.IsExact ∧ nested.IsCompound ∧
      (∃ t, write nested (some "json") true [] = .ok t ∧ read (.text t) none none = .ok nested) ∧
      (∀ v ∈ flattenedItems [.list [nested, .list [.bool false]]], v.IsExact) ∧
      ∀ base s, ∃ n, (Execution.arrayNode base [nested, .bool false]).exec s = (.ok n, s) ∧
        n.data = .list [nested, .bool false] := by
  obtain ⟨t, hwrite, -, hcompound⟩ := json_roundTrip.1 nested isExact_nested true []
  have hitems : ∀ v ∈ flattenedItems [.list [nested, .list [.bool false]]], v.IsExact := by
    have hflat : flattenedItems [.list [nested, .list [.bool false]]] = [nested, .bool false] := rfl
    rw [hflat, List.forall_mem_cons]
    exact ⟨isExact_nested, List.forall_mem_singleton.2 (.bool false)⟩
  exact ⟨isExact_nested, trivial, ⟨t, hwrite, (hcompound trivial).1⟩, hitems,
    fun base => json_roundTrip.2 base _ hitems⟩

end Format

end PageQuery
