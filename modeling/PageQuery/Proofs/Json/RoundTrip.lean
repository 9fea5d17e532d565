import Mathlib.Data.List.Forall2
import PageQuery.Proofs.Json.Text
import PageQuery.Proofs.Value.Render

namespace PageQuery

/-!
# JSON texts are read back

A value that is written as JSON is read from that text as it was, in every layout.

* `Value.IsExact`: the values of which this holds: no doubles, and no two keys of a map the same;
* `Style.IsSpaced`: the layouts, which add nothing but white space to what JSON needs;
* `ReadsAs`: a text that is read as a value, whatever follows it;
* `ReadsRows`: rows of such texts, up to the closing bracket;
* `exists_of_write_list`, `exists_of_write_map`: what is written for lists and maps stands in brackets;
* `Recoding`: other ways of writing texts in quotes;
* `readsAs_recoded`: what is written for a value, by the structure of values;
* `read_write`: whole texts.
-/

/-- A value that its JSON text holds exactly: null, a truth value, a whole number that can be written, a text,
    a list of such values, or a map of them under different texts as keys. -/
inductive Value.IsExact : Value → Prop where
  | null : IsExact .null
  | bool (b : Bool) : IsExact (.bool b)
  | int {n : Int} (h : n.natAbs < tenTo Numeral.maxDigits) : IsExact (.int n)
  | text (t : Text) : IsExact (.text t)
  | list {vs : List Value} (h : ∀ v ∈ vs, IsExact v) : IsExact (.list vs)
  | map {es : Entries} (hkeys : ∀ e ∈ es, ∃ t, e.1 = .text t) (hdistinct : (es.map (·.1)).Nodup)
    (hvalues : ∀ e ∈ es, IsExact e.2) : IsExact (.map es)

/-! ### Maps -/

namespace Entries

/-- A new key comes last. -/
theorem put_of_forall {key : Scalar} {es : Entries} (h : ∀ e ∈ es, e.1.sameKey key = false) (v : Value) :
    put key v es = es ++ [(key, v)] := by
  induction es with
  | nil => rfl
  | cons e es ih =>
    obtain ⟨he, hes⟩ := List.forall_mem_cons.1 h
    rw [put, he, ih hes]
    rfl

/-- Texts are the same key only if they are the same. -/
theorem sameKey_text {s t : Text} (h : s ≠ t) : (Scalar.text s).sameKey (.text t) = false :=
  beq_eq_false_iff_ne.2 h

/-- A map is made of its entries if its keys are different texts. -/
theorem ofList_eq_self {es : Entries} (hkeys : ∀ e ∈ es, ∃ t, e.1 = .text t)
    (hdistinct : (es.map (·.1)).Nodup) : ofList es = es := by
  -- the entries before a key do not have it
  have hoverlay : ∀ before : Entries, (∀ e ∈ before ++ es, ∃ t, e.1 = .text t) →
      ((before ++ es).map (·.1)).Nodup → overlay before es = before ++ es := by
    clear hkeys hdistinct
    induction es with
    | nil => exact fun before _ _ => (List.append_nil before).symm
    | cons e es ih =>
      intro before hkeys hdistinct
      have hnew : ∀ e' ∈ before, e'.1.sameKey e.1 = false := by
        intro e' he'
        obtain ⟨s, hs⟩ := hkeys e' (List.mem_append_left _ he')
        obtain ⟨t, ht⟩ := hkeys e (List.mem_append_right _ List.mem_cons_self)
        rw [hs, ht]
        refine sameKey_text ?_
        rintro rfl
        rw [List.map_append, List.nodup_append] at hdistinct
        exact hdistinct.2.2 e'.1 (List.mem_map_of_mem he') e.1 (List.mem_map_of_mem List.mem_cons_self)
          (hs.trans ht.symm)
      have hput : put e.1 e.2 before = before ++ [e] := put_of_forall hnew e.2
      show overlay (put e.1 e.2 before) es = _
      rw [hput, ih (before ++ [e]) (by simpa using hkeys) (by simpa using hdistinct)]
      simp
  exact hoverlay [] hkeys hdistinct

end Entries

namespace Json

/-! ### White space -/

/-- Text that may stand between the parts of a JSON text. -/
def IsBlank (gap : Text) : Prop := ∀ c ∈ gap, isGap c = true

/-- A layout that has commas between items and colons after keys, and adds white space to them. -/
structure Style.IsSpaced (style : Style) : Prop where
  item : ∃ gap, IsBlank gap ∧ style.itemGap = ',' :: gap
  key : ∃ gap, IsBlank gap ∧ style.keyGap = ':' :: gap

theorem isSpaced_compact : Style.compact.IsSpaced := ⟨⟨[], nofun, rfl⟩, [], nofun, rfl⟩

theorem isSpaced_line : Style.line.IsSpaced :=
  ⟨⟨[' '], by simp [IsBlank, isGap], rfl⟩, [' '], by simp [IsBlank, isGap], rfl⟩

theorem isSpaced_pretty : Style.pretty.IsSpaced := ⟨⟨[], nofun, rfl⟩, [' '], by simp [IsBlank, isGap], rfl⟩

/-- Line breaks are white space. -/
theorem isBlank_lineBreak (style : Style) (level : Nat) : IsBlank (lineBreak style level) := by
  intro c hc
  unfold lineBreak at hc
  split at hc
  · cases hc
  · rcases List.mem_cons.1 hc with rfl | hc
    · rfl
    · rw [(List.mem_replicate.1 hc).2]
      rfl

/-- White space is passed over, up to a character that is none. -/
theorem skip_gap {gap : Text} (hgap : IsBlank gap) {c : Char} (hc : isGap c = false) (rest : Text) :
    skip (gap ++ c :: rest) = c :: rest := by
  rw [skip, List.dropWhile_append_of_pos hgap, List.dropWhile_cons_of_neg (by simp [hc])]

/-- A number ends before white space. -/
theorem EndsNumber.gap {gap rest : Text} (hgap : IsBlank gap) (hrest : EndsNumber rest) :
    EndsNumber (gap ++ rest) := by
  cases gap with
  | nil => exact hrest
  | cons c gap =>
    have hc : isGap c = true := hgap c List.mem_cons_self
    obtain rfl | rfl | rfl | rfl : c = ' ' ∨ c = '\t' ∨ c = '\n' ∨ c = '\r' := by
      simpa [isGap, or_assoc] using hc
    all_goals exact endsNumber_cons (by decide) _

/-! ### Rows -/

/-- A reader of rows that end with a bracket, whose parts are texts of one kind: it reads the last part, and any
    other with what it reads after the comma. -/
structure ReadsRows {α : Type} (R : Text → α → Prop) (bracket : Char)
    (read : Nat → Text → Reading (List α × Text)) : Prop where
  start : ∀ {t a}, R t a → ∃ c u, t = c :: u ∧ isGap c = false
  last : ∀ {t a fuel gap} (rest : Text), R t a → IsBlank gap → t.length ≤ fuel →
    read (fuel + 1) (t ++ (gap ++ bracket :: rest)) = .ok ([a], rest)
  more : ∀ {t a fuel gap next as rest}, R t a → t.length ≤ fuel → skip (gap ++ next) = next →
    read fuel next = .ok (as, rest) → read (fuel + 1) (t ++ (',' :: (gap ++ next))) = .ok (a :: as, rest)

/-- A row is read up to its bracket, with fuel for its characters. -/
theorem ReadsRows.join {α : Type} {R : Text → α → Prop} {bracket : Char}
    {read : Nat → Text → Reading (List α × Text)} (hread : ReadsRows R bracket read) {gap close : Text}
    (hgap : IsBlank gap) (hclose : IsBlank close) {ts : List Text} {as : List α} (h : List.Forall₂ R ts as)
    (hne : ts ≠ []) (rest : Text) {fuel : Nat}
    (hfuel : (Text.join (',' :: gap) ts ++ close).length < fuel) :
    read fuel (Text.join (',' :: gap) ts ++ (close ++ bracket :: rest)) = .ok (as, rest) := by
  induction h generalizing fuel with
  | nil => exact absurd rfl hne
  | @cons t a ts as ht hts ih =>
    obtain ⟨fuel, rfl⟩ : ∃ n, fuel = n + 1 := Nat.exists_eq_succ_of_ne_zero (by omega)
    cases hts with
    | nil =>
      rw [Text.join_singleton] at hfuel ⊢
      refine hread.last rest ht hclose ?_
      rw [List.length_append] at hfuel
      omega
    | @cons t' a' ts as ht' hts =>
      obtain ⟨c, u, hc, -⟩ := hread.start ht
      obtain ⟨c', u', hc', hsolid⟩ := hread.start ht'
      obtain ⟨v, hv⟩ := Text.exists_join_cons (',' :: gap) t' ts
      rw [Text.join_cons_cons] at hfuel ⊢
      have hlength : t.length ≤ fuel := by
        simp only [List.length_append] at hfuel
        omega
      -- a part takes at least one character, so the fuel lasts
      have hlast : (Text.join (',' :: gap) (t' :: ts) ++ close).length < fuel := by
        simp only [hc, List.length_append, List.length_cons] at hfuel ⊢
        omega
      have hskip : skip (gap ++ (Text.join (',' :: gap) (t' :: ts) ++ (close ++ bracket :: rest))) =
          Text.join (',' :: gap) (t' :: ts) ++ (close ++ bracket :: rest) := by
        rw [hv, hc']
        exact skip_gap hgap hsolid _
      rw [List.append_assoc, List.append_assoc]
      exact hread.more ht hlength hskip (ih (List.cons_ne_nil _ _) hlast)

/-! ### Values, items and members -/

/-- The characters with which a written value starts. -/
def starts : Text :=
  ['"', '[', '{', '-', 'n', 't', 'f', '0', '1', '2', '3', '4', '5', '6', '7', '8', '9']

/-- No value starts with white space, a closing bracket or a byte order mark. -/
theorem of_mem_starts {c : Char} (h : c ∈ starts) : isGap c = false ∧ c ≠ ']' ∧ c ≠ Char.ofNat 0xFEFF := by
  have hall : ∀ c ∈ starts, isGap c = false ∧ c ≠ ']' ∧ c ≠ Char.ofNat 0xFEFF :=
    Text.forall_mem_of_all (by decide)
  exact hall c h

/-- A text that starts as values do and is read as a value, whatever follows it. -/
structure ReadsAs (t : Text) (v : Value) : Prop where
  start : ∃ c rest, t = c :: rest ∧ c ∈ starts
  value_eq : ∀ {fuel : Nat} {rest : Text}, t.length ≤ fuel → EndsNumber rest →
    value fuel (t ++ rest) = .ok (v, rest)

/-- A text in quotes that is read as a text, whatever follows it. -/
def ReadsAsText (q t : Text) : Prop := ∃ u, q = '"' :: u ∧ ∀ rest, string (u ++ rest) = .ok (t, rest)

/-- A text that is read as an entry of a map: a key in quotes, a colon and a value. -/
def ReadsAsEntry (gap t : Text) (e : Scalar × Value) : Prop :=
  ∃ q key u, t = q ++ (':' :: gap ++ u) ∧ e.1 = .text key ∧ ReadsAsText q key ∧ ReadsAs u e.2

/-- White space in front of a text that is read as a value is passed over. -/
theorem ReadsAs.skip_gap {t : Text} {v : Value} (h : ReadsAs t v) {gap : Text} (hgap : IsBlank gap)
    (rest : Text) : skip (gap ++ (t ++ rest)) = t ++ rest := by
  obtain ⟨c, u, rfl, hc⟩ := h.start
  exact Json.skip_gap hgap (of_mem_starts hc).1 (u ++ rest)

/-- The items of a list are read as a row. -/
theorem readsRows_items : ReadsRows ReadsAs ']' items where
  start h := by
    obtain ⟨c, u, ht, hc⟩ := h.start
    exact ⟨c, u, ht, (of_mem_starts hc).1⟩
  last {t v fuel gap} rest h hgap hlength := by
    have hvalue := h.value_eq hlength (.gap hgap (endsNumber_cons (c := ']') (by decide) rest))
    have hskip : skip (gap ++ ']' :: rest) = ']' :: rest := Json.skip_gap hgap rfl rest
    rw [items, hvalue]
    simp only [bind, Except.bind, hskip]
    rfl
  more {t v fuel gap next vs rest} h hlength hskip hnext := by
    have hvalue := h.value_eq hlength (endsNumber_cons (c := ',') (by decide) (gap ++ next))
    have hcomma : skip (',' :: (gap ++ next)) = ',' :: (gap ++ next) := rfl
    rw [items, hvalue]
    simp only [bind, Except.bind, hcomma, hskip, hnext]
    rfl

/-- A key is read with its value. -/
theorem members_entry {gap t rest : Text} {e : Scalar × Value} {fuel : Nat} (hgap : IsBlank gap)
    (h : ReadsAsEntry gap t e) (hlength : t.length ≤ fuel) (hrest : EndsNumber rest) :
    members (fuel + 1) (t ++ rest) =
      match skip rest with
      | '}' :: rest => .ok ([e], rest)
      | ',' :: rest => do
        let (es, rest) ← members fuel (skip rest)
        return (e :: es, rest)
      | rest => fail .expectingComma rest := by
  obtain ⟨_, key, u, rfl, hkey, ⟨q, rfl, hq⟩, hu⟩ := h
  obtain ⟨k, v⟩ := e
  obtain rfl : k = .text key := hkey
  have hstring := hq (':' :: (gap ++ (u ++ rest)))
  have hcolon : skip (':' :: (gap ++ (u ++ rest))) = ':' :: (gap ++ (u ++ rest)) := rfl
  have hfuel : u.length ≤ fuel := by
    simp only [List.length_append, List.length_cons] at hlength
    omega
  have htext : '"' :: q ++ (':' :: gap ++ u) ++ rest = '"' :: (q ++ ':' :: (gap ++ (u ++ rest))) := by
    simp
  rw [htext, members, hstring]
  simp only [bind, Except.bind, hcolon, hu.skip_gap hgap, hu.value_eq hfuel hrest]
  rfl

/-- The entries of a map are read as a row. -/
theorem readsRows_members {gap : Text} (hgap : IsBlank gap) :
    ReadsRows (ReadsAsEntry gap) '}' members where
  start h := by
    obtain ⟨_, key, u, rfl, -, ⟨q, rfl, -⟩, -⟩ := h
    exact ⟨'"', _, rfl, rfl⟩
  last {t e fuel close} rest h hclose hlength := by
    have hend : EndsNumber (close ++ '}' :: rest) := .gap hclose (endsNumber_cons (by decide) rest)
    have hskip : skip (close ++ '}' :: rest) = '}' :: rest := Json.skip_gap hclose rfl rest
    rw [members_entry hgap h hlength hend, hskip]
    rfl
  more {t e fuel inner next es rest} h hlength hskip hnext := by
    have hend : EndsNumber (',' :: (inner ++ next)) := endsNumber_cons (by decide) _
    have hcomma : skip (',' :: (inner ++ next)) = ',' :: (inner ++ next) := rfl
    rw [members_entry hgap h hlength hend, hcomma]
    simp only [hskip, hnext]
    rfl

/-! ### Written values -/

/-- Parts are written between brackets as a row with white space around it. -/
theorem exists_enclose {style : Style} (hstyle : style.IsSpaced) (level : Nat) (opening closing : Char)
    {parts : List Text} (hne : parts ≠ []) :
    ∃ before gap after, IsBlank before ∧ IsBlank gap ∧ IsBlank after ∧
      enclose style level opening closing parts =
        opening :: (before ++ (Text.join (',' :: gap) parts ++ (after ++ [closing]))) := by
  obtain ⟨gap, hgap, hitem⟩ := hstyle.item
  refine ⟨lineBreak style (level + 1), gap ++ lineBreak style (level + 1), lineBreak style level,
    isBlank_lineBreak _ _, ?_, isBlank_lineBreak _ _, ?_⟩
  · intro c hc
    exact (List.mem_append.1 hc).elim (hgap c) (isBlank_lineBreak _ _ c)
  · have hfull : parts.isEmpty = false := by simpa using hne
    simp [enclose, hfull, hitem]

/-- A row of computations that give what they should gives all of it. -/
theorem exists_mapM_forall₂ {ε α β : Type} {f : α → Except ε β} {R : β → α → Prop} {as : List α}
    (h : ∀ a ∈ as, ∃ b, f a = .ok b ∧ R b a) : ∃ bs, as.mapM f = .ok bs ∧ List.Forall₂ R bs as := by
  induction as with
  | nil => exact ⟨[], rfl, .nil⟩
  | cons a as ih =>
    obtain ⟨⟨b, hb, hR⟩, has⟩ := List.forall_mem_cons.1 h
    obtain ⟨bs, hbs, hRs⟩ := ih has
    exact ⟨b :: bs, mapM_cons_eq_ok_iff.2 ⟨b, bs, hb, hbs, rfl⟩, .cons hR hRs⟩

/-- A text that starts with no quote and no opening bracket is read as a word or a number. -/
theorem value_atom {c : Char} (hquote : c ≠ '"') (hlist : c ≠ '[') (hmap : c ≠ '{') (fuel : Nat) (t : Text) :
    value (fuel + 1) (c :: t) = (atom (c :: t)).map fun r => (.scalar r.1, r.2) := by
  rw [value]
  · rfl
  · exact fun _ h => hquote (List.cons.inj h).1
  · exact fun _ h => hlist (List.cons.inj h).1
  · exact fun _ h => hmap (List.cons.inj h).1

/-- A scalar is read if its text is, as a word or a number. -/
theorem readsAs_atom {t : Text} {s : Scalar}
    (hstart : ∃ c rest, t = c :: rest ∧ c ∈ starts ∧ c ≠ '"' ∧ c ≠ '[' ∧ c ≠ '{')
    (hatom : ∀ rest, EndsNumber rest → atom (t ++ rest) = .ok (s, rest)) : ReadsAs t (.scalar s) := by
  obtain ⟨c, u, rfl, hc, hquote, hlist, hmap⟩ := hstart
  refine ⟨⟨c, u, rfl, hc⟩, fun {fuel rest} hlength hrest => ?_⟩
  obtain ⟨fuel, rfl⟩ : ∃ n, fuel = n + 1 := Nat.exists_eq_succ_of_ne_zero (by
    rw [List.length_cons] at hlength
    omega)
  rw [List.cons_append, value_atom hquote hlist hmap, ← List.cons_append, hatom rest hrest]
  rfl

/-- A whole number is read from its numeral. -/
theorem readsAs_ofInt {n : Int} (hn : n.natAbs < tenTo Numeral.maxDigits) :
    ReadsAs (Text.ofInt n) (.int n) := by
  refine readsAs_atom ?_ fun rest hrest => atom_ofInt hn hrest
  have hdigit : ∀ c : Char, c.isDigit = true → c ∈ starts ∧ c ≠ '"' ∧ c ≠ '[' ∧ c ≠ '{' := by
    intro c hc
    rcases eq_of_isDigit hc with rfl | rfl | rfl | rfl | rfl | rfl | rfl | rfl | rfl | rfl <;> decide
  cases n with
  | ofNat n =>
    obtain ⟨c, u, hu⟩ := List.exists_cons_of_ne_nil (Numeral.ofNat_ne_nil n)
    exact ⟨c, u, hu, hdigit c (Numeral.isDigit_of_mem_ofNat (n := n) (by rw [hu]; exact List.mem_cons_self))⟩
  | negSucc n => exact ⟨'-', _, rfl, by decide⟩

/-- A text is read from its quotes. -/
theorem readsAs_text {q t : Text} (h : ReadsAsText q t) : ReadsAs q (.text t) := by
  obtain ⟨u, rfl, hu⟩ := h
  refine ⟨⟨'"', u, rfl, by decide⟩, fun {fuel rest} hlength _ => ?_⟩
  obtain ⟨fuel, rfl⟩ : ∃ n, fuel = n + 1 := Nat.exists_eq_succ_of_ne_zero (by
    rw [List.length_cons] at hlength
    omega)
  rw [List.cons_append, value, hu]
  rfl

/-- A list that is not closed at once is read as its items. -/
theorem value_list {c : Char} (hc : c ≠ ']') {t u : Text} (hskip : skip t = c :: u) (fuel : Nat) :
    value (fuel + 1) ('[' :: t) = (items fuel (c :: u)).map fun r => (.list r.1, r.2) := by
  rw [value, hskip]
  split
  · next h => exact absurd (List.cons.inj h).1 hc
  · rfl

/-- A map that is not closed at once is read as its entries. -/
theorem value_map {c : Char} (hc : c ≠ '}') {t u : Text} (hskip : skip t = c :: u) (fuel : Nat) :
    value (fuel + 1) ('{' :: t) =
      (members fuel (c :: u)).map fun r => (.map (Entries.ofList r.1), r.2) := by
  rw [value, hskip]
  split
  · next h => exact absurd (List.cons.inj h).1 hc
  · rfl

/-- A row of parts in brackets is read as its parts, with fuel for its characters. The first of the parts
    starts with a character that is no closing bracket. -/
theorem exists_row {α : Type} {R : Text → α → Prop} {opening bracket : Char}
    {read : Nat → Text → Reading (List α × Text)} (hread : ReadsRows R bracket read)
    (hbracket : ∀ {t a}, R t a → t.head? ≠ some bracket) {style : Style} (hstyle : style.IsSpaced)
    (level : Nat) {ts : List Text} {as : List α} (h : List.Forall₂ R ts as) (hne : ts ≠ []) (rest : Text)
    {fuel : Nat} (hfuel : (enclose style level opening bracket ts).length ≤ fuel + 1) :
    ∃ t c u, enclose style level opening bracket ts ++ rest = opening :: t ∧ skip t = c :: u ∧
      c ≠ bracket ∧ read fuel (c :: u) = .ok (as, rest) := by
  obtain ⟨before, gap, after, hbefore, hgap, hafter, henclose⟩ :=
    exists_enclose hstyle level opening bracket hne
  rw [henclose] at hfuel ⊢
  cases h with
  | nil => exact absurd rfl hne
  | @cons t a ts as ht hts =>
    obtain ⟨c, u, hc, hsolid⟩ := hread.start ht
    obtain ⟨v, hv⟩ := Text.exists_join_cons (',' :: gap) t ts
    have hlength : (Text.join (',' :: gap) (t :: ts) ++ after).length < fuel := by
      simp only [List.length_append, List.length_cons, List.length_nil] at hfuel ⊢
      omega
    have hrow := hread.join hgap hafter (.cons ht hts) hne rest hlength
    refine ⟨before ++ (Text.join (',' :: gap) (t :: ts) ++ (after ++ bracket :: rest)), c,
      u ++ (v ++ (after ++ bracket :: rest)), by simp, ?_, ?_, ?_⟩
    · rw [hv, hc]
      simpa using skip_gap hbefore hsolid (u ++ (v ++ (after ++ bracket :: rest)))
    · rintro rfl
      exact hbracket ht (by rw [hc]; rfl)
    · rw [hv, hc] at hrow
      simpa using hrow

/-- A text in brackets has fuel. -/
theorem exists_fuel {style : Style} {level : Nat} {opening closing : Char} {parts : List Text} {fuel : Nat}
    (hfuel : (enclose style level opening closing parts).length ≤ fuel) : ∃ n, fuel = n + 1 := by
  refine Nat.exists_eq_succ_of_ne_zero ?_
  unfold enclose at hfuel
  split at hfuel
  · simp only [List.length_cons] at hfuel
    omega
  · simp only [List.length_append, List.length_cons] at hfuel
    omega

/-- What is written between brackets starts and ends with these. -/
theorem exists_enclose_concat (style : Style) (level : Nat) (opening closing : Char) (parts : List Text) :
    ∃ u, enclose style level opening closing parts = opening :: (u ++ [closing]) := by
  unfold enclose
  split
  · exact ⟨[], rfl⟩
  · exact ⟨_, rfl⟩

/-- What is written for a list stands in square brackets. -/
theorem exists_of_write_list {style : Style} {vs : List Value} {w : Text} (h : write style (.list vs) = .ok w) :
    ∃ t, w = '[' :: (t ++ [']']) := by
  obtain ⟨ts, -, hw⟩ := bind_eq_ok_iff.1 h
  cases hw
  exact exists_enclose_concat style 0 '[' ']' ts

/-- What is written for a map stands in braces. -/
theorem exists_of_write_map {style : Style} {es : Entries} {w : Text} (h : write style (.map es) = .ok w) :
    ∃ t, w = '{' :: (t ++ ['}']) := by
  obtain ⟨ts, -, hw⟩ := bind_eq_ok_iff.1 h
  cases hw
  exact exists_enclose_concat style 0 '{' '}' ts

/-- A list is read from its items in brackets. -/
theorem readsAs_list {style : Style} (hstyle : style.IsSpaced) (level : Nat) {ts : List Text}
    {vs : List Value} (h : List.Forall₂ ReadsAs ts vs) :
    ReadsAs (enclose style level '[' ']' ts) (.list vs) := by
  obtain ⟨u, hu⟩ := exists_enclose_concat style level '[' ']' ts
  refine ⟨⟨'[', u ++ [']'], hu, by decide⟩, fun {fuel rest} hfuel _ => ?_⟩
  obtain ⟨fuel, rfl⟩ := exists_fuel hfuel
  by_cases hne : ts = []
  · subst hne
    cases h
    rfl
  · have hbracket : ∀ {t v}, ReadsAs t v → t.head? ≠ some ']' := by
      intro t v ht
      obtain ⟨c, u, rfl, hc⟩ := ht.start
      exact fun h => (of_mem_starts hc).2.1 (Option.some.inj h)
    obtain ⟨t, c, u, henclose, hskip, hc, hitems⟩ :=
      exists_row readsRows_items hbracket hstyle level h hne rest hfuel
    rw [henclose, value_list hc hskip, hitems]
    rfl

/-- A map is read from its entries in braces. -/
theorem readsAs_map {style : Style} (hstyle : style.IsSpaced) (level : Nat) {gap : Text}
    (hgap : IsBlank gap) {ts : List Text} {es : Entries} (h : List.Forall₂ (ReadsAsEntry gap) ts es) :
    ReadsAs (enclose style level '{' '}' ts) (.map (Entries.ofList es)) := by
  obtain ⟨u, hu⟩ := exists_enclose_concat style level '{' '}' ts
  refine ⟨⟨'{', u ++ ['}'], hu, by decide⟩, fun {fuel rest} hfuel _ => ?_⟩
  obtain ⟨fuel, rfl⟩ := exists_fuel hfuel
  by_cases hne : ts = []
  · subst hne
    cases h
    rfl
  · have hbracket : ∀ {t e}, ReadsAsEntry gap t e → t.head? ≠ some '}' := by
      rintro t e ⟨_, key, u, rfl, -, ⟨q, rfl, -⟩, -⟩ h
      cases h
    obtain ⟨t, c, u, henclose, hskip, hc, hmembers⟩ :=
      exists_row (readsRows_members hgap) hbracket hstyle level h hne rest hfuel
    rw [henclose, value_map hc hskip, hmembers]
    rfl

/-- A change of written texts that leaves all but the texts in quotes as it is, and these such that they are read as
    before. -/
structure Recoding (style : Style) (f : Text → Text) : Prop where
  token : ∀ {t}, (∀ c ∈ t, c.isAlphanum = true ∨ c = '-') → f t = t
  text : ∀ t, ReadsAsText (f (writeText t)) t
  entry : ∀ t u, f (writeText t ++ style.keyGap ++ u) = f (writeText t) ++ style.keyGap ++ f u
  list : ∀ level ts, f (enclose style level '[' ']' ts) = enclose style level '[' ']' (ts.map f)
  map : ∀ level ts, f (enclose style level '{' '}' ts) = enclose style level '{' '}' (ts.map f)

theorem recoding_id (style : Style) : Recoding style id where
  token _ := rfl
  text t := ⟨t.flatMap writeChar ++ ['"'], rfl, fun rest => by
    rw [List.append_assoc]
    exact string_writeText t rest⟩
  entry _ _ := rfl
  list _ _ := by rw [List.map_id, id]
  map _ _ := by rw [List.map_id, id]

/-- The numeral of a whole number has digits, and maybe a sign. -/
theorem isAlphanum_of_mem_ofInt {n : Int} {c : Char} (h : c ∈ Text.ofInt n) : c.isAlphanum = true ∨ c = '-' := by
  rcases Numeral.eq_or_isDigit_of_mem_ofInt h with rfl | hc
  · exact .inr rfl
  · exact .inl (by rw [Char.isAlphanum, hc, Bool.or_true])

/-- What is written for a value is read as it, whatever follows, also when texts are written in another way. -/
theorem readsAs_recoded {style : Style} (hstyle : style.IsSpaced) {f : Text → Text} (hf : Recoding style f) {v : Value}
    (hv : v.IsExact) (level : Nat) : ∃ t, writeAt style level v = .ok t ∧ ReadsAs (f t) v := by
  induction hv generalizing level with
  | null =>
    refine ⟨"null", rfl, ?_⟩
    rw [hf.token (Text.forall_mem_of_all (by decide))]
    exact readsAs_atom ⟨'n', _, rfl, by decide⟩ fun _ _ => rfl
  | bool b =>
    cases b with
    | true =>
      refine ⟨"true", rfl, ?_⟩
      rw [hf.token (Text.forall_mem_of_all (by decide))]
      exact readsAs_atom ⟨'t', _, rfl, by decide⟩ fun _ _ => rfl
    | false =>
      refine ⟨"false", rfl, ?_⟩
      rw [hf.token (Text.forall_mem_of_all (by decide))]
      exact readsAs_atom ⟨'f', _, rfl, by decide⟩ fun _ _ => rfl
  | @int n hn =>
    refine ⟨Text.ofInt n, ?_, ?_⟩
    · show (Numeral.ofInt n).mapError WriteError.numeral = _
      rw [Numeral.ofInt_of_lt hn]
      rfl
    · rw [hf.token fun c hc => isAlphanum_of_mem_ofInt hc]
      exact readsAs_ofInt hn
  | text t => exact ⟨writeText t, rfl, readsAs_text (hf.text t)⟩
  | @list vs _ ih =>
    obtain ⟨ts, hts, hreads⟩ := exists_mapM_forall₂ fun v hv => ih v hv (level + 1)
    refine ⟨enclose style level '[' ']' ts, ?_, ?_⟩
    · rw [writeAt, writeItems_eq_mapM, hts]
      rfl
    · rw [hf.list]
      exact readsAs_list hstyle level (List.forall₂_map_left_iff.2 hreads)
  | @map es hkeys hdistinct _ ih =>
    obtain ⟨gap, hgap, hkey⟩ := hstyle.key
    have hentry : ∀ e ∈ es, ∃ t, writeEntry style (level + 1) e = .ok t ∧ ReadsAsEntry gap (f t) e := by
      intro e he
      obtain ⟨key, hname⟩ := hkeys e he
      obtain ⟨u, hu, hreads⟩ := ih e he (level + 1)
      refine ⟨writeText key ++ style.keyGap ++ u, ?_, f (writeText key), key, f u, ?_, hname, hf.text key, hreads⟩
      · rw [writeEntry, hname, hu]
        rfl
      · rw [hf.entry, hkey, List.append_assoc]
    obtain ⟨ts, hts, hreads⟩ := exists_mapM_forall₂ hentry
    refine ⟨enclose style level '{' '}' ts, ?_, ?_⟩
    · rw [writeAt, writeEntries_eq_mapM, hts]
      rfl
    · have hmap := readsAs_map hstyle level hgap (List.forall₂_map_left_iff.2 hreads)
      rwa [Entries.ofList_eq_self hkeys hdistinct, ← hf.map] at hmap

/-- A text that is read as a value, whatever follows it, is read as it if nothing does. -/
theorem ReadsAs.read_eq {t : Text} {v : Value} (h : ReadsAs t v) : read t = .ok v := by
  have hfuel : t.length ≤ 2 * t.length + 2 := by omega
  have hvalue := h.value_eq hfuel endsNumber_nil
  obtain ⟨c, u, rfl, hc⟩ := h.start
  obtain ⟨hgap, -, hmark⟩ := of_mem_starts hc
  have hskip : skip (c :: u) = c :: u := List.dropWhile_cons_of_neg (by simp [hgap])
  have hmark : ((c :: u).head? == some (Char.ofNat 0xFEFF)) = false := by
    rw [List.head?_cons, beq_eq_false_iff_ne]
    exact fun h => hmark (Option.some.inj h)
  rw [List.append_nil] at hvalue
  simp only [read, hmark, hskip, hvalue, Bool.false_eq_true, if_false]
  rfl

/-- What is written for a value is read as it. -/
theorem read_write {style : Style} (hstyle : style.IsSpaced) {v : Value} (hv : v.IsExact) :
    ∃ t, write style v = .ok t ∧ read t = .ok v := by
  obtain ⟨t, hwrite, hreads⟩ := readsAs_recoded hstyle (recoding_id style) hv 0
  exact ⟨t, hwrite, hreads.read_eq⟩

end Json

end PageQuery
