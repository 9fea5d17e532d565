import PageQuery.Proofs.Json.Ascii
import PageQuery.Proofs.Value.Data

namespace PageQuery

/-!
# Closing brackets in front of semicolons

In a JSON text no semicolon follows a closing bracket, unless both stand in the same text in quotes, with nothing but
spaces between them.

* `Text.Closes`: a closing bracket stands in front of a semicolon;
* `Text.closes_append`, `Text.closes_append_of_notMem`: in a text that is put together;
* `Value.HasText`: the texts in a value, keys included, at any depth;
* `Json.closes_ascii_flatMap`: in a text in quotes;
* `Json.closes_dump_iff`: in what is written for a value.
-/

namespace Text

/-- Somewhere in a text a bracket stands in front of a semicolon, with nothing between but characters that `gap`
    accepts. -/
def Closes (gap : Char → Bool) (bracket : Char) (t : Text) : Prop :=
  ∃ u, bracket :: u <:+ t ∧ (u.dropWhile gap).head? = some ';'

variable {gap : Char → Bool} {bracket : Char} {t u : Text}

theorem not_closes_nil : ¬Closes gap bracket [] := by
  rintro ⟨u, hu, -⟩
  cases List.eq_nil_of_suffix_nil hu

theorem closes_cons {c : Char} : Closes gap bracket (c :: t) ↔
    c = bracket ∧ (t.dropWhile gap).head? = some ';' ∨ Closes gap bracket t := by
  constructor
  · rintro ⟨u, hu, hhead⟩
    rcases List.suffix_cons_iff.1 hu with heq | hu
    · cases heq
      exact .inl ⟨rfl, hhead⟩
    · exact .inr ⟨u, hu, hhead⟩
  · rintro (⟨rfl, hhead⟩ | ⟨u, hu, hhead⟩)
    · exact ⟨t, List.suffix_rfl, hhead⟩
    · exact ⟨u, hu.trans (List.suffix_cons c t), hhead⟩

/-- Where there is no semicolon, none follows. -/
theorem not_closes (h : ';' ∉ t) : ¬Closes gap bracket t := by
  rintro ⟨u, hu, hhead⟩
  exact h (hu.mem (List.mem_cons_of_mem _ ((List.dropWhile_suffix gap).mem (List.mem_of_head? hhead))))

/-- Where there is no bracket, none is followed. -/
theorem not_closes_of_notMem (h : bracket ∉ t) : ¬Closes gap bracket t := by
  rintro ⟨u, hu, -⟩
  exact h (hu.mem List.mem_cons_self)

/-- What has no bracket in it does not count. -/
theorem closes_append_of_notMem (h : bracket ∉ t) : Closes gap bracket (t ++ u) ↔ Closes gap bracket u := by
  induction t with
  | nil => rfl
  | cons c t ih =>
    obtain ⟨hc, ht⟩ := not_or.1 (mt List.mem_cons.2 h)
    rw [List.cons_append, closes_cons, ih ht, or_iff_right fun h => hc h.1.symm]

theorem head?_dropWhile_append (h : (u.dropWhile gap).head? ≠ some ';') :
    ((t ++ u).dropWhile gap).head? = some ';' ↔ (t.dropWhile gap).head? = some ';' := by
  rw [List.dropWhile_append]
  cases t.dropWhile gap with
  | nil => simpa using h
  | cons c v => rfl

/-- If the second part does not start with a semicolon, the parts count by themselves. -/
theorem closes_append (h : (u.dropWhile gap).head? ≠ some ';') :
    Closes gap bracket (t ++ u) ↔ Closes gap bracket t ∨ Closes gap bracket u := by
  induction t with
  | nil => exact (or_iff_right not_closes_nil).symm
  | cons c t ih => rw [List.cons_append, closes_cons, closes_cons, ih, head?_dropWhile_append h, or_assoc]

end Text

/-- A text stands in a value, as a key or by itself, at any depth. -/
inductive Value.HasText (t : Text) : Value → Prop where
  | text : HasText t (.text t)
  | item {vs : List Value} {v : Value} (hv : v ∈ vs) (h : HasText t v) : HasText t (.list vs)
  | key {es : Entries} {v : Value} (he : (.text t, v) ∈ es) : HasText t (.map es)
  | entry {es : Entries} {e : Scalar × Value} (he : e ∈ es) (h : HasText t e.2) : HasText t (.map es)

namespace Json

/-! ### Texts in quotes -/

theorem isAlphanum_digitChar {n : Nat} (h : n < 16) : n.digitChar.isAlphanum = true := by
  have hall : ∀ n < 16, n.digitChar.isAlphanum = true := by decide
  exact hall n h

theorem isAlphanum_of_mem_hex {n : Nat} (h : n < 65536) {c : Char} (hc : c ∈ Text.hex 4 n) : c.isAlphanum = true := by
  have htop : n / 16 / 16 / 16 < 16 := by omega
  have hmod : ∀ m, m % 16 < 16 := fun m => Nat.mod_lt m (by decide)
  rw [hex_four h] at hc
  simp only [List.mem_cons, List.not_mem_nil, or_false] at hc
  rcases hc with rfl | rfl | rfl | rfl
  · exact isAlphanum_digitChar htop
  all_goals exact isAlphanum_digitChar (hmod _)

/-- A character of an escape behind its backslash. -/
def IsEscaped (c : Char) : Prop := c.isAlphanum = true ∨ c = '\\' ∨ c = '"'

instance : DecidablePred IsEscaped := fun _ => inferInstanceAs (Decidable (_ ∨ _))

/-- The characters that matter for closing brackets: they are written as themselves. -/
def marks : Text := [']', '}', ' ', ';']

/-- The forms in which a character is written: itself, or an escape. -/
theorem ascii_writeChar_cases (c : Char) :
    (IsPrintable c ∧ ascii (writeChar c) = [c]) ∨
      (c ∉ marks ∧ ∃ u, ascii (writeChar c) = '\\' :: u ∧ ∀ x ∈ u, IsEscaped x) := by
  by_cases hc : c.toNat < 127
  · have hforms : (IsPrintable c ∧ writeChar c = [c]) ∨ (c ∉ marks ∧ writeChar c = '\\' :: (writeChar c).tail ∧
        ((writeChar c).tail.all fun x => decide (IsEscaped x)) = true) := Text.of_toNat_lt hc (by decide +kernel)
    rw [ascii_writeChar hc]
    exact hforms.imp_right fun ⟨hmarks, hform, hescape⟩ => ⟨hmarks, _, hform, Text.forall_mem_of_all hescape⟩
  · refine .inr ⟨fun hmark => ?_, ?_⟩
    · have hmarks : ∀ c ∈ marks, c.toNat < 127 := Text.forall_mem_of_all (by decide)
      exact hc (hmarks c hmark)
    · have hescape : ∀ n ∈ unitsOf c, ∀ x ∈ hexEscape n, IsEscaped x := by
        intro n hn x hx
        rcases List.mem_append.1 hx with hx | hx
        · have hlead : ∀ x ∈ ['\\', 'u'], IsEscaped x := Text.forall_mem_of_all (by decide)
          exact hlead x hx
        · exact .inl (isAlphanum_of_mem_hex (lt_of_mem_unitsOf hn) hx)
      obtain ⟨n, ns, hunits⟩ := List.exists_cons_of_ne_nil (unitsOf_ne_nil c)
      rw [ascii_writeChar_of_le (Nat.le_of_not_lt hc)]
      rw [hunits] at hescape ⊢
      refine ⟨'u' :: Text.hex 4 n ++ ns.flatMap hexEscape, rfl, fun x hx => ?_⟩
      obtain ⟨n', hn', hx⟩ := List.mem_flatMap.1 (show x ∈ (n :: ns).flatMap hexEscape from List.mem_cons_of_mem _ hx)
      exact hescape n' hn' x hx

/-- The only white space in printable ASCII is the space. -/
theorem eq_space_of_isPrintable {c : Char} (hc : IsPrintable c) (hspace : Text.isSpace c = true) : c = ' ' := by
  have hchar : IsPrintable c → Text.isSpace c = true → c = ' ' := Text.of_toNat_lt hc.2 (by decide +kernel)
  exact hchar hc hspace

variable {bracket : Char}

theorem head?_ascii_flatMap (t : Text) : ((ascii (t.flatMap writeChar)).dropWhile Text.isSpace).head? = some ';' ↔
    (t.dropWhile (· == ' ')).head? = some ';' := by
  induction t with
  | nil => rfl
  | cons c t ih =>
    rw [List.flatMap_cons, ascii_append]
    rcases ascii_writeChar_cases c with ⟨hprintable, hwrite⟩ | ⟨hmarks, u, hwrite, -⟩
    · rw [hwrite]
      by_cases hspace : c = ' '
      · subst hspace
        exact ih
      · have hsolid : Text.isSpace c = false := by
          simpa using mt (eq_space_of_isPrintable hprintable) hspace
        rw [List.singleton_append, List.dropWhile_cons_of_neg (by simp [hsolid]),
          List.dropWhile_cons_of_neg (by simpa using hspace)]
        rfl
    · have hne : ∀ d ∈ marks, c ≠ d := by
        rintro d hd rfl
        exact hmarks hd
      rw [hwrite, List.cons_append, List.dropWhile_cons_of_neg (by decide),
        List.dropWhile_cons_of_neg (by simpa using hne ' ' (by decide))]
      exact iff_of_false (by simp) (by simpa using hne ';' (by decide))

/-- A closing bracket and a semicolon in a text in quotes stand in the text itself. -/
theorem closes_ascii_flatMap (hbracket : bracket = ']' ∨ bracket = '}') (t : Text) :
    Text.Closes Text.isSpace bracket (ascii (t.flatMap writeChar)) ↔ Text.Closes (· == ' ') bracket t := by
  induction t with
  | nil => exact iff_of_false Text.not_closes_nil Text.not_closes_nil
  | cons c t ih =>
    rw [List.flatMap_cons, ascii_append, Text.closes_cons]
    rcases ascii_writeChar_cases c with ⟨-, hwrite⟩ | ⟨hmarks, u, hwrite, hescaped⟩
    · rw [hwrite, List.singleton_append, Text.closes_cons, ih, head?_ascii_flatMap]
    · have hnot : ¬IsEscaped bracket ∧ bracket ∈ marks ∧ bracket ≠ '\\' := by
        rcases hbracket with rfl | rfl <;> decide
      have hnone : bracket ∉ '\\' :: u := fun h =>
        (List.mem_cons.1 h).elim hnot.2.2 fun h => hnot.1 (hescaped bracket h)
      rw [hwrite, Text.closes_append_of_notMem hnone, ih, or_iff_right]
      rintro ⟨rfl, -⟩
      exact hmarks hnot.2.1

/-! ### Words and numbers -/

/-- A character of a word or a number. -/
def IsTokenChar (c : Char) : Prop := c.isAlphanum = true ∨ c = '-' ∨ c = '+' ∨ c = '.'

instance : DecidablePred IsTokenChar := fun _ => inferInstanceAs (Decidable (_ ∨ _))

/-- A word or a number: a text of such characters that is not empty. -/
structure IsToken (t : Text) : Prop where
  nonempty : t ≠ []
  chars : ∀ c ∈ t, IsTokenChar c

theorem isToken_of_all {t : Text} (hne : t ≠ []) (h : (t.all fun c => decide (IsTokenChar c)) = true) : IsToken t :=
  ⟨hne, Text.forall_mem_of_all h⟩

theorem IsTokenChar.isPrintable {c : Char} (h : IsTokenChar c) : IsPrintable c := by
  rcases h with h | rfl | rfl | rfl
  · exact isPrintable_of_isAlphanum h
  all_goals decide

theorem IsToken.ascii_eq {t : Text} (h : IsToken t) : ascii t = t :=
  ascii_of_forall fun c hc => (h.chars c hc).isPrintable

theorem IsToken.notMem {t : Text} (h : IsToken t) : ';' ∉ t := fun hc => absurd (h.chars ';' hc) (by decide)

theorem isTokenChar_of_mem_ofNat {n : Nat} {c : Char} (h : c ∈ Text.ofNat n) : IsTokenChar c :=
  .inl (by rw [Char.isAlphanum, Numeral.isDigit_of_mem_ofNat h, Bool.or_true])

theorem isTokenChar_of_mem_replicate {n : Nat} {c : Char} (h : c ∈ List.replicate n '0') : IsTokenChar c := by
  rw [(List.mem_replicate.1 h).2]
  decide

/-- The size of a double is written as a number. -/
theorem isToken_sizeText (d : Decimal) : IsToken d.sizeText := by
  have hdigits : ∀ c ∈ d.leading.1, IsTokenChar c := fun c hc =>
    isTokenChar_of_mem_ofNat ((Text.dropEndWhile_prefixed _ _).mem hc)
  unfold Decimal.sizeText
  split
  · exact isToken_of_all nofun (by decide)
  · dsimp only
    split
    · split
      · refine ⟨by simp, ?_⟩
        simp only [List.forall_mem_append]
        refine ⟨⟨⟨fun c hc => hdigits c (List.mem_of_mem_take hc), fun c => isTokenChar_of_mem_replicate⟩,
          Text.forall_mem_of_all (by decide)⟩, ?_⟩
        split
        · exact Text.forall_mem_of_all (by decide)
        · exact fun c hc => hdigits c (List.mem_of_mem_drop hc)
      · refine ⟨by simp, ?_⟩
        simp only [List.forall_mem_append]
        exact ⟨⟨Text.forall_mem_of_all (by decide), fun c => isTokenChar_of_mem_replicate⟩, hdigits⟩
    · have hsign : IsToken (if d.leading.2 < 0 then ['e', '-'] else ['e', '+']) := by
        split <;> exact isToken_of_all nofun (by decide)
      refine ⟨List.append_ne_nil_of_left_ne_nil (List.append_ne_nil_of_right_ne_nil _ hsign.nonempty) _, ?_⟩
      simp only [List.forall_mem_append, Text.padLeft]
      refine ⟨⟨?_, hsign.chars⟩, fun c => isTokenChar_of_mem_replicate, fun c => isTokenChar_of_mem_ofNat⟩
      split
      · next first second rest hleading =>
        rw [hleading] at hdigits
        simp only [List.forall_mem_cons] at hdigits ⊢
        exact ⟨hdigits.1, by decide, hdigits.2⟩
      · exact hdigits

/-- A double is written as a word or a number. -/
theorem isToken_writeFloat (x : Float) : IsToken (writeFloat x) := by
  have hsigned : ∀ {b : Bool} {t : Text}, IsToken t → IsToken (if b then '-' :: t else t) := by
    rintro (_ | _) t ht
    · exact ht
    · exact ⟨nofun, List.forall_mem_cons.2 ⟨by decide, ht.chars⟩⟩
  unfold writeFloat
  split
  · exact isToken_of_all nofun (by decide)
  · split
    · split <;> exact isToken_of_all nofun (by decide)
    · unfold Decimal.text
      split
      · exact isToken_of_all nofun (by decide)
      · exact hsigned (isToken_sizeText _)

/-- A scalar is written as a text in quotes, or as a word or a number. -/
theorem writeScalar_cases {s : Scalar} (hs : s.IsJson) {w : Text} (h : writeScalar .line s = .ok w) :
    (∃ t, s = .text t ∧ w = writeText t) ∨ ((∀ t, s ≠ .text t) ∧ IsToken w) := by
  cases s with
  | null =>
    cases h
    exact .inr ⟨nofun, isToken_of_all nofun (by decide)⟩
  | bool b =>
    cases h
    refine .inr ⟨nofun, ?_⟩
    cases b <;> exact isToken_of_all nofun (by decide)
  | int n =>
    have hw := mapError_eq_ok_iff.1 h
    dsimp only [Numeral.ofInt] at hw
    split at hw
    · cases hw
    · cases hw
      exact .inr ⟨nofun, Numeral.ofInt_ne_nil n, fun c hc => (isAlphanum_of_mem_ofInt hc).imp_right .inl⟩
  | float x =>
    cases h
    exact .inr ⟨nofun, isToken_writeFloat x⟩
  | text t =>
    cases h
    exact .inl ⟨t, rfl, rfl⟩
  | stamp | bytes => exact hs.elim

/-! ### Values -/

/-- A text that starts neither with white space nor with a semicolon. -/
def Opens (t : Text) : Prop := ∃ c u, t = c :: u ∧ Text.isSpace c = false ∧ c ≠ ';'

theorem Opens.append {t : Text} (h : Opens t) (u : Text) : Opens (t ++ u) := by
  obtain ⟨c, v, rfl, hc⟩ := h
  exact ⟨c, v ++ u, rfl, hc⟩

theorem Opens.head?_ne {t : Text} (h : Opens t) : (t.dropWhile Text.isSpace).head? ≠ some ';' := by
  obtain ⟨c, u, rfl, hspace, hsemicolon⟩ := h
  rw [List.dropWhile_cons_of_neg (by simp [hspace])]
  simpa using hsemicolon

theorem opens_cons {c : Char} (hc : Text.isSpace c = false ∧ c ≠ ';') (u : Text) : Opens (c :: u) := ⟨c, u, rfl, hc⟩

theorem IsToken.opens {t : Text} (h : IsToken t) : Opens t := by
  obtain ⟨c, u, rfl⟩ := List.exists_cons_of_ne_nil h.nonempty
  have hc := h.chars c List.mem_cons_self
  have hsemicolon : c ≠ ';' := fun heq => h.notMem (heq ▸ List.mem_cons_self)
  refine opens_cons ⟨?_, hsemicolon⟩ u
  rw [← Bool.not_eq_true]
  intro hspace
  obtain rfl := eq_space_of_isPrintable hc.isPrintable hspace
  exact absurd hc (by decide)

theorem opens_ascii_writeText (t : Text) : Opens (ascii (writeText t)) := by
  rw [ascii_writeText]
  exact opens_cons (by decide) _

/-- A closing bracket and a semicolon in a text with its quotes. -/
theorem closes_ascii_writeText (hbracket : bracket = ']' ∨ bracket = '}') (t : Text) :
    Text.Closes Text.isSpace bracket (ascii (writeText t)) ↔ Text.Closes (· == ' ') bracket t := by
  have hquote : bracket ∉ ['"'] := by
    rcases hbracket with rfl | rfl <;> decide
  rw [ascii_writeText, ← List.singleton_append, Text.closes_append_of_notMem hquote,
    Text.closes_append (opens_cons (by decide) []).head?_ne, closes_ascii_flatMap hbracket,
    or_iff_left (Text.not_closes (by decide))]

theorem closes_join (hbracket : bracket = ']' ∨ bracket = '}') {ts : List Text} (hts : ∀ t ∈ ts, Opens t) :
    Text.Closes Text.isSpace bracket (Text.join [',', ' '] ts) ↔ ∃ t ∈ ts, Text.Closes Text.isSpace bracket t := by
  have hcomma : bracket ∉ [',', ' '] := by
    rcases hbracket with rfl | rfl <;> decide
  induction ts with
  | nil => exact iff_of_false Text.not_closes_nil nofun
  | cons t ts ih =>
    obtain ⟨-, hrest⟩ := List.forall_mem_cons.1 hts
    cases ts with
    | nil => simp [Text.join_singleton]
    | cons t' ts =>
      have hmore : _ ↔ _ := ih hrest
      rw [Text.join_cons_cons, Text.closes_append ((opens_cons (by decide) _).append _).head?_ne,
        Text.closes_append_of_notMem hcomma, hmore]
      simp

/-- Parts in brackets, in ASCII. -/
theorem closes_ascii_enclose (hbracket : bracket = ']' ∨ bracket = '}') (level : Nat) {opening closing : Char}
    (hpair : opening = '[' ∧ closing = ']' ∨ opening = '{' ∧ closing = '}') {ts : List Text}
    (hts : ∀ t ∈ ts, Opens (ascii t)) :
    Opens (ascii (enclose .line level opening closing ts)) ∧
      (Text.Closes Text.isSpace bracket (ascii (enclose .line level opening closing ts)) ↔
        ∃ t ∈ ts, Text.Closes Text.isSpace bracket (ascii t)) := by
  have hopening : IsPrintable opening ∧ ';' ∉ [opening] ∧ Text.isSpace opening = false ∧ opening ≠ ';' := by
    rcases hpair with ⟨rfl, -⟩ | ⟨rfl, -⟩ <;> decide
  have hclosing : IsPrintable closing ∧ ';' ∉ [closing] ∧ Text.isSpace closing = false ∧ closing ≠ ';' := by
    rcases hpair with ⟨-, rfl⟩ | ⟨-, rfl⟩ <;> decide
  rw [ascii_enclose level hopening.1 hclosing.1]
  have hmap : ∀ t ∈ ts.map ascii, Opens t := List.forall_mem_map.2 hts
  by_cases hne : ts = []
  · subst hne
    refine ⟨opens_cons hopening.2.2 [closing], iff_of_false (Text.not_closes ?_) nofun⟩
    show ';' ∉ [opening] ++ [closing]
    exact fun h => (List.mem_append.1 h).elim hopening.2.1 hclosing.2.1
  · obtain ⟨t, ts, rfl⟩ := List.exists_cons_of_ne_nil hne
    have hjoin : Opens (Text.join [',', ' '] ((t :: ts).map ascii)) := by
      obtain ⟨u, hu⟩ := Text.exists_join_cons [',', ' '] (ascii t) (ts.map ascii)
      rw [List.map_cons, hu]
      exact (hts t List.mem_cons_self).append u
    rw [enclose_line level opening closing (by simp)]
    refine ⟨((opens_cons hopening.2.2 []).append _).append _, ?_⟩
    rw [Text.closes_append (opens_cons hclosing.2.2 []).head?_ne, Text.closes_append hjoin.head?_ne,
      closes_join hbracket hmap, or_iff_left (Text.not_closes hclosing.2.1),
      or_iff_right (Text.not_closes hopening.2.1)]
    simp

/-- An entry of a map. -/
theorem closes_entry (hbracket : bracket = ']' ∨ bracket = '}') (key : Text) {u : Text} (hu : Opens (ascii u)) :
    Text.Closes Text.isSpace bracket (ascii (writeText key ++ Style.line.keyGap ++ u)) ↔
      Text.Closes (· == ' ') bracket key ∨ Text.Closes Text.isSpace bracket (ascii u) := by
  have hcolon : Opens Style.line.keyGap := opens_cons (c := ':') (by decide) [' ']
  have hnone : ¬Text.Closes Text.isSpace bracket Style.line.keyGap := Text.not_closes (by decide)
  rw [recoding_ascii.entry, Text.closes_append hu.head?_ne, Text.closes_append hcolon.head?_ne,
    closes_ascii_writeText hbracket, or_iff_left hnone]

/-- What is written for a value starts with no white space, and has a closing bracket in front of a semicolon only if
    a text in the value has. -/
theorem closes_writeAt (hbracket : bracket = ']' ∨ bracket = '}') {v : Value} (hv : v.IsJson) {level : Nat} {w : Text}
    (h : writeAt .line level v = .ok w) :
    Opens (ascii w) ∧ (Text.Closes Text.isSpace bracket (ascii w) ↔
      ∃ t, v.HasText t ∧ Text.Closes (· == ' ') bracket t) := by
  induction hv generalizing level w with
  | @scalar s hs =>
    rcases writeScalar_cases hs h with ⟨t, rfl, rfl⟩ | ⟨hne, htoken⟩
    · refine ⟨opens_ascii_writeText t, (closes_ascii_writeText hbracket t).trans ⟨fun ht => ⟨t, .text, ht⟩, ?_⟩⟩
      rintro ⟨t', ht', hcloses⟩
      cases ht'
      exact hcloses
    · rw [htoken.ascii_eq]
      refine ⟨htoken.opens, iff_of_false (Text.not_closes htoken.notMem) ?_⟩
      rintro ⟨t, ht, -⟩
      cases ht
      exact hne t rfl
  | @list vs _ ih =>
    rw [writeAt, writeItems_eq_mapM] at h
    obtain ⟨ts, hts, hw⟩ := bind_eq_ok_iff.1 h
    cases hw
    have hopens : ∀ t ∈ ts, Opens (ascii t) := by
      intro t ht
      obtain ⟨v, hv, hwrite⟩ := exists_of_mapM_eq_ok hts ht
      exact (ih v hv hwrite).1
    have hitems := exists_mem_iff_of_mapM_eq_ok hts fun v hv t hwrite => (ih v hv hwrite).2
    obtain ⟨hbrackets, hcloses⟩ :=
      closes_ascii_enclose hbracket level (.inl ⟨rfl, rfl⟩) hopens
    refine ⟨hbrackets, hcloses.trans (hitems.trans ⟨?_, ?_⟩)⟩
    · rintro ⟨v, hv, t, ht, hin⟩
      exact ⟨t, .item hv ht, hin⟩
    · rintro ⟨t, ht, hin⟩
      cases ht with
      | item hv ht => exact ⟨_, hv, t, ht, hin⟩
  | @map es hkeys _ ih =>
    rw [writeAt, writeEntries_eq_mapM] at h
    obtain ⟨ts, hts, hw⟩ := bind_eq_ok_iff.1 h
    cases hw
    have hentry : ∀ e ∈ es, ∀ t, writeEntry .line (level + 1) e = .ok t → Opens (ascii t) ∧
        (Text.Closes Text.isSpace bracket (ascii t) ↔ (∃ key, e.1 = .text key ∧ Text.Closes (· == ' ') bracket key) ∨
          ∃ t, e.2.HasText t ∧ Text.Closes (· == ' ') bracket t) := by
      intro e he t hwrite
      obtain ⟨key, hkey⟩ := hkeys e he
      rw [writeEntry, hkey] at hwrite
      obtain ⟨_, hname, hwrite⟩ := bind_eq_ok_iff.1 hwrite
      cases hname
      obtain ⟨u, hu, hentry⟩ := bind_eq_ok_iff.1 hwrite
      cases hentry
      obtain ⟨hopens, hcloses⟩ := ih e he hu
      rw [closes_entry hbracket key hopens, hcloses, hkey]
      refine ⟨?_, or_congr_left ⟨fun h => ⟨key, rfl, h⟩, ?_⟩⟩
      · rw [recoding_ascii.entry]
        exact ((opens_ascii_writeText key).append _).append _
      · rintro ⟨_, heq, h⟩
        cases heq
        exact h
    have hopens : ∀ t ∈ ts, Opens (ascii t) := by
      intro t ht
      obtain ⟨e, he, hwrite⟩ := exists_of_mapM_eq_ok hts ht
      exact (hentry e he t hwrite).1
    have hentries := exists_mem_iff_of_mapM_eq_ok hts fun e he t hwrite => (hentry e he t hwrite).2
    obtain ⟨hbrackets, hcloses⟩ := closes_ascii_enclose hbracket level (.inr ⟨rfl, rfl⟩) hopens
    refine ⟨hbrackets, hcloses.trans (hentries.trans ⟨?_, ?_⟩)⟩
    · rintro ⟨⟨k, v⟩, he, ⟨key, rfl, hin⟩ | ⟨t, ht, hin⟩⟩
      · exact ⟨key, .key he, hin⟩
      · exact ⟨t, .entry he ht, hin⟩
    · rintro ⟨t, ht, hin⟩
      cases ht with
      | key he => exact ⟨_, he, .inl ⟨t, rfl, hin⟩⟩
      | entry he ht => exact ⟨_, he, .inr ⟨t, ht, hin⟩⟩

/-- A closing bracket in front of a semicolon stands in a text of the value. -/
theorem closes_dump_iff (hbracket : bracket = ']' ∨ bracket = '}') {v : Value} (hv : v.IsJson) {w : Text}
    (h : dump v = .ok w) :
    Text.Closes Text.isSpace bracket w ↔ ∃ t, v.HasText t ∧ Text.Closes (· == ' ') bracket t := by
  obtain ⟨u, hu, rfl⟩ := map_eq_ok_iff.1 h
  exact (closes_writeAt hbracket hv hu).2

end Json

end PageQuery
