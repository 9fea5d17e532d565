import PageQuery.Proofs.Bytes.Utf8
import PageQuery.Proofs.Text
import PageQuery.Url.Percent

namespace PageQuery.Url

/-!
# Query strings are read back

* `WritesByte`: how a byte may be written in a query string;
* `decode_encode`: a text is read back from how it is written;
* `readPairs_writePairs`: the names and values of a query string that has been written.
-/

/-- A character that parts of a query string are written with. -/
def IsQueryChar (c : Char) : Prop := c.isAlphanum = true ∨ c ∈ ['_', '.', '-', '~', '+', '%']

instance : DecidablePred IsQueryChar := fun _ => inferInstanceAs (Decidable (_ ∨ _))

theorem IsQueryChar.toNat_bounds {c : Char} (h : IsQueryChar c) : 32 < c.toNat ∧ c.toNat < 128 := by
  rcases h with hword | hsign
  · have hcode := Text.toNat_of_isAlphanum hword
    omega
  · have hall : ∀ c ∈ ['_', '.', '-', '~', '+', '%'], 32 < c.toNat ∧ c.toNat < 128 :=
      Text.forall_mem_of_all (by decide)
    exact hall c hsign

/-! ### Bytes -/

/-- A text that is read as one byte: a character that stands for it, where a plus sign is a space, or its number. -/
def WritesByte (b : UInt8) : Text → Prop
  | [c] => IsQueryChar c ∧ c ≠ '%' ∧ UInt8.ofNat (if c == '+' then ' ' else c).toNat = b
  | [p, h, l] => p = '%' ∧ IsQueryChar h ∧ IsQueryChar l ∧ h ≠ '+' ∧ l ≠ '+' ∧ byte? h l = some b
  | _ => False

instance (b : UInt8) : DecidablePred (WritesByte b)
  | [] => inferInstanceAs (Decidable False)
  | [_] => inferInstanceAs (Decidable (_ ∧ _))
  | [_, _] => inferInstanceAs (Decidable False)
  | [_, _, _] => inferInstanceAs (Decidable (_ ∧ _))
  | _ :: _ :: _ :: _ :: _ => inferInstanceAs (Decidable False)

theorem writesByte_encodeByte (b : UInt8) : WritesByte b (encodeByte b) := by
  refine Utf8.forall_byte ?_ b
  decide +kernel

namespace WritesByte

variable {b : UInt8} {t : Text}

/-- There are two forms. -/
theorem cases (h : WritesByte b t) :
    (∃ c, t = [c] ∧ IsQueryChar c ∧ c ≠ '%' ∧ UInt8.ofNat (if c == '+' then ' ' else c).toNat = b) ∨
      ∃ x y, t = ['%', x, y] ∧ IsQueryChar x ∧ IsQueryChar y ∧ x ≠ '+' ∧ y ≠ '+' ∧ byte? x y = some b := by
  match t, h with
  | [c], h => exact .inl ⟨c, rfl, h⟩
  | [_, x, y], ⟨rfl, h⟩ => exact .inr ⟨x, y, rfl, h⟩

theorem forall_mem (h : WritesByte b t) : ∀ c ∈ t, IsQueryChar c := by
  rcases h.cases with ⟨c, rfl, hc, -⟩ | ⟨x, y, rfl, hx, hy, -⟩
  · exact List.forall_mem_singleton.2 hc
  · exact List.forall_mem_cons.2 ⟨by decide, List.forall_mem_cons.2 ⟨hx, List.forall_mem_singleton.2 hy⟩⟩

/-- The byte is read, whatever follows. -/
theorem unpercent_append (h : WritesByte b t) (rest : Text) :
    unpercent ((t ++ rest).map fun c => if c == '+' then ' ' else c) =
      b :: unpercent (rest.map fun c => if c == '+' then ' ' else c) := by
  rcases h.cases with ⟨c, rfl, -, hc, hb⟩ | ⟨x, y, rfl, -, -, hx, hy, hbyte⟩
  · have hplain : (if c == '+' then ' ' else c) ≠ '%' := by
      split
      · decide
      · exact hc
    rw [List.singleton_append, List.map_cons, unpercent.eq_2, hb]
    exact fun a d rest' heq _ => hplain heq
  · simp [unpercent, hx, hy, hbyte]

end WritesByte

/-! ### Texts -/

/-- The text is read as a row of bytes, each on its own. -/
theorem unpercent_encodeBytes (bs : Bytes) :
    unpercent ((bs.flatMap encodeByte).map fun c => if c == '+' then ' ' else c) = bs := by
  induction bs with
  | nil => rfl
  | cons b bs ih => rw [List.flatMap_cons, (writesByte_encodeByte b).unpercent_append, ih]

theorem isQueryChar_of_mem_encode {t : Text} {c : Char} (h : c ∈ encode t) : IsQueryChar c := by
  obtain ⟨b, -, hc⟩ := List.mem_flatMap.1 h
  exact (writesByte_encodeByte b).forall_mem c hc

/-- In ASCII all bytes are decoded together. -/
theorem decodeFrom_ascii {t : Text} (h : ∀ c ∈ t, c.toNat < 128) (pending : Text) :
    decodeFrom pending t = Utf8.decodeReplacing (unpercent (pending.reverse ++ t)) := by
  induction t generalizing pending with
  | nil => rw [decodeFrom, List.append_nil]
  | cons c t ih =>
    obtain ⟨hc, ht⟩ := List.forall_mem_cons.1 h
    rw [decodeFrom, if_pos hc, ih ht, List.reverse_cons, List.append_assoc, List.singleton_append]

/-- A text is read back from how it is written in a query string. -/
theorem decode_encode (t : Text) : decode (encode t) = t := by
  have hascii : ∀ c ∈ (encode t).map fun c => if c == '+' then ' ' else c, c.toNat < 128 := by
    refine List.forall_mem_map.2 fun c hc => ?_
    split
    · decide
    · exact (isQueryChar_of_mem_encode hc).toNat_bounds.2
  rw [decode, decodeFrom_ascii hascii, List.reverse_nil, List.nil_append, encode, unpercent_encodeBytes,
    Utf8.decodeReplacing, Utf8.units_encode, List.map_map]
  exact List.map_id t

/-! ### Names and values -/

theorem notMem_encode {c : Char} (h : ¬IsQueryChar c) (t : Text) : c ∉ encode t :=
  fun hc => h (isQueryChar_of_mem_encode hc)

/-- The characters of a query string that has been written. -/
theorem mem_writePairs {query : Ordered (List Text)} {c : Char} (h : c ∈ writePairs query) :
    IsQueryChar c ∨ c = '=' ∨ c = '&' := by
  rcases Text.mem_of_mem_join h with hsep | ⟨t, ht, hc⟩
  · exact .inr (.inr (List.mem_singleton.1 hsep))
  · obtain ⟨e, -, ht⟩ := List.mem_flatMap.1 ht
    obtain ⟨v, -, rfl⟩ := List.mem_map.1 ht
    rw [writePair, List.mem_append, List.mem_cons] at hc
    rcases hc with hc | rfl | hc
    · exact .inl (isQueryChar_of_mem_encode hc)
    · exact .inr (.inl rfl)
    · exact .inl (isQueryChar_of_mem_encode hc)

/-- Names and values are read back, in order. -/
theorem readPairs_join (ps : List (Text × Text)) :
    readPairs (Text.join ['&'] (ps.map fun p => writePair p.1 p.2)) = ps := by
  have hpair : ∀ p : Text × Text, '&' ∉ writePair p.1 p.2 := by
    intro p hp
    rw [writePair, List.mem_append, List.mem_cons] at hp
    rcases hp with hp | hp | hp
    · exact notMem_encode (by decide) _ hp
    · cases hp
    · exact notMem_encode (by decide) _ hp
  have hsplit : ps ≠ [] →
      Text.split '&' (Text.join ['&'] (ps.map fun p => writePair p.1 p.2)) = ps.map fun p => writePair p.1 p.2 := by
    intro hne
    have hne' : (ps.map fun p => writePair p.1 p.2) ≠ [] := by simpa using hne
    have hread : Text.split '&' (Text.join ['&'] (ps.map fun p => writePair p.1 p.2)) =
        (ps.map fun p => writePair p.1 p.2).map id := by
      refine Text.split_join hne' ?_ ?_
      · exact List.forall_mem_map.2 fun p _ => Text.split_of_notMem (hpair p)
      · exact List.forall_mem_map.2 fun p _ => Text.split_append_cons (hpair p)
    rwa [List.map_id] at hread
  by_cases hne : ps = []
  · subst hne
    rfl
  have hfull : ∀ p ∈ ps.map fun p => writePair p.1 p.2, (!p.isEmpty) = true :=
    List.forall_mem_map.2 fun p _ => by simp [writePair]
  rw [readPairs, hsplit hne, List.filter_eq_self.2 hfull, List.map_map]
  refine (List.map_congr_left fun p _ => ?_).trans (List.map_id ps)
  simp only [Function.comp_apply, writePair, Text.cut_append (notMem_encode (by decide : ¬IsQueryChar '=') p.1),
    Option.getD_some, decode_encode, id_eq]

/-- A query string that has been written has each name once for each of its values. -/
theorem readPairs_writePairs (query : Ordered (List Text)) :
    readPairs (writePairs query) = query.flatMap fun e => e.2.map fun v => (e.1, v) := by
  have hjoin : writePairs query =
      Text.join ['&'] ((query.flatMap fun e => e.2.map fun v => (e.1, v)).map fun p => writePair p.1 p.2) := by
    rw [writePairs, List.map_flatMap]
    simp only [List.map_map]
    rfl
  rw [hjoin, readPairs_join]

end PageQuery.Url
