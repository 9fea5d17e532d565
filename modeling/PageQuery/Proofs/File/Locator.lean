import PageQuery.File.Locator
import PageQuery.Proofs.Bytes.Utf8
import PageQuery.Proofs.Text

namespace PageQuery

/-!
# Locators of files

A path becomes an address by writing bytes as numbers, and an address becomes a path by leaving out what stands in front
of it. Paths are made normal, and what stands in an address is not.

* `File.IsName`, `File.isName_of_mem_names`: the steps that a path has left when it is followed from the root;
* `File.IsPlain`, `File.join_names_eq_iff`: paths of names with single slashes between them are those that stay as they
  are;
* `File.normal_of_isAbsolute`: what a path in its normal form is put together from;
* `File.IsUrlChar`, `File.written_eq_iff`: the characters that stand for themselves in an address;
* `Folder.resolve_url`, `Folder.resolve_address`: the path of the address of a path, and of an absolute path behind the
  sign of an address;
* `Folder.resolve_iff`: when these are the path itself, and the path that the path on its own stands for.
-/

namespace File

/-! ### Steps -/

/-- A name of a file or folder. -/
structure IsName (s : Text) : Prop where
  ne_nil : s ≠ []
  ne_here : s ≠ ['.']
  ne_back : s ≠ "..".toList
  slash_notMem : '/' ∉ s

instance : DecidablePred IsName := fun s =>
  decidable_of_iff (s ≠ [] ∧ s ≠ ['.'] ∧ s ≠ "..".toList ∧ '/' ∉ s)
    ⟨fun ⟨h₁, h₂, h₃, h₄⟩ => ⟨h₁, h₂, h₃, h₄⟩, fun ⟨h₁, h₂, h₃, h₄⟩ => ⟨h₁, h₂, h₃, h₄⟩⟩

/-- The steps of a path are names and steps back. -/
theorem isName_or_back_of_mem_steps (t : Text) : ∀ s ∈ steps t, s = "..".toList ∨ IsName s := by
  intro s hs
  obtain ⟨hpiece, hkept⟩ := List.mem_filter.1 hs
  simp only [Bool.not_or, Bool.and_eq_true, Bool.not_eq_true', beq_eq_false_iff_ne] at hkept
  by_cases hback : s = "..".toList
  · exact .inl hback
  · refine .inr ⟨?_, hkept.2, hback, Text.notMem_of_mem_split t s hpiece⟩
    rintro rfl
    exact absurd hkept.1 (by decide)

/-- A name is taken. -/
theorem follow_name {s : Text} (hs : s ≠ "..".toList) (taken rest : List Text) :
    follow true taken (s :: rest) = follow true (s :: taken) rest := by
  show (if s != "..".toList then _ else _) = _
  rw [if_pos (by simpa using hs)]

/-- A step back undoes a name, and leads nowhere from the root. -/
theorem follow_back {taken : List Text} (htaken : ∀ s ∈ taken, IsName s) (rest : List Text) :
    follow true taken ("..".toList :: rest) = follow true taken.tail rest := by
  cases taken with
  | nil => rfl
  | cons last before =>
    have hlast : last ≠ "..".toList := (htaken last List.mem_cons_self).ne_back
    show (if last == "..".toList then _ else _) = _
    rw [if_neg (by simpa using hlast)]
    rfl

/-- From the root only names are left of the steps. -/
theorem isName_of_mem_follow {taken rest : List Text} (htaken : ∀ s ∈ taken, IsName s)
    (hrest : ∀ s ∈ rest, s = "..".toList ∨ IsName s) : ∀ s ∈ follow true taken rest, IsName s := by
  induction rest generalizing taken with
  | nil =>
    intro s hs
    exact htaken s (List.mem_reverse.1 hs)
  | cons s rest ih =>
    obtain ⟨hs, hmore⟩ := List.forall_mem_cons.1 hrest
    rcases hs with rfl | hs
    · rw [follow_back htaken]
      exact ih (fun s hs => htaken s (List.mem_of_mem_tail hs)) hmore
    · rw [follow_name hs.ne_back]
      exact ih (List.forall_mem_cons.2 ⟨hs, htaken⟩) hmore

/-- Names are left as they are. -/
theorem follow_of_isName {taken rest : List Text} (h : ∀ s ∈ rest, IsName s) :
    follow true taken rest = taken.reverse ++ rest := by
  induction rest generalizing taken with
  | nil => exact (List.append_nil _).symm
  | cons s rest ih =>
    obtain ⟨hs, hrest⟩ := List.forall_mem_cons.1 h
    rw [follow_name hs.ne_back, ih hrest, List.reverse_cons, List.append_assoc, List.singleton_append]

/-- The names that the steps of a path lead through from the root. -/
def names (t : Text) : List Text := follow true [] (steps t)

theorem isName_of_mem_names (t : Text) : ∀ s ∈ names t, IsName s :=
  isName_of_mem_follow (List.forall_mem_nil _) (isName_or_back_of_mem_steps t)

/-- Names with single slashes between them, or nothing. -/
def IsPlain (t : Text) : Prop := t = [] ∨ ∀ s ∈ Text.split '/' t, IsName s

instance : DecidablePred IsPlain := fun _ => inferInstanceAs (Decidable (_ ∨ _))

theorem steps_of_isPlain {t : Text} (h : ∀ s ∈ Text.split '/' t, IsName s) : steps t = Text.split '/' t := by
  refine List.filter_eq_self.2 fun s hs => ?_
  have hname := h s hs
  simp [hname.ne_nil, hname.ne_here]

/-- Joined names are read as these names. -/
theorem split_join_names {ns : List Text} (hne : ns ≠ []) (h : ∀ s ∈ ns, IsName s) :
    Text.split '/' (Text.join ['/'] ns) = ns := by
  have hread : Text.split '/' (Text.join ['/'] ns) = ns.map id := by
    refine Text.split_join hne ?_ ?_
    · intro s hs
      exact Text.split_of_notMem (h s hs).slash_notMem
    · intro s hs
      exact Text.split_append_cons (h s hs).slash_notMem
  rwa [List.map_id] at hread

/-- A path that is followed from the root stays as it is if it is plain, and only then. -/
theorem join_names_eq_iff (t : Text) : Text.join ['/'] (names t) = t ↔ IsPlain t := by
  constructor
  · intro h
    by_cases hne : names t = []
    · left
      rw [← h, hne]
      rfl
    · right
      have hsplit := split_join_names hne (isName_of_mem_names t)
      rw [h] at hsplit
      rw [hsplit]
      exact isName_of_mem_names t
  · rintro (rfl | h)
    · rfl
    · rw [names, steps_of_isPlain h, follow_of_isName h]
      exact Text.join_split '/' t

/-- Joined names do not start with a slash. -/
theorem head?_join_names (t : Text) : (Text.join ['/'] (names t)).head? ≠ some '/' := by
  cases hns : names t with
  | nil => exact nofun
  | cons s ns =>
    have hs := isName_of_mem_names t s (hns ▸ List.mem_cons_self)
    obtain ⟨c, s, rfl⟩ := List.exists_cons_of_ne_nil hs.ne_nil
    obtain ⟨u, hu⟩ := Text.exists_join_cons ['/'] (c :: s) ns
    rw [hu]
    intro hc
    have hslash : c = '/' := Option.some.inj hc
    exact hs.slash_notMem (hslash ▸ List.mem_cons_self)

/-! ### Slashes in front -/

/-- The slashes that a text starts with. -/
def slashes (t : Text) : Nat := (t.takeWhile (· == '/')).length

/-- What follows the slashes that a text starts with. -/
def behindSlashes (t : Text) : Text := t.dropWhile (· == '/')

theorem head?_behindSlashes (t : Text) : (behindSlashes t).head? ≠ some '/' := by
  intro h
  have hhead := List.head?_dropWhile_not (· == '/') t
  rw [← behindSlashes, h] at hhead
  exact absurd hhead (by decide)

theorem behindSlashes_slash (t : Text) : behindSlashes ('/' :: t) = behindSlashes t := rfl

theorem behindSlashes_of_head? {t : Text} (h : t.head? ≠ some '/') : behindSlashes t = t := by
  cases t with
  | nil => rfl
  | cons c t => exact List.dropWhile_cons_of_neg (by simpa using h)

/-- Slashes in front are no steps. -/
theorem steps_behindSlashes (t : Text) : steps (behindSlashes t) = steps t := by
  induction t with
  | nil => rfl
  | cons c t ih =>
    by_cases hc : c = '/'
    · subst hc
      exact ih
    · rw [behindSlashes_of_head? (by simpa using hc)]

theorem names_behindSlashes (t : Text) : names (behindSlashes t) = names t := by
  rw [names, steps_behindSlashes]
  rfl

/-- Two slashes in front are kept, any other number of them is one. -/
theorem lead_eq {t : Text} (h : isAbsolute t = true) : lead t = if slashes t = 2 then ['/', '/'] else ['/'] := by
  obtain ⟨t, rfl⟩ : ∃ u, t = '/' :: u := List.head?_eq_some_iff.1 (by simpa [isAbsolute] using h)
  cases t with
  | nil => rfl
  | cons c t =>
    by_cases hc : c = '/'
    · subst hc
      cases t with
      | nil => rfl
      | cons d t =>
        by_cases hd : d = '/'
        · subst hd
          simp [lead, slashes]
        · simp [lead, slashes, hd]
    · simp [lead, slashes, hc]

/-- The normal form of an absolute path. -/
theorem normal_of_isAbsolute {t : Text} (h : isAbsolute t = true) :
    normal t = lead t ++ Text.join ['/'] (names t) := by
  have hlead : lead t ≠ [] := by
    rw [lead_eq h]
    split <;> exact List.cons_ne_nil _ _
  unfold normal
  rw [h]
  split
  · next hnil => exact absurd (List.append_eq_nil_iff.1 hnil).1 hlead
  · rfl

/-! ### Characters of an address -/

/-- A character that stands for itself in the address of a path. -/
def IsUrlChar (c : Char) : Prop := c.isAlphanum = true ∨ c ∈ ['/', '_', '.', '-', '~']

instance (c : Char) : Decidable (IsUrlChar c) := inferInstanceAs (Decidable (_ ∨ _))

/-- A character in the address of a path. -/
def writtenChar (c : Char) : Text := (Utf8.encodeChar c).flatMap urlByte

/-- A text in the address of a path. -/
def written (t : Text) : Text := (Utf8.encode t).flatMap urlByte

theorem written_cons (c : Char) (t : Text) : written (c :: t) = writtenChar c ++ written t := by
  rw [written, Utf8.encode, List.flatMap_cons, List.flatMap_append]
  rfl

/-- A character of an address has a code in ASCII. -/
theorem IsUrlChar.toNat_lt {c : Char} (h : IsUrlChar c) : c.toNat < 128 := by
  rcases h with hword | hsign
  · have hcode := Text.toNat_of_isAlphanum hword
    omega
  · have hall : ∀ c ∈ ['/', '_', '.', '-', '~'], c.toNat < 128 := Text.forall_mem_of_all (by decide)
    exact hall c hsign

/-- A byte beyond ASCII is written as its number. -/
theorem urlByte_of_le {b : UInt8} (h : 128 ≤ b.toNat) :
    (urlByte b).head? = some '%' ∧ (urlByte b).length = 3 := by
  revert h
  refine Utf8.forall_byte ?_ b
  decide +kernel

/-- A character in an address is itself, or a percent sign with digits behind it. -/
theorem writtenChar_cases (c : Char) :
    (IsUrlChar c ∧ writtenChar c = [c]) ∨
      (¬IsUrlChar c ∧ (writtenChar c).head? = some '%' ∧ 2 ≤ (writtenChar c).length) := by
  by_cases hascii : c.toNat < 128
  · refine Text.of_toNat_lt hascii ?_
    decide +kernel
  · obtain ⟨b, bs, hbytes, hb⟩ := Utf8.exists_encodeChar_eq_cons (Nat.not_lt.1 hascii)
    obtain ⟨hhead, hlength⟩ := urlByte_of_le hb
    refine .inr ⟨fun h => hascii h.toNat_lt, ?_, ?_⟩
    · rw [writtenChar, hbytes, List.flatMap_cons, List.head?_append, hhead]
      rfl
    · rw [writtenChar, hbytes, List.flatMap_cons, List.length_append, hlength]
      omega

/-- A text does not become shorter in an address. -/
theorem length_le_length_written (t : Text) : t.length ≤ (written t).length := by
  induction t with
  | nil => exact Nat.le_refl 0
  | cons c t ih =>
    rw [written_cons, List.length_append, List.length_cons]
    rcases writtenChar_cases c with ⟨-, hself⟩ | ⟨-, -, hlength⟩
    · rw [hself, List.length_singleton]
      omega
    · omega

/-- A text stays as it is in an address if its characters stand for themselves, and only then. -/
theorem written_eq_iff (t : Text) : written t = t ↔ ∀ c ∈ t, IsUrlChar c := by
  induction t with
  | nil => exact iff_of_true rfl (List.forall_mem_nil _)
  | cons c t ih =>
    rw [written_cons, List.forall_mem_cons, ← ih]
    rcases writtenChar_cases c with ⟨hc, hself⟩ | ⟨hc, -, hlength⟩
    · rw [hself, List.singleton_append, List.cons_inj_right]
      exact (and_iff_right hc).symm
    · -- the number of the character takes up more room than the character
      refine iff_of_false (fun heq => ?_) (fun hboth => hc hboth.1)
      have htotal := congrArg List.length heq
      have hrest := length_le_length_written t
      rw [List.length_append, List.length_cons] at htotal
      omega

/-- Only a slash is written as a slash. -/
theorem head?_written {t : Text} (h : t.head? ≠ some '/') : (written t).head? ≠ some '/' := by
  cases t with
  | nil => exact nofun
  | cons c t =>
    rw [written_cons, List.head?_append]
    rcases writtenChar_cases c with ⟨-, hself⟩ | ⟨-, hhead, -⟩
    · rw [hself]
      exact h
    · rw [hhead]
      exact fun hslash => absurd (Option.some.inj hslash) (by decide)

end File

/-! ### Addresses -/

namespace Folder

variable {f : Folder} {folder t : Text}

open File

/-- An absolute path behind the sign of an address is the text behind its slashes. -/
theorem resolve_address (h : isAbsolute t = true) :
    f.resolve folder ("file://".toList ++ t) = '/' :: behindSlashes t := by
  have hrest : Text.after? "file://" ("file://".toList ++ t) = some t := Text.after?_eq_some_iff.2 rfl
  rw [resolve, hrest]
  exact if_pos h

/-- An absolute path on its own is made normal. -/
theorem resolve_path (h : isAbsolute t = true) : f.resolve folder t = normal t := by
  obtain ⟨t, rfl⟩ : ∃ u, t = '/' :: u := List.head?_eq_some_iff.1 (by simpa [isAbsolute] using h)
  rfl

/-- The path of the address of an absolute path is the path from the root as it is written in an address. -/
theorem resolve_url (h : isAbsolute t = true) :
    f.resolve folder (f.url t) = '/' :: written (Text.join ['/'] (names t)) := by
  have hplace : place f.current t = names t := by
    rw [place, File.join, if_pos h, names]
  have hurl : f.url t = "file://".toList ++ '/' :: written (Text.join ['/'] (names t)) := by
    have hsign : "file:///".toList = "file://".toList ++ ['/'] := by decide
    show "file:///".toList ++ written (Text.join ['/'] (place f.current t)) = _
    rw [hsign, hplace, List.append_assoc, List.singleton_append]
  have habsolute : isAbsolute ('/' :: written (Text.join ['/'] (names t))) = true := rfl
  rw [hurl, resolve_address habsolute, behindSlashes_slash, behindSlashes_of_head? (head?_written (head?_join_names t))]

/-- A path in its normal form is the path of its own address if it does not start with two slashes and its characters
stand for themselves in an address, and only then. -/
theorem resolve_url_eq_iff (h : isAbsolute t = true) (hnormal : normal t = t) :
    f.resolve folder (f.url t) = t ↔ slashes t ≠ 2 ∧ ∀ c ∈ t, IsUrlChar c := by
  have hparts : lead t ++ Text.join ['/'] (names t) = t := (normal_of_isAbsolute h).symm.trans hnormal
  have hhead := head?_join_names t
  rw [resolve_url h]
  generalize Text.join ['/'] (names t) = u at hparts hhead ⊢
  by_cases htwo : slashes t = 2
  · rw [lead_eq h, if_pos htwo] at hparts
    refine iff_of_false (fun heq => ?_) (fun hboth => hboth.1 htwo)
    -- the second slash of the path would be the start of what is written
    have hsecond : written u = '/' :: u := (List.cons.inj (heq.trans hparts.symm)).2
    exact head?_written hhead (by rw [hsecond]; rfl)
  · rw [lead_eq h, if_neg htwo, List.singleton_append] at hparts
    subst hparts
    have hslash : IsUrlChar '/' := .inr List.mem_cons_self
    rw [and_iff_right htwo, List.forall_mem_cons, and_iff_right hslash, List.cons_inj_right]
    exact written_eq_iff u

/-- An absolute path stands for the same behind the sign of an address and on its own if it does not start with two
slashes and consists of names behind its slashes, and only then. -/
theorem resolve_address_eq_iff (h : isAbsolute t = true) :
    f.resolve folder ("file://".toList ++ t) = f.resolve folder t ↔ slashes t ≠ 2 ∧ IsPlain (behindSlashes t) := by
  rw [resolve_address h, resolve_path h, normal_of_isAbsolute h, lead_eq h]
  by_cases htwo : slashes t = 2
  · rw [if_pos htwo]
    refine iff_of_false (fun heq => ?_) (fun hboth => hboth.1 htwo)
    have hsecond : behindSlashes t = '/' :: Text.join ['/'] (names t) := (List.cons.inj heq).2
    exact head?_behindSlashes t (by rw [hsecond]; rfl)
  · rw [if_neg htwo, List.singleton_append, List.cons_inj_right, and_iff_right htwo, ← join_names_eq_iff,
      names_behindSlashes]
    exact eq_comm

/-- The address of a path in its normal form stands for the path exactly if nothing in the path has to be written as a
number, and a path in an address stands for what it stands for on its own exactly if nothing has to be left out to make
it normal. Two slashes in front, which a normal path keeps, become one in an address. -/
theorem resolve_iff (f : Folder) (folder : Text) :
    (∀ p, isAbsolute p = true → normal p = p →
      (f.resolve folder (f.url p) = p ↔ slashes p ≠ 2 ∧ ∀ c ∈ p, IsUrlChar c)) ∧
    (∀ a, isAbsolute a = true →
      (f.resolve folder ("file://".toList ++ a) = f.resolve folder a ↔ slashes a ≠ 2 ∧ IsPlain (behindSlashes a))) :=
  ⟨fun _ => resolve_url_eq_iff, fun _ => resolve_address_eq_iff⟩

/-- A path of letters and signs that stand for themselves is the path of its address, and three slashes in front of a
path of names are one in an address as well. -/
theorem resolve_iff_plain :
    let f : Folder := {}
    let p : Text := "/a-1/b.json"
    let a : Text := "///a b/c"
    (isAbsolute p = true ∧ normal p = p ∧ f.resolve [] (f.url p) = p) ∧
    isAbsolute a = true ∧ f.resolve [] ("file://".toList ++ a) = f.resolve [] a := by
  intro f p a
  have hnormal : normal p = p := by decide +kernel
  have hchars : ∀ c ∈ p, IsUrlChar c := Text.forall_mem_of_all (by decide +kernel)
  refine ⟨⟨rfl, hnormal, ?_⟩, rfl, ?_⟩
  · exact ((resolve_iff f []).1 p rfl hnormal).2 ⟨by decide +kernel, hchars⟩
  · exact ((resolve_iff f []).2 a rfl).2 (by decide +kernel)

/-- A space stays written as a number, and a step back is not taken. -/
theorem resolve_kept :
    let f : Folder := {}
    let p : Text := "/a b"
    let a : Text := "/a/../b"
    (isAbsolute p = true ∧ normal p = p ∧ f.resolve [] (f.url p) = "/a%20b".toList) ∧
    isAbsolute a = true ∧ f.resolve [] ("file://".toList ++ a) = a ∧ f.resolve [] a = "/b".toList := by
  decide +kernel

end Folder

end PageQuery
