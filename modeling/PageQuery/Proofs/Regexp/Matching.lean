import PageQuery.Regexp.Matching

namespace PageQuery.Regexp

/-!
# Where matches lie

A matcher goes on only from places that it reaches by reading the text from where it began, whatever it tries and takes
back on the way. So a match is a part of the text, and the matches in a text lie one behind the other.

* `Cursor.Reads`: a text stands between two places;
* `Matcher.Advances`: a matcher goes on from places behind the one where it began only;
* `Pattern.advances_run`: patterns do;
* `Pattern.Chained`: matches that lie one behind the other, and `Pattern.chained_all`: those in a text do;
* `Pattern.substitute_text`: a text in which every match is replaced by itself.
-/

namespace Cursor

/-- Between two places stands a text. -/
structure Reads (c : Cursor) (x : Text) (c' : Cursor) : Prop where
  after : c.after = x ++ c'.after
  before : c'.before = x.reverse ++ c.before
  position : c'.position = c.position + x.length

/-- From a place another one is reached by reading on. -/
def Leads (c c' : Cursor) : Prop := ∃ x, c.Reads x c'

variable {c d e : Cursor} {x y : Text}

theorem Reads.trans (hcd : c.Reads x d) (hde : d.Reads y e) : c.Reads (x ++ y) e where
  after := by rw [hcd.after, hde.after, List.append_assoc]
  before := by rw [hde.before, hcd.before, List.reverse_append, List.append_assoc]
  position := by rw [hde.position, hcd.position, List.length_append, Nat.add_assoc]

/-- The text that stands between two places. -/
theorem Reads.between (h : c.Reads x d) : c.between d = x := by
  rw [Cursor.between, h.position, h.after, Nat.add_sub_cancel_left, List.take_left]

theorem Leads.refl (c : Cursor) : c.Leads c := ⟨[], rfl, rfl, rfl⟩

theorem Leads.trans : c.Leads d → d.Leads e → c.Leads e
  | ⟨x, hx⟩, ⟨y, hy⟩ => ⟨x ++ y, hx.trans hy⟩

theorem leads_next (c : Cursor) : c.Leads c.next := by
  obtain ⟨n, b, a⟩ := c
  cases a with
  | nil => exact .refl _
  | cons x a => exact ⟨[x], rfl, rfl, rfl⟩

/-- Two places of which one is reached from the other, with the text between them. -/
theorem Leads.between_append (h : c.Leads d) : c.between d ++ d.after = c.after := by
  obtain ⟨x, hx⟩ := h
  rw [hx.between, hx.after]

/-- The place after a text is reached by reading on. -/
theorem leads_of_skip? {f : Folding} {t : Text} (h : c.skip? f t = some d) : c.Leads d := by
  induction t generalizing c with
  | nil =>
    cases h
    exact .refl _
  | cons x t ih =>
    rw [skip?] at h
    split at h
    · cases h
    · split at h
      · exact (leads_next c).trans (ih h)
      · cases h

end Cursor

/-! ### Matchers -/

/-- A matcher goes on only from places that are reached by reading on. -/
def Matcher.Advances (m : Matcher) : Prop :=
  ∀ ⦃c g rest r⦄, m c g rest = some r → ∃ c' g', c.Leads c' ∧ rest c' g' = some r

section

variable {m k : Matcher}

theorem advances_rest : Matcher.Advances fun c g rest => rest c g := fun c g _ _ h => ⟨c, g, .refl c, h⟩

theorem advances_none : Matcher.Advances fun _ _ _ => none := nofun

theorem advances_seq (hm : m.Advances) (hk : k.Advances) :
    Matcher.Advances fun c g rest => m c g fun c' g' => k c' g' rest := by
  intro c g rest r h
  obtain ⟨c', g', hc', h'⟩ := hm h
  obtain ⟨c'', g'', hc'', h''⟩ := hk h'
  exact ⟨c'', g'', hc'.trans hc'', h''⟩

theorem advances_ite (P : Cursor → Captures → Prop) [∀ c g, Decidable (P c g)] (hm : m.Advances) (hk : k.Advances) :
    Matcher.Advances fun c g rest => if P c g then m c g rest else k c g rest := by
  intro c g rest r h
  dsimp only at h
  split at h
  · exact hm h
  · exact hk h

/-- One matcher, and another one if the first leads nowhere. -/
theorem advances_orElse (hm : m.Advances) (hk : k.Advances) :
    Matcher.Advances fun c g rest =>
      match m c g rest with
      | some r => some r
      | none => k c g rest := by
  intro c g rest r h
  dsimp only at h
  split at h
  · next hfirst => exact hm (hfirst.trans h)
  · exact hk h

/-- The place and the groups with which a matcher goes on first. -/
theorem leads_of_first (hm : m.Advances) {c c' : Cursor} {g g' : Captures}
    (h : m c g (fun c' g' => some (c', g')) = some (c', g')) : c.Leads c' := by
  obtain ⟨_, _, hc, hfirst⟩ := hm h
  cases hfirst
  exact hc

/-- The first way only in which a matcher goes on. -/
theorem advances_first (hm : m.Advances) (hk : k.Advances) :
    Matcher.Advances fun c g rest =>
      match m c g fun c' g' => some (c', g') with
      | some (c', g') => k c' g' rest
      | none => none := by
  intro c g rest r h
  dsimp only at h
  split at h
  · next hfirst =>
    obtain ⟨c'', g'', hc'', h''⟩ := hk h
    exact ⟨c'', g'', (leads_of_first hm hfirst).trans hc'', h''⟩
  · cases h

/-! ### Repetitions -/

variable {body : Matcher} {least : Nat} {most : Option Nat}

theorem advances_greedyFrom (hbody : body.Advances) (fuel count : Nat) (last : Option Nat) :
    Matcher.Advances fun c g rest => greedyFrom body least most rest fuel count last c g := by
  induction fuel generalizing count last with
  | zero => exact advances_rest
  | succ fuel ih =>
    intro c g rest r h
    dsimp only [greedyFrom] at h
    split at h
    · exact advances_seq hbody (ih _ _) h
    · split at h
      · exact advances_orElse (advances_seq hbody (ih _ _)) advances_rest h
      · exact ⟨c, g, .refl c, h⟩

theorem advances_lazyFrom (hbody : body.Advances) (fuel count : Nat) (last : Option Nat) :
    Matcher.Advances fun c g rest => lazyFrom body least most rest fuel count last c g := by
  induction fuel generalizing count last with
  | zero => exact advances_rest
  | succ fuel ih =>
    intro c g rest r h
    dsimp only [lazyFrom] at h
    split at h
    · exact advances_seq hbody (ih _ _) h
    · split at h
      · next hrest => exact ⟨c, g, .refl c, hrest.trans h⟩
      · split at h
        · exact advances_seq hbody (ih _ _) h
        · cases h

theorem leads_of_possessiveFrom (hbody : body.Advances) {fuel count : Nat} {last : Option Nat} {c c' : Cursor}
    {g g' : Captures} (h : possessiveFrom body least most fuel count last c g = some (c', g')) : c.Leads c' := by
  induction fuel generalizing count last c g with
  | zero =>
    cases h
    exact .refl _
  | succ fuel ih =>
    dsimp only [possessiveFrom] at h
    split at h
    · split at h
      · cases h
      · next hfirst => exact (leads_of_first hbody hfirst).trans (ih h)
    · split at h
      · split at h
        · cases h
          exact .refl _
        · next hfirst => exact (leads_of_first hbody hfirst).trans (ih h)
      · cases h
        exact .refl _

theorem advances_repeatAny (e : Eagerness) (hbody : body.Advances) : (repeatAny e least most body).Advances := by
  intro c g rest r h
  unfold repeatAny at h
  cases e with
  | greedy => exact advances_greedyFrom hbody _ _ _ h
  | lazy => exact advances_lazyFrom hbody _ _ _ h
  | possessive =>
    dsimp only at h
    split at h
    · next hfirst => exact ⟨_, _, leads_of_possessiveFrom hbody hfirst, h⟩
    · cases h

/-- The places passed are reached by reading on. -/
theorem leads_of_mem_placesOf {s : Charset} {after : Text} {passed : List Cursor} {start c d : Cursor}
    (hpassed : ∀ d ∈ passed, start.Leads d) (hc : start.Leads c) (hd : d ∈ placesOf s most after passed c) :
    start.Leads d := by
  induction after generalizing passed c with
  | nil => exact List.forall_mem_cons.2 ⟨hc, hpassed⟩ d hd
  | cons x rest ih =>
    have hnow := List.forall_mem_cons.2 ⟨hc, hpassed⟩
    rw [placesOf] at hd
    split at hd
    · exact ih hnow (hc.trans (Cursor.leads_next c)) hd
    · exact hnow d hd

theorem advances_repeatOne (e : Eagerness) (s : Charset) : (repeatOne e least most s).Advances := by
  intro c g rest r h
  obtain ⟨d, hd, hrest⟩ := List.exists_of_findSome?_eq_some h
  have hallowed : d ∈ placesOf s most c.after [] c := by
    cases e with
    | greedy => exact List.mem_of_mem_take hd
    | lazy => exact List.mem_of_mem_take (List.mem_reverse.1 hd)
    | possessive => exact List.mem_of_mem_take (List.mem_of_mem_take hd)
  exact ⟨d, g, leads_of_mem_placesOf (List.forall_mem_nil _) (.refl c) hallowed, hrest⟩

end

/-! ### Patterns -/

namespace Pattern

/-- Patterns go on only from places that are reached by reading on. -/
theorem advances_run (p : Pattern) : Matcher.Advances p.run := by
  induction p with
  | empty => exact advances_rest
  | one s =>
    intro c g rest r h
    rw [run] at h
    split at h
    · cases h
    · split at h
      · exact ⟨c.next, g, Cursor.leads_next c, h⟩
      · cases h
  | anchor a => exact advances_ite (fun c _ => a.holds c) advances_rest advances_none
  | seq p q hp hq => exact fun _ _ _ _ h => advances_seq hp hq h
  | alt p q hp hq => exact fun _ _ _ _ h => advances_orElse hp hq h
  | group n p hp =>
    intro c g rest r h
    obtain ⟨c', g', hc', hrest⟩ := hp h
    exact ⟨c', _, hc', hrest⟩
  | reference n f w =>
    intro c g rest r h
    rw [run] at h
    split at h
    · cases h
    · obtain ⟨c', hskip, hrest⟩ := Option.bind_eq_some_iff.1 h
      exact ⟨c', g, Cursor.leads_of_skip? hskip, hrest⟩
  | conditional n yes no hyes hno => exact advances_ite (fun _ g => (List.lookup n g).isSome) hyes hno
  | ahead negated p _ | behind negated p _ =>
    -- what the assertion reads is not read
    intro c g rest r h
    simp only [run] at h
    repeat' split at h
    all_goals first
      | exact ⟨c, _, .refl c, h⟩
      | cases h
  | atomic p hp => exact fun _ _ _ _ h => advances_first hp advances_rest h
  | repeated e least most p hp =>
    intro c g rest r h
    rw [run] at h
    split at h
    · exact advances_repeatOne e _ h
    · exact advances_repeatAny e hp h

/-! ### Matches -/

/-- A match lies behind a place. -/
structure Lies (c : Cursor) (m : Found) : Prop where
  first : c.Leads m.first
  last : m.first.Leads m.last

variable {p : Pattern} {moving : Bool} {c : Cursor} {m : Found}

theorem lies_of_matchAt (h : p.matchAt moving c = some m) : Lies c m := by
  obtain ⟨⟨c', g⟩, hrun, rfl⟩ := Option.map_eq_some_iff.1 h
  obtain ⟨d, _, hd, hend⟩ := p.advances_run hrun
  split at hend
  · cases hend
  · cases hend
    exact ⟨.refl c, hd⟩

theorem lies_of_searchFrom {after : Text} (h : searchFrom p after moving c = some m) : Lies c m := by
  induction after generalizing c moving with
  | nil => exact lies_of_matchAt h
  | cons x rest ih =>
    rw [searchFrom] at h
    split at h
    · next hfirst => exact lies_of_matchAt (hfirst.trans h)
    · obtain ⟨hbegin, hend⟩ := ih h
      exact ⟨(Cursor.leads_next c).trans hbegin, hend⟩

/-- Matches of which each lies behind the one before it. -/
def Chained : Cursor → List Found → Prop
  | _, [] => True
  | c, m :: ms => Lies c m ∧ Chained m.last ms

theorem chained_allFrom (p : Pattern) (fuel : Nat) (moving : Bool) (c : Cursor) :
    Chained c (allFrom p fuel moving c) := by
  induction fuel generalizing moving c with
  | zero => trivial
  | succ fuel ih =>
    rw [allFrom]
    split
    · trivial
    · next hfirst => exact ⟨lies_of_searchFrom hfirst, ih _ _⟩

/-- The matches in a text lie one behind the other. -/
theorem chained_all (p : Pattern) (t : Text) : Chained (.start t) (p.all t) := chained_allFrom p _ _ _

/-- Text in which matches are replaced by themselves. -/
theorem go_text {ms : List Found} (h : Chained c ms) : substitute.go Found.text c ms = c.after := by
  induction ms generalizing c with
  | nil => rfl
  | cons m ms ih =>
    obtain ⟨⟨hbegin, hend⟩, hrest⟩ := h
    rw [substitute.go, ih hrest, Found.text, List.append_assoc, hend.between_append, hbegin.between_append]

/-- A text in which every match is replaced by itself. -/
theorem substitute_text (p : Pattern) (t : Text) : p.substitute Found.text t = t := go_text (p.chained_all t)

/-- A match is a part of the text. -/
theorem text_infix_of_search {t : Text} (h : p.search t = some m) : m.text <:+: t := by
  obtain ⟨hbegin, hend⟩ := lies_of_searchFrom h
  refine ⟨(Cursor.start t).between m.first, m.last.after, ?_⟩
  rw [Found.text, List.append_assoc, hend.between_append, hbegin.between_append]
  rfl

end Pattern

end PageQuery.Regexp
