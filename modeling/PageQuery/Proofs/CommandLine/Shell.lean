import Mathlib.Data.List.Forall2
import PageQuery.CommandLine.Shell
import PageQuery.Proofs.Format.Printing
import PageQuery.Proofs.Page.Printing
import PageQuery.Proofs.Runner

namespace PageQuery.CommandLine

/-!
# What ends a command line

Whatever is wrong with a query is told, and the next line is read. A value that cannot be printed ends the command
line: it is printed after the query has been run, where nothing takes care of a failure.

* `exists_shown_iff`: which values can be printed;
* `Shell.Answers`, `Shell.ends_answer`: how a query is answered, and when it is;
* `Shell.Responds`, `Shell.ends_respond`, `Shell.ends_respondAll`: how one line is responded to, and lines one after
  the other;
* `Shell.prints_of_madeOf`: the pages on which every query is answered;
* `Opens`, `opens_of_start`: how a command line begins that has found its page;
* `Completes`, `run_of_start`: its whole course.
-/

/-- A value can be printed if it is made of scalars that print. -/
theorem exists_shown_iff (yaml : Bool) (v : Value) :
    (∃ t, shown yaml v = .ok t) ↔ v.MadeOf (Scalar.Prints yaml) := by
  unfold shown
  split
  · exact iff_of_true ⟨[], rfl⟩ (Value.madeOf_null (Scalar.ample_prints yaml))
  · next t => exact iff_of_true ⟨t ++ ['\n'], rfl⟩ (Value.madeOf_text (Scalar.ample_prints false) t)
  · rw [← Format.exists_write_iff]
    constructor
    · rintro ⟨t, h⟩
      obtain ⟨u, hu, -⟩ := bind_eq_ok_iff.1 h
      exact ⟨u, hu⟩
    · rintro ⟨u, hu⟩
      exact ⟨_, bind_eq_ok_iff.2 ⟨u, hu, rfl⟩⟩

theorem ends_shown (yaml : Bool) (v : Value) :
    Ends (fun t => v.MadeOf (Scalar.Prints yaml) ∧ shown yaml v = .ok t) (fun _ => ¬v.MadeOf (Scalar.Prints yaml))
      (shown yaml v) := by
  have hiff := exists_shown_iff yaml v
  cases ht : shown yaml v with
  | ok t => exact ⟨hiff.1 ⟨t, ht⟩, rfl⟩
  | error f =>
    intro hmade
    obtain ⟨t, hok⟩ := hiff.2 hmade
    cases ht.symm.trans hok

namespace Shell

/-! ### One query -/

/-- How a query goes on the page of a shell. -/
def attempt (s : Shell) (query : Text) : Attempt := Runner.answer {} ⟨query, s.page, s.environment⟩

/-- The value of a query can be printed, if it has one. -/
def Prints (s : Shell) (query : Text) : Prop :=
  ∀ v env, s.attempt query = .success v env → v.MadeOf (Scalar.Prints s.options.yaml)

/-- A query is answered by its value, or by what is wrong, as the last that is said. -/
def Answers (s : Shell) (query : Text) (o : Output) : Prop :=
  match s.attempt query with
  | .success v _ => shown s.options.yaml v = .ok o.out
  | .failure m i => o.out = [] ∧ (Attempt.failure m i).text query ++ ['\n'] <:+ o.err

/-- A query has a value. -/
def hasValue (s : Shell) (query : Text) : Bool :=
  match s.attempt query with
  | .success .. => true
  | .failure .. => false

/-- A shell after others queries: it has the same page, and its cache holds parsed queries. -/
structure Follows (s s' : Shell) : Prop where
  options : s'.options = s.options
  page : s'.page = s.page
  environment : s'.environment = s.environment
  cache : ∃ n ts, s'.cache.Reached n ts

/-- The same becomes of a query later on. -/
theorem Follows.attempt {s s' : Shell} (h : s.Follows s') : s'.attempt = s.attempt := by
  funext query
  rw [Shell.attempt, Shell.attempt, h.page, h.environment]

theorem Follows.prints {s s' : Shell} (h : s.Follows s') : s'.Prints = s.Prints := by
  funext query
  rw [Prints, Prints, h.attempt, h.options]

theorem Follows.answers {s s' : Shell} (h : s.Follows s') : s'.Answers = s.Answers := by
  funext query
  unfold Answers
  rw [h.attempt, h.options]

/-- A query is answered, and more can follow, if its value can be printed. -/
theorem ends_answer {s : Shell} (hs : ∃ n ts, s.cache.Reached n ts) (query : Text) :
    Ends (fun r => s.Prints query ∧ s.Answers query r.1 ∧ r.2.1 = s.hasValue query ∧ s.Follows r.2.2)
      (fun _ => ¬s.Prints query) (s.answer query) := by
  obtain ⟨n, ts, hcache⟩ := hs
  have hrun : ((Runner.attempt {} s.cache query s.page s.environment).run.run { s.session with notices := [] }).1 =
      .ok (s.attempt query, (s.cache.lookup query).2) :=
    Runner.exec_attempt_fst hcache.parsed ⟨query, s.page, s.environment⟩ _
  have hfollows : ∀ session, s.Follows { s with cache := (s.cache.lookup query).2, session } := fun session =>
    ⟨rfl, rfl, rfl, n, ts ++ [query], Cache.reached_lookup hcache query⟩
  unfold answer
  dsimp only
  generalize (Runner.attempt {} s.cache query s.page s.environment).run.run { s.session with notices := [] } = r
    at hrun ⊢
  obtain ⟨result, session⟩ := r
  refine ends_bind (P := (· = (s.attempt query, (s.cache.lookup query).2))) ?_ ?_
  · obtain rfl : result = _ := hrun
    exact rfl
  rintro _ rfl
  unfold Prints Answers hasValue
  dsimp only
  cases s.attempt query with
  | failure m i =>
    refine ⟨nofun, ⟨rfl, ?_⟩, rfl, hfollows session⟩
    dsimp only
    rw [List.append_assoc]
    exact List.suffix_append _ _
  | success v env =>
    refine ends_bind (ends_mono (ends_shown s.options.yaml v) (fun t h => h) fun f hnot hprints => ?_) fun t ht => ?_
    · exact hnot (hprints v env rfl)
    · refine ⟨?_, ht.2, rfl, hfollows session⟩
      rintro _ _ ⟨⟩
      exact ht.1

/-! ### Lines -/

/-- A line asks for a query to be run, unless it is blank or asks for a query to be checked. -/
def query? (line : Text) : Option Text :=
  let line := Text.trim line
  if line.isEmpty || (Text.after? ":validate " line).isSome then none else some line

/-- A line asks for the end. -/
def isLast (line : Text) : Bool := Text.trim line == "exit".toList

/-- The lines up to the one that asks for the end. -/
def before (lines : List Text) : List Text := lines.takeWhile (!isLast ·)

/-- A line is responded to: a query is answered, and for one to be checked the report on it is printed. -/
def Responds (s : Shell) (line : Text) (o : Output) : Prop :=
  match query? line with
  | some query => s.Answers query o
  | none => o =
    match Text.after? ":validate " (Text.trim line) with
    | some query => ⟨(Validation.validate (Text.trim query)).text ++ ['\n'], []⟩
    | none => {}

/-- What is printed for lines, with the prompts in front of them. -/
def transcript (left : Bool) : List Output → Output
  | [] => ⟨prompt ++ if left then [] else farewell, []⟩
  | o :: os => ⟨prompt, []⟩ ++ o ++ transcript left os

theorem Follows.responds {s s' : Shell} (h : s.Follows s') : s'.Responds = s.Responds := by
  funext line o
  unfold Responds
  rw [h.answers]

/-- One line is responded to, if it is not the last and asks for no value that cannot be printed. -/
theorem ends_respond {s : Shell} (hs : ∃ n ts, s.cache.Reached n ts) (line : Text) :
    Ends (fun
        | .leave => isLast line = true
        | .print o s' => isLast line = false ∧ (∀ q ∈ query? line, s.Prints q) ∧ s.Responds line o ∧ s.Follows s')
      (fun _ => isLast line = false ∧ ∃ q ∈ query? line, ¬s.Prints q) (s.respond line) := by
  have hself : s.Follows s := ⟨rfl, rfl, rfl, hs⟩
  unfold respond Responds query? isLast
  dsimp only
  generalize Text.trim line = line
  by_cases hempty : line.isEmpty
  · obtain rfl : line = [] := List.isEmpty_iff.1 hempty
    exact ⟨rfl, nofun, rfl, hself⟩
  rw [if_neg hempty]
  by_cases hexit : line = "exit"
  · rw [if_pos hexit]
    exact beq_iff_eq.2 hexit
  rw [if_neg hexit]
  have hlast : (line == "exit".toList) = false := beq_eq_false_iff_ne.2 hexit
  cases Text.after? ":validate " line with
  | some query => exact ⟨hlast, by simp, by simp, hself⟩
  | none =>
    have hquery : (line.isEmpty || (none : Option Text).isSome) = false := by simpa using hempty
    rw [hquery]
    refine ends_bind (ends_mono (ends_answer hs line) (fun r h => h) fun f hnot => ?_) fun r hr => ?_
    · exact ⟨hlast, line, rfl, hnot⟩
    · obtain ⟨hprints, hanswers, -, hfollows⟩ := hr
      refine ⟨hlast, ?_, hanswers, hfollows⟩
      rintro _ ⟨⟩
      exact hprints

/-- Lines are responded to one after the other, up to the last, if every value that is asked for can be printed. -/
theorem ends_respondAll {s : Shell} (hs : ∃ n ts, s.cache.Reached n ts) (lines : List Text) :
    Ends (fun o => (∀ q ∈ (before lines).filterMap query?, s.Prints q) ∧
        ∃ os, List.Forall₂ s.Responds (before lines) os ∧ o = transcript (lines.any isLast) os)
      (fun _ => ¬∀ q ∈ (before lines).filterMap query?, s.Prints q) (s.respondAll lines) := by
  induction lines generalizing s with
  | nil => exact ⟨List.forall_mem_nil _, [], .nil, rfl⟩
  | cons line rest ih =>
    have hqueries : isLast line = false → ((∀ q ∈ (before (line :: rest)).filterMap query?, s.Prints q) ↔
        (∀ q ∈ query? line, s.Prints q) ∧ ∀ q ∈ (before rest).filterMap query?, s.Prints q) := by
      intro hlast
      rw [before, List.takeWhile_cons_of_pos (by simp [hlast]), ← before]
      cases hquery : query? line <;> simp [hquery]
    refine ends_bind (ends_mono (ends_respond hs line) (fun r h => h) fun f hf => ?_) fun r hr => ?_
    · obtain ⟨hlast, q, hq, hnot⟩ := hf
      exact fun hall => hnot (((hqueries hlast).1 hall).1 q hq)
    cases r with
    | leave =>
      have hlast : isLast line = true := hr
      rw [before, List.takeWhile_cons_of_neg (by simp [hlast]), List.any_cons, hlast]
      exact ⟨List.forall_mem_nil _, [], .nil, rfl⟩
    | print o s' =>
      obtain ⟨hlast, hprints, hresponds, hfollows⟩ := hr
      -- to the shell after this line the same lines are asked with the same page
      have hrest := ih hfollows.cache
      rw [hfollows.prints, hfollows.responds] at hrest
      rw [hqueries hlast]
      refine ends_bind (ends_mono hrest (fun more h => h) fun f hnot hall => hnot hall.2) fun more hmore => ?_
      obtain ⟨hothers, os, hos, rfl⟩ := hmore
      refine ⟨⟨hprints, hothers⟩, o :: os, ?_, ?_⟩
      · rw [before, List.takeWhile_cons_of_pos (by simp [hlast])]
        exact .cons hresponds hos
      · rw [List.any_cons, hlast]
        rfl

/-- On a page made of scalars that print, with variables of this kind, every value can be printed. -/
theorem prints_of_madeOf {s : Shell} (hpage : s.page.data.MadeOf (Scalar.Prints s.options.yaml))
    (henv : ∀ p ∈ s.environment, p.2.MadeOf (Scalar.Prints s.options.yaml)) (query : Text) : s.Prints query := by
  have hP := Scalar.ample_prints s.options.yaml
  -- nothing is registered, and there is no sandbox
  have hctx : Transform.Context.Makes (Scalar.Prints s.options.yaml) {} := ⟨nofun, nofun⟩
  intro v env h
  unfold attempt Runner.answer at h
  dsimp only at h
  split at h
  · cases h
  · next q hparse =>
    split at h
    · next o ho =>
      have hmade := Execution.made_run hP hctx q hpage henv {} o ho
      obtain ⟨rfl, -⟩ := Attempt.success.inj h
      exact Results.madeOf_simplified hP hmade.results
    · cases h

end Shell

/-! ### The beginning -/

/-- The variables of a command line are texts. -/
theorem text_of_assignments {ts : List Text} {env : Environment} (h : assignments ts = .ok env) :
    ∀ p ∈ env, ∃ t, p.2 = .text t := by
  induction ts generalizing env with
  | nil =>
    obtain rfl : [] = env := Except.ok.inj h
    exact List.forall_mem_nil _
  | cons t rest ih =>
    rw [assignments] at h
    split at h
    · cases h
    · cases h
    · obtain ⟨more, hmore, h⟩ := bind_eq_ok_iff.1 h
      obtain rfl := Except.ok.inj h
      exact List.forall_mem_cons.2 ⟨⟨_, rfl⟩, ih hmore⟩

/-- The data of a page that has been found is what YAML reads, or made of scalars of an ample kind. -/
theorem madeOf_page {P : Scalar → Prop} (hP : Scalar.Ample P) {s : Surroundings} {threshold : Nat} {o : Options}
    {p : Page} (h : (page s threshold o).1 = .ok p) : (∃ t, Yaml.read t = .ok p.data) ∨ p.data.MadeOf P := by
  unfold page at h
  dsimp only at h
  split at h
  · split at h
    · cases h
    · obtain ⟨found, hfound, hp⟩ := map_eq_ok_iff.1 h
      have hdata : p.data = found.data := by
        rw [← hp]
        split <;> rfl
      rw [hdata]
      exact Http.madeOf_fetch hP hfound
  · exact Folder.madeOf_load hP h

/-- A shell at its beginning: no query has been parsed, its variables are texts, and its page has been found. -/
structure Opens (surroundings : Surroundings) (s : Shell) : Prop where
  cache : s.cache.Reached 256 []
  environment : ∀ p ∈ s.environment, ∃ t, p.2 = .text t
  page : ∃ threshold, (page surroundings threshold s.options).1 = .ok s.page

theorem opens_of_start {surroundings : Surroundings} {arguments : List Text} {said : Text} {s : Shell}
    (h : start surroundings arguments = .ok (.shell said s)) : Opens surroundings s := by
  unfold start at h
  split at h
  · cases h
  · cases h
  · next o ho =>
    unfold startWith at h
    dsimp only at h
    split at h
    · cases h
    · next given hgiven =>
      split at h
      · next p hp =>
        cases h
        refine ⟨Cache.reached_nil 256, ?_, _, hp⟩
        exact Ordered.forall_mem_overlay (P := fun v => ∃ t, v = Value.text t) (List.forall_mem_nil _)
          (text_of_assignments hgiven)
      · split at h <;> cases h

/-! ### The whole course -/

/-- The queries of a command line: the one that it gives, or those that are typed. -/
def asked (s : Shell) (lines : List Text) : List Text :=
  match s.options.query with
  | some query => [query]
  | none => (Shell.before lines).filterMap Shell.query?

/-- What is said and printed by a command line that comes to its end, and its code. -/
def Completes (said : Text) (s : Shell) (lines : List Text) (e : Ending) : Prop :=
  match s.options.query with
  | some q => ∃ o, s.Answers q o ∧ e = ⟨⟨[], said⟩ ++ o, if s.hasValue q then 0 else 1⟩
  | none => ∃ os, List.Forall₂ s.Responds (Shell.before lines) os ∧
    e = ⟨⟨s.greeting, said⟩ ++ Shell.transcript (lines.any Shell.isLast) os, 0⟩

/-- A command line that has found its page completes if every value that is asked for can be printed. -/
theorem ends_run {surroundings : Surroundings} {arguments : List Text} {said : Text} {s : Shell}
    (hstart : start surroundings arguments = .ok (.shell said s)) (lines : List Text) :
    Ends (fun e => (∀ q ∈ asked s lines, s.Prints q) ∧ Completes said s lines e)
      (fun _ => ¬∀ q ∈ asked s lines, s.Prints q) (run surroundings arguments lines) := by
  have hcache : ∃ n ts, s.cache.Reached n ts := ⟨256, [], (opens_of_start hstart).cache⟩
  unfold run asked Completes
  rw [hstart]
  refine ends_bind (P := (· = Start.shell said s)) rfl ?_
  rintro _ rfl
  dsimp only
  cases s.options.query with
  | some q =>
    simp only [List.forall_mem_singleton]
    refine ends_bind (Shell.ends_answer hcache q) fun r hr => ?_
    obtain ⟨hprints, hanswers, hfine, -⟩ := hr
    exact ⟨hprints, r.1, hanswers, by rw [hfine]⟩
  | none =>
    refine ends_bind (Shell.ends_respondAll hcache lines) fun o ho => ?_
    obtain ⟨hprints, os, hos, rfl⟩ := ho
    exact ⟨hprints, os, hos, rfl⟩

/-- The shell with which a command line begins, if it finds its page. -/
def shell? (surroundings : Surroundings) (arguments : List Text) : Option Shell :=
  match start surroundings arguments with
  | .ok (.shell _ s) => some s
  | _ => none

theorem exists_start_of_shell? {surroundings : Surroundings} {arguments : List Text} {s : Shell}
    (h : shell? surroundings arguments = some s) : ∃ said, start surroundings arguments = .ok (.shell said s) := by
  unfold shell? at h
  split at h
  · next said _ hstart =>
    obtain rfl := Option.some.inj h
    exact ⟨said, hstart⟩
  · cases h

/-- Surroundings with one file in the folder in which work is done. -/
def Surroundings.ofFile (name content : Text) : Surroundings where
  settings := []
  folder := { files := [([name], Utf8.encode content)] }
  outcome _ := .failure [] []

end PageQuery.CommandLine
