import PageQuery.Http.Exchange
import PageQuery.Proofs.Number.Doubling

namespace PageQuery.Http

/-!
# Attempts

A request is sent again until an attempt succeeds or none is left, with pauses in between that double. It is
given up early where a pause would have to be doubled beyond the largest double.

* `Outcome.IsSuccess`, `Outcome.fault`: the outcomes that end an exchange, and what the others are reported as;
* `pause_eq`: the pauses that there are;
* `send_of_fault`, `send_of_faults`: one attempt that fails, and attempts that fail one after the other;
* `exchange_retried`: the course of an exchange, whatever comes of its attempts.
-/

variable {s : Settings} {r : Request} {outcome : Nat → Outcome}

/-! ### Outcomes -/

/-- An answer with a status from 200 up to below 300. -/
def Outcome.IsSuccess : Outcome → Prop
  | .response a => 200 ≤ a.status ∧ a.status < 300
  | .failure .. => False

/-- What an outcome that is no success is reported as. -/
def Outcome.fault (url : Text) : Outcome → Fault
  | .response a => .status a.status url ((Utf8.decodeSkipping a.content).take toldLength)
  | .failure kind message => .transport kind message

theorem settle_of_success {a : Response} (h : (Outcome.response a).IsSuccess) (url : Text) :
    settle url (.response a) = .ok (a.settled url) := by
  have hstatus : isSuccess a.status = true := by
    rw [isSuccess, Bool.and_eq_true, decide_eq_true_eq, decide_eq_true_eq]
    exact h
  rw [settle, if_pos hstatus]

theorem settle_of_fault {o : Outcome} (h : ¬o.IsSuccess) (url : Text) : settle url o = .error (o.fault url) := by
  cases o with
  | failure kind message => rfl
  | response a =>
    have hstatus : ¬isSuccess a.status = true := by
      rw [isSuccess, Bool.and_eq_true, decide_eq_true_eq, decide_eq_true_eq]
      exact h
    rw [settle, if_neg hstatus]
    rfl

/-! ### Pauses -/

/-- How often a pause can be doubled. -/
def mostDoublings : Nat := 1023

/-- The first pause, doubled so many times. -/
def doubled (backoff : Float) (times : Nat) : Float := backoff * Binary64.ofRatio false (twoTo times) 1

/-- What is reported where a pause cannot be doubled any more. -/
def overtaxed : Fault := .tooLarge "int too large to convert to float"

/-- Each pause is the first one, doubled once for each attempt before, as long as that can be done. -/
theorem pause_eq (backoff : Float) (attempt : Nat) :
    pause backoff attempt = if attempt ≤ mostDoublings then .ok (doubled backoff attempt) else .error overtaxed := by
  have hlimit : attempt ≤ mostDoublings ↔ attempt < 1024 := Nat.lt_succ_iff.symm
  rw [pause, double, Binary64.ofInt?_twoTo]
  by_cases h : attempt < 1024
  · rw [if_pos h, if_pos (hlimit.2 h)]
    rfl
  · rw [if_neg h, if_neg (mt hlimit.1 h)]
    rfl

/-! ### Attempts in a row -/

/-- What happens in an attempt that fails, and in the pause after it. -/
def failed (s : Settings) (r : Request) (outcome : Nat → Outcome) (attempt : Nat) : List Event :=
  [.sent r, .trouble ((outcome attempt).fault r.url).message, .paused (doubled s.backoff attempt)]

/-- What happens up to the last attempt of an exchange, before which so many have failed. -/
def course (s : Settings) (r : Request) (outcome : Nat → Outcome) (failures : Nat) : List Event :=
  (List.range failures).flatMap (failed s r outcome) ++ [.sent r]

/-- After an attempt that fails and a pause comes the next one. -/
theorem send_of_fault {attempt : Nat} (h : ¬(outcome attempt).IsSuccess) (hlimit : attempt ≤ mostDoublings)
    (left : Nat) (x : Exchange) :
    send s r outcome (left + 1) attempt x =
      send s r outcome left (attempt + 1) ⟨x.events ++ failed s r outcome attempt⟩ := by
  rw [send, settle_of_fault h, pause_eq, if_pos hlimit]
  simp [Exchange.add, failed]

/-- Attempts that fail one after the other, with pauses that can be doubled. -/
theorem send_of_faults {n failures : Nat} (hleft : failures ≤ n) (hlimit : failures ≤ mostDoublings + 1)
    (h : ∀ i < failures, ¬(outcome i).IsSuccess) :
    send s r outcome n 0 {} =
      send s r outcome (n - failures) failures ⟨(List.range failures).flatMap (failed s r outcome)⟩ := by
  induction failures with
  | zero => rfl
  | succ k ih =>
    have hrest : n - k = n - (k + 1) + 1 := by omega
    rw [ih (Nat.le_of_succ_le hleft) (Nat.le_of_succ_le hlimit) fun i hi => h i (Nat.lt_succ_of_lt hi), hrest,
      send_of_fault (h k (Nat.lt_succ_self k)) (Nat.le_of_succ_le_succ hlimit), List.range_succ, List.flatMap_append,
      List.flatMap_singleton]

/-- An attempt that succeeds is the last one. -/
theorem send_of_success {attempt : Nat} {a : Response} (ha : outcome attempt = .response a)
    (h : (outcome attempt).IsSuccess) (left : Nat) (x : Exchange) :
    send s r outcome left attempt x = (.ok (a.settled r.url), x.add (.sent r)) := by
  rw [ha] at h
  cases left with
  | zero => rw [send, ha, settle_of_success h]
  | succ left => rw [send, ha, settle_of_success h]

/-- So is one that fails where no other is left. -/
theorem send_zero_of_fault {attempt : Nat} (h : ¬(outcome attempt).IsSuccess) (x : Exchange) :
    send s r outcome 0 attempt x = (.error ((outcome attempt).fault r.url), x.add (.sent r)) := by
  rw [send, settle_of_fault h]

/-- So is one that fails where the pause cannot be doubled any more. -/
theorem send_of_overtaxed {attempt : Nat} (h : ¬(outcome attempt).IsSuccess) (hlimit : mostDoublings < attempt)
    (left : Nat) (x : Exchange) :
    send s r outcome (left + 1) attempt x =
      (.error overtaxed, ⟨x.events ++ [.sent r, .trouble ((outcome attempt).fault r.url).message]⟩) := by
  rw [send, settle_of_fault h, pause_eq, if_neg (Nat.not_le.2 hlimit)]
  simp [Exchange.add]

/-! ### Exchanges -/

theorem exchange_of_natCast {n : Nat} (hn : s.retries = n) : exchange s r outcome = send s r outcome n 0 {} := by
  rw [exchange, hn]

theorem exchange_of_success {n i : Nat} {a : Response} (hn : s.retries = n) (hi : i ≤ n)
    (hlimit : i ≤ mostDoublings + 1) (h : ∀ j < i, ¬(outcome j).IsSuccess) (ha : outcome i = .response a)
    (hsuccess : (outcome i).IsSuccess) :
    exchange s r outcome = (.ok (a.settled r.url), ⟨course s r outcome i⟩) := by
  rw [exchange_of_natCast hn, send_of_faults hi hlimit h, send_of_success ha hsuccess]
  rfl

theorem exchange_of_fault {n : Nat} (hn : s.retries = n) (hlimit : n ≤ mostDoublings + 1)
    (h : ∀ j ≤ n, ¬(outcome j).IsSuccess) :
    exchange s r outcome = (.error ((outcome n).fault r.url), ⟨course s r outcome n⟩) := by
  rw [exchange_of_natCast hn, send_of_faults (Nat.le_refl n) hlimit fun j hj => h j (Nat.le_of_lt hj), Nat.sub_self,
    send_zero_of_fault (h n (Nat.le_refl n))]
  rfl

/-- Without an attempt nothing is sent. -/
theorem exchange_of_neg (hn : s.retries < 0) : exchange s r outcome = (.error (.noResponse r.url), {}) := by
  obtain ⟨k, hk⟩ := Int.eq_negSucc_of_lt_zero hn
  rw [exchange, hk]

/-- An exchange in which too many attempts fail. -/
theorem exchange_of_overtaxed {n : Nat} (hn : s.retries = n) (hlimit : mostDoublings + 1 < n)
    (h : ∀ i ≤ mostDoublings + 1, ¬(outcome i).IsSuccess) :
    exchange s r outcome = (.error overtaxed, ⟨course s r outcome (mostDoublings + 1) ++
      [.trouble ((outcome (mostDoublings + 1)).fault r.url).message]⟩) := by
  have hrest : n - (mostDoublings + 1) = n - (mostDoublings + 2) + 1 := by omega
  rw [exchange_of_natCast hn, send_of_faults (Nat.le_of_lt hlimit) (Nat.le_refl _) fun i hi => h i (Nat.le_of_lt hi),
    hrest, send_of_overtaxed (h _ (Nat.le_refl _)) (Nat.lt_succ_self _), course, List.append_assoc,
    List.singleton_append]

/-- The requests of a course are all the same. -/
theorem requests_course (failures : Nat) :
    Exchange.requests ⟨course s r outcome failures⟩ = List.replicate (failures + 1) r :=
  calc Exchange.requests ⟨course s r outcome failures⟩
    _ = (List.range failures).flatMap (fun _ => [r]) ++ [r] := by
      rw [Exchange.requests, course, List.filterMap_append, List.filterMap_flatMap]
      rfl
    _ = List.replicate (failures + 1) r := by
      rw [← List.map_eq_flatMap, List.map_const', List.length_range, ← List.replicate_succ']

/-- Being told of a failure is no request. -/
theorem requests_trouble (es : List Event) (message : Text) :
    Exchange.requests ⟨es ++ [.trouble message]⟩ = Exchange.requests ⟨es⟩ := by
  rw [Exchange.requests, List.filterMap_append]
  exact List.append_nil _

/-- Between two requests of a course there is one pause, and each is twice as long as the one before. -/
theorem pauses_course (failures : Nat) :
    Exchange.pauses ⟨course s r outcome failures⟩ = (List.range failures).map (doubled s.backoff) :=
  calc Exchange.pauses ⟨course s r outcome failures⟩
    _ = (List.range failures).flatMap (fun i => [doubled s.backoff i]) ++ [] := by
      rw [Exchange.pauses, course, List.filterMap_append, List.filterMap_flatMap]
      rfl
    _ = (List.range failures).map (doubled s.backoff) := by rw [List.append_nil, ← List.map_eq_flatMap]

theorem kind_fault {o : Outcome} {a : Response} (ha : o = .response a) (url : Text) :
    (o.fault url).kind = "RuntimeError" := by
  rw [ha]
  rfl

/-- An exchange ends with the first attempt that succeeds, or with the last one and its failure, or where a pause
    cannot be doubled. Before each attempt but the first there is a single pause, all requests are the same, and
    pauses grow by powers of two. -/
theorem exchange_retried (s : Settings) (r : Request) (outcome : Nat → Outcome) :
    (s.retries < 0 → exchange s r outcome = (.error (.noResponse r.url), {}) ∧
      (Fault.noResponse r.url).kind = "RuntimeError") ∧
    (∀ n : Nat, s.retries = n →
      (∀ i ≤ n, i ≤ mostDoublings + 1 → (∀ j < i, ¬(outcome j).IsSuccess) →
        ∀ a, outcome i = .response a → 200 ≤ a.status → a.status < 300 →
          exchange s r outcome = (.ok (a.settled r.url), ⟨course s r outcome i⟩)) ∧
      ((∀ j ≤ n, ¬(outcome j).IsSuccess) → n ≤ mostDoublings + 1 →
        exchange s r outcome = (.error ((outcome n).fault r.url), ⟨course s r outcome n⟩)) ∧
      ((∀ j ≤ mostDoublings + 1, ¬(outcome j).IsSuccess) → mostDoublings + 1 < n →
        exchange s r outcome = (.error overtaxed, ⟨course s r outcome (mostDoublings + 1) ++
          [.trouble ((outcome (mostDoublings + 1)).fault r.url).message]⟩))) ∧
    (∀ i a, outcome i = .response a → ((outcome i).fault r.url).kind = "RuntimeError") ∧
    (∀ i kind message, outcome i = .failure kind message → (outcome i).fault r.url = .transport kind message) ∧
    (∀ k, Exchange.requests ⟨course s r outcome k⟩ = List.replicate (k + 1) r ∧
      Exchange.pauses ⟨course s r outcome k⟩ = (List.range k).map (doubled s.backoff)) ∧
    ∀ i ≤ mostDoublings, ∃ x, doubled s.backoff i = s.backoff * x ∧ Binary64.whole? x = some (2 ^ i) := by
  refine ⟨fun hn => ⟨exchange_of_neg hn, rfl⟩, fun n hn => ⟨?_, ?_, ?_⟩, ?_, ?_, ?_, ?_⟩
  · intro i hi hlimit h a ha hlow hhigh
    have hsuccess : (outcome i).IsSuccess := by
      rw [ha]
      exact ⟨hlow, hhigh⟩
    exact exchange_of_success hn hi hlimit h ha hsuccess
  · intro h hlimit
    exact exchange_of_fault hn hlimit h
  · intro h hlimit
    exact exchange_of_overtaxed hn hlimit h
  · intro i a ha
    exact kind_fault ha r.url
  · intro i kind message ho
    rw [ho]
    rfl
  · intro k
    exact ⟨requests_course k, pauses_course k⟩
  · intro i hi
    have hwhole : Binary64.whole? (Binary64.ofRatio false (twoTo i) 1) = some (twoTo i : Int) :=
      Binary64.whole?_ofRatio_twoTo (Nat.lt_succ_of_le hi)
    have hcast : (twoTo i : Int) = 2 ^ i := Int.natCast_pow 2 i
    exact ⟨_, rfl, hcast ▸ hwhole⟩

/-- One failure, then an answer. -/
theorem exchange_retried_once :
    let s : Settings := ⟨10.0, 2, 0.5, [], []⟩
    let r : Request := ⟨"GET", "https://a.org/x", [], [], none⟩
    let answer : Response := ⟨200, [111, 107], [], "https://a.org/x"⟩
    let outcome : Nat → Outcome := fun
      | 0 => .failure "ConnectionError" "reset"
      | _ => .response answer
    exchange s r outcome =
      (.ok answer, ⟨[.sent r, .trouble "reset", .paused (doubled 0.5 0), .sent r]⟩) := by
  intro s r answer outcome
  have hfirst : ∀ j < 1, ¬(outcome j).IsSuccess := by
    intro j hj
    rw [Nat.lt_one_iff.1 hj]
    exact id
  exact (((exchange_retried s r outcome).2.1 2 rfl).1 1 (by decide) (by decide) hfirst answer rfl
    (by decide) (by decide))

/-- With a thousand and twenty-five further attempts, the last one is not made, and its failure not told, even if
    there are no seconds to wait. -/
theorem exchange_unfinished :
    let s : Settings := ⟨10.0, 1025, 0.0, [], []⟩
    let r : Request := ⟨"GET", "https://a.org/x", [], [], none⟩
    let outcome : Nat → Outcome := fun _ => .failure "ConnectionError" "reset"
    (exchange s r outcome).1.toOption = none ∧
      (exchange s r outcome).1 ≠ .error (.transport "ConnectionError" "reset") ∧
      (exchange s r outcome).2.requests.length = 1025 := by
  intro s r outcome
  have hend := @exchange_of_overtaxed s r outcome 1025 rfl (by decide) fun _ _ => id
  refine ⟨?_, ?_, ?_⟩
  · rw [hend]
    rfl
  · rw [hend]
    exact fun h => nomatch Except.error.inj h
  · rw [hend, requests_trouble, requests_course, List.length_replicate]
    rfl

end PageQuery.Http
