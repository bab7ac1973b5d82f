import BackendHandbook.Admission.Store
import BackendHandbook.Foundation.Run
import Mathlib.Tactic.Linarith
import Mathlib.Tactic.Ring

/-! The shared token bucket: a bounded burst, and a refill that is credited when a key is asked
for. Tokens and seconds, floats in the source, are exact rationals. -/

namespace BackendHandbook.Admission

open Run List

structure TokenBucketRateLimiter where
  (capacity refillPerMinute : Nat)
  available : Bool := true
  buckets : Dict String (ℚ × ℚ) := ∅

structure AllowCall where
  key : String
  now : ℚ

namespace TokenBucketRateLimiter

variable (limiter : TokenBucketRateLimiter)

def rate : ℚ := limiter.refillPerMinute / 60

/-- The tokens of a key with the time since its last call credited. -/
def tokens (key : String) (now : ℚ) : ℚ :=
  let bucket := (limiter.buckets.lookup key).getD (limiter.capacity, now)
  min limiter.capacity (bucket.1 + (now - bucket.2) * limiter.rate)

def store (call : AllowCall) (tokens : ℚ) : TokenBucketRateLimiter :=
  { limiter with buckets := limiter.buckets.insert call.key (tokens, call.now) }

def allow (call : AllowCall) (limiter : TokenBucketRateLimiter) :
    Except Raised Bool × TokenBucketRateLimiter :=
  if limiter.available = false then
    (.error (.limiterUnavailable "rate limiter unavailable"), limiter)
  else
    let tokens := limiter.tokens call.key call.now
    if 1 ≤ tokens then (.ok true, limiter.store call (tokens - 1))
    else (.ok false, limiter.store call tokens)

def granted (answer : Except Raised Bool) : Bool := answer.toOption = some true

def Bounded : Prop :=
  ∀ key bucket, limiter.buckets.lookup key = some bucket →
    0 ≤ bucket.1 ∧ bucket.1 ≤ limiter.capacity

/-- Every bucket is within its bounds and was last asked before. -/
def Credited (now : ℚ) : Prop :=
  ∀ key bucket, limiter.buckets.lookup key = some bucket →
    (0 ≤ bucket.1 ∧ bucket.1 ≤ limiter.capacity) ∧ bucket.2 ≤ now

variable {limiter} {call : AllowCall} {key : String} {now later : ℚ}

theorem rate_nonneg : 0 ≤ limiter.rate := div_nonneg (Nat.cast_nonneg _) (by norm_num)

theorem refill_nonneg (limiter : TokenBucketRateLimiter) (le : now ≤ later) :
    0 ≤ limiter.rate * (later - now) := mul_nonneg rate_nonneg (sub_nonneg.mpr le)

theorem Credited.bounded (credited : limiter.Credited now) : limiter.Bounded := by
  intro key bucket found
  exact (credited key bucket found).1

theorem Credited.mono (credited : limiter.Credited now) (le : now ≤ later) :
    limiter.Credited later := by
  intro key bucket found
  obtain ⟨bounds, asked⟩ := credited key bucket found
  exact ⟨bounds, asked.trans le⟩

theorem Credited.tokens_bounds (credited : limiter.Credited now) (key : String) :
    0 ≤ limiter.tokens key now ∧ limiter.tokens key now ≤ limiter.capacity := by
  refine ⟨?_, min_le_left _ _⟩
  have capacity : (0 : ℚ) ≤ limiter.capacity := Nat.cast_nonneg _
  apply le_min capacity
  cases found : limiter.buckets.lookup key with
  | none => simp
  | some bucket =>
    obtain ⟨⟨nonneg, _⟩, asked⟩ := credited key bucket found
    have gained := mul_nonneg (sub_nonneg.mpr asked) limiter.rate_nonneg
    simpa using add_nonneg nonneg gained

theorem tokens_later (key : String) (le : now ≤ later) :
    limiter.tokens key later ≤ limiter.tokens key now + limiter.rate * (later - now) := by
  have gained := limiter.refill_nonneg le
  unfold tokens
  rw [← min_add_add_right]
  apply min_le_min
  · exact le_add_of_nonneg_right gained
  · cases limiter.buckets.lookup key with
    | none => simpa using gained
    | some bucket =>
      apply le_of_eq
      simp only [Option.getD_some]
      ring

/-- Storing keeps the bounds, and what is not stored comes out of the call's own bucket. -/
theorem Credited.store (credited : limiter.Credited call.now) (tokens : ℚ)
    (bounds : 0 ≤ tokens ∧ tokens ≤ limiter.capacity) :
    (limiter.store call tokens).Credited call.now ∧
      ∀ key, (limiter.store call tokens).tokens key call.now = limiter.tokens key call.now -
          if call.key = key then limiter.tokens key call.now - tokens else 0 := by
  constructor
  · exact Dict.forall_insert ⟨bounds, le_rfl⟩ credited
  · intro key
    conv_lhs => unfold TokenBucketRateLimiter.tokens TokenBucketRateLimiter.store
    rw [Dict.lookup_insert_eq]
    by_cases own : key = call.key
    · subst own
      simp [min_eq_right bounds.2]
    · simp only [if_neg own, if_neg (Ne.symm own), sub_zero]
      rfl

/-- One call keeps the bounds, and what it grants comes out of its own bucket. -/
theorem Credited.step (credited : limiter.Credited call.now) :
    ((limiter.allow call).2.Credited call.now ∧ (limiter.allow call).2.rate = limiter.rate ∧
      (limiter.allow call).2.capacity = limiter.capacity) ∧
      ∀ key, (limiter.allow call).2.tokens key call.now = limiter.tokens key call.now -
        if call.key = key ∧ granted (limiter.allow call).1 then 1 else 0 := by
  have bounds := credited.tokens_bounds call.key
  unfold allow
  split
  · exact ⟨⟨credited, rfl, rfl⟩, fun key => by simp [granted, Except.toOption]⟩
  · dsimp only
    split
    · next enough =>
      obtain ⟨kept, left⟩ := credited.store (limiter.tokens call.key call.now - 1)
        ⟨by linarith, by linarith⟩
      exact ⟨⟨kept, rfl, rfl⟩, fun key => by
        rw [left]
        by_cases own : call.key = key <;> simp [own, granted, Except.toOption]⟩
    · obtain ⟨kept, left⟩ := credited.store _ bounds
      exact ⟨⟨kept, rfl, rfl⟩, fun key => by
        rw [left]
        by_cases own : call.key = key <;> simp [own, granted, Except.toOption]⟩

def answers (key : String)
    (events : List (Event TokenBucketRateLimiter AllowCall fun _ => Except Raised Bool)) :
    List (Except Raised Bool) :=
  (events.filter fun e => e.call.key = key).map Event.response

/-- A call that is let through for the key between two times. -/
def grants (key : String) (start stop : ℚ)
    (e : Event TokenBucketRateLimiter AllowCall fun _ => Except Raised Bool) : Bool :=
  e.call.key = key ∧ granted e.response ∧ start ≤ e.call.now ∧ e.call.now ≤ stop

section Windows

variable {calls : List AllowCall} {start stop : ℚ}

theorem none_granted (clock : ((call :: calls).map AllowCall.now).Pairwise (· ≤ ·))
    (late : stop < call.now) :
    (trace allow limiter (call :: calls)).countP (grants key start stop) = 0 := by
  apply countP_eq_zero.mpr
  intro e member inside
  have after : call.now ≤ e.call.now := by
    rcases mem_cons.mp (mem_of_mem_trace allow limiter _ e member) with same | later
    · exact le_of_eq (congrArg AllowCall.now same.symm)
    · exact (pairwise_cons.mp clock).1 _ (mem_map_of_mem later)
  exact absurd (of_decide_eq_true inside).2.2.2 (not_le.mpr (late.trans_le after))

/-- The tokens at a time and the refill from then on pay for every grant that follows. -/
theorem Credited.pays (credited : limiter.Credited now) (key : String) (start : ℚ)
    (clock : (now :: calls.map AllowCall.now).Pairwise (· ≤ ·)) (le : now ≤ stop) :
    ((trace allow limiter calls).countP (grants key start stop) : ℚ) ≤
      limiter.tokens key now + limiter.rate * (stop - now) := by
  induction calls generalizing limiter now with
  | nil =>
    have nonneg := (credited.tokens_bounds key).1
    have gained := limiter.refill_nonneg le
    simpa [trace] using add_nonneg nonneg gained
  | cons call rest ih =>
    rw [map_cons, pairwise_cons] at clock
    have here : now ≤ call.now := clock.1 _ mem_cons_self
    by_cases inside : call.now ≤ stop
    · obtain ⟨⟨kept, rate, _⟩, left⟩ := (credited.mono here).step
      have paid := ih kept clock.2 inside
      rw [rate, left key] at paid
      have gained := limiter.tokens_later key here
      have counted : ((trace allow limiter (call :: rest)).countP (grants key start stop) : ℚ) ≤
          (trace allow (limiter.allow call).2 rest).countP (grants key start stop) +
            if call.key = key ∧ granted (limiter.allow call).1 then 1 else 0 := by
        rw [trace, countP_cons]
        push_cast
        apply add_le_add_right
        split
        · next counts =>
          have facts := of_decide_eq_true counts
          rw [if_pos ⟨facts.1, facts.2.1⟩]
        · split <;> norm_num
      linarith
    · have nonneg := (credited.tokens_bounds key).1
      have gained := limiter.refill_nonneg le
      rw [none_granted clock.2 (not_le.mp inside)]
      simpa using add_nonneg nonneg gained

theorem window_bounded (credited : ∀ call ∈ calls, limiter.Credited call.now)
    (clock : (calls.map AllowCall.now).Pairwise (· ≤ ·)) (le : start ≤ stop) :
    ((trace allow limiter calls).countP (grants key start stop) : ℚ) ≤
      limiter.capacity + limiter.rate * (stop - start) := by
  induction calls generalizing limiter with
  | nil =>
    have gained := limiter.refill_nonneg le
    simpa [trace] using add_nonneg (Nat.cast_nonneg limiter.capacity) gained
  | cons call rest ih =>
    have first := credited call mem_cons_self
    have ordered := pairwise_cons.mp clock
    by_cases early : call.now < start
    · obtain ⟨⟨kept, rate, capacity⟩, _⟩ := first.step
      have counted := ih (fun other member =>
        kept.mono (ordered.1 _ (mem_map_of_mem member))) ordered.2
      rw [rate, capacity] at counted
      rw [trace, countP_cons_of_neg]
      · exact counted
      · intro inside
        exact absurd (of_decide_eq_true inside).2.2.1 (not_le.mpr early)
    by_cases late : stop < call.now
    · have gained := mul_nonneg limiter.rate_nonneg (sub_nonneg.mpr le)
      rw [none_granted clock late]
      simpa using add_nonneg (Nat.cast_nonneg limiter.capacity) gained
    have paid := first.pays key start
      (pairwise_cons.mpr ⟨?_, clock⟩) (not_lt.mp late)
    · have full := (first.tokens_bounds key).2
      have shorter := mul_le_mul_of_nonneg_left
        (sub_le_sub_left (not_lt.mp early) stop) limiter.rate_nonneg
      linarith
    · intro other member
      rcases mem_cons.mp member with rfl | later
      · exact le_rfl
      · exact ordered.1 other later

theorem final_bounded (credited : ∀ call ∈ calls, limiter.Credited call.now)
    (clock : (calls.map AllowCall.now).Pairwise (· ≤ ·)) (bounded : limiter.Bounded) :
    (final allow limiter calls).Bounded ∧
      (final allow limiter calls).capacity = limiter.capacity := by
  induction calls generalizing limiter with
  | nil => exact ⟨bounded, rfl⟩
  | cons call rest ih =>
    obtain ⟨⟨kept, _, capacity⟩, _⟩ := (credited call mem_cons_self).step
    have ordered := pairwise_cons.mp clock
    rw [← capacity]
    exact ih (fun other member => kept.mono (ordered.1 _ (mem_map_of_mem member)))
      ordered.2 kept.bounded

end Windows

section Keys

/-- The two limiters hold the same for the key. -/
structure Agrees (first second : TokenBucketRateLimiter) (key : String) : Prop where
  capacity : first.capacity = second.capacity
  refill : first.refillPerMinute = second.refillPerMinute
  available : first.available = second.available
  bucket : first.buckets.lookup key = second.buckets.lookup key

variable {first second : TokenBucketRateLimiter}

theorem Agrees.step (agrees : first.Agrees second call.key) :
    (first.allow call).1 = (second.allow call).1 ∧
      (first.allow call).2.Agrees (second.allow call).2 call.key := by
  have same : first.tokens call.key call.now = second.tokens call.key call.now := by
    simp [tokens, rate, agrees.capacity, agrees.refill, agrees.bucket]
  have stored : ∀ tokens, (first.store call tokens).Agrees (second.store call tokens) call.key :=
    fun tokens => ⟨agrees.capacity, agrees.refill, agrees.available, by
      simp [store]⟩
  unfold allow
  rw [agrees.available, same]
  split
  · exact ⟨rfl, agrees⟩
  · dsimp only
    split
    · exact ⟨rfl, stored _⟩
    · exact ⟨rfl, stored _⟩

theorem Agrees.step_other (agrees : first.Agrees second key) (other : call.key ≠ key) :
    (first.allow call).2.Agrees second key := by
  have stored : ∀ tokens, (first.store call tokens).Agrees second key :=
    fun tokens => ⟨agrees.capacity, agrees.refill, agrees.available, by
      simp [store, Dict.lookup_insert_eq, if_neg (Ne.symm other), agrees.bucket]⟩
  unfold allow
  split
  · exact agrees
  · dsimp only
    split
    · exact stored _
    · exact stored _

/-- What a key is answered is what it is answered when nobody asks for another key. -/
theorem answers_own (agrees : first.Agrees second key) (calls : List AllowCall) :
    answers key (trace allow first calls) =
      answers key (trace allow second (calls.filter fun call => call.key = key)) := by
  induction calls generalizing first second with
  | nil => rfl
  | cons call rest ih =>
    by_cases own : call.key = key
    · subst own
      obtain ⟨same, kept⟩ := agrees.step
      have later := ih kept
      simp only [answers, trace, filter_cons, event, decide_true, if_true, map_cons] at later ⊢
      exact congrArg₂ List.cons same later
    · have later := ih (agrees.step_other own)
      simp only [answers, trace, filter_cons, event, own, decide_false, Bool.false_eq_true,
        if_false] at later ⊢
      exact later

end Keys

end TokenBucketRateLimiter

open TokenBucketRateLimiter

/-- From a fresh limiter and on a clock that never goes back: a window grants one key at most the
burst and the refill of its length, no bucket leaves its bounds, and no key is answered
differently because of the others. -/
theorem token_bucket_bounded (capacity refillPerMinute : Nat) (available : Bool)
    (calls : List AllowCall) (clock : calls.Pairwise fun first second => first.now ≤ second.now) :
    let limiter : TokenBucketRateLimiter := { capacity, refillPerMinute, available }
    (∀ key start stop, start ≤ stop →
      ((trace allow limiter calls).countP (grants key start stop) : ℚ) ≤
        capacity + refillPerMinute / 60 * (stop - start)) ∧
    (∀ key bucket, (final allow limiter calls).buckets.lookup key = some bucket →
      0 ≤ bucket.1 ∧ bucket.1 ≤ capacity) ∧
    ∀ key, answers key (trace allow limiter calls) =
      answers key (trace allow limiter (calls.filter fun call => call.key = key)) := by
  intro limiter
  have ordered := pairwise_map.mpr clock
  have credited : ∀ now, limiter.Credited now := by
    intro now key bucket found
    rw [Dict.lookup_empty] at found
    cases found
  obtain ⟨bounded, same⟩ := final_bounded (fun call _ => credited call.now) ordered
    (credited 0).bounded
  refine ⟨fun key start stop le => window_bounded (fun call _ => credited call.now) ordered le,
    ?_, fun key => answers_own ⟨rfl, rfl, rfl, rfl⟩ calls⟩
  intro key bucket found
  have bounds := bounded key bucket found
  rw [same] at bounds
  exact bounds

theorem token_bucket_bounded_refilled :
    let calls : List AllowCall := [⟨"a", 0⟩, ⟨"a", 0⟩, ⟨"b", 0⟩, ⟨"a", 1⟩]
    ((trace allow { capacity := 1, refillPerMinute := 60 } calls).countP (grants "a" 0 1) : ℚ) ≤
      (1 : Nat) + (60 : Nat) / 60 * (1 - 0) :=
  (token_bucket_bounded 1 60 true _ (by simp)).1 "a" 0 1 zero_le_one

end BackendHandbook.Admission
