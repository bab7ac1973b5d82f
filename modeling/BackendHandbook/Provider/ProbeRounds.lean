import BackendHandbook.Provider.ControlPlane

/-! The probes of one failure domain, over the rounds in which the circuit is half open. -/

namespace BackendHandbook.Provider

open Run Dict CircuitBreaker

/-- A circuit beside the probes that it has handed out. -/
structure ProbeRounds where
  circuit : CircuitBreaker
  round : Nat := 0
  acquired : Nat := 0
  unreported : Dict Nat Nat := ∅
  succeeded : Nat := 0

inductive CircuitCall
  | recordFailure | startHalfOpen | tryAcquireProbe
  | recordProbeSuccess (probe : Nat) (neededToClose : Int)
  | recordProbeFailure (probe : Nat)
  deriving DecidableEq

def CircuitCall.probe? : CircuitCall → Option Nat
  | .recordProbeSuccess probe _ => some probe
  | .recordProbeFailure probe => some probe
  | _ => none

section Model

variable (key : String)

namespace ProbeRounds

/-- A circuit that has seen nothing yet. -/
def fresh (failThreshold halfOpenMaxProbes : Int) : ProbeRounds :=
  { circuit := { failThreshold := failThreshold, halfOpenMaxProbes := halfOpenMaxProbes } }

def acquire (rounds : ProbeRounds) (won : Bool) (circuit : CircuitBreaker) : ProbeRounds :=
  if won then
    { rounds with
      circuit := circuit, acquired := rounds.acquired + 1
      unreported := rounds.unreported.insert rounds.acquired rounds.round }
  else { rounds with circuit := circuit }

def report (rounds : ProbeRounds) (probe : Nat) (circuit : CircuitBreaker) : ProbeRounds :=
  { rounds with circuit := circuit, unreported := rounds.unreported.erase probe }

/-- Each call moves the circuit as the code does, and keeps track of the probes. -/
def perform : CircuitCall → ProbeRounds → Bool × ProbeRounds
  | .recordFailure, rounds =>
    (true, { rounds with circuit := rounds.circuit.recordFailure key })
  | .startHalfOpen, rounds =>
    (true, { rounds with
      circuit := rounds.circuit.startHalfOpen key, round := rounds.round + 1, succeeded := 0 })
  | .tryAcquireProbe, rounds =>
    let acquired := rounds.circuit.tryAcquireProbe key
    (acquired.1, rounds.acquire acquired.1 acquired.2)
  | .recordProbeSuccess probe neededToClose, rounds =>
    let reported := rounds.report probe (rounds.circuit.recordProbeSuccess key neededToClose)
    let own := rounds.unreported.lookup probe = some rounds.round
    (true, { reported with succeeded := rounds.succeeded + if own then 1 else 0 })
  | .recordProbeFailure probe, rounds =>
    (true, rounds.report probe (rounds.circuit.recordProbeFailure key))

end ProbeRounds

variable (rounds : ProbeRounds) (calls : List CircuitCall)

/-- Every outcome is that of a probe that was acquired and has not reported yet. -/
def ReportsOnce : Prop :=
  ∀ e ∈ trace (ProbeRounds.perform key) rounds calls, ∀ probe, e.call.probe? = some probe →
    (e.before.unreported.lookup probe).isSome

def StartsClear : Prop :=
  ∀ e ∈ trace (ProbeRounds.perform key) rounds calls, e.call = .startHalfOpen →
    e.before.unreported.size = 0

instance (rounds : ProbeRounds) (calls : List CircuitCall) :
    Decidable (ReportsOnce key rounds calls) :=
  inferInstanceAs (Decidable (∀ e ∈ trace (ProbeRounds.perform key) rounds calls,
    ∀ probe ∈ e.call.probe?, _))

instance (rounds : ProbeRounds) (calls : List CircuitCall) :
    Decidable (StartsClear key rounds calls) :=
  inferInstanceAs (Decidable (∀ e ∈ trace (ProbeRounds.perform key) rounds calls, _ → _))

/-- How many probes are out, and which successes have closed the circuit. -/
structure RoundsKept (rounds : ProbeRounds) (calls : List CircuitCall) : Prop where
  bounded : ∀ e ∈ trace (ProbeRounds.perform key) rounds calls,
    (e.after.unreported.size : Int) ≤ max 0 e.after.circuit.halfOpenMaxProbes
  closed : ∀ e ∈ trace (ProbeRounds.perform key) rounds calls,
    e.before.circuit.state key = .halfOpen → e.after.circuit.state key = .closed →
      ∃ probe neededToClose, e.call = .recordProbeSuccess probe neededToClose ∧
        neededToClose ≤ e.after.succeeded

end Model

section Circuit

variable (circuit : CircuitBreaker) (key : String)

theorem tryAcquireProbe_cases : circuit.tryAcquireProbe key = (false, circuit) ∨
      held circuit.probesInFlight key < circuit.halfOpenMaxProbes ∧
        circuit.tryAcquireProbe key = (true, { circuit with
          probesInFlight := circuit.probesInFlight.insert key
            (held circuit.probesInFlight key + 1) }) := by
  simp only [CircuitBreaker.tryAcquireProbe]
  by_cases other : circuit.state key ≠ .halfOpen
  · rw [if_pos other]
    exact .inl rfl
  · rw [if_neg other]
    by_cases full : circuit.halfOpenMaxProbes ≤ held circuit.probesInFlight key
    · rw [if_pos full]
      exact .inl rfl
    · rw [if_neg full]
      exact .inr ⟨not_le.mp full, rfl⟩

theorem recordFailure_probes : (circuit.recordFailure key).probesInFlight = circuit.probesInFlight ∧
      (circuit.recordFailure key).probeSuccesses = circuit.probeSuccesses ∧
      (circuit.recordFailure key).halfOpenMaxProbes = circuit.halfOpenMaxProbes ∧
      ((circuit.recordFailure key).state key = circuit.state key ∨
        (circuit.recordFailure key).state key = .open) := by
  simp only [CircuitBreaker.recordFailure]
  by_cases tripped : circuit.failThreshold ≤ held circuit.fails key + 1
  · rw [if_pos tripped]
    refine ⟨rfl, rfl, rfl, .inr ?_⟩
    simp [state]
  · rw [if_neg tripped]
    exact ⟨rfl, rfl, rfl, .inl rfl⟩

/-- A success: its slot is free again, and it counts where the circuit is half open. -/
theorem recordProbeSuccess_probes (neededToClose : Int) :
    held (circuit.recordProbeSuccess key neededToClose).probesInFlight key =
        max 0 (held circuit.probesInFlight key - 1) ∧
      (circuit.recordProbeSuccess key neededToClose).halfOpenMaxProbes = circuit.halfOpenMaxProbes ∧
      held (circuit.recordProbeSuccess key neededToClose).probeSuccesses key ≤
        held circuit.probeSuccesses key + 1 ∧ (circuit.state key = .halfOpen →
        (circuit.recordProbeSuccess key neededToClose).state key = .closed →
          neededToClose ≤ held circuit.probeSuccesses key + 1) := by
  simp only [CircuitBreaker.recordProbeSuccess]
  by_cases other : circuit.state key ≠ .halfOpen
  · rw [if_pos other]
    refine ⟨by simp [releaseProbe, held_insert], rfl, ?_, ?_⟩
    · simp only [releaseProbe]
      omega
    · intro halfOpen
      exact absurd halfOpen other
  · rw [if_neg other]
    by_cases enough : neededToClose ≤ held circuit.probeSuccesses key + 1
    · rw [if_pos enough]
      refine ⟨by simp [releaseProbe, held_insert], rfl, ?_, ?_⟩
      · simp [held_insert]
      · intro _ _
        exact enough
    · rw [if_neg enough]
      refine ⟨by simp [releaseProbe, held_insert], rfl, ?_, ?_⟩
      · simp [held_insert]
      · intro halfOpen closed
        have same : circuit.state key = .closed := closed
        rw [halfOpen] at same
        cases same

end Circuit

section Tracking

variable {key : String} {rounds : ProbeRounds}

/-- The counters of the circuit are those of the probes that are out. -/
structure Tracked (key : String) (rounds : ProbeRounds) : Prop where
  inFlight : held rounds.circuit.probesInFlight key = rounds.unreported.size
  bounded : (rounds.unreported.size : Int) ≤ max 0 rounds.circuit.halfOpenMaxProbes
  own : ∀ probe round, rounds.unreported.lookup probe = some round → round = rounds.round
  numbered : ∀ probe round, rounds.unreported.lookup probe = some round → probe < rounds.acquired
  counted : held rounds.circuit.probeSuccesses key ≤ rounds.succeeded

theorem fresh_tracked (failThreshold halfOpenMaxProbes : Int) :
    Tracked key (.fresh failThreshold halfOpenMaxProbes) := by
  constructor
  · rfl
  · exact le_max_left 0 halfOpenMaxProbes
  · intro probe round found
    cases found
  · intro probe round found
    cases found
  · exact le_refl 0

theorem Tracked.absent (tracked : Tracked key rounds) :
    rounds.unreported.lookup rounds.acquired = none := by
  cases found : rounds.unreported.lookup rounds.acquired with
  | none => rfl
  | some => exact absurd (tracked.numbered _ _ found) (lt_irrefl _)

theorem Tracked.acquire (tracked : Tracked key rounds) :
    Tracked key (ProbeRounds.perform key .tryAcquireProbe rounds).2 := by
  simp only [ProbeRounds.perform]
  rcases tryAcquireProbe_cases rounds.circuit key with
    same | ⟨_, same⟩
  · rw [same]
    exact tracked
  · rw [same]
    have grown := size_insert_of_absent rounds.unreported rounds.acquired rounds.round
      tracked.absent
    have inFlight := tracked.inFlight
    simp only [ProbeRounds.acquire, if_true]
    constructor
    · simp only [held_insert, if_true]
      omega
    · simp only [grown]
      omega
    · exact forall_insert rfl tracked.own
    · exact forall_insert (Nat.lt_succ_self _) fun probe round found =>
        Nat.lt_succ_of_lt (tracked.numbered probe round found)
    · exact tracked.counted

theorem Tracked.report {probe : Nat} {circuit : CircuitBreaker} {succeeded : Nat}
    (tracked : Tracked key rounds) (out : (rounds.unreported.lookup probe).isSome)
    (released : held circuit.probesInFlight key =
      max 0 (held rounds.circuit.probesInFlight key - 1))
    (limit : circuit.halfOpenMaxProbes = rounds.circuit.halfOpenMaxProbes)
    (counted : held circuit.probeSuccesses key ≤ succeeded) :
    Tracked key { rounds.report probe circuit with succeeded := succeeded } := by
  rcases Option.isSome_iff_exists.mp out with ⟨round, found⟩
  have shrunk := size_erase found
  have inFlight := tracked.inFlight
  have bounded := tracked.bounded
  have stays : ∀ other round, (rounds.unreported.erase probe).lookup other = some round →
      rounds.unreported.lookup other = some round := by
    intro other round found
    by_cases same : other = probe
    · rw [same, AList.lookup_erase] at found
      cases found
    · rw [AList.lookup_erase_ne same] at found
      exact found
  constructor
  · simp only [ProbeRounds.report]
    omega
  · simp only [ProbeRounds.report]
    omega
  · intro other round listed
    exact tracked.own other round (stays other round listed)
  · intro other round listed
    exact tracked.numbered other round (stays other round listed)
  · exact counted

/-- One call, where reports are of probes that are out and rounds start with none out. -/
theorem perform_tracked (call : CircuitCall) (tracked : Tracked key rounds)
    (out : ∀ probe, call.probe? = some probe → (rounds.unreported.lookup probe).isSome)
    (clear : call = .startHalfOpen → rounds.unreported.size = 0) :
    Tracked key (ProbeRounds.perform key call rounds).2 := by
  cases call with
  | recordFailure =>
    rcases recordFailure_probes rounds.circuit key with
      ⟨inFlight, successes, limit, _⟩
    constructor
    · simp [ProbeRounds.perform, inFlight, tracked.inFlight]
    · simp [ProbeRounds.perform, limit, tracked.bounded]
    · exact tracked.own
    · exact tracked.numbered
    · simp [ProbeRounds.perform, successes, tracked.counted]
  | startHalfOpen =>
    have none := clear rfl
    have empty : ∀ probe, rounds.unreported.lookup probe = .none := by
      intro probe
      cases found : rounds.unreported.lookup probe with
      | none => rfl
      | some =>
        have shrunk := size_erase found
        omega
    constructor
    · simp [ProbeRounds.perform, CircuitBreaker.startHalfOpen, held_insert, none]
    · exact tracked.bounded
    · intro probe round found
      cases (empty probe).symm.trans found
    · exact tracked.numbered
    · simp [ProbeRounds.perform, CircuitBreaker.startHalfOpen, held_insert]
  | tryAcquireProbe => exact tracked.acquire
  | recordProbeSuccess probe neededToClose =>
    have isOut := out probe rfl
    rcases recordProbeSuccess_probes rounds.circuit key neededToClose with
      ⟨released, limit, _, _⟩
    rcases Option.isSome_iff_exists.mp isOut with ⟨round, found⟩
    have own := tracked.own probe round found
    have counted := tracked.counted
    rw [own] at found
    apply tracked.report isOut released limit
    rw [if_pos found]
    omega
  | recordProbeFailure probe =>
    refine tracked.report (out probe rfl) ?_ rfl tracked.counted
    simp [releaseProbe, held_insert]

open ProbeRounds in
theorem perform_closes (call : CircuitCall) (tracked : Tracked key rounds)
    (out : ∀ probe, call.probe? = some probe → (rounds.unreported.lookup probe).isSome)
    (before : rounds.circuit.state key = .halfOpen)
    (after : (perform key call rounds).2.circuit.state key = .closed) :
    ∃ probe neededToClose, call = .recordProbeSuccess probe neededToClose ∧
      neededToClose ≤ (perform key call rounds).2.succeeded := by
  cases call with
  | recordFailure =>
    rcases recordFailure_probes rounds.circuit key with
      ⟨_, _, _, same | opened⟩
    · have closed := same.symm.trans after
      rw [before] at closed
      cases closed
    · cases opened.symm.trans after
  | startHalfOpen =>
    simp only [perform, CircuitBreaker.startHalfOpen, state, AList.lookup_insert] at after
    cases after
  | tryAcquireProbe =>
    simp only [perform] at after
    rcases tryAcquireProbe_cases rounds.circuit key with
      same | ⟨_, same⟩
    · rw [same] at after
      cases before.symm.trans after
    · rw [same] at after
      cases before.symm.trans after
  | recordProbeSuccess probe neededToClose =>
    have enough := (recordProbeSuccess_probes rounds.circuit key neededToClose).2.2.2 before
      after
    rcases Option.isSome_iff_exists.mp (out probe rfl) with ⟨round, found⟩
    have own := tracked.own probe round found
    have counted := tracked.counted
    rw [own] at found
    refine ⟨probe, neededToClose, rfl, ?_⟩
    simp only [perform, if_pos found]
    omega
  | recordProbeFailure =>
    simp only [perform, report, CircuitBreaker.recordProbeFailure,
      state, AList.lookup_insert] at after
    cases after

/-- Where every round starts with no probe out, the probes stay within their bound, and the
circuit closes on successes of its own round only. -/
theorem probe_rounds (key : String) (failThreshold halfOpenMaxProbes : Int)
    (calls : List CircuitCall)
    (once : ReportsOnce key (.fresh failThreshold halfOpenMaxProbes) calls)
    (clear : StartsClear key (.fresh failThreshold halfOpenMaxProbes) calls) :
    RoundsKept key (.fresh failThreshold halfOpenMaxProbes) calls := by
  have tracked : ∀ e ∈ trace (ProbeRounds.perform key) (.fresh failThreshold halfOpenMaxProbes)
      calls, Tracked key e.before ∧ Tracked key e.after := by
    apply kept_trace (ProbeRounds.perform key) (Tracked key)
    · intro e member tracked
      rw [(mem_trace_performed member).2]
      exact perform_tracked e.call tracked (once e member) (clear e member)
    · exact fresh_tracked failThreshold halfOpenMaxProbes
  constructor
  · intro e member
    exact (tracked e member).2.bounded
  · intro e member before after
    rw [(mem_trace_performed member).2] at after ⊢
    exact perform_closes e.call (tracked e member).1 (once e member) before after

end Tracking

namespace Sample

/-- Two probes of the first round, one of which fails, and two more of the second. -/
def lateProbe : List CircuitCall :=
  [.startHalfOpen, .tryAcquireProbe, .tryAcquireProbe, .recordProbeFailure 0, .startHalfOpen,
    .tryAcquireProbe, .tryAcquireProbe]

theorem three_probes_out : ReportsOnce "circuit" (.fresh 5 2) lateProbe ∧
      ¬ RoundsKept "circuit" (.fresh 5 2) lateProbe := by
  constructor
  · decide +kernel
  · intro kept
    have bounded := kept.bounded _ (event_mem_trace (ProbeRounds.perform "circuit") (.fresh 5 2)
      (lateProbe.take 6) [] .tryAcquireProbe)
    exact absurd bounded (by decide +kernel)

/-- One round: two successes close the circuit. -/
theorem probe_rounds_recovered :
    RoundsKept "circuit" (.fresh 5 2) [.startHalfOpen, .tryAcquireProbe, .tryAcquireProbe,
      .recordProbeSuccess 1 2, .recordProbeSuccess 0 2] :=
  probe_rounds "circuit" 5 2 _ (by decide +kernel) (by decide +kernel)

end Sample

end BackendHandbook.Provider
