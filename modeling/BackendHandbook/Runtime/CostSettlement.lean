import BackendHandbook.Foundation.Run
import BackendHandbook.Foundation.Shares

/-! The cost settlement store: what the settlements of one reservation add up to. -/

namespace BackendHandbook.Runtime

open Run

inductive CostSettlementStatus
  | requested | pendingReconciliation | settled
  deriving DecidableEq

structure CostSettlementRecord where
  (settlementId jobId attemptId reservationId : String)
  reservedUnits : Int
  status : CostSettlementStatus
  actualUsageUnits : Option Int := none
  releasedUnits : Option Int := none

inductive CostSettlementError
  | negativeReservation | identityRebound | usageImmutable | usageOutsideReservation
  | unknownKey (key : String)

def CostSettlementError.text : CostSettlementError → String
  | .negativeReservation => "negative reservation"
  | .identityRebound => "settlement identity rebound"
  | .usageImmutable => "settled usage is immutable"
  | .usageOutsideReservation => "usage outside reservation"
  | .unknownKey key => key

structure InMemoryCostSettlementStore where
  records : Dict String CostSettlementRecord := ∅

inductive CostSettlementCall
  | request (settlementId jobId attemptId reservationId : String) (reservedUnits : Int)
  | markUnknown (settlementId : String)
  | settle (settlementId : String) (actualUsageUnits : Int)

abbrev CostSettlementAnswer := Except CostSettlementError CostSettlementRecord

namespace InMemoryCostSettlementStore

variable (store : InMemoryCostSettlementStore)

def put (settlementId : String) (record : CostSettlementRecord) : InMemoryCostSettlementStore :=
  { store with records := store.records.insert settlementId record }

def request (settlementId jobId attemptId reservationId : String) (reservedUnits : Int) :
    CostSettlementAnswer × InMemoryCostSettlementStore :=
  if reservedUnits < 0 then (.error .negativeReservation, store)
  else
    let proposed : CostSettlementRecord :=
      ⟨settlementId, jobId, attemptId, reservationId, reservedUnits, .requested, none, none⟩
    match store.records.lookup settlementId with
    | some existing =>
      if (existing.jobId, existing.attemptId, existing.reservationId, existing.reservedUnits) ≠
          (jobId, attemptId, reservationId, reservedUnits) then
        (.error .identityRebound, store)
      else (.ok existing, store)
    | none =>
      (.ok proposed, store.put settlementId proposed)

def markUnknown (settlementId : String) : CostSettlementAnswer × InMemoryCostSettlementStore :=
  match store.records.lookup settlementId with
  | none => (.error (.unknownKey settlementId), store)
  | some current =>
    if current.status = .settled then (.ok current, store)
    else
      let updated := { current with status := .pendingReconciliation }
      (.ok updated, store.put settlementId updated)

def settle (settlementId : String) (actualUsageUnits : Int) :
    CostSettlementAnswer × InMemoryCostSettlementStore :=
  match store.records.lookup settlementId with
  | none => (.error (.unknownKey settlementId), store)
  | some current =>
    if current.status = .settled then
      if current.actualUsageUnits ≠ some actualUsageUnits then (.error .usageImmutable, store)
      else (.ok current, store)
    else if ¬ (0 ≤ actualUsageUnits ∧ actualUsageUnits ≤ current.reservedUnits) then
      (.error .usageOutsideReservation, store)
    else
      let updated :=
        { current with
            status := .settled, actualUsageUnits := some actualUsageUnits
            releasedUnits := some (current.reservedUnits - actualUsageUnits) }
      (.ok updated, store.put settlementId updated)

def perform (call : CostSettlementCall) (store : InMemoryCostSettlementStore) :
    CostSettlementAnswer × InMemoryCostSettlementStore :=
  match call with
  | .request settlementId jobId attemptId reservationId reservedUnits =>
    store.request settlementId jobId attemptId reservationId reservedUnits
  | .markUnknown settlementId => store.markUnknown settlementId
  | .settle settlementId actualUsageUnits => store.settle settlementId actualUsageUnits

end InMemoryCostSettlementStore

abbrev CostSettlementEvent :=
  Event InMemoryCostSettlementStore CostSettlementCall fun _ => CostSettlementAnswer

def costSettlementTrace (calls : List CostSettlementCall) : List CostSettlementEvent :=
  trace InMemoryCostSettlementStore.perform {} calls

def costSettlementsAfter (calls : List CostSettlementCall) : InMemoryCostSettlementStore :=
  final InMemoryCostSettlementStore.perform {} calls

section Model

/-- The units that a record accounts for under a reservation: what it used and released. -/
def CostSettlementRecord.settledUnits (reservationId : String) (record : CostSettlementRecord) :
    Int :=
  if record.reservationId = reservationId ∧ record.status = .settled then
    record.actualUsageUnits.getD 0 + record.releasedUnits.getD 0
  else 0

def InMemoryCostSettlementStore.settledUnits (store : InMemoryCostSettlementStore)
    (reservationId : String) : Int :=
  store.records.total (CostSettlementRecord.settledUnits reservationId)

def WithinReservation (store : InMemoryCostSettlementStore) : Prop :=
  ∀ settlementId record, store.records.lookup settlementId = some record →
    store.settledUnits record.reservationId ≤ record.reservedUnits

/-- A cost reservation is settled within its bound, in every state of the run. -/
structure SettledWithinBound (calls : List CostSettlementCall) : Prop where
  permanent : ∀ front back settlementId record, calls = front ++ back →
    (costSettlementsAfter front).records.lookup settlementId = some record →
      record.status = .settled →
        (costSettlementsAfter calls).records.lookup settlementId = some record
  balanced : ∀ front back settlementId record, calls = front ++ back →
    (costSettlementsAfter front).records.lookup settlementId = some record →
      record.status = .settled → ∃ actual released, record.actualUsageUnits = some actual ∧
        record.releasedUnits = some released ∧ actual + released = record.reservedUnits
  refused : ∀ e ∈ costSettlementTrace calls, ∀ raised, e.response = .error raised →
    e.after = e.before
  bounded : ∀ front back, calls = front ++ back → WithinReservation (costSettlementsAfter front)

/-- A call reserves less for a reservation than is settled under it, or settles it beside
another settlement that has units settled or reserves less. -/
def ReusesReservation (store : InMemoryCostSettlementStore) : CostSettlementCall → Prop
  | .request settlementId _ _ reservationId reservedUnits =>
    0 ≤ reservedUnits ∧ store.records.lookup settlementId = none ∧
      ∃ other second, store.records.lookup other = some second ∧
        second.reservationId = reservationId ∧ second.status = .settled ∧
          reservedUnits < second.reservedUnits
  | .markUnknown _ => False
  | .settle settlementId actualUsageUnits =>
    ∃ record other second, store.records.lookup settlementId = some record ∧
      record.status ≠ .settled ∧ 0 ≤ actualUsageUnits ∧
      actualUsageUnits ≤ record.reservedUnits ∧ store.records.lookup other = some second ∧
      second.reservationId = record.reservationId ∧
      (second.status = .settled ∧ 0 < second.reservedUnits ∨
        second.reservedUnits < record.reservedUnits)

end Model

section Steps

variable {store : InMemoryCostSettlementStore}

inductive CostSettlementStep (store : InMemoryCostSettlementStore) :
    CostSettlementCall → CostSettlementAnswer × InMemoryCostSettlementStore → Prop
  | unchanged {call : CostSettlementCall} (answer : CostSettlementAnswer)
      (unused : ¬ ReusesReservation store call) : CostSettlementStep store call (answer, store)
  | opened (settlementId jobId attemptId reservationId : String) (reservedUnits : Int)
      (reserves : 0 ≤ reservedUnits) (absent : store.records.lookup settlementId = none)
      (record : CostSettlementRecord)
      (proposed : record = ⟨settlementId, jobId, attemptId, reservationId, reservedUnits,
        .requested, none, none⟩) :
      CostSettlementStep store
        (.request settlementId jobId attemptId reservationId reservedUnits)
        (.ok record, store.put settlementId record)
  | marked (settlementId : String) (current record : CostSettlementRecord)
      (found : store.records.lookup settlementId = some current)
      (unsettled : current.status ≠ .settled)
      (updated : record = { current with status := .pendingReconciliation }) :
      CostSettlementStep store (.markUnknown settlementId)
        (.ok record, store.put settlementId record)
  | settled (settlementId : String) (usage : Int) (current record : CostSettlementRecord)
      (found : store.records.lookup settlementId = some current)
      (unsettled : current.status ≠ .settled)
      (within : 0 ≤ usage ∧ usage ≤ current.reservedUnits)
      (updated : record = { current with
        status := .settled, actualUsageUnits := some usage
        releasedUnits := some (current.reservedUnits - usage) }) :
      CostSettlementStep store (.settle settlementId usage)
        (.ok record, store.put settlementId record)

theorem request_step (settlementId jobId attemptId reservationId : String) (reservedUnits : Int) :
    CostSettlementStep store (.request settlementId jobId attemptId reservationId reservedUnits)
      (store.request settlementId jobId attemptId reservationId reservedUnits) := by
  unfold InMemoryCostSettlementStore.request
  by_cases negative : reservedUnits < 0
  · rw [if_pos negative]
    refine .unchanged _ fun reuses => ?_
    have reserves : 0 ≤ reservedUnits := reuses.1
    omega
  · rw [if_neg negative]
    cases found : store.records.lookup settlementId with
    | none =>
      exact .opened settlementId jobId attemptId reservationId reservedUnits (by omega) found _ rfl
    | some =>
      have unused : ¬ ReusesReservation store
          (.request settlementId jobId attemptId reservationId reservedUnits) := by
        intro reuses
        have absent : store.records.lookup settlementId = none := reuses.2.1
        rw [found] at absent
        cases absent
      dsimp only
      split
      · exact .unchanged _ unused
      · exact .unchanged _ unused

theorem markUnknown_step (settlementId : String) :
    CostSettlementStep store (.markUnknown settlementId) (store.markUnknown settlementId) := by
  unfold InMemoryCostSettlementStore.markUnknown
  cases found : store.records.lookup settlementId with
  | none => exact .unchanged _ id
  | some current =>
    dsimp only
    by_cases settled : current.status = .settled
    · rw [if_pos settled]
      exact .unchanged _ id
    · rw [if_neg settled]
      exact .marked settlementId current _ found settled rfl

theorem settle_step (settlementId : String) (usage : Int) :
    CostSettlementStep store (.settle settlementId usage) (store.settle settlementId usage) := by
  unfold InMemoryCostSettlementStore.settle
  cases found : store.records.lookup settlementId with
  | none =>
    refine .unchanged _ ?_
    rintro ⟨record, _, _, present, _⟩
    rw [found] at present
    cases present
  | some current =>
    dsimp only
    by_cases settled : current.status = .settled
    · have unused : ¬ ReusesReservation store (.settle settlementId usage) := by
        rintro ⟨record, _, _, present, unsettled, _⟩
        rw [found] at present
        cases present
        exact unsettled settled
      rw [if_pos settled]
      split
      · exact .unchanged _ unused
      · exact .unchanged _ unused
    · rw [if_neg settled]
      by_cases within : 0 ≤ usage ∧ usage ≤ current.reservedUnits
      · rw [if_neg (not_not.mpr within)]
        exact .settled settlementId usage current _ found settled within rfl
      · rw [if_pos within]
        refine .unchanged _ ?_
        rintro ⟨_, _, _, present, _, low, high, _⟩
        rw [found] at present
        cases present
        exact within ⟨low, high⟩

theorem perform_costSettlementStep (call : CostSettlementCall) :
    CostSettlementStep store call (InMemoryCostSettlementStore.perform call store) := by
  cases call with
  | request => exact request_step _ _ _ _ _
  | markUnknown => exact markUnknown_step _
  | settle => exact settle_step _ _

theorem CostSettlementStep.refused {call : CostSettlementCall} {raised : CostSettlementError}
    {after : InMemoryCostSettlementStore}
    (step : CostSettlementStep store call (.error raised, after)) : after = store := by
  cases step with
  | unchanged => rfl

theorem lookup_costPut (settlementId other : String) (record : CostSettlementRecord) :
    (store.put settlementId record).records.lookup other =
      if other = settlementId then some record else store.records.lookup other :=
  Dict.lookup_insert_eq store.records settlementId other record

end Steps

section Accounting

variable {store : InMemoryCostSettlementStore}

/-- Every record reserves no negative amount, and splits it between use and release once it
is settled. -/
def Balanced (store : InMemoryCostSettlementStore) : Prop :=
  ∀ settlementId record, store.records.lookup settlementId = some record →
    0 ≤ record.reservedUnits ∧ (record.status = .settled →
      ∃ actual released, record.actualUsageUnits = some actual ∧
        record.releasedUnits = some released ∧ actual + released = record.reservedUnits)

theorem Balanced.step {call : CostSettlementCall} {answer : CostSettlementAnswer}
    {after : InMemoryCostSettlementStore} (step : CostSettlementStep store call (answer, after))
    (balanced : Balanced store) : Balanced after := by
  cases step with
  | unchanged => exact balanced
  | opened _ _ _ _ _ reserves _ _ proposed =>
    intro other stored found
    rw [lookup_costPut] at found
    split at found
    · cases found
      rw [proposed]
      exact ⟨reserves, fun settled => by cases settled⟩
    · exact balanced other stored found
  | marked settlementId current _ present _ updated =>
    intro other stored found
    rw [lookup_costPut] at found
    split at found
    · cases found
      rw [updated]
      exact ⟨(balanced settlementId current present).1, fun settled => by cases settled⟩
    · exact balanced other stored found
  | settled settlementId usage current _ present _ _ updated =>
    intro other stored found
    rw [lookup_costPut] at found
    split at found
    · cases found
      rw [updated]
      refine ⟨(balanced settlementId current present).1, fun _ => ?_⟩
      exact ⟨usage, current.reservedUnits - usage, rfl, rfl, by dsimp only; omega⟩
    · exact balanced other stored found

variable {settlementId reservationId : String} {record old : CostSettlementRecord}

theorem units_of_unsettled (unsettled : record.status ≠ .settled) :
    record.settledUnits reservationId = 0 :=
  if_neg fun held => unsettled held.2

section

variable (balanced : Balanced store) (found : store.records.lookup settlementId = some record)
include balanced found

theorem Balanced.units_of_settled (settled : record.status = .settled) :
    record.settledUnits record.reservationId = record.reservedUnits := by
  rcases (balanced settlementId record found).2 settled with ⟨_, _, used, freed, sum⟩
  rw [CostSettlementRecord.settledUnits, if_pos ⟨rfl, settled⟩, used, freed]
  exact sum

theorem Balanced.units_nonneg : 0 ≤ record.settledUnits reservationId := by
  by_cases held : record.reservationId = reservationId ∧ record.status = .settled
  · rw [← held.1, balanced.units_of_settled found held.2]
    exact (balanced settlementId record found).1
  · rw [CostSettlementRecord.settledUnits, if_neg held]

theorem Balanced.reserved_le (settled : record.status = .settled) :
    record.reservedUnits ≤ store.settledUnits record.reservationId := by
  have nonneg : ∀ stored ∈ store.records.values, 0 ≤ stored.settledUnits record.reservationId := by
    intro stored member
    rcases Dict.mem_values.mp member with ⟨_, present⟩
    exact balanced.units_nonneg present
  have counted := Dict.le_total nonneg found
  rw [balanced.units_of_settled found settled] at counted
  exact counted

end

theorem Balanced.nothing_settled (balanced : Balanced store)
    (spent : ∀ other second, store.records.lookup other = some second →
      second.reservationId = reservationId → second.status = .settled → second.reservedUnits ≤ 0) :
    store.settledUnits reservationId = 0 := by
  apply Dict.total_eq_zero
  intro stored member
  rcases Dict.mem_values.mp member with ⟨key, present⟩
  by_cases held : stored.reservationId = reservationId ∧ stored.status = .settled
  · have units := balanced.units_of_settled present held.2
    have none := spent key stored present held.1 held.2
    have some := (balanced key stored present).1
    rw [← held.1]
    omega
  · exact if_neg held

theorem settledUnits_put_of_absent (record : CostSettlementRecord) (reservationId : String)
    (absent : store.records.lookup settlementId = none) :
    (store.put settlementId record).settledUnits reservationId =
      record.settledUnits reservationId + store.settledUnits reservationId :=
  Dict.total_insert_of_absent _ store.records settlementId record absent

theorem settledUnits_put_of_present (record : CostSettlementRecord) (reservationId : String)
    (found : store.records.lookup settlementId = some old) :
    (store.put settlementId record).settledUnits reservationId + old.settledUnits reservationId =
      record.settledUnits reservationId + store.settledUnits reservationId :=
  Dict.total_insert_of_present _ store.records settlementId record old found

theorem settledUnits_unsettled (unsettled : record.status ≠ .settled)
    (fresh : ∀ current, store.records.lookup settlementId = some current →
      current.status ≠ .settled) : (store.put settlementId record).settledUnits reservationId =
      store.settledUnits reservationId := by
  have none : record.settledUnits reservationId = 0 := units_of_unsettled unsettled
  cases found : store.records.lookup settlementId with
  | none =>
    have added := settledUnits_put_of_absent record reservationId found
    omega
  | some current =>
    have before : current.settledUnits reservationId = 0 := units_of_unsettled (fresh current found)
    have exchanged := settledUnits_put_of_present record reservationId found
    omega

variable {jobId attemptId : String} {usage : Int} {current : CostSettlementRecord}

theorem within_opened_iff (record : CostSettlementRecord) (within : WithinReservation store)
    (balanced : Balanced store) (reserves : 0 ≤ record.reservedUnits)
    (absent : store.records.lookup settlementId = none) (unsettled : record.status ≠ .settled) :
    WithinReservation (store.put settlementId record) ↔
      ¬ ∃ other second, store.records.lookup other = some second ∧
        second.reservationId = record.reservationId ∧ second.status = .settled ∧
          record.reservedUnits < second.reservedUnits := by
  have same : ∀ reservationId, (store.put settlementId record).settledUnits reservationId =
      store.settledUnits reservationId := fun reservationId =>
    settledUnits_unsettled unsettled fun stored found => by rw [absent] at found; cases found
  constructor
  · rintro after ⟨other, second, found, shared, settled, less⟩
    have bound := after settlementId record (by rw [lookup_costPut, if_pos rfl])
    have counted := balanced.reserved_le found settled
    rw [same, ← shared] at bound
    omega
  · intro unused other stored found
    rw [same]
    rw [lookup_costPut] at found
    split at found
    · cases found
      by_cases spent : ∃ other second, store.records.lookup other = some second ∧
          second.reservationId = record.reservationId ∧ second.status = .settled
      · rcases spent with ⟨other, second, present, shared, settled⟩
        have bound := within other second present
        have enough : second.reservedUnits ≤ record.reservedUnits := by
          by_contra less
          exact unused ⟨other, second, present, shared, settled, by omega⟩
        rw [shared] at bound
        omega
      · rw [balanced.nothing_settled fun other second present shared settled =>
          absurd ⟨other, second, present, shared, settled⟩ spent]
        exact reserves
    · exact within other stored found

theorem within_marked (within : WithinReservation store)
    (found : store.records.lookup settlementId = some current)
    (unsettled : current.status ≠ .settled)
    (updated : record = { current with status := .pendingReconciliation }) :
    WithinReservation (store.put settlementId record) := by
  have same : ∀ reservationId, (store.put settlementId record).settledUnits reservationId =
      store.settledUnits reservationId := by
    intro reservationId
    apply settledUnits_unsettled
    · rw [updated]
      intro settled
      cases settled
    · intro stored present
      rw [found] at present
      cases present
      exact unsettled
  intro other stored present
  rw [same]
  rw [lookup_costPut] at present
  split at present
  · cases present
    rw [updated]
    exact within settlementId current found
  · exact within other stored present

/-- Settling keeps the bound just when the reservation has no units settled, and no
settlement that reserves less. -/
theorem within_settled_iff (within : WithinReservation store) (balanced : Balanced store)
    (found : store.records.lookup settlementId = some current)
    (unsettled : current.status ≠ .settled)
    (settles : CostSettlementStep store (.settle settlementId usage)
      (.ok record, store.put settlementId record)) (updated : record = { current with
      status := .settled, actualUsageUnits := some usage
      releasedUnits := some (current.reservedUnits - usage) }) :
    WithinReservation (store.put settlementId record) ↔
      ¬ ∃ other second, store.records.lookup other = some second ∧
        second.reservationId = current.reservationId ∧
          (second.status = .settled ∧ 0 < second.reservedUnits ∨
            second.reservedUnits < current.reservedUnits) := by
  have after := balanced.step settles
  have stored : (store.put settlementId record).records.lookup settlementId = some record := by
    rw [lookup_costPut, if_pos rfl]
  have shared : record.reservationId = current.reservationId := by rw [updated]
  have reserved : record.reservedUnits = current.reservedUnits := by rw [updated]
  have settled : record.status = .settled := by rw [updated]
  have units : record.settledUnits current.reservationId = current.reservedUnits := by
    have own := after.units_of_settled stored settled
    rw [shared, reserved] at own
    exact own
  have exchanged := settledUnits_put_of_present record current.reservationId found
  rw [units_of_unsettled unsettled] at exchanged
  have low := after.reserved_le stored settled
  rw [shared] at low
  constructor
  · rintro bounded ⟨other, second, present, same, taken⟩
    have own := bounded settlementId record stored
    rw [shared] at own
    rcases taken with ⟨spent, positive⟩ | less
    · have counted := balanced.reserved_le present spent
      rw [same] at counted
      omega
    · have different : other ≠ settlementId := by
        intro equal
        rw [equal, found] at present
        cases present
        omega
      have bound := bounded other second (by rw [lookup_costPut, if_neg different]; exact present)
      rw [same] at bound
      omega
  · intro unused other second present
    have nothing : store.settledUnits current.reservationId = 0 := by
      apply balanced.nothing_settled
      intro key taken listed same spent
      by_contra positive
      exact unused ⟨key, taken, listed, same, .inl ⟨spent, by omega⟩⟩
    rw [lookup_costPut] at present
    split at present
    · cases present
      rw [shared]
      omega
    · by_cases same : second.reservationId = current.reservationId
      · have enough : current.reservedUnits ≤ second.reservedUnits := by
          by_contra less
          exact unused ⟨other, second, present, same, .inr (by omega)⟩
        rw [same]
        omega
      · have elsewhere : record.settledUnits second.reservationId = 0 :=
          if_neg fun held => same (held.1.symm.trans shared)
        have kept := settledUnits_put_of_present record second.reservationId found
        rw [units_of_unsettled unsettled] at kept
        have bound := within other second present
        omega

variable {call : CostSettlementCall} {answer : CostSettlementAnswer}
  {after : InMemoryCostSettlementStore}

theorem within_iff (step : CostSettlementStep store call (answer, after))
    (balanced : Balanced store) (within : WithinReservation store) :
    WithinReservation after ↔ ¬ ReusesReservation store call := by
  cases step with
  | unchanged _ unused => exact ⟨fun _ => unused, fun _ => within⟩
  | opened _ _ _ _ _ reserves absent record proposed =>
    have opened := within_opened_iff record within balanced
      (by rw [proposed]; exact reserves) absent (by rw [proposed]; intro settled; cases settled)
    rw [opened, proposed]
    exact not_congr ⟨fun reuses => ⟨reserves, absent, reuses⟩, fun reuses => reuses.2.2⟩
  | marked _ _ _ found unsettled updated =>
    exact ⟨fun _ => id, fun _ => within_marked within found unsettled updated⟩
  | settled settlementId usage current record found unsettled bounds updated =>
    have settles := CostSettlementStep.settled settlementId usage current record found unsettled
      bounds updated
    rw [within_settled_iff within balanced found unsettled settles updated]
    apply not_congr
    constructor
    · rintro ⟨other, second, present, same, taken⟩
      exact ⟨current, other, second, found, unsettled, bounds.1, bounds.2, present, same, taken⟩
    · rintro ⟨_, other, second, here, _, _, _, present, same, taken⟩
      rw [found] at here
      cases here
      exact ⟨other, second, present, same, taken⟩

/-- A settled record stays as it is. -/
theorem CostSettlementStep.settled_kept (step : CostSettlementStep store call (answer, after))
    (found : store.records.lookup settlementId = some record) (settled : record.status = .settled) :
    after.records.lookup settlementId = some record := by
  have elsewhere : ∀ written updated, (∀ stored, store.records.lookup written = some stored →
      stored.status ≠ .settled) →
      (store.put written updated).records.lookup settlementId = some record := by
    intro written updated unsettled
    have different : settlementId ≠ written := by
      intro same
      rw [same] at found
      exact unsettled record found settled
    rw [lookup_costPut, if_neg different]
    exact found
  cases step with
  | unchanged => exact found
  | opened _ _ _ _ _ _ absent =>
    apply elsewhere
    intro stored present
    rw [absent] at present
    cases present
  | marked written current updated present unsettled
  | settled written usage current updated present unsettled =>
    apply elsewhere
    intro stored listed
    rw [present] at listed
    cases listed
    exact unsettled

end Accounting

section Runs

variable (calls : List CostSettlementCall)

variable {e : CostSettlementEvent}

theorem costSettlementEvent_step (member : e ∈ costSettlementTrace calls) :
    CostSettlementStep e.before e.call (e.response, e.after) := by
  rcases mem_trace_performed member with ⟨answered, moved⟩
  rw [answered, moved]
  exact perform_costSettlementStep e.call

theorem balanced_after : Balanced (costSettlementsAfter calls) := by
  apply kept_final InMemoryCostSettlementStore.perform Balanced {} calls
  · intro e member balanced
    exact balanced.step (costSettlementEvent_step calls member)
  · intro settlementId record found
    cases found

theorem balanced_before (member : e ∈ costSettlementTrace calls) : Balanced e.before := by
  rcases mem_trace_split _ _ calls e member with ⟨front, _, _, same⟩
  have before : e.before = costSettlementsAfter front := congrArg Event.before same
  rw [before]
  exact balanced_after front

/-- A run settles its reservations within their bounds just when none of its calls uses a
reservation that has units settled under it a second time. -/
theorem settled_within_bound_iff : SettledWithinBound calls ↔
    ∀ e ∈ costSettlementTrace calls, ¬ ReusesReservation e.before e.call := by
  have exact := throughout_iff InMemoryCostSettlementStore.perform WithinReservation
    (fun e => ReusesReservation e.before e.call) {} calls
    (fun settlementId record found => by cases found)
    (fun e member within => within_iff (costSettlementEvent_step calls member)
      (balanced_before calls member) within)
  constructor
  · intro law
    exact exact.mp law.bounded
  · intro unused
    constructor
    · intro front back settlementId record split found settled
      rw [costSettlementsAfter, split, final_append]
      apply kept_final InMemoryCostSettlementStore.perform
        (fun store => store.records.lookup settlementId = some record) _ back _ found
      intro e member before
      have inside : e ∈ costSettlementTrace calls := by
        rw [costSettlementTrace, split, trace_append]
        exact List.mem_append_right _ member
      exact (costSettlementEvent_step calls inside).settled_kept before settled
    · intro front back settlementId record split found settled
      exact (balanced_after front settlementId record found).2 settled
    · intro e member raised failed
      have step := costSettlementEvent_step calls member
      rw [failed] at step
      exact step.refused
    · exact exact.mpr unused

end Runs

namespace Sample

/-- Two settlements of one reservation of ten units, both settled. -/
def settledTwice : List CostSettlementCall :=
  [.request "S1" "J1" "A1" "R1" 10, .request "S2" "J1" "A1" "R1" 10, .settle "S1" 6, .settle "S2" 6]

theorem reservation_settled_twice : ¬ SettledWithinBound settledTwice := by
  intro law
  have bound := law.bounded settledTwice [] rfl "S1" _ (by rfl)
  exact absurd bound (by decide +kernel)

end Sample

end BackendHandbook.Runtime
