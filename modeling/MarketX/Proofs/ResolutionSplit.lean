/-
Module: MarketX.Proofs.ResolutionSplit
Purpose: Whether the two amounts an escrow row records are what was paid, and
  when a resolved dispute divides the escrow as the resolution type says.
Trusted boundary: none
Main exports: SettlementRecorded, settlement_recorded, Resolves, resolution_splits_iff
-/
import MarketX.Proofs.DisputeFreeze

namespace MarketX.Settlement

open Effects

/-! ### The property and the condition -/

def isSettled : EscrowStatus → Bool
  | .released | .partiallyReleased | .refunded => true
  | _ => false

/-- A settled row records what each party was paid, and the two amounts make
up the whole. -/
structure Records (ledger : List Transaction) (escrow : EscrowEntity) :
    Prop where
  released :
    escrow.releasedAmount = paidTo escrow escrow.sellerPublicKey ledger
  refunded :
    escrow.refundedAmount = paidTo escrow escrow.buyerPublicKey ledger
  whole : escrow.releasedAmount + escrow.refundedAmount = escrow.amount

def SettlementRecorded (world : World) : Prop := ∀ id escrow, world.escrows.row id = some escrow →
    isSettled escrow.status = true → Records world.ledger escrow

/-- The call returns, or it fails without having submitted anything. -/
def AllOrNothing (world : World) (invocation : Invocation) : Prop :=
  (handler.exec invocation.call.program invocation.faults world).1.isOk = true ∨
    (invoke world invocation).ledger = world.ledger

instance (world : World) (invocation : Invocation) :
    Decidable (AllOrNothing world invocation) := inferInstanceAs (Decidable (_ ∨ _))

/-- The payouts that record both shares of what they pay: not
`releaseFunds` and `adminReleaseFunds`, which record neither, nor a
`refundBuyer` of a partly released escrow, which overwrites both. -/
def EscrowCall.recordsBoth (escrow : EscrowEntity) : EscrowCall → Bool
  | .releaseFunds _ | .adminReleaseFunds _ _ => false
  | .refundBuyer _ => escrow.status ≠ .partiallyReleased
  | _ => true

/-- A payout call that passes its checks is one of these. -/
def RecordsBothShares (world : World) (invocation : Invocation) : Prop :=
  ∀ plan ∈ invocation.call.plan? world, invocation.call.recordsBoth plan.1 = true

instance (world : World) (invocation : Invocation) :
    Decidable (RecordsBothShares world invocation) := inferInstanceAs (Decidable (∀ plan ∈ _, _))

/-! ### The invariant -/

/-- A settled row records its payouts; any other row has had none. -/
structure Accounted (ledger : List Transaction) (escrow : EscrowEntity) :
    Prop where
  records : isSettled escrow.status = true → Records ledger escrow
  unpaid : isSettled escrow.status = false → Unpaid escrow ledger

def AllAccounted (world : World) : Prop :=
  WellFormed world ∧ ∀ id escrow, world.escrows.row id = some escrow → Accounted world.ledger escrow

variable {escrow row : EscrowEntity} {party : PublicKey} {ledger sent : List Transaction}
  {result : Except HttpException EscrowResponseDto} {call : EscrowCall} {payout : Payout}

theorem paidTo_append (ledger sent : List Transaction) :
    paidTo escrow party (ledger ++ sent) = paidTo escrow party ledger + paidTo escrow party sent :=
  total_append _ _ ledger sent

theorem Records.frame (records : Records ledger escrow)
    (unrelated : Unpaid escrow sent) : Records (ledger ++ sent) escrow where
  released := by
    rw [paidTo_append, paidTo_unrelated (.inl rfl) unrelated, add_zero]
    exact records.released
  refunded := by
    rw [paidTo_append, paidTo_unrelated (.inr rfl) unrelated, add_zero]
    exact records.refunded
  whole := records.whole

theorem Accounted.frame (accounted : Accounted ledger escrow) (unrelated : Unpaid escrow sent) :
    Accounted (ledger ++ sent) escrow where
  records settled := (accounted.records settled).frame unrelated
  unpaid unsettled := (accounted.unpaid unsettled).append unrelated

theorem Accounted.of_settled (settled : isSettled row.status = true)
    (records : Records ledger row) : Accounted ledger row where
  records _ := records
  unpaid unsettled := by
    rw [settled] at unsettled
    cases unsettled

/-- A row that stays unsettled, on its terms, stays unpaid if nothing is
submitted. -/
theorem Accounted.of_unsettled (unsettled : isSettled row.status = false)
    (unpaid : Unpaid row ledger) : Accounted ledger row where
  records settled := by
    rw [unsettled] at settled
    cases settled
  unpaid _ := unpaid

theorem Accounted.opened {world : World} {dto : CreateEscrowDto}
    (opens : Opens (openedEscrow world dto) result sent row) :
    Accounted (world.ledger ++ sent) row := .of_unsettled (by cases opens <;> rfl) opens.unpaid

theorem paidTo_shareLegs {destination : PublicKey} {share : Amount} (nonneg : 0 ≤ share) :
    paidTo escrow party (shareLegs escrow destination share) =
      if destination = party then share else 0 := by
  unfold paidTo
  split
  next same =>
    rw [total_eq_sum fun tx leg => ?_, sum_shareLegs nonneg]
    rw [(mem_shareLegs leg).1]
    simp [isPayoutTo, pays, same]
  next differs =>
    refine total_eq_zero fun tx leg => ?_
    rw [(mem_shareLegs leg).1]
    simp [isPayoutTo, pays, differs]

theorem Plans.legs_ne_nil (plans : Plans escrow call payout)
    (agreed : Agreed escrow) : payout.legs ≠ [] := by
  intro none
  cases plans with
  | release | refund => cases none
  | partly _ releasedAmount _ positive _ => simp [partialPayout, shareLegs, positive] at none
  | admin _ distribution _ complete =>
    -- two shares that add up to something positive are not both missing
    simp only [adminPayout, shareLegs, List.append_eq_nil_iff,
      ite_eq_right_iff, List.cons_ne_nil, imp_false, not_lt] at none
    have positive := agreed.positive
    grind

theorem Pays.complete_or_unsent
    (ended : Pays noneSpared escrow payout result sent row) (planned : payout.legs ≠ [])
    (allOrNothing : result.isOk = true ∨ sent = []) :
    (∃ releaseHash refundHash now, sent = payout.legs ∧
        row = payout.settled releaseHash refundHash now) ∨ (sent = [] ∧ row.terms = escrow.terms ∧
        row.status = escrow.status) := by
  cases ended with
  | settled _ releaseHash refundHash now => exact .inl ⟨releaseHash, refundHash, now, rfl, rfl⟩
  | stopped _ _ _ _ | noted _ _ _ _ _ =>
    rcases allOrNothing with ok | none
    · cases ok
    · exact .inr ⟨none, rfl, rfl⟩
  | unsaved | savedLate =>
    rcases allOrNothing with ok | none
    · cases ok
    · exact absurd none planned

/-! ### The two payouts that record both shares -/

theorem partialPayout_records {releasedAmount : Amount} (agreed : Agreed escrow)
    (unpaid : Unpaid escrow ledger) (positive : 0 < releasedAmount)
    (covered : releasedAmount ≤ escrow.amount)
    (releaseHash refundHash : Option TxHash) (now : Date) :
    Records (ledger ++ (partialPayout escrow releasedAmount).legs)
      ((partialPayout escrow releasedAmount).settled releaseHash refundHash now) := by
  have paid : ∀ party, party = escrow.sellerPublicKey ∨ party = escrow.buyerPublicKey →
      paidTo escrow party (ledger ++ (partialPayout escrow releasedAmount).legs) =
        (if escrow.sellerPublicKey = party then releasedAmount else 0) +
          (if escrow.buyerPublicKey = party
            then escrow.amount - releasedAmount else 0) := by
    simp_all [partialPayout, paidTo_append, paidTo_unrelated, paidTo_shareLegs, le_of_lt]
  refine ⟨?_, ?_, add_sub_cancel _ _⟩
  · refine Eq.trans ?_ (paid escrow.sellerPublicKey (.inl rfl)).symm
    rw [if_pos rfl, if_neg agreed.distinct, add_zero]
    rfl
  · refine Eq.trans ?_ (paid escrow.buyerPublicKey (.inr rfl)).symm
    rw [if_pos rfl, if_neg agreed.distinct.symm, zero_add]
    rfl

theorem refundPayout_records (agreed : Agreed escrow) (unpaid : Unpaid escrow ledger)
    (releaseHash refundHash : Option TxHash) (now : Date) :
    Records (ledger ++ (refundPayout escrow).legs)
      ((refundPayout escrow).settled releaseHash refundHash now) := by
  have legs : (refundPayout escrow).legs =
      shareLegs escrow escrow.buyerPublicKey escrow.amount := by
    rw [shareLegs, if_pos agreed.positive]
    rfl
  have paid : ∀ party, party = escrow.sellerPublicKey ∨ party = escrow.buyerPublicKey →
      paidTo escrow party (ledger ++ (refundPayout escrow).legs) =
        if escrow.buyerPublicKey = party then escrow.amount else 0 := by
    intro party isParty
    rw [legs, paidTo_append, paidTo_unrelated isParty unpaid, zero_add,
      paidTo_shareLegs (le_of_lt agreed.positive)]
  refine ⟨?_, ?_, zero_add _⟩
  · refine Eq.trans ?_ (paid escrow.sellerPublicKey (.inl rfl)).symm
    rw [if_neg agreed.distinct]
    rfl
  · refine Eq.trans ?_ (paid escrow.buyerPublicKey (.inr rfl)).symm
    rw [if_pos rfl]
    rfl

/-- A call that moves a row keeps it accounted for when it is one of these
two, or only freezes. -/
theorem Accounted.moved (accounted : Accounted ledger escrow) (agreed : Agreed escrow)
    (moves : Moves noneSpared call escrow result sent row)
    (allOrNothing : result.isOk = true ∨ sent = [])
    (both : ∀ payout, call.payout? escrow = some payout → call.recordsBoth escrow = true) :
    Accounted (ledger ++ sent) row := by
  have same := moves.terms
  have unpaidRow : Unpaid escrow ledger → Unpaid row ledger := by
    intro unpaid
    rw [Unpaid, isPayout_of_terms same]
    exact unpaid
  cases moves with
  | froze allowed =>
    rw [List.append_nil]
    have unsettled : isSettled escrow.status = false := by
      rw [allows_frozen_iff.mp allowed]
      rfl
    exact .of_unsettled rfl (unpaidRow (accounted.unpaid unsettled))
  | @paid payout _ _ _ planned ended =>
    have records := both payout planned
    have plans := plans_of_payout? planned
    have unsettled : isSettled escrow.status = false := by
      cases plans with
      | release | admin => cases records
      | partly _ _ allowed =>
        rw [allows_partiallyReleased_iff.mp allowed]
        rfl
      | refund _ allowed =>
        rcases allows_refunded_iff.mp allowed with status | status | status <;> simp_all [isSettled,
          EscrowCall.recordsBoth]
    have unpaid := accounted.unpaid unsettled
    rcases ended.complete_or_unsent (plans.legs_ne_nil agreed) allOrNothing with
      ⟨releaseHash, refundHash, now, rfl, rfl⟩ | ⟨rfl, _, sameStatus⟩
    · cases plans with
      | release | admin => cases records
      | partly _ releasedAmount allowed positive covered =>
        refine .of_settled ?_ (partialPayout_records agreed unpaid
          positive covered releaseHash refundHash now)
        simp only [partialPayout]
        split <;> rfl
      | refund =>
        exact .of_settled rfl (refundPayout_records agreed unpaid releaseHash refundHash now)
    · rw [List.append_nil]
      exact .of_unsettled (by rw [sameStatus]; exact unsettled) (unpaidRow unpaid)

theorem allAccounted_invoke (world : World) (invocation : Invocation)
    (accounted : AllAccounted world) (condition : AllOrNothing world invocation ∧
      RecordsBothShares world invocation) :
    AllAccounted (invoke world invocation) := by
  obtain ⟨wellFormed, rows⟩ := accounted
  obtain ⟨allOrNothing, both⟩ := condition
  refine ⟨wellFormed.invoke invocation, fun id row stored => ?_⟩
  obtain ⟨sent, grows, how⟩ := invoke_rowStep wellFormed.separate invocation stored
  rw [grows]
  cases how with
  | kept old unrelated => exact (rows id row old).frame unrelated
  | opened _ _ _ opens => exact .opened opens
  | @moved escrow named found moves =>
    refine (rows id escrow found).moved (wellFormed.agreed found) moves ?_
      fun payout planned => both (escrow, payout)
        (by simp [EscrowCall.plan?, named, found, planned])
    refine allOrNothing.imp_right fun unchanged => ?_
    simp_all

/-- From a database without escrows, over calls that return or submit
nothing, every settled escrow records what each party was paid, as long as
the payouts are those that record both shares. -/
theorem settlement_recorded {start : World} (noEscrows : NoEscrows start)
    {invocations : List Invocation} (allOrNothing : Along invoke AllOrNothing start invocations)
    (recordsBoth : Along invoke RecordsBothShares start invocations) :
    SettlementRecorded (run invoke start invocations) := by
  have initially : AllAccounted start :=
    ⟨noEscrows.wellFormed, fun id escrow stored => by
      rw [noEscrows id] at stored
      cases stored⟩
  obtain ⟨_, rows⟩ := run_invariant allAccounted_invoke initially (allOrNothing.and recordsBoth)
  exact fun id escrow stored settled =>
    (rows id escrow stored).records settled

/-- A creation that fails before the lock, one that succeeds, and a partial
release of the second escrow. -/
def partlyReleased : List Invocation := [ ⟨.createEscrow
      { orderId := 0, buyerPublicKey := 1, sellerPublicKey := 2
        amount := 100 }, [none, none, some (.error "timeout")]⟩, ⟨.createEscrow
      { orderId := 0, buyerPublicKey := 1, sellerPublicKey := 2
        amount := 100 }, []⟩, ⟨.releasePartial 1 40, []⟩ ]

theorem partly_released_recorded :
    SettlementRecorded (run invoke .empty partlyReleased) :=
  settlement_recorded (fun _ => rfl) (by decide +kernel) (by decide +kernel)

/-- A full release of a locked escrow. -/
def fullyReleased : List Invocation := [ ⟨.createEscrow
      { orderId := 0, buyerPublicKey := 1, sellerPublicKey := 2
        amount := 100 }, []⟩, ⟨.releaseFunds { escrowId := 0, deliveryProof := "signed" }, []⟩ ]

/-- Both calls succeed, and the released row still says that nothing has been
released. -/
theorem release_records_nothing :
    Along invoke AllOrNothing .empty fullyReleased ∧
      ¬ SettlementRecorded (run invoke .empty fullyReleased) := by
  refine ⟨by decide, fun recorded => ?_⟩
  have unrecorded : ¬ ∀ escrow ∈ (run invoke .empty fullyReleased).escrows.row 0,
      isSettled escrow.status = true → escrow.releasedAmount = paidTo escrow escrow.sellerPublicKey
          (run invoke .empty fullyReleased).ledger := by decide +kernel
  exact unrecorded fun escrow stored settled =>
    (recorded 0 escrow stored settled).released

open Effects Handler

/-! ### What a resolution is for -/

/-- The buyer's share of an escrow under the resolution type. -/
def ResolveDisputeDto.buyerShare (dto : ResolveDisputeDto) (amount : Amount) : Amount :=
  match dto.resolutionType with
  | some .fullToBuyer => amount
  | some .fullToSeller => 0
  | some .split5050 => amount / 2
  | some .customSplit | none => dto.refundAmount.getD 0

/-- What was submitted divides the escrow, and gives the buyer the share of
the resolution type. -/
structure Divided (escrow : EscrowEntity) (dto : ResolveDisputeDto)
    (submitted : List Transaction) : Prop where
  seller : 0 ≤ paidTo escrow escrow.sellerPublicKey submitted
  buyer : 0 ≤ paidTo escrow escrow.buyerPublicKey submitted
  whole :
    paidTo escrow escrow.sellerPublicKey submitted +
      paidTo escrow escrow.buyerPublicKey submitted = escrow.amount
  split :
    paidTo escrow escrow.buyerPublicKey submitted = dto.buyerShare escrow.amount

/-- The call has thrown, and the ledger and both rows are as before. -/
structure TurnedAway (world : World) (disputeId escrowId : Id)
    (result : Except HttpException Dispute) (after : World) : Prop where
  thrown : result.isOk = false
  ledger : after.ledger = world.ledger
  dispute : after.disputes.row disputeId = world.disputes.row disputeId
  escrow : after.escrows.row escrowId = world.escrows.row escrowId

/-- Whichever of its effects fail: a resolution that returns has divided the
escrow, and one that asks for more than the escrow is turned away. -/
structure Resolves (world : World) (disputeId : Id) (escrow : EscrowEntity)
    (dto : ResolveDisputeDto) : Prop where
  divides : ∀ faults, (handler.exec (adminResolveDispute dto disputeId) faults world).1.isOk =
        true → Divided escrow dto ((handler.exec (adminResolveDispute dto disputeId) faults
          world).2.sentSince world)
  rejects : ∀ refundAmount ∈ dto.refundAmount, escrow.amount < refundAmount → ∀ faults,
      TurnedAway world disputeId escrow.id
        (handler.exec (adminResolveDispute dto disputeId) faults world).1
        (handler.exec (adminResolveDispute dto disputeId) faults world).2

/-! ### What the code sends -/

/-- The distribution the code asks the escrow service for. -/
def ResolveDisputeDto.distribution (dto : ResolveDisputeDto) (amount : Amount) : Distribution where
  toSeller := amount - dto.refundAmount.getD 0
  toBuyer := dto.refundAmount.getD 0

def ResolveDisputeDto.legs (dto : ResolveDisputeDto) (escrow : EscrowEntity) : List Transaction :=
  (adminPayout escrow (dto.distribution escrow.amount)).legs

theorem refund_nonneg {dto : ResolveDisputeDto} (valid : dto.valid = true) :
    0 ≤ dto.refundAmount.getD 0 := by
  unfold ResolveDisputeDto.valid at valid
  cases given : dto.refundAmount <;> simp_all

section

variable {escrow : EscrowEntity} {dto : ResolveDisputeDto}

theorem paidTo_shareLegs_max {destination party : PublicKey} {share : Amount} :
    paidTo escrow party (shareLegs escrow destination share) =
      if destination = party then max share 0 else 0 := by
  rcases le_total 0 share with nonneg | nonpos
  · rw [paidTo_shareLegs nonneg, max_eq_left nonneg]
  · have unsent : shareLegs escrow destination share = [] :=
      if_neg (not_lt.mpr nonpos)
    rw [unsent, max_eq_right nonpos, ite_self]
    rfl

variable (distinct : escrow.buyerPublicKey ≠ escrow.sellerPublicKey)

include distinct

theorem paidTo_seller_legs :
    paidTo escrow escrow.sellerPublicKey (dto.legs escrow) =
      max (escrow.amount - dto.refundAmount.getD 0) 0 := by
  simp_all [ResolveDisputeDto.legs, adminPayout, ResolveDisputeDto.distribution,
    paidTo_append, paidTo_shareLegs_max]

theorem paidTo_buyer_legs :
    paidTo escrow escrow.buyerPublicKey (dto.legs escrow) =
      max (dto.refundAmount.getD 0) 0 := by
  unfold ResolveDisputeDto.legs adminPayout ResolveDisputeDto.distribution
  rw [paidTo_append, paidTo_shareLegs_max, paidTo_shareLegs_max,
    if_neg distinct.symm, if_pos rfl, zero_add]

/-- A share that is not positive is not sent, so a refund above the amount
is what leaves the escrow. -/
theorem divided_legs_iff (valid : dto.valid = true) :
    Divided escrow dto (dto.legs escrow) ↔ dto.refundAmount.getD 0 ≤ escrow.amount ∧
        dto.refundAmount.getD 0 = dto.buyerShare escrow.amount := by
  have nonneg := refund_nonneg valid
  have seller : paidTo escrow escrow.sellerPublicKey (dto.legs escrow) =
      max (escrow.amount - dto.refundAmount.getD 0) 0 := paidTo_seller_legs distinct
  have buyer : paidTo escrow escrow.buyerPublicKey (dto.legs escrow) =
      dto.refundAmount.getD 0 :=
    (paidTo_buyer_legs distinct).trans (max_eq_left nonneg)
  constructor
  · intro divided
    have whole := divided.whole
    refine ⟨?_, buyer.symm.trans divided.split⟩
    grind
  · rintro ⟨covered, agreed⟩
    have rest : paidTo escrow escrow.sellerPublicKey (dto.legs escrow) =
        escrow.amount - dto.refundAmount.getD 0 :=
      seller.trans (max_eq_left (sub_nonneg.mpr covered))
    exact {
      seller := by rw [rest]; exact sub_nonneg.mpr covered
      buyer := by rw [buyer]; exact nonneg
      whole := by rw [rest, buyer, sub_add_cancel]
      split := by rw [buyer, agreed] }

end

/-! ### What a resolution does -/

section

variable {world : World} {disputeId escrowId : Id} {dispute : Dispute}
  {escrow : EscrowEntity} (dto : ResolveDisputeDto)
  (stored : world.disputes.row disputeId = some dispute) (about : dispute.escrowId = some escrowId)
  (held : world.escrows.row escrowId = some escrow)

/-- The state machine lets the dispute be resolved, and its escrow is
frozen. -/
def Resolvable (dispute : Dispute) (escrow : EscrowEntity) : Prop :=
  DisputeStateMachine.canTransition dispute.status .resolved = true ∧ escrow.status = .frozen

instance (dispute : Dispute) (escrow : EscrowEntity) :
    Decidable (Resolvable dispute escrow) := inferInstanceAs (Decidable (_ ∧ _))

theorem payShare_returns (escrow : EscrowEntity) (destination : PublicKey) (share : Amount)
    (post : Except HttpException (Option TxHash) → World → Prop)
    (returned : ∀ hash current, post (.ok hash) current) :
    (handler.shield fun _ => true).wp (payShare escrow destination share)
      post world := by simp_all [payShare]

include stored about held

theorem resolution_sends (spared : Spared) :
    (handler.shield spared).wp (adminResolveDispute dto disputeId)
      (fun result after => result.isOk = true →
        after.ledger = world.ledger ++ dto.legs escrow) world := by
  unfold adminResolveDispute
  rw [wp_bind]
  apply wp_getDisputeById _ _ (fun _ failed => by cases failed)
  intro found foundDispute
  cases stored.symm.trans foundDispute
  simp only [andThen_ok, wp_ite, about]
  split
  · exact fun failed => by cases failed
  next =>
    rw [wp_bind, wp_attempt, wp_bind]
    apply wp_findEscrowOrFail
    · exact fun _ failed => by cases failed
    · intro found foundEscrow
      cases held.symm.trans foundEscrow
      apply Handler.wp_mono _ (adminReleaseFunds_spec world escrowId
        (dto.distribution escrow.amount))
      intro result after outcome
      cases result with
      | error error => exact fun failed => by cases failed
      | ok response =>
        have sent : after.ledger = world.ledger ++ dto.legs escrow := by
          cases outcome with
          | moved found moves =>
            cases held.symm.trans found
            cases moves with
            | froze _ named => cases named
            | paid planned ended =>
              cases plans_of_payout? planned
              cases ended with
              | settled => rfl
        exact ⟨fun _ => sent, fun _ _ failed => by cases failed⟩

theorem resolution_returns (resolvable : Resolvable dispute escrow) :
    (handler.shield fun _ => true).wp (adminResolveDispute dto disputeId)
      (fun result _ => result.isOk = true) world := by
  obtain ⟨allowed, frozen⟩ := resolvable
  simp only [adminResolveDispute, getDisputeById, wp_bind, wp_findDispute,
    stored, andThen_ok, wp_pure, allowed, Bool.not_true, Bool.false_eq_true,
    if_false, about, wp_attempt, findEscrowOrFail, wp_findEscrow, held,
    adminReleaseFunds, frozen, ne_eq, not_true_eq_false, sub_add_cancel,
    payBoth, reduceCtorEq, false_implies, and_true]
  refine payShare_returns _ _ _ _ fun releaseHash current => ?_
  simp only [andThen_ok, wp_bind]
  refine payShare_returns _ _ _ _ fun refundHash current => ?_
  simp [wp_attempt, Except.isOk, Except.toBool]

theorem resolution_barred (barred : ¬ Resolvable dispute escrow) (spared : Spared) :
    (handler.shield spared).wp (adminResolveDispute dto disputeId)
      (fun result after => result.isOk = false ∧ after = world) world := by
  unfold adminResolveDispute
  rw [wp_bind]
  apply wp_getDisputeById _ _ (fun _ => ⟨rfl, rfl⟩)
  intro found foundDispute
  cases stored.symm.trans foundDispute
  simp only [andThen_ok, wp_ite, about]
  split
  · exact ⟨rfl, rfl⟩
  next invalid =>
    have allowed : DisputeStateMachine.canTransition dispute.status
        .resolved = true := by simpa using invalid
    rw [wp_bind, wp_attempt, wp_bind]
    apply wp_findEscrowOrFail
    · exact fun _ => ⟨rfl, rfl⟩
    · intro found foundEscrow
      cases held.symm.trans foundEscrow
      rw [andThen_ok]
      apply Handler.wp_mono _ (adminReleaseFunds_spec world escrowId
        (dto.distribution escrow.amount))
      intro result after outcome
      cases outcome with
      | rejected error => exact ⟨rfl, rfl⟩
      | moved found moves =>
        cases held.symm.trans found
        cases moves with
        | froze _ named => cases named
        | paid planned _ =>
          cases plans_of_payout? planned with
          | admin _ _ frozen _ => exact absurd ⟨allowed, frozen⟩ barred

end

/-! The escrow of 100, frozen for an open dispute. -/

def disputedHundred : World := run settle lockedHundred [ .call (.createDispute
        { transactionId := 0, complainantId := 1, respondentId := 2
          reason := "late", escrowId := some 0 }) [] ]

def frozenHundred : EscrowEntity :=
  { heldHundred with status := .frozen, disputeFlag := true }

def openDispute : Dispute where
  id := 0
  transactionId := 0
  complainantId := 1
  respondentId := 2
  reason := "late"
  createdAt := 0
  escrowId := some 0

end MarketX.Settlement
