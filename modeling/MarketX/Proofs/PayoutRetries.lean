/-
Module: MarketX.Proofs.PayoutRetries
Purpose: When an escrow pays out no more than was locked, and what later calls
  may still pay after a two-leg payout that failed part of the way.
Trusted boundary: none
Main exports: KeepsDeposits, payouts_within_deposit, retries_pay_at_most_once
-/
import MarketX.Settlement.Runs

namespace MarketX.Settlement

open Effects

/-! ### The property and the condition -/

/-- Both parties together have received no more than the escrow's amount,
and every payout stands after the lock transaction in the ledger. -/
def KeepsDeposits (world : World) : Prop := ∀ id escrow, world.escrows.row id = some escrow →
    paidTo escrow escrow.sellerPublicKey world.ledger +
          paidTo escrow escrow.buyerPublicKey world.ledger ≤ escrow.amount ∧
      Preceded (fun tx => isPayout escrow tx = true) (lockTransaction escrow) world.ledger

/-- The row a call finds and the payout it goes ahead with, if its checks
let it through. -/
def EscrowCall.plan? (world : World) (call : EscrowCall) :
    Option (EscrowEntity × Payout) :=
  match call.escrowId?.bind world.escrows.row with
  | none => none
  | some escrow => (call.payout? escrow).map fun payout => (escrow, payout)

/-- `adminReleaseFunds` only checks that its two shares add up. -/
def EscrowCall.sharesNonneg : EscrowCall → Bool
  | .adminReleaseFunds _ distribution => 0 ≤ distribution.toSeller ∧ 0 ≤ distribution.toBuyer
  | _ => true

/-- A payout call that passes its checks finds an escrow nothing has been
paid out of, and takes no share below zero. -/
def FirstPayout (world : World) (invocation : Invocation) : Prop :=
  ∀ plan ∈ invocation.call.plan? world,
    Unpaid plan.1 world.ledger ∧ invocation.call.sharesNonneg = true

instance (world : World) (invocation : Invocation) :
    Decidable (FirstPayout world invocation) :=
  inferInstanceAs (Decidable (∀ plan ∈ invocation.call.plan? world, _))

variable {world start : World} {invocation : Invocation} {id : Id} {escrow row : EscrowEntity}
  {payout : Payout} {call : EscrowCall} {ledger sent txs : List Transaction} {dto : CreateEscrowDto}
  {result : Except HttpException EscrowResponseDto} {party : PublicKey}

theorem FirstPayout.unpaid
    (first : FirstPayout world invocation) (named : invocation.call.escrowId? = some id)
    (found : world.escrows.row id = some escrow)
    (planned : invocation.call.payout? escrow = some payout) :
    Unpaid escrow world.ledger ∧ invocation.call.sharesNonneg = true :=
  first (escrow, payout) (by simp [EscrowCall.plan?, named, found, planned])

/-! ### What one planned payout moves -/

theorem sum_shareLegs {destination : PublicKey} {share : Amount} (nonneg : 0 ≤ share) :
    ((shareLegs escrow destination share).map Transaction.amount).sum =
      share := by grind [shareLegs, pays]

/-- Without a negative share the legs of every payout add up to the
escrow's amount. -/
theorem Plans.legs_sum (plans : Plans escrow call payout) (nonneg : call.sharesNonneg = true) :
    (payout.legs.map Transaction.amount).sum = escrow.amount := by
  cases plans <;> simp_all [releasePayout, refundPayout, pays, partialPayout, sum_shareLegs,
    le_of_lt, EscrowCall.sharesNonneg, adminPayout]

/-! ### The invariant -/

structure Solvent (ledger : List Transaction) (escrow : EscrowEntity) :
    Prop where
  locked : escrow.status ≠ .pending → lockTransaction escrow ∈ ledger
  preceded : Preceded (fun tx => isPayout escrow tx = true) (lockTransaction escrow) ledger
  covered : paidOut escrow ledger ≤ escrow.amount

def AllSolvent (world : World) : Prop :=
  WellFormed world ∧ ∀ id escrow, world.escrows.row id = some escrow → Solvent world.ledger escrow

theorem Solvent.frame (solvent : Solvent ledger escrow)
    (unrelated : ∀ tx ∈ sent, isPayout escrow tx = false) :
    Solvent (ledger ++ sent) escrow where
  locked touched := List.mem_append_left _ (solvent.locked touched)
  preceded := solvent.preceded.append fun tx member paying =>
    absurd paying (by simp [unrelated tx member])
  covered := by
    rw [paidOut, total_append, total_eq_zero unrelated, add_zero]
    exact solvent.covered

theorem Opens.unpaid (opens : Opens (openedEscrow world dto) result sent row) :
    Unpaid row (world.ledger ++ sent) := by
  intro tx member
  rw [isPayout_of_terms opens.terms]
  simp only [isPayout, decide_eq_false_iff_not]
  rintro ⟨source, _⟩
  rcases List.mem_append.mp member with old | new
  · exact account_ne_known world dto (source_known old) source.symm
  · have lock : tx = lockTransaction (openedEscrow world dto) := by
      cases opens <;> simp_all
    -- the lock comes from the buyer, whose key is not the account's
    have held : dto.buyerPublicKey ≠ (openedEscrow world dto).escrowAccountPublicKey :=
      Nat.ne_of_lt (lt_freshKey (by simp))
    subst lock
    exact held source

theorem Solvent.opened (positive : 0 < dto.amount)
    (opens : Opens (openedEscrow world dto) result sent row) :
    Solvent (world.ledger ++ sent) row := by
  have same := opens.terms
  have unpaid := opens.unpaid
  refine ⟨?_, .of_absent fun tx member => by simp [unpaid tx member], ?_⟩
  · intro locked
    rw [lockTransaction_of_terms same]
    cases opens with
    | unlocked => exact absurd rfl locked
    | unrecorded | locked => simp
  · rw [paidOut, total_eq_zero unpaid, amount_of_terms same]
    exact le_of_lt positive

/-- The first payout of an escrow, however far it gets, stays within the
amount; freezing moves nothing. -/
theorem Solvent.moved (solvent : Solvent ledger escrow) (agreed : Agreed escrow)
    (moves : Moves noneSpared call escrow result sent row)
    (first : ∀ payout, call.payout? escrow = some payout →
      Unpaid escrow ledger ∧ call.sharesNonneg = true) :
    Solvent (ledger ++ sent) row := by
  have same := moves.terms
  have touched : escrow.status ≠ .pending := by
    cases moves with
    | froze allowed => simp [allows_frozen_iff.mp allowed]
    | paid planned =>
      rcases (plans_of_payout? planned).paying with paying | paying | paying <;> simp [paying]
  have locked := solvent.locked touched
  refine ⟨fun _ => ?_, ?_, ?_⟩
  · grind [lockTransaction_of_terms]
  · rw [isPayout_of_terms same, lockTransaction_of_terms same]
    exact solvent.preceded.append fun _ _ _ => locked
  · rw [paidOut, isPayout_of_terms same, amount_of_terms same]
    cases moves with
    | froze =>
      rw [List.append_nil]
      exact solvent.covered
    | @paid payout _ _ _ planned ended =>
      obtain ⟨unpaid, nonneg⟩ := first payout planned
      have plans := plans_of_payout? planned
      have legs : ∀ tx ∈ payout.legs, 0 ≤ tx.amount := fun tx leg =>
        le_of_lt ((plans.leg leg).2 agreed.positive)
      calc total (isPayout escrow) Transaction.amount (ledger ++ sent)
          = total (isPayout escrow) Transaction.amount sent := by
            rw [total_append, total_eq_zero unpaid, zero_add]
        _ ≤ total (isPayout escrow) Transaction.amount payout.legs :=
            total_le_of_grows ended.part legs
        _ = (payout.legs.map Transaction.amount).sum := total_eq_sum fun tx leg => (plans.leg leg).1
        _ = escrow.amount := plans.legs_sum nonneg

theorem allSolvent_invoke (world : World) (invocation : Invocation)
    (solvent : AllSolvent world) (first : FirstPayout world invocation) :
    AllSolvent (invoke world invocation) := by
  obtain ⟨wellFormed, rows⟩ := solvent
  refine ⟨wellFormed.invoke invocation, fun id row stored => ?_⟩
  obtain ⟨sent, grows, how⟩ := invoke_rowStep wellFormed.separate invocation stored
  rw [grows]
  cases how with
  | kept old unrelated => exact (rows id row old).frame unrelated
  | opened _ positive _ opens => exact .opened positive opens
  | moved named found moves =>
    exact (rows id _ found).moved (wellFormed.agreed found) moves
      fun payout planned => first.unpaid named found planned

/-- From a database without escrows, any run whose payout calls meet the
condition keeps every deposit: no escrow ever pays out more than its amount,
and none pays before its lock. -/
theorem payouts_within_deposit {start : World}
    (noEscrows : NoEscrows start) {invocations : List Invocation}
    (first : Along invoke FirstPayout start invocations) :
    KeepsDeposits (run invoke start invocations) := by
  have initially : AllSolvent start :=
    ⟨noEscrows.wellFormed, fun id escrow stored => by
      rw [noEscrows id] at stored
      cases stored⟩
  obtain ⟨wellFormed, rows⟩ := run_invariant allSolvent_invoke initially first
  intro id escrow stored
  rw [← paidOut_eq (wellFormed.agreed stored).distinct]
  exact ⟨(rows id escrow stored).covered, (rows id escrow stored).preceded⟩

/-- A partial release whose first leg fails may be tried again. -/
def retriedRelease : List Invocation := [ ⟨.createEscrow
      { orderId := 0, buyerPublicKey := 1, sellerPublicKey := 2
        amount := 100 }, []⟩, ⟨.releasePartial 0 40, [none, some (.error "timeout")]⟩,
    ⟨.releasePartial 0 40, []⟩ ]

theorem retried_release_within_deposit :
    KeepsDeposits (run invoke .empty retriedRelease) :=
  payouts_within_deposit (fun _ => rfl) (by decide)

/-- Creation for 100, then a partial release of 40 that leaves
PARTIALLY_RELEASED, then a full release. -/
def secondPayout : List Invocation := [ ⟨.createEscrow
      { orderId := 0, buyerPublicKey := 1, sellerPublicKey := 2
        amount := 100 }, []⟩, ⟨.releasePartial 0 40, []⟩,
    ⟨.releaseFunds { escrowId := 0, deliveryProof := "signed" }, []⟩ ]

/-- The transition table lets a partly released escrow pay its whole amount
again. -/
theorem second_payout_overdraws :
    ¬ KeepsDeposits (run invoke .empty secondPayout) := by
  intro keeps
  have overdrawn : ¬ ∀ escrow ∈ (run invoke .empty secondPayout).escrows.row 0,
      paidTo escrow escrow.sellerPublicKey (run invoke .empty secondPayout).ledger +
          paidTo escrow escrow.buyerPublicKey
            (run invoke .empty secondPayout).ledger ≤ escrow.amount := by decide +kernel
  exact overdrawn fun escrow stored => (keeps 0 escrow stored).1

/-! ### The property and the condition -/

/-- Neither party received more than `once` paid it, and no leg of `once`
was submitted twice. -/
def PaysAtMostOnce (escrow : EscrowEntity) (once sent : List Transaction) : Prop :=
  paidTo escrow escrow.sellerPublicKey sent ≤ paidTo escrow escrow.sellerPublicKey once ∧
    paidTo escrow escrow.buyerPublicKey sent ≤ paidTo escrow escrow.buyerPublicKey once ∧
    ∀ leg ∈ once, sent.count leg ≤ 1

instance (escrow : EscrowEntity) (once sent : List Transaction) :
    Decidable (PaysAtMostOnce escrow once sent) :=
  inferInstanceAs (Decidable (_ ∧ _ ∧ ∀ leg ∈ once, _))

/-- A later payout call about the escrow that passes its checks finds that no
leg has been submitted since the start, and plans no more for either party
than `payout` does. -/
def RetryPlansWithin (start : World) (id : Id) (payout : Payout)
    (world : World) (invocation : Invocation) : Prop := invocation.call.escrowId? = some id →
    ∀ plan ∈ invocation.call.plan? world, Unpaid plan.1 (world.sentSince start) ∧
        paidTo plan.1 plan.1.sellerPublicKey plan.2.legs ≤
          paidTo plan.1 plan.1.sellerPublicKey payout.legs ∧
        paidTo plan.1 plan.1.buyerPublicKey plan.2.legs ≤
          paidTo plan.1 plan.1.buyerPublicKey payout.legs

instance (start : World) (id : Id) (payout : Payout) (world : World) (invocation : Invocation) :
    Decidable (RetryPlansWithin start id payout world invocation) :=
  inferInstanceAs (Decidable (_ → ∀ plan ∈ _, _ ∧ _ ∧ _))

/-! ### What a call that succeeds submits -/

theorem success_submits_legs
    (named : invocation.call.escrowId? = some id) (stored : world.escrows.row id = some escrow)
    (accepted : invocation.call.payout? escrow = some payout)
    (succeeds : (handler.exec invocation.call.program invocation.faults world).1.isOk = true) :
    (invoke world invocation).sentSince world = payout.legs := by
  have outcome := invoke_spec world invocation
  generalize (handler.exec invocation.call.program invocation.faults
    world).1 = result at outcome succeeds
  generalize invoke world invocation = after at outcome ⊢
  cases outcome with
  | rejected => cases succeeds
  | opened creates =>
    rw [creates] at named
    cases named
  | moved namedAgain found moves =>
    cases namedAgain.symm.trans named
    cases found.symm.trans stored
    cases moves with
    | froze _ freezes =>
      rw [freezes] at accepted
      cases accepted
    | paid planned ended =>
      cases planned.symm.trans accepted
      cases ended with
      | settled => simp [World.sentSince]
      | _ => cases succeeds

/-! ### The legs of one payout -/

theorem count_shareLegs_le (escrow : EscrowEntity) (destination : PublicKey)
    (share : Amount) (leg : Transaction) :
    (shareLegs escrow destination share).count leg ≤ 1 := by grind [shareLegs]

theorem Plans.count_legs_le (plans : Plans escrow call payout)
    (agreed : Agreed escrow) (leg : Transaction) :
    payout.legs.count leg ≤ 1 := by
  -- the seller's leg is not the buyer's
  have both : ∀ toSeller toBuyer, (shareLegs escrow escrow.sellerPublicKey toSeller ++
        shareLegs escrow escrow.buyerPublicKey toBuyer).count leg ≤ 1 := by
    intro toSeller toBuyer
    rw [List.count_append]
    by_cases first : leg ∈ shareLegs escrow escrow.sellerPublicKey toSeller
    · have second : leg ∉ shareLegs escrow escrow.buyerPublicKey toBuyer := by
        intro second
        have sameDestination := (mem_shareLegs first).1.symm.trans (mem_shareLegs second).1
        exact agreed.distinct (congrArg Transaction.destination sameDestination).symm
      rw [List.count_eq_zero.mpr second, Nat.add_zero]
      exact count_shareLegs_le escrow _ _ leg
    · rw [List.count_eq_zero.mpr first, Nat.zero_add]
      exact count_shareLegs_le escrow _ _ leg
  cases plans with
  | release | refund => exact List.count_le_length
  | partly | admin => exact both _ _

/-! ### The invariant -/

structure Within (start : World) (id : Id) (escrow : EscrowEntity)
    (payout : Payout) (world : World) : Prop where
  wellFormed : WellFormed world
  stored : ∃ row, world.escrows.row id = some row ∧ row.terms = escrow.terms
  grown : start.ledger <+: world.ledger
  once : PaysAtMostOnce escrow payout.legs (world.sentSince start)

theorem sentSince_append {after : World} (grown : start.ledger <+: world.ledger)
    (grows : after.ledger = world.ledger ++ sent) :
    after.sentSince start = world.sentSince start ++ sent := by grind [World.sentSince]

theorem isPayoutTo_party {tx : Transaction}
    (isParty : party = escrow.sellerPublicKey ∨ party = escrow.buyerPublicKey)
    (notPayout : isPayout escrow tx = false) :
    isPayoutTo escrow party tx = false := by grind [isPayout, isPayoutTo]

/-- Transactions that are no payouts of the escrow give its parties
nothing. -/
theorem paidTo_unrelated (isParty : party = escrow.sellerPublicKey ∨ party = escrow.buyerPublicKey)
    (unrelated : Unpaid escrow txs) : paidTo escrow party txs = 0 := total_eq_zero fun tx member =>
    isPayoutTo_party isParty (unrelated tx member)

theorem count_unrelated {leg : Transaction} (isLeg : isPayout escrow leg = true)
    (unrelated : Unpaid escrow txs) : txs.count leg = 0 := List.count_eq_zero.mpr fun member => by
    simp [unrelated leg member] at isLeg

section

variable {escrow : EscrowEntity} {once sent : List Transaction}
  (legs : ∀ leg ∈ once, isPayout escrow leg = true)

include legs

theorem PaysAtMostOnce.frame {more : List Transaction} (pays : PaysAtMostOnce escrow once sent)
    (unrelated : Unpaid escrow more) :
    PaysAtMostOnce escrow once (sent ++ more) := by
  obtain ⟨seller, buyer, counts⟩ := pays
  refine ⟨?_, ?_, fun leg member => ?_⟩
  · rw [paidTo, total_append, ← paidTo, ← paidTo, paidTo_unrelated (.inl rfl) unrelated, add_zero]
    exact seller
  · rw [paidTo, total_append, ← paidTo, ← paidTo, paidTo_unrelated (.inr rfl) unrelated, add_zero]
    exact buyer
  · grind [count_unrelated]

/-- The start of a payout that plans no more than `once`, submitted when
nothing has been paid, pays no more than `once`. -/
theorem PaysAtMostOnce.attempt {call : EscrowCall} {plan : Payout}
    {before : List Transaction} (agreed : Agreed escrow)
    (attempts : Plans escrow call plan) (unpaid : Unpaid escrow before) (part : sent <+: plan.legs)
    (seller : paidTo escrow escrow.sellerPublicKey plan.legs ≤
      paidTo escrow escrow.sellerPublicKey once)
    (buyer : paidTo escrow escrow.buyerPublicKey plan.legs ≤
      paidTo escrow escrow.buyerPublicKey once) :
    PaysAtMostOnce escrow once (before ++ sent) := by
  have nonneg : ∀ tx ∈ plan.legs, 0 ≤ tx.amount := fun tx leg =>
    le_of_lt ((attempts.leg leg).2 agreed.positive)
  refine ⟨?_, ?_, fun leg member => ?_⟩
  · rw [paidTo, total_append, ← paidTo, ← paidTo, paidTo_unrelated (.inl rfl) unpaid, zero_add]
    exact (total_le_of_grows part nonneg).trans seller
  · rw [paidTo, total_append, ← paidTo, ← paidTo, paidTo_unrelated (.inr rfl) unpaid, zero_add]
    exact (total_le_of_grows part nonneg).trans buyer
  · rw [List.count_append, count_unrelated (legs leg member) unpaid, Nat.zero_add]
    exact (part.sublist.count_le leg).trans (attempts.count_legs_le agreed leg)

end

theorem PaysAtMostOnce.of_terms (same : row.terms = escrow.terms) {once : List Transaction}
    (pays : PaysAtMostOnce row once sent) :
    PaysAtMostOnce escrow once sent := by
  unfold PaysAtMostOnce at pays ⊢
  rwa [paidTo_of_terms same, paidTo_of_terms same, seller_of_terms same,
    buyer_of_terms same] at pays

/-- One call that meets the condition keeps both parties within the first
payout. -/
theorem within_invoke (legs : ∀ leg ∈ payout.legs, isPayout escrow leg = true)
    (world : World) (invocation : Invocation) (within' : Within start id escrow payout world)
    (retry : RetryPlansWithin start id payout world invocation) :
    Within start id escrow payout (invoke world invocation) := by
  obtain ⟨row, stored, same⟩ := within'.stored
  have legsRow : ∀ leg ∈ payout.legs, isPayout row leg = true := by
    rw [isPayout_of_terms same]
    exact legs
  have once : PaysAtMostOnce row payout.legs (world.sentSince start) :=
    within'.once.of_terms same.symm
  have agreed := within'.wellFormed.agreed stored
  obtain ⟨after, sent, storedAfter, grows, moved⟩ :=
    (invoke_spec world invocation).rowAfter within'.wellFormed.separate stored
  have termsAfter : after.terms = row.terms := by
    rcases moved with ⟨rfl, _⟩ | ⟨_, moves⟩
    · rfl
    · exact moves.terms
  refine ⟨within'.wellFormed.invoke invocation, ⟨after, storedAfter, termsAfter.trans same⟩, ?_, ?_⟩
  · rw [grows]
    exact within'.grown.trans (List.prefix_append _ _)
  · rw [sentSince_append within'.grown grows]
    refine PaysAtMostOnce.of_terms same ?_
    rcases moved with ⟨_, unrelated⟩ | ⟨named, moves⟩
    · exact once.frame legsRow unrelated
    · generalize (handler.exec invocation.call.program invocation.faults world).1 = result at moves
      cases moves with
      | froze =>
        rw [List.append_nil]
        exact once
      | @paid plan _ _ _ planned ended =>
        obtain ⟨unpaid, seller, buyer⟩ := retry named (row, plan)
          (by simp [EscrowCall.plan?, named, stored, planned])
        exact .attempt legsRow agreed (plans_of_payout? planned) unpaid ended.part seller buyer

/-- A payout call was accepted and its effects failed or succeeded in any
way.  Whatever is called afterwards, the parties have not received more since
than one successful call would have paid them and no leg went out twice,
provided that each later payout call finds no leg submitted yet and plans no
more for either party. -/
theorem retries_pay_at_most_once {start : World} (reached : Reachable start)
    {id : Id} {escrow : EscrowEntity}
    (stored : start.escrows.row id = some escrow) {call : EscrowCall}
    (named : call.escrowId? = some id) {payout : Payout}
    (accepted : call.payout? escrow = some payout) {success : List Fault}
    (succeeds : (handler.exec call.program success start).1.isOk = true)
    (faults : List Fault) {later : List Invocation}
    (retries : Along invoke (RetryPlansWithin start id payout)
      (invoke start ⟨call, faults⟩) later) :
    PaysAtMostOnce escrow ((invoke start ⟨call, success⟩).sentSince start)
      ((run invoke (invoke start ⟨call, faults⟩) later).sentSince start) := by
  have once : (invoke start ⟨call, success⟩).sentSince start = payout.legs :=
    success_submits_legs named stored accepted succeeds
  have plans := plans_of_payout? accepted
  have legs : ∀ leg ∈ payout.legs, isPayout escrow leg = true :=
    fun leg member => (plans.leg member).1
  have sentNone : start.sentSince start = [] := by simp [World.sentSince]
  have nonneg : ∀ tx ∈ payout.legs, 0 ≤ tx.amount := fun tx leg =>
    le_of_lt ((plans.leg leg).2 (reached.wellFormed.agreed stored).positive)
  have initially : Within start id escrow payout start := by
    refine ⟨reached.wellFormed, ⟨escrow, stored, rfl⟩, List.prefix_rfl, ?_⟩
    rw [sentNone]
    exact ⟨total_le_of_grows List.nil_prefix nonneg,
      total_le_of_grows List.nil_prefix nonneg, by simp⟩
  -- the first attempt is itself a call that meets the condition
  have first : RetryPlansWithin start id payout start ⟨call, faults⟩ := by
    intro _ plan planned
    simp only [EscrowCall.plan?, named, Option.bind_some, stored, accepted,
      Option.map_some, Option.mem_some_iff] at planned
    subst planned
    exact ⟨by simp [sentNone, Unpaid], le_refl _, le_refl _⟩
  have ended : Within start id escrow payout (run invoke (invoke start ⟨call, faults⟩) later) :=
    run_invariant (within_invoke legs) (within_invoke legs _ _ initially first) retries
  rw [once]
  exact ended.once

/-- An escrow of 100 that has been locked. -/
def lockedHundred : World := run invoke .empty [ ⟨.createEscrow
        { orderId := 0, buyerPublicKey := 1, sellerPublicKey := 2
          amount := 100 }, []⟩ ]

/-- The row of that escrow. -/
def heldHundred : EscrowEntity where
  id := 0
  orderId := 0
  buyerPublicKey := 1
  sellerPublicKey := 2
  amount := 100
  escrowAccountPublicKey := 3
  lockTransactionHash := some 0
  status := .locked

/-- A release of 40 whose first account look-up fails, and two more
attempts. -/
theorem retries_pay_at_most_once_hundred :
    PaysAtMostOnce heldHundred ((invoke lockedHundred ⟨.releasePartial 0 40, []⟩).sentSince
        lockedHundred) ((run invoke (invoke lockedHundred
          ⟨.releasePartial 0 40, [none, some (.error "timeout")]⟩)
        [⟨.releasePartial 0 40, []⟩, ⟨.releasePartial 0 40, []⟩]).sentSince lockedHundred) := by
  have stored : lockedHundred.escrows.row 0 = some heldHundred := by decide
  have accepted : (EscrowCall.releasePartial 0 40).payout? heldHundred =
      some (partialPayout heldHundred 40) := by
    unfold EscrowCall.payout?
    exact if_pos (by decide)
  exact retries_pay_at_most_once ⟨.empty, _, fun _ => rfl, rfl⟩ stored rfl
    accepted (by decide +kernel) _ (by decide +kernel)

/-- When the buyer's leg fails, the seller's has already gone out, and the
next attempt sends it again. -/
theorem retry_repeats_leg :
    ¬ PaysAtMostOnce heldHundred ((invoke lockedHundred ⟨.releasePartial 0 40, []⟩).sentSince
        lockedHundred) ((run invoke (invoke lockedHundred ⟨.releasePartial 0 40,
            [none, none, none, some (.error "timeout")]⟩)
        [⟨.releasePartial 0 40, []⟩]).sentSince lockedHundred) := by decide +kernel

end MarketX.Settlement
