/-
Module: MarketX.Settlement.Payout
Purpose: The rule of the calculus for each awaited call of the settlement
  services, and what one call of the escrow service can do to the stored rows
  and to the ledger, said once for every outcome of every effect.
Trusted boundary: none
Main exports: World.submitted, World.saved, Spared, noneSpared, Payout, Pays, Moves
-/
import Mathlib.Algebra.Order.Ring.Rat
import MarketX.Settlement.EscrowService

namespace MarketX.Settlement

open Effects Handler

/-! ### Writing to the world -/

/-- The world after the network accepted some transactions. -/
def World.submitted (world : World) (txs : List Transaction) : World :=
  { world with ledger := world.ledger ++ txs }

/-- The world after one escrow row was stored. -/
def World.saved (world : World) (escrow : EscrowEntity) : World :=
  { world with escrows := world.escrows.save escrow }

/-- The world after one dispute row was stored. -/
def World.disputed (world : World) (dispute : Dispute) : World :=
  { world with disputes := world.disputes.save dispute }

/-- A dispute as its insertion stores it. -/
def World.opening (world : World) (dispute : Dispute) : Dispute :=
  { dispute with id := world.disputes.next, createdAt := world.now }

def World.evidenced (world : World) (evidence : Evidence) : World :=
  { world with evidences := world.evidences ++ [evidence] }

def World.emitted (world : World) (event : PaymentReleasedEvent) : World :=
  { world with events := world.events ++ [event] }

/-- The world after the dispute flag of a row was written, if there is such a
row. -/
def World.flagged (world : World) (escrowId : Id) (disputeFlag : Bool) :
    World :=
  match world.escrows.row escrowId with
  | none => world
  | some escrow => world.saved { escrow with disputeFlag }

/-- The open disputes with their evidence. -/
def World.openDisputes (world : World) : List (Dispute × List Evidence) :=
  (world.disputes.rows.filter fun dispute => dispute.status = .open).map fun dispute =>
      (dispute, world.evidences.filter fun evidence => evidence.disputeId = dispute.id)

/-- A dispute about the escrow that is not closed. -/
def World.activeDispute? (world : World) (escrowId : Id) : Option Dispute :=
  world.disputes.rows.find? fun dispute => dispute.escrowId = some escrowId ∧ active dispute

variable {world : World} {escrow : EscrowEntity} {id : Id}

theorem World.flagged_eq {escrowId : Id} (stored : world.escrows.row escrowId = some escrow)
    (disputeFlag : Bool) :
    world.flagged escrowId disputeFlag = world.saved { escrow with disputeFlag } := by
  simp [World.flagged, stored]

@[simp] theorem World.submitted_escrows (world : World) (txs : List Transaction) :
    (world.submitted txs).escrows = world.escrows := rfl

@[simp] theorem World.submitted_disputes (world : World) (txs : List Transaction) :
    (world.submitted txs).disputes = world.disputes := rfl

@[simp] theorem World.submitted_ledger (world : World) (txs : List Transaction) :
    (world.submitted txs).ledger = world.ledger ++ txs := rfl

@[simp] theorem World.submitted_nil (world : World) :
    world.submitted [] = world := by simp [World.submitted]

@[simp] theorem World.submitted_append (world : World) (front back : List Transaction) :
    (world.submitted front).submitted back = world.submitted (front ++ back) := by
  simp [World.submitted, List.append_assoc]

theorem World.saved_saved (world : World) {first second : EscrowEntity}
    (same : first.id = second.id) :
    (world.saved first).saved second = world.saved second := by
  simp only [World.saved, Table.save_save world.escrows same]

@[simp] theorem World.saved_escrows (world : World) (escrow : EscrowEntity) :
    (world.saved escrow).escrows = world.escrows.save escrow := rfl

@[simp] theorem World.saved_disputes (world : World) (escrow : EscrowEntity) :
    (world.saved escrow).disputes = world.disputes := rfl

@[simp] theorem World.saved_ledger (world : World) (escrow : EscrowEntity) :
    (world.saved escrow).ledger = world.ledger := rfl

/-! ### The rules of the single steps -/

/-- Calls that are assumed not to throw.  Most results spare none. -/
abbrev Spared := Op → Bool

/-- Every call may throw that can. -/
abbrev noneSpared : Spared := fun _ => false

section

variable {spared : Spared} {world : World}

@[simp] theorem wp_findEscrow (id : Id)
    (post : Except HttpException (Option EscrowEntity) → World → Prop) :
    (handler.shield spared).wp (escrowRepository.findOne id) post world ↔
      post (.ok (world.escrows.row id)) world ∧ (spared (.findEscrow id) = false →
          ∀ error, post (.error error) world) := wp_await spared (.findEscrow id) rfl post world

@[simp] theorem wp_saveEscrow (escrow : EscrowEntity)
    (post : Except HttpException Unit → World → Prop) :
    (handler.shield spared).wp (escrowRepository.save escrow) post world ↔
      post (.ok ()) (world.saved escrow) ∧ (spared (.saveEscrow escrow) = false →
          ∀ error, post (.error error) world) := wp_await spared (.saveEscrow escrow) rfl post world

@[simp] theorem wp_insertEscrow (escrow : EscrowEntity)
    (post : Except HttpException EscrowEntity → World → Prop) :
    (handler.shield spared).wp (escrowRepository.insert escrow) post world ↔
      post (.ok { escrow with id := world.escrows.next })
          (world.saved { escrow with id := world.escrows.next }) ∧
        (spared (.insertEscrow escrow) = false → ∀ error, post (.error error) world) :=
  wp_await spared (.insertEscrow escrow) rfl post world

@[simp] theorem wp_keypairRandom (held : List PublicKey)
    (post : Except HttpException PublicKey → World → Prop) :
    (handler.shield spared).wp (keypairRandom held) post world ↔
      post (.ok (freshKey (held ++ world.knownKeys))) world :=
  wp_await_total spared (.keypairRandom held) rfl post world

@[simp] theorem wp_dateNow (post : Except HttpException Date → World → Prop) :
    (handler.shield spared).wp dateNow post world ↔
      post (.ok world.now) world := wp_await_total spared .dateNow rfl post world

@[simp] theorem wp_loadAccount (key : PublicKey) (post : Except HttpException Unit → World → Prop) :
    (handler.shield spared).wp (stellarServer.loadAccount key) post world ↔ post (.ok ()) world ∧
        (spared (.loadAccount key) = false → ∀ error, post (.error error) world) :=
  wp_await spared (.loadAccount key) rfl post world

@[simp] theorem wp_submitTransaction (tx : Transaction)
    (post : Except HttpException TxHash → World → Prop) :
    (handler.shield spared).wp (submitTransaction tx) post world ↔
      post (.ok world.ledger.length) (world.submitted [tx]) ∧
        (spared (.submitTransaction tx) = false → ∀ error, post (.error error) world) :=
  wp_await spared (.submitTransaction tx) rfl post world

@[simp] theorem wp_buildTransaction (source destination : PublicKey) (amount : Amount)
    (post : Except HttpException Transaction → World → Prop) :
    (handler.shield spared).wp (buildTransaction source destination amount) post world ↔
      post (.ok { source, destination, amount }) world ∧ (spared (.loadAccount source) = false →
          ∀ error, post (.error error) world) := by simp [buildTransaction]

@[simp] theorem wp_updateDisputeFlag (escrowId : Id) (disputeFlag : Bool)
    (post : Except HttpException Unit → World → Prop) :
    (handler.shield spared).wp (escrowRepository.updateDisputeFlag escrowId disputeFlag) post
        world ↔ post (.ok ()) (world.flagged escrowId disputeFlag) ∧
        (spared (.updateDisputeFlag escrowId disputeFlag) = false →
          ∀ error, post (.error error) world) := by
  refine (wp_await spared (.updateDisputeFlag escrowId disputeFlag) rfl post world).trans ?_
  cases stored : world.escrows.row escrowId <;> simp [act, World.flagged, World.saved, stored]

@[simp] theorem wp_findLocked (post : Except HttpException (List EscrowEntity) → World → Prop) :
    (handler.shield spared).wp escrowRepository.findLocked post world ↔
      post (.ok (world.escrows.rows.filter fun escrow =>
          escrow.status = .locked ∧ escrow.disputeFlag = false)) world ∧
        (spared .findLockedEscrows = false → ∀ error, post (.error error) world) :=
  wp_await spared .findLockedEscrows rfl post world

@[simp] theorem wp_insertDispute (dispute : Dispute)
    (post : Except HttpException Dispute → World → Prop) :
    (handler.shield spared).wp (disputeRepo.insert dispute) post world ↔
      post (.ok (world.opening dispute)) (world.disputed (world.opening dispute)) ∧
        (spared (.insertDispute dispute) = false → ∀ error, post (.error error) world) :=
  wp_await spared (.insertDispute dispute) rfl post world

@[simp] theorem wp_findDispute (id : Id)
    (post : Except HttpException (Option Dispute) → World → Prop) :
    (handler.shield spared).wp (disputeRepo.findOne id) post world ↔
      post (.ok (world.disputes.row id)) world ∧ (spared (.findDispute id) = false →
          ∀ error, post (.error error) world) := wp_await spared (.findDispute id) rfl post world

@[simp] theorem wp_saveDispute (dispute : Dispute)
    (post : Except HttpException Unit → World → Prop) :
    (handler.shield spared).wp (disputeRepo.save dispute) post world ↔
      post (.ok ()) (world.disputed dispute) ∧ (spared (.saveDispute dispute) = false →
          ∀ error, post (.error error) world) :=
  wp_await spared (.saveDispute dispute) rfl post world

@[simp] theorem wp_findActive (escrowId : Id)
    (post : Except HttpException (Option Dispute) → World → Prop) :
    (handler.shield spared).wp (disputeRepo.findActive escrowId) post world ↔
      post (.ok (world.activeDispute? escrowId)) world ∧
        (spared (.findActiveDispute escrowId) = false → ∀ error, post (.error error) world) :=
  wp_await spared (.findActiveDispute escrowId) rfl post world

@[simp] theorem wp_insertEvidence (evidence : Evidence)
    (post : Except HttpException Unit → World → Prop) :
    (handler.shield spared).wp (evidenceRepo.insert evidence) post world ↔
      post (.ok ()) (world.evidenced evidence) ∧ (spared (.insertEvidence evidence) = false →
          ∀ error, post (.error error) world) :=
  wp_await spared (.insertEvidence evidence) rfl post world

@[simp] theorem wp_findOrder (id : Id) (post : Except HttpException (Option Order) → World → Prop) :
    (handler.shield spared).wp (orderRepository.findOne id) post world ↔
      post (.ok (world.orders.row id)) world ∧ (spared (.findOrder id) = false →
          ∀ error, post (.error error) world) := wp_await spared (.findOrder id) rfl post world

@[simp] theorem wp_emitPaymentReleased (event : PaymentReleasedEvent)
    (post : Except HttpException Unit → World → Prop) :
    (handler.shield spared).wp (emitPaymentReleased event) post world ↔
      post (.ok ()) (world.emitted event) :=
  wp_await_total spared (.emitPaymentReleased event) rfl post world

end

/-! ### Payouts as the calls plan them -/

/-- What a payout call sets out to do once its checks have passed: the
transactions it submits, in order, and the row it stores after them. -/
structure Payout where
  legs : List Transaction
  settled : Option TxHash → Option TxHash → Date → EscrowEntity

/-- The transaction that pays one share out of an escrow account. -/
def pays (escrow : EscrowEntity) (destination : PublicKey) (share : Amount) : Transaction :=
  { source := escrow.escrowAccountPublicKey, destination, amount := share }

/-- The legs of a distribution: a share that is not positive is not sent. -/
def shareLegs (escrow : EscrowEntity) (destination : PublicKey)
    (share : Amount) : List Transaction :=
  if share > 0 then [pays escrow destination share] else []

def releasePayout (escrow : EscrowEntity) : Payout where
  legs := [pays escrow escrow.sellerPublicKey escrow.amount]
  settled releaseHash _ now :=
    { escrow with
      releaseTransactionHash := releaseHash
      status := .released
      deliveryConfirmedAt := some now }

def partialPayout (escrow : EscrowEntity) (releasedAmount : Amount) :
    Payout where
  legs := shareLegs escrow escrow.sellerPublicKey releasedAmount ++
      shareLegs escrow escrow.buyerPublicKey (escrow.amount - releasedAmount)
  settled releaseHash refundHash _ :=
    { escrow with
      releaseTransactionHash := releaseHash
      refundTransactionHash := refundHash
      releasedAmount := releasedAmount
      refundedAmount := escrow.amount - releasedAmount
      status :=
        if escrow.amount - releasedAmount > 0 then .partiallyReleased
        else .released }

def adminPayout (escrow : EscrowEntity) (distribution : Distribution) :
    Payout where
  legs := shareLegs escrow escrow.sellerPublicKey distribution.toSeller ++
      shareLegs escrow escrow.buyerPublicKey distribution.toBuyer
  settled releaseHash refundHash now :=
    { escrow with
      releaseTransactionHash := releaseHash
      refundTransactionHash := refundHash
      status := .released
      deliveryConfirmedAt := some now }

def refundPayout (escrow : EscrowEntity) : Payout where
  legs := [pays escrow escrow.buyerPublicKey escrow.amount]
  settled _ refundHash now :=
    { escrow with
      refundTransactionHash := refundHash
      refundedAmount := escrow.amount
      releasedAmount := 0
      status := .refunded
      cancelledAt := some now }

/-- The transition table allows the move. -/
def allows (escrow : EscrowEntity) (status : EscrowStatus) : Prop :=
  status ∈ escrowTransitionValidator.validTransitions escrow.status

instance (escrow : EscrowEntity) (status : EscrowStatus) :
    Decidable (allows escrow status) := inferInstanceAs (Decidable (_ ∈ _))

/-! The statuses each target of the calls is allowed from. -/

section

variable {escrow : EscrowEntity}

theorem allows_released_iff :
    allows escrow .released ↔ escrow.status = .locked ∨ escrow.status = .partiallyReleased := by
  unfold allows
  cases escrow.status <;> decide

theorem allows_partiallyReleased_iff :
    allows escrow .partiallyReleased ↔ escrow.status = .locked := by
  unfold allows
  cases escrow.status <;> decide

theorem allows_refunded_iff :
    allows escrow .refunded ↔ escrow.status = .locked ∨
      escrow.status = .frozen ∨ escrow.status = .partiallyReleased := by
  unfold allows
  cases escrow.status <;> decide

theorem allows_frozen_iff :
    allows escrow .frozen ↔ escrow.status = .locked := by
  unfold allows
  cases escrow.status <;> decide

end

/-- The payout a call plans on the row it finds, if the row's status and the
call's amounts pass its checks. -/
def EscrowCall.payout? (escrow : EscrowEntity) : EscrowCall → Option Payout
  | .releaseFunds _ =>
    if allows escrow .released then some (releasePayout escrow) else none
  | .releasePartial _ releasedAmount =>
    if allows escrow .partiallyReleased ∧ 0 < releasedAmount ∧ releasedAmount ≤ escrow.amount then
      some (partialPayout escrow releasedAmount)
    else none
  | .adminReleaseFunds _ distribution =>
    if escrow.status = .frozen ∧ distribution.toSeller + distribution.toBuyer = escrow.amount then
      some (adminPayout escrow distribution)
    else none
  | .refundBuyer _ =>
    if allows escrow .refunded then some (refundPayout escrow) else none
  | .createEscrow _ | .freezeEscrow _ => none

/-- How a planned payout can end: what has been sent, and the row as it is
stored then.  `stopped` and `noted` are a failure before the last leg went
out, without and with the error text stored; `unsaved` and `savedLate` a
failure of the final save, where the second attempt in the `catch` block
failed too or succeeded. -/
inductive Pays (spared : Spared) (escrow : EscrowEntity) (payout : Payout) :
    Except HttpException EscrowResponseDto → List Transaction → EscrowEntity → Prop where
  | stopped (sent : List Transaction) (error : HttpException)
      (part : sent <+: payout.legs) (short : sent ≠ payout.legs) :
      Pays spared escrow payout (.error error) sent escrow
  | noted (sent : List Transaction) (error : HttpException)
      (message : String) (part : sent <+: payout.legs) (short : sent ≠ payout.legs) :
      Pays spared escrow payout (.error error) sent { escrow with errorMessage := some message }
  | unsaved (error : HttpException) (releaseHash refundHash : Option TxHash) (now : Date)
      (exposed : spared (.saveEscrow (payout.settled releaseHash refundHash now)) = false) :
      Pays spared escrow payout (.error error) payout.legs escrow
  | savedLate (error : HttpException) (message : String)
      (releaseHash refundHash : Option TxHash) (now : Date) (exposed : spared (.saveEscrow
        (payout.settled releaseHash refundHash now)) = false) :
      Pays spared escrow payout (.error error) payout.legs
        { payout.settled releaseHash refundHash now with
          errorMessage := some message }
  | settled (response : EscrowResponseDto) (releaseHash refundHash : Option TxHash) (now : Date) :
      Pays spared escrow payout (.ok response) payout.legs
        (payout.settled releaseHash refundHash now)

/-- What a call that got past its checks does to the row it found. -/
inductive Moves (spared : Spared) (call : EscrowCall) (escrow : EscrowEntity) :
    Except HttpException EscrowResponseDto → List Transaction → EscrowEntity → Prop where
  | paid {payout : Payout} {result : Except HttpException EscrowResponseDto}
      {sent : List Transaction} {row : EscrowEntity} (planned : call.payout? escrow = some payout)
      (ended : Pays spared escrow payout result sent row) :
      Moves spared call escrow result sent row
  | froze (allowed : allows escrow .frozen) (named : call = .freezeEscrow escrow.id)
      (response : EscrowResponseDto) :
      Moves spared call escrow (.ok response) [] { escrow with status := .frozen }

/-- What one call about an existing escrow can do to the world: reject
without writing, or move one row. -/
inductive CallOutcome (spared : Spared) (world : World) (call : EscrowCall) (id : Id) :
    Except HttpException EscrowResponseDto → World → Prop where
  | rejected (error : HttpException) :
      CallOutcome spared world call id (.error error) world
  | moved {escrow row : EscrowEntity} {sent : List Transaction}
      {result : Except HttpException EscrowResponseDto} (found : world.escrows.row id = some escrow)
      (moves : Moves spared call escrow result sent row) :
      CallOutcome spared world call id result ((world.submitted sent).saved row)

/-! ### Every call ends in one of these ways -/

/-- The outcomes of a payout as a postcondition on worlds. -/
def PaidOut (spared : Spared) (world : World) (escrow : EscrowEntity) (payout : Payout)
    (result : Except HttpException EscrowResponseDto) (after : World) :
    Prop := ∃ sent row, Pays spared escrow payout result sent row ∧
    after = (world.submitted sent).saved row

theorem submitted_eq_saved (found : world.escrows.row id = some escrow) (sent : List Transaction) :
    world.submitted sent = (world.submitted sent).saved escrow := by
  unfold World.saved
  rw [World.submitted_escrows, Table.save_stored found]
  rfl

section

variable {spared : Spared} {world : World} {escrow : EscrowEntity} {id : Id}

theorem PaidOut.stopped {payout : Payout}
    (found : world.escrows.row id = some escrow) (sent : List Transaction)
    (error : HttpException) (part : sent <+: payout.legs) (short : sent ≠ payout.legs) :
    PaidOut spared world escrow payout (.error error) (world.submitted sent) :=
  ⟨sent, escrow, .stopped sent error part short, submitted_eq_saved found sent⟩

theorem PaidOut.unsaved {payout : Payout}
    (found : world.escrows.row id = some escrow) (error : HttpException)
    (releaseHash refundHash : Option TxHash) (now : Date) (exposed : spared (.saveEscrow
      (payout.settled releaseHash refundHash now)) = false) :
    PaidOut spared world escrow payout (.error error) (world.submitted payout.legs) :=
  ⟨payout.legs, escrow, .unsaved error releaseHash refundHash now exposed,
    submitted_eq_saved found payout.legs⟩

theorem PaidOut.untouched {payout : Payout}
    (found : world.escrows.row id = some escrow) (error : HttpException)
    (planned : payout.legs ≠ []) :
    PaidOut spared world escrow payout (.error error) world := by
  have ended : PaidOut spared world escrow payout _ _ :=
    .stopped found [] error List.nil_prefix planned.symm
  rwa [World.submitted_nil] at ended

end

theorem wp_payShare (escrow : EscrowEntity) (destination : PublicKey) (share : Amount)
    (post : Except HttpException (Option TxHash) → World → Prop) (sent : ∀ hash,
      post (.ok hash) (world.submitted (shareLegs escrow destination share)))
    (failed : 0 < share → ∀ error, post (.error error) world) :
    (handler.shield spared).wp (payShare escrow destination share) post world := by
  unfold payShare
  by_cases positive : share > 0
  · have leg := sent (some world.ledger.length)
    simp only [shareLegs, positive, if_true] at leg
    simp only [positive, if_true, wp_bind, wp_buildTransaction, andThen_ok,
      andThen_error, wp_submitTransaction, wp_pure]
    exact ⟨⟨leg, fun _ => failed positive⟩, fun _ => failed positive⟩
  · simp_all [shareLegs]

/-- The `catch` block always rethrows; whether the entity is stored is up to
its save. -/
theorem wp_payoutFailed (heading : String) (escrow : EscrowEntity) (error : HttpException)
    (post : Except HttpException EscrowResponseDto → World → Prop)
    (stored : ∀ rethrown, post (.error rethrown)
      (world.saved { escrow with errorMessage := some error.message }))
    (lost : ∀ rethrown, post (.error rethrown) world) :
    (handler.shield spared).wp (payoutFailed heading escrow error) post world := by
  simp_all [payoutFailed]

theorem payBoth_spec
    (found : world.escrows.row id = some escrow) (heading : String) (toSeller toBuyer : Amount)
    (settled : Option TxHash → Option TxHash → Date → EscrowEntity) :
    (handler.shield spared).wp (payBoth heading escrow toSeller toBuyer settled)
      (PaidOut spared world escrow
        { legs :=
            shareLegs escrow escrow.sellerPublicKey toSeller ++
              shareLegs escrow escrow.buyerPublicKey toBuyer
          settled }) world := by
  unfold payBoth
  rw [wp_bind, wp_attempt, wp_bind]
  apply wp_payShare
  · intro releaseHash
    rw [andThen_ok, wp_bind]
    apply wp_payShare
    · intro refundHash
      -- both legs are out: only the saves can still fail
      simp only [andThen_ok, wp_pure, wp_bind, wp_dateNow, wp_attempt,
        wp_saveEscrow, World.submitted_append]
      refine ⟨⟨_, _, .settled _ releaseHash refundHash world.now, rfl⟩, fun exposed error => ?_⟩
      apply wp_payoutFailed
      · exact fun rethrown => ⟨_, _, .savedLate rethrown _ releaseHash
          refundHash world.now exposed, rfl⟩
      · exact fun rethrown => .unsaved found rethrown releaseHash refundHash world.now exposed
    · intro positive error
      -- the seller's leg is out, the buyer's is not
      have part := List.prefix_append (shareLegs escrow escrow.sellerPublicKey toSeller)
        (shareLegs escrow escrow.buyerPublicKey toBuyer)
      have short :
          shareLegs escrow escrow.sellerPublicKey toSeller ≠
            shareLegs escrow escrow.sellerPublicKey toSeller ++
              shareLegs escrow escrow.buyerPublicKey toBuyer := by simp [shareLegs, positive]
      apply wp_payoutFailed
      · exact fun rethrown => ⟨_, _, .noted _ rethrown _ part short, rfl⟩
      · exact fun rethrown => .stopped found _ rethrown part short
  · intro positive error
    have planned :
        shareLegs escrow escrow.sellerPublicKey toSeller ++
          shareLegs escrow escrow.buyerPublicKey toBuyer ≠ [] := by simp [shareLegs, positive]
    apply wp_payoutFailed
    · intro rethrown
      refine ⟨[], { escrow with errorMessage := some error.message },
        .noted [] rethrown _ List.nil_prefix planned.symm, ?_⟩
      rw [World.submitted_nil]
    · exact fun rethrown => .untouched found rethrown planned

/-- The look-up every call starts with: the call is rejected, or goes on with
the stored row. -/
theorem wp_findEscrowOrFail (id : Id) (post : Except HttpException EscrowEntity → World → Prop)
    (rejected : ∀ error, post (.error error) world)
    (found : ∀ escrow, world.escrows.row id = some escrow → post (.ok escrow) world) :
    (handler.shield spared).wp (findEscrowOrFail id) post world := by
  simp only [findEscrowOrFail, wp_bind, wp_findEscrow, andThen_ok, andThen_error]
  refine ⟨?_, fun _ => rejected⟩
  cases stored : world.escrows.row id <;> simp_all

theorem wp_validate (escrow : EscrowEntity) (status : EscrowStatus)
    (post : Except HttpException Unit → World → Prop)
    (rejected : ∀ error, post (.error error) world)
    (accepted : allows escrow status → post (.ok ()) world) :
    (handler.shield spared).wp (ofExcept (escrowTransitionValidator.validate escrow.status status))
      post world := by
  rcases escrowTransitionValidator.validate_cases escrow.status status with
    ⟨allowed, valid⟩ | ⟨_, error, invalid⟩
  · rw [valid]
    exact accepted allowed
  · rw [invalid]
    exact rejected error

/-- The single-leg payouts: one transaction, then one save with no second
attempt. -/
theorem paySingle_spec (found : world.escrows.row id = some escrow) (destination : PublicKey)
    (amount : Amount) (payout : Payout) (settled : TxHash → Date → EscrowEntity)
    (legs : payout.legs = [pays escrow destination amount]) (agrees : ∀ hash now,
      payout.settled (some hash) (some hash) now = settled hash now) :
    (handler.shield spared).wp (do
        let tx ← buildTransaction escrow.escrowAccountPublicKey destination amount
        let hash ← submitTransaction tx
        let now ← dateNow
        let escrow := settled hash now
        escrowRepository.save escrow
        pure (mapToResponse escrow))
      (PaidOut spared world escrow payout) world := by
  have planned : payout.legs ≠ [] := by simp [legs]
  have failed : ∀ error, PaidOut spared world escrow payout (.error error) world :=
    fun error => .untouched found error planned
  simp only [wp_bind, wp_buildTransaction, andThen_ok, andThen_error,
    wp_submitTransaction, wp_dateNow, wp_saveEscrow, wp_pure]
  refine ⟨⟨⟨⟨_, _, .settled _ (some world.ledger.length)
    (some world.ledger.length) world.now, ?_⟩, fun exposed error => ?_⟩,
    fun _ => failed⟩, fun _ => failed⟩
  · rw [legs, agrees]
    rfl
  · have ended : PaidOut spared world escrow payout _ _ :=
      .unsaved found error (some world.ledger.length)
        (some world.ledger.length) world.now (by rw [agrees]; exact exposed)
    rwa [legs] at ended

theorem CallOutcome.of_paidOut {call : EscrowCall} {payout : Payout}
    {result : Except HttpException EscrowResponseDto} {after : World}
    (found : world.escrows.row id = some escrow) (planned : call.payout? escrow = some payout)
    (paid : PaidOut spared world escrow payout result after) :
    CallOutcome spared world call id result after := by
  obtain ⟨sent, row, ended, rfl⟩ := paid
  exact .moved found (.paid planned ended)

theorem releaseFunds_spec (world : World) (dto : ReleaseEscrowDto) :
    (handler.shield spared).wp (releaseFunds dto)
      (CallOutcome spared world (.releaseFunds dto) dto.escrowId) world := by
  unfold releaseFunds
  rw [wp_bind]
  apply wp_findEscrowOrFail _ _ fun error => .rejected error
  intro escrow found
  rw [andThen_ok, wp_bind]
  apply wp_validate _ _ _ fun error => .rejected error
  intro allowed
  refine Handler.wp_mono _ (paySingle_spec found escrow.sellerPublicKey
    escrow.amount (releasePayout escrow) _ rfl fun _ _ => rfl) ?_
  intro result after ended
  exact .of_paidOut found (if_pos allowed) ended

theorem refundBuyer_spec (world : World) (dto : RefundEscrowDto) :
    (handler.shield spared).wp (refundBuyer dto)
      (CallOutcome spared world (.refundBuyer dto) dto.escrowId) world := by
  unfold refundBuyer
  rw [wp_bind]
  apply wp_findEscrowOrFail _ _ fun error => .rejected error
  intro escrow found
  rw [andThen_ok, wp_bind]
  apply wp_validate _ _ _ fun error => .rejected error
  intro allowed
  refine Handler.wp_mono _ (paySingle_spec found escrow.buyerPublicKey
    escrow.amount (refundPayout escrow) _ rfl fun _ _ => rfl) ?_
  intro result after ended
  exact .of_paidOut found (if_pos allowed) ended

theorem releasePartial_spec (world : World) (escrowId : Id) (releasedAmount : Amount) :
    (handler.shield spared).wp (releasePartial escrowId releasedAmount)
      (CallOutcome spared world (.releasePartial escrowId releasedAmount) escrowId)
      world := by
  unfold releasePartial
  rw [wp_bind]
  apply wp_findEscrowOrFail _ _ fun error => .rejected error
  intro escrow found
  rw [andThen_ok, wp_bind]
  apply wp_validate _ _ _ fun error => .rejected error
  intro allowed
  rw [andThen_ok, wp_ite]
  split
  · exact .rejected _
  next positive =>
    split
    · exact .rejected _
    next covered =>
      refine Handler.wp_mono _ (payBoth_spec found _ releasedAmount
        (escrow.amount - releasedAmount) _) ?_
      intro result after ended
      exact .of_paidOut found (if_pos ⟨allowed, not_le.mp positive, not_lt.mp covered⟩) ended

theorem adminReleaseFunds_spec (world : World) (escrowId : Id) (distribution : Distribution) :
    (handler.shield spared).wp (adminReleaseFunds escrowId distribution)
      (CallOutcome spared world (.adminReleaseFunds escrowId distribution) escrowId)
      world := by
  unfold adminReleaseFunds
  rw [wp_bind]
  apply wp_findEscrowOrFail _ _ fun error => .rejected error
  intro escrow found
  rw [andThen_ok, wp_ite]
  split
  · exact .rejected _
  next frozen =>
    rw [wp_ite]
    split
    · exact .rejected _
    next total =>
      refine Handler.wp_mono _ (payBoth_spec found _
        distribution.toSeller distribution.toBuyer _) ?_
      intro result after ended
      exact .of_paidOut found (if_pos ⟨not_not.mp frozen, not_not.mp total⟩) ended

theorem freezeEscrow_spec (world : World) (escrowId : Id) :
    (handler.shield spared).wp (freezeEscrow escrowId)
      (CallOutcome spared world (.freezeEscrow escrowId) escrowId) world := by
  unfold freezeEscrow
  rw [wp_bind]
  apply wp_findEscrowOrFail _ _ fun error => .rejected error
  intro escrow found
  rw [andThen_ok, wp_bind]
  apply wp_validate _ _ _ fun error => .rejected error
  intro allowed
  simp only [andThen_ok, wp_bind, wp_saveEscrow, wp_pure, andThen_error]
  refine ⟨?_, fun _ error => .rejected error⟩
  have keyEq : escrow.id = escrowId := world.escrows.keyed found
  rw [← World.submitted_nil (world.saved _)]
  exact .moved found (.froze allowed (by rw [keyEq]) _)

theorem call_spec (world : World) (call : EscrowCall) (id : Id) (named : call.escrowId? = some id) :
    (handler.shield spared).wp call.program (CallOutcome spared world call id) world := by
  cases call with
  | createEscrow dto => cases named
  | releaseFunds dto => cases named; exact releaseFunds_spec world dto
  | releasePartial _ amount =>
    cases named; exact releasePartial_spec world id amount
  | freezeEscrow _ => cases named; exact freezeEscrow_spec world id
  | adminReleaseFunds _ distribution =>
    cases named; exact adminReleaseFunds_spec world id distribution
  | refundBuyer dto => cases named; exact refundBuyer_spec world dto

/-! ### Freezing and flagging -/

/-- What freezing an escrow for a dispute can do: nothing, if the escrow is
not there, not locked, or a call throws; the freeze without the flag; or
both. -/
inductive FreezeOutcome (spared : Spared) (world : World) (id : Id) :
    Except HttpException Unit → World → Prop where
  | rejected (error : HttpException) (reason : ∀ escrow, world.escrows.row id = some escrow →
        escrow.status = .locked → spared (.findEscrow id) = false ∨
            spared (.saveEscrow { escrow with status := .frozen }) = false) :
      FreezeOutcome spared world id (.error error) world
  | unflagged (error : HttpException) {escrow : EscrowEntity}
      (found : world.escrows.row id = some escrow) (locked : escrow.status = .locked)
      (exposed : spared (.updateDisputeFlag id true) = false) :
      FreezeOutcome spared world id (.error error) (world.saved { escrow with status := .frozen })
  | flagged {escrow : EscrowEntity} (found : world.escrows.row id = some escrow)
      (locked : escrow.status = .locked) :
      FreezeOutcome spared world id (.ok ())
        (world.saved { escrow with status := .frozen, disputeFlag := true })

theorem freeze_spec (spared : Spared) (world : World) (id : Id) :
    (handler.shield spared).wp (do
        let _ ← freezeEscrow id
        escrowRepository.updateDisputeFlag id true)
      (FreezeOutcome spared world id) world := by
  unfold freezeEscrow findEscrowOrFail
  simp only [wp_bind, wp_findEscrow, andThen_ok, andThen_error]
  constructor
  · cases found : world.escrows.row id with
    | none =>
      apply FreezeOutcome.rejected
      simp [found]
    | some escrow =>
      simp only [wp_pure, andThen_ok, wp_bind, wp_ofExcept]
      rcases escrowTransitionValidator.validate_cases escrow.status
          .frozen with ⟨allowed, valid⟩ | ⟨forbidden, error, invalid⟩
      · have locked : escrow.status = .locked := allows_frozen_iff.mp allowed
        have flagged : (world.saved { escrow with status := .frozen }).flagged id true = world.saved
                { escrow with status := .frozen, disputeFlag := true } := by
          have keyEq : escrow.id = id := world.escrows.keyed found
          rw [World.flagged_eq (by rw [← keyEq]; exact Table.row_save_self _ _), World.saved_saved]
          rfl
        simp only [valid, andThen_ok, andThen_error, wp_bind,
          wp_saveEscrow, wp_pure, wp_updateDisputeFlag, flagged]
        refine ⟨⟨.flagged found locked, fun exposed error => .unflagged
          error found locked exposed⟩, fun exposed error => ?_⟩
        apply FreezeOutcome.rejected
        simp_all
      · rw [invalid, andThen_error]
        apply FreezeOutcome.rejected
        intro other foundOther locked
        cases found.symm.trans foundOther
        exact absurd (allows_frozen_iff.mpr locked) forbidden
  · intro exposed error
    exact .rejected error fun _ _ _ => .inl exposed

/-! ### Creation -/

/-- The row a creation inserts. -/
def openedEscrow (world : World) (dto : CreateEscrowDto) : EscrowEntity where
  id := world.escrows.next
  orderId := dto.orderId
  buyerPublicKey := dto.buyerPublicKey
  sellerPublicKey := dto.sellerPublicKey
  amount := dto.amount
  escrowAccountPublicKey := freshKey ([dto.buyerPublicKey, dto.sellerPublicKey] ++ world.knownKeys)

/-- The transaction that moves the buyer's money into the escrow account. -/
def lockTransaction (escrow : EscrowEntity) : Transaction where
  source := escrow.buyerPublicKey
  destination := escrow.escrowAccountPublicKey
  amount := escrow.amount

/-- The row after the lock. -/
def lockedEscrow (escrow : EscrowEntity) (hash : TxHash) : EscrowEntity :=
  { escrow with lockTransactionHash := some hash, status := .locked }

@[simp] theorem lockedEscrow_id (escrow : EscrowEntity) (hash : TxHash) :
    (lockedEscrow escrow hash).id = escrow.id := rfl

/-- How a creation that got past its checks can end.  A failure after the
insertion leaves a PENDING row behind, with or without the money locked. -/
inductive Opens (escrow : EscrowEntity) :
    Except HttpException EscrowResponseDto → List Transaction → EscrowEntity → Prop where
  | unlocked (error : HttpException) : Opens escrow (.error error) [] escrow
  | unrecorded (error : HttpException) :
      Opens escrow (.error error) [lockTransaction escrow] escrow
  | locked (response : EscrowResponseDto) (hash : TxHash) :
      Opens escrow (.ok response) [lockTransaction escrow] (lockedEscrow escrow hash)

/-- What a creation can do to the world. -/
inductive CreateOutcome (world : World) (dto : CreateEscrowDto) :
    Except HttpException EscrowResponseDto → World → Prop where
  | rejected (error : HttpException) :
      CreateOutcome world dto (.error error) world
  | opened {result : Except HttpException EscrowResponseDto}
      {sent : List Transaction} {row : EscrowEntity} (positive : 0 < dto.amount)
      (distinct : dto.buyerPublicKey ≠ dto.sellerPublicKey)
      (opens : Opens (openedEscrow world dto) result sent row) :
      CreateOutcome world dto result ((world.submitted sent).saved row)

theorem createEscrow_spec (world : World) (dto : CreateEscrowDto) :
    (handler.shield spared).wp (createEscrow dto) (CreateOutcome world dto) world := by
  unfold createEscrow
  simp only [wp_ite, wp_throw, wp_bind, andThen_error, andThen_ok,
    wp_keypairRandom, wp_insertEscrow, wp_buildTransaction,
    wp_submitTransaction, wp_saveEscrow, wp_pure]
  split
  · exact .rejected _
  next positive =>
    split
    · exact .rejected _
    next distinct =>
      have positive := not_le.mp positive
      have unlocked : ∀ error, CreateOutcome world dto (.error error)
          (world.saved (openedEscrow world dto)) := by
        intro error
        rw [← World.submitted_nil (world.saved _)]
        exact .opened positive distinct (.unlocked error)
      refine ⟨⟨⟨⟨?_, fun _ error => ?_⟩, fun _ => unlocked⟩,
        fun _ => unlocked⟩, fun _ error => .rejected error⟩
      · have locked : CreateOutcome world dto _ _ := .opened positive distinct (.locked
            (mapToResponse (lockedEscrow (openedEscrow world dto) world.ledger.length))
            world.ledger.length)
        rw [← World.saved_saved _ (lockedEscrow_id (openedEscrow world dto) _).symm] at locked
        exact locked
      · exact .opened positive distinct (.unrecorded error)

end MarketX.Settlement
