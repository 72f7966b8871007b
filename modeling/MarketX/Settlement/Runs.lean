/-
Module: MarketX.Settlement.Runs
Purpose: Calls of the escrow service one after the other, what stays the same
  about an escrow under all of them, and which transactions count as its
  payouts.
Trusted boundary: none
Main exports: Terms, isPayout, paidTo, Invocation
-/
import MarketX.Effects.Totals
import MarketX.Effects.Runs
import MarketX.Settlement.Payout

namespace MarketX

/-- What creation fixes about an escrow. -/
structure Terms where
  id : Id
  orderId : Id
  buyerPublicKey : PublicKey
  sellerPublicKey : PublicKey
  amount : Amount
  escrowAccountPublicKey : PublicKey
deriving DecidableEq

def EscrowEntity.terms (escrow : EscrowEntity) : Terms where
  id := escrow.id
  orderId := escrow.orderId
  buyerPublicKey := escrow.buyerPublicKey
  sellerPublicKey := escrow.sellerPublicKey
  amount := escrow.amount
  escrowAccountPublicKey := escrow.escrowAccountPublicKey

namespace Settlement

open Effects Handler

/-! ### What an escrow is about -/

/-- A transaction out of the escrow's account to one of its two parties. -/
def isPayout (escrow : EscrowEntity) (tx : Transaction) : Bool :=
  tx.source = escrow.escrowAccountPublicKey ∧ (tx.destination = escrow.sellerPublicKey ∨
      tx.destination = escrow.buyerPublicKey)

/-- A transaction out of the escrow's account to the given party. -/
def isPayoutTo (escrow : EscrowEntity) (party : PublicKey) (tx : Transaction) : Bool :=
  tx.source = escrow.escrowAccountPublicKey ∧ tx.destination = party

/-- Everything submitted out of the escrow's account to the given party. -/
def paidTo (escrow : EscrowEntity) (party : PublicKey) (ledger : List Transaction) : Amount :=
  total (isPayoutTo escrow party) Transaction.amount ledger

/-- Everything submitted out of the escrow's account to its parties. -/
def paidOut (escrow : EscrowEntity) (ledger : List Transaction) : Amount :=
  total (isPayout escrow) Transaction.amount ledger

/-- Nothing has been paid to the parties of the escrow. -/
def Unpaid (escrow : EscrowEntity) (ledger : List Transaction) : Prop :=
  ∀ tx ∈ ledger, isPayout escrow tx = false

instance (escrow : EscrowEntity) (ledger : List Transaction) :
    Decidable (Unpaid escrow ledger) := inferInstanceAs (Decidable (∀ tx ∈ ledger, _))

variable {escrow row : EscrowEntity} {sent : List Transaction} {call : EscrowCall}
  {tx : Transaction} {spared : Spared} {result : Except HttpException EscrowResponseDto}
  {world after : World} {id : Id} {key : PublicKey}

theorem Unpaid.append {ledger : List Transaction}
    (unpaid : Unpaid escrow ledger) (unrelated : Unpaid escrow sent) :
    Unpaid escrow (ledger ++ sent) := fun tx member =>
  (List.mem_append.mp member).elim (unpaid tx) (unrelated tx)

/-- What was submitted after a given point of the ledger. -/
def World.sentSince (world start : World) : List Transaction :=
  world.ledger.drop start.ledger.length

theorem paidOut_eq
    (distinct : escrow.buyerPublicKey ≠ escrow.sellerPublicKey) (ledger : List Transaction) :
    paidOut escrow ledger = paidTo escrow escrow.sellerPublicKey ledger +
        paidTo escrow escrow.buyerPublicKey ledger := by
  have disjoint : ∀ tx, isPayoutTo escrow escrow.sellerPublicKey tx = true →
        isPayoutTo escrow escrow.buyerPublicKey tx = false := by
    intro tx toSeller
    simp only [isPayoutTo, decide_eq_true_eq, decide_eq_false_iff_not] at toSeller ⊢
    grind
  rw [paidTo, paidTo, ← total_or ledger disjoint]
  refine total_congr fun tx _ => ?_
  simp [isPayout, isPayoutTo, and_or_left]

section

variable {row escrow : EscrowEntity} (same : row.terms = escrow.terms)

include same

theorem id_of_terms : row.id = escrow.id := congrArg Terms.id same

theorem amount_of_terms : row.amount = escrow.amount := congrArg Terms.amount same

theorem buyer_of_terms : row.buyerPublicKey = escrow.buyerPublicKey :=
  congrArg Terms.buyerPublicKey same

theorem seller_of_terms : row.sellerPublicKey = escrow.sellerPublicKey :=
  congrArg Terms.sellerPublicKey same

theorem account_of_terms :
    row.escrowAccountPublicKey = escrow.escrowAccountPublicKey :=
  congrArg Terms.escrowAccountPublicKey same

theorem isPayout_of_terms : isPayout row = isPayout escrow := by
  grind [isPayout, account_of_terms, seller_of_terms, buyer_of_terms]

theorem paidTo_of_terms (party : PublicKey) :
    paidTo row party = paidTo escrow party := by
  unfold paidTo isPayoutTo
  rw [account_of_terms same]

theorem lockTransaction_of_terms :
    lockTransaction row = lockTransaction escrow := by
  grind [lockTransaction, buyer_of_terms, account_of_terms, amount_of_terms]

end

/-! ### What a planned payout is -/

/-- The four payouts and the checks that let each through. -/
inductive Plans (escrow : EscrowEntity) : EscrowCall → Payout → Prop where
  | release (dto : ReleaseEscrowDto) (allowed : allows escrow .released) :
      Plans escrow (.releaseFunds dto) (releasePayout escrow)
  | partly (escrowId : Id) (releasedAmount : Amount) (allowed : allows escrow .partiallyReleased)
      (positive : 0 < releasedAmount) (covered : releasedAmount ≤ escrow.amount) :
      Plans escrow (.releasePartial escrowId releasedAmount) (partialPayout escrow releasedAmount)
  | admin (escrowId : Id) (distribution : Distribution) (frozen : escrow.status = .frozen)
      (complete :
        distribution.toSeller + distribution.toBuyer = escrow.amount) :
      Plans escrow (.adminReleaseFunds escrowId distribution) (adminPayout escrow distribution)
  | refund (dto : RefundEscrowDto) (allowed : allows escrow .refunded) :
      Plans escrow (.refundBuyer dto) (refundPayout escrow)

theorem plans_of_payout? {payout : Payout} (planned : call.payout? escrow = some payout) :
    Plans escrow call payout := by
  cases call <;> simp only [EscrowCall.payout?, Option.ite_none_right_eq_some,
    Option.some.injEq, reduceCtorEq] at planned
  case releaseFunds dto =>
      obtain ⟨allowed, rfl⟩ := planned
      exact .release dto allowed
  case releasePartial escrowId amount =>
      obtain ⟨⟨allowed, positive, covered⟩, rfl⟩ := planned
      exact .partly escrowId amount allowed positive covered
  case adminReleaseFunds escrowId distribution =>
      obtain ⟨⟨frozen, complete⟩, rfl⟩ := planned
      exact .admin escrowId distribution frozen complete
  case refundBuyer dto =>
      obtain ⟨allowed, rfl⟩ := planned
      exact .refund dto allowed

theorem Plans.paying {payout : Payout} (plans : Plans escrow call payout) :
    escrow.status = .locked ∨ escrow.status = .frozen ∨ escrow.status = .partiallyReleased := by
  cases plans with
  | release _ allowed => exact (allows_released_iff.mp allowed).imp_right .inr
  | partly _ _ allowed _ _ => exact .inl (allows_partiallyReleased_iff.mp allowed)
  | admin _ _ frozen _ => exact .inr (.inl frozen)
  | refund _ allowed => exact allows_refunded_iff.mp allowed

theorem mem_shareLegs {destination : PublicKey}
    {share : Amount} (leg : tx ∈ shareLegs escrow destination share) :
    tx = pays escrow destination share ∧ 0 < share := by simp_all [shareLegs]

/-- Every leg goes from the escrow's account to a party, and moves money
when the escrow holds some. -/
theorem Plans.leg {payout : Payout} (plans : Plans escrow call payout) (leg : tx ∈ payout.legs) :
    isPayout escrow tx = true ∧ (0 < escrow.amount → 0 < tx.amount) := by
  have toSeller : ∀ share, isPayout escrow (pays escrow escrow.sellerPublicKey share) = true :=
    fun share => by simp [isPayout, pays]
  have toBuyer : ∀ share, isPayout escrow (pays escrow escrow.buyerPublicKey share) = true :=
    fun share => by simp [isPayout, pays]
  cases plans with
  | release =>
    rw [List.mem_singleton.mp leg]
    exact ⟨toSeller _, id⟩
  | refund =>
    rw [List.mem_singleton.mp leg]
    exact ⟨toBuyer _, id⟩
  | partly | admin =>
    rcases List.mem_append.mp leg with leg | leg
    · obtain ⟨rfl, positive⟩ := mem_shareLegs leg
      exact ⟨toSeller _, fun _ => positive⟩
    · obtain ⟨rfl, positive⟩ := mem_shareLegs leg
      exact ⟨toBuyer _, fun _ => positive⟩

theorem Plans.terms {payout : Payout} (plans : Plans escrow call payout)
    (releaseHash refundHash : Option TxHash) (now : Date) :
    (payout.settled releaseHash refundHash now).terms = escrow.terms := by
  cases plans <;> rfl

theorem Pays.part {payout : Payout} (ended : Pays spared escrow payout result sent row) :
    sent <+: payout.legs := by cases ended <;> simp_all

theorem Moves.terms (moves : Moves spared call escrow result sent row) :
    row.terms = escrow.terms := by
  cases moves with
  | froze => rfl
  | paid planned ended =>
    have plans := plans_of_payout? planned
    cases ended with
    | stopped | noted | unsaved => rfl
    | savedLate _ _ releaseHash refundHash now
    | settled _ releaseHash refundHash now => exact plans.terms releaseHash refundHash now

theorem Moves.payout
    (moves : Moves spared call escrow result sent row)
    (member : tx ∈ sent) : isPayout escrow tx = true := by
  cases moves with
  | froze => cases member
  | paid planned ended => exact ((plans_of_payout? planned).leg (ended.part.mem member)).1

theorem Opens.terms (opens : Opens escrow result sent row) :
    row.terms = escrow.terms := by
  cases opens <;> rfl

/-! ### Runs -/

/-- One call, and which of its effects throw. -/
structure Invocation where
  call : EscrowCall
  faults : List Fault

def invoke (world : World) (invocation : Invocation) : World :=
  (handler.exec invocation.call.program invocation.faults world).2

/-- What any call of the service can do. -/
inductive Invoked (world : World) (call : EscrowCall) :
    Except HttpException EscrowResponseDto → World → Prop where
  | rejected (error : HttpException) :
      Invoked world call (.error error) world
  | opened {dto : CreateEscrowDto} {result : Except HttpException EscrowResponseDto}
      {sent : List Transaction} {row : EscrowEntity}
      (creates : call = .createEscrow dto) (positive : 0 < dto.amount)
      (distinct : dto.buyerPublicKey ≠ dto.sellerPublicKey)
      (opens : Opens (openedEscrow world dto) result sent row) :
      Invoked world call result ((world.submitted sent).saved row)
  | moved {id : Id} {escrow row : EscrowEntity} {sent : List Transaction}
      {result : Except HttpException EscrowResponseDto} (named : call.escrowId? = some id)
      (found : world.escrows.row id = some escrow)
      (moves : Moves noneSpared call escrow result sent row) :
      Invoked world call result ((world.submitted sent).saved row)

theorem CallOutcome.invoked (named : call.escrowId? = some id)
    (outcome : CallOutcome noneSpared world call id result after) :
    Invoked world call result after := by
  cases outcome with
  | rejected error => exact .rejected error
  | moved found moves => exact .moved named found moves

theorem program_spec (world : World) (call : EscrowCall) :
    handler.wp call.program (Invoked world call) world := by
  rw [← handler.shield_none]
  cases named : call.escrowId? with
  | none =>
    cases call with
    | createEscrow dto =>
      apply Handler.wp_mono _ (createEscrow_spec world dto)
      intro result after outcome
      cases outcome with
      | rejected error => exact .rejected error
      | opened positive distinct opens => exact .opened rfl positive distinct opens
    | _ => cases named
  | some id =>
    exact Handler.wp_mono _ (call_spec world call id named) fun _ _ outcome => outcome.invoked named

theorem invoke_spec (world : World) (invocation : Invocation) :
    Invoked world invocation.call (handler.exec invocation.call.program invocation.faults world).1
      (invoke world invocation) :=
  handler.wp_sound (program_spec world invocation.call) invocation.faults

/-! ### Accounts of different escrows are different -/

/-- No two stored escrows have one account. -/
def Separate (world : World) : Prop := ∀ ⦃id other : Id⦄ ⦃a b : EscrowEntity⦄,
    world.escrows.row id = some a → world.escrows.row other = some b →
      a.escrowAccountPublicKey = b.escrowAccountPublicKey → id = other

theorem party_known (stored : world.escrows.row id = some escrow)
    (part : key ∈ [escrow.buyerPublicKey, escrow.sellerPublicKey, escrow.escrowAccountPublicKey]) :
    key ∈ world.knownKeys := by
  have listed : escrow ∈ world.escrows.rows := by
    rw [Table.mem_rows, world.escrows.keyed stored]
    exact stored
  exact List.mem_append_left _ (List.mem_flatMap.mpr ⟨escrow, listed, part⟩)

theorem account_known (stored : world.escrows.row id = some escrow) :
    escrow.escrowAccountPublicKey ∈ world.knownKeys := party_known stored (by simp)

theorem source_known
    (submitted : tx ∈ world.ledger) : tx.source ∈ world.knownKeys := List.mem_append_right _
    (List.mem_flatMap.mpr ⟨tx, submitted, List.mem_cons_self⟩)

theorem account_ne_known (world : World) (dto : CreateEscrowDto) (known : key ∈ world.knownKeys) :
    (openedEscrow world dto).escrowAccountPublicKey ≠ key :=
  Nat.ne_of_gt (lt_freshKey (List.mem_append_right _ known))

theorem stored_id
    (stored : world.escrows.row id = some escrow) : escrow.id = id := world.escrows.keyed stored

theorem row_saved_cases (stored : (world.saved row).escrows.row id = some escrow) :
    (id = row.id ∧ escrow = row) ∨ (id ≠ row.id ∧ world.escrows.row id = some escrow) := by
  rw [World.saved_escrows, Table.row_save] at stored
  split at stored
  next same => exact .inl ⟨same, (Option.some.inj stored).symm⟩
  next other => exact .inr ⟨other, stored⟩

/-- Storing a row keeps accounts apart when every other stored row has
another account. -/
theorem Separate.saved (separate : Separate world)
    (apart : ∀ {id escrow}, id ≠ row.id → world.escrows.row id = some escrow →
        escrow.escrowAccountPublicKey ≠ row.escrowAccountPublicKey) :
    Separate (world.saved row) := by
  intro id other a b storedA storedB same
  rcases row_saved_cases storedA with ⟨rfl, rfl⟩ | ⟨otherA, oldA⟩
  · rcases row_saved_cases storedB with ⟨rfl, _⟩ | ⟨otherB, oldB⟩ <;> grind
  · rcases row_saved_cases storedB with ⟨rfl, rfl⟩ | ⟨_, oldB⟩
    · exact absurd same (apart otherA oldA)
    · exact separate oldA oldB same

theorem Separate.apart (separate : Separate world)
    {other : Id} {b : EscrowEntity} (found : world.escrows.row id = some escrow)
    (same : row.terms = escrow.terms) (differs : other ≠ row.id)
    (stored : world.escrows.row other = some b) :
    b.escrowAccountPublicKey ≠ row.escrowAccountPublicKey := by
  intro sameAccount
  rw [account_of_terms same] at sameAccount
  exact differs (by rw [separate stored found sameAccount, id_of_terms same, stored_id found])

theorem Separate.invoked (separate : Separate world)
    (outcome : Invoked world call result after) : Separate after := by
  cases outcome with
  | rejected => exact separate
  | @opened dto _ sent row _ _ _ opens =>
    have submitted : Separate (world.submitted sent) := separate
    refine submitted.saved fun _ stored => ?_
    rw [account_of_terms opens.terms]
    exact (account_ne_known world dto (account_known stored)).symm
  | @moved id escrow row sent _ _ found moves =>
    have submitted : Separate (world.submitted sent) := separate
    exact submitted.saved fun differs stored => separate.apart found moves.terms differs stored

theorem Invoked.frame (separate : Separate world)
    (outcome : Invoked world call result after) (stored : world.escrows.row id = some escrow)
    (elsewhere : call.escrowId? ≠ some id) :
    after.escrows.row id = some escrow ∧ ∃ sent, after.ledger = world.ledger ++ sent ∧
        ∀ tx ∈ sent, isPayout escrow tx = false := by
  cases outcome with
  | rejected => exact ⟨stored, [], by simp, by simp⟩
  | @opened dto _ sent row _ _ _ opens =>
    have rowId : row.id = world.escrows.next := id_of_terms opens.terms
    have below : id < world.escrows.next := world.escrows.bounded stored
    refine ⟨?_, sent, rfl, fun tx member => ?_⟩
    · rw [World.saved_escrows, World.submitted_escrows, Table.row_save_of_ne _ _ (by
          show id ≠ row.id
          rw [rowId]
          exact Nat.ne_of_lt below)]
      exact stored
    · have lock : tx = lockTransaction (openedEscrow world dto) := by
        cases opens <;> simp_all
      have known : ∀ {key}, key ∈ [escrow.buyerPublicKey,
          escrow.sellerPublicKey, escrow.escrowAccountPublicKey] →
            (openedEscrow world dto).escrowAccountPublicKey ≠ key :=
        fun part => account_ne_known world dto (party_known stored part)
      simp_all [isPayout, lockTransaction]
  | @moved movedId moving row sent _ named found moves =>
    have rowId : row.id = movedId :=
      (id_of_terms moves.terms).trans (stored_id found)
    have differs : id ≠ row.id := fun same => elsewhere (by rw [named, same, rowId])
    have apart := separate.apart found moves.terms differs stored
    refine ⟨?_, sent, rfl, fun tx member => ?_⟩
    · rw [World.saved_escrows, World.submitted_escrows, Table.row_save_of_ne _ _ differs]
      exact stored
    · have source := moves.payout member
      rw [account_of_terms moves.terms] at apart
      simp only [isPayout, decide_eq_true_eq, decide_eq_false_iff_not] at source ⊢
      grind

/-- How a row stored after a call came to be as it is: the call was about
something else, or created it, or moved it.  `sent` is what the call
submitted. -/
inductive RowStep (world : World) (call : EscrowCall) (id : Id)
    (result : Except HttpException EscrowResponseDto)
    (sent : List Transaction) (row : EscrowEntity) : Prop where
  | kept (stored : world.escrows.row id = some row)
      (unrelated : ∀ tx ∈ sent, isPayout row tx = false) :
      RowStep world call id result sent row
  | opened {dto : CreateEscrowDto} (creates : call = .createEscrow dto) (positive : 0 < dto.amount)
      (distinct : dto.buyerPublicKey ≠ dto.sellerPublicKey)
      (opens : Opens (openedEscrow world dto) result sent row) :
      RowStep world call id result sent row
  | moved {escrow : EscrowEntity} (named : call.escrowId? = some id)
      (found : world.escrows.row id = some escrow)
      (moves : Moves noneSpared call escrow result sent row) :
      RowStep world call id result sent row

theorem Invoked.rowStep (separate : Separate world)
    (outcome : Invoked world call result after) (stored : after.escrows.row id = some row) :
    ∃ sent, after.ledger = world.ledger ++ sent ∧
      RowStep world call id result sent row := by
  have kept : call.escrowId? ≠ some id → world.escrows.row id = some row →
      ∃ sent, after.ledger = world.ledger ++ sent ∧
        RowStep world call id result sent row := by
    intro elsewhere old
    obtain ⟨_, sent, grows, unrelated⟩ := outcome.frame separate old elsewhere
    exact ⟨sent, grows, .kept old unrelated⟩
  cases outcome with
  | rejected => exact ⟨[], by simp, .kept stored (by simp)⟩
  | opened creates positive distinct opens =>
    rcases row_saved_cases stored with ⟨_, rfl⟩ | ⟨_, old⟩
    · exact ⟨_, rfl, .opened creates positive distinct opens⟩
    · exact kept (by simp [creates, EscrowCall.escrowId?]) old
  | moved named found moves =>
    rcases row_saved_cases stored with ⟨keyEq, rfl⟩ | ⟨differs, old⟩
    · rw [id_of_terms moves.terms, stored_id found] at keyEq
      subst keyEq
      exact ⟨_, rfl, .moved named found moves⟩
    · refine kept (fun same => differs ?_) old
      rw [id_of_terms moves.terms, stored_id found]
      exact Option.some.inj (same.symm.trans named)

theorem invoke_rowStep (separate : Separate world) (invocation : Invocation)
    (stored : (invoke world invocation).escrows.row id = some row) :
    ∃ sent, (invoke world invocation).ledger = world.ledger ++ sent ∧
      RowStep world invocation.call id
        (handler.exec invocation.call.program invocation.faults world).1
        sent row :=
  (invoke_spec world invocation).rowStep separate stored

/-- A stored escrow stays stored on its terms.  Either a call pays nothing
out of it and leaves the row alone, or it moves the row. -/
theorem Invoked.rowAfter (separate : Separate world)
    (outcome : Invoked world call result after) (stored : world.escrows.row id = some escrow) :
    ∃ row sent, after.escrows.row id = some row ∧ after.ledger = world.ledger ++ sent ∧
      ((row = escrow ∧ Unpaid escrow sent) ∨ (call.escrowId? = some id ∧
          Moves noneSpared call escrow result sent row)) := by
  by_cases named : call.escrowId? = some id
  · cases outcome with
    | rejected => exact ⟨escrow, [], stored, by simp, .inl ⟨rfl, by simp [Unpaid]⟩⟩
    | opened creates =>
      rw [creates] at named
      cases named
    | @moved other found row sent _ namesOther storedOther moves =>
      cases namesOther.symm.trans named
      cases storedOther.symm.trans stored
      refine ⟨row, sent, ?_, rfl, .inr ⟨named, moves⟩⟩
      rw [World.saved_escrows, ← stored_id stored, ← id_of_terms moves.terms]
      exact Table.row_save_self _ row
  · obtain ⟨kept, sent, grows, unrelated⟩ := outcome.frame separate stored named
    exact ⟨escrow, sent, kept, grows, .inl ⟨rfl, unrelated⟩⟩

/-! ### Reachable databases -/

/-- Nothing has been created yet. -/
def NoEscrows (world : World) : Prop := ∀ id, world.escrows.row id = none

/-- Reached by calls of the escrow service from a database without
escrows. -/
def Reachable (world : World) : Prop := ∃ start invocations, NoEscrows start ∧
    world = run invoke start invocations

/-- What creation checks about an escrow. -/
structure Agreed (escrow : EscrowEntity) : Prop where
  distinct : escrow.buyerPublicKey ≠ escrow.sellerPublicKey
  positive : 0 < escrow.amount

theorem Agreed.of_terms (agreed : Agreed escrow)
    (same : row.terms = escrow.terms) : Agreed row where
  distinct := by
    rw [buyer_of_terms same, seller_of_terms same]
    exact agreed.distinct
  positive := by
    rw [amount_of_terms same]
    exact agreed.positive

/-- What holds in every reachable database. -/
structure WellFormed (world : World) : Prop where
  separate : Separate world
  agreed : ∀ {id escrow}, world.escrows.row id = some escrow → Agreed escrow

theorem NoEscrows.wellFormed (none : NoEscrows world) :
    WellFormed world where
  separate id _ _ _ stored := by
    rw [none id] at stored
    cases stored
  agreed {id _} stored := by
    rw [none id] at stored
    cases stored

theorem WellFormed.invoked (wellFormed : WellFormed world)
    (outcome : Invoked world call result after) : WellFormed after where
  separate := wellFormed.separate.invoked outcome
  agreed {id row} stored := by
    obtain ⟨sent, _, how⟩ := outcome.rowStep wellFormed.separate stored
    cases how with
    | kept old => exact wellFormed.agreed old
    | opened _ positive distinct opens => exact Agreed.of_terms ⟨distinct, positive⟩ opens.terms
    | moved _ found moves => exact (wellFormed.agreed found).of_terms moves.terms

theorem WellFormed.invoke (wellFormed : WellFormed world)
    (invocation : Invocation) : WellFormed (invoke world invocation) :=
  wellFormed.invoked (invoke_spec world invocation)

theorem Reachable.wellFormed (reached : Reachable world) :
    WellFormed world := by
  obtain ⟨start, invocations, none, rfl⟩ := reached
  exact run_preserves (fun _ invocation wellFormed =>
    wellFormed.invoke invocation) none.wellFormed invocations

end Settlement

end MarketX
