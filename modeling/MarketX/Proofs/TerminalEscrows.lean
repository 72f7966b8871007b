/-
Module: MarketX.Proofs.TerminalEscrows
Purpose: Everything that is called on the settlement side, one call at a
  time, with other services changing orders and time passing in between; a
  released, refunded or cancelled escrow is never touched again by any of
  these calls.
Trusted boundary: human-reviewed model of the source (the calls)
Main exports: SettlementCall, SettlementCall.program, Event, terminal_escrow_stays
-/
import MarketX.Effects.Respects
import MarketX.Settlement.DisputesService
import MarketX.Settlement.Runs

namespace MarketX.Settlement

open Effects Handler

/-! ### Calls -/

/-- A call of the escrow service, of the dispute service, or a run of the
auto-release job. -/
inductive SettlementCall where
  | escrow (call : EscrowCall)
  | createDispute (dto : CreateDisputeDto)
  | submitEvidence (dto : SubmitEvidenceDto)
  | escalateDispute (dto : EscalateDisputeDto) (userId : Id)
  | adminUpdateDispute (dto : UpdateDisputeDto)
  | autoResolveDisputes
  | adminResolveDispute (dto : ResolveDisputeDto) (disputeId : Id)
  | handleEscrowAutoRelease
  | triggerManualRelease
deriving DecidableEq

/-- The program of a call, without the value it returns. -/
def SettlementCall.program : SettlementCall → Service Unit
  | .escrow call => do let _ ← call.program; pure ()
  | .createDispute dto => do let _ ← Settlement.createDispute dto; pure ()
  | .submitEvidence dto => Settlement.submitEvidence dto
  | .escalateDispute dto userId => do
      let _ ← Settlement.escalateDispute dto userId
      pure ()
  | .adminUpdateDispute dto => do
      let _ ← Settlement.adminUpdateDispute dto
      pure ()
  | .autoResolveDisputes => do
      let _ ← Settlement.autoResolveDisputes
      pure ()
  | .adminResolveDispute dto disputeId => do
      let _ ← Settlement.adminResolveDispute dto disputeId
      pure ()
  | .handleEscrowAutoRelease => Settlement.handleEscrowAutoRelease
  | .triggerManualRelease => do
      let _ ← Settlement.triggerManualRelease
      pure ()

/-- One call with the failures of its effects, or a change of the orders and
the clock, which the settlement services only read. -/
inductive Event where
  | call (call : SettlementCall) (faults : List Fault)
  | elsewhere (orders : Table Order) (now : Date)

def settle (world : World) : Event → World
  | .call call faults => (handler.exec call.program faults world).2
  | .elsewhere orders now => { world with orders, now }

/-! ### Terminal escrows -/

/-- The statuses nothing leads out of. -/
def isTerminal (status : EscrowStatus) : Bool := status ∈ [.released, .refunded, .cancelled]

/-! ### What every call does to the escrows -/

/-- The row is as it was, and nothing was paid out of it in between. -/
structure LeftAlone (world after : World) (id : Id) (escrow : EscrowEntity) :
    Prop where
  stored : after.escrows.row id = some escrow
  unpaid : ∃ sent, after.ledger = world.ledger ++ sent ∧ Unpaid escrow sent

/-- The database stays well formed, and terminal rows are left alone. -/
structure Evolves (world after : World) : Prop where
  wellFormed : WellFormed after
  terminal : ∀ id escrow, world.escrows.row id = some escrow →
    isTerminal escrow.status = true → LeftAlone world after id escrow

/-- The same, from a well-formed database: a preorder. -/
def EvolvesSafely (world after : World) : Prop := WellFormed world → Evolves world after

variable {world after middle : World} {id : Id} {escrow row : EscrowEntity} {spared : Spared}
  {call : EscrowCall} {result : Except HttpException EscrowResponseDto}

theorem LeftAlone.of_same_ledger (stored : after.escrows.row id = some escrow)
    (ledger : after.ledger = world.ledger) :
    LeftAlone world after id escrow where
  stored := stored
  unpaid := ⟨[], by simp [ledger], by simp [Unpaid]⟩

theorem LeftAlone.trans (first : LeftAlone world middle id escrow)
    (second : LeftAlone middle after id escrow) :
    LeftAlone world after id escrow where
  stored := second.stored
  unpaid := by
    obtain ⟨sentFirst, growsFirst, unpaidFirst⟩ := first.unpaid
    obtain ⟨sentSecond, growsSecond, unpaidSecond⟩ := second.unpaid
    refine ⟨sentFirst ++ sentSecond, ?_, unpaidFirst.append unpaidSecond⟩
    rw [growsSecond, growsFirst, List.append_assoc]

theorem Evolves.refl (wellFormed : WellFormed world) :
    Evolves world world where
  wellFormed := wellFormed
  terminal _ _ stored _ := .of_same_ledger stored rfl

theorem Evolves.trans (first : Evolves world middle) (second : Evolves middle after) :
    Evolves world after where
  wellFormed := second.wellFormed
  terminal id escrow stored terminal :=
    have alone := first.terminal id escrow stored terminal
    alone.trans (second.terminal id escrow alone.stored terminal)

instance : IsPreorder World EvolvesSafely where
  refl _ := Evolves.refl
  trans _ _ _ first second wellFormed :=
    (first wellFormed).trans (second (first wellFormed).wellFormed)

theorem Evolves.of_same (wellFormed : WellFormed world) (escrows : after.escrows = world.escrows)
    (ledger : after.ledger = world.ledger) : Evolves world after where
  wellFormed :=
    { separate := by
        unfold Separate
        rw [escrows]
        exact wellFormed.separate
      agreed := by
        rw [escrows]
        exact wellFormed.agreed }
  terminal _ _ stored _ := .of_same_ledger (by rw [escrows]; exact stored) ledger

theorem Evolves.saved (wellFormed : WellFormed world) (stored : world.escrows.row id = some escrow)
    (open' : isTerminal escrow.status = false)
    (same : row.terms = escrow.terms) : Evolves world (world.saved row) where
  wellFormed :=
    { separate := wellFormed.separate.saved fun differs other =>
        wellFormed.separate.apart stored same differs other
      agreed := by
        intro other found storedAfter
        rcases row_saved_cases storedAfter with ⟨_, rfl⟩ | ⟨_, old⟩
        · exact (wellFormed.agreed stored).of_terms same
        · exact wellFormed.agreed old }
  terminal other found storedOther terminal := by
    apply LeftAlone.of_same_ledger
    · rw [World.saved_escrows, Table.row_save_of_ne]
      · exact storedOther
      · intro sameKey
        have keyEq : other = id := by
          rw [sameKey]
          exact (id_of_terms same).trans (stored_id stored)
        simp_all
    · rfl

theorem Moves.not_terminal {sent : List Transaction}
    (moves : Moves spared call escrow result sent row) :
    isTerminal escrow.status = false := by
  cases moves with
  | froze allowed =>
    rw [allows_frozen_iff.mp allowed]
    rfl
  | paid planned =>
    rcases (plans_of_payout? planned).paying with status | status | status <;> rw [status] <;> rfl

theorem Evolves.invoked (wellFormed : WellFormed world)
    (outcome : Invoked world call result after) : Evolves world after where
  wellFormed := wellFormed.invoked outcome
  terminal id escrow stored terminal := by
    obtain ⟨row, sent, storedAfter, grows, alone | ⟨_, moves⟩⟩ :=
      outcome.rowAfter wellFormed.separate stored
    · rw [alone.1] at storedAfter
      exact ⟨storedAfter, sent, grows, alone.2⟩
    · rw [moves.not_terminal] at terminal
      cases terminal

/-! ### The calls that build on the preorder alone -/

/-- Executions of the program leave terminal rows alone, whatever fails. -/
abbrev Safe {α : Type} (program : Service α) : Prop := handler.Respects EvolvesSafely program

theorem safe_await (op : Op) (escrows : ∀ world, (act op world).2.escrows = world.escrows)
    (ledger : ∀ world, (act op world).2.ledger = world.ledger) :
    Safe (await op) :=
  fun world =>
    ⟨fun wellFormed =>
      Evolves.of_same wellFormed (escrows world) (ledger world),
      fun _ _ => Evolves.refl⟩

theorem safe_escrowCall (call : EscrowCall) : Safe call.program :=
  fun world => handler.wp_mono (program_spec world call)
    fun _ _ outcome wellFormed => .invoked wellFormed outcome

theorem safe_getDisputeById (id : Id) : Safe (getDisputeById id) := by
  apply Respects.bind
  · exact safe_await (.findDispute id) (fun _ => rfl) fun _ => rfl
  · rintro (_ | dispute)
    · exact .throw _
    · exact .pure _

theorem safe_saveDispute (dispute : Dispute) :
    Safe (disputeRepo.save dispute) := safe_await (.saveDispute dispute) (fun _ => rfl) fun _ => rfl

theorem safe_findEscrowOrFail (id : Id) : Safe (findEscrowOrFail id) := by
  apply Respects.bind
  · exact safe_await (.findEscrow id) (fun _ => rfl) fun _ => rfl
  · rintro (_ | escrow)
    · exact .throw _
    · exact .pure _

theorem safe_submitEvidence (dto : SubmitEvidenceDto) :
    Safe (submitEvidence dto) := by
  apply (safe_getDisputeById dto.disputeId).bind
  intro dispute
  apply Respects.guard
  intro _
  exact safe_await (.insertEvidence _) (fun _ => rfl) fun _ => rfl

theorem safe_escalateDispute (dto : EscalateDisputeDto) (userId : Id) :
    Safe (escalateDispute dto userId) := by
  apply (safe_getDisputeById dto.disputeId).bind
  intro dispute
  apply Respects.guard
  intro _
  apply Respects.guard
  intro _
  exact (safe_saveDispute _).bind fun _ => .pure _

theorem safe_adminUpdateDispute (dto : UpdateDisputeDto) :
    Safe (adminUpdateDispute dto) := by
  apply (safe_getDisputeById dto.disputeId).bind
  intro dispute
  cases dto.status with
  | none => exact (safe_saveDispute _).bind fun _ => .pure _
  | some status =>
    apply Respects.guard
    intro _
    exact (safe_saveDispute _).bind fun _ => .pure _

theorem safe_autoResolveDisputes : Safe autoResolveDisputes := by
  apply Respects.bind
  · exact safe_await .findOpenDisputes (fun _ => rfl) fun _ => rfl
  · intro openDisputes
    apply Respects.foldlM
    intro resolvedCount item
    apply Respects.bind
    · exact safe_await .dateNow (fun _ => rfl) fun _ => rfl
    · intro now
      apply Respects.ite
      · exact (safe_saveDispute _).bind fun _ => .pure _
      · exact .pure _

theorem safe_adminResolveDispute (dto : ResolveDisputeDto) (disputeId : Id) :
    Safe (adminResolveDispute dto disputeId) := by
  apply (safe_getDisputeById disputeId).bind
  intro dispute
  apply Respects.guard
  intro _
  cases dispute.escrowId with
  | none => exact (safe_saveDispute _).bind fun _ => .pure _
  | some escrowId =>
    apply Respects.bind
    · apply Respects.attempt
      apply (safe_findEscrowOrFail escrowId).bind
      intro escrow
      exact safe_escrowCall (.adminReleaseFunds escrowId _)
    · rintro (error | response)
      · exact .throw _
      · exact (safe_saveDispute _).bind fun _ => .pure _

theorem safe_freeze (escrowId : Id) :
    Safe (do
      let _ ← freezeEscrow escrowId
      escrowRepository.updateDisputeFlag escrowId true) := by
  intro world
  rw [← handler.shield_none]
  apply Handler.wp_mono _ (freeze_spec noneSpared world escrowId)
  intro result after outcome wellFormed
  have nonterminal : ∀ {escrow : EscrowEntity}, escrow.status = .locked →
      isTerminal escrow.status = false := by
    intro escrow locked
    rw [locked]
    rfl
  cases outcome with
  | rejected => exact .refl wellFormed
  | unflagged _ found locked _ | flagged found locked =>
    exact .saved wellFormed found (nonterminal locked) rfl

theorem safe_createDispute (dto : CreateDisputeDto) :
    Safe (createDispute dto) := by
  apply Respects.bind
  · exact safe_await (.insertDispute _) (fun _ => rfl) fun _ => rfl
  · intro savedDispute
    cases dto.escrowId with
    | none => exact .pure _
    | some escrowId =>
      apply Respects.bind
      · exact (safe_freeze escrowId).attempt
      · rintro (error | _)
        · exact .throw _
        · exact .pure _

/-! ### The auto-release job -/

/-- What the job has in hand: different escrows, each as it is stored and
locked. -/
structure Snapshot (world : World) (escrows : List EscrowEntity) : Prop where
  distinct : escrows.Pairwise fun a b => a.id ≠ b.id
  stored : ∀ escrow ∈ escrows, world.escrows.row escrow.id = some escrow
  locked : ∀ escrow ∈ escrows, escrow.status = .locked

theorem Snapshot.sublist {escrows some' : List EscrowEntity}
    (snapshot : Snapshot world escrows) (sublist : some'.Sublist escrows) :
    Snapshot world some' where
  distinct := snapshot.distinct.sublist sublist
  stored escrow member := snapshot.stored escrow (sublist.mem member)
  locked escrow member := snapshot.locked escrow (sublist.mem member)

theorem snapshot_locked (world : World) :
    Snapshot world (world.escrows.rows.filter fun escrow =>
      escrow.status = .locked ∧ escrow.disputeFlag = false) where
  distinct := world.escrows.rows_pairwise.sublist List.filter_sublist
  stored escrow member := Table.mem_rows.mp (List.mem_of_mem_filter member)
  locked escrow member := by simp_all

theorem checkEligible_spec (world : World) (eligible : List EscrowEntity) (escrow : EscrowEntity) :
    handler.wp (checkEligible eligible escrow)
      (fun result after => after = world ∧ ∀ list, result = .ok list →
        list = eligible ∨ list = eligible ++ [escrow]) world := by
  rw [← handler.shield_none]
  unfold checkEligible
  simp only [wp_bind, wp_findOrder, andThen_ok, andThen_error]
  refine ⟨?_, fun _ error => ⟨trivial, fun _ returned => by cases returned⟩⟩
  cases world.orders.row escrow.orderId with
  | none => simp
  | some order =>
    simp only [wp_ite, wp_pure]
    split
    · simp
    · cases order.deliveredAt with
      | none => simp
      | some deliveredAt =>
        simp only [wp_bind, wp_dateNow, andThen_ok, wp_ite, wp_pure]
        split
        · simp
        · simp

theorem findEligibleEscrows_spec (world : World) :
    handler.wp findEligibleEscrows (fun result after => after = world ∧ ∀ list, result = .ok list →
        Snapshot world list) world := by
  unfold findEligibleEscrows
  rw [wp_bind]
  rw [← handler.shield_none]
  simp only [wp_findLocked, andThen_ok, andThen_error]
  refine ⟨?_, fun _ error => ⟨trivial, fun _ returned => by cases returned⟩⟩
  rw [handler.shield_none]
  -- what is eligible so far, followed by what is still to come, is a part of
  -- the locked rows
  apply wp_foldlM _ fun remaining eligible current => current = world ∧
    (eligible ++ remaining).Sublist (world.escrows.rows.filter fun escrow =>
      escrow.status = .locked ∧ escrow.disputeFlag = false)
  · exact ⟨rfl, List.Sublist.refl _⟩
  · rintro head tail eligible _ ⟨rfl, part⟩
    apply handler.wp_mono (checkEligible_spec _ eligible head)
    rintro (error | list) _ ⟨rfl, kept⟩
    · exact ⟨rfl, fun _ returned => by cases returned⟩
    · refine ⟨rfl, ?_⟩
      rcases kept list rfl with rfl | rfl
      · exact ((List.Sublist.refl _).append (List.sublist_cons_self head tail)).trans part
      · rwa [List.append_assoc]
  · rintro eligible _ ⟨rfl, part⟩
    refine ⟨rfl, fun list returned => ?_⟩
    cases returned
    rw [List.append_nil] at part
    exact (snapshot_locked _).sublist part

def OthersKept (world after : World) (id : Id) : Prop :=
  ∀ other, other ≠ id → after.escrows.row other = world.escrows.row other

theorem OthersKept.saved (world : World) (row : EscrowEntity) :
    OthersKept world (world.saved row) row.id :=
  fun _ differs => Table.row_save_of_ne _ _ differs

theorem CallOutcome.othersKept (outcome : CallOutcome spared world call id result after) :
    OthersKept world after id := by
  cases outcome with
  | rejected => exact fun _ _ => rfl
  | moved found moves =>
    rw [← stored_id found, ← id_of_terms moves.terms]
    exact OthersKept.saved (world.submitted _) _

theorem processAutoRelease_spec (wellFormed : WellFormed world)
    (stored : world.escrows.row escrow.id = some escrow) (locked : escrow.status = .locked) :
    handler.wp (processAutoRelease escrow) (fun _ after => Evolves world after ∧
        OthersKept world after escrow.id) world := by
  rw [← handler.shield_none]
  have unmoved : Evolves world world ∧ OthersKept world world escrow.id :=
    ⟨.refl wellFormed, fun _ _ => rfl⟩
  unfold processAutoRelease
  simp only [wp_bind, wp_findActive, andThen_ok, andThen_error]
  refine ⟨?_, fun _ _ => unmoved⟩
  cases world.activeDispute? escrow.id with
  | some dispute =>
    have nonterminal : isTerminal escrow.status = false := by
      rw [locked]
      rfl
    exact ⟨⟨.saved wellFormed stored nonterminal rfl, .saved world _⟩, fun _ _ => unmoved⟩
  | none =>
    rw [wp_bind]
    apply Handler.wp_mono _ (releaseFunds_spec world _)
    intro result after outcome
    have evolves : Evolves world after := .invoked wellFormed (outcome.invoked rfl)
    have others : OthersKept world after escrow.id := outcome.othersKept
    cases result with
    | error error => exact ⟨evolves, others⟩
    | ok response =>
      simp only [andThen_ok, wp_bind, wp_dateNow, wp_emitPaymentReleased]
      exact ⟨evolves.trans (.of_same evolves.wellFormed rfl rfl), others⟩

theorem triggerManualRelease_spec (wellFormed : WellFormed world) :
    handler.wp triggerManualRelease (fun _ after => Evolves world after)
      world := by
  unfold triggerManualRelease
  rw [wp_bind]
  apply handler.wp_mono (findEligibleEscrows_spec world)
  rintro (error | eligible) _ ⟨rfl, found⟩
  · exact .refl wellFormed
  -- the escrows still to be processed are stored as the snapshot has them
  apply wp_foldlM _ fun remaining _ current => Evolves _ current ∧ Snapshot current remaining
  · exact ⟨.refl wellFormed, found eligible rfl⟩
  · rintro head tail counts current ⟨evolves, snapshot⟩
    have processed := processAutoRelease_spec evolves.wellFormed
      (snapshot.stored head List.mem_cons_self) (snapshot.locked head List.mem_cons_self)
    have rest := snapshot.sublist (List.sublist_cons_self head tail)
    unfold releaseOne
    rw [wp_bind, wp_attempt]
    apply handler.wp_mono processed
    rintro result after ⟨moved, others⟩
    have remaining : Snapshot after tail :=
      { distinct := rest.distinct
        stored := by
          intro escrow member
          have differs :=
            (List.pairwise_cons.mp snapshot.distinct).1 escrow member
          rw [others escrow.id differs.symm]
          exact rest.stored escrow member
        locked := rest.locked }
    cases result
    · exact ⟨evolves.trans moved, remaining⟩
    · exact ⟨evolves.trans moved, remaining⟩
  · exact fun _ current reached => reached.1

theorem handleEscrowAutoRelease_spec (wellFormed : WellFormed world) :
    handler.wp handleEscrowAutoRelease (fun _ after => Evolves world after)
      world := by
  unfold handleEscrowAutoRelease
  rw [wp_bind, wp_attempt]
  apply handler.wp_mono (triggerManualRelease_spec wellFormed)
  rintro (error | counts) after evolves
  · exact evolves
  · exact evolves

/-! ### Every call, every run -/

theorem call_evolves (wellFormed : WellFormed world) (call : SettlementCall) (faults : List Fault) :
    Evolves world (handler.exec call.program faults world).2 := by
  have discarded : ∀ {α : Type} {program : Service α}, Safe program →
      Safe (do let _ ← program; pure ()) :=
    fun safe => safe.bind fun _ => .pure _
  cases call with
  | escrow call => exact (discarded (safe_escrowCall call)).exec faults world wellFormed
  | createDispute dto => exact (discarded (safe_createDispute dto)).exec faults world wellFormed
  | submitEvidence dto => exact (safe_submitEvidence dto).exec faults world wellFormed
  | escalateDispute dto userId =>
    exact (discarded (safe_escalateDispute dto userId)).exec faults world wellFormed
  | adminUpdateDispute dto =>
    exact (discarded (safe_adminUpdateDispute dto)).exec faults world wellFormed
  | autoResolveDisputes => exact (discarded safe_autoResolveDisputes).exec faults world wellFormed
  | adminResolveDispute dto disputeId =>
    exact (discarded (safe_adminResolveDispute dto disputeId)).exec faults world wellFormed
  | handleEscrowAutoRelease =>
    exact handler.wp_sound (handleEscrowAutoRelease_spec wellFormed) faults
  | triggerManualRelease =>
    have spec : handler.wp SettlementCall.triggerManualRelease.program
        (fun _ after => Evolves world after) world := by
      unfold SettlementCall.program
      rw [wp_bind]
      apply handler.wp_mono (triggerManualRelease_spec wellFormed)
      rintro (error | counts) after evolves
      · exact evolves
      · exact evolves
    exact handler.wp_sound spec faults

theorem settle_evolves (wellFormed : WellFormed world)
    (event : Event) : Evolves world (settle world event) := by
  cases event with
  | call call faults => exact call_evolves wellFormed call faults
  | elsewhere orders now => exact .of_same wellFormed rfl rfl

theorem run_evolves (wellFormed : WellFormed world)
    (events : List Event) : Evolves world (run settle world events) := by
  induction events generalizing world with
  | nil => exact .refl wellFormed
  | cons event events ih =>
    have step := settle_evolves wellFormed event
    exact step.trans (ih step.wellFormed)

/-! ### Calls about a terminal escrow throw -/

/-- The calls that are about one given escrow. -/
def SettlementCall.concerns (world : World) (id : Id) :
    SettlementCall → Prop
  | .escrow call => call.escrowId? = some id
  | .createDispute dto => dto.escrowId = some id
  | .adminResolveDispute _ disputeId => ∃ dispute, world.disputes.row disputeId = some dispute ∧
        dispute.escrowId = some id
  | _ => False

section

variable {world : World} {id : Id} {escrow : EscrowEntity}
  (stored : world.escrows.row id = some escrow) (terminal : isTerminal escrow.status = true)

include stored terminal

theorem Invoked.throws {after : World} {call : EscrowCall}
    {result : Except HttpException EscrowResponseDto} (outcome : Invoked world call result after)
    (named : call.escrowId? = some id) : result.isOk = false := by
  cases outcome with
  | rejected => rfl
  | opened creates =>
    rw [creates] at named
    cases named
  | moved namedAgain found moves =>
    cases namedAgain.symm.trans named
    cases found.symm.trans stored
    rw [moves.not_terminal] at terminal
    cases terminal

theorem createDispute_throws (dto : CreateDisputeDto) (about : dto.escrowId = some id) :
    handler.wp (createDispute dto) (fun result _ => result.isOk = false)
      world := by
  unfold createDispute
  rw [← handler.shield_none, wp_bind, about]
  simp only [wp_insertDispute, andThen_ok, andThen_error]
  refine ⟨?_, fun _ _ => rfl⟩
  rw [wp_bind, wp_attempt]
  apply Handler.wp_mono _ (freeze_spec noneSpared _ id)
  intro result after outcome
  cases outcome with
  | rejected => rfl
  | unflagged => rfl
  | flagged found locked =>
    cases found.symm.trans stored
    rw [locked] at terminal
    cases terminal

theorem adminResolveDispute_throws (dto : ResolveDisputeDto) {disputeId : Id} {dispute : Dispute}
    (found : world.disputes.row disputeId = some dispute) (about : dispute.escrowId = some id) :
    handler.wp (adminResolveDispute dto disputeId) (fun result _ => result.isOk = false) world := by
  unfold adminResolveDispute getDisputeById
  rw [← handler.shield_none]
  simp only [wp_bind, wp_findDispute, andThen_ok, andThen_error, found,
    wp_pure, wp_ite, wp_throw, about, wp_attempt]
  refine ⟨?_, fun _ _ => rfl⟩
  split
  · rfl
  · apply wp_findEscrowOrFail
    · exact fun _ => rfl
    · intro escrowFound foundEscrow
      apply Handler.wp_mono _ (@adminReleaseFunds_spec noneSpared world id _)
      intro result after outcome
      have failed := (outcome.invoked rfl).throws stored terminal rfl
      cases result with
      | error => rfl
      | ok => cases failed

theorem concerned_throws (call : SettlementCall)
    (concerns : call.concerns world id) (faults : List Fault) :
    (handler.exec call.program faults world).1.isOk = false := by
  have throws : ∀ {α : Type} {program : Service α},
      handler.wp program (fun result _ => result.isOk = false) world →
        (handler.exec (do let _ ← program; pure ()) faults world).1.isOk =
          false := by
    intro α program holds
    have discarded : handler.wp (do let _ ← program; pure ())
        (fun result _ => result.isOk = false) world := by
      rw [wp_bind]
      apply handler.wp_mono holds
      rintro (error | value) after failed
      · rfl
      · cases failed
    exact handler.wp_sound discarded faults
  cases call with
  | escrow call =>
    exact throws (handler.wp_mono (program_spec world call)
      fun _ _ outcome => outcome.throws stored terminal concerns)
  | createDispute dto => exact throws (createDispute_throws stored terminal dto concerns)
  | adminResolveDispute dto disputeId =>
    obtain ⟨dispute, found, about⟩ := concerns
    exact throws (adminResolveDispute_throws stored terminal dto found about)
  | _ => exact concerns.elim

end

/-- Reached by calls on the settlement side from a database without
escrows. -/
def SettlementReachable (world : World) : Prop :=
  ∃ start events, NoEscrows start ∧ world = run settle start events

/-- Once an escrow is RELEASED, REFUNDED or CANCELLED, whatever is called and
whatever fails: its row stays as it is, nothing is paid out of it, and the
calls about it throw. -/
theorem terminal_escrow_stays {start : World}
    (reached : SettlementReachable start) {id : Id} {escrow : EscrowEntity}
    (stored : start.escrows.row id = some escrow)
    (terminal : isTerminal escrow.status = true) (events : List Event) :
    LeftAlone start (run settle start events) id escrow ∧
      ∀ (call : SettlementCall) (faults : List Fault), call.concerns (run settle start events) id →
          (handler.exec call.program faults (run settle start events)).1.isOk = false := by
  obtain ⟨genesis, before, none, rfl⟩ := reached
  have wellFormed := (run_evolves none.wellFormed before).wellFormed
  have alone :=
    (run_evolves wellFormed events).terminal id escrow stored terminal
  exact ⟨alone, fun call faults concerns =>
    concerned_throws alone.stored terminal call concerns faults⟩

/-- An escrow of 100 that was locked and released. -/
def releasedHundred : World := run settle .empty [ .call (.escrow (.createEscrow
        { orderId := 0, buyerPublicKey := 1, sellerPublicKey := 2
          amount := 100 })) [], .call (.escrow (.releaseFunds
        { escrowId := 0, deliveryProof := "signed" })) [] ]

def releasedRow : EscrowEntity where
  id := 0
  orderId := 0
  buyerPublicKey := 1
  sellerPublicKey := 2
  amount := 100
  escrowAccountPublicKey := 3
  lockTransactionHash := some 0
  releaseTransactionHash := some 1
  status := .released
  deliveryConfirmedAt := some 0

/-- Disputed, refunded and left to the job: the released row stays. -/
theorem released_hundred_stays :
    LeftAlone releasedHundred (run settle releasedHundred [ .call (.createDispute
            { transactionId := 0, complainantId := 1, respondentId := 2
              reason := "late", escrowId := some 0 }) [], .call (.escrow (.refundBuyer
            { escrowId := 0, reason := "late" })) [], .call .handleEscrowAutoRelease [] ])
      0 releasedRow := by
  have stored : releasedHundred.escrows.row 0 = some releasedRow := by decide
  exact (terminal_escrow_stays ⟨.empty, _, fun _ => rfl, rfl⟩ stored rfl _).1

end MarketX.Settlement
