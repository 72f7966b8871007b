/-
Module: MarketX.Proofs.DisputeFreeze
Purpose: Whether disputes and frozen escrows stay in step: an open dispute
  keeps its escrow frozen and flagged, and the last closed one lets go of it.
Trusted boundary: none
Main exports: InStep, KeepsInStep, disputes_in_step, rejection_leaves_frozen
-/
import MarketX.Proofs.PayoutRetries
import MarketX.Proofs.TerminalEscrows

namespace MarketX.Settlement

open Effects Handler

/-! ### The property -/

def World.disputeAbout (world : World) (id : Id) (dispute : Dispute) (escrowId : Id) : Prop :=
  world.disputes.row id = some dispute ∧ dispute.escrowId = some escrowId

/-- Frozen and kept from the auto-release. -/
def World.held (world : World) (escrowId : Id) : Prop :=
  ∃ escrow, world.escrows.row escrowId = some escrow ∧
    escrow.status = .frozen ∧ escrow.disputeFlag = true

/-- Every active dispute holds its escrow, and an escrow all of whose
disputes are closed is not frozen. -/
structure InStep (world : World) : Prop where
  holds : ∀ id dispute escrowId, world.disputeAbout id dispute escrowId →
    active dispute = true → world.held escrowId
  releases : ∀ escrowId escrow, world.escrows.row escrowId = some escrow →
    (∃ id dispute, world.disputeAbout id dispute escrowId) →
    (∀ id dispute, world.disputeAbout id dispute escrowId → active dispute = false) →
    escrow.status ≠ .frozen

/-- With at most one active dispute about an escrow, which is what makes the
two directions inductive. -/
structure Coupled (world : World) : Prop extends InStep world where
  single : ∀ id other a b escrowId, world.disputeAbout id a escrowId →
    world.disputeAbout other b escrowId → active a = true → active b = true → id = other

/-! ### The condition -/

def World.lockedAt (world : World) (escrowId : Id) : Bool :=
  (world.escrows.row escrowId).any fun escrow => escrow.status = .locked

/-- The calls `createDispute` makes to freeze and flag the escrow. -/
def freezing : Spared
  | .findEscrow _ | .saveEscrow _ | .updateDisputeFlag _ _ => true
  | _ => false

/-- The two saves that settle a dispute: of the released escrow and of the
resolved dispute. -/
def settling : Spared
  | .saveEscrow escrow => escrow.status = .released
  | .saveDispute dispute => dispute.status = .resolved
  | _ => false

/-- What a step has to avoid, besides nothing at all for submitting evidence,
escalating and the world outside. -/
def KeepsInStep (world : World) : Event → Prop
  | .call (.createDispute dto) faults =>
    -- once the row is inserted, the freeze goes through
    faults.headD none = none → ∀ escrowId ∈ dto.escrowId, world.lockedAt escrowId = true ∧
        handler.Spares freezing (createDispute dto) faults world
  | .call (.adminUpdateDispute dto) _ =>
    -- no dispute about an escrow is closed by hand
    ∀ dispute ∈ world.disputes.row dto.disputeId, dispute.escrowId ≠ none → ∀ status ∈ dto.status,
        DisputeStateMachine.canTransition dispute.status status = true → status = .escalated
  | .call .autoResolveDisputes _ =>
    -- no dispute about an escrow is due
    ∀ item ∈ world.openDisputes, item.1.escrowId ≠ none →
      DisputeStateMachine.shouldAutoResolve item.1 item.2 world.now = false
  | .call (.adminResolveDispute dto disputeId) faults =>
    -- neither settling save fails
    ∀ dispute ∈ world.disputes.row disputeId, dispute.escrowId ≠ none →
      handler.Spares settling (adminResolveDispute dto disputeId) faults world
  | _ => True

instance (world : World) : ∀ event, Decidable (KeepsInStep world event)
  | .call (.createDispute _) _ => inferInstanceAs (Decidable (_ → ∀ escrowId ∈ _, _ ∧ _))
  | .call (.adminUpdateDispute _) _ =>
    inferInstanceAs (Decidable (∀ dispute ∈ _, _ → ∀ status ∈ _, _ → _))
  | .call .autoResolveDisputes _ => inferInstanceAs (Decidable (∀ item ∈ world.openDisputes, _ → _))
  | .call (.adminResolveDispute _ _) _ => inferInstanceAs (Decidable (∀ dispute ∈ _, _ → _))
  | .call (.escrow _) _ | .call (.submitEvidence _) _
  | .call (.escalateDispute _ _) _ | .call .handleEscrowAutoRelease _
  | .call .triggerManualRelease _ | .elsewhere _ _ => inferInstanceAs (Decidable True)

/-- The operations of the dispute service, and the world outside. -/
def Event.isDispute : Event → Bool
  | .call (.escrow _) _ | .call .handleEscrowAutoRelease _
  | .call .triggerManualRelease _ => false
  | _ => true

variable {world : World} {escrowId id : Id} {escrow : EscrowEntity} {row dispute : Dispute}

theorem lockedAt_iff :
    world.lockedAt escrowId = true ↔ ∃ escrow, world.escrows.row escrowId = some escrow ∧
        escrow.status = .locked := by
  unfold World.lockedAt
  cases world.escrows.row escrowId <;> simp

/-! ### What keeps the tables coupled -/

theorem Coupled.of_same {after : World} (coupled : Coupled world)
    (escrows : after.escrows = world.escrows) (about : ∀ id dispute escrowId,
      after.disputeAbout id dispute escrowId ↔
        world.disputeAbout id dispute escrowId) : Coupled after := by
  obtain ⟨⟨holds, releases⟩, single⟩ := coupled
  refine ⟨⟨?_, ?_⟩, ?_⟩ <;> simp only [about, World.held, escrows]
  · exact holds
  · exact releases
  · exact single

theorem Coupled.saved (coupled : Coupled world) {row : EscrowEntity}
    (stored : world.escrows.row escrowId = some escrow)
    (same : row.id = escrow.id) (status : row.status = escrow.status)
    (flag : row.disputeFlag = escrow.disputeFlag) :
    Coupled (world.saved row) := by
  have rowId : row.id = escrowId := same.trans (stored_id stored)
  refine ⟨⟨?_, ?_⟩, coupled.single⟩
  · intro id dispute about named isActive
    obtain ⟨held, storedHeld, frozen, flagged⟩ := coupled.holds id dispute about named isActive
    by_cases this : about = row.id
    · rw [this, rowId] at storedHeld
      cases stored.symm.trans storedHeld
      refine ⟨row, ?_, status.trans frozen, flag.trans flagged⟩
      rw [this]
      exact Table.row_save_self _ row
    · exact ⟨held, (Table.row_save_of_ne _ _ this).trans storedHeld, frozen, flagged⟩
  · intro about other storedOther exists' closed
    rcases row_saved_cases storedOther with ⟨keyEq, rfl⟩ | ⟨_, old⟩
    · rw [status]
      refine coupled.releases about escrow ?_ exists' closed
      rw [keyEq, rowId]
      exact stored
    · exact coupled.releases about other old exists' closed

theorem disputeAbout_disputed (about : (world.disputed row).disputeAbout id dispute escrowId) :
    (id = row.id ∧ dispute = row) ∨ (id ≠ row.id ∧ world.disputeAbout id dispute escrowId) := by
  obtain ⟨stored, named⟩ := about
  rw [World.disputed, Table.row_save] at stored
  split at stored
  next same => exact .inl ⟨same, (Option.some.inj stored).symm⟩
  next other => exact .inr ⟨other, stored, named⟩

/-- Storing a dispute over one about the same escrow that is as active, or
over one about none. -/
theorem Coupled.disputed (coupled : Coupled world)
    (stored : world.disputes.row id = some dispute) (rowId : row.id = id)
    (same : row.escrowId = dispute.escrowId)
    (asActive : dispute.escrowId ≠ none → active row = active dispute) :
    Coupled (world.disputed row) := by
  -- every dispute about an escrow has a counterpart in the other table
  have back : ∀ {other a escrowId}, (world.disputed row).disputeAbout other a escrowId →
        ∃ b, world.disputeAbout other b escrowId ∧ active b = active a := by
    intro other a escrowId about
    rcases disputeAbout_disputed about with ⟨rfl, rfl⟩ | ⟨_, old⟩
    · refine ⟨dispute, ⟨rowId ▸ stored, same ▸ about.2⟩, (asActive ?_).symm⟩
      rw [← same, about.2]
      simp
    · exact ⟨a, old, rfl⟩
  have forth : ∀ {other b escrowId}, world.disputeAbout other b escrowId →
      ∃ a, (world.disputed row).disputeAbout other a escrowId ∧ active a = active b := by
    intro other b escrowId about
    by_cases this : other = row.id
    · have sameRow : b = dispute := by
        have storedB := about.1
        simp_all
      subst sameRow
      refine ⟨row, ⟨?_, same.trans about.2⟩, asActive (by simp [about.2])⟩
      rw [this]
      exact Table.row_save_self _ row
    · exact ⟨b, ⟨(Table.row_save_of_ne _ _ this).trans about.1, about.2⟩, rfl⟩
  refine ⟨⟨?_, ?_⟩, ?_⟩
  · intro other a escrowId about isActive
    obtain ⟨b, aboutB, sameActive⟩ := back about
    exact coupled.holds other b escrowId aboutB (sameActive.trans isActive)
  · intro escrowId escrow storedEscrow ⟨other, a, about⟩ closed
    refine coupled.releases escrowId escrow storedEscrow ?_ ?_
    · grind
    · grind
  · intro first second a b escrowId aboutA aboutB activeA activeB
    obtain ⟨oldA, aboutOldA, sameA⟩ := back aboutA
    obtain ⟨oldB, aboutOldB, sameB⟩ := back aboutB
    exact coupled.single first second oldA oldB escrowId aboutOldA aboutOldB
      (sameA.trans activeA) (sameB.trans activeB)

theorem Coupled.filed (coupled : Coupled world) (fresh : world.disputes.row row.id = none)
    (unrelated : row.escrowId = none) : Coupled (world.disputed row) := by
  refine coupled.of_same rfl fun id dispute escrowId => ⟨?_, ?_⟩
  · intro about
    rcases disputeAbout_disputed about with ⟨_, rfl⟩ | ⟨_, old⟩
    · rw [about.2] at unrelated
      cases unrelated
    · exact old
  · rintro ⟨stored, named⟩
    refine ⟨?_, named⟩
    rw [World.disputed, Table.row_save_of_ne]
    · exact stored
    · rintro rfl
      exact absurd (stored.symm.trans fresh) (by simp)

theorem Coupled.opened (coupled : Coupled world) (fresh : world.disputes.row row.id = none)
    (named : row.escrowId = some escrowId) (isActive : active row = true)
    (stored : world.escrows.row escrowId = some escrow) (locked : escrow.status = .locked) :
    Coupled ((world.disputed row).saved
      { escrow with status := .frozen, disputeFlag := true }) := by
  have keyEq : escrow.id = escrowId := stored_id stored
  -- nothing that was active before is about the escrow, which was not frozen
  have elsewhere : ∀ id dispute about, world.disputeAbout id dispute about →
      active dispute = true → about ≠ escrowId := by
    rintro id dispute about old activeOld rfl
    obtain ⟨held, storedHeld, frozen, _⟩ := coupled.holds id dispute about old activeOld
    simp_all
  refine ⟨⟨?_, ?_⟩, ?_⟩
  · intro id dispute about aboutAfter activeAfter
    rcases disputeAbout_disputed aboutAfter with ⟨_, rfl⟩ | ⟨_, old⟩
    · cases named.symm.trans aboutAfter.2
      refine ⟨{ escrow with status := .frozen, disputeFlag := true }, ?_, rfl, rfl⟩
      rw [← keyEq]
      exact Table.row_save_self _ _
    · obtain ⟨held, storedHeld, frozen, flagged⟩ := coupled.holds id dispute about old activeAfter
      refine ⟨held, ?_, frozen, flagged⟩
      rw [World.saved_escrows, Table.row_save_of_ne]
      · exact storedHeld
      · show about ≠ escrow.id
        grind
  · intro about other storedOther exists' closed
    rcases row_saved_cases storedOther with ⟨same, _⟩ | ⟨differs, old⟩
    · -- the new dispute itself is active
      have here : about = escrowId := same.trans keyEq
      have newAbout : ((world.disputed row).saved
          { escrow with status := .frozen, disputeFlag := true }).disputeAbout
            row.id row about :=
        ⟨Table.row_save_self _ row, by rw [here]; exact named⟩
      grind
    · have notHere : about ≠ escrowId := fun here => differs (here.trans keyEq.symm)
      refine coupled.releases about other old ?_ ?_
      · obtain ⟨id, dispute, aboutAfter⟩ := exists'
        rcases disputeAbout_disputed aboutAfter with ⟨_, rfl⟩ | ⟨_, before⟩ <;> grind
      · intro id dispute before
        by_cases overwritten : id = row.id
        · have taken := before.1
          rw [overwritten, fresh] at taken
          cases taken
        · refine closed id dispute ⟨?_, before.2⟩
          exact (Table.row_save_of_ne _ _ overwritten).trans before.1
  · intro first second a b about aboutA aboutB activeA activeB
    rcases disputeAbout_disputed aboutA with ⟨sameA, rfl⟩ | ⟨_, oldA⟩
    · rcases disputeAbout_disputed aboutB with ⟨sameB, _⟩ | ⟨_, oldB⟩
      · exact sameA.trans sameB.symm
      · cases named.symm.trans aboutA.2
        exact absurd rfl (elsewhere second b _ oldB activeB)
    · rcases disputeAbout_disputed aboutB with ⟨_, rfl⟩ | ⟨_, oldB⟩
      · cases named.symm.trans aboutB.2
        exact absurd rfl (elsewhere first a _ oldA activeA)
      · exact coupled.single first second a b about oldA oldB activeA activeB

theorem Coupled.resolved (coupled : Coupled world) {resolved : Dispute} {row : EscrowEntity}
    (about : world.disputeAbout id dispute escrowId)
    (isActive : active dispute = true) (resolvedId : resolved.id = id)
    (resolvedEscrow : resolved.escrowId = dispute.escrowId)
    (closed : active resolved = false) (rowId : row.id = escrowId)
    (released : row.status = .released) :
    Coupled ((world.saved row).disputed resolved) := by
  refine ⟨⟨?_, ?_⟩, ?_⟩
  · intro other a escrowId' aboutAfter activeAfter
    rcases disputeAbout_disputed aboutAfter with ⟨_, rfl⟩ | ⟨differs, old⟩
    · rw [closed] at activeAfter
      cases activeAfter
    · obtain ⟨held, storedHeld, frozen, flagged⟩ := coupled.holds other a escrowId' old activeAfter
      refine ⟨held, ?_, frozen, flagged⟩
      have elsewhere : escrowId' ≠ row.id := by
        intro here
        rw [rowId] at here
        subst here
        exact differs ((coupled.single other id a dispute escrowId' old about
          activeAfter isActive).trans resolvedId.symm)
      exact (Table.row_save_of_ne _ _ elsewhere).trans storedHeld
  · intro escrowId' escrow stored exists' allClosed
    rcases row_saved_cases stored with ⟨_, rfl⟩ | ⟨differs, old⟩
    · rw [released]
      simp
    · refine coupled.releases escrowId' escrow old ?_ ?_
      · obtain ⟨other, a, aboutAfter⟩ := exists'
        rcases disputeAbout_disputed aboutAfter with ⟨_, rfl⟩ | ⟨_, before⟩
        · exact ⟨id, dispute, about.1, resolvedEscrow ▸ aboutAfter.2⟩
        · exact ⟨other, a, before⟩
      · intro other a before
        by_cases this : other = resolved.id
        · -- the resolved dispute is about another escrow
          rw [this, resolvedId] at before
          cases about.1.symm.trans before.1
          have here := Option.some.inj (about.2.symm.trans before.2)
          exact absurd (here.symm.trans rowId.symm) differs
        · exact allClosed other a ⟨(Table.row_save_of_ne _ _ this).trans before.1, before.2⟩
  · intro first second a b escrowId' aboutA aboutB activeA activeB
    rcases disputeAbout_disputed aboutA with ⟨_, rfl⟩ | ⟨_, oldA⟩
    · rw [closed] at activeA
      cases activeA
    · rcases disputeAbout_disputed aboutB with ⟨_, rfl⟩ | ⟨_, oldB⟩
      · rw [closed] at activeB
        cases activeB
      · exact coupled.single first second a b escrowId' oldA oldB activeA activeB

/-! ### The operations -/

theorem active_of_canTransition {status : DisputeStatus}
    (valid : DisputeStateMachine.canTransition dispute.status status = true) :
    active dispute = true := by
  revert valid
  unfold DisputeStateMachine.canTransition active
  cases dispute.status <;> cases status <;> decide

theorem wp_getDisputeById {spared : Spared} (id : Id)
    (post : Except HttpException Dispute → World → Prop)
    (rejected : ∀ error, post (.error error) world)
    (found : ∀ dispute, world.disputes.row id = some dispute → post (.ok dispute) world) :
    (handler.shield spared).wp (getDisputeById id) post world := by
  simp only [getDisputeById, wp_bind, wp_findDispute, andThen_ok, andThen_error]
  refine ⟨?_, fun _ => rejected⟩
  cases stored : world.disputes.row id <;> simp_all

section

variable {world : World} (coupled : Coupled world)

include coupled

theorem createDispute_unrelated (dto : CreateDisputeDto) (unrelated : dto.escrowId = none) :
    handler.wp (createDispute dto) (fun _ after => Coupled after) world := by
  unfold createDispute
  rw [wp_bind, unrelated]
  exact ⟨coupled.filed world.disputes.row_next rfl, fun _ _ => coupled⟩

theorem createDispute_coupled (dto : CreateDisputeDto) {escrowId : Id}
    (named : dto.escrowId = some escrowId) (locked : world.lockedAt escrowId = true) :
    (handler.shield freezing).wp (createDispute dto) (fun _ after => Coupled after) world := by
  obtain ⟨escrow, stored, status⟩ := lockedAt_iff.mp locked
  unfold createDispute
  rw [wp_bind, named]
  simp only [wp_insertDispute, andThen_ok, andThen_error]
  refine ⟨?_, fun _ _ => coupled⟩
  rw [wp_bind, wp_attempt]
  apply Handler.wp_mono _ (freeze_spec freezing _ escrowId)
  intro result after outcome
  cases outcome with
  | rejected _ reason =>
    rcases reason escrow stored status with exposed | exposed <;> cases exposed
  | unflagged _ _ _ exposed => cases exposed
  | flagged found =>
    cases found.symm.trans stored
    exact coupled.opened world.disputes.row_next rfl rfl stored status

theorem escalateDispute_coupled (dto : EscalateDisputeDto) (userId : Id) :
    handler.wp (escalateDispute dto userId) (fun _ after => Coupled after)
      world := by
  rw [← handler.shield_none]
  unfold escalateDispute
  rw [wp_bind]
  apply wp_getDisputeById _ _ fun _ => coupled
  intro dispute stored
  simp only [andThen_ok, wp_ite, wp_bind, wp_throw, andThen_error, wp_saveDispute, wp_pure]
  split
  · exact coupled
  split
  · exact coupled
  next invalid =>
    have valid : DisputeStateMachine.canTransition dispute.status .escalated =
        true := by simpa using invalid
    have rowId : dispute.id = dto.disputeId := world.disputes.keyed stored
    refine ⟨?_, fun _ _ => coupled⟩
    refine coupled.disputed stored rowId rfl fun _ => ?_
    rw [active_of_canTransition valid]
    rfl

theorem adminUpdateDispute_coupled (dto : UpdateDisputeDto)
    (condition : ∀ dispute ∈ world.disputes.row dto.disputeId,
      dispute.escrowId ≠ none → ∀ status ∈ dto.status,
        DisputeStateMachine.canTransition dispute.status status = true → status = .escalated) :
    handler.wp (adminUpdateDispute dto) (fun _ after => Coupled after)
      world := by
  rw [← handler.shield_none]
  unfold adminUpdateDispute
  rw [wp_bind]
  apply wp_getDisputeById _ _ fun _ => coupled
  intro dispute stored
  have rowId : dispute.id = dto.disputeId := world.disputes.keyed stored
  cases status : dto.status with
  | none =>
    refine ⟨?_, fun _ _ => coupled⟩
    exact coupled.disputed stored rowId rfl fun _ => rfl
  | some status' =>
    simp only [andThen_ok, wp_ite, wp_bind, wp_throw, andThen_error, wp_saveDispute, wp_pure]
    split
    · exact coupled
    next invalid =>
      have valid : DisputeStateMachine.canTransition dispute.status
          status' = true := by simpa using invalid
      refine ⟨?_, fun _ _ => coupled⟩
      refine coupled.disputed stored rowId rfl fun related => ?_
      have escalated := condition dispute stored related status' status valid
      rw [active_of_canTransition valid, escalated]
      rfl

theorem submitEvidence_coupled (dto : SubmitEvidenceDto) :
    handler.wp (submitEvidence dto) (fun _ after => Coupled after)
      world := by
  rw [← handler.shield_none]
  unfold submitEvidence
  rw [wp_bind]
  apply wp_getDisputeById _ _ fun _ => coupled
  intro dispute stored
  simp only [andThen_ok, wp_ite, wp_bind, wp_throw, andThen_error, wp_insertEvidence]
  split
  · exact coupled
  · exact ⟨coupled.of_same rfl fun _ _ _ => Iff.rfl, fun _ _ => coupled⟩

/-- The loop stores what the query returned.  No dispute about an escrow is
closed by it, and the others concern no escrow. -/
theorem autoResolveDisputes_coupled
    (condition : ∀ item ∈ world.openDisputes, item.1.escrowId ≠ none →
      DisputeStateMachine.shouldAutoResolve item.1 item.2 world.now = false) :
    handler.wp autoResolveDisputes (fun _ after => Coupled after) world := by
  unfold autoResolveDisputes
  rw [wp_bind, ← handler.shield_none]
  refine ⟨?_, fun _ _ => coupled⟩
  rw [handler.shield_none]
  apply wp_foldlM _ fun remaining _ current =>
    Coupled current ∧ current.now = world.now ∧ ∀ item ∈ remaining,
      (item.1.escrowId ≠ none → DisputeStateMachine.shouldAutoResolve item.1
        item.2 world.now = false) ∧ ∃ dispute, current.disputes.row item.1.id = some dispute ∧
        dispute.escrowId = item.1.escrowId
  · refine ⟨coupled, rfl, fun item member => ⟨condition item member, ?_⟩⟩
    obtain ⟨dispute, selected, rfl⟩ := List.mem_map.mp member
    exact ⟨dispute, Table.mem_rows.mp (List.mem_of_mem_filter selected), rfl⟩
  · rintro head tail count current ⟨coupledNow, clock, remaining⟩
    rw [← handler.shield_none]
    unfold autoResolveOne
    simp only [wp_bind, wp_dateNow, andThen_ok, wp_ite, wp_saveDispute,
      wp_pure, andThen_error, clock]
    obtain ⟨notDue, stored⟩ := remaining head List.mem_cons_self
    have rest := fun item member => remaining item (List.mem_cons_of_mem head member)
    split
    next due =>
      have unrelated : head.1.escrowId = none := by
        by_contra related
        rw [notDue related] at due
        cases due
      obtain ⟨dispute, storedHead, sameEscrow⟩ := stored
      refine ⟨⟨?_, clock, fun item member => ⟨(rest item member).1, ?_⟩⟩, fun _ _ => coupledNow⟩
      · exact coupledNow.disputed storedHead rfl sameEscrow.symm
          fun related => absurd (sameEscrow.trans unrelated) related
      · obtain ⟨other, storedOther, sameOther⟩ := (rest item member).2
        by_cases this : item.1.id = head.1.id
        · refine ⟨{ head.1 with status := .autoResolved }, ?_, ?_⟩
          · rw [this]
            exact Table.row_save_self _ _
          · rw [this, storedHead] at storedOther
            cases storedOther
            exact sameEscrow.symm.trans sameOther
        · exact ⟨other, (Table.row_save_of_ne _ _ this).trans storedOther, sameOther⟩
    next => exact ⟨coupledNow, trivial, rest⟩
  · exact fun _ current reached => reached.1

/-- A distribution whose final save does not fail either leaves the escrow
frozen and throws, or returns and has stored it RELEASED. -/
theorem adminRelease_settled {escrowId : Id} {distribution : Distribution}
    {result : Except HttpException EscrowResponseDto} {after : World}
    (outcome : CallOutcome settling world
      (.adminReleaseFunds escrowId distribution) escrowId result after) :
    (∃ error, result = .error error ∧ Coupled after) ∨ ∃ response sent row, result = .ok response ∧
        after = (world.submitted sent).saved row ∧ row.status = .released ∧ row.id = escrowId := by
  cases outcome with
  | rejected error => exact .inl ⟨error, rfl, coupled⟩
  | @moved escrow row sent _ found moves =>
    have paid : Coupled (world.submitted sent) := coupled.of_same rfl fun _ _ _ => Iff.rfl
    have key : row.id = escrowId :=
      (id_of_terms moves.terms).trans (stored_id found)
    cases moves with
    | froze _ named => cases named
    | paid planned ended =>
      cases plans_of_payout? planned
      cases ended with
      | stopped _ error => exact .inl ⟨error, rfl, paid.saved found rfl rfl rfl⟩
      | noted _ error => exact .inl ⟨error, rfl, paid.saved found rfl rfl rfl⟩
      | unsaved _ _ _ _ exposed => cases exposed
      | savedLate _ _ _ _ _ exposed => cases exposed
      | settled response => exact .inr ⟨response, _, _, rfl, rfl, rfl, key⟩

/-- When neither settling save fails, the dispute is resolved exactly if the
escrow is released.  For a dispute about no escrow nothing need be spared. -/
theorem adminResolveDispute_coupled (dto : ResolveDisputeDto) (disputeId : Id) {spared : Spared}
    (spares : ∀ dispute ∈ world.disputes.row disputeId,
      dispute.escrowId ≠ none → spared = settling) :
    (handler.shield spared).wp (adminResolveDispute dto disputeId)
      (fun _ after => Coupled after) world := by
  unfold adminResolveDispute
  rw [wp_bind]
  apply wp_getDisputeById _ _ fun _ => coupled
  intro dispute stored
  simp only [andThen_ok, wp_ite, wp_bind, wp_throw, andThen_error]
  split
  · exact coupled
  next invalid =>
    have valid : DisputeStateMachine.canTransition dispute.status .resolved =
        true := by simpa using invalid
    have rowId : dispute.id = disputeId := world.disputes.keyed stored
    cases named : dispute.escrowId with
    | none =>
      refine ⟨?_, fun _ _ => coupled⟩
      exact coupled.disputed stored rowId named.symm fun related => absurd named related
    | some escrowId =>
      cases spares dispute stored (by simp [named])
      rw [wp_bind, wp_attempt, wp_bind]
      apply wp_findEscrowOrFail
      · exact fun _ => coupled
      · intro escrow found
        apply Handler.wp_mono _ (adminReleaseFunds_spec world escrowId _)
        intro result after outcome
        rcases adminRelease_settled coupled outcome with
          ⟨error, rfl, kept⟩ | ⟨response, sent, row, rfl, rfl, status, key⟩
        · exact kept
        · simp only [wp_bind, wp_saveDispute, andThen_ok, andThen_error, wp_pure]
          refine ⟨?_, fun exposed => by cases exposed⟩
          have paid : Coupled (world.submitted sent) := coupled.of_same rfl fun _ _ _ => Iff.rfl
          exact paid.resolved ⟨stored, named⟩ (active_of_canTransition valid)
            rowId named.symm rfl key status

end

/-! ### Runs -/

theorem createDispute_not_inserted (world : World) (dto : CreateDisputeDto)
    {error : HttpException} {rest : List Fault} :
    (handler.exec (createDispute dto) (some error :: rest) world).2 =
      world := rfl

theorem coupled_createDispute (coupled : Coupled world)
    (dto : CreateDisputeDto) (faults : List Fault)
    (condition : faults.headD none = none → ∀ escrowId ∈ dto.escrowId,
      world.lockedAt escrowId = true ∧ handler.Spares freezing (createDispute dto) faults world) :
    Coupled (handler.exec (createDispute dto) faults world).2 := by
  cases named : dto.escrowId with
  | none => exact handler.wp_sound (createDispute_unrelated coupled dto named) faults
  | some escrowId =>
    cases first : faults.headD none with
    | none =>
      obtain ⟨locked, spares⟩ := condition first escrowId named
      exact handler.wp_sound_spared (createDispute_coupled coupled dto named locked) spares
    | some error => cases faults <;> simp_all [createDispute_not_inserted]

theorem coupled_adminResolveDispute
    (coupled : Coupled world) (dto : ResolveDisputeDto) (disputeId : Id) (faults : List Fault)
    (condition : ∀ dispute ∈ world.disputes.row disputeId, dispute.escrowId ≠ none →
        handler.Spares settling (adminResolveDispute dto disputeId) faults world) :
    Coupled (handler.exec (adminResolveDispute dto disputeId) faults world).2 := by
  by_cases related : ∃ dispute ∈ world.disputes.row disputeId, dispute.escrowId ≠ none
  · obtain ⟨dispute, stored, related⟩ := related
    exact handler.wp_sound_spared
      (adminResolveDispute_coupled coupled dto disputeId fun _ _ _ => rfl)
      (condition dispute stored related)
  · have holds : (handler.shield noneSpared).wp
        (adminResolveDispute dto disputeId) (fun _ after => Coupled after)
          world := adminResolveDispute_coupled coupled dto disputeId fun dispute stored about =>
          absurd ⟨dispute, stored, about⟩ related
    rw [handler.shield_none] at holds
    exact handler.wp_sound holds faults

theorem coupled_settle (world : World) (event : Event) (coupled : Coupled world)
    (condition : event.isDispute = true ∧ KeepsInStep world event) :
    Coupled (settle world event) := by
  obtain ⟨isDispute, keeps⟩ := condition
  cases event with
  | elsewhere orders now => exact coupled.of_same rfl fun _ _ _ => Iff.rfl
  | call call faults =>
    have discarded : ∀ {α : Type} (program : Service α),
        Coupled (handler.exec program faults world).2 →
          Coupled (handler.exec (do let _ ← program; pure ()) faults world).2 := by
      intro α program kept
      rw [handler.exec_discard]
      exact kept
    cases call with
    | createDispute dto => exact discarded _ (coupled_createDispute coupled dto faults keeps)
    | submitEvidence dto => exact handler.wp_sound (submitEvidence_coupled coupled dto) faults
    | escalateDispute dto userId =>
      exact discarded _ (handler.wp_sound (escalateDispute_coupled coupled dto userId) faults)
    | adminUpdateDispute dto =>
      exact discarded _ (handler.wp_sound (adminUpdateDispute_coupled coupled dto keeps) faults)
    | autoResolveDisputes =>
      exact discarded _ (handler.wp_sound (autoResolveDisputes_coupled coupled keeps) faults)
    | adminResolveDispute dto disputeId =>
      exact discarded _ (coupled_adminResolveDispute coupled dto disputeId faults keeps)
    | escrow | handleEscrowAutoRelease | triggerManualRelease =>
      cases isDispute

/-- From a database without disputes, any run of the dispute operations whose
steps meet the condition keeps disputes and freezes in step. -/
theorem disputes_in_step {start : World}
    (noDisputes : ∀ id, start.disputes.row id = none) {events : List Event}
    (disputeEvents : ∀ event ∈ events, event.isDispute = true)
    (keeps : Along settle KeepsInStep start events) :
    InStep (run settle start events) := by
  have unnamed : ∀ id dispute escrowId, ¬ start.disputeAbout id dispute escrowId := by
    rintro id dispute escrowId ⟨stored, _⟩
    rw [noDisputes id] at stored
    cases stored
  have initially : Coupled start :=
    { holds := fun id dispute escrowId about =>
        absurd about (unnamed id dispute escrowId)
      releases := fun escrowId _ _ ⟨id, dispute, about⟩ =>
        absurd about (unnamed id dispute escrowId)
      single := fun id _ a _ escrowId about =>
        absurd about (unnamed id a escrowId) }
  exact (run_invariant coupled_settle initially
    ((along_of_forall disputeEvents).and keeps)).toInStep

/-- A dispute about a locked escrow: escalated, and resolved at the second
attempt. -/
def resolvedDispute : List Event := [ .call (.createDispute
      { transactionId := 0, complainantId := 1, respondentId := 2
        reason := "late", escrowId := some 0 }) [],
    .call (.escalateDispute { disputeId := 0, reason := "late" } 1) [], .call (.adminResolveDispute
      { adminDecision := "split", refundAmount := some 30 } 0)
      [none, none, none, some (.error "timeout")], .call (.adminResolveDispute
      { adminDecision := "split", refundAmount := some 30 } 0) [] ]

theorem resolved_dispute_in_step :
    InStep (run settle lockedHundred resolvedDispute) :=
  disputes_in_step (fun _ => rfl) (by decide +kernel) (by decide +kernel)

/-- A dispute about a locked escrow that an admin rejects. -/
def rejectedDispute : List Event := [ .call (.createDispute
      { transactionId := 0, complainantId := 1, respondentId := 2
        reason := "late", escrowId := some 0 }) [], .call (.adminUpdateDispute
      { disputeId := 0, status := some .rejected }) [] ]

/-- The only dispute is closed, and the escrow stays FROZEN. -/
theorem rejection_leaves_frozen :
    ¬ InStep (run settle lockedHundred rejectedDispute) := by
  intro inStep
  have stored : (run settle lockedHundred rejectedDispute).escrows.row 0 =
      some { heldHundred with status := .frozen, disputeFlag := true } := by decide
  have closed : (run settle lockedHundred rejectedDispute).disputes.row 0 =
      some { id := 0, transactionId := 0, complainantId := 1
             respondentId := 2, reason := "late", status := .rejected
             createdAt := 0, escrowId := some 0 } := by decide
  refine inStep.releases 0 _ stored ⟨0, _, closed, rfl⟩ ?_ rfl
  rintro id dispute ⟨storedDispute, _⟩
  have first : id < 1 :=
    (run settle lockedHundred rejectedDispute).disputes.bounded storedDispute
  cases Nat.lt_one_iff.mp first
  cases closed.symm.trans storedDispute
  rfl

end MarketX.Settlement
