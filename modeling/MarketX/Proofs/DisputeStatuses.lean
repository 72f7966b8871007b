/-
Module: MarketX.Proofs.DisputeStatuses
Purpose: Disputes move along the transitions of their state machine, whoever
  writes their status; and when no evidence reaches a closed one.
Trusted boundary: none beyond the model; the definitions under review are
  isClosed, InOrder and EvidenceInTime
Main exports: isClosed, InOrder, EvidenceInTime, disputes_orderly_iff
-/
import MarketX.Effects.Schedules
import MarketX.Proofs.DisputeFreeze

namespace MarketX.Settlement

open Effects Handler DisputeStateMachine

/-! ### The property and the condition -/

/-- No transition leads out of the status. -/
def isClosed (status : DisputeStatus) : Bool :=
  (allowedTransitions status).isEmpty

theorem isClosed_iff {status : DisputeStatus} :
    isClosed status = true ↔ status = .resolved ∨ status = .rejected ∨ status = .autoResolved := by
  cases status <;> decide

abbrev Leads (source target : DisputeStatus) : Prop := canTransition source target = true

def World.evidencesOf (world : World) (id : Id) : List Evidence :=
  world.evidences.filter fun evidence => evidence.disputeId = id

/-- Between two states every dispute has moved along the allowed transitions,
and a closed one has kept its status and its evidence. -/
structure InOrder (world after : World) : Prop where
  moves : ∀ id dispute, world.disputes.row id = some dispute →
    ∃ later, after.disputes.row id = some later ∧
      Relation.ReflTransGen Leads dispute.status later.status
  stays : ∀ id dispute, world.disputes.row id = some dispute → isClosed dispute.status = true →
      ∃ later, after.disputes.row id = some later ∧ later.status = dispute.status
  sealed : ∀ id dispute, world.disputes.row id = some dispute → isClosed dispute.status = true →
      after.evidencesOf id = world.evidencesOf id

def submissionFails (faults : List Fault) : Bool :=
  (faults.headD none).isSome || (faults.tail.headD none).isSome

/-- No evidence is stored for a dispute that was resolved automatically. -/
def EvidenceInTime (world : World) : Event → Prop
  | .call (.submitEvidence dto) faults =>
    ∀ dispute ∈ world.disputes.row dto.disputeId,
      dispute.status = .autoResolved → submissionFails faults = true
  | _ => True

/-! ### The order on the disputes -/

theorem eq_of_leads {source target : DisputeStatus} (closed : isClosed source = true)
    (leads : Relation.ReflTransGen Leads source target) : target = source := by
  cases leads.cases_head with
  | inl same => exact same.symm
  | inr onward =>
    obtain ⟨middle, first, _⟩ := onward
    have none : allowedTransitions source = [] := List.isEmpty_iff.mp closed
    simp [Leads, canTransition, none] at first

variable {world after : World} {row : Dispute}

theorem InOrder.of_moves (moves : ∀ id dispute, world.disputes.row id = some dispute →
      ∃ later, after.disputes.row id = some later ∧
        Relation.ReflTransGen Leads dispute.status later.status)
    (sealed : ∀ id dispute, world.disputes.row id = some dispute → isClosed dispute.status = true →
        after.evidencesOf id = world.evidencesOf id) :
    InOrder world after where
  moves := moves
  stays id dispute stored closed := by grind [eq_of_leads]
  sealed := sealed

theorem InOrder.of_same (disputes : after.disputes = world.disputes)
    (sealed : ∀ id dispute, world.disputes.row id = some dispute → isClosed dispute.status = true →
        after.evidencesOf id = world.evidencesOf id) : InOrder world after := by
  grind [InOrder.of_moves]

theorem InOrder.refl (world : World) : InOrder world world := .of_same rfl fun _ _ _ _ => rfl

theorem InOrder.trans {middle : World}
    (first : InOrder world middle) (second : InOrder middle after) :
    InOrder world after := by
  apply InOrder.of_moves
  · intro id dispute stored
    obtain ⟨between, found, leads⟩ := first.moves id dispute stored
    obtain ⟨later, reached, onward⟩ := second.moves id between found
    exact ⟨later, reached, leads.trans onward⟩
  · intro id dispute stored closed
    obtain ⟨between, found, same⟩ := first.stays id dispute stored closed
    rw [second.sealed id between found (by rw [same]; exact closed)]
    exact first.sealed id dispute stored closed

instance : IsPreorder World InOrder where
  refl := InOrder.refl
  trans _ _ _ := InOrder.trans

theorem InOrder.disputed {id : Id} {dispute : Dispute}
    (stored : world.disputes.row id = some dispute) (same : row.id = id)
    (leads : Relation.ReflTransGen Leads dispute.status row.status) :
    InOrder world (world.disputed row) := by
  refine .of_moves ?_ fun _ _ _ _ => rfl
  intro other before storedOther
  by_cases here : other = row.id
  · rw [here, same, stored] at storedOther
    cases storedOther
    exact ⟨row, by rw [here]; exact Table.row_save_self _ row, leads⟩
  · exact ⟨before, (Table.row_save_of_ne _ _ here).trans storedOther, .refl⟩

theorem InOrder.filed (fresh : world.disputes.row row.id = none) :
    InOrder world (world.disputed row) := by
  refine .of_moves ?_ fun _ _ _ _ => rfl
  intro other before storedOther
  refine ⟨before, (Table.row_save_of_ne _ _ ?_).trans storedOther, .refl⟩
  rintro rfl
  exact absurd (storedOther.symm.trans fresh) (by simp)

/-! ### Programs that leave disputes and evidence alone -/

structure SameDisputes (world after : World) : Prop where
  disputes : after.disputes = world.disputes
  evidences : after.evidences = world.evidences

instance : IsPreorder World SameDisputes where
  refl _ := ⟨rfl, rfl⟩
  trans _ _ _ first second :=
    ⟨second.disputes.trans first.disputes, second.evidences.trans first.evidences⟩

theorem SameDisputes.orderly (same : SameDisputes world after) : InOrder world after :=
  .of_same same.disputes fun id _ _ _ => by simp only [World.evidencesOf, same.evidences]

abbrev Apart {α : Type} (program : Service α) : Prop := handler.Respects SameDisputes program

theorem apart_await (op : Op) (disputes : ∀ world, (act op world).2.disputes = world.disputes)
    (evidences : ∀ world, (act op world).2.evidences = world.evidences) :
    Apart (await op) := Respects.perform (H := handler) op
    fun world => ⟨disputes world, evidences world⟩

theorem apart_escrowCall (call : EscrowCall) : Apart call.program := by
  intro world
  apply handler.wp_mono (program_spec world call)
  intro result after outcome
  cases outcome <;> exact ⟨rfl, rfl⟩

theorem apart_updateDisputeFlag (escrowId : Id) (disputeFlag : Bool) :
    Apart (escrowRepository.updateDisputeFlag escrowId disputeFlag) := by
  apply Respects.perform
  intro world
  simp only [handler, act]
  split <;> exact ⟨rfl, rfl⟩

theorem apart_checkEligible (eligible : List EscrowEntity)
    (escrow : EscrowEntity) : Apart (checkEligible eligible escrow) := by
  intro world
  apply handler.wp_mono (checkEligible_spec world eligible escrow)
  rintro result after ⟨rfl, _⟩
  exact refl_of SameDisputes _

theorem apart_processAutoRelease (escrow : EscrowEntity) :
    Apart (processAutoRelease escrow) := by
  apply Respects.bind
  · exact apart_await (.findActiveDispute _) (fun _ => rfl) fun _ => rfl
  · rintro (_ | dispute)
    · apply (apart_escrowCall (.releaseFunds _)).bind
      intro releasedEscrow
      apply Respects.bind
      · exact apart_await .dateNow (fun _ => rfl) fun _ => rfl
      · intro releasedAt
        exact apart_await (.emitPaymentReleased _) (fun _ => rfl) fun _ => rfl
    · exact apart_await (.saveEscrow _) (fun _ => rfl) fun _ => rfl

theorem apart_triggerManualRelease : Apart triggerManualRelease := by
  apply Respects.bind
  · apply Respects.bind
    · exact apart_await .findLockedEscrows (fun _ => rfl) fun _ => rfl
    · exact fun locked => .foldlM apart_checkEligible locked []
  · intro eligible
    refine .foldlM (fun counts escrow => ?_) eligible (0, 0)
    apply (apart_processAutoRelease escrow).attempt.bind
    rintro (error | _) <;> exact .pure _

theorem apart_handleEscrowAutoRelease : Apart handleEscrowAutoRelease := by
  apply apart_triggerManualRelease.attempt.bind
  rintro (error | counts) <;> exact .pure _

/-! ### The calls that write disputes -/

abbrev KeepsOrder {α : Type} (program : Service α) : Prop := handler.Respects InOrder program

theorem keepsOrder_of_apart {α : Type} {program : Service α}
    (apart : Apart program) : KeepsOrder program :=
  fun world => handler.wp_mono (apart world) fun _ _ same => same.orderly

theorem keepsOrder_createDispute (dto : CreateDisputeDto) :
    KeepsOrder (createDispute dto) := by
  apply Respects.bind
  · intro world
    exact ⟨.filed world.disputes.row_next, fun _ _ => .refl world⟩
  · intro savedDispute
    cases dto.escrowId with
    | none => exact .pure _
    | some escrowId =>
      apply Respects.bind
      · apply Respects.attempt
        apply keepsOrder_of_apart
        apply (apart_escrowCall (.freezeEscrow escrowId)).bind
        exact fun _ => apart_updateDisputeFlag escrowId true
      · rintro (error | _)
        · exact .throw _
        · exact .pure _

theorem keepsOrder_escalateDispute (dto : EscalateDisputeDto) (userId : Id) :
    KeepsOrder (escalateDispute dto userId) := by
  intro world
  rw [← handler.shield_none]
  unfold escalateDispute
  rw [wp_bind]
  apply wp_getDisputeById _ _ fun _ => .refl world
  intro dispute stored
  simp only [andThen_ok, wp_ite, wp_bind, wp_throw, andThen_error, wp_saveDispute, wp_pure]
  split
  · exact .refl world
  split
  · exact .refl world
  next invalid =>
    have valid : Leads dispute.status .escalated := by simpa using invalid
    have sameId : dispute.id = dto.disputeId := world.disputes.keyed stored
    exact ⟨.disputed stored sameId (.single valid), fun _ _ => .refl world⟩

theorem keepsOrder_adminUpdateDispute (dto : UpdateDisputeDto) :
    KeepsOrder (adminUpdateDispute dto) := by
  intro world
  rw [← handler.shield_none]
  unfold adminUpdateDispute
  rw [wp_bind]
  apply wp_getDisputeById _ _ fun _ => .refl world
  intro dispute stored
  have sameId : dispute.id = dto.disputeId := world.disputes.keyed stored
  cases dto.status with
  | none => exact ⟨.disputed stored sameId .refl, fun _ _ => .refl world⟩
  | some status =>
    simp only [wp_ite, wp_bind, wp_throw, andThen_ok, andThen_error, wp_saveDispute, wp_pure]
    split
    · exact .refl world
    next invalid =>
      have valid : Leads dispute.status status := by simpa using invalid
      exact ⟨.disputed stored sameId (.single valid), fun _ _ => .refl world⟩

theorem keepsOrder_adminResolveDispute (dto : ResolveDisputeDto)
    (disputeId : Id) : KeepsOrder (adminResolveDispute dto disputeId) := by
  intro world
  rw [← handler.shield_none]
  unfold adminResolveDispute
  rw [wp_bind]
  apply wp_getDisputeById _ _ fun _ => .refl world
  intro dispute stored
  have sameId : dispute.id = disputeId := world.disputes.keyed stored
  simp only [andThen_ok, wp_ite, wp_bind, wp_throw, andThen_error]
  split
  · exact .refl world
  next invalid =>
    have valid : Leads dispute.status .resolved := by simpa using invalid
    cases dispute.escrowId with
    | none => exact ⟨.disputed stored sameId (.single valid), fun _ _ => .refl world⟩
    | some escrowId =>
      rw [wp_bind, wp_attempt, handler.shield_none]
      have distributes : Apart (do
          let escrow ← findEscrowOrFail escrowId
          let totalAmount := escrow.amount
          let refundAmount := dto.refundAmount.getD 0
          adminReleaseFunds escrowId
            { toSeller := totalAmount - refundAmount
              toBuyer := refundAmount }) := by
        apply Respects.bind
        · apply Respects.bind
          · exact apart_await (.findEscrow _) (fun _ => rfl) fun _ => rfl
          · rintro (_ | escrow)
            · exact .throw _
            · exact .pure _
        · exact fun escrow => apart_escrowCall (.adminReleaseFunds escrowId _)
      apply handler.wp_mono (distributes world)
      intro result middle same
      have storedMiddle : middle.disputes.row disputeId = some dispute := by
        rw [same.disputes]
        exact stored
      cases result with
      | error error => exact same.orderly
      | ok response =>
        refine ⟨same.orderly.trans ?_, fun _ _ => same.orderly⟩
        exact .disputed storedMiddle sameId (.single valid)

/-- The disputes that the loop still has before it are stored as they were
read. -/
theorem keepsOrder_autoResolveDisputes : KeepsOrder autoResolveDisputes := by
  intro world
  unfold autoResolveDisputes
  rw [wp_bind, ← handler.shield_none]
  refine ⟨?_, fun _ _ => .refl world⟩
  rw [handler.shield_none]
  apply wp_foldlM _ fun remaining _ current => InOrder world current ∧
    (remaining.Pairwise fun a b => a.1.id ≠ b.1.id) ∧
      ∀ item ∈ remaining, current.disputes.row item.1.id = some item.1 ∧ item.1.status = .open
  · refine ⟨.refl world, ?_, fun item member => ?_⟩
    · exact List.pairwise_map.mpr (world.disputes.rows_pairwise.sublist List.filter_sublist)
    · obtain ⟨dispute, selected, rfl⟩ := List.mem_map.mp member
      obtain ⟨listed, isOpen⟩ := List.mem_filter.mp selected
      exact ⟨Table.mem_rows.mp listed, of_decide_eq_true isOpen⟩
  · rintro head tail count current ⟨orderly, distinct, stored⟩
    obtain ⟨apart, distinct⟩ := List.pairwise_cons.mp distinct
    obtain ⟨⟨storedHead, isOpen⟩, stored⟩ := List.forall_mem_cons.mp stored
    rw [← handler.shield_none]
    unfold autoResolveOne
    simp only [wp_bind, wp_dateNow, andThen_ok, wp_ite, wp_saveDispute, wp_pure, andThen_error]
    split
    · refine ⟨⟨orderly.trans ?_, distinct, fun item member => ?_⟩, fun _ _ => orderly⟩
      · refine .disputed storedHead rfl (.single ?_)
        rw [isOpen]
        rfl
      · obtain ⟨storedItem, openItem⟩ := stored item member
        refine ⟨?_, openItem⟩
        exact (Table.row_save_of_ne _ _ (apart item member).symm).trans storedItem
    · exact ⟨orderly, distinct, stored⟩
  · exact fun _ current reached => reached.1

/-! ### Evidence -/

def SubmitEvidenceDto.evidence (dto : SubmitEvidenceDto) : Evidence where
  disputeId := dto.disputeId
  submittedBy := dto.submittedBy
  fileUrl := dto.fileUrl
  description := dto.description

def Takes (world : World) (dto : SubmitEvidenceDto) (faults : List Fault) :
    Prop := submissionFails faults = false ∧ ∃ dispute ∈ world.disputes.row dto.disputeId,
      dispute.status ≠ .resolved ∧ dispute.status ≠ .rejected

theorem submitEvidence_exec (dto : SubmitEvidenceDto) (faults : List Fault) (world : World) :
    (Takes world dto faults ∧ (handler.exec (submitEvidence dto) faults world).2 =
          world.evidenced dto.evidence) ∨ (¬ Takes world dto faults ∧
        (handler.exec (submitEvidence dto) faults world).2 = world) := by
  unfold Takes submissionFails submitEvidence getDisputeById
    disputeRepo.findOne evidenceRepo.insert await
  rw [Program.bind_assoc]
  cases first : faults.headD none with
  | some error =>
    rw [exec_perform_fails first rfl]
    exact .inr ⟨by simp, rfl⟩
  | none =>
    rw [exec_perform_acts (.inl first)]
    simp only [handler, act]
    cases world.disputes.row dto.disputeId with
    | none => exact .inr ⟨by simp, rfl⟩
    | some dispute =>
      show (_ ∧ (exec _ (if _ then _ else _) faults.tail world).2 = _) ∨
        (_ ∧ (exec _ (if _ then _ else _) faults.tail world).2 = _)
      split
      next closed =>
        refine .inr ⟨?_, rfl⟩
        grind
      next taken =>
        obtain ⟨unresolved, unrejected⟩ := not_or.mp taken
        have last : ∀ result after, handler.perform (.insertEvidence dto.evidence)
                (faults.tail.headD none) world = (result, after) →
              (exec handler (Program.perform (S := signature)
                (.insertEvidence dto.evidence)) faults.tail
                  world).2 = after := by grind [Program.perform, exec]
        cases second : faults.tail.headD none with
        | some error =>
          rw [second] at last
          exact .inr ⟨by simp, last (.error error) world rfl⟩
        | none =>
          rw [second] at last
          exact .inl ⟨⟨rfl, dispute, rfl, unresolved, unrejected⟩, last (.ok ()) _ rfl⟩

/-- Evidence is sealed off from closed disputes by the service, save for those
that were resolved automatically. -/
theorem orderly_submitEvidence_iff (dto : SubmitEvidenceDto) (faults : List Fault) (world : World) :
    InOrder world (handler.exec (submitEvidence dto) faults world).2 ↔
      ∀ dispute ∈ world.disputes.row dto.disputeId,
        dispute.status = .autoResolved → submissionFails faults = true := by
  rcases submitEvidence_exec dto faults world with
    ⟨⟨goes, dispute, stored, open'⟩, after⟩ | ⟨refused, after⟩
  · rw [after, goes]
    constructor
    · intro orderly other storedOther resolved
      cases stored.symm.trans storedOther
      have grown := orderly.sealed dto.disputeId dispute stored (by rw [resolved]; rfl)
      simp_all [World.evidencesOf, World.evidenced, SubmitEvidenceDto.evidence]
    · intro never
      refine .of_same rfl fun id other storedOther closed => ?_
      have elsewhere : id ≠ dto.disputeId := by
        rintro rfl
        cases stored.symm.trans storedOther
        rcases isClosed_iff.mp closed with status | status | status <;> simp_all
      simp [World.evidencesOf, World.evidenced, SubmitEvidenceDto.evidence, elsewhere.symm]
  · rw [after]
    refine iff_of_true (.refl world) fun dispute stored resolved => ?_
    by_contra goes
    refine refused ⟨Bool.eq_false_iff.mpr goes, dispute, stored, ?_⟩
    rw [resolved]
    exact ⟨nofun, nofun⟩

/-! ### Runs -/

/-- One call keeps the order, unless it adds evidence to a dispute that was
resolved automatically. -/
theorem orderly_settle_iff (world : World) (event : Event) :
    InOrder world (settle world event) ↔ EvidenceInTime world event := by
  cases event with
  | elsewhere orders now => exact iff_of_true (.of_same rfl fun _ _ _ _ => rfl) trivial
  | call call faults =>
    have kept : ∀ {α : Type} {program : Service α}, KeepsOrder program →
        (InOrder world (handler.exec (do let _ ← program; pure ()) faults world).2 ↔ True) :=
      fun keeps =>
        iff_of_true ((keeps.bind fun _ => .pure ()).exec faults world) trivial
    cases call with
    | submitEvidence dto => exact orderly_submitEvidence_iff dto faults world
    | escrow call => exact kept (keepsOrder_of_apart (apart_escrowCall call))
    | createDispute dto => exact kept (keepsOrder_createDispute dto)
    | escalateDispute dto userId => exact kept (keepsOrder_escalateDispute dto userId)
    | adminUpdateDispute dto => exact kept (keepsOrder_adminUpdateDispute dto)
    | autoResolveDisputes => exact kept keepsOrder_autoResolveDisputes
    | adminResolveDispute dto disputeId => exact kept (keepsOrder_adminResolveDispute dto disputeId)
    | triggerManualRelease => exact kept (keepsOrder_of_apart apart_triggerManualRelease)
    | handleEscrowAutoRelease =>
      exact iff_of_true ((keepsOrder_of_apart
        apart_handleEscrowAutoRelease).exec faults world) trivial

/-- In every run of the settlement calls, whatever fails, disputes move along
the transitions of their machine and stay closed; and closed ones keep their
evidence, if and only if nobody adds evidence to one that was resolved
automatically. -/
theorem disputes_orderly_iff (start : World) (events : List Event) :
    (∀ front middle back, events = front ++ middle ++ back →
      InOrder (run settle start front) (run settle start (front ++ middle))) ↔
      Along settle EvidenceInTime start events := by
  rw [related_iff_along]
  simp only [orderly_settle_iff]

/-- A dispute that nobody answers for three days. -/
def unanswered : List Event := [ .call (.createDispute
      { transactionId := 0, complainantId := 1, respondentId := 2
        reason := "late" }) [], .elsewhere .empty (3 * 24 * 60 * 60 * 1000),
    .call .autoResolveDisputes [] ]

/-- Three days later the respondent sends a photo. -/
def lateAnswer : Event := .call (.submitEvidence
    { disputeId := 0, submittedBy := 2, fileUrl := "photo.jpg" }) []

/-- The dispute is resolved, and then gets evidence. -/
theorem evidence_after_auto_resolution :
    ¬ ∀ front middle back, unanswered ++ [lateAnswer] = front ++ middle ++ back →
        InOrder (run settle .empty front) (run settle .empty (front ++ middle)) := by
  intro orderly
  have stored : (run settle .empty unanswered).disputes.row 0 =
      some { id := 0, transactionId := 0, complainantId := 1
             respondentId := 2, reason := "late", status := .autoResolved
             createdAt := 0 } := by decide +kernel
  have kept := (orderly unanswered [lateAnswer] [] rfl).sealed 0 _ stored rfl
  have lengths := congrArg List.length kept
  exact absurd lengths (by decide +kernel)

end MarketX.Settlement
