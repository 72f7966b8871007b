/-
Module: MarketX.Proofs.AutoRelease
Purpose: Which escrows the auto-release job finds eligible, and the ways in
  which its turn with one of them can end.
Trusted boundary: none
Main exports: due, eligibleEscrows, findEligibleEscrows_exact, Processed
-/
import MarketX.Effects.Traces
import MarketX.Proofs.TerminalEscrows

namespace MarketX.Settlement

open Effects Handler

/-! ### The search -/

/-- The order exists and was delivered at least seven days ago. -/
def due (world : World) (escrow : EscrowEntity) : Bool :=
  (world.orders.row escrow.orderId).any fun order =>
    order.status = .delivered ∧ order.deliveredAt.any fun deliveredAt =>
      7 * (24 * 60 * 60 * 1000) ≤ world.now - deliveredAt

/-- LOCKED, not flagged, and due. -/
def eligible (world : World) (escrow : EscrowEntity) : Bool :=
  escrow.status = .locked ∧ escrow.disputeFlag = false ∧ due world escrow

def eligibleEscrows (world : World) : List EscrowEntity :=
  world.escrows.rows.filter (eligible world)

def searches : Op → Bool
  | .findLockedEscrows | .findOrder _ => true
  | _ => false

theorem week_passed_iff (now deliveredAt : ℤ) :
    (now - deliveredAt) / (24 * 60 * 60 * 1000) ≥ 7 ↔
      7 * (24 * 60 * 60 * 1000) ≤ now - deliveredAt := by omega

theorem checkEligible_exact {spared : Spared} (world : World)
    (found : List EscrowEntity) (escrow : EscrowEntity) :
    (handler.shield spared).wp (checkEligible found escrow)
      (fun result after => after = world ∧ match result with
        | .ok list => list = found ++ [escrow].filter (due world)
        | .error _ => ∃ op, searches op ∧ spared op = false)
      world := by
  unfold checkEligible
  rw [wp_bind, wp_findOrder]
  refine ⟨?_, fun exposed _ => ⟨rfl, _, rfl, exposed⟩⟩
  cases stored : world.orders.row escrow.orderId with
  | none => simp [due, stored]
  | some order =>
    by_cases delivered : order.status = .delivered
    · simp only [ne_eq]
      cases noted : order.deliveredAt with
      | none => simp [due, stored, noted]
      | some deliveredAt =>
        simp only [andThen_ok, wp_ite, wp_pure, week_passed_iff]
        simp_all [due]
    · simp [due, stored, delivered]

/-- The search finds the eligible escrows, unless one of its queries
throws. -/
theorem findEligibleEscrows_exact (spared : Spared) (world : World) :
    (handler.shield spared).wp findEligibleEscrows
      (fun result after => after = world ∧ match result with
        | .ok list => list = eligibleEscrows world
        | .error _ => ∃ op, searches op ∧ spared op = false)
      world := by
  unfold findEligibleEscrows
  rw [wp_bind, wp_findLocked]
  refine ⟨?_, fun exposed _ => ⟨rfl, _, rfl, exposed⟩⟩
  -- what has been found, with what is due of the rows still to come
  apply wp_foldlM _ fun remaining found current => current = world ∧
    found ++ remaining.filter (due world) = eligibleEscrows world
  · refine ⟨rfl, ?_⟩
    rw [List.nil_append, List.filter_filter]
    apply List.filter_congr
    simp_all [eligible, Bool.and_assoc, Bool.and_comm, Bool.and_left_comm]
  · rintro head tail found _ ⟨rfl, complete⟩
    apply Handler.wp_mono _ (checkEligible_exact _ found head)
    rintro (error | list) _ ⟨rfl, outcome⟩
    · exact ⟨rfl, outcome⟩
    · refine ⟨rfl, ?_⟩
      grind
  · simp

/-! ### One turn -/

/-- The row of an escrow when its release is through. -/
def releasedFrom (world : World) (escrow : EscrowEntity) : EscrowEntity :=
  { escrow with
    releaseTransactionHash := some world.ledger.length
    status := .released
    deliveryConfirmedAt := some world.now }

def releaseEvent (world : World) (escrow : EscrowEntity) :
    PaymentReleasedEvent where
  escrowId := escrow.id
  orderId := escrow.orderId
  sellerPublicKey := escrow.sellerPublicKey
  amount := escrow.amount
  transactionHash := some world.ledger.length
  releasedAt := world.now
  autoReleased := true

/-- The world after an escrow has been released by the job. -/
def World.released (world : World) (escrow : EscrowEntity) : World :=
  ((world.submitted [pays escrow escrow.sellerPublicKey escrow.amount]).saved
    (releasedFrom world escrow)).emitted (releaseEvent world escrow)

@[simp] theorem World.released_row (world : World) (escrow : EscrowEntity) :
    (world.released escrow).escrows.row escrow.id =
      some (releasedFrom world escrow) :=
  Table.row_save_self world.escrows (releasedFrom world escrow)

@[simp] theorem World.released_events (world : World) (escrow : EscrowEntity) :
    (world.released escrow).events = world.events ++ [releaseEvent world escrow] := rfl

@[simp] theorem World.flagged_row (world : World) (escrow : EscrowEntity) :
    (world.saved { escrow with disputeFlag := true }).escrows.row escrow.id =
      some { escrow with disputeFlag := true } :=
  Table.row_save_self world.escrows { escrow with disputeFlag := true }

/-- The calls that are about the escrow, of those that may throw. -/
def about (escrow : EscrowEntity) : Op → Bool
  | .findActiveDispute escrowId => escrowId = escrow.id
  | .findEscrow id => id = escrow.id
  | .loadAccount key => key = escrow.escrowAccountPublicKey
  | .submitTransaction tx => tx = pays escrow escrow.sellerPublicKey escrow.amount
  | .saveEscrow row => row.id = escrow.id
  | _ => false

def payOut (escrow : EscrowEntity) : Service Unit := do
  let releasedEscrow ← releaseFunds
    { escrowId := escrow.id
      deliveryProof :=
        "auto-release: 7-day grace period elapsed without dispute" }
  let releasedAt ← dateNow
  emitPaymentReleased
    { escrowId := escrow.id
      orderId := escrow.orderId
      sellerPublicKey := escrow.sellerPublicKey
      amount := escrow.amount
      transactionHash := releasedEscrow.releaseTransactionHash
      releasedAt
      autoReleased := true }

variable {world start current : World} {escrow : EscrowEntity} {remaining : List EscrowEntity}

/-- A release of a LOCKED escrow goes through, or one of its own calls
throws. -/
theorem payOut_spec (spared : Spared)
    (stored : world.escrows.row escrow.id = some escrow) (locked : escrow.status = .locked) :
    (handler.shield spared).wp (payOut escrow) (fun result after => match result with
        | .ok _ => after = world.released escrow
        | .error _ => (∃ sent, after = world.submitted sent) ∧
            ∃ op, about escrow op ∧ spared op = false)
      world := by
  have untouched : ∃ sent, world = world.submitted sent := ⟨[], by simp⟩
  have allowed : escrowTransitionValidator.validate escrow.status .released =
      .ok () := by
    rw [locked]
    rfl
  unfold payOut releaseFunds findEscrowOrFail
  simp only [wp_bind, wp_findEscrow, andThen_ok, andThen_error, stored,
    allowed, wp_ofExcept, wp_buildTransaction, wp_submitTransaction,
    wp_dateNow, wp_saveEscrow, wp_emitPaymentReleased, wp_pure]
  refine ⟨⟨⟨⟨rfl, fun exposed _ => ?_⟩, fun exposed _ => ?_⟩,
    fun exposed _ => ?_⟩, fun exposed _ => ?_⟩
  · exact ⟨⟨_, rfl⟩, _, by simp [about], exposed⟩
  · exact ⟨untouched, _, by simp [about, pays], exposed⟩
  · exact ⟨untouched, _, by simp [about], exposed⟩
  · exact ⟨untouched, _, by simp [about], exposed⟩

/-- The calls that follow once the release has looked its escrow up. -/
def settles : Op → Bool
  | .loadAccount _ | .submitTransaction _ | .dateNow | .saveEscrow _
  | .emitPaymentReleased _ => true
  | _ => false

theorem settles_await {op : Op} (settling : settles op) :
    (await op).Uses fun op => settles op := Program.uses_perform settling

theorem payOut_begins (escrow : EscrowEntity) :
    Program.Begins (S := signature) (.findEscrow escrow.id)
      (fun op => settles op) (payOut escrow) := by
  have lookedUp : Program.Begins (S := signature) (.findEscrow escrow.id)
      (fun op => settles op) (findEscrowOrFail escrow.id) := by
    refine (Program.begins_perform (S := signature) _ _).bind ?_
    rintro (_ | found) <;> trivial
  refine (lookedUp.bind fun found => ?_).bind fun _ =>
    (settles_await rfl).bind fun _ => settles_await rfl
  cases escrowTransitionValidator.validate found.status .released with
  | error error => trivial
  | ok _ =>
    have built (source destination : PublicKey) (amount : Amount) :
        (buildTransaction source destination amount).Uses fun op => settles op :=
      (settles_await rfl).bind fun _ => trivial
    exact (built _ _ _).bind fun tx => (settles_await rfl).bind fun _ =>
      (settles_await rfl).bind fun _ => (settles_await rfl).bind fun _ => trivial

/-- How the job's turn with an escrow ends, and which effects it performed:
the look-up of a dispute throws, a dispute is found and the escrow flagged or
not, or the escrow is released or not. -/
inductive Processed (world : World) (escrow : EscrowEntity) :
    List (Op × Bool) → Except HttpException Unit → World → Prop where
  | unchecked (error : HttpException) :
      Processed world escrow [(.findActiveDispute escrow.id, true)] (.error error) world
  | skipped (disputed : (world.activeDispute? escrow.id).isSome) :
      Processed world escrow [(.findActiveDispute escrow.id, false),
          (.saveEscrow { escrow with disputeFlag := true }, false)]
        (.ok ()) (world.saved { escrow with disputeFlag := true })
  | unflagged (disputed : (world.activeDispute? escrow.id).isSome) (error : HttpException) :
      Processed world escrow [(.findActiveDispute escrow.id, false),
          (.saveEscrow { escrow with disputeFlag := true }, true)] (.error error) world
  | released (undisputed : world.activeDispute? escrow.id = none)
      (threw : Bool) {later : List (Op × Bool)} (rest : ∀ entry ∈ later, settles entry.1) :
      Processed world escrow ((.findActiveDispute escrow.id, false) ::
          (.findEscrow escrow.id, threw) :: later) (.ok ()) (world.released escrow)
  | failed (undisputed : world.activeDispute? escrow.id = none)
      (threw : Bool) {later : List (Op × Bool)} (rest : ∀ entry ∈ later, settles entry.1) {op : Op}
      (own : about escrow op) (thrown : (op, true) ∈ (.findEscrow escrow.id, threw) :: later)
      (error : HttpException) (sent : List Transaction) :
      Processed world escrow ((.findActiveDispute escrow.id, false) ::
          (.findEscrow escrow.id, threw) :: later) (.error error) (world.submitted sent)

def lookedUp (escrow : EscrowEntity) : Option Dispute → Service Unit
  | some _ => await (.saveEscrow { escrow with disputeFlag := true }) >>= pure
  | none => payOut escrow

theorem processAutoRelease_eq (escrow : EscrowEntity) :
    processAutoRelease escrow =
      Program.perform (S := signature) (.findActiveDispute escrow.id) >>=
        lookedUp escrow := by
  refine congrArg _ (funext fun found => ?_)
  cases found with
  | some dispute =>
    refine congrArg (Program.call _) (funext fun reply => ?_)
    cases reply <;> rfl
  | none => rfl

theorem processed (stored : world.escrows.row escrow.id = some escrow)
    (locked : escrow.status = .locked) (faults : List Fault) :
    Processed world escrow (handler.trace (processAutoRelease escrow) faults world)
      (handler.exec (processAutoRelease escrow) faults world).1
      (handler.exec (processAutoRelease escrow) faults world).2 := by
  rw [processAutoRelease_eq]
  cases looked : faults.headD none with
  | some error =>
    rw [exec_perform_fails looked rfl, trace_perform_fails looked rfl]
    exact .unchecked error
  | none =>
    rw [exec_perform_acts (.inl looked), trace_perform_acts (.inl looked),
      show handler.act (.findActiveDispute escrow.id) world =
        (world.activeDispute? escrow.id, world) from rfl]
    cases disputes : world.activeDispute? escrow.id with
    | some dispute =>
      have disputed : (world.activeDispute? escrow.id).isSome := by
        rw [disputes]
        rfl
      unfold lookedUp await
      cases saved : faults.tail.headD none with
      | some error =>
        rw [exec_perform_fails saved rfl, trace_perform_fails saved rfl]
        exact .unflagged disputed error
      | none =>
        rw [exec_perform_acts (.inl saved), trace_perform_acts (.inl saved)]
        exact .skipped disputed
    | none =>
      have ended := handler.wp_sound_trace faults.tail (payOut_spec _ stored locked)
      obtain ⟨threw, later, traced, rest⟩ := handler.trace_begins
        (payOut_begins escrow) faults.tail world
      rw [traced] at ended
      show Processed world escrow (_ :: handler.trace (payOut escrow) faults.tail world)
        (handler.exec (payOut escrow) faults.tail world).1
        (handler.exec (payOut escrow) faults.tail world).2
      rw [traced]
      cases result : (handler.exec (payOut escrow) faults.tail world).1 with
      | ok value =>
        rw [result] at ended
        rw [ended]
        exact .released disputes threw rest
      | error error =>
        rw [result] at ended
        obtain ⟨⟨sent, after⟩, op, own, exposed⟩ := ended
        rw [after]
        exact .failed disputes threw rest own (not_not.mp (of_decide_eq_false exposed)) error sent

section

variable {world after : World} {escrow : EscrowEntity}
  {traced : List (Op × Bool)} {result : Except HttpException Unit}

theorem Processed.disputes (ends : Processed world escrow traced result after) :
    after.disputes = world.disputes := by
  cases ends <;> rfl

theorem Processed.othersKept (ends : Processed world escrow traced result after) :
    OthersKept world after escrow.id := by
  cases ends with
  | skipped => exact OthersKept.saved world { escrow with disputeFlag := true }
  | released => exact OthersKept.saved (world.submitted _) (releasedFrom world escrow)
  | unchecked | unflagged | failed => exact fun _ _ => rfl

theorem Processed.findActive_own (ends : Processed world escrow traced result after) {id : Id}
    {threw : Bool} (member : (.findActiveDispute id, threw) ∈ traced) :
    id = escrow.id := by
  cases ends with
  | released undisputed threw rest | failed undisputed threw rest =>
    rcases List.mem_cons.mp member with same | later
    · cases same
      rfl
    rcases List.mem_cons.mp later with same | settling
    · cases same
    · cases rest _ settling
  | unchecked | skipped | unflagged => simp_all

end

/-! ### Turn by turn -/

/-- Where the job stands, with the escrows it still has in hand. -/
structure Underway (start : World) (remaining : List EscrowEntity)
    (current : World) : Prop where
  disputes : current.disputes = start.disputes
  snapshot : Snapshot current remaining

theorem Underway.next (underway : Underway start (escrow :: remaining) current)
    (faults : List Fault) :
    Underway start remaining (handler.exec (processAutoRelease escrow) faults current).2 := by
  obtain ⟨disputes, snapshot⟩ := underway
  have ends := processed (snapshot.stored escrow List.mem_cons_self)
    (snapshot.locked escrow List.mem_cons_self) faults
  have rest := snapshot.sublist (List.sublist_cons_self escrow remaining)
  refine ⟨ends.disputes.trans disputes, rest.distinct, ?_, rest.locked⟩
  intro other member
  have differs := (List.pairwise_cons.mp snapshot.distinct).1 other member
  rw [ends.othersKept other.id differs.symm]
  exact rest.stored other member

theorem afterTurns_kept (underway : Underway start remaining current) {id : Id}
    (absent : ∀ escrow ∈ remaining, escrow.id ≠ id) (faults : List Fault) :
    (handler.afterTurns processAutoRelease remaining faults
      current).escrows.row id = current.escrows.row id := by
  refine (turns_forall processAutoRelease (fun rest state =>
    Underway start rest state ∧ (∀ escrow ∈ rest, escrow.id ≠ id) ∧
      state.escrows.row id = current.escrows.row id) ?_
    ⟨underway, absent, rfl⟩ faults).2.2.2
  rintro escrow rest faults state ⟨underway, absent, same⟩
  obtain ⟨differs, others⟩ := List.forall_mem_cons.mp absent
  have ends := processed (underway.snapshot.stored escrow List.mem_cons_self)
    (underway.snapshot.locked escrow List.mem_cons_self) faults
  refine ⟨underway.next faults, others, ?_⟩
  rw [ends.othersKept id differs.symm, same]

def traceOf (turn : Iteration World HttpException EscrowEntity) :
    List (Op × Bool) := handler.trace (processAutoRelease turn.item) turn.faults turn.state

/-- A turn of a run of the job, and what the run leaves of its escrow. -/
structure Turned (start after : World)
    (turn : Iteration World HttpException EscrowEntity) : Prop where
  disputes : turn.state.disputes = start.disputes
  stored : turn.state.escrows.row turn.item.id = some turn.item
  locked : turn.item.status = .locked
  processed : Processed turn.state turn.item (traceOf turn) (turn.done handler processAutoRelease).1
    (turn.done handler processAutoRelease).2
  last : after.escrows.row turn.item.id =
    (turn.done handler processAutoRelease).2.escrows.row turn.item.id

theorem Turned.activeDispute? {after : World} {turn : Iteration World HttpException EscrowEntity}
    (turned : Turned start after turn) (escrowId : Id) :
    turn.state.activeDispute? escrowId = start.activeDispute? escrowId := by
  unfold World.activeDispute?
  rw [turned.disputes]

theorem turns_turned {escrows : List EscrowEntity}
    (snapshot : Snapshot start escrows) (faults : List Fault) :
    ∀ turn ∈ handler.turns processAutoRelease escrows faults start, Turned start
        (handler.afterTurns processAutoRelease escrows faults start) turn := by
  intro turn member
  obtain ⟨rest, underway, last⟩ := (turns_forall processAutoRelease
    (Underway start) (fun _ _ faults _ underway => underway.next faults)
    ⟨rfl, snapshot⟩ faults).1 turn member
  have stored := underway.snapshot.stored turn.item List.mem_cons_self
  have locked := underway.snapshot.locked turn.item List.mem_cons_self
  refine ⟨underway.disputes, stored, locked, processed stored locked turn.faults, ?_⟩
  rw [last]
  apply afterTurns_kept (underway.next turn.faults)
  intro other later
  exact ((List.pairwise_cons.mp underway.snapshot.distinct).1 other later).symm

/-! ### The whole job -/

section

variable (faults : List Fault) (world : World)

def afterSearch : List Fault := handler.leftover findEligibleEscrows faults world

def runTurns : List (Iteration World HttpException EscrowEntity) :=
  handler.turns processAutoRelease (eligibleEscrows world) (afterSearch faults world) world

def jobAfter : World := handler.afterTurns processAutoRelease (eligibleEscrows world)
    (afterSearch faults world) world

def tally (counts : ℕ × ℕ) : Except HttpException Unit → ℕ × ℕ
  | .ok _ => (counts.1 + 1, counts.2)
  | .error _ => (counts.1, counts.2 + 1)

theorem releaseOne_eq :
    releaseOne = fun counts escrow => (processAutoRelease escrow).attempt >>=
      fun result => pure (tally counts result) := by
  funext counts escrow
  refine congrArg _ (funext fun result => ?_)
  cases result <;> rfl

variable {faults world}

theorem snapshot_eligible : Snapshot world (eligibleEscrows world) := by
  have part : (eligibleEscrows world).Sublist (world.escrows.rows.filter fun escrow =>
        escrow.status = .locked ∧ escrow.disputeFlag = false) := by
    apply List.monotone_filter_right
    simp_all [eligible]
  exact (snapshot_locked world).sublist part

theorem runTurns_items (faults : List Fault) (world : World) :
    (runTurns faults world).map Iteration.item = eligibleEscrows world := turns_items _ _ _

theorem runTurns_turned :
    ∀ turn ∈ runTurns faults world,
      Turned world (jobAfter faults world) turn := turns_turned snapshot_eligible _

theorem runTurns_eq {turn other : Iteration World HttpException EscrowEntity}
    (member : turn ∈ runTurns faults world) (memberOther : other ∈ runTurns faults world)
    (same : turn.item.id = other.item.id) : turn = other := by
  have distinct : ((runTurns faults world).map fun turn => turn.item.id).Nodup := by
    rw [show (fun turn : Iteration World HttpException EscrowEntity =>
        turn.item.id) = EscrowEntity.id ∘ Iteration.item from rfl,
      ← List.map_map, runTurns_items]
    exact List.pairwise_map.mpr snapshot_eligible.distinct
  exact List.inj_on_of_nodup_map distinct member memberOther same

theorem jobAfter_kept (faults : List Fault) {escrow : EscrowEntity}
    (stored : world.escrows.row escrow.id = some escrow) (absent : eligible world escrow = false) :
    (jobAfter faults world).escrows.row escrow.id = some escrow := by
  rw [← stored]
  apply afterTurns_kept ⟨rfl, snapshot_eligible⟩
  intro other member same
  have storedOther := snapshot_eligible.stored other member
  rw [same, stored] at storedOther
  cases storedOther
  rw [(List.mem_filter.mp member).2] at absent
  cases absent

/-- A run of the job: it searches and, if none of the queries throws, takes
the eligible escrows in turn. -/
inductive JobRun (faults : List Fault) (world : World) :
    Except HttpException (ℕ × ℕ) × World → List (Op × Bool) → Prop where
  | interrupted {searched : List (Op × Bool)}
      (queries : ∀ entry ∈ searched, searches entry.1 ∨ entry.1 = .dateNow)
      {op : Op} (query : searches op) (thrown : (op, true) ∈ searched) (error : HttpException) :
      JobRun faults world (.error error, world) searched
  | complete {searched : List (Op × Bool)}
      (queries : ∀ entry ∈ searched, searches entry.1 ∨ entry.1 = .dateNow)
      (answered : ∀ entry ∈ searched, entry.2 = false) :
      JobRun faults world (.ok ((runTurns faults world).foldl (fun counts turn =>
            tally counts (turn.done handler processAutoRelease).1) (0, 0)),
          jobAfter faults world) (searched ++ (runTurns faults world).flatMap traceOf)

theorem checkEligible_uses (found : List EscrowEntity) (escrow : EscrowEntity) :
    (checkEligible found escrow).Uses fun op => searches op ∨ op = Op.dateNow := by
  refine Program.Uses.bind ⟨.inl rfl, ?_⟩ ?_
  · rintro (_ | _) <;> trivial
  rintro (_ | order)
  · trivial
  refine .branch _ trivial ?_
  cases order.deliveredAt with
  | none => trivial
  | some deliveredAt =>
    refine Program.Uses.bind ⟨.inr rfl, ?_⟩ fun now => .branch _ trivial trivial
    rintro (_ | _) <;> trivial

theorem checkEligible_unguarded (found : List EscrowEntity)
    (escrow : EscrowEntity) : (checkEligible found escrow).Unguarded := by
  refine (Program.unguarded_perform (S := signature) _).bind ?_
  rintro (_ | order)
  · trivial
  dsimp only
  split
  · trivial
  cases order.deliveredAt with
  | none => trivial
  | some deliveredAt =>
    refine (Program.unguarded_perform (S := signature) _).bind fun now => ?_
    split <;> trivial

theorem jobRun (faults : List Fault) (world : World) :
    JobRun faults world (handler.exec triggerManualRelease faults world)
      (handler.trace triggerManualRelease faults world) := by
  have uses : findEligibleEscrows.Uses fun op => searches op ∨ op = Op.dateNow :=
    (Program.uses_perform (S := signature) (.inl rfl)).bind
      fun lockedEscrows => .foldlM checkEligible_uses lockedEscrows []
  have queries := handler.trace_uses uses faults world
  have unguarded : findEligibleEscrows.Unguarded :=
    (Program.unguarded_perform (S := signature) _).bind
      fun lockedEscrows => .foldlM checkEligible_unguarded lockedEscrows []
  have searched := handler.wp_sound_trace faults (findEligibleEscrows_exact _ world)
  cases found : (handler.exec findEligibleEscrows faults world).1 with
  | error error =>
    rw [found] at searched
    obtain ⟨same, op, query, exposed⟩ := searched
    unfold triggerManualRelease
    rw [exec_bind_error found, trace_bind_error found, same]
    exact .interrupted queries query (not_not.mp (of_decide_eq_false exposed)) error
  | ok list =>
    have answered := handler.trace_of_ok unguarded found
    rw [found] at searched
    obtain ⟨same, rfl⟩ := searched
    unfold triggerManualRelease
    rw [exec_bind_ok found, trace_bind_ok found, same, releaseOne_eq, exec_turns, trace_turns]
    exact .complete queries answered

/-- In the effects of a run, the look-up of an escrow's disputes is in the
escrow's turn. -/
theorem mem_findActive_iff {faults : List Fault} {world : World} {searched : List (Op × Bool)}
    (queries : ∀ entry ∈ searched, searches entry.1 ∨ entry.1 = .dateNow)
    {turn : Iteration World HttpException EscrowEntity}
    (member : turn ∈ runTurns faults world) (threw : Bool) :
    (.findActiveDispute turn.item.id, threw) ∈ searched ++ (runTurns faults world).flatMap traceOf ↔
      (.findActiveDispute turn.item.id, threw) ∈ traceOf turn := by
  rw [List.mem_append, List.mem_flatMap]
  constructor
  · rintro (query | ⟨other, memberOther, inside⟩)
    · rcases queries _ query with search | clock
      · cases search
      · cases clock
    · have same := (runTurns_turned other memberOther).processed.findActive_own inside
      cases runTurns_eq member memberOther same
      exact inside
  · exact fun inside => .inr ⟨turn, member, inside⟩

end

/-! ### Two escrows -/

def arrivedOrder (id : Id) : Order where
  id := id
  buyerId := 1
  totalAmount := 100
  status := .delivered
  items := []
  deliveredAt := some 0

/-- Two escrows of 100, locked, whose orders were delivered a week ago. -/
def lockedPair : World := run settle .empty [ .call (.escrow (.createEscrow
        { orderId := 0, buyerPublicKey := 1, sellerPublicKey := 2
          amount := 100 })) [], .call (.escrow (.createEscrow
        { orderId := 1, buyerPublicKey := 1, sellerPublicKey := 2
          amount := 100 })) [], .elsewhere ((Table.empty.save (arrivedOrder 0)).save
        (arrivedOrder 1)) (7 * 24 * 60 * 60 * 1000) ]

end MarketX.Settlement
