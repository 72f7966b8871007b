/-
Module: MarketX.Proofs.ReleaseChoice
Purpose: What `triggerManualRelease` reports, and for which escrows a run of
  the auto-release job calls `releaseFunds`.
Trusted boundary: none beyond the model; the definitions under review are
  becameReleased, disputeFound, CountedRight, releasable, releaseCalls,
  searchFailed and ChosenRight
Main exports: becameReleased, disputeFound, counts_right_iff, auto_release_exact
-/
import MarketX.Proofs.AutoRelease

namespace MarketX.Settlement

open Effects Handler

/-- The escrow was not RELEASED, and its row is now. -/
def becameReleased (after : World) (escrow : EscrowEntity) : Bool := escrow.status ≠ .released ∧
    (after.escrows.row escrow.id).any fun row => row.status = .released

/-- The look-up of an active dispute of the escrow has found one. -/
def disputeFound (world : World) (traced : List (Op × Bool)) (escrow : EscrowEntity) : Bool :=
  (world.activeDispute? escrow.id).isSome ∧ (.findActiveDispute escrow.id, false) ∈ traced

/-- The two counts and the events agree with what has become of the
escrows. -/
structure CountedRight (world after : World) (traced : List (Op × Bool))
    (counts : ℕ × ℕ) : Prop where
  released : counts.1 = world.escrows.rows.countP (becameReleased after)
  failed : counts.2 = (eligibleEscrows world).countP fun escrow =>
    !becameReleased after escrow && !disputeFound world traced escrow
  announced : ∃ emitted, after.events = world.events ++ emitted ∧
    emitted.map PaymentReleasedEvent.escrowId =
      (world.escrows.rows.filter (becameReleased after)).map EscrowEntity.id

/-- What a call returns is counted right. -/
def CountsRight (faults : List Fault) (world : World) : Prop :=
  ∀ counts, (handler.exec triggerManualRelease faults world).1 = .ok counts →
    CountedRight world (handler.exec triggerManualRelease faults world).2
      (handler.trace triggerManualRelease faults world) counts

/-! ### Counting -/

/-- Nothing is lost from a count exactly where nothing counted is left
out. -/
theorem countP_eq_without_iff {α : Type} (counted left : α → Bool) (items : List α) :
    items.countP counted = items.countP (fun item => counted item && !left item) ↔
      ∀ item ∈ items, counted item = true → left item = false := by
  have parts := List.countP_eq_countP_filter_add items counted left
  simp_all [List.countP_filter]

theorem foldl_tally {α : Type} (ends : α → Except HttpException Unit)
    (items : List α) (counts : ℕ × ℕ) :
    items.foldl (fun counts item => tally counts (ends item)) counts =
      (counts.1 + items.countP fun item => (ends item).isOk,
        counts.2 + items.countP fun item => !(ends item).isOk) := by
  induction items generalizing counts with
  | nil => rfl
  | cons item rest ih =>
    rw [List.foldl_cons, ih, List.countP_cons, List.countP_cons]
    cases result : ends item with
    | ok value => simp [tally, Except.isOk, Except.toBool]; omega
    | error error => simp [tally, Except.isOk, Except.toBool]; omega

/-! ### One turn -/

section

variable {world after : World} {escrow : EscrowEntity}
  {traced : List (Op × Bool)} {result : Except HttpException Unit}

/-- The escrow is released where the turn returns and no dispute was
found. -/
theorem Processed.released_eq (ends : Processed world escrow traced result after)
    (stored : world.escrows.row escrow.id = some escrow) (locked : escrow.status = .locked) :
    becameReleased after escrow = (result.isOk && !disputeFound world traced escrow) := by
  unfold becameReleased disputeFound
  cases ends with
  | unchecked error => simp [stored, locked, Except.isOk, Except.toBool]
  | skipped disputed =>
    rw [World.flagged_row]
    simp [locked, disputed]
  | unflagged disputed error => simp [stored, locked, disputed]
  | released undisputed threw rest => simp_all [releasedFrom, Except.toBool]
  | failed undisputed threw rest own thrown error sent =>
    simp [stored, locked, Except.isOk, Except.toBool]

theorem Processed.events_eq (ends : Processed world escrow traced result after)
    (stored : world.escrows.row escrow.id = some escrow) (locked : escrow.status = .locked) :
    after.events = world.events ++ if becameReleased after escrow then [releaseEvent world escrow]
      else [] := by
  rw [ends.released_eq stored locked]
  unfold disputeFound
  cases ends <;> simp_all [Except.toBool, World.saved, World.submitted]

end

/-! ### The whole call -/

section

variable {faults : List Fault} {world : World} {searched : List (Op × Bool)}
  (queries : ∀ entry ∈ searched, searches entry.1 ∨ entry.1 = .dateNow)

include queries

theorem disputeFound_turn {turn : Iteration World HttpException EscrowEntity}
    (member : turn ∈ runTurns faults world) :
    disputeFound world (searched ++ (runTurns faults world).flatMap traceOf) turn.item =
      disputeFound turn.state (traceOf turn) turn.item := by
  unfold disputeFound
  simp only [(runTurns_turned turn member).activeDispute?, mem_findActive_iff queries member]

theorem becameReleased_turn {turn : Iteration World HttpException EscrowEntity}
    (member : turn ∈ runTurns faults world) :
    becameReleased (jobAfter faults world) turn.item =
      ((turn.done handler processAutoRelease).1.isOk && !disputeFound world
          (searched ++ (runTurns faults world).flatMap traceOf) turn.item) := by
  have turned := runTurns_turned turn member
  rw [disputeFound_turn queries member, ← turned.processed.released_eq turned.stored turned.locked]
  unfold becameReleased
  rw [turned.last]

omit queries in
theorem becameReleased_rows :
    world.escrows.rows.filter (becameReleased (jobAfter faults world)) =
      (eligibleEscrows world).filter (becameReleased (jobAfter faults world)) := by
  rw [eligibleEscrows, List.filter_filter]
  apply List.filter_congr
  intro escrow member
  cases inReach : eligible world escrow with
  | true => simp
  | false =>
    have kept := jobAfter_kept faults (Table.mem_rows.mp member) inReach
    unfold becameReleased
    rw [kept]
    simp

omit queries in
theorem jobAfter_events :
    (jobAfter faults world).events = world.events ++ ((runTurns faults world).filter fun turn =>
        becameReleased (jobAfter faults world) turn.item).map fun turn =>
          releaseEvent turn.state turn.item := by
  rw [← flatMap_chosen]
  apply turns_append World.events
  intro turn member
  have turned := runTurns_turned turn member
  rw [turned.processed.events_eq turned.stored turned.locked]
  unfold becameReleased
  rw [turned.last]

omit queries in
theorem announced_job : ∃ emitted, (jobAfter faults world).events = world.events ++ emitted ∧
    emitted.map PaymentReleasedEvent.escrowId = (world.escrows.rows.filter
        (becameReleased (jobAfter faults world))).map EscrowEntity.id := by
  refine ⟨_, jobAfter_events, ?_⟩
  rw [becameReleased_rows, ← runTurns_items faults, List.filter_map, List.map_map, List.map_map]
  rfl

theorem released_count_iff :
    (runTurns faults world).countP (fun turn => (turn.done handler processAutoRelease).1.isOk) =
        world.escrows.rows.countP (becameReleased (jobAfter faults world)) ↔
      ∀ turn ∈ runTurns faults world, (turn.done handler processAutoRelease).1.isOk = true →
          disputeFound world (searched ++ (runTurns faults world).flatMap traceOf)
            turn.item = false := by
  rw [← countP_eq_without_iff, List.countP_eq_length_filter (l := Table.rows _),
    becameReleased_rows, ← List.countP_eq_length_filter, ← runTurns_items faults, List.countP_map]
  refine Eq.congr_right (List.countP_congr fun turn member => ?_)
  rw [Function.comp_apply, becameReleased_turn queries member]

theorem failed_count_iff :
    (runTurns faults world).countP (fun turn => !(turn.done handler processAutoRelease).1.isOk) =
        (eligibleEscrows world).countP (fun escrow =>
          !becameReleased (jobAfter faults world) escrow && !disputeFound world
              (searched ++ (runTurns faults world).flatMap traceOf) escrow) ↔
      ∀ turn ∈ runTurns faults world, (!(turn.done handler processAutoRelease).1.isOk) = true →
          disputeFound world (searched ++ (runTurns faults world).flatMap traceOf)
            turn.item = false := by
  rw [← countP_eq_without_iff, ← runTurns_items faults, List.countP_map]
  refine Eq.congr_right (List.countP_congr fun turn member => ?_)
  rw [Function.comp_apply, becameReleased_turn queries member]
  cases (turn.done handler processAutoRelease).1.isOk <;> simp

theorem countedRight_iff :
    CountedRight world (jobAfter faults world) (searched ++ (runTurns faults world).flatMap traceOf)
        ((runTurns faults world).foldl (fun counts turn =>
          tally counts (turn.done handler processAutoRelease).1) (0, 0)) ↔
      ∀ escrow ∈ eligibleEscrows world, disputeFound world
          (searched ++ (runTurns faults world).flatMap traceOf) escrow =
            false := by
  rw [foldl_tally, ← runTurns_items faults, List.forall_mem_map]
  simp only [Nat.zero_add]
  constructor
  · intro right turn member
    cases returns : (turn.done handler processAutoRelease).1.isOk with
    | true => exact (released_count_iff queries).mp right.released turn member returns
    | false =>
      apply (failed_count_iff queries).mp right.failed turn member
      rw [returns]
      rfl
  · exact fun unskipped =>
      { released := (released_count_iff queries).mpr
          fun turn member _ => unskipped turn member
        failed := (failed_count_iff queries).mpr
          fun turn member _ => unskipped turn member
        announced := announced_job }

end

/-- The report is right exactly where the job does not find an active dispute
of an eligible escrow: such an escrow is counted as released, or as failed
when its flag cannot be saved. -/
theorem counts_right_iff (faults : List Fault) (world : World) :
    CountsRight faults world ↔ ∀ escrow ∈ eligibleEscrows world, disputeFound world
          (handler.trace triggerManualRelease faults world) escrow =
            false := by
  have run := jobRun faults world
  unfold CountsRight
  generalize handler.exec triggerManualRelease faults world = outcome at run ⊢
  generalize handler.trace triggerManualRelease faults world = traced at run ⊢
  cases run with
  | interrupted queries query thrown error =>
    refine iff_of_true (fun counts returned => by cases returned) ?_
    intro escrow _
    refine decide_eq_false fun found => ?_
    rcases queries _ found.2 with search | clock
    · cases search
    · cases clock
  | complete queries answered =>
    rw [← countedRight_iff queries]
    constructor
    · exact fun right => right _ rfl
    · rintro right _ ⟨rfl⟩
      exact right

/-- The first of the two is disputed; its freeze has failed. -/
def disputedPair : World := settle lockedPair (.call (.createDispute
    { transactionId := 0, complainantId := 1, respondentId := 2
      reason := "late", escrowId := some 0 }) [none, some (.error "connection lost")])

/-- Two escrows are reported as released, and one of them was. -/
theorem skipped_counted_released :
    (handler.exec triggerManualRelease [] disputedPair).1 = .ok (2, 0) ∧
      disputedPair.escrows.rows.countP (becameReleased
        (handler.exec triggerManualRelease [] disputedPair).2) = 1 ∧
      ¬ CountsRight [] disputedPair := by
  have reported : (handler.exec triggerManualRelease [] disputedPair).1 =
      .ok (2, 0) := by decide
  refine ⟨reported, by decide, fun right => ?_⟩
  have released := (right (2, 0) reported).released
  exact absurd released (by decide)

/-- Eligible, and without an active dispute. -/
def releasable (world : World) (escrow : EscrowEntity) : Bool :=
  eligible world escrow && (world.activeDispute? escrow.id).isNone

/-- The escrows `releaseFunds` is called for, one entry a call: it begins by
looking its escrow up, and the job looks none up itself. -/
def releaseCalls (traced : List (Op × Bool)) : List Id :=
  traced.filterMap fun entry => match entry.1 with
    | .findEscrow id => some id
    | _ => none

/-- A query of the search has thrown. -/
def searchFailed (traced : List (Op × Bool)) : Bool :=
  traced.any fun entry => searches entry.1 && entry.2

/-- The look-up of the escrow's disputes was not among the calls that
threw. -/
def checked (traced : List (Op × Bool)) (escrow : EscrowEntity) : Bool :=
  (.findActiveDispute escrow.id, true) ∉ traced

/-- The releasable escrows are released, one call each, and no others.
Whether the call is made depends on the look-up of the escrow's own disputes,
and how it ends on the calls about the escrow. -/
structure ChosenRight (world after : World) (traced : List (Op × Bool)) :
    Prop where
  called : releaseCalls traced = ((world.escrows.rows.filter (releasable world)).filter
      (checked traced)).map EscrowEntity.id
  ended : ∀ escrow ∈ world.escrows.rows, releasable world escrow → becameReleased after escrow ∨
      after.escrows.row escrow.id = some escrow
  unhindered : ∀ escrow ∈ world.escrows.rows, releasable world escrow →
    (∀ entry ∈ traced, about escrow entry.1 → entry.2 = false) → becameReleased after escrow

/-! ### One turn -/

section

variable {world after : World} {escrow : EscrowEntity}
  {traced : List (Op × Bool)} {result : Except HttpException Unit}

theorem releaseCalls_nil (among : Op → Prop) (others : ∀ id, ¬ among (.findEscrow id))
    (within : ∀ entry ∈ traced, among entry.1) : releaseCalls traced = [] := by
  refine List.filterMap_eq_nil_iff.mpr fun entry member => ?_
  split
  next id called => grind
  next => rfl

theorem paying_turn {threw : Bool} {later : List (Op × Bool)}
    (rest : ∀ entry ∈ later, settles entry.1) :
    let turn := (.findActiveDispute escrow.id, false) :: (.findEscrow escrow.id, threw) :: later
    releaseCalls turn = [escrow.id] ∧ checked turn escrow = true := by
  constructor
  · have none : releaseCalls later = [] := by
      refine releaseCalls_nil (fun op => settles op) (fun id settling => ?_) rest
      cases settling
    show escrow.id :: releaseCalls later = _
    rw [none]
  · refine decide_eq_true fun thrown => ?_
    simp only [List.mem_cons, Prod.mk.injEq, reduceCtorEq, and_false, false_and, false_or] at thrown
    cases rest _ thrown

/-- The release is called where the look-up of a dispute is answered and finds
none. -/
theorem Processed.releaseCalls_eq (ends : Processed world escrow traced result after) :
    releaseCalls traced = if (world.activeDispute? escrow.id).isNone && checked traced escrow then
        [escrow.id]
      else [] := by
  cases ends with
  | unchecked error => simp [releaseCalls, checked]
  | skipped disputed | unflagged disputed => simp_all [Option.isSome_iff_ne_none, releaseCalls]
  | released undisputed threw rest | failed undisputed threw rest => simp_all [paying_turn]

theorem searches_of_settles {op : Op} (settling : settles op) :
    searches op = false := by
  cases op <;> first
    | rfl
    | cases settling

theorem Processed.searchFailed_eq (ends : Processed world escrow traced result after) :
    searchFailed traced = false := by
  cases ends with
  | released undisputed threw rest | failed undisputed threw rest =>
    refine List.any_eq_false.mpr ?_
    simp only [List.forall_mem_cons]
    refine ⟨nofun, nofun, fun entry member => ?_⟩
    simp [searches_of_settles (rest entry member)]
  | unchecked | skipped | unflagged => rfl

/-- Without a dispute the escrow is released or stays as it is, and it is
released if none of its own calls throws. -/
theorem Processed.ended (ends : Processed world escrow traced result after)
    (stored : world.escrows.row escrow.id = some escrow) (locked : escrow.status = .locked)
    (undisputed : world.activeDispute? escrow.id = none) :
    (becameReleased after escrow ∨ after.escrows.row escrow.id = some escrow) ∧
      ((∀ entry ∈ traced, about escrow entry.1 → entry.2 = false) →
        becameReleased after escrow) := by
  have isReleased := ends.released_eq stored locked
  have noneFound : disputeFound world traced escrow = false := by simp [disputeFound, undisputed]
  rw [noneFound] at isReleased
  cases ends with
  | unchecked error =>
    refine ⟨.inr stored, fun unhindered => ?_⟩
    cases unhindered _ List.mem_cons_self (decide_eq_true rfl)
  | skipped disputed | unflagged disputed =>
    rw [undisputed] at disputed
    cases disputed
  | released => exact ⟨.inl isReleased, fun _ => isReleased⟩
  | failed _ threw rest own thrown =>
    refine ⟨.inr stored, fun unhindered => ?_⟩
    cases unhindered _ (List.mem_cons_of_mem _ thrown) own

end

/-! ### The whole run -/

theorem handleEscrowAutoRelease_exec (faults : List Fault) (world : World) :
    (handler.exec handleEscrowAutoRelease faults world).2 =
      (handler.exec triggerManualRelease faults world).2 := by
  unfold handleEscrowAutoRelease
  rw [exec_attempt_bind]
  cases (handler.exec triggerManualRelease faults world).1 <;> rfl

theorem handleEscrowAutoRelease_trace (faults : List Fault) (world : World) :
    handler.trace handleEscrowAutoRelease faults world =
      handler.trace triggerManualRelease faults world := by
  unfold handleEscrowAutoRelease
  rw [trace_attempt_bind]
  cases (handler.exec triggerManualRelease faults world).1 <;> exact List.append_nil _

section

variable {faults : List Fault} {world : World} {searched : List (Op × Bool)}
  (queries : ∀ entry ∈ searched, searches entry.1 ∨ entry.1 = .dateNow)

include queries

theorem search_releases_none : releaseCalls searched = [] := by
  refine releaseCalls_nil (fun op => searches op ∨ op = .dateNow) ?_ queries
  rintro id (search | clock)
  · cases search
  · cases clock

theorem checked_turn {turn : Iteration World HttpException EscrowEntity}
    (member : turn ∈ runTurns faults world) :
    checked (searched ++ (runTurns faults world).flatMap traceOf) turn.item =
      checked (traceOf turn) turn.item := by
  unfold checked
  simp only [mem_findActive_iff queries member]

theorem releaseCalls_job :
    releaseCalls (searched ++ (runTurns faults world).flatMap traceOf) =
      ((world.escrows.rows.filter (releasable world)).filter (checked (searched ++
          (runTurns faults world).flatMap traceOf))).map EscrowEntity.id := by
  have none := search_releases_none queries
  have turnwise : ∀ turn ∈ runTurns faults world, releaseCalls (traceOf turn) =
        if (world.activeDispute? turn.item.id).isNone &&
            checked (searched ++ (runTurns faults world).flatMap traceOf) turn.item then
          [turn.item.id]
        else [] := by
    intro turn member
    have turned := runTurns_turned turn member
    rw [turned.processed.releaseCalls_eq, turned.activeDispute?, checked_turn queries member]
  calc releaseCalls (searched ++ (runTurns faults world).flatMap traceOf)
      = releaseCalls searched ++ (runTurns faults world).flatMap fun turn =>
          releaseCalls (traceOf turn) := by simp [releaseCalls, List.filterMap_flatMap]
    _ = ((runTurns faults world).filter fun turn =>
          (world.activeDispute? turn.item.id).isNone &&
            checked (searched ++ (runTurns faults world).flatMap traceOf)
              turn.item).map fun turn => turn.item.id := by
        grind [List.flatMap_congr, flatMap_chosen]
    _ = ((eligibleEscrows world).filter fun escrow =>
          (world.activeDispute? escrow.id).isNone &&
            checked (searched ++ (runTurns faults world).flatMap traceOf)
              escrow).map EscrowEntity.id := by
        rw [← runTurns_items faults world, List.filter_map, List.map_map]
        rfl
    _ = _ := by simp [eligibleEscrows, releasable, Bool.and_comm, Bool.and_left_comm]

theorem chosenRight_job :
    ChosenRight world (jobAfter faults world)
      (searched ++ (runTurns faults world).flatMap traceOf) := by
  have endings : ∀ escrow ∈ world.escrows.rows, releasable world escrow →
      (becameReleased (jobAfter faults world) escrow ∨
        (jobAfter faults world).escrows.row escrow.id = some escrow) ∧
      ((∀ entry ∈ searched ++ (runTurns faults world).flatMap traceOf,
          about escrow entry.1 → entry.2 = false) →
        becameReleased (jobAfter faults world) escrow) := by
    intro escrow stored isReleasable
    obtain ⟨isEligible, undisputed⟩ := Bool.and_eq_true_iff.mp isReleasable
    have inReach : escrow ∈ eligibleEscrows world := List.mem_filter.mpr ⟨stored, isEligible⟩
    rw [← runTurns_items faults world] at inReach
    obtain ⟨turn, member, rfl⟩ := List.mem_map.mp inReach
    have turned := runTurns_turned turn member
    have ended := turned.processed.ended turned.stored turned.locked
      ((turned.activeDispute? _).trans (Option.isNone_iff_eq_none.mp undisputed))
    unfold becameReleased at ended ⊢
    rw [turned.last]
    refine ⟨ended.1, fun unhindered => ended.2 fun entry own => ?_⟩
    exact unhindered entry (List.mem_append_right _ (List.mem_flatMap.mpr ⟨turn, member, own⟩))
  exact
    { called := releaseCalls_job queries
      ended := fun escrow stored isReleasable =>
        (endings escrow stored isReleasable).1
      unhindered := fun escrow stored isReleasable =>
        (endings escrow stored isReleasable).2 }

end

/-- Unless a query of the search throws, which ends the run before it has
released anything, the job releases exactly the right escrows. -/
theorem auto_release_exact (faults : List Fault) (world : World) :
    let traced := handler.trace handleEscrowAutoRelease faults world
    let after := (handler.exec handleEscrowAutoRelease faults world).2
    if searchFailed traced then releaseCalls traced = [] ∧ after = world
    else ChosenRight world after traced := by
  intro traced after
  have run := jobRun faults world
  have sameTrace : traced = handler.trace triggerManualRelease faults world :=
    handleEscrowAutoRelease_trace faults world
  have sameAfter : after = (handler.exec triggerManualRelease faults world).2 :=
    handleEscrowAutoRelease_exec faults world
  rw [← sameTrace] at run
  rw [sameAfter]
  generalize handler.exec triggerManualRelease faults world = outcome at run ⊢
  generalize traced = entries at run ⊢
  cases run with
  | @interrupted _ queries op query thrown error =>
    have failed : searchFailed entries = true := List.any_eq_true.mpr ⟨_, thrown, by simp [query]⟩
    rw [if_pos failed]
    exact ⟨search_releases_none queries, rfl⟩
  | @complete searched queries answered =>
    have returned : searchFailed (searched ++ (runTurns faults world).flatMap traceOf) = false := by
      refine List.any_eq_false.mpr fun entry member => ?_
      rcases List.mem_append.mp member with query | later
      · simp [answered entry query]
      · obtain ⟨turn, taken, inside⟩ := List.mem_flatMap.mp later
        have again := (runTurns_turned turn taken).processed.searchFailed_eq
        exact List.any_eq_false.mp again entry inside
    rw [returned]
    exact chosenRight_job queries

/-- A releasable escrow is called for unless one of the queries about it
throws: the query of the locked escrows, of its order or of its disputes. -/
def CalledUnlessOwnFails (faults : List Fault) (world : World) : Prop :=
  let traced := handler.trace handleEscrowAutoRelease faults world
  ∀ escrow ∈ world.escrows.rows, releasable world escrow → (.findLockedEscrows, true) ∉ traced →
    (.findOrder escrow.orderId, true) ∉ traced → (.findActiveDispute escrow.id, true) ∉ traced →
    escrow.id ∈ releaseCalls traced

def lockedSecond : EscrowEntity where
  id := 1
  orderId := 1
  buyerPublicKey := 1
  sellerPublicKey := 2
  amount := 100
  escrowAccountPublicKey := 4
  lockTransactionHash := some 1
  status := .locked

/-- The look-up of the first escrow's order fails, and the second escrow is
not released either. -/
theorem failed_search_stops_all :
    ¬ CalledUnlessOwnFails [none, some (.error "connection lost")]
      lockedPair := by
  intro called
  have member : lockedSecond ∈ lockedPair.escrows.rows := Table.mem_rows.mpr (by decide)
  exact absurd (called lockedSecond member (by decide)
    (by decide) (by decide) (by decide)) (by decide)

end MarketX.Settlement
