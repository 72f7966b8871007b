/-
Module: MarketX.Proofs.ReleaseRace
Purpose: Disputes being created while the auto-release job runs, effect by
  effect in any order: when the job leaves disputed and frozen escrows alone.
Trusted boundary: human-reviewed definition of Racer, Undisturbed and JobSafe
Main exports: Racer, race, Undisturbed, undisturbed_job_is_safe
-/
import MarketX.Effects.Interleaving
import MarketX.Proofs.PayoutRetries
import MarketX.Proofs.TerminalEscrows

namespace MarketX.Settlement

open Effects

/-! ### The race -/

/-- What takes part: disputes being created, and runs of the auto-release
job. -/
inductive Racer where
  | createDispute (dto : CreateDisputeDto)
  | handleEscrowAutoRelease
  | triggerManualRelease
deriving DecidableEq

def Racer.program : Racer → Service Unit
  | .createDispute dto => do let _ ← Settlement.createDispute dto; pure ()
  | .handleEscrowAutoRelease => Settlement.handleEscrowAutoRelease
  | .triggerManualRelease => do
      let _ ← Settlement.triggerManualRelease
      pure ()

def Racer.isJob : Racer → Bool
  | .createDispute _ => false
  | _ => true

abbrev RacePool := Pool signature World HttpException Racer

/-- Besides, orders change and time passes. -/
abbrev RaceTurn := Turn HttpException Racer (Table Order × Date)

def race (pool : RacePool) (turn : RaceTurn) : RacePool := pool.step handler Racer.program
    (fun (orders, now) world => { world with orders, now }) turn

/-! ### What the job must not do -/

def World.underDispute (world : World) (escrowId : Id) : Bool :=
  (world.activeDispute? escrowId).isSome

def World.isFrozen (world : World) (escrowId : Id) : Bool :=
  (world.escrows.row escrowId).any fun escrow => escrow.status = .frozen

/-- The effect pays out an escrow under dispute, stores it as RELEASED, or
stores a FROZEN escrow as LOCKED. -/
def oversteps (world : World) : Op → Bool
  | .submitTransaction tx =>
    world.escrows.rows.any fun escrow =>
      tx.source = escrow.escrowAccountPublicKey ∧ world.underDispute escrow.id
  | .saveEscrow escrow =>
    (escrow.status = .released ∧ world.underDispute escrow.id) ∨
      (escrow.status = .locked ∧ world.isFrozen escrow.id)
  | _ => false

/-- If it is the job's turn, it does nothing of the kind. -/
def JobSafe (pool : RacePool) (turn : RaceTurn) : Prop :=
  ∀ moves ∈ pool.mover? turn, moves.1.name.isJob = true → oversteps pool.state moves.2 = false

instance (pool : RacePool) (turn : RaceTurn) :
    Decidable (JobSafe pool turn) := inferInstanceAs (Decidable (∀ moves ∈ pool.mover? turn, _ → _))

/-! ### When it does not -/

/-- The last re-check of a job that no save has followed: the escrow, and
whether an active dispute about it was found. -/
def lastRecheck : Past signature World → Option (Id × Bool)
  | [] => none
  | (.findActiveDispute escrowId, met) :: _ => some (escrowId, met.underDispute escrowId)
  | (.saveEscrow _, _) :: _ => none
  | _ :: past => lastRecheck past

/-- The escrow a thread that waits to perform an effect is working on:
releasing it, if its re-check found no active dispute, else saving its
snapshot back. -/
def underway (past : Past signature World) : Op → Option (Id × Bool)
  | .findActiveDispute _ => none
  | _ => lastRecheck past

def engaged (pool : RacePool) (work : Id × Bool) : Bool := pool.threads.any fun thread =>
    thread.rest.next?.any fun op => underway thread.past op = some work

/-- A dispute about an escrow is stored between the re-check and the last
effect of its release; or a job that re-checks a disputed escrow finds it
FROZEN; or an escrow is frozen between such a re-check and the save that
follows it. -/
def disturbs (pool : RacePool) : Op → Bool
  | .insertDispute dispute => dispute.escrowId.any fun escrowId => engaged pool (escrowId, false)
  | .findActiveDispute escrowId => pool.state.underDispute escrowId && pool.state.isFrozen escrowId
  | .saveEscrow escrow => escrow.status = .frozen && engaged pool (escrow.id, true)
  | _ => false

/-- The effect of this turn, if it does not throw, disturbs no release. -/
def Undisturbed (pool : RacePool) (turn : RaceTurn) : Prop :=
  turn.fault? = none → ∀ moves ∈ pool.mover? turn, disturbs pool moves.2 = false

instance (pool : RacePool) (turn : RaceTurn) :
    Decidable (Undisturbed pool turn) :=
  inferInstanceAs (Decidable (_ → ∀ moves ∈ pool.mover? turn, _))

/-! ### The contract of the threads -/

def SameEscrows (world after : World) : Prop :=
  ∀ id, (after.escrows.row id).map EscrowEntity.terms =
    (world.escrows.row id).map EscrowEntity.terms

instance : IsPreorder World SameEscrows where
  refl _ _ := rfl
  trans _ _ _ first second id := (second id).trans (first id)

def OnFile (world : World) (escrow : EscrowEntity) : Prop :=
  (world.escrows.row escrow.id).map EscrowEntity.terms = some escrow.terms

theorem OnFile.after {world after : World} {escrow : EscrowEntity}
    (onFile : OnFile world escrow) (same : SameEscrows world after) :
    OnFile after escrow :=
  (same escrow.id).trans onFile

theorem onFile_of_row {world : World} {id : Id} {escrow : EscrowEntity}
    (stored : world.escrows.row id = some escrow) : OnFile world escrow := by
  rw [OnFile, stored_id stored, stored, Option.map_some]

theorem SameEscrows.separate {world after : World}
    (same : SameEscrows world after) (separate : Separate world) :
    Separate after := by
  have before : ∀ {id : Id} {row : EscrowEntity}, after.escrows.row id = some row →
        ∃ escrow, world.escrows.row id = some escrow ∧ escrow.terms = row.terms := by
    intro id row stored
    have mapped := same id
    simp_all
  intro id other a b storedA storedB sameAccount
  obtain ⟨escrow, stored, terms⟩ := before storedA
  obtain ⟨escrowB, storedB', termsB⟩ := before storedB
  apply separate stored storedB'
  grind [account_of_terms]

/-- What a thread promises of the state its effect meets. -/
def keeps (world : World) : Op → Prop
  | .saveEscrow escrow =>
    OnFile world escrow ∧ (escrow.status = .released → world.underDispute escrow.id = false) ∧
      (escrow.status = .locked → world.isFrozen escrow.id = false)
  | .submitTransaction tx =>
    ∃ escrow, OnFile world escrow ∧ tx.source = escrow.escrowAccountPublicKey ∧
      world.underDispute escrow.id = false
  | .insertEscrow _ | .saveDispute _ => False
  | _ => True

/-- The contract all threads keep.  While a release is under way, the escrow
does not come under dispute; while a snapshot waits to be saved back, the
escrow is not frozen. -/
def raceContract : Contract signature World where
  rely past op world met := SameEscrows world met ∧ (∀ id, underway past op = some (id, false) →
        world.underDispute id = false → met.underDispute id = false) ∧
      (∀ id, underway past op = some (id, true) →
        world.isFrozen id = false → met.isFrozen id = false)
  presumes _ op met := ∀ id, op = .findActiveDispute id → met.underDispute id = true →
      met.isFrozen id = false
  ensures _ op met := keeps met op
  rely_refl _ _ world :=
    ⟨refl_of SameEscrows world, fun _ _ => id, fun _ _ => id⟩
  rely_trans first second :=
    ⟨trans_of SameEscrows first.1 second.1,
      fun id under free => second.2.1 id under (first.2.1 id under free),
      fun id under free => second.2.2 id under (first.2.2 id under free)⟩

theorem rg_await (op : Op)
    {post : Except HttpException (Reply op) → Past signature World → World →
      Prop} {past : Past signature World} {world : World}
    (holds : ∀ met, raceContract.rely past op world met → keeps met op ∧
      (raceContract.presumes past op met →
        post (.ok (act op met).1) ((op, met) :: past) (act op met).2) ∧
      ∀ error, post (.error error) ((op, met) :: past) met) :
    rg handler raceContract (await op) post past world := rg_perform holds

theorem rg_ofExcept {α : Type} {outcome : Except HttpException α}
    {post : Except HttpException α → Past signature World → World → Prop}
    {past : Past signature World} {world : World} (holds : post outcome past world) :
    rg handler raceContract (ofExcept outcome) post past world := by
  cases outcome <;> exact holds

/-! ### What the effects do to each other's releases -/

theorem sameEscrows_saved {world : World} {escrow : EscrowEntity} (onFile : OnFile world escrow) :
    SameEscrows world (world.saved escrow) := by
  intro id
  rw [World.saved_escrows, Table.row_save]
  split
  next same =>
    rw [same]
    exact onFile.symm
  next => rfl

/-- An effect that keeps the contract stores no new escrow and changes no
terms. -/
theorem sameEscrows_act {world : World} {op : Op} (kept : keeps world op) :
    SameEscrows world (act op world).2 := by
  cases op with
  | insertEscrow => exact kept.elim
  | saveEscrow escrow => exact sameEscrows_saved kept.1
  | updateDisputeFlag escrowId disputeFlag =>
    simp only [act]
    split
    next => exact fun _ => rfl
    next escrow stored =>
      have onFile : OnFile world escrow := onFile_of_row stored
      apply sameEscrows_saved
      exact onFile
  | _ => exact fun _ => rfl

theorem underDispute_eq_false {world : World} {escrowId : Id} :
    world.underDispute escrowId = false ↔ ∀ dispute ∈ world.disputes.rows,
        ¬ (dispute.escrowId = some escrowId ∧ active dispute = true) := by
  simp [World.underDispute, World.activeDispute?]

/-- Only the insertion of a dispute about it brings an escrow under
dispute. -/
theorem underDispute_act {world : World} {op : Op} {escrowId : Id} (kept : keeps world op)
    (elsewhere : ∀ dispute, op = .insertDispute dispute → dispute.escrowId ≠ some escrowId)
    (free : world.underDispute escrowId = false) :
    (act op world).2.underDispute escrowId = false := by
  cases op with
  | insertDispute dispute =>
    rw [underDispute_eq_false] at free ⊢
    intro row member
    have stored : (world.disputes.save (world.opening dispute)).row row.id = some row :=
      Table.mem_rows.mp member
    rw [Table.row_save] at stored
    split at stored
    next =>
      cases stored
      exact fun about => elsewhere dispute rfl about.1
    next => exact free row (Table.mem_rows.mpr stored)
  | saveDispute => exact kept.elim
  | updateDisputeFlag id disputeFlag =>
    simp only [act]
    split <;> exact free
  | _ => exact free

theorem isFrozen_act {world : World} {op : Op} {escrowId : Id} (kept : keeps world op)
    (unfrozen : ∀ escrow, op = .saveEscrow escrow → escrow.status = .frozen → escrow.id ≠ escrowId)
    (free : world.isFrozen escrowId = false) :
    (act op world).2.isFrozen escrowId = false := by
  have saved : ∀ escrow : EscrowEntity, (escrow.id = escrowId → escrow.status ≠ .frozen) →
        (world.saved escrow).isFrozen escrowId = false := by
    intro escrow thaws
    rw [World.isFrozen, World.saved_escrows, Table.row_save]
    split
    next same =>
      have := thaws same.symm
      simpa using this
    next => exact free
  cases op with
  | insertEscrow => exact kept.elim
  | saveEscrow escrow => exact saved escrow fun same frozen => unfrozen escrow rfl frozen same
  | updateDisputeFlag id disputeFlag =>
    simp only [act]
    split
    next => exact free
    next escrow stored =>
      apply saved { escrow with disputeFlag }
      grind [stored_id, World.isFrozen]
  | _ => exact free

/-- An effect that disturbs no release stays within the rely of every other
thread. -/
theorem rely_act {pool : RacePool} {op : Op} (kept : keeps pool.state op)
    (undisturbed : disturbs pool op = false) {other : Thread signature World HttpException Racer}
    (member : other ∈ pool.threads) :
    other.Tolerates (fun _ => raceContract) pool.state (act op pool.state).2 := by
  intro awaited awaits
  have working : ∀ work, underway other.past awaited = some work → engaged pool work = true := by
    intro work under
    refine List.any_eq_true.mpr ⟨other, member, ?_⟩
    simp [awaits, under]
  refine ⟨sameEscrows_act kept, fun id under => ?_, fun id under => ?_⟩
  · grind [underDispute_act, disturbs]
  · grind [isFrozen_act, disturbs]

/-! ### The threads keep the contract -/

theorem rg_findEscrowOrFail {id : Id}
    {post : Except HttpException EscrowEntity → Past signature World →
      World → Prop} {past : Past signature World} {world : World}
    (failed : ∀ error past met, post (.error error) past met) (found : ∀ met escrow,
      raceContract.rely past (.findEscrow id) world met → met.escrows.row id = some escrow →
          post (.ok escrow) ((.findEscrow id, met) :: past) met) :
    rg handler raceContract (findEscrowOrFail id) post past world := by
  unfold findEscrowOrFail
  rw [rg_bind]
  refine rg_await (.findEscrow id) fun met relied =>
    ⟨trivial, fun _ => ?_, fun error => failed error _ met⟩
  simp only [act, andThenAt_ok]
  cases stored : met.escrows.row id <;> simp_all

theorem freezeEscrow_keeps (escrowId : Id) (past : Past signature World) (world : World) :
    rg handler raceContract (freezeEscrow escrowId) (fun _ _ _ => True) past
      world := by
  unfold freezeEscrow
  rw [rg_bind]
  apply rg_findEscrowOrFail (fun _ _ _ => trivial)
  intro met escrow _ stored
  rw [andThenAt_ok, rg_bind]
  apply rg_ofExcept
  cases escrowTransitionValidator.validate escrow.status .frozen with
  | error error => trivial
  | ok =>
    rw [andThenAt_ok, rg_bind]
    refine rg_await _ fun later relied =>
      ⟨?_, fun _ => trivial, fun _ => trivial⟩
    have onFile : OnFile later escrow :=
      (onFile_of_row stored).after relied.1
    exact ⟨onFile, nofun, nofun⟩

theorem createDispute_keeps (dto : CreateDisputeDto) (past : Past signature World) (world : World) :
    rg handler raceContract (createDispute dto) (fun _ _ _ => True) past
      world := by
  unfold createDispute
  rw [rg_bind]
  refine rg_await _ fun met _ => ⟨trivial, fun _ => ?_, fun _ => trivial⟩
  rw [andThenAt_ok]
  cases dto.escrowId with
  | none => trivial
  | some escrowId =>
    rw [rg_bind, rg_attempt, rg_bind]
    apply rg_mono (freezeEscrow_keeps escrowId _ _)
    intro result past' after _
    cases result with
    | error error => trivial
    | ok response =>
      exact rg_await _ fun later _ =>
        ⟨trivial, fun _ => trivial, fun _ => trivial⟩

/-! ### The job keeps the contract -/

structure Candidate (world : World) (escrow : EscrowEntity) : Prop where
  onFile : OnFile world escrow
  locked : escrow.status = .locked

theorem Candidate.after {world after : World} {escrow : EscrowEntity}
    (candidate : Candidate world escrow) (same : SameEscrows world after) :
    Candidate after escrow :=
  ⟨candidate.onFile.after same, candidate.locked⟩

/-- Every effect of a thread within the contract, its own and those of the
others, leaves the same escrows stored. -/
theorem rg_sameEscrows {α : Type} {program : Service α}
    {post : Except HttpException α → Past signature World → World → Prop}
    {past : Past signature World} {world : World}
    (holds : rg handler raceContract program post past world) :
    rg handler raceContract program (fun result past after => post result past after ∧
        SameEscrows world after) past world :=
  rg_within And.left (fun ensured _ => sameEscrows_act ensured) holds

theorem checkEligible_keeps {eligible : List EscrowEntity}
    {escrow : EscrowEntity} {past : Past signature World} {world : World} :
    rg handler raceContract (checkEligible eligible escrow)
      (fun result _ _ => ∀ next, result = .ok next →
        next ⊆ escrow :: eligible) past world := by
  have kept : ∀ next, (.ok eligible : Except HttpException _) = .ok next →
      next ⊆ escrow :: eligible := by
    rintro next ⟨⟩
    exact List.subset_cons_self escrow eligible
  unfold checkEligible
  rw [rg_bind]
  refine rg_await (.findOrder escrow.orderId) fun met _ =>
    ⟨trivial, fun _ => ?_, fun error => nofun⟩
  simp only [act, andThenAt_ok]
  cases met.orders.row escrow.orderId with
  | none => exact kept
  | some order =>
    dsimp only
    split
    · exact kept
    · cases order.deliveredAt with
      | none => exact kept
      | some deliveredAt =>
        rw [rg_bind]
        refine rg_await .dateNow fun later _ =>
          ⟨trivial, fun _ => ?_, fun error => nofun⟩
        simp only [act, andThenAt_ok]
        split <;> simp

/-- A release that is under way: the re-check found no active dispute and
there is none. -/
structure Releasing (escrow : EscrowEntity) (past : Past signature World)
    (world : World) : Prop where
  recheck : lastRecheck past = some (escrow.id, false)
  undisputed : world.underDispute escrow.id = false
  onFile : OnFile world escrow

theorem Releasing.relied {escrow : EscrowEntity} {past : Past signature World} {world met : World}
    (releasing : Releasing escrow past world) {op : Op}
    (follows : underway past op = lastRecheck past) (relied : raceContract.rely past op world met) :
    Releasing escrow past met where
  recheck := releasing.recheck
  undisputed := relied.2.1 _ (follows.trans releasing.recheck) releasing.undisputed
  onFile := releasing.onFile.after relied.1

theorem Releasing.rg_await {escrow : EscrowEntity} {past : Past signature World} {world : World}
    (releasing : Releasing escrow past world) (op : Op)
    {post : Except HttpException (Reply op) → Past signature World → World →
      Prop} (follows : underway past op = lastRecheck past)
    (passes : ∀ met, lastRecheck ((op, met) :: past) = lastRecheck past)
    (escrows : ∀ met, (act op met).2.escrows = met.escrows)
    (disputes : ∀ met, (act op met).2.disputes = met.disputes)
    (kept : ∀ met, Releasing escrow past met → keeps met op)
    (failed : ∀ error past met, post (.error error) past met) (continues : ∀ met,
      Releasing escrow ((op, met) :: past) (act op met).2 →
        post (.ok (act op met).1) ((op, met) :: past) (act op met).2) :
    rg handler raceContract (await op) post past world := by
  refine Settlement.rg_await op fun met relied =>
    ⟨kept met (releasing.relied follows relied), fun _ => ?_, fun error => failed error _ _⟩
  have here := releasing.relied follows relied
  apply continues
  exact
    { recheck := (passes met).trans here.recheck
      undisputed := by
        rw [World.underDispute, World.activeDispute?, disputes]
        exact here.undisputed
      onFile := by
        rw [OnFile, escrows]
        exact here.onFile }

theorem releaseFunds_keeps {escrow : EscrowEntity} (proof : String)
    {past : Past signature World} {world : World} (releasing : Releasing escrow past world) :
    rg handler raceContract (releaseFunds { escrowId := escrow.id, deliveryProof := proof })
      (fun _ _ _ => True) past world := by
  unfold releaseFunds findEscrowOrFail
  rw [rg_bind, rg_bind]
  apply releasing.rg_await (.findEscrow escrow.id) rfl (fun _ => rfl)
    (fun _ => rfl) (fun _ => rfl) (fun _ _ => trivial) fun _ _ _ => trivial
  intro met read
  simp only [act, andThenAt_ok] at read ⊢
  cases stored : met.escrows.row escrow.id with
  | none => trivial
  | some row =>
    have same : row.terms = escrow.terms := by
      have onFile := read.onFile
      grind [OnFile]
    simp only [rg_pure, andThenAt_ok, rg_bind]
    apply rg_ofExcept
    cases escrowTransitionValidator.validate row.status .released with
    | error error => trivial
    | ok =>
      simp only [andThenAt_ok, buildTransaction, rg_bind]
      apply read.rg_await (.loadAccount row.escrowAccountPublicKey) rfl
        (fun _ => rfl) (fun _ => rfl) (fun _ => rfl) (fun _ _ => trivial) fun _ _ _ => trivial
      intro met loaded
      simp only [andThenAt_ok, rg_pure, rg_bind]
      apply loaded.rg_await (.submitTransaction
        (pays row row.sellerPublicKey row.amount)) rfl (fun _ => rfl) (fun _ => rfl) (fun _ => rfl)
        (fun _ free =>
          ⟨escrow, free.onFile, account_of_terms same, free.undisputed⟩)
        fun _ _ _ => trivial
      intro met sent
      simp only [andThenAt_ok, rg_bind]
      apply sent.rg_await .dateNow rfl (fun _ => rfl) (fun _ => rfl)
        (fun _ => rfl) (fun _ _ => trivial) fun _ _ _ => trivial
      intro met timed
      simp only [andThenAt_ok, rg_bind]
      refine rg_await (.saveEscrow _) fun met relied =>
        ⟨?_, fun _ => trivial, fun _ => trivial⟩
      have free := timed.relied rfl relied
      refine ⟨?_, fun _ => ?_, by intros; contradiction⟩
      · have onFile := free.onFile
        rw [OnFile, ← id_of_terms same, ← same] at onFile
        exact onFile
      · have undisputed := free.undisputed
        rwa [← id_of_terms same] at undisputed

theorem processAutoRelease_keeps {escrow : EscrowEntity}
    {past : Past signature World} {world : World} (candidate : Candidate world escrow) :
    rg handler raceContract (processAutoRelease escrow) (fun _ _ _ => True)
      past world := by
  unfold processAutoRelease
  rw [rg_bind]
  refine rg_await (.findActiveDispute escrow.id) fun met relied =>
    ⟨trivial, fun presumed => ?_, fun _ => trivial⟩
  have onFile := (candidate.after relied.1).onFile
  simp only [act, andThenAt_ok]
  cases found : met.disputes.rows.find? _ with
  | some dispute =>
    -- the whole snapshot goes back: the row has to be unfrozen still
    have disputed : met.underDispute escrow.id = true := by
      rw [World.underDispute, World.activeDispute?, found]
      rfl
    refine rg_await (.saveEscrow _) fun later relied =>
      ⟨?_, fun _ => trivial, fun _ => trivial⟩
    refine ⟨onFile.after relied.1, ?_, fun _ => ?_⟩
    · intro released
      cases candidate.locked.symm.trans released
    · apply relied.2.2 escrow.id _ (presumed escrow.id rfl disputed)
      simp [underway, lastRecheck, disputed]
  | none =>
    have free : met.underDispute escrow.id = false := by
      rw [World.underDispute, World.activeDispute?, found]
      rfl
    have releasing :
        Releasing escrow ((.findActiveDispute escrow.id, met) :: past) met :=
      { recheck := by simp [lastRecheck, free]
        undisputed := free
        onFile := onFile }
    rw [rg_bind]
    apply rg_mono (releaseFunds_keeps _ releasing)
    intro result past' after _
    cases result with
    | error error => trivial
    | ok response =>
      rw [andThenAt_ok, rg_bind]
      exact rg_await .dateNow fun met _ =>
        ⟨trivial, fun _ => rg_await (.emitPaymentReleased _) fun _ _ =>
          ⟨trivial, fun _ => trivial, fun _ => trivial⟩, fun _ => trivial⟩

theorem releaseOne_keeps {escrow : EscrowEntity} (counts : ℕ × ℕ)
    {past : Past signature World} {world : World} (candidate : Candidate world escrow) :
    rg handler raceContract (releaseOne counts escrow) (fun _ _ _ => True)
      past world := by
  unfold releaseOne
  rw [rg_bind, rg_attempt]
  apply rg_mono (processAutoRelease_keeps candidate)
  intro result past' after _
  cases result <;> trivial

theorem findEligibleEscrows_keeps (past : Past signature World) (world : World) :
    rg handler raceContract findEligibleEscrows
      (fun result _ after => ∀ eligible, result = .ok eligible →
        ∀ escrow ∈ eligible, Candidate after escrow) past world := by
  unfold findEligibleEscrows
  rw [rg_bind]
  refine rg_await .findLockedEscrows fun met _ =>
    ⟨trivial, fun _ => ?_, fun _ => nofun⟩
  apply rg_foldlM fun items eligible current =>
    ∀ escrow ∈ items ++ eligible, Candidate current escrow
  · intro escrow member
    rw [List.append_nil] at member
    obtain ⟨listed, selected⟩ := List.mem_filter.mp member
    exact ⟨onFile_of_row (Table.mem_rows.mp listed), (of_decide_eq_true selected).1⟩
  · intro head tail eligible past current held
    apply rg_mono (rg_sameEscrows checkEligible_keeps)
    rintro (error | next) past' after ⟨chosen, same⟩
    · exact nofun
    · intro escrow member
      refine (held escrow ?_).after same
      grind
  · rintro eligible past after held next ⟨⟩
    exact held

theorem triggerManualRelease_keeps (past : Past signature World) (world : World) :
    rg handler raceContract triggerManualRelease (fun _ _ _ => True) past
      world := by
  unfold triggerManualRelease
  rw [rg_bind]
  apply rg_mono (findEligibleEscrows_keeps past world)
  rintro (error | eligible) past' after candidates
  · trivial
  · apply rg_foldlM fun items _ current => ∀ escrow ∈ items, Candidate current escrow
    · exact candidates eligible rfl
    · intro escrow tail counts past current held
      have candidate := held escrow List.mem_cons_self
      apply rg_mono (rg_sameEscrows (releaseOne_keeps counts candidate))
      rintro (error | next) past' later ⟨_, same⟩
      · trivial
      · exact fun other member =>
          (held other (List.mem_cons_of_mem escrow member)).after same
    · exact fun _ _ _ _ => trivial

theorem racer_keeps (racer : Racer) (world : World) :
    rg handler raceContract racer.program (fun _ _ _ => True) [] world := by
  cases racer <;> grind [rg_discard, createDispute_keeps, triggerManualRelease_keeps,
    handleEscrowAutoRelease, Racer.program, rg_attempt]

/-! ### Undisturbed races -/

/-- What holds of the pool throughout an undisturbed race. -/
structure Orderly (pool : RacePool) : Prop where
  separate : Separate pool.state
  sound : pool.Sound handler (fun _ => raceContract)

/-- An effect that acts in an undisturbed turn disturbs nothing: those that
could do so can throw. -/
theorem Undisturbed.act {pool : RacePool} {index : ℕ} {fault : Fault}
    (undisturbed : Undisturbed pool (.perform index fault))
    {thread : Thread signature World HttpException Racer} {op : Op}
    (moves : pool.mover? (.perform index fault : RaceTurn) = some (thread, op))
    (acts : handler.acts op fault = true) : disturbs pool op = false := by
  rcases Handler.acts_cases acts with rfl | total
  · exact undisturbed rfl _ moves
  · cases op <;> first | rfl | cases total

theorem race_state_cases (pool : RacePool) (turn : RaceTurn) :
    (race pool turn).state = pool.state ∨ (∃ orders now, (race pool turn).state =
        { pool.state with orders, now }) ∨ ∃ index fault thread op, turn = .perform index fault ∧
        pool.mover? turn = some (thread, op) ∧ handler.acts op fault = true ∧
        (race pool turn).state = (act op pool.state).2 :=
  (Pool.step_state_cases handler Racer.program _ pool turn).imp_right
    fun moved => moved.imp_left fun ⟨input, _, changed⟩ =>
      ⟨input.1, input.2, changed⟩

theorem orderly_race (pool : RacePool) (turn : RaceTurn)
    (orderly : Orderly pool) (undisturbed : Undisturbed pool turn) :
    Orderly (race pool turn) := by
  have states := race_state_cases pool turn
  constructor
  · rcases states with same | ⟨orders, now, changed⟩ |
      ⟨index, fault, thread, op, _, moves, _, acted⟩
    · rw [same]
      exact orderly.separate
    · rw [changed]
      exact orderly.separate
    · rw [acted]
      exact (sameEscrows_act (orderly.sound.ensures moves)).separate orderly.separate
  · apply orderly.sound.step turn
    · exact fun racer => racer_keeps racer pool.state
    · rintro index fault thread op rfl moves acts id rfl disputed
      have calm := undisturbed.act moves acts
      simpa [disturbs, disputed] using calm
    · intro other thread found _ awaited awaits
      show raceContract.rely thread.past awaited pool.state (race pool turn).state
      rcases states with same | ⟨orders, now, changed⟩ |
        ⟨index, fault, mover, op, rfl, moves, acts, acted⟩
      · rw [same]
        exact raceContract.rely_refl _ _ _
      · rw [changed]
        exact ⟨fun _ => rfl, fun _ _ => id, fun _ _ => id⟩
      · rw [acted]
        exact rely_act (orderly.sound.ensures moves)
          (undisturbed.act moves acts) (List.mem_of_getElem? found) awaited awaits

theorem jobSafe_of_orderly (pool : RacePool) (turn : RaceTurn)
    (orderly : Orderly pool) : JobSafe pool turn := by
  rintro ⟨thread, op⟩ moves _
  have kept := orderly.sound.ensures moves
  cases op with
  | submitTransaction tx =>
    obtain ⟨escrow, onFile, source, undisputed⟩ := kept
    obtain ⟨row, stored, terms⟩ := Option.map_eq_some_iff.mp onFile
    apply List.any_eq_false.mpr
    intro other member
    rw [decide_eq_true_eq]
    rintro ⟨sameSource, disputed⟩
    have sameId : escrow.id = other.id := by
      apply orderly.separate stored (Table.mem_rows.mp member)
      rw [account_of_terms terms, ← source]
      exact sameSource
    rw [← sameId, undisputed] at disputed
    cases disputed
  | saveEscrow escrow =>
    obtain ⟨_, released, locked⟩ := kept
    apply decide_eq_false
    simp_all
  | _ => rfl

/-- While nothing disturbs a release, the job never pays out or releases an
escrow under dispute and never puts a FROZEN escrow back to LOCKED,
whatever the order of the effects and whatever fails. -/
theorem undisturbed_job_is_safe {start : World}
    (reached : SettlementReachable start) {turns : List RaceTurn}
    (undisturbed : Along race Undisturbed ⟨start, []⟩ turns) :
    Along race JobSafe ⟨start, []⟩ turns := by
  have initially : Orderly ⟨start, []⟩ :=
    { separate := by
        obtain ⟨genesis, events, none, rfl⟩ := reached
        exact (run_evolves none.wellFormed events).wellFormed.separate
      sound := nofun }
  exact along_of_invariant orderly_race
    (fun pool turn orderly _ => jobSafe_of_orderly pool turn orderly) initially undisturbed

/-- An order that was delivered at the beginning of time. -/
def deliveredOrder : Order where
  id := 0
  buyerId := 1
  totalAmount := 100
  status := .delivered
  items := []
  deliveredAt := some 0

/-- Eight days later the job starts, and somebody is about to open a dispute
about the escrow of 100. -/
def raceStart : List RaceTurn :=
  [ .outside (Table.empty.save deliveredOrder, 8 * 24 * 60 * 60 * 1000),
    .spawn .handleEscrowAutoRelease, .spawn (.createDispute
      { transactionId := 0, complainantId := 1, respondentId := 2
        reason := "late", escrowId := some 0 }) ]

/-- So many effects of the job, none failing. -/
def jobTurns (count : ℕ) : List RaceTurn := List.replicate count (.perform 0 none)

def disputeTurns (count : ℕ) : List RaceTurn := List.replicate count (.perform 1 none)

theorem lockedHundred_reachable : SettlementReachable lockedHundred :=
  ⟨.empty, [.call (.escrow (.createEscrow
      { orderId := 0, buyerPublicKey := 1, sellerPublicKey := 2
        amount := 100 })) []], fun _ => rfl, rfl⟩

/-- The escrow is released, and the dispute comes too late. -/
theorem late_dispute_job_is_safe :
    Along race JobSafe ⟨lockedHundred, []⟩
      (raceStart ++ jobTurns 9 ++ disputeTurns 2 ++ jobTurns 2) :=
  undisturbed_job_is_safe lockedHundred_reachable (by decide)

/-- The dispute is stored right after the job's re-check, and the job pays
out the disputed escrow.  If the escrow is frozen before the re-check, the
job puts it back to LOCKED. -/
theorem dispute_during_release :
    SettlementReachable lockedHundred ∧ ¬ Along race JobSafe ⟨lockedHundred, []⟩
        (raceStart ++ jobTurns 4 ++ disputeTurns 1 ++ jobTurns 3) ∧
      ¬ Along race JobSafe ⟨lockedHundred, []⟩
        (raceStart ++ jobTurns 3 ++ disputeTurns 3 ++ jobTurns 2) := by
  refine ⟨lockedHundred_reachable, ?_, ?_⟩
  · decide
  · decide

end MarketX.Settlement
