/-
Module: MarketX.Proofs.VerifiedUsers
Purpose: What the row of a user says of the user's verifications after any
  calls, and when it is what the valid ones say.
Trusted boundary: human-reviewed definitions of Agrees and AgreesFor
Main exports: Agrees, AgreesFor, WellKept, user_agrees_iff
-/
import Mathlib.Algebra.BigOperators.Group.Finset.Basic
import MarketX.Effects.Runs
import MarketX.Verification.VerificationService

namespace MarketX.Verification

open Caching Effects Effects.Writing Numerals
open Commerce (columnError)

-- `toLowerCase()` of the runtime
variable (toLowerCase : String → String)

/-! ### Agreement -/

/-- The level of a user with valid verifications of these types. -/
def levelOf (types : Finset VerificationType) : VerificationLevel :=
  if .seller ∈ types then .verifiedSeller
  else if .identity ∈ types then .premium
  else if .phone ∈ types then .standard
  else .basic

/-- The user row says what the valid ones of these verifications say. -/
structure Agrees (now : Date) (verifications : List UserVerification)
    (user : User) : Prop where
  trustScore : user.trustScore = ∑ type ∈ ((verifications.filter (·.isValid now)).map
      UserVerification.verificationType).toFinset, type.weight
  verificationStatus : user.verificationStatus =
    some (if verifications.filter (·.isValid now) = [] then .pending
      else .verified)
  isVerifiedSeller : user.isVerifiedSeller = true ↔ ∃ row ∈ verifications.filter (·.isValid now),
      row.verificationType = .seller
  verificationLevel : user.verificationLevel = levelOf ((verifications.filter (·.isValid now)).map
      UserVerification.verificationType).toFinset
  verificationExpiryAt : user.verificationExpiryAt =
    ((verifications.filter (·.isValid now)).filterMap UserVerification.expiresAt).min?

variable {now : Date} {db : Database} {userId : Id}

def updatedUser (now : Date) (verifications : List UserVerification) (user : User) : User :=
  { user with
    verificationStatus := some
      (if verifications.any (·.isValid now) then .verified else .pending)
    verificationLevel := getHighestVerificationLevel now verifications
    isVerifiedSeller := verifications.any fun row =>
      row.verificationType = .seller && row.isValid now
    trustScore := trustScore now verifications
    verificationExpiryAt :=
      (getEarliestExpiryDate verifications).or user.verificationExpiryAt }

theorem updateUserVerificationStatus_verifications (now : Date) (userId : Id) (db : Database) :
    (updateUserVerificationStatus now userId db).verifications =
      db.verifications := by
  grind [updateUserVerificationStatus, calculateTrustScore, Database.updateUser]

theorem updateUser_row {set : User → User} (keyed : ∀ user, (set user).id = user.id) (db : Database)
    (userId key : Id) :
    (db.updateUser userId set).users.row key = if key = userId then (db.users.row key).map set
      else db.users.row key := by
  unfold Database.updateUser
  cases found : db.users.row userId with
  | none => simp_all
  | some user =>
    have own : Keyed.key (set user) = userId :=
      (keyed user).trans (db.users.keyed found)
    simp_all [Table.row_save]

theorem updateUserVerificationStatus_row (now : Date) (userId : Id) (db : Database) (key : Id) :
    (updateUserVerificationStatus now userId db).users.row key = if key = userId then
        (db.users.row key).map (updatedUser now (db.verificationsOf userId))
      else db.users.row key := by
  unfold updateUserVerificationStatus calculateTrustScore
  rw [updateUser_row (by simp), updateUser_row (by simp)]
  split
  next same =>
    rw [Option.map_map]
    rfl
  next => rfl

/-- The verified ones among the rows have not expired. -/
def Unexpired (now : Date) (verifications : List UserVerification) : Prop :=
  ∀ row ∈ verifications, row.status = .verified → row.expiresAt.all (now < ·) = true

variable {row : UserVerification} {verifications rows : List UserVerification} {user : User}
  {request : Request}

theorem isValid_iff :
    row.isValid now = true ↔ row.status = .verified ∧ row.expiresAt.all (now < ·) = true := by
  simp [UserVerification.isValid]

def OneOfEach (verifications : List UserVerification) : Prop :=
  verifications.Pairwise fun a b => a.verificationType ≠ b.verificationType

theorem trustScore_eq (single : OneOfEach verifications) :
    trustScore now verifications = ∑ type ∈ ((verifications.filter (·.isValid now)).map
        UserVerification.verificationType).toFinset, type.weight := by
  have nodup : ((verifications.filter (·.isValid now)).map
      UserVerification.verificationType).Nodup := List.pairwise_map.mpr (single.filter _)
  rw [List.sum_toFinset _ nodup, List.map_map]
  rfl

theorem getHighestVerificationLevel_eq (now : Date) (verifications : List UserVerification) :
    getHighestVerificationLevel now verifications =
      levelOf ((verifications.filter (·.isValid now)).map
        UserVerification.verificationType).toFinset := by
  simp only [getHighestVerificationLevel, levelOf, List.mem_toFinset,
    List.mem_map, List.any_eq_true, decide_eq_true_eq]

/-- After an update the user row says what the valid verifications say, iff no
verified one has expired, and the old expiry was empty if none has one. -/
theorem agrees_updated_iff (single : OneOfEach verifications) (user : User) :
    Agrees now verifications (updatedUser now verifications user) ↔ Unexpired now verifications ∧
        (getEarliestExpiryDate verifications = none → user.verificationExpiryAt = none) := by
  have verified : ∀ date, date ∈ (verifications.filter fun row =>
      row.status = .verified).filterMap UserVerification.expiresAt ↔
        ∃ row ∈ verifications, row.status = .verified ∧ row.expiresAt = some date := by
    simp [List.mem_filterMap, and_assoc]
  have valid : ∀ date, date ∈ (verifications.filter (·.isValid now)).filterMap
      UserVerification.expiresAt → now < date ∧ ∃ row ∈ verifications, row.status = .verified ∧
          row.expiresAt = some date := by
    intro date member
    obtain ⟨row, kept, is⟩ := List.mem_filterMap.mp member
    obtain ⟨member, valid⟩ := List.mem_filter.mp kept
    obtain ⟨status, later⟩ := isValid_iff.mp valid
    grind
  constructor
  · intro agrees
    have expiry : (getEarliestExpiryDate verifications).or
        user.verificationExpiryAt = _ := agrees.verificationExpiryAt
    constructor
    · intro row member status
      cases is : row.expiresAt with
      | none => rfl
      | some date =>
        have there := (verified date).mpr ⟨row, member, status, is⟩
        cases found : getEarliestExpiryDate verifications with
        | none =>
          rw [getEarliestExpiryDate, List.min?_eq_none_iff] at found
          rw [found] at there
          cases there
        | some earliest =>
          have least := (List.min?_eq_some_iff.mp found).2 date there
          rw [found, Option.some_or] at expiry
          have later := (valid earliest (List.min?_eq_some_iff.mp expiry.symm).1).1
          exact decide_eq_true (later.trans_le least)
    · intro none
      rw [none, Option.none_or] at expiry
      rw [expiry, List.min?_eq_none_iff, List.eq_nil_iff_forall_not_mem]
      intro date member
      have there := (verified date).mpr (valid date member).2
      grind [getEarliestExpiryDate]
  · rintro ⟨unexpired, empty⟩
    have same : (verifications.filter fun row => row.status = .verified) =
        verifications.filter (·.isValid now) := by
      refine List.filter_congr fun row member => ?_
      rw [Bool.eq_iff_iff, isValid_iff, decide_eq_true_eq]
      exact ⟨fun status => ⟨status, unexpired row member status⟩, And.left⟩
    refine
      { trustScore := trustScore_eq single
        verificationStatus := ?_
        isVerifiedSeller := ?_
        verificationLevel := getHighestVerificationLevel_eq now verifications
        verificationExpiryAt := ?_ }
    · by_cases some : verifications.any (·.isValid now) = true
      · simp_all [updatedUser]
      · simp_all [updatedUser]
    · simp only [updatedUser, List.any_eq_true, Bool.and_eq_true,
        decide_eq_true_eq, List.mem_filter, and_assoc]
      exact exists_congr fun row => and_congr_right fun _ => and_comm
    · show (getEarliestExpiryDate verifications).or _ = _
      rw [← same]
      cases found : getEarliestExpiryDate verifications <;> grind [getEarliestExpiryDate]

/-! ### One verification is saved -/

/-- What `saveAndUpdate` leaves. -/
def settled (now : Date) (db : Database) (verification : UserVerification) :
    Database := updateUserVerificationStatus now verification.userId
    { db with verifications := db.verifications.save verification }

/-- What holds of the tables between two calls. -/
structure WellKept (db : Database) : Prop where
  single : ∀ row ∈ db.verifications.rows, ∀ other ∈ db.verifications.rows,
    row.userId = other.userId → row.verificationType = other.verificationType → row.id = other.id
  owned : ∀ row ∈ db.verifications.rows, (db.users.row row.userId).isSome
  dated : ∀ row ∈ db.verifications.rows, row.status = .verified → row.expiresAt.isSome
  known : ∀ userId user, db.users.row userId = some user →
    user.verificationExpiryAt = none → ∀ row ∈ db.verificationsOf userId, row.status ≠ .verified

/-- The verification takes the place of the one its user has of its type. -/
structure Fits (db : Database) (verification : UserVerification) : Prop where
  place : ∀ row ∈ db.verifications.rows, row.id = verification.id ↔
    row.userId = verification.userId ∧ row.verificationType = verification.verificationType
  owned : (db.users.row verification.userId).isSome
  dated : verification.status = .verified → verification.expiresAt.isSome

variable {verification : UserVerification}

theorem mem_verificationsOf :
    row ∈ db.verificationsOf userId ↔ row ∈ db.verifications.rows ∧ row.userId = userId := by
  simp [Database.verificationsOf]

theorem mem_settled :
    row ∈ (settled now db verification).verifications.rows ↔ row = verification ∨
        row ∈ db.verifications.rows ∧ row.id ≠ verification.id := by
  rw [settled, updateUserVerificationStatus_verifications, Table.mem_rows,
    Table.row_save, Table.mem_rows]
  by_cases same : Keyed.key row = Keyed.key verification
  · have notOld : ¬ row.id ≠ verification.id := fun other => other same
    rw [if_pos same, Option.some.injEq]
    simp [notOld, eq_comm]
  · have other : row ≠ verification := fun is => same (congrArg _ is)
    have apart : row.id ≠ verification.id := same
    rw [if_neg same]
    simp [other, apart]

theorem settled_user (now : Date) (db : Database) (verification : UserVerification) (userId : Id) :
    (settled now db verification).users.row userId = if userId = verification.userId then
        (db.users.row userId).map (updatedUser now
          ((settled now db verification).verificationsOf userId))
      else db.users.row userId := by
  simp_all [settled, Database.verificationsOf, updateUserVerificationStatus_verifications,
    updateUserVerificationStatus_row]

theorem Fits.verificationsOf_eq (fits : Fits db verification)
    (other : userId ≠ verification.userId) :
    (settled now db verification).verificationsOf userId =
      db.verificationsOf userId := by
  refine Table.filter_rows_congr fun row own => ?_
  have is := of_decide_eq_true own
  rw [mem_settled]
  constructor
  · grind
  · refine fun old => .inr ⟨old, fun same => other ?_⟩
    rw [← is]
    exact ((fits.place row old).mp same).1

theorem WellKept.oneOfEach (kept : WellKept db) (userId : Id) :
    OneOfEach (db.verificationsOf userId) := by
  have sorted := db.verifications.rows_sorted.filter fun row => row.userId = userId
  refine sorted.imp_of_mem fun first second below same => ?_
  obtain ⟨stored, is⟩ := Verification.mem_verificationsOf.mp first
  obtain ⟨storedToo, isToo⟩ := Verification.mem_verificationsOf.mp second
  exact below.ne (kept.single _ stored _ storedToo (is.trans isToo.symm) same)

theorem WellKept.settled (now : Date) (kept : WellKept db) (fits : Fits db verification) :
    WellKept (settled now db verification) := by
  have dated : ∀ row ∈ (Verification.settled now db
      verification).verifications.rows, row.status = .verified →
        row.expiresAt.isSome := by
    intro row member
    rcases mem_settled.mp member with rfl | ⟨old, -⟩
    · exact fits.dated
    · exact kept.dated row old
  refine
    { single := ?_
      owned := ?_
      dated
      known := ?_ }
  · intro row member other memberOther user type
    rcases mem_settled.mp member with rfl | ⟨old, apart⟩
    · rcases mem_settled.mp memberOther with rfl | ⟨oldOther, apart⟩
      · rfl
      · exact absurd ((fits.place other oldOther).mpr ⟨user.symm, type.symm⟩) apart
    · rcases mem_settled.mp memberOther with rfl | ⟨oldOther, -⟩
      · exact absurd ((fits.place row old).mpr ⟨user, type⟩) apart
      · exact kept.single row old other oldOther user type
  · intro row member
    have before : (db.users.row row.userId).isSome := by
      rcases mem_settled.mp member with rfl | ⟨old, -⟩
      · exact fits.owned
      · exact kept.owned row old
    grind [settled_user]
  · intro userId user found empty row member status
    rw [settled_user] at found
    split at found
    next =>
      obtain ⟨old, -, rfl⟩ := Option.map_eq_some_iff.mp found
      have none := (Option.or_eq_none_iff.mp empty).1
      rw [getEarliestExpiryDate, List.min?_eq_none_iff, List.filterMap_eq_nil_iff] at none
      have undated := none row (List.mem_filter.mpr ⟨member, decide_eq_true status⟩)
      have date := dated row (Verification.mem_verificationsOf.mp member).1 status
      rw [undated] at date
      cases date
    next other =>
      rw [fits.verificationsOf_eq other] at member
      exact kept.known userId user found empty row member status

/-- The user row agrees with the verifications of the user. -/
def AgreesFor (now : Date) (db : Database) (userId : Id) : Prop :=
  ∃ user, db.users.row userId = some user ∧ Agrees now (db.verificationsOf userId) user

/-- What agreement comes to after a call: no verified one has expired, and if
none is left with an expiry, the user row had none before. -/
def Settles (now : Date) (db : Database) (userId : Id) (user : User) : Prop :=
  Unexpired now (db.verificationsOf userId) ∧
    (getEarliestExpiryDate (db.verificationsOf userId) = none → user.verificationExpiryAt = none)

theorem Fits.agreesFor_iff (now : Date) (fits : Fits db verification)
    (kept : WellKept db) (found : db.users.row verification.userId = some user) :
    AgreesFor now (Verification.settled now db verification) verification.userId ↔
      Settles now (Verification.settled now db verification)
        verification.userId user := by
  have row := settled_user now db verification verification.userId
  rw [if_pos rfl, found, Option.map_some] at row
  rw [Settles, ← agrees_updated_iff ((kept.settled now fits).oneOfEach _)]
  constructor
  · rintro ⟨after, is, agrees⟩
    rw [row] at is
    cases is
    exact agrees
  · exact fun agrees => ⟨_, row, agrees⟩

/-! ### Several verifications are saved -/

/-- A change of verifications that leaves all of them verified, or none. -/
structure Change (change : UserVerification → UserVerification) : Prop where
  id : ∀ row, (change row).id = row.id
  userId : ∀ row, (change row).userId = row.userId
  verificationType : ∀ row, (change row).verificationType = row.verificationType
  kind : (∀ row, (change row).status = .verified ∧ (change row).expiresAt.isSome) ∨
    ∀ row, (change row).status ≠ .verified

def settleAll (now : Date) (change : UserVerification → UserVerification)
    (db : Database) (rows : List UserVerification) : Database :=
  rows.foldl (fun db row => settled now db (change row)) db

variable {change : UserVerification → UserVerification}

theorem settleAll_cons (now : Date) (change : UserVerification → UserVerification) (db : Database)
    (row : UserVerification) (rows : List UserVerification) :
    settleAll now change db (row :: rows) =
      settleAll now change (settled now db (change row)) rows := rfl

theorem eq_of_id {other : UserVerification} (stored : row ∈ db.verifications.rows)
    (storedToo : other ∈ db.verifications.rows) (same : row.id = other.id) :
    row = other := Table.eq_of_key stored storedToo same

theorem WellKept.fits (kept : WellKept db)
    (stored : row ∈ db.verifications.rows) (id : verification.id = row.id)
    (userId : verification.userId = row.userId)
    (type : verification.verificationType = row.verificationType)
    (dated : verification.status = .verified →
      verification.expiresAt.isSome) : Fits db verification where
  place other member := by
    rw [id, userId, type]
    constructor
    · grind [eq_of_id]
    · rintro ⟨user, type⟩
      exact kept.single other member row stored user type
  owned := by
    rw [userId]
    exact kept.owned row stored
  dated := dated

theorem Change.fits (changes : Change change) (kept : WellKept db)
    (stored : row ∈ db.verifications.rows) :
    Fits db (change row) := by
  refine kept.fits stored (changes.id row) (changes.userId row) (changes.verificationType row) ?_
  rcases changes.kind with all | none <;> simp_all

/-- Rows are stored under different ids, and only what the rest is about
stays to be changed. -/
theorem stored_settled (now : Date) (changes : Change change)
    (distinct : (row :: rows).Pairwise fun a b => a.id ≠ b.id)
    (stored : ∀ other ∈ row :: rows, other ∈ db.verifications.rows) :
    ∀ other ∈ rows, other ∈ (settled now db (change row)).verifications.rows := by
  intro other member
  refine mem_settled.mpr (.inr ⟨stored other (List.mem_cons_of_mem _ member), ?_⟩)
  rw [changes.id]
  exact ((List.pairwise_cons.mp distinct).1 other member).symm

theorem WellKept.settleAll (changes : Change change) (kept : WellKept db)
    (distinct : rows.Pairwise fun a b => a.id ≠ b.id)
    (stored : ∀ row ∈ rows, row ∈ db.verifications.rows) :
    WellKept (settleAll now change db rows) := by
  induction rows generalizing db with
  | nil => exact kept
  | cons row rows ih =>
    exact ih (kept.settled now (changes.fits kept (stored row List.mem_cons_self)))
      distinct.of_cons (stored_settled now changes distinct stored)

/-- A user none of whose verifications is changed keeps row and
verifications. -/
theorem settleAll_other (now : Date) (changes : Change change) (kept : WellKept db)
    (distinct : rows.Pairwise fun a b => a.id ≠ b.id)
    (stored : ∀ row ∈ rows, row ∈ db.verifications.rows)
    (other : userId ∉ rows.map UserVerification.userId) :
    (settleAll now change db rows).verificationsOf userId = db.verificationsOf userId ∧
      (settleAll now change db rows).users.row userId =
        db.users.row userId := by
  induction rows generalizing db with
  | nil => exact ⟨rfl, rfl⟩
  | cons row rows ih =>
    rw [List.map_cons, List.mem_cons, not_or] at other
    have fits := changes.fits kept (stored row List.mem_cons_self)
    have apart : userId ≠ (change row).userId := by
      rw [changes.userId]
      exact other.1
    obtain ⟨verifications, user⟩ := ih (kept.settled now fits) distinct.of_cons
      (stored_settled now changes distinct stored) other.2
    exact ⟨verifications.trans (fits.verificationsOf_eq apart),
      user.trans (by rw [settled_user, if_neg apart])⟩

theorem mem_settleAll (changes : Change change) (distinct : rows.Pairwise fun a b => a.id ≠ b.id) :
    row ∈ (settleAll now change db rows).verifications.rows ↔
      (row ∈ db.verifications.rows ∧ ∀ other ∈ rows, row.id ≠ other.id) ∨
        ∃ other ∈ rows, row = change other := by
  induction rows generalizing db with
  | nil => simp [settleAll]
  | cons first rows ih =>
    obtain ⟨apart, distinct⟩ := List.pairwise_cons.mp distinct
    have rest := @ih (settled now db (change first)) distinct
    rw [settleAll_cons, rest, mem_settled, changes.id]
    simp only [List.mem_cons, forall_eq_or_imp, exists_eq_or_imp]
    have place : row = change first → ∀ other ∈ rows, row.id ≠ other.id := by
      rintro rfl other member
      rw [changes.id]
      exact apart other member
    tauto

theorem settleAll_agreesFor (changes : Change change) (kept : WellKept db)
    (distinct : rows.Pairwise fun a b => a.id ≠ b.id)
    (stored : ∀ row ∈ rows, row ∈ db.verifications.rows)
    (touched : userId ∈ rows.map UserVerification.userId)
    (found : db.users.row userId = some user) :
    AgreesFor now (settleAll now change db rows) userId ↔
      Settles now (settleAll now change db rows) userId user := by
  induction rows generalizing db user with
  | nil => cases touched
  | cons row rows ih =>
    have fits := changes.fits kept (stored row List.mem_cons_self)
    have keptOnce := kept.settled now fits
    have storedStill := stored_settled now changes distinct stored
    have owner : (change row).userId = row.userId := changes.userId row
    by_cases again : userId ∈ rows.map UserVerification.userId
    · have userRow := settled_user now db (change row) userId
      rw [found] at userRow
      by_cases own : userId = (change row).userId
      · rw [if_pos own, Option.map_some] at userRow
        refine (ih keptOnce distinct.of_cons storedStill
          again userRow).trans (and_congr_right fun _ => ?_)
        refine forall_congr' fun dateless => ?_
        show ((getEarliestExpiryDate _).or user.verificationExpiryAt) = none ↔ _
        rw [Option.or_eq_none_iff]
        refine and_iff_right_of_imp fun empty => ?_
        have unverified := kept.known userId user found empty
        rw [getEarliestExpiryDate, List.min?_eq_none_iff] at dateless ⊢
        rcases changes.kind with all | none
        · obtain ⟨other, member, is⟩ := List.mem_map.mp again
          have there : change other ∈ (settleAll now change db (row :: rows)).verificationsOf
                userId := by
            refine mem_verificationsOf.mpr ⟨(mem_settleAll changes
              distinct).mpr (.inr ⟨other, List.mem_cons_of_mem _ member, rfl⟩), ?_⟩
            rw [changes.userId]
            exact is
          have undated := List.filterMap_eq_nil_iff.mp dateless (change other) (List.mem_filter.mpr
              ⟨there, decide_eq_true (all other).1⟩)
          grind
        · refine List.filterMap_eq_nil_iff.mpr fun other member => ?_
          obtain ⟨inside, status⟩ := List.mem_filter.mp member
          obtain ⟨storedOther, is⟩ := mem_verificationsOf.mp inside
          rcases mem_settled.mp storedOther with rfl | ⟨old, -⟩
          · exact absurd (of_decide_eq_true status) (none row)
          · exact absurd (of_decide_eq_true status)
              (unverified other (mem_verificationsOf.mpr ⟨old, is⟩))
      · rw [if_neg own] at userRow
        exact ih keptOnce distinct.of_cons storedStill again userRow
    · obtain ⟨verifications, userAfter⟩ := settleAll_other now changes
         keptOnce distinct.of_cons storedStill again
      have own : userId = (change row).userId := by simp_all
      subst own
      have once := fits.agreesFor_iff now kept found
      rw [settleAll_cons]
      simp only [AgreesFor, Settles, verifications, userAfter]
      exact once

/-! ### Requests -/

inductive Request where
  | submitVerification (userId : Id) (dto : SubmitVerificationDto)
  | uploadDocuments (userId verificationId : Id) (files : List UploadedFile)
  | adminReview (adminId : Id) (dto : AdminReviewDto)
  | bulkReview (adminId : Id) (dto : BulkReviewDto)
  | checkExpiredVerifications

def Request.program (now : Date) : Request → Verifications Unit
  | .submitVerification userId dto => Verification.submitVerification now userId dto
  | .uploadDocuments userId verificationId files =>
    Verification.uploadDocuments toLowerCase now userId verificationId files
  | .adminReview adminId dto => Verification.adminReview now adminId dto
  | .bulkReview adminId dto => Verification.bulkReview now adminId dto
  | .checkExpiredVerifications => Verification.checkExpiredVerifications now

/-- The users whose verifications a request is about. -/
def Request.users (db : Database) (now : Date) : Request → List Id
  | .submitVerification userId _ => [userId]
  | .uploadDocuments userId _ _ => [userId]
  | .adminReview _ dto =>
    (db.verifications.row dto.verificationId).toList.map UserVerification.userId
  | .bulkReview _ dto =>
    (db.withIds dto.verificationIds).map UserVerification.userId
  | .checkExpiredVerifications =>
    (db.expired now).map UserVerification.userId

/-- The expiries of the verified ones among the rows. -/
def verifiedDates (rows : List UserVerification) : List Date :=
  (rows.filter fun row => row.status = .verified).filterMap UserVerification.expiresAt

/-- The expiries of the verifications that the request leaves verified: those
it does not touch, and what a review adds. -/
def Request.leftVerified (db : Database) (now : Date) (userId : Id) :
    Request → List Date
  | .submitVerification _ _ | .uploadDocuments _ _ _ => verifiedDates (db.verificationsOf userId)
  | .adminReview _ dto =>
    verifiedDates ((db.verificationsOf userId).filter fun row => row.id ≠ dto.verificationId) ++
    (if dto.action = .verified then expiryOf now dto.expiresInSeconds
      else none).toList
  | .bulkReview _ dto =>
    verifiedDates ((db.verificationsOf userId).filter fun row => row.id ∉ dto.verificationIds) ++
    (if dto.action = .verified then expiryOf now none else none).toList
  | .checkExpiredVerifications =>
    verifiedDates ((db.verificationsOf userId).filter fun row => ¬ row.expiresAt.any (· < now))

theorem mem_verifiedDates {date : Date} :
    date ∈ verifiedDates rows ↔ ∃ row ∈ rows, row.status = .verified ∧
      row.expiresAt = some date := by simp [verifiedDates, List.mem_filterMap, and_assoc]

/-- A request is refused and changes nothing, or it settles its users. -/
inductive Performed (now : Date) (db : Database) (request : Request) :
    Except HttpException Unit × Database → Prop where
  | refused (error : HttpException) :
      Performed now db request (.error error, db)
  | settled {after : Database} (kept : WellKept after)
      (agree : ∀ userId ∈ request.users db now, ∀ user, db.users.row userId = some user →
          (AgreesFor now after userId ↔ Settles now after userId user))
      (left : ∀ userId ∈ request.users db now, ∀ date, date ∈ request.leftVerified db now userId ↔
          date ∈ verifiedDates (after.verificationsOf userId)) :
      Performed now db request (.ok (), after)

/-- A verification that is not verified, in the place of one that was not,
leaves the verified ones as they are. -/
theorem verifiedDates_settled (unverified : verification.status ≠ .verified)
    (before : ∀ row ∈ db.verifications.rows, row.id = verification.id →
      row.status ≠ .verified) (date : Date) :
    date ∈ Verification.verifiedDates (db.verificationsOf verification.userId) ↔
      date ∈ Verification.verifiedDates ((Verification.settled now db verification).verificationsOf
          verification.userId) := by
  grind [mem_verifiedDates, Verification.mem_verificationsOf, mem_settled]

/-! ### Submission and upload -/

theorem submitted_id (now : Date) (dto : SubmitVerificationDto)
    (row : UserVerification) : (submitted now dto row).id = row.id := by
  unfold submitted
  split <;> split <;> split <;> rfl

theorem submitted_userId (now : Date) (dto : SubmitVerificationDto)
    (row : UserVerification) : (submitted now dto row).userId = row.userId := by
  unfold submitted
  split <;> split <;> split <;> rfl

theorem submitted_type (now : Date) (dto : SubmitVerificationDto) (row : UserVerification) :
    (submitted now dto row).verificationType = row.verificationType := by
  unfold submitted
  split <;> split <;> split <;> rfl

theorem submitted_status (now : Date) (dto : SubmitVerificationDto) (row : UserVerification) :
    (submitted now dto row).status = row.status ∨
      (submitted now dto row).status = .underReview := by grind [submitted]

theorem Performed.saved (fits : Fits db verification) (kept : WellKept db)
    (one : ∀ userId, userId ∈ request.users db now ↔ userId = verification.userId) (left : ∀ date,
      date ∈ request.leftVerified db now verification.userId ↔
        date ∈ verifiedDates ((Verification.settled now db
          verification).verificationsOf verification.userId)) :
    Performed now db request (.ok (), Verification.settled now db verification) := by
  refine .settled (kept.settled now fits) ?_ ?_
  · intro userId touched user found
    cases (one userId).mp touched
    exact fits.agreesFor_iff now kept found
  · simp_all

theorem Performed.replaced (kept : WellKept db) (stored : row ∈ db.verifications.rows)
    (before : row.status ≠ .verified) (id : verification.id = row.id)
    (userId : verification.userId = row.userId)
    (type : verification.verificationType = row.verificationType)
    (unverified : verification.status ≠ .verified)
    (one : ∀ user, user ∈ request.users db now ↔ user = row.userId)
    (left : request.leftVerified db now row.userId =
      verifiedDates (db.verificationsOf row.userId)) :
    Performed now db request (.ok (), Verification.settled now db verification) := by
  have fits := kept.fits stored id userId type fun status => absurd status unverified
  rw [← userId] at one left
  refine .saved fits kept one fun date => ?_
  rw [left]
  refine verifiedDates_settled unverified (fun other member same => ?_) date
  rwa [eq_of_id member stored (same.trans id)]

theorem submitVerification_performed (kept : WellKept db) (userId : Id)
    (dto : SubmitVerificationDto) :
    Performed now db (.submitVerification userId dto) (submitVerification now userId dto db) := by
  unfold submitVerification
  rw [get_bind]
  cases existing : db.verifications.rows.find? fun row =>
      row.userId = userId ∧ row.verificationType = dto.verificationType with
  | some row =>
    have stored := List.mem_of_find?_eq_some existing
    have found := List.find?_some existing
    obtain ⟨rfl, -⟩ := of_decide_eq_true found
    by_cases verified : row.status = .verified
    · simp only [if_pos verified]
      exact .refused _
    · simp only [if_neg verified]
      refine .replaced kept stored verified (submitted_id now dto row)
        (submitted_userId now dto row) (submitted_type now dto row) ?_
        (fun _ => List.mem_singleton) rfl
      grind [submitted_status]
  | none =>
    have below : ∀ row ∈ db.verifications.rows, row.id < db.verifications.next := fun row member =>
      db.verifications.bounded (Table.mem_rows.mp member)
    cases owner : db.users.row userId with
    | none => exact .refused _
    | some user =>
      let created : UserVerification :=
        { id := db.verifications.next
          userId
          verificationType := dto.verificationType }
      have unverified : (submitted now dto created).status ≠ .verified := by
        grind [submitted_status]
      have fits : Fits db (submitted now dto created) :=
        { place := by
            intro row member
            rw [submitted_id, submitted_userId, submitted_type]
            grind
          owned := by grind [submitted_userId]
          dated := fun status => absurd status unverified }
      have place := submitted_userId now dto created
      refine .saved fits kept (fun other => ?_) (verifiedDates_settled unverified ?_)
      · rw [place]
        exact List.mem_singleton
      · grind [submitted_id]

theorem uploadDocuments_performed (kept : WellKept db)
    (userId verificationId : Id) (files : List UploadedFile) :
    Performed now db (.uploadDocuments userId verificationId files)
      (uploadDocuments toLowerCase now userId verificationId files db) := by
  unfold uploadDocuments
  rw [get_bind]
  cases found : (db.verifications.row verificationId).filter (·.userId = userId) with
  | none => exact .refused _
  | some row =>
    obtain ⟨stored, own⟩ := Option.filter_eq_some_iff.mp found
    have is : row.userId = userId := of_decide_eq_true own
    subst is
    by_cases verified : row.status = .verified
    · simp only [if_pos verified]
      exact .refused _
    · simp only [if_neg verified]
      cases filed : files.foldlM (addFile toLowerCase) (row.documents.getD .empty) with
      | error error => exact .refused error
      | ok documents =>
        let filed : UserVerification :=
          { row with
            documents
            currentStep := .adminReview
            status := .underReview }
        have unverified : filed.status ≠ .verified := nofun
        exact .replaced kept (Table.mem_rows_of_row stored) verified
          rfl rfl rfl unverified (fun _ => List.mem_singleton) rfl

/-! ### Review and expiry -/

theorem mem_verifiedDates_settleAll (changes : Change change)
    (distinct : rows.Pairwise fun a b => a.id ≠ b.id) (userId : Id) (date : Date) :
    date ∈ verifiedDates ((settleAll now change db rows).verificationsOf userId) ↔
      (∃ row ∈ db.verificationsOf userId, (∀ other ∈ rows, row.id ≠ other.id) ∧
          row.status = .verified ∧ row.expiresAt = some date) ∨ ∃ row ∈ rows, row.userId = userId ∧
          (change row).status = .verified ∧ (change row).expiresAt = some date := by
  simp only [mem_verifiedDates, mem_verificationsOf, mem_settleAll changes distinct]
  constructor
  · rintro ⟨row, ⟨⟨old, apart⟩ | ⟨other, member, rfl⟩, own⟩, rest⟩
    · exact .inl ⟨row, ⟨old, own⟩, apart, rest⟩
    · exact .inr ⟨other, member, (changes.userId other).symm.trans own, rest⟩
  · rintro (⟨row, ⟨old, own⟩, apart, rest⟩ | ⟨row, member, own, rest⟩)
    · exact ⟨row, ⟨.inl ⟨old, apart⟩, own⟩, rest⟩
    · exact ⟨change row, ⟨.inr ⟨row, member, rfl⟩, (changes.userId row).trans own⟩, rest⟩

theorem Performed.all (changes : Change change) (kept : WellKept db)
    (distinct : rows.Pairwise fun a b => a.id ≠ b.id)
    (stored : ∀ row ∈ rows, row ∈ db.verifications.rows)
    (users : request.users db now = rows.map UserVerification.userId)
    (left : ∀ userId ∈ rows.map UserVerification.userId, ∀ date,
      date ∈ request.leftVerified db now userId ↔ (∃ row ∈ db.verificationsOf userId,
            (∀ other ∈ rows, row.id ≠ other.id) ∧
              row.status = .verified ∧ row.expiresAt = some date) ∨
          ∃ row ∈ rows, row.userId = userId ∧ (change row).status = .verified ∧
              (change row).expiresAt = some date) :
    Performed now db request (.ok (), settleAll now change db rows) := by
  refine .settled (kept.settleAll changes distinct stored) ?_ ?_
  · intro userId touched user found
    rw [users] at touched
    exact settleAll_agreesFor changes kept distinct stored touched found
  · intro userId touched date
    grind [mem_verifiedDates_settleAll]

theorem forM_settles {each : UserVerification → Verifications Unit} (holds : Database → Prop)
    (step : ∀ row db, row ∈ db.verifications.rows → holds db →
      each row db = (.ok (), settled now db (change row)))
    (stays : ∀ db row, holds db → holds (settled now db row)) (changes : Change change)
    (distinct : rows.Pairwise fun a b => a.id ≠ b.id)
    (stored : ∀ row ∈ rows, row ∈ db.verifications.rows) (start : holds db) :
    rows.forM each db = (.ok (), settleAll now change db rows) := by
  induction rows generalizing db with
  | nil => rfl
  | cons row rows ih =>
    rw [forM_cons, bind_apply, step row db (stored row List.mem_cons_self) start]
    exact ih distinct.of_cons (stored_settled now changes distinct stored) (stays db _ start)

/-- The review would give the verification a date that is none. -/
def WithoutDate (now : Date) (dto : AdminReviewDto) : Prop :=
  dto.action = .verified ∧ expiryOf now dto.expiresInSeconds = none

variable {adminId : Id} {dto : AdminReviewDto}

theorem reviewed_none (adminId : Id) (dateless : WithoutDate now dto)
    (row : UserVerification) : reviewed now adminId dto row = none := by
  simp [reviewed, dateless.1, dateless.2]

theorem reviewed_keeps (adminId : Id) (dated : ¬ WithoutDate now dto) (row : UserVerification) :
    ∃ after, reviewed now adminId dto row = some after ∧
      after.id = row.id ∧ after.userId = row.userId ∧
      after.verificationType = row.verificationType ∧ after.status = dto.action ∧
      (dto.action = .verified → after.expiresAt = expiryOf now dto.expiresInSeconds) := by
  have date : dto.action = .verified → ∃ date, expiryOf now dto.expiresInSeconds = some date := by
    intro verified
    exact Option.ne_none_iff_exists'.mp fun none => dated ⟨verified, none⟩
  unfold reviewed
  cases action : dto.action with
  | verified => grind
  | _ => cases dto.metadata <;> exact ⟨_, rfl, rfl, rfl, rfl, rfl, nofun⟩

def afterReview (now : Date) (adminId : Id) (dto : AdminReviewDto)
    (row : UserVerification) : UserVerification :=
  (reviewed now adminId dto row).getD row

theorem reviewed_eq (dated : ¬ WithoutDate now dto) (row : UserVerification) :
    reviewed now adminId dto row = some (afterReview now adminId dto row) := by
  obtain ⟨after, is, -⟩ := reviewed_keeps adminId dated row
  rw [afterReview, is]
  rfl

theorem afterReview_keeps (adminId : Id) (dated : ¬ WithoutDate now dto) (row : UserVerification) :
    (afterReview now adminId dto row).id = row.id ∧
      (afterReview now adminId dto row).userId = row.userId ∧
      (afterReview now adminId dto row).verificationType = row.verificationType ∧
      (afterReview now adminId dto row).status = dto.action ∧ (dto.action = .verified →
        (afterReview now adminId dto row).expiresAt =
          expiryOf now dto.expiresInSeconds) := by
  obtain ⟨after, is, keeps⟩ := reviewed_keeps adminId dated row
  rw [reviewed_eq dated, Option.some.injEq] at is
  rwa [is]

theorem afterReview_change (adminId : Id) (dated : ¬ WithoutDate now dto) :
    Change (afterReview now adminId dto) where
  id row := (afterReview_keeps adminId dated row).1
  userId row := (afterReview_keeps adminId dated row).2.1
  verificationType row := (afterReview_keeps adminId dated row).2.2.1
  kind := by
    by_cases verified : dto.action = .verified
    · refine .inl fun row => ?_
      obtain ⟨-, -, -, status, date⟩ := afterReview_keeps adminId dated row
      refine ⟨status.trans verified, ?_⟩
      rw [date verified, Option.isSome_iff_ne_none]
      exact fun none => dated ⟨verified, none⟩
    · simp_all [afterReview_keeps]

theorem adminReview_apply (dto : AdminReviewDto)
    (stored : db.verifications.row dto.verificationId = some row)
    (admin : (db.users.row adminId).isSome) (dated : ¬ WithoutDate now dto) :
    adminReview now adminId dto db =
      (.ok (), settled now db (afterReview now adminId dto row)) := by
  obtain ⟨user, found⟩ := Option.isSome_iff_exists.mp admin
  unfold adminReview
  rw [get_bind]
  simp only [stored, reviewed_eq dated, found, Option.isNone_some]
  rfl

theorem adminReview_refused (dto : AdminReviewDto)
    (stored : db.verifications.row dto.verificationId = some row)
    (bad : ¬ (db.users.row adminId).isSome ∨ WithoutDate now dto) :
    adminReview now adminId dto db = (.error columnError, db) := by
  unfold adminReview
  rw [get_bind]
  simp only [stored]
  cases done : reviewed now adminId dto row with
  | none => rfl
  | some after =>
    rcases bad with missing | dateless
    · rw [Option.not_isSome_iff_eq_none] at missing
      simp only [missing, Option.isNone_none, if_true]
      rfl
    · simp_all [reviewed_none]

theorem afterReview_dates (dated : ¬ WithoutDate now dto)
    (touched : userId ∈ rows.map UserVerification.userId) (date : Date) :
    (∃ row ∈ rows, row.userId = userId ∧ (afterReview now adminId dto row).status = .verified ∧
          (afterReview now adminId dto row).expiresAt = some date) ↔
      date ∈ (if dto.action = .verified then
        expiryOf now dto.expiresInSeconds else none).toList := by
  by_cases verified : dto.action = .verified
  · rw [if_pos verified]
    grind [afterReview_keeps]
  · simp_all [afterReview_keeps]

theorem adminReview_performed (kept : WellKept db) (adminId : Id) (dto : AdminReviewDto) :
    Performed now db (.adminReview adminId dto) (adminReview now adminId dto db) := by
  cases stored : db.verifications.row dto.verificationId with
  | none =>
    have refused : adminReview now adminId dto db =
        (.error (.notFound "Verification not found"), db) := by
      unfold adminReview
      rw [get_bind]
      simp only [stored]
      rfl
    rw [refused]
    exact .refused _
  | some row =>
    by_cases bad : ¬ (db.users.row adminId).isSome ∨ WithoutDate now dto
    · rw [adminReview_refused dto stored bad]
      exact .refused _
    · obtain ⟨admin, dated⟩ := not_or.mp bad
      rw [adminReview_apply dto stored (not_not.mp admin) dated]
      have is : row.id = dto.verificationId := db.verifications.keyed stored
      have distinct : [row].Pairwise fun a b => a.id ≠ b.id := List.pairwise_singleton _ _
      refine Performed.all (afterReview_change adminId dated) kept distinct ?_ ?_ ?_
      · simpa using Table.mem_rows_of_row stored
      · simp [Request.users, stored]
      · intro userId touched date
        rw [afterReview_dates dated touched, Request.leftVerified,
          List.mem_append, mem_verifiedDates]
        simp [is, and_assoc]

theorem apart_iff {keep : UserVerification → Bool} (stored : row ∈ db.verifications.rows) :
    (∀ other ∈ db.verifications.rows.filter keep, row.id ≠ other.id) ↔ keep row = false := by
  constructor
  · grind
  · grind [eq_of_id]

theorem bulkReview_performed (kept : WellKept db) (adminId : Id) (dto : BulkReviewDto) :
    Performed now db (.bulkReview adminId dto) (bulkReview now adminId dto db) := by
  have fold : bulkReview now adminId dto db =
      (db.withIds dto.verificationIds).forM (fun verification =>
        adminReview now adminId (dto.review verification.id)) db := rfl
  have stored : ∀ row ∈ db.withIds dto.verificationIds,
      row ∈ db.verifications.rows := fun row => List.mem_of_mem_filter
  by_cases bad : ¬ (db.users.row adminId).isSome ∨ WithoutDate now (dto.review 0)
  · cases rows : db.withIds dto.verificationIds with
    | nil =>
      rw [fold, rows]
      refine .settled kept ?_ ?_ <;> simp [Request.users, rows]
    | cons row others =>
      have first := Table.mem_rows.mp (stored row (by simp [rows]))
      rw [fold, rows, forM_cons, bind_apply, adminReview_refused (dto.review row.id) first bad]
      exact .refused _
  · obtain ⟨admin, dated⟩ := not_or.mp bad
    have changes : Change (afterReview now adminId (dto.review 0)) :=
      afterReview_change adminId dated
    have distinct : (db.withIds dto.verificationIds).Pairwise fun a b =>
        a.id ≠ b.id := db.verifications.rows_pairwise.filter _
    rw [fold, forM_settles (fun db => (db.users.row adminId).isSome) ?_ ?_
      changes distinct stored (not_not.mp admin)]
    · refine Performed.all changes kept distinct stored rfl ?_
      intro userId touched date
      rw [afterReview_dates dated touched, Request.leftVerified, List.mem_append, mem_verifiedDates]
      refine or_congr ?_ Iff.rfl
      simp only [List.mem_filter, mem_verificationsOf]
      refine exists_congr fun row => ?_
      constructor
      · rintro ⟨⟨⟨old, own⟩, apart⟩, rest⟩
        exact ⟨⟨old, own⟩, (apart_iff old).mpr (by simpa using apart), rest⟩
      · rintro ⟨⟨old, own⟩, apart, rest⟩
        exact ⟨⟨⟨old, own⟩, by simpa using (apart_iff old).mp apart⟩, rest⟩
    · intro row db member admin
      exact adminReview_apply (dto.review row.id) (Table.mem_rows.mp member) admin dated
    · grind [settled_user]

theorem checkExpiredVerifications_performed (kept : WellKept db) :
    Performed now db .checkExpiredVerifications (checkExpiredVerifications now db) := by
  have changes : Change fun row =>
      { row with status := VerificationStatus.expired } :=
    { id := fun _ => rfl
      userId := fun _ => rfl
      verificationType := fun _ => rfl
      kind := .inr fun _ => nofun }
  have fold : checkExpiredVerifications now db = (db.expired now).forM (fun row =>
        saveAndUpdate now { row with status := .expired }) db := rfl
  have stored : ∀ row ∈ db.expired now, row ∈ db.verifications.rows :=
    fun row => List.mem_of_mem_filter
  have distinct : (db.expired now).Pairwise fun a b => a.id ≠ b.id :=
    db.verifications.rows_pairwise.filter _
  rw [fold, forM_settles (fun _ => True) ?_ (fun _ _ _ => trivial) changes distinct stored trivial]
  · refine Performed.all changes kept distinct stored rfl ?_
    intro userId touched date
    rw [Request.leftVerified, mem_verifiedDates]
    simp only [List.mem_filter, mem_verificationsOf]
    constructor
    · rintro ⟨row, ⟨⟨old, own⟩, early⟩, rest⟩
      refine .inl ⟨row, ⟨old, own⟩, (apart_iff old).mpr ?_, rest⟩
      simp_all
    · rintro (⟨row, ⟨old, own⟩, apart, rest⟩ | ⟨row, -, -, status, -⟩)
      · have late := (apart_iff old).mp apart
        grind
      · cases status
  · exact fun _ _ _ _ => rfl

/-! ### Runs -/

theorem program_performed (now : Date) (kept : WellKept db) (request : Request) :
    Performed now db request (request.program toLowerCase now db) := by
  cases request with
  | submitVerification userId dto => exact submitVerification_performed kept userId dto
  | uploadDocuments userId verificationId files =>
    exact uploadDocuments_performed toLowerCase kept userId verificationId files
  | adminReview adminId dto => exact adminReview_performed kept adminId dto
  | bulkReview adminId dto => exact bulkReview_performed kept adminId dto
  | checkExpiredVerifications => exact checkExpiredVerifications_performed kept

/-- One call at its time. -/
def call (toLowerCase : String → String) (db : Database) (made : Date × Request) : Database :=
  (made.2.program toLowerCase made.1 db).2

theorem WellKept.call (kept : WellKept db) (made : Date × Request) :
    WellKept (call toLowerCase db made) := by
  have performed := program_performed toLowerCase made.1 kept made.2
  unfold Verification.call
  generalize made.2.program toLowerCase made.1 db = outcome at performed ⊢
  cases performed <;> simp_all

theorem WellKept.initially (users : Table User) : WellKept { users } := by
  refine
    { single := ?_
      owned := ?_
      dated := ?_
      known := ?_ }
  · simp
  · simp
  · simp
  · simp [Database.verificationsOf]

theorem Performed.agreesFor_iff {after : Database}
    (performed : Performed now db request (.ok (), after)) (touched : userId ∈ request.users db now)
    (found : db.users.row userId = some user) :
    AgreesFor now after userId ↔ (∀ date ∈ request.leftVerified db now userId, now < date) ∧
        (request.leftVerified db now userId = [] → user.verificationExpiryAt = none) := by
  cases performed with
  | settled kept agree left =>
    have same := left userId touched
    have empty : request.leftVerified db now userId = [] ↔
        getEarliestExpiryDate (after.verificationsOf userId) = none := by
      rw [getEarliestExpiryDate, List.min?_eq_none_iff,
        List.eq_nil_iff_forall_not_mem, List.eq_nil_iff_forall_not_mem]
      exact forall_congr' fun date => not_congr (same date)
    rw [agree userId touched user found, Settles, empty]
    refine and_congr_left fun _ => ?_
    simp only [same, mem_verifiedDates]
    constructor
    · rintro unexpired date ⟨row, member, status, is⟩
      simpa [is] using unexpired row member status
    · intro later row member status
      obtain ⟨date, is⟩ := Option.isSome_iff_exists.mp
        (kept.dated row (mem_verificationsOf.mp member).1 status)
      simpa [is] using later date ⟨row, member, status, is⟩

/-- The database after calls on a platform that starts with these users. -/
def reached (toLowerCase : String → String) (users : Table User)
    (calls : List (Date × Request)) : Database := run (call toLowerCase) { users } calls

theorem wellKept_reached (users : Table User) (calls : List (Date × Request)) :
    WellKept (reached toLowerCase users calls) := by
  have preserved : ∀ db made, WellKept db →
      WellKept (call toLowerCase db made) :=
    fun db made kept => kept.call toLowerCase made
  exact run_preserves preserved (WellKept.initially users) calls

/-- After any calls, the next one leaves the row of a user whose verifications
it saves in agreement with them, iff those it leaves verified expire later than
now, and the row had no expiry before if it leaves none verified. -/
theorem user_agrees_iff (users : Table User) (calls : List (Date × Request))
    (now : Date) (request : Request) (answered : (request.program toLowerCase now
      (reached toLowerCase users calls)).1 = .ok ()) {userId : Id} {user : User}
    (touched : userId ∈ request.users (reached toLowerCase users calls) now)
    (found : (reached toLowerCase users calls).users.row userId = some user) :
    AgreesFor now (call toLowerCase (reached toLowerCase users calls) (now, request)) userId ↔
      (∀ date ∈ request.leftVerified (reached toLowerCase users calls) now userId, now < date) ∧
        (request.leftVerified (reached toLowerCase users calls) now
            userId = [] → user.verificationExpiryAt = none) := by
  have performed := program_performed toLowerCase now
    (wellKept_reached toLowerCase users calls) request
  unfold call
  dsimp only
  generalize request.program toLowerCase now
    (reached toLowerCase users calls) = result at answered performed ⊢
  obtain ⟨answer, after⟩ := result
  cases answered
  exact performed.agreesFor_iff touched found

/-- The users of a platform with one user. -/
def oneUser : Table User := Table.empty.save { id := 0 }

def submission : Request := .submitVerification 0 { verificationType := .email }

def approval : Request := .adminReview 0 { verificationId := 0, action := .verified }

def refusal : Request := .adminReview 0 { verificationId := 0, action := .rejected }

/-- The approval of the only verification agrees. -/
theorem approved_agrees :
    AgreesFor 1 (call id (reached id oneUser [(0, submission)]) (1, approval)) 0 := by
  have left : approval.leftVerified (reached id oneUser [(0, submission)]) 1
      0 = [31536000001] := by decide +kernel
  have found : ((reached id oneUser [(0, submission)]).users.row 0).isSome := by decide
  refine (user_agrees_iff id oneUser [(0, submission)] 1 approval
    (by decide +kernel) (by decide +kernel) (Option.eq_some_of_isSome found)).mpr ?_
  rw [left]
  simp

/-- Once it is rejected, the row still has the expiry. -/
theorem rejected_disagrees :
    ¬ ∀ (toLowerCase : String → String) (users : Table User)
      (calls : List (Date × Request)) (now : Date) (request : Request) (userId : Id),
      (request.program toLowerCase now (reached toLowerCase users calls)).1 = .ok () →
        userId ∈ request.users (reached toLowerCase users calls) now →
          AgreesFor now (call toLowerCase (reached toLowerCase users calls)
            (now, request)) userId := by
  intro agrees
  obtain ⟨user, found, agree⟩ := agrees id oneUser
    [(0, submission), (1, approval)] 2 refusal 0 (by decide +kernel) (by decide +kernel)
  have expiry : ((call id (reached id oneUser [(0, submission),
      (1, approval)]) (2, refusal)).users.row 0).map
        User.verificationExpiryAt = some (some 31536000001) := by decide +kernel
  have dates : (((call id (reached id oneUser [(0, submission),
      (1, approval)]) (2, refusal)).verificationsOf 0).filter
        (·.isValid 2)).filterMap UserVerification.expiresAt = [] := by decide +kernel
  rw [found, Option.map_some, agree.verificationExpiryAt, dates] at expiry
  cases expiry

end MarketX.Verification
