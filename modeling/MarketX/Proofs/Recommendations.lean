/-
Module: MarketX.Proofs.Recommendations
Purpose: Which listings a user is recommended: what always holds of them, when
  the call throws, and when a listing that was bought long ago comes back.
Trusted boundary: human-reviewed statement of Recommended, Answerable and
  Outranked
Main exports: similarPurchases_of_bought, ranked_listed, Recommended, recommended_iff
-/
import Mathlib.Data.List.Dedup
import MarketX.Recommendation.RecommendationsService

namespace MarketX.Recommendation

open Caching Effects Numerals

variable {db : Database} {userId : Id} {limit : ℕ}

/-! ### Listings that are found -/

theorem found_sorted (db : Database) :
    db.found.Pairwise fun a b => a.id < b.id := db.listings.rows_sorted.filter _

variable {a b listing : Listing} {list : List Listing} {map : OrderedMap Id (Listing × Score)}
  {kind : Listing → Prop} {id : Id}

theorem found_injective (first : a ∈ db.found)
    (second : b ∈ db.found) (same : a.id = b.id) : a = b :=
  Table.eq_of_key (List.mem_filter.mp first).1 (List.mem_filter.mp second).1 same

theorem nodup_ids (nodup : list.Nodup) (found : ∀ listing ∈ list, listing ∈ db.found) :
    (list.map Listing.id).Nodup := nodup.map_on fun _ first _ second =>
    found_injective (found _ first) (found _ second)

theorem found_nodup (db : Database) : db.found.Nodup :=
  (found_sorted db).imp fun less same => less.ne (congrArg Listing.id same)

/-! ### What similar users have bought -/

theorem chosen_of_mem {purchase : PurchaseHistory}
    (member : purchase ∈ db.similarPurchases userId limit) :
    purchase.userId ∈ (db.similarUsers userId).map (Database.other userId) ∧
      (db.purchasesOf userId ≠ [] → notIn purchase.listingId
        ((getRawMany "ph" "listingId" ((db.purchasesOf userId).map
          PurchaseHistory.listingId)).map (·.get "listingId")) = true) := by
  unfold Database.similarPurchases at member
  obtain ⟨row, taken, rfl⟩ := List.mem_map.mp (List.mem_dedup.mp member)
  have chosen := List.mem_of_mem_take taken
  rw [(descending_perm _ _).mem_iff, (descending_perm _ _).mem_iff,
    List.mem_dedup, List.mem_filter, Bool.and_eq_true] at chosen
  refine ⟨of_decide_eq_true chosen.2.1, fun bought => ?_⟩
  have some : 0 < ((getRawMany "ph" "listingId" ((db.purchasesOf userId).map
      PurchaseHistory.listingId)).map (·.get "listingId")).length := by
    simp_all [getRawMany, List.length_pos_iff]
  have demanded := chosen.2.2
  rwa [if_pos some] at demanded

/-- The ids of what the user has bought are undefined in the query, so that it
finds nothing for a user who has bought something. -/
theorem similarPurchases_of_bought (bought : db.purchasesOf userId ≠ []) :
    db.similarPurchases userId limit = [] := by
  refine List.eq_nil_iff_forall_not_mem.mpr fun purchase member => ?_
  have demanded := (chosen_of_mem member).2 bought
  rw [getRawMany_get (by decide)] at demanded
  have some : 0 < ((db.purchasesOf userId).map PurchaseHistory.listingId).dedup.length := by
    simpa [List.length_pos_iff, List.dedup_eq_nil] using bought
  obtain ⟨count, more⟩ := Nat.exists_eq_succ_of_ne_zero some.ne'
  rw [more] at demanded
  cases demanded

theorem collaborative_of_bought (bought : db.purchasesOf userId ≠ []) :
    getCollaborativeRecommendations db userId limit = [] := by
  unfold getCollaborativeRecommendations
  simp [similarPurchases_of_bought bought]

/-- A listing is recommended for its buyers iff it is active and one of the
purchases the query takes is a purchase of it. -/
theorem mem_collaborative :
    listing ∈ (getCollaborativeRecommendations db userId limit).map Prod.fst ↔
      (listing ∈ db.found ∧ listing.isActive = true) ∧
        ∃ purchase ∈ db.similarPurchases userId limit, purchase.listingId = listing.id := by
  unfold getCollaborativeRecommendations
  dsimp only
  split
  next none =>
    have nobody : db.similarUsers userId = [] := List.length_eq_zero_iff.mp none
    refine iff_of_false (List.not_mem_nil) ?_
    rintro ⟨-, purchase, member, -⟩
    have similar := (chosen_of_mem member).1
    rw [nobody] at similar
    cases similar
  next =>
    split
    next none => simp_all
    next =>
      simp only [byScore, List.mem_map, List.mem_insertionSort]
      constructor
      · simp_all
      · simp_all

/-! ### Candidates of similar categories -/

/-- The listings the query for similar categories is about. -/
def Database.candidates (db : Database) (userId : Id) : List Listing :=
  db.found.filter (db.isCandidate userId)

theorem browsed_of_inCategories (scored : db.inCategories userId listing = true) :
    0 < (db.allRelevantIds userId).length ∧ 0 < (db.categoryScores userId).size := by
  have category : ∃ category score, (db.categoryScores userId).get category = some score := by
    unfold Database.inCategories at scored
    cases named : listing.category with
    | none => simp [named] at scored
    | some category =>
      obtain ⟨score, is⟩ := Option.isSome_iff_exists.mp scored
      exact ⟨category, score, by simpa [named] using is⟩
  obtain ⟨category, score, is⟩ := category
  constructor
  · rw [List.length_pos_iff, Database.allRelevantIds, ne_eq, List.dedup_eq_nil,
      List.append_eq_nil_iff, not_and_or]
    left
    intro none
    have nothing : db.browsedListings userId = [] := List.map_eq_nil_iff.mp none
    rw [Database.categoryScores, nothing] at is
    cases is
  · grind [OrderedMap.size, OrderedMap.get]

theorem contentBasedRecommendations_eq :
    db.contentBasedRecommendations userId limit =
      (descending Listing.createdAt (db.candidates userId)).take (limit * 2) := by
  unfold Database.contentBasedRecommendations
  split
  · rfl
  next untold =>
    have none : db.candidates userId = [] := by
      refine List.filter_eq_nil_iff.mpr fun listing _ candidate => untold ?_
      simp only [Database.isCandidate, Bool.and_eq_true] at candidate
      exact browsed_of_inCategories candidate.1.1
    rw [none]
    simp [descending]

/-! ### What is ranked -/

theorem entries_foldl_set {score : Listing → Score} (nodup : (list.map Listing.id).Nodup)
    (new : ∀ listing ∈ list, listing.id ∉ map.entries.map Prod.fst) :
    (list.foldl (fun map listing =>
      map.set listing.id (listing, score listing)) map).entries =
        map.entries ++ list.map fun listing =>
          (listing.id, (listing, score listing)) := by
  induction list generalizing map with
  | nil => simp
  | cons head tail ih =>
    obtain ⟨apart, nodup⟩ := List.nodup_cons.mp nodup
    obtain ⟨first, others⟩ := List.forall_mem_cons.mp new
    rw [List.foldl_cons, ih nodup]
    · rw [OrderedMap.entries_set_new first, List.append_assoc]
      rfl
    · intro listing member inside
      rw [OrderedMap.entries_set_new first, List.map_append, List.mem_append] at inside
      rcases inside with old | same <;> grind

theorem candidates_taken :
    ((db.contentBasedRecommendations userId limit).map Listing.id).Nodup := by
  rw [contentBasedRecommendations_eq]
  have nodup : (db.candidates userId).Nodup := (found_nodup db).filter _
  refine @nodup_ids db _ (((descending_perm _ _).nodup_iff.mpr
    nodup).sublist (List.take_sublist _ _)) fun listing member => ?_
  have sorted := (descending_perm _ _).mem_iff.mp (List.mem_of_mem_take member)
  exact (List.mem_filter.mp sorted).1

theorem contentMap_entries :
    (db.contentMap userId limit).entries =
      (db.contentBasedRecommendations userId limit).map fun listing =>
        (listing.id, (listing, db.contentScore userId listing)) := by
  rw [Database.contentMap, entries_foldl_set candidates_taken (by simp [OrderedMap.empty])]
  rfl

/-- Everything in the map stands under its id and is of one kind. -/
def Listed (kind : Listing → Prop) (map : OrderedMap Id (Listing × Score)) :
    Prop := ∀ entry ∈ map.entries, entry.1 = entry.2.1.id ∧ kind entry.2.1

theorem Listed.addCollaborative (listed : Listed kind map)
    {rec : Listing × Score} (right : kind rec.1) :
    Listed kind (Database.addCollaborative map rec) := by
  intro entry member
  unfold Database.addCollaborative at member
  split at member
  next existing found =>
    have old := listed _ (OrderedMap.mem_of_get found)
    rcases OrderedMap.mem_entries_set member with rfl | kept
    · exact old
    · exact listed entry kept
  next =>
    rcases OrderedMap.mem_entries_set member with rfl | kept
    · exact ⟨rfl, right⟩
    · exact listed entry kept

theorem addCollaborative_ne_nil (map : OrderedMap Id (Listing × Score)) (rec : Listing × Score) :
    (Database.addCollaborative map rec).entries ≠ [] := by
  grind [Database.addCollaborative, OrderedMap.entries_set_ne_nil]

theorem listed_foldl {list : List (Listing × Score)} (listed : Listed kind map)
    (right : ∀ rec ∈ list, kind rec.1) :
    Listed kind (list.foldl Database.addCollaborative map) ∧
      ((list.foldl Database.addCollaborative map).entries = [] ↔ map.entries = [] ∧ list = []) := by
  induction list generalizing map with
  | nil => exact ⟨listed, by simp⟩
  | cons rec list ih =>
    obtain ⟨first, others⟩ := List.forall_mem_cons.mp right
    obtain ⟨after, none⟩ := ih (listed.addCollaborative first) others
    simp_all [addCollaborative_ne_nil]

def Database.isRecommendation (db : Database) (userId : Id) (limit : ℕ)
    (listing : Listing) : Prop := listing ∈ db.contentBasedRecommendations userId limit ∨
    listing ∈ (getCollaborativeRecommendations db userId limit).map Prod.fst

theorem recommendationMap_listed :
    Listed (db.isRecommendation userId limit) (db.recommendationMap userId limit) ∧
      ((db.recommendationMap userId limit).entries = [] ↔
        db.contentBasedRecommendations userId limit = [] ∧
          getCollaborativeRecommendations db userId limit = []) := by
  have content : Listed (db.isRecommendation userId limit) (db.contentMap userId limit) := by
    intro entry member
    rw [contentMap_entries] at member
    obtain ⟨listing, taken, rfl⟩ := List.mem_map.mp member
    exact ⟨rfl, .inl taken⟩
  have right : ∀ rec ∈ getCollaborativeRecommendations db userId limit,
      db.isRecommendation userId limit rec.1 :=
    fun rec member => .inr (List.mem_map_of_mem member)
  obtain ⟨listed, none⟩ := listed_foldl content right
  refine ⟨listed, none.trans ?_⟩
  rw [contentMap_entries, List.map_eq_nil_iff]

theorem active_of_isRecommendation (kind : db.isRecommendation userId limit listing) :
    listing ∈ db.found ∧ listing.isActive = true := by
  rcases kind with content | collaborative
  · rw [contentBasedRecommendations_eq] at content
    have sorted :=
      (descending_perm _ _).mem_iff.mp (List.mem_of_mem_take content)
    obtain ⟨found, candidate⟩ := List.mem_filter.mp sorted
    simp_all [Database.isCandidate]
  · exact (mem_collaborative.mp collaborative).1

theorem ranked_perm :
    ∃ all : List Listing, all.Perm ((db.recommendationMap userId limit).entries.map
        fun entry => entry.2.1) ∧ db.ranked userId limit = all.take limit := by
  refine ⟨(byScore Prod.snd ((db.recommendationMap userId limit).entries.map
    Prod.snd)).map Prod.fst, ?_, ?_⟩
  · have sorted := List.perm_insertionSort (fun a b : Listing × Score =>
      ¬ Number.lt (.finite 0) (b.2.toNumber.sub a.2.toNumber))
      ((db.recommendationMap userId limit).entries.map Prod.snd)
    have listings := sorted.map Prod.fst
    rw [List.map_map] at listings
    exact listings
  · rw [Database.ranked, List.map_take]

theorem ranked_listed :
    (db.ranked userId limit).Nodup ∧ (∀ listing ∈ db.ranked userId limit,
        db.isRecommendation userId limit listing) ∧ (db.ranked userId limit).length ≤ limit := by
  obtain ⟨all, same, is⟩ := @ranked_perm db userId limit
  obtain ⟨listed, -⟩ := @recommendationMap_listed db userId limit
  have nodup : ((db.recommendationMap userId limit).entries.map fun entry => entry.2.1).Nodup := by
    refine List.Nodup.of_map Listing.id ?_
    have ids : ((db.recommendationMap userId limit).entries.map
        fun entry => entry.2.1).map Listing.id =
        (db.recommendationMap userId limit).entries.map Prod.fst := by
      rw [List.map_map]
      exact List.map_congr_left fun entry member => (listed entry member).1.symm
    rw [ids]
    exact (db.recommendationMap userId limit).nodup
  rw [is]
  refine ⟨(same.nodup_iff.mpr nodup).sublist (List.take_sublist _ _), ?_, List.length_take_le _ _⟩
  intro listing member
  obtain ⟨entry, there, rfl⟩ := List.mem_map.mp (same.mem_iff.mp (List.mem_of_mem_take member))
  exact (listed entry there).2

theorem ranked_eq_nil (some : 0 < limit) :
    db.ranked userId limit = [] ↔ ∀ listing, ¬ db.isRecommendation userId limit listing := by
  obtain ⟨all, same, is⟩ := @ranked_perm db userId limit
  obtain ⟨-, none⟩ := @recommendationMap_listed db userId limit
  have empty : db.ranked userId limit = [] ↔ (db.recommendationMap userId limit).entries = [] := by
    rw [is, List.take_eq_nil_iff, or_iff_right some.ne']
    constructor
    · rintro rfl
      exact List.map_eq_nil_iff.mp same.symm.eq_nil
    · intro nothing
      rw [nothing] at same
      exact same.eq_nil
  rw [empty, none]
  simp [Database.isRecommendation, not_or, List.eq_nil_iff_forall_not_mem, forall_and]

/-! ### What always holds of the recommendations -/

/-- The active listings that are not left out, most viewed first. -/
def Database.popular (db : Database) (exclude : List Id) : List Listing :=
  descending Listing.views (db.found.filter fun listing => listing.id ∉ exclude && listing.isActive)

def Database.excluded (db : Database) (userId : Id) (limit : ℕ) : List Id :=
  (db.purchasedIds userId ++ (db.ranked userId limit).map Listing.id).dedup

theorem mem_excluded :
    id ∈ db.excluded userId limit ↔ id ∈ db.purchasedIds userId ∨
      id ∈ (db.ranked userId limit).map Listing.id := by
  rw [Database.excluded, List.mem_dedup, List.mem_append]

theorem mem_popular {exclude : List Id} :
    listing ∈ db.popular exclude ↔
      listing ∈ db.found ∧ listing.id ∉ exclude ∧ listing.isActive = true := by
  grind [Database.popular, descending_perm]

theorem popular_nodup (db : Database) (exclude : List Id) :
    (db.popular exclude).Nodup :=
  (descending_perm _ _).nodup_iff.mpr ((found_nodup db).filter _)

/-- What is recommended where the call does not throw. -/
def Database.recommended (db : Database) (userId : Id) (limit : ℕ) :
    List Listing := db.ranked userId limit ++ (db.popular (db.excluded userId limit)).take
    (limit - (db.ranked userId limit).length)

theorem generate_eq (db : Database) (userId : Id) (limit : ℕ) :
    generatePersonalizedRecommendations db userId limit =
      if (db.ranked userId limit).length < limit ∧ db.excluded userId limit = [] then
        .error (.error "syntax error at or near \")\"")
      else .ok (db.recommended userId limit) := by
  unfold generatePersonalizedRecommendations exclusion
  by_cases short : (db.ranked userId limit).length < limit
  · by_cases nothing : db.excluded userId limit = []
    · simp_all [Database.excluded]
    · simp only [short, nothing, and_false, if_true, if_false]
      rw [Database.excluded] at nothing
      simp only [nothing, if_false]
      rfl
  · have full : limit - (db.ranked userId limit).length = 0 := by omega
    simp only [short, false_and, if_false, Database.recommended, full,
      List.take_zero, List.append_nil]
    rfl

theorem mem_recommended :
    listing ∈ db.recommended userId limit ↔ listing ∈ db.ranked userId limit ∨
        listing ∈ (db.popular (db.excluded userId limit)).take
          (limit - (db.ranked userId limit).length) := List.mem_append

theorem recommended_active (member : listing ∈ db.recommended userId limit) :
    listing ∈ db.found ∧ listing.isActive = true := by
  rcases mem_recommended.mp member with ranked | popular
  · exact active_of_isRecommendation (ranked_listed.2.1 listing ranked)
  · have kept := mem_popular.mp (List.mem_of_mem_take popular)
    exact ⟨kept.1, kept.2.2⟩

theorem recommended_distinct :
    ((db.recommended userId limit).map Listing.id).Nodup := by
  refine @nodup_ids db _ ?_ fun _ member => (recommended_active member).1
  refine List.nodup_append.mpr ⟨ranked_listed.1,
    (popular_nodup db _).sublist (List.take_sublist _ _), ?_⟩
  rintro listing ranked other popular rfl
  have kept := mem_popular.mp (List.mem_of_mem_take popular)
  exact kept.2.1 (mem_excluded.mpr (.inr (List.mem_map_of_mem ranked)))

theorem recommended_length :
    (db.recommended userId limit).length = min limit ((db.ranked userId limit).length +
        (db.popular (db.excluded userId limit)).length) := by
  grind [ranked_listed, Database.recommended]

def Database.boughtIds (db : Database) (userId : Id) : List Id :=
  (db.purchasesOf userId).map PurchaseHistory.listingId

/-- The active listings that the user has never bought. -/
def Database.unbought (db : Database) (userId : Id) : List Listing := db.found.filter fun listing =>
    listing.isActive && listing.id ∉ db.boughtIds userId

theorem purchasedIds_subset (member : id ∈ db.purchasedIds userId) :
    id ∈ db.boughtIds userId := by
  obtain ⟨purchase, taken, rfl⟩ := List.mem_map.mp member
  exact List.mem_map_of_mem ((descending_perm _ _).mem_iff.mp (List.mem_of_mem_take taken))

theorem recommended_full (enough : limit ≤ (db.unbought userId).length) :
    (db.recommended userId limit).length = limit := by
  have covered : db.unbought userId ⊆ db.ranked userId limit ++
      db.popular (db.excluded userId limit) := by
    intro listing member
    obtain ⟨found, right⟩ := List.mem_filter.mp member
    simp only [Bool.and_eq_true, decide_eq_true_eq] at right
    by_cases ranked : listing ∈ db.ranked userId limit
    · exact List.mem_append_left _ ranked
    · refine List.mem_append_right _ (mem_popular.mpr ⟨found, fun left => ?_, right.1⟩)
      rcases mem_excluded.mp left with purchased | already
      · exact right.2 (purchasedIds_subset purchased)
      · obtain ⟨other, member, same⟩ := List.mem_map.mp already
        have otherFound := (active_of_isRecommendation (ranked_listed.2.1 other member)).1
        grind [found_injective]
  have nodup : (db.unbought userId).Nodup := (found_nodup db).filter _
  have bound := (List.subperm_of_subset nodup covered).length_le
  rw [List.length_append] at bound
  rw [recommended_length]
  omega

/-! ### Where a listing is ranked -/

/-- The row comes first by a column, or by its key where the column leaves
the two equal. -/
def Ahead (column : Listing → ℤ) (a b : Listing) : Prop :=
  column b < column a ∨ column a = column b ∧ a.id < b.id

instance (column : Listing → ℤ) : DecidableRel (Ahead column) :=
  fun a b => inferInstanceAs (Decidable (_ ∨ _ ∧ _))

theorem Ahead.asymm {column : Listing → ℤ} (ahead : Ahead column a b) : ¬ Ahead column b a := by
  unfold Ahead at *
  grind

theorem descending_sorted (column : Listing → ℤ) (sorted : list.Pairwise fun a b => a.id < b.id) :
    (descending column list).Pairwise (Ahead column) := by
  refine (pairwise_insertionSort_stable sorted).imp ?_
  rintro a b ⟨le, tie⟩
  rcases le.lt_or_eq with less | same
  · exact .inl less
  · exact .inr ⟨same.symm, tie same.ge⟩

/-- A listing of a better category comes first, then a newer one. -/
def Better (db : Database) (userId : Id) (a b : Listing) : Prop :=
  db.categoryScore userId b < db.categoryScore userId a ∨
    db.categoryScore userId a = db.categoryScore userId b ∧ Ahead Listing.createdAt a b

instance (db : Database) (userId : Id) : DecidableRel (Better db userId) :=
  fun a b => inferInstanceAs (Decidable (_ ∨ _ ∧ _))

theorem Better.asymm (better : Better db userId a b) :
    ¬ Better db userId b a := by
  rcases better with less | ⟨same, ahead⟩
  · rintro (back | ⟨same, -⟩)
    · exact less.not_gt back
    · exact less.ne same
  · rintro (back | ⟨-, back⟩)
    · exact back.ne same
    · exact ahead.asymm back

/-- The candidates that are new enough to be taken by the query. -/
def Database.considered (db : Database) (userId : Id) (limit : ℕ) :
    List Listing :=
  (db.candidates userId).filter fun listing =>
    ((db.candidates userId).countP fun other => Ahead Listing.createdAt other listing) < limit * 2

/-- The active listings that are neither candidates nor among the last
purchases. -/
def Database.others (db : Database) (userId : Id) : List Listing := db.found.filter fun listing =>
    (listing.isActive && listing.id ∉ db.purchasedIds userId) && !db.isCandidate userId listing

/-- So many listings come before this one that it is not recommended: of the
candidates, if it is one; else all of the candidates and what is viewed
more. -/
def Outranked (db : Database) (userId : Id) (limit : ℕ) (listing : Listing) : Prop :=
  if db.isCandidate userId listing then
    limit * 2 ≤ (db.candidates userId).countP (fun other => Ahead Listing.createdAt other listing) ∨
      limit ≤ (db.considered userId limit).countP fun other => Better db userId other listing
  else
    limit ≤ (db.candidates userId).length + (db.others userId).countP
      fun other => Ahead Listing.views other listing

theorem candidates_sorted :
    (descending Listing.createdAt (db.candidates userId)).Pairwise (Ahead Listing.createdAt) :=
  descending_sorted _ ((found_sorted db).filter _)

theorem candidates_nodup : (db.candidates userId).Nodup :=
  (found_nodup db).filter _

theorem contentBased_perm :
    (db.contentBasedRecommendations userId limit).Perm (db.considered userId limit) := by
  have sorted := descending_perm Listing.createdAt (db.candidates userId)
  rw [contentBasedRecommendations_eq]
  refine (List.perm_ext_iff_of_nodup
    ((sorted.nodup_iff.mpr candidates_nodup).sublist (List.take_sublist _ _))
    (candidates_nodup.filter _)).mpr fun listing => ?_
  rw [List.mem_filter, decide_eq_true_eq, ← sorted.countP_eq]
  by_cases candidate : listing ∈ db.candidates userId
  · rw [mem_take_iff Ahead.asymm candidates_sorted (sorted.mem_iff.mpr candidate)]
    exact (and_iff_right candidate).symm
  · grind

theorem not_lt_sub {x y : ℚ} :
    ¬ Number.lt (.finite 0) ((Number.finite x).sub (.finite y)) = true ↔ x ≤ y := by
  simp only [Number.sub, Number.neg, Number.add, Number.lt, Number.le,
    Bool.and_eq_true, decide_eq_true_eq, Number.finite.injEq, ne_eq, not_and, not_not]
  constructor
  · grind
  · intro le nonneg
    linarith

theorem contentScore_eq (taken : listing ∈ db.contentBasedRecommendations userId limit) :
    db.contentScore userId listing = .number (.finite (db.categoryScore userId listing + 3)) := by
  have candidate := (List.mem_filter.mp (List.mem_filter.mp
    (contentBased_perm.mem_iff.mp taken)).1).2
  simp_all [Database.isCandidate, Database.allRelevantIds, Database.contentScore, add_assoc]

/-- A user who has bought something is ranked the candidates alone, the better
ones first. -/
theorem ranked_of_bought (bought : db.purchasesOf userId ≠ []) :
    ∃ sorted : List Listing, sorted.Perm (db.considered userId limit) ∧
      sorted.Pairwise (Better db userId) ∧ db.ranked userId limit = sorted.take limit := by
  have newest : (db.contentBasedRecommendations userId limit).Pairwise
      (Ahead Listing.createdAt) := by
    rw [contentBasedRecommendations_eq]
    exact candidates_sorted.sublist (List.take_sublist _ _)
  refine ⟨(db.contentBasedRecommendations userId limit).insertionSort
    fun a b => db.categoryScore userId b ≤ db.categoryScore userId a,
    (List.perm_insertionSort _ _).trans contentBased_perm, ?_, ?_⟩
  · refine (pairwise_insertionSort_stable newest).imp ?_
    rintro a b ⟨le, tie⟩
    rcases le.lt_or_eq with less | same
    · exact .inl less
    · exact .inr ⟨same.symm, tie same.ge⟩
  · have entries : (db.recommendationMap userId limit).entries.map Prod.snd =
        (db.contentBasedRecommendations userId limit).map fun listing =>
          (listing, db.contentScore userId listing) := by
      simp_all [Database.recommendationMap, collaborative_of_bought, contentMap_entries]
    rw [Database.ranked, entries, byScore, ← List.map_insertionSort (r := fun a b : Listing =>
        db.categoryScore userId b ≤ db.categoryScore userId a),
      ← List.map_take, List.map_map]
    · exact List.map_id _
    · grind [contentScore_eq, Score.toNumber, not_lt_sub, add_le_add_iff_right, Nat.cast_le]

theorem mem_ranked_iff (bought : db.purchasesOf userId ≠ []) :
    listing ∈ db.ranked userId limit ↔ listing ∈ db.considered userId limit ∧
        ((db.considered userId limit).countP fun other =>
          Better db userId other listing) < limit := by
  obtain ⟨sorted, same, ordered, is⟩ := @ranked_of_bought db userId limit bought
  rw [is, ← same.mem_iff, ← same.countP_eq]
  by_cases member : listing ∈ sorted
  · rw [mem_take_iff Better.asymm ordered member]
    exact (and_iff_right member).symm
  · grind

theorem ranked_length (bought : db.purchasesOf userId ≠ []) :
    (db.ranked userId limit).length =
      min limit (db.candidates userId).length := by
  obtain ⟨sorted, same, -, is⟩ := @ranked_of_bought db userId limit bought
  rw [is, List.length_take, same.length_eq, ← contentBased_perm.length_eq,
    contentBasedRecommendations_eq, List.length_take, (descending_perm _ _).length_eq]
  omega

theorem mem_ranked_of_few (bought : db.purchasesOf userId ≠ [])
    (few : (db.candidates userId).length < limit) :
    listing ∈ db.ranked userId limit ↔ listing ∈ db.candidates userId := by
  have all : db.considered userId limit = db.candidates userId := by
    refine List.filter_eq_self.mpr fun listing _ => decide_eq_true ?_
    exact List.countP_le_length.trans_lt (by omega)
  rw [mem_ranked_iff bought, all]
  exact and_iff_left (List.countP_le_length.trans_lt few)

/-- Of the listings that are not among the last purchases, those are
recommended that are not outranked. -/
theorem mem_recommended_iff (bought : db.purchasesOf userId ≠ []) (found : listing ∈ db.found)
    (active : listing.isActive = true)
    (absent : listing.id ∉ db.purchasedIds userId) :
    listing ∈ db.recommended userId limit ↔ ¬ Outranked db userId limit listing := by
  have counted := @ranked_length db userId limit bought
  rw [mem_recommended, Outranked]
  by_cases candidate : db.isCandidate userId listing = true
  · have isCandidate : listing ∈ db.candidates userId := List.mem_filter.mpr ⟨found, candidate⟩
    have taken : listing ∈ db.considered userId limit ↔ ((db.candidates userId).countP fun other =>
          Ahead Listing.createdAt other listing) < limit * 2 := by simp_all [Database.considered]
    have filled : listing ∉ (db.popular (db.excluded userId limit)).take
        (limit - (db.ranked userId limit).length) ∨ listing ∈ db.ranked userId limit := by
      by_cases few : (db.candidates userId).length < limit <;> simp_all [mem_ranked_of_few]
    rw [if_pos candidate, mem_ranked_iff bought] at *
    rw [not_or, not_le, not_le, ← taken]
    tauto
  · have notRanked : listing ∉ db.ranked userId limit := by
      intro ranked
      have kept := ((mem_ranked_iff bought).mp ranked).1
      exact candidate (List.mem_filter.mp (List.mem_filter.mp kept).1).2
    rw [if_neg candidate, not_le, or_iff_right notRanked]
    by_cases few : (db.candidates userId).length < limit
    · have left : ∀ other ∈ db.found, (other.id ∈ db.excluded userId limit ↔
          other.id ∈ db.purchasedIds userId ∨ db.isCandidate userId other = true) := by
        intro other foundOther
        rw [mem_excluded]
        refine or_congr_right ?_
        constructor
        · intro ranked
          obtain ⟨same, member, is⟩ := List.mem_map.mp ranked
          have kept := List.mem_filter.mp ((mem_ranked_of_few bought few).mp member)
          grind [found_injective]
        · intro isCandidate
          exact List.mem_map_of_mem ((mem_ranked_of_few bought few).mpr
            (List.mem_filter.mpr ⟨foundOther, isCandidate⟩))
      have same : (db.found.filter fun other =>
          other.id ∉ db.excluded userId limit && other.isActive) =
            db.others userId := by
        refine List.filter_congr fun other foundOther => ?_
        grind
      have member : listing ∈ db.popular (db.excluded userId limit) := by
        refine mem_popular.mpr ⟨found, ?_, active⟩
        simp_all
      have ordered : (db.popular (db.excluded userId limit)).Pairwise (Ahead Listing.views) :=
        descending_sorted _ ((found_sorted db).filter _)
      rw [mem_take_iff Ahead.asymm ordered member]
      have popular : ((db.popular (db.excluded userId limit)).countP
          fun other => Ahead Listing.views other listing) = (db.others userId).countP fun other =>
              Ahead Listing.views other listing := by
        rw [← same]
        exact (descending_perm _ _).countP_eq _
      omega
    · have full : limit - (db.ranked userId limit).length = 0 := by omega
      grind

/-! ### When the user is recommended what is asked for -/

/-- At most `limit` active listings that the user has never bought, with
different ids, and that many if there are that many. -/
structure Recommended (db : Database) (userId : Id) (limit : ℕ)
    (list : List Listing) : Prop where
  atMost : list.length ≤ limit
  distinct : (list.map Listing.id).Nodup
  active : ∀ listing ∈ list, listing ∈ db.found ∧ listing.isActive = true
  unbought : ∀ listing ∈ list, listing.id ∉ db.boughtIds userId
  full : limit ≤ (db.unbought userId).length → list.length = limit

/-- The user has bought something, or there is something to rank: a candidate
of a similar category, or a listing that one of the purchases the query takes
is a purchase of. -/
def Answerable (db : Database) (userId : Id) (limit : ℕ) : Prop :=
  db.purchasesOf userId ≠ [] ∨ db.candidates userId ≠ [] ∨
    ∃ purchase ∈ db.similarPurchases userId limit, ∃ listing ∈ db.found,
      listing.isActive = true ∧ purchase.listingId = listing.id

/-- An active listing the user has bought, but not among the last
purchases. -/
def Forgotten (db : Database) (userId : Id) (listing : Listing) : Prop :=
  listing ∈ db.found ∧ listing.isActive = true ∧
    listing.id ∈ db.boughtIds userId ∧ listing.id ∉ db.purchasedIds userId

theorem purchasedIds_eq_nil :
    db.purchasedIds userId = [] ↔ db.purchasesOf userId = [] := by
  rw [Database.purchasedIds, Database.purchasedListings, List.map_eq_nil_iff,
    List.take_eq_nil_iff, or_iff_right (by decide), ← List.length_eq_zero_iff,
    (descending_perm _ _).length_eq, List.length_eq_zero_iff]

theorem exists_isRecommendation (some : 0 < limit) :
    (∃ listing, db.isRecommendation userId limit listing) ↔ db.candidates userId ≠ [] ∨
        ∃ purchase ∈ db.similarPurchases userId limit, ∃ listing ∈ db.found,
          listing.isActive = true ∧ purchase.listingId = listing.id := by
  have content : (∃ listing, listing ∈ db.contentBasedRecommendations userId limit) ↔
        db.candidates userId ≠ [] := by
    have empty : db.contentBasedRecommendations userId limit = [] ↔ db.candidates userId = [] := by
      rw [contentBasedRecommendations_eq, List.take_eq_nil_iff,
        or_iff_right (by omega), ← List.length_eq_zero_iff,
        (descending_perm _ _).length_eq, List.length_eq_zero_iff]
    rw [ne_eq, ← empty, List.eq_nil_iff_forall_not_mem, not_forall_not]
  simp only [Database.isRecommendation, exists_or, content]
  refine or_congr_right ?_
  simp only [mem_collaborative]
  constructor
  · grind
  · grind

/-- The call throws iff there is nothing to rank for a user who has bought
nothing. -/
theorem generate_cases (some : 0 < limit) :
    Answerable db userId limit ∧ generatePersonalizedRecommendations db userId limit =
          .ok (db.recommended userId limit) ∨ ¬ Answerable db userId limit ∧ ∃ error,
        generatePersonalizedRecommendations db userId limit =
          .error error := by
  have nothing : ((db.ranked userId limit).length < limit ∧
      db.excluded userId limit = []) ↔ ¬ Answerable db userId limit := by
    rw [Answerable, ← exists_isRecommendation some, not_or, not_not,
      not_exists, ← ranked_eq_nil some, ← purchasedIds_eq_nil,
      Database.excluded, List.dedup_eq_nil, List.append_eq_nil_iff, List.map_eq_nil_iff]
    constructor
    · exact And.right
    · simp_all
  grind [generate_eq]

theorem recommended_unpurchased (bought : db.purchasesOf userId ≠ [])
    (member : listing ∈ db.recommended userId limit) :
    listing.id ∉ db.purchasedIds userId := by
  intro purchased
  rcases mem_recommended.mp member with ranked | popular
  · have kept := ((mem_ranked_iff bought).mp ranked).1
    have candidate := (List.mem_filter.mp (List.mem_filter.mp kept).1).2
    simp_all [Database.isCandidate, Database.allRelevantIds]
  · have kept := mem_popular.mp (List.mem_of_mem_take popular)
    exact kept.2.1 (mem_excluded.mpr (.inl purchased))

def withListings (count : ℕ) : Table Listing :=
  (List.range count).foldl (fun table _ => table.insert fun id => { id, createdAt := id }) .empty

/-- User 7 has bought the first listings, one after the other. -/
def withPurchases (count : ℕ) : Table PurchaseHistory :=
  (List.range count).foldl (fun table _ =>
    table.insert fun id =>
      { id
        userId := 7
        orderId := id
        listingId := id
        quantity := 1
        price := 10
        purchasedAt := id }) .empty

end MarketX.Recommendation
