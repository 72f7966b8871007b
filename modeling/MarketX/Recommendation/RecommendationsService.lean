/-
Module: MarketX.Recommendation.RecommendationsService
Purpose: Recommendations (`recommendation/recommendation.service.ts`): the
  purchases that are recorded, the listings that are bought together, the
  users that buy alike, and the listings a user is recommended.
Trusted boundary: human-reviewed model of the source; a query answers as SQL
  does, and rows that its order leaves equal come by their key; the users of a
  request exist; caches, queues and logs are left out
Main exports: Database, Recommendations, recordPurchase, calculateUserSimilarity
-/
import MarketX.Caching.OrderedMap
import MarketX.Commerce.CouponsService
import MarketX.Effects.Throwing
import MarketX.Numerals.Printing

namespace MarketX.Recommendation

open Caching Effects Numerals
open Commerce (columnError decimalColumn varcharColumn)

/-! ### Entities -/

structure Listing where
  id : Id
  category : Option String := none
  isActive : Bool := true
  createdAt : Date
  deletedAt : Option Date := none
  views : ℤ := 0
deriving DecidableEq

structure BrowsingHistory where
  id : Id
  userId : Id
  listingId : Id
  viewedAt : Date
  viewDuration : ℤ := 0
  addedToCart : Bool := false
  purchased : Bool := false

structure PurchaseHistory where
  id : Id
  userId : Id
  orderId : Id
  listingId : Id
  quantity : ℤ
  price : Amount
  currency : String := "USD"
  purchasedAt : Date
deriving DecidableEq

structure FrequentlyBoughtTogether where
  id : Id
  listingIdA : Id
  listingIdB : Id
  purchaseCount : ℕ := 1
  confidence : Amount := 0
deriving DecidableEq

structure UserSimilarity where
  id : Id
  userIdA : Id
  userIdB : Id
  similarityScore : Amount := 0
  commonPurchases : ℕ := 0
  commonViews : ℕ := 0
deriving DecidableEq

instance : Keyed Listing := ⟨Listing.id⟩
instance : Keyed BrowsingHistory := ⟨BrowsingHistory.id⟩
instance : Keyed PurchaseHistory := ⟨PurchaseHistory.id⟩
instance : Keyed FrequentlyBoughtTogether := ⟨FrequentlyBoughtTogether.id⟩
instance : Keyed UserSimilarity := ⟨UserSimilarity.id⟩

structure Database where
  listings : Table Listing := .empty
  browsingHistory : Table BrowsingHistory := .empty
  purchaseHistory : Table PurchaseHistory := .empty
  frequentlyBoughtTogether : Table FrequentlyBoughtTogether := .empty
  userSimilarity : Table UserSimilarity := .empty

/-- A call on the database. -/
abbrev Recommendations := Writing Database HttpException

/-! ### Columns and queries -/

/-- A column of type `decimal(5, scale)`, given a number. -/
def scoreColumn (scale : ℕ) : Number → Option Amount
  | .finite x =>
    let units := roundAway (printed x * 10 ^ scale)
    if |units| < 10 ^ 5 then some (units / 10 ^ scale) else none
  -- no score divides by zero
  | _ => none

/-- The number in the text that such a column is loaded as. -/
def scoreNumber (scale : ℕ) (kept : Amount) : Number :=
  numberOf ((Number.finite kept).toFixed scale)

/-- A column of type `int`. -/
def intColumn (value : ℤ) : Option ℤ :=
  if -2 ^ 31 ≤ value ∧ value < 2 ^ 31 then some value else none

/-- A raw row of a query: what is selected, under the alias and the name of
its column. -/
abbrev RawRow := List (String × Id)

/-- `select('alias.column').distinct(true)...getRawMany()`. -/
def getRawMany (aliasName column : String) (values : List Id) : List RawRow :=
  values.dedup.map fun value => [(aliasName ++ "_" ++ column, value)]

/-- `row.key`, which may be `undefined`. -/
def RawRow.get (row : RawRow) (key : String) : Option Id := row.lookup key

theorem getRawMany_get {aliasName column key : String}
    (other : key ≠ aliasName ++ "_" ++ column) (values : List Id) :
    (getRawMany aliasName column values).map (·.get key) =
      List.replicate values.dedup.length none := by
  simp_all [getRawMany, List.eq_replicate_iff, RawRow.get]

/-- A property of a `where` clause: `undefined` restricts nothing. -/
def restricts (condition : Option Id) (value : Id) : Bool := condition.all (· = value)

/-- `value NOT IN (...)`: a parameter that is `undefined` is sent as `NULL`,
and no comparison with `NULL` is true. -/
def notIn (value : Id) (parameters : List (Option Id)) : Bool :=
  parameters.all fun parameter => parameter.any (· ≠ value)

/-- The list of a `NOT IN`, which must not be empty. -/
def exclusion (ids : List Id) : Except HttpException (List Id) :=
  if ids = [] then .error (.error "syntax error at or near \")\"") else .ok ids

/-- `ORDER BY ... DESC`. -/
def descending {α β : Type} [LE β] [DecidableLE β] (column : α → β) (rows : List α) : List α :=
  rows.insertionSort fun row other => column other ≤ column row

theorem descending_perm {α β : Type} [LE β] [DecidableLE β] (column : α → β)
    (rows : List α) : (descending column rows).Perm rows := List.perm_insertionSort _ rows

namespace Database

/-- The listings that a query finds: those that are not deleted. -/
def found (db : Database) : List Listing :=
  db.listings.rows.filter fun listing => listing.deletedAt.isNone

def purchasesOf (db : Database) (userId : Id) : List PurchaseHistory :=
  db.purchaseHistory.rows.filter fun purchase => purchase.userId = userId

def viewsOf (db : Database) (userId : Id) : List BrowsingHistory :=
  db.browsingHistory.rows.filter fun view => view.userId = userId

end Database

/-- The pairs of two positions of a list, in the order of two nested loops. -/
def pairs {α : Type} : List α → List (α × α)
  | [] => []
  | head :: tail => tail.map (head, ·) ++ pairs tail

/-! ### Frequently bought together -/

structure Item where
  listingId : Id
  quantity : ℤ
  price : Amount
  currency : String

/-- The row is about the two listings, in one order or the other. -/
def FrequentlyBoughtTogether.isOf (row : FrequentlyBoughtTogether) (itemA itemB : Id) : Bool :=
  row.listingIdA = itemA ∧ row.listingIdB = itemB ∨ row.listingIdA = itemB ∧ row.listingIdB = itemA

/-- The confidence that is recalculated once the count has been raised. -/
def recalculated (confidence : Amount) (purchaseCount : ℕ) : Number :=
  let product :=
    ((scoreNumber 2 confidence).mul (.finite (purchaseCount - 1))).double
  let sum := (product.add (.finite 1)).double
  let average := (sum.div (.finite purchaseCount)).double
  (parseFloatText (average.toFixed 2).toList).double

/-- The row is kept if its columns take it. -/
def saveTogether (row : FrequentlyBoughtTogether) (confidence : Number) :
    Recommendations Unit := do
  match scoreColumn 2 confidence, intColumn row.purchaseCount with
  | some kept, some _ =>
    modify fun db =>
      { db with
        frequentlyBoughtTogether :=
          db.frequentlyBoughtTogether.save { row with confidence := kept } }
  | _, _ => throw columnError

def boughtTogether (itemA itemB : Id) : Recommendations Unit := do
  let db ← get
  match db.frequentlyBoughtTogether.rows.find? (·.isOf itemA itemB) with
  | some existing =>
    let purchaseCount := existing.purchaseCount + 1
    saveTogether { existing with purchaseCount } (recalculated existing.confidence purchaseCount)
  | none =>
    saveTogether
      { id := db.frequentlyBoughtTogether.next
        listingIdA := itemA
        listingIdB := itemB
        purchaseCount := 1 } (.finite (1 / 2))

def updateFrequentlyBoughtTogether (items : List Item) :
    Recommendations Unit := do
  if items.length < 2 then return
  (pairs (items.map Item.listingId)).forM fun (itemA, itemB) => boughtTogether itemA itemB

/-! ### Purchases -/

def savePurchase (now : Date) (userId orderId : Id) (item : Item) :
    Recommendations Unit := do
  match intColumn item.quantity, decimalColumn item.price, varcharColumn 3 item.currency with
  | some quantity, some price, some currency =>
    modify fun db =>
      { db with
        purchaseHistory := db.purchaseHistory.insert fun id =>
          { id
            userId
            orderId
            listingId := item.listingId
            quantity
            price
            currency
            purchasedAt := now } }
  | _, _, _ => throw columnError

def markPurchased (userId listingId : Id) : Recommendations Unit := do
  let db ← get
  match db.browsingHistory.rows.find? fun view =>
      view.userId = userId ∧ view.listingId = listingId with
  | some recentView =>
    modify fun db =>
      { db with
        browsingHistory :=
          db.browsingHistory.save { recentView with purchased := true } }
  | none => pure ()

def recordPurchase (now : Date) (userId orderId : Id) (items : List Item) :
    Recommendations Unit := do
  items.forM fun item => do
    savePurchase now userId orderId item
    markPurchased userId item.listingId
  updateFrequentlyBoughtTogether items

/-! ### Similar users -/

/-- The row meets the restriction to two users, in one order or the other. -/
def UserSimilarity.isOf (row : UserSimilarity) (userA userB : Option Id) :
    Bool := restricts userA row.userIdA && restricts userB row.userIdB ||
    restricts userB row.userIdA && restricts userA row.userIdB

/-- The listings of the purchases that meet the restriction to a user. -/
def Database.itemsOf (db : Database) (user : Option Id) : List Id :=
  ((db.purchaseHistory.rows.filter fun purchase =>
    restricts user purchase.userId).map PurchaseHistory.listingId).dedup

def saveSimilarity (row : UserSimilarity) (similarity : Number) :
    Recommendations Unit := do
  match scoreColumn 4 similarity with
  | some similarityScore =>
    modify fun db =>
      { db with
        userSimilarity :=
          db.userSimilarity.save { row with similarityScore } }
  | none => throw columnError

def compareUsers (userA userB : Option Id) : Recommendations Unit := do
  let db ← get
  let itemsA := db.itemsOf userA
  let itemsB := db.itemsOf userB
  let commonPurchases := (itemsA.filter (· ∈ itemsB)).length
  if 0 < commonPurchases then
    let unionSize := (itemsA ++ itemsB).dedup.length
    let similarity :=
      ((Number.finite commonPurchases).div (.finite unionSize)).double
    match db.userSimilarity.rows.find? (·.isOf userA userB) with
    | some existing => saveSimilarity { existing with commonPurchases } similarity
    | none =>
      match userA, userB with
      | some userIdA, some userIdB =>
        saveSimilarity
          { id := db.userSimilarity.next
            userIdA
            userIdB
            commonPurchases } similarity
      -- what is `undefined` is left out, and the columns are not nullable
      | _, _ => throw columnError

def calculateUserSimilarity : Recommendations Unit := do
  let db ← get
  let users := getRawMany "ph" "userId" (db.purchaseHistory.rows.map PurchaseHistory.userId)
  let userIds := users.map (·.get "userId")
  (pairs userIds).forM fun (userA, userB) => compareUsers userA userB

/-! ### Collaborative filtering -/

/-- A score: a number, or the text of a column or of a concatenation. -/
inductive Score where
  | number (value : Number)
  | text (digits : String)

namespace Score

def toNumber : Score → Number
  | .number value => value
  | .text digits => numberOf digits

def toText : Score → String
  | .number value => value.toText
  | .text digits => digits

/-- `score + other`, which concatenates as soon as one of them is a text. -/
def add : Score → Score → Score
  | .number value, .number other => .number (value.add other)
  | score, other => .text (score.toText ++ other.toText)

end Score

/-- `sort((a, b) => b.score - a.score)`, which is stable. -/
def byScore {α : Type} (score : α → Score) (list : List α) : List α := list.insertionSort fun a b =>
    ¬ Number.lt (.finite 0) ((score b).toNumber.sub (score a).toNumber)

namespace Database

variable (db : Database) (userId : Id) (limit : ℕ)

def similarUsers : List UserSimilarity :=
  (descending UserSimilarity.similarityScore (db.userSimilarity.rows.filter fun row =>
      row.userIdA = userId ∨ row.userIdB = userId)).take 10

/-- The user of the row who is not the one that is asked for. -/
def other (row : UserSimilarity) : Id :=
  if row.userIdA = userId then row.userIdB else row.userIdA

/-- The purchases of similar users: the query takes the first ones of the
rows that are joined, and loads the purchases of these. -/
def similarPurchases : List PurchaseHistory :=
  let similarUserIds := (db.similarUsers userId).map (other userId)
  let userPurchased := getRawMany "ph" "listingId"
    ((db.purchasesOf userId).map PurchaseHistory.listingId)
  let userPurchasedIds := userPurchased.map (·.get "listingId")
  let joined := db.purchaseHistory.rows.flatMap fun purchase =>
    (db.userSimilarity.rows.filter fun row =>
      row.userIdA = purchase.userId ∧ row.userIdB = userId ∨
        row.userIdB = purchase.userId ∧ row.userIdA = userId).map fun row =>
      (purchase, row.similarityScore)
  let chosen := joined.filter fun (purchase, _) =>
    purchase.userId ∈ similarUserIds && (if 0 < userPurchasedIds.length then
        notIn purchase.listingId userPurchasedIds
      else true)
  let ordered := descending Prod.snd (descending (fun row => row.1.purchasedAt) chosen.dedup)
  ((ordered.take (limit * 2)).map Prod.fst).dedup

end Database

/-- The listings that similar users have bought, with a score. -/
def getCollaborativeRecommendations (db : Database) (userId : Id)
    (limit : ℕ) : List (Listing × Score) :=
  let similarUsers := db.similarUsers userId
  if similarUsers.length = 0 then []
  else
    let similarPurchases := db.similarPurchases userId limit
    let listingIds := (similarPurchases.map PurchaseHistory.listingId).dedup
    if listingIds.length = 0 then []
    else
      let listings := db.found.filter fun listing => listing.id ∈ listingIds && listing.isActive
      let listingsWithScore := listings.map fun listing =>
        let purchase := similarPurchases.find? (·.listingId = listing.id)
        let similarity := similarUsers.find? fun row =>
          some row.userIdA = purchase.map PurchaseHistory.userId ∨
            some row.userIdB = purchase.map PurchaseHistory.userId
        (listing, match similarity with
          | some row => .text ((Number.finite row.similarityScore).toFixed 4)
          | none => .number (.finite 0))
      byScore Prod.snd listingsWithScore

/-! ### Personalized recommendations -/

namespace Database

variable (db : Database) (userId : Id) (limit : ℕ)

def browsedListings : List BrowsingHistory :=
  (descending BrowsingHistory.viewedAt (db.viewsOf userId)).take 20

def purchasedListings : List PurchaseHistory :=
  (descending PurchaseHistory.purchasedAt (db.purchasesOf userId)).take 20

def browsedIds : List Id :=
  (db.browsedListings userId).map BrowsingHistory.listingId

def purchasedIds : List Id :=
  (db.purchasedListings userId).map PurchaseHistory.listingId

def allRelevantIds : List Id :=
  (db.browsedIds userId ++ db.purchasedIds userId).dedup

/-- The category of the listing that was viewed, unless there is none. -/
def viewedCategory (view : BrowsingHistory) : Option String := do
  let listing ← db.found.find? fun listing => listing.id = view.listingId
  let category ← listing.category
  if category = "" then none else some category

def categoryScores : OrderedMap String ℕ :=
  (db.browsedListings userId).foldl (fun scores view =>
    match db.viewedCategory view with
    | some category =>
      scores.set category ((scores.get category).getD 0 + if view.purchased then 3 else 1)
    | none => scores) .empty

/-- The score of a listing's category. -/
def categoryScore (listing : Listing) : ℕ :=
  (listing.category.bind (db.categoryScores userId).get).getD 0

/-- `listing.category IN (...)`. -/
def inCategories (listing : Listing) : Bool :=
  (listing.category.bind (db.categoryScores userId).get).isSome

/-- The listings the query for similar categories is about. -/
def isCandidate (listing : Listing) : Bool :=
  db.inCategories userId listing && listing.id ∉ db.allRelevantIds userId && listing.isActive

def contentBasedRecommendations : List Listing :=
  if 0 < (db.allRelevantIds userId).length ∧ 0 < (db.categoryScores userId).size then
    (descending Listing.createdAt (db.found.filter (db.isCandidate userId))).take (limit * 2)
  else []

/-- The score of a listing of a similar category. -/
def contentScore (listing : Listing) : Score :=
  let isPurchased := listing.id ∈ db.purchasedIds userId
  let isBrowsed := listing.id ∈ db.browsedIds userId
  let score := db.categoryScore userId listing
  let score := if ¬ isPurchased ∧ ¬ isBrowsed then score + 1 else score
  let score := if ¬ isPurchased then score + 2 else score
  .number (.finite score)

def contentMap : OrderedMap Id (Listing × Score) :=
  (db.contentBasedRecommendations userId limit).foldl (fun map listing =>
    map.set listing.id (listing, db.contentScore userId listing)) .empty

/-- A collaborative recommendation adds to the score of a listing that is
there already. -/
def addCollaborative (map : OrderedMap Id (Listing × Score))
    (rec : Listing × Score) : OrderedMap Id (Listing × Score) :=
  match map.get rec.1.id with
  | some existing => map.set rec.1.id (existing.1, existing.2.add rec.2)
  | none => map.set rec.1.id rec

def recommendationMap : OrderedMap Id (Listing × Score) :=
  (getCollaborativeRecommendations db userId limit).foldl addCollaborative
    (db.contentMap userId limit)

def ranked : List Listing :=
  ((byScore Prod.snd ((db.recommendationMap userId limit).entries.map
    Prod.snd)).take limit).map Prod.fst

end Database

def generatePersonalizedRecommendations (db : Database) (userId : Id)
    (limit : ℕ) : Except HttpException (List Listing) := do
  let ranked := db.ranked userId limit
  if ranked.length < limit then
    let exclude ← exclusion (db.purchasedIds userId ++ ranked.map Listing.id).dedup
    let popular := (descending Listing.views (db.found.filter fun listing =>
      listing.id ∉ exclude && listing.isActive)).take (limit - ranked.length)
    return ranked ++ popular
  return ranked

end MarketX.Recommendation
