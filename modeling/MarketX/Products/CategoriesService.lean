/-
Module: MarketX.Products.CategoriesService
Purpose: The tree of the categories (`categories/categories.service.ts`): the
  check of a move, the descendants of a category, and the nested tree that is
  built from the rows.
Trusted boundary: human-reviewed model of the source; the rows that a method
  loads, at once or one by one, are those of one table
Main exports: Category, assertNoCycle, moves_checked, getTree_nested
-/
import MarketX.Caching.OrderedMap
import MarketX.Common.Service
import MarketX.Effects.Forests
import MarketX.Effects.Runs

namespace MarketX.Categories

open Caching Effects Relation

structure Category where
  id : Id
  name : String
  description : Option String := none
  icon : Option String := none
  isActive : Bool := true
  parentId : Option Id := none
  createdAt : Date := 0
  updatedAt : Date := 0
deriving DecidableEq

/-! ### The check of a move -/

/-- Where the walk up the ancestor chain is, and has been. -/
structure Climb where
  currentId : Option Id
  visited : List Id

def climbTurn (rows : List Category) (categoryId : Id) (climb : Climb) :
    Climb ⊕ Except HttpException Unit :=
  match climb.currentId with
  | none => .inr (.ok ())
  | some currentId =>
    if currentId ∈ climb.visited then
      .inr (.error (.badRequest "Category tree is corrupted (cycle detected)."))
    else if currentId = categoryId then
      .inr (.error (.badRequest "Circular category relationship is not allowed."))
    else
      match rows.find? fun row => row.id = currentId with
      | none => .inr (.error (.badRequest "Invalid parent reference detected."))
      | some node => .inl
          { currentId := node.parentId
            visited := currentId :: climb.visited }

/-- `turns` bounds the loop. -/
def assertNoCycle (rows : List Category) (turns : ℕ) (categoryId : Id)
    (newParentId : Option Id) : Option (Except HttpException Unit) :=
  match newParentId with
  | none => some (.ok ())
  | some newParentId =>
    if newParentId = categoryId then
      some (.error (.badRequest "A category cannot be its own parent."))
    else
      loop (climbTurn rows categoryId) turns { currentId := newParentId, visited := [] }

/-! ### Descendants -/

def childrenByParent (categories : List Category) : OrderedMap Id (List Id) := categories.foldl
    (fun map c =>
      match c.parentId with
      | none => map
      | some pid => map.set pid ((map.get pid).getD [] ++ [c.id]))
    .empty

/-- The stack, its top first, and what has been seen and is returned. -/
structure Walk where
  stack : List Id
  seen : List Id := []
  result : List Id := []

def walkTurn (childrenByParent : OrderedMap Id (List Id)) (walk : Walk) :
    Walk ⊕ List Id :=
  match walk.stack with
  | [] => .inr walk.result
  | id :: stack =>
    if id ∈ walk.seen then .inl { walk with stack }
    else
      let kids := (childrenByParent.get id).getD []
      .inl
        { stack := kids.reverse ++ stack
          seen := id :: walk.seen
          result := walk.result ++ [id] }

def getDescendantCategoryIds (rows : List Category) (turns : ℕ)
    (categoryId : Id) : Option (List Id) :=
  loop (walkTurn (childrenByParent rows)) turns { stack := [categoryId] }

/-! ### The nested tree -/

abbrev CategoryNode := Effects.Tree Category

/-- A node while the tree is linked: the nodes under it are told by their
ids. -/
structure Entry where
  category : Category
  children : List Id := []

/-- The nodes, and which are returned. -/
structure Built where
  byId : OrderedMap Id Entry
  roots : List Id

def initialNodes (categories : List Category) : OrderedMap Id Entry :=
  categories.foldl (fun byId c => byId.set c.id { category := c }) .empty

/-- A node is pushed to the children of its parent.  One whose parent is not
among the nodes is treated as a root. -/
def attach (built : Built) (node : Category) : Built :=
  match node.parentId with
  | none => { built with roots := built.roots ++ [node.id] }
  | some parentId =>
    match built.byId.get parentId with
    | none => { built with roots := built.roots ++ [node.id] }
    | some parent =>
      { built with
        byId := built.byId.set parentId
          { parent with children := parent.children ++ [node.id] } }

def buildTree (categories : List Category) : Built :=
  let byId := initialNodes categories
  (byId.entries.map fun entry => entry.2.category).foldl attach { byId, roots := [] }

/-- The categories as they are found in the order of their names. -/
def getTree (found : List Category) : Built := buildTree found

/-- The nested node that an entry stands for, down to so many levels. -/
def readNode (byId : OrderedMap Id Entry) : ℕ → Id → Option CategoryNode
  | 0, _ => none
  | levels + 1, id => do
      let entry ← byId.get id
      let children ← entry.children.mapM (readNode byId levels)
      pure (.node entry.category children)

/-- The nested nodes that are returned. -/
def Built.read (built : Built) (levels : ℕ) : Option (List CategoryNode) :=
  built.roots.mapM (readNode built.byId levels)

/-! ### Parents -/

/-- A category refers to another one as its parent. -/
def Child (rows : List Category) (id parentId : Id) : Prop :=
  ∃ row ∈ rows, row.id = id ∧ row.parentId = some parentId

/-- Distinct ids, parents that exist, and no cycle. -/
structure WellFormed (rows : List Category) : Prop where
  distinct : (rows.map Category.id).Nodup
  parents : ∀ row ∈ rows, ∀ parentId ∈ row.parentId, parentId ∈ rows.map Category.id
  acyclic : Acyclic (Child rows)

/-- The table after a category has been moved. -/
def moved (rows : List Category) (categoryId : Id) (newParentId : Option Id) :
    List Category := rows.map fun row =>
    if row.id = categoryId then { row with parentId := newParentId } else row

/-! ### Both loops end -/

section

variable {rows : List Category} {categoryId : Id}

/-- The rows of which the climb has not been to. -/
def unvisited (rows : List Category) (climb : Climb) : ℕ :=
  rows.countP fun row => row.id ∉ climb.visited

theorem unvisited_lt {climb next : Climb} (goes : climbTurn rows categoryId climb = .inl next) :
    unvisited rows next < unvisited rows climb := by
  unfold climbTurn at goes
  split at goes
  next => cases goes
  next currentId _ =>
    split at goes
    next => cases goes
    next new =>
      split at goes
      next => cases goes
      next =>
        split at goes
        next => cases goes
        next node found =>
          cases goes
          have member := List.mem_of_find?_eq_some found
          have same : node.id = currentId := by simpa using List.find?_some found
          refine countP_lt (fun row _ apart => ?_) member
            (decide_eq_false (not_not_intro ?_)) (decide_eq_true ?_)
          · simp_all
          · rw [same]
            exact List.mem_cons_self
          · rw [same]
            exact new

variable (rows categoryId) in
theorem assertNoCycle_ends (newParentId : Option Id) {turns : ℕ} (enough : rows.length < turns) :
    ∃ verdict, assertNoCycle rows turns categoryId newParentId =
      some verdict := by
  unfold assertNoCycle
  split
  next => exact ⟨_, rfl⟩
  next =>
    split
    next => exact ⟨_, rfl⟩
    next =>
      refine loop_of_measure (unvisited rows) (fun _ _ => unvisited_lt) ?_
      exact (List.countP_le_length).trans_lt enough

/-- The children of a category, in the order of the rows. -/
def childIds (rows : List Category) (parentId : Id) : List Id :=
  (rows.filter fun row => row.parentId = some parentId).map Category.id

theorem mem_childIds {id parentId : Id} :
    id ∈ childIds rows parentId ↔ Child rows id parentId := by grind [childIds, Child]

theorem childrenByParent_get (parentId : Id) :
    ((childrenByParent rows).get parentId).getD [] =
      childIds rows parentId := by
  have grown : ∀ (rows : List Category) (map : OrderedMap Id (List Id)), ((rows.foldl (fun map c =>
        match c.parentId with
        | none => map
        | some pid => map.set pid ((map.get pid).getD [] ++ [c.id])) map).get parentId).getD [] =
        (map.get parentId).getD [] ++ childIds rows parentId := by
    intro rows
    induction rows with
    | nil => exact fun map => (List.append_nil _).symm
    | cons row rows ih =>
      intro map
      rw [List.foldl_cons, ih]
      unfold childIds
      cases under : row.parentId with
      | none => rw [List.filter_cons_of_neg (by simp [under])]
      | some pid => by_cases same : pid = parentId <;> simp_all [OrderedMap.get_set_of_ne, Ne.symm]
  exact grown rows .empty

theorem assertNoCycle_le {newParentId : Option Id} {turns more : ℕ}
    {verdict : Except HttpException Unit}
    (ends : assertNoCycle rows turns categoryId newParentId = some verdict) (le : turns ≤ more) :
    assertNoCycle rows more categoryId newParentId = some verdict := by
  unfold assertNoCycle at ends ⊢
  split at ends
  next => exact ends
  next =>
    split at ends
    next self =>
      rw [if_pos self]
      exact ends
    next other =>
      rw [if_neg other]
      exact loop_le ends le

/-- What is on the stack, and the rows below what has not been seen. -/
def pending (rows : List Category) (walk : Walk) : ℕ := walk.stack.length +
    rows.countP fun row => row.parentId.any (· ∉ walk.seen)

theorem countP_unseen (rows : List Category) {seen : List Id} {id : Id} (new : id ∉ seen) :
    (rows.countP fun row => row.parentId.any (· ∉ seen)) =
      (rows.countP fun row => row.parentId.any (· ∉ id :: seen)) + (childIds rows id).length := by
  unfold childIds
  rw [List.length_map, ← List.countP_eq_length_filter]
  induction rows with
  | nil => rfl
  | cons row rows ih =>
    rw [List.countP_cons, List.countP_cons, List.countP_cons, ih]
    cases row.parentId <;> grind

theorem pending_lt {walk next : Walk} (goes : walkTurn (childrenByParent rows) walk = .inl next) :
    pending rows next < pending rows walk := by
  unfold walkTurn at goes
  unfold pending
  split at goes
  next => cases goes
  next id stack top =>
    rw [top, List.length_cons]
    split at goes
    next =>
      cases goes
      dsimp only
      omega
    next new =>
      cases goes
      grind [countP_unseen, childrenByParent_get]

variable (rows categoryId) in
theorem getDescendantCategoryIds_ends {turns : ℕ} (enough : rows.length + 1 < turns) :
    ∃ ids, getDescendantCategoryIds rows turns categoryId = some ids := by
  refine loop_of_measure (pending rows) (fun _ _ => pending_lt) ?_
  have bounded : pending rows { stack := [categoryId] } ≤ 1 + rows.length :=
    Nat.add_le_add_left List.countP_le_length 1
  omega

end

/-! ### What the loops find -/

section

variable {rows : List Category} {categoryId : Id}

theorem eq_of_id_eq (distinct : (rows.map Category.id).Nodup)
    {row other : Category} (member : row ∈ rows) (also : other ∈ rows)
    (same : row.id = other.id) : row = other := List.inj_on_of_nodup_map distinct member also same

/-- The walk up from a category: it has been to what is above, but not to the
category that is moved, and what is left is above where it is. -/
structure Climbing (rows : List Category) (categoryId start : Id)
    (climb : Climb) : Prop where
  avoided : ∀ id ∈ climb.visited, id ≠ categoryId
  behind : ∀ id ∈ climb.visited, ∀ currentId ∈ climb.currentId, TransGen (Child rows) id currentId
  listed : ∀ currentId ∈ climb.currentId, currentId ∈ rows.map Category.id
  reached : ∀ currentId ∈ climb.currentId, ReflTransGen (Child rows) start currentId
  covered : ∀ id, ReflTransGen (Child rows) start id →
    id ∈ climb.visited ∨ ∃ currentId ∈ climb.currentId, ReflTransGen (Child rows) currentId id

variable {start : Id} {climb : Climb} {turns : ℕ} {newParentId : Option Id} {walk : Walk}
  {ids : List Id}

theorem Climbing.next (wellFormed : WellFormed rows)
    {next : Climb} (climbing : Climbing rows categoryId start climb)
    (goes : climbTurn rows categoryId climb = .inl next) :
    Climbing rows categoryId start next := by
  unfold climbTurn at goes
  split at goes
  next => cases goes
  next currentId here =>
    split at goes
    next => cases goes
    next new =>
      split at goes
      next => cases goes
      next other =>
        split at goes
        next => cases goes
        next node found =>
          cases goes
          have member := List.mem_of_find?_eq_some found
          have same : node.id = currentId := by simpa using List.find?_some found
          have step : ∀ parentId ∈ node.parentId,
              Child rows currentId parentId := fun parentId under =>
            ⟨node, member, same, under⟩
          refine ⟨?_, ?_, ?_, ?_, ?_⟩
          · exact List.forall_mem_cons.mpr ⟨other, climbing.avoided⟩
          · intro id before parentId under
            rcases List.mem_cons.mp before with rfl | before
            · exact .single (step parentId under)
            · exact (climbing.behind id before currentId here).tail (step parentId under)
          · exact fun parentId => wellFormed.parents node member parentId
          · exact fun parentId under =>
              (climbing.reached currentId here).tail (step parentId under)
          · intro id above
            rcases climbing.covered id above with before | ⟨_, current, leads⟩
            · exact .inl (List.mem_cons_of_mem _ before)
            · rw [here] at current
              cases current
              rcases ReflTransGen.cases_head leads with rfl | ⟨parent, up, on⟩
              · exact .inl List.mem_cons_self
              · obtain ⟨row, inside, this, under⟩ := up
                rw [eq_of_id_eq wellFormed.distinct inside member (this.trans same.symm)] at under
                exact .inr ⟨parent, under, on⟩

theorem Climbing.verdict (wellFormed : WellFormed rows) {verdict : Except HttpException Unit}
    (climbing : Climbing rows categoryId start climb)
    (ends : climbTurn rows categoryId climb = .inr verdict) :
    verdict = .ok () ↔ ¬ ReflTransGen (Child rows) start categoryId := by
  unfold climbTurn at ends
  split at ends
  next top =>
    cases ends
    refine iff_of_true rfl fun leads => ?_
    rcases climbing.covered categoryId leads with before | ⟨_, current, -⟩
    · exact climbing.avoided categoryId before rfl
    · rw [top] at current
      cases current
  next currentId here =>
    split at ends
    next again =>
      exact absurd (climbing.behind currentId again currentId here) (wellFormed.acyclic currentId)
    next =>
      split at ends
      next same =>
        cases ends
        rw [← same]
        exact iff_of_false nofun (not_not_intro (climbing.reached currentId here))
      next =>
        split at ends
        next missing =>
          obtain ⟨row, member, same⟩ := List.mem_map.mp (climbing.listed currentId here)
          simp_all
        next => cases ends

theorem assertNoCycle_iff (wellFormed : WellFormed rows) {verdict : Except HttpException Unit}
    (candidate : ∀ parentId ∈ newParentId, parentId ∈ rows.map Category.id)
    (ends : assertNoCycle rows turns categoryId newParentId = some verdict) :
    verdict = .ok () ↔ ∀ parentId ∈ newParentId,
      ¬ ReflTransGen (Child rows) parentId categoryId := by
  unfold assertNoCycle at ends
  split at ends
  next =>
    cases ends
    exact iff_of_true rfl nofun
  next parentId =>
    have only : (∀ other ∈ some parentId, ¬ ReflTransGen (Child rows) other categoryId) ↔
          ¬ ReflTransGen (Child rows) parentId categoryId := by simp
    rw [only]
    split at ends
    next same => grind
    next =>
      have initially : Climbing rows categoryId parentId
          { currentId := parentId, visited := [] } := by
        refine ⟨nofun, nofun, candidate, ?_, ?_⟩
        · rintro _ ⟨⟩
          exact .refl
        · exact fun id leads => .inr ⟨parentId, rfl, leads⟩
      exact loop_invariant (fun _ _ climbing goes => Climbing.next wellFormed climbing goes)
        (fun _ _ climbing stops => Climbing.verdict wellFormed climbing stops) initially ends

/-- The walk down: what it has seen and what is left lead to the category, and
what leads to what it has seen is one or the other. -/
structure Walking (rows : List Category) (categoryId : Id) (walk : Walk) :
    Prop where
  distinct : walk.result.Nodup
  listed : ∀ id, id ∈ walk.result ↔ id ∈ walk.seen
  below : ∀ id, id ∈ walk.seen ∨ id ∈ walk.stack → ReflTransGen (Child rows) id categoryId
  closed : ∀ id ∈ walk.seen, ∀ kid, Child rows kid id → kid ∈ walk.seen ∨ kid ∈ walk.stack
  started : categoryId ∈ walk.seen ∨ categoryId ∈ walk.stack

theorem Walking.next {next : Walk} (walking : Walking rows categoryId walk)
    (goes : walkTurn (childrenByParent rows) walk = .inl next) :
    Walking rows categoryId next := by
  unfold walkTurn at goes
  split at goes
  next => cases goes
  next id stack top =>
    -- What has been seen or is on the stack is so when its top is seen.
    have found : ∀ {other}, other ∈ walk.seen ∨ other ∈ walk.stack →
        other ∈ id :: walk.seen ∨ other ∈ stack := by grind
    split at goes
    next seen =>
      cases goes
      have found : ∀ {other}, other ∈ walk.seen ∨ other ∈ walk.stack →
          other ∈ walk.seen ∨ other ∈ stack := by grind
      refine ⟨walking.distinct, walking.listed, fun other known => ?_,
        fun parent before kid under => ?_, ?_⟩
      · refine walking.below other (known.imp_right fun left => ?_)
        rw [top]
        exact List.mem_cons_of_mem _ left
      · exact found (walking.closed parent before kid under)
      · exact found walking.started
    next new =>
      cases goes
      rw [childrenByParent_get]
      have here : ReflTransGen (Child rows) id categoryId :=
        walking.below id (.inr (by rw [top]; exact List.mem_cons_self))
      refine ⟨?_, fun other => ?_, fun other known => ?_, fun parent before kid under => ?_, ?_⟩
      · refine walking.distinct.append (List.nodup_singleton id) ?_
        intro other listed same
        grind [listed]
      · rw [List.mem_append, List.mem_singleton, List.mem_cons, walking.listed, or_comm]
      · rcases known with before | left
        · rcases List.mem_cons.mp before with rfl | before
          · exact here
          · exact walking.below other (.inl before)
        · rcases List.mem_append.mp left with kid | left
          · exact .head (mem_childIds.mp (List.mem_reverse.mp kid)) here
          · refine walking.below other (.inr ?_)
            rw [top]
            exact List.mem_cons_of_mem _ left
      · rcases List.mem_cons.mp before with rfl | before
        · exact .inr (List.mem_append_left _ (List.mem_reverse.mpr (mem_childIds.mpr under)))
        · exact (found (walking.closed parent before kid under)).imp_right
            (List.mem_append_right (childIds rows id).reverse)
      · exact (found walking.started).imp_right (List.mem_append_right (childIds rows id).reverse)

theorem Walking.complete (walking : Walking rows categoryId walk)
    (ends : walkTurn (childrenByParent rows) walk = .inr ids) :
    ids.Nodup ∧ ∀ id, id ∈ ids ↔ ReflTransGen (Child rows) id categoryId := by
  unfold walkTurn at ends
  split at ends
  next top =>
    cases ends
    have off : ∀ {id}, id ∈ walk.seen ∨ id ∈ walk.stack → id ∈ walk.seen := by simp_all
    refine ⟨walking.distinct, fun id => ⟨fun listed => ?_, fun leads => ?_⟩⟩
    · exact walking.below id (.inl ((walking.listed id).mp listed))
    · rw [walking.listed]
      induction leads using ReflTransGen.head_induction_on with
      | refl => exact off walking.started
      | head under _ seen => exact off (walking.closed _ seen _ under)
  next =>
    split at ends <;> cases ends

theorem getDescendantCategoryIds_eq
    (ends : getDescendantCategoryIds rows turns categoryId = some ids) :
    ids.Nodup ∧ ∀ id, id ∈ ids ↔ ReflTransGen (Child rows) id categoryId := by
  have initially : Walking rows categoryId { stack := [categoryId] } := by
    refine ⟨List.nodup_nil, fun _ => Iff.rfl, ?_, nofun, .inr List.mem_cons_self⟩
    grind
  exact loop_invariant (fun _ _ walking goes => Walking.next walking goes)
    (fun _ _ walking stops => Walking.complete walking stops) initially ends

theorem child_moved (listed : categoryId ∈ rows.map Category.id) {id parentId : Id} :
    Child (moved rows categoryId newParentId) id parentId ↔
      Redirect (Child rows) categoryId (· ∈ newParentId) id parentId := by
  unfold Child moved Redirect
  simp only [List.mem_map, exists_exists_and_eq_and]
  constructor
  · grind
  · rintro (⟨rfl, under⟩ | ⟨other, row, member, rfl, under⟩)
    · obtain ⟨row, member, here⟩ := List.mem_map.mp listed
      exact ⟨row, member, by rw [if_pos here]; exact here, by rw [if_pos here]; exact under⟩
    · grind

/-- What a move is checked for. -/
structure Checked (rows : List Category) (categoryId : Id)
    (newParentId : Option Id) (verdict : Except HttpException Unit)
    (descendants : List Id) : Prop where
  passes_iff : verdict = .ok () ↔ newParentId = none ∨ ∃ parentId, newParentId = some parentId ∧
      parentId ∉ descendants
  once : descendants.Nodup
  descends : ∀ id, id ∈ descendants ↔ id = categoryId ∨ TransGen (Child rows) id categoryId
  acyclic : verdict = .ok () → Acyclic (Child (moved rows categoryId newParentId))

/-- On any table both loops end; and on a well-formed one a move passes the
check where the new parent is none or no descendant, and then makes no
cycle. -/
theorem moves_checked (rows : List Category) (categoryId : Id) (newParentId : Option Id) :
    ∃ turns verdict descendants, (∀ more, turns ≤ more →
        assertNoCycle rows more categoryId newParentId = some verdict ∧
        getDescendantCategoryIds rows more categoryId = some descendants) ∧
      (WellFormed rows → categoryId ∈ rows.map Category.id →
        (∀ parentId ∈ newParentId, parentId ∈ rows.map Category.id) →
        Checked rows categoryId newParentId verdict descendants) := by
  obtain ⟨verdict, checked⟩ := assertNoCycle_ends rows categoryId newParentId
      (Nat.lt_succ_self rows.length)
  obtain ⟨descendants, walked⟩ := getDescendantCategoryIds_ends rows categoryId
      (Nat.lt_succ_self (rows.length + 1))
  obtain ⟨once, descends⟩ := getDescendantCategoryIds_eq walked
  refine ⟨rows.length + 2, verdict, descendants, fun more enough =>
    ⟨assertNoCycle_le checked (by omega), loop_le walked enough⟩,
    fun wellFormed listed candidate => ?_⟩
  have passes := assertNoCycle_iff wellFormed candidate checked
  refine ⟨?_, once, fun id => ?_, fun passed => ?_⟩
  · rw [passes]
    cases newParentId with
    | none => simp
    | some parentId => simp [descends]
  · rw [descends, reflTransGen_iff_eq_or_transGen, eq_comm]
  · have apart := passes.mp passed
    have redirected : Child (moved rows categoryId newParentId) =
        Redirect (Child rows) categoryId (· ∈ newParentId) := by
      funext id parentId
      exact propext (child_moved listed)
    rw [redirected]
    exact wellFormed.acyclic.redirect apart

/-- Phones, which are listed first, under electronics. -/
def shelf : List Category := [{ id := 2, name := "Phones", parentId := some 1 },
    { id := 1, name := "Electronics" }]

theorem shelf_wellFormed : WellFormed shelf where
  distinct := by decide
  parents := by decide
  acyclic := by
    refine acyclic_of_lt (fun id => id) ?_
    rintro _ parentId ⟨row, member, rfl, under⟩
    grind [shelf]

/-- Electronics cannot be moved under phones. -/
theorem shelf_moves_checked : ∃ turns verdict descendants, (∀ more, turns ≤ more →
      assertNoCycle shelf more 1 (some 2) = some verdict ∧
      getDescendantCategoryIds shelf more 1 = some descendants) ∧
    Checked shelf 1 (some 2) verdict descendants := by
  obtain ⟨turns, verdict, descendants, ends, checked⟩ := moves_checked shelf 1 (some 2)
  exact ⟨turns, verdict, descendants, ends, checked shelf_wellFormed (by decide) (by decide)⟩

end

/-! ### What is built -/

section

variable (categories : List Category)

/-- The parent is null or missing. -/
def isRoot (category : Category) : Bool := category.parentId.all (· ∉ categories.map Category.id)

/-- The categories with another one as their parent, in order. -/
def childrenOf (category : Category) : List Category :=
  categories.filter fun child => child.parentId = some category.id

/-- A forest that nests the categories. -/
structure Nested (forest : List CategoryNode) : Prop where
  perm : (forest.flatMap Tree.preorder).Perm categories
  roots : forest.map Tree.value = categories.filter (isRoot categories)
  children : ∀ tree ∈ forest, ∀ node ∈ tree.subtrees,
    node.children.map Tree.value = childrenOf categories node.value

/-- What is below a category, if it is one of the list. -/
def belowIn (category : Category) : List Category :=
  if category ∈ categories then childrenOf categories category else []

variable {categories}

theorem mem_belowIn {child category : Category} :
    child ∈ belowIn categories category ↔ category ∈ categories ∧ child ∈ categories ∧
        child.parentId = some category.id := by simp [belowIn, childrenOf]

theorem rooted (distinct : (categories.map Category.id).Nodup)
    (acyclic : Acyclic (Child categories)) :
    Rooted categories (categories.filter (isRoot categories)) (belowIn categories) where
  acyclic := by
    intro x cycle
    refine acyclic x.id (TransGen.lift Category.id (fun a b step => ?_) x x
      (transGen_swap.mpr cycle))
    obtain ⟨-, member, under⟩ := mem_belowIn.mp step
    exact ⟨a, member, rfl, under⟩
  distinct := distinct.of_map Category.id
  rootsDistinct := (distinct.of_map Category.id).filter _
  belowDistinct x := by
    unfold belowIn
    split
    · exact (distinct.of_map Category.id).filter _
    · exact List.nodup_nil
  within _ _ step := (mem_belowIn.mp step).2.1
  rootsWithin _ member := (List.mem_filter.mp member).1
  one x other y first second := by
    obtain ⟨member, -, under⟩ := mem_belowIn.mp first
    obtain ⟨also, -, below⟩ := mem_belowIn.mp second
    exact eq_of_id_eq distinct member also (Option.some.inj (under.symm.trans below))
  top x y root step := by
    obtain ⟨member, -, under⟩ := mem_belowIn.mp step
    have missing := (List.mem_filter.mp root).2
    rw [isRoot, under] at missing
    exact of_decide_eq_true missing (List.mem_map_of_mem member)
  placed y member := by
    by_cases root : isRoot categories y = true
    · exact .inl (List.mem_filter.mpr ⟨member, root⟩)
    · cases under : y.parentId with
      | none =>
        rw [isRoot, under] at root
        exact absurd rfl root
      | some parentId =>
        rw [isRoot, under] at root
        have listed : parentId ∈ categories.map Category.id := by simpa using root
        obtain ⟨parent, inside, rfl⟩ := List.mem_map.mp listed
        exact .inr ⟨parent, inside, mem_belowIn.mpr ⟨inside, member, under⟩⟩

theorem entries_initialNodes (distinct : (categories.map Category.id).Nodup) :
    (initialNodes categories).entries = categories.map fun c => (c.id, { category := c }) := by
  have listed : ∀ (categories : List Category) (byId : OrderedMap Id Entry),
      (byId.entries.map Prod.fst ++ categories.map Category.id).Nodup →
        (categories.foldl (fun byId c => byId.set c.id { category := c }) byId).entries =
            byId.entries ++ categories.map fun c =>
              (c.id, { category := c }) := by
    intro categories
    induction categories with
    | nil => exact fun byId _ => (List.append_nil _).symm
    | cons c categories ih =>
      intro byId distinct
      have new : c.id ∉ byId.entries.map Prod.fst := fun before =>
        List.disjoint_of_nodup_append distinct before List.mem_cons_self
      simp_all [OrderedMap.entries_set_new]
  exact listed categories .empty distinct

/-- The nodes when some of them have been attached. -/
structure Linked (categories attached : List Category) (built : Built) :
    Prop where
  roots : built.roots = (attached.filter (isRoot categories)).map Category.id
  nodes : ∀ c ∈ categories, built.byId.get c.id =
    some { category := c, children := (childrenOf attached c).map Category.id }
  others : ∀ id, id ∉ categories.map Category.id → built.byId.get id = none

variable {node c : Category} {attached : List Category} {built : Built}

theorem childrenOf_append (attached : List Category) :
    childrenOf (attached ++ [node]) c = childrenOf attached c ++
      if node.parentId = some c.id then [node] else [] := by grind [childrenOf]

theorem Linked.root (linked : Linked categories attached built)
    (root : isRoot categories node = true) :
    Linked categories (attached ++ [node]) { built with roots := built.roots ++ [node.id] } := by
  refine ⟨?_, fun c member => ?_, linked.others⟩
  · rw [List.filter_append, List.map_append, ← linked.roots, List.filter_cons_of_pos root]
    rfl
  · rw [childrenOf_append, if_neg, List.append_nil]
    · exact linked.nodes c member
    · intro under
      rw [isRoot, under] at root
      exact of_decide_eq_true root (List.mem_map_of_mem member)

theorem Linked.attach (distinct : (categories.map Category.id).Nodup)
    (linked : Linked categories attached built) (node : Category) :
    Linked categories (attached ++ [node]) (Categories.attach built node) := by
  unfold Categories.attach
  cases under : node.parentId with
  | none => exact linked.root (by rw [isRoot, under]; rfl)
  | some parentId =>
    dsimp only
    by_cases listed : parentId ∈ categories.map Category.id
    · obtain ⟨parent, member, rfl⟩ := List.mem_map.mp listed
      rw [linked.nodes parent member]
      refine ⟨?_, fun c also => ?_, fun id unlisted => ?_⟩
      · have notRoot : ¬ isRoot categories node = true := by
          rw [isRoot, under]
          simpa using listed
        rw [List.filter_append, List.filter_cons_of_neg notRoot]
        simpa using linked.roots
      · rw [childrenOf_append, under]
        by_cases same : c.id = parent.id
        · rw [same, OrderedMap.get_set_self, eq_of_id_eq distinct also member same, if_pos rfl,
            List.map_append]
          rfl
        · rw [OrderedMap.get_set_of_ne same, if_neg (fun equal =>
            same (Option.some.inj equal).symm), List.append_nil]
          exact linked.nodes c also
      · rw [OrderedMap.get_set_of_ne (fun same : id = parent.id => unlisted (same ▸ listed))]
        exact linked.others id unlisted
    · rw [linked.others parentId listed]
      refine linked.root ?_
      rw [isRoot, under]
      exact decide_eq_true listed

theorem linked_buildTree (distinct : (categories.map Category.id).Nodup) :
    Linked categories categories (buildTree categories) := by
  have entries := entries_initialNodes distinct
  have keys : (initialNodes categories).entries.map Prod.fst =
      categories.map Category.id := by
    rw [entries, List.map_map]
    rfl
  have initially : Linked categories [] { byId := initialNodes categories, roots := [] } := by
    refine ⟨rfl, fun c member => ?_, fun id unlisted => ?_⟩
    · refine OrderedMap.get_of_mem ?_
      rw [entries]
      exact List.mem_map.mpr ⟨c, member, rfl⟩
    · exact OrderedMap.get_eq_none (keys ▸ unlisted)
  have folded : ∀ (nodes attached : List Category) (built : Built),
      Linked categories attached built → Linked categories (attached ++ nodes)
          (nodes.foldl Categories.attach built) := by
    intro nodes
    induction nodes with
    | nil => intro attached built linked; rwa [List.append_nil]
    | cons node nodes ih =>
      intro attached built linked
      rw [List.append_cons]
      exact ih _ _ (linked.attach distinct node)
  have order : (initialNodes categories).entries.map
      (fun entry => entry.2.category) = categories := by
    rw [entries, List.map_map]
    exact List.map_id _
  have all := folded categories [] _ initially
  unfold buildTree
  dsimp only
  rw [order]
  exact all

theorem readNode_eq (linked : Linked categories categories built) (levels : ℕ)
    (member : c ∈ categories) :
    readNode built.byId levels c.id =
      grow (belowIn categories) levels c := by
  induction levels generalizing c with
  | zero => rfl
  | succ levels ih =>
    rw [readNode, linked.nodes c member, grow, belowIn, if_pos member]
    have children : ((childrenOf categories c).map Category.id).mapM (readNode built.byId levels) =
          (childrenOf categories c).mapM (grow (belowIn categories) levels) := by
      rw [List.mapM_map]
      exact mapM_congr fun child below => ih (List.mem_filter.mp below).1
    show Option.bind (((childrenOf categories c).map Category.id).mapM
      (readNode built.byId levels)) _ = _
    rw [children]
    cases (childrenOf categories c).mapM (grow (belowIn categories) levels) <;> rfl

/-- The categories nest, in the order of the list, whatever the order. -/
theorem getTree_nested (categories : List Category) (distinct : (categories.map Category.id).Nodup)
    (acyclic : Acyclic (Child categories)) :
    ∃ levels forest, (∀ more, levels ≤ more → (getTree categories).read more = some forest) ∧
      Nested categories forest := by
  have linked := linked_buildTree distinct
  have roots := rooted distinct acyclic
  have read : ∀ levels, (getTree categories).read levels =
      (categories.filter (isRoot categories)).mapM (grow (belowIn categories) levels) := by
    intro levels
    show (buildTree categories).roots.mapM _ = _
    rw [linked.roots, List.mapM_map]
    exact mapM_congr fun c root => readNode_eq linked levels (List.mem_filter.mp root).1
  obtain ⟨levels, forest, grown⟩ := roots.grown
  obtain ⟨values, complete⟩ := (mapM_keyed fun _ _ => grow_value).mp grown
  have perm := roots.preorder_perm grown
  refine ⟨levels, forest, fun more enough => ?_, perm, values, ?_⟩
  · rw [read]
    exact (mapM_keyed fun _ _ => grow_value).mpr ⟨values, fun tree member =>
      grow_le (complete tree member) enough⟩
  · intro tree member node inside
    rw [children_subtrees (complete tree member) node inside, belowIn, if_pos]
    refine perm.mem_iff.mp (List.mem_flatMap.mpr ⟨tree, member, ?_⟩)
    exact value_mem_preorder (complete tree member) node inside

end

theorem shelf_nested : ∃ levels forest,
    (∀ more, levels ≤ more → (getTree shelf).read more = some forest) ∧
      Nested shelf forest := getTree_nested shelf (by decide) shelf_wellFormed.acyclic

example : ((getTree shelf).read 3).map (List.map Tree.value) =
    some [{ id := 1, name := "Electronics" }] := by decide

end MarketX.Categories
