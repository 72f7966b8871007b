/-
Module: MarketX.Effects.Forests
Purpose: Relations without cycles, what becomes of them when one element is
  moved, and the forests that are grown along them: trees that list every
  element below their root once.
Trusted boundary: none
Main exports: Acyclic, acyclic_of_lt, Redirect, Acyclic.redirect
-/
import Mathlib.Data.List.Perm.Basic
import Mathlib.Data.List.Nodup

namespace Effects

open Relation

variable {ι : Type}

/-! ### Relations without cycles -/

/-- No element leads back to itself. -/
def Acyclic (relation : ι → ι → Prop) : Prop := ∀ x, ¬ TransGen relation x x

variable {relation : ι → ι → Prop} {moved x : ι} {targets : ι → Prop}

theorem acyclic_of_lt (height : ι → ℕ) (lower : ∀ x y, relation x y → height y < height x) :
    Acyclic relation := by
  intro x cycle
  have descends : ∀ {y}, TransGen relation x y → height y < height x := by
    intro y path
    induction path <;> grind
  exact Nat.lt_irrefl _ (descends cycle)

/-- One element leads to the given ones instead. -/
def Redirect (relation : ι → ι → Prop) (moved : ι) (targets : ι → Prop) (x y : ι) : Prop :=
  x = moved ∧ targets y ∨ x ≠ moved ∧ relation x y

/-- A path with one element redirected does not use it, or ends behind one of
its targets. -/
theorem redirect_cases (apart : ∀ target, targets target → ¬ ReflTransGen relation target moved)
    {y : ι} (path : TransGen (Redirect relation moved targets) x y) :
    TransGen relation x y ∨ ∃ target, targets target ∧
      ReflTransGen relation x moved ∧ ReflTransGen relation target y := by
  induction path with
  | single edge => rcases edge with ⟨rfl, target⟩ | ⟨-, kept⟩ <;> grind
  | tail _ edge ih =>
    rcases edge with ⟨rfl, next⟩ | ⟨-, kept⟩
    · grind
    · grind

/-- An element may be moved under whatever does not lead to it. -/
theorem Acyclic.redirect (acyclic : Acyclic relation)
    (apart : ∀ target, targets target → ¬ ReflTransGen relation target moved) :
    Acyclic (Redirect relation moved targets) := by
  intro x cycle
  rcases redirect_cases apart cycle with path | ⟨target, isTarget, up, down⟩
  · exact acyclic x path
  · exact apart target isTarget (down.trans up)

theorem Acyclic.swap (acyclic : Acyclic relation) :
    Acyclic (Function.swap relation) := fun x cycle => acyclic x (transGen_swap.mp cycle)

/-- A test that is passed by fewer elements, and not by one of them. -/
theorem countP_lt {test other : ι → Bool} {elements : List ι}
    (implies : ∀ x ∈ elements, test x = true → other x = true)
    (member : x ∈ elements) (fails : test x = false) (passes : other x = true) :
    elements.countP test < elements.countP other := by
  induction elements with
  | nil => cases member
  | cons y elements ih =>
    obtain ⟨here, rest⟩ := List.forall_mem_cons.mp implies
    rw [List.countP_cons, List.countP_cons]
    rcases List.mem_cons.mp member with rfl | member
    · rw [fails, passes]
      exact Nat.lt_succ_of_le (List.countP_mono_left rest)
    · grind

section

open Classical in
/-- How many of some elements one leads to. -/
noncomputable def above (relation : ι → ι → Prop) (elements : List ι) (x : ι) :
    ℕ := elements.countP fun y => decide (TransGen relation x y)

/-- Along a relation without cycles there are fewer and fewer of them. -/
theorem above_lt {relation : ι → ι → Prop} (acyclic : Acyclic relation)
    {elements : List ι} {x y : ι} (edge : relation x y) (member : y ∈ elements) :
    above relation elements y < above relation elements x := by
  classical
  refine countP_lt (fun z _ beyond => ?_) member
    (decide_eq_false (acyclic y)) (decide_eq_true (.single edge))
  exact decide_eq_true ((of_decide_eq_true beyond).head edge)

end

/-! ### Trees -/

inductive Tree (ι : Type) where
  | node (value : ι) (children : List (Tree ι))

namespace Tree

def value : Tree ι → ι
  | .node value _ => value

def children : Tree ι → List (Tree ι)
  | .node _ children => children

/-- The values, each before those below it. -/
def preorder : Tree ι → List ι
  | .node value children => value :: children.flatMap preorder

/-- The trees below one, itself among them. -/
def subtrees : Tree ι → List (Tree ι)
  | .node value children => .node value children :: children.flatMap subtrees

end Tree

/-- The tree of what is below an element, down to so many levels. -/
def grow (below : ι → List ι) : ℕ → ι → Option (Tree ι)
  | 0, _ => none
  | levels + 1, x => ((below x).mapM (grow below levels)).map (.node x)

section

variable {τ : Type} {keys : List ι}

theorem mapM_keyed {find : ι → Option τ} {key : τ → ι}
    (keyed : ∀ x found, find x = some found → key found = x) {results : List τ} :
    keys.mapM find = some results ↔ results.map key = keys ∧
      ∀ found ∈ results, find (key found) = some found := by
  induction keys generalizing results with
  | nil => simp_all
  | cons x keys ih =>
    rw [List.mapM_cons]
    constructor
    · intro all
      obtain ⟨first, here, rest⟩ := Option.bind_eq_some_iff.mp all
      obtain ⟨others, there, made⟩ := Option.bind_eq_some_iff.mp rest
      grind
    · rintro ⟨same, each⟩
      cases results <;> grind

theorem mapM_congr {find other : ι → Option τ} (same : ∀ x ∈ keys, find x = other x) :
    keys.mapM find = keys.mapM other := by
  induction keys with
  | nil => rfl
  | cons x keys ih => simp_all

theorem mapM_isSome {find : ι → Option τ} (each : ∀ x ∈ keys, ∃ found, find x = some found) :
    ∃ results, keys.mapM find = some results := by
  induction keys with
  | nil => exact ⟨[], rfl⟩
  | cons x keys ih =>
    obtain ⟨⟨first, here⟩, each⟩ := List.forall_mem_cons.mp each
    obtain ⟨others, there⟩ := ih each
    exact ⟨first :: others, by rw [List.mapM_cons, here, there]; rfl⟩

theorem mapM_eq_some_iff {find : ι → Option τ} {results : List τ} :
    keys.mapM find = some results ↔ keys.map find = results.map some := by
  induction keys generalizing results with
  | nil => cases results <;> simp
  | cons x keys ih =>
    rw [List.mapM_cons, List.map_cons]
    constructor
    · intro all
      obtain ⟨first, here, rest⟩ := Option.bind_eq_some_iff.mp all
      obtain ⟨others, there, made⟩ := Option.bind_eq_some_iff.mp rest
      grind
    · intro same
      cases results <;> grind

variable {below : ι → List ι} {levels : ℕ} {x y : ι} {tree : Tree ι}

theorem grow_value (grown : grow below levels x = some tree) :
    tree.value = x := by
  cases levels with
  | zero => cases grown
  | succ levels =>
    obtain ⟨children, -, rfl⟩ := Option.map_eq_some_iff.mp grown
    rfl

/-- A tree that is complete has what is below its root for its children. -/
theorem grow_succ : grow below (levels + 1) x = some tree ↔
    tree.value = x ∧ tree.children.map Tree.value = below x ∧
      ∀ child ∈ tree.children, grow below levels child.value = some child := by
  refine Option.map_eq_some_iff.trans ?_
  constructor
  · rintro ⟨children, found, rfl⟩
    exact ⟨rfl, (mapM_keyed fun _ _ => grow_value).mp found⟩
  · obtain ⟨value, children⟩ := tree
    rintro ⟨rfl, found⟩
    exact ⟨children, (mapM_keyed fun _ _ => grow_value).mpr found, rfl⟩

/-- More levels do not change a tree that is complete. -/
theorem grow_le {more : ℕ} (grown : grow below levels x = some tree)
    (le : levels ≤ more) : grow below more x = some tree := by
  induction levels generalizing more x tree with
  | zero => cases grown
  | succ levels ih =>
    cases more with
    | zero => exact absurd le (Nat.not_succ_le_zero _)
    | succ more =>
      obtain ⟨value, values, complete⟩ := grow_succ.mp grown
      refine grow_succ.mpr ⟨value, values, fun child member => ?_⟩
      exact ih (complete child member) (Nat.le_of_succ_le_succ le)

/-- Without cycles a tree has no more levels than there are elements. -/
theorem grow_of_acyclic {elements : List ι} (acyclic : Acyclic fun x y => y ∈ below x)
    (within : ∀ x, ∀ y ∈ below x, y ∈ elements)
    (enough : above (fun x y => y ∈ below x) elements x < levels) :
    ∃ tree, grow below levels x = some tree := by
  induction levels generalizing x with
  | zero => exact absurd enough (Nat.not_lt_zero _)
  | succ levels ih =>
    have each : ∀ y ∈ below x, ∃ child, grow below levels y = some child := by
      intro y member
      have fewer := above_lt acyclic (x := x) member (within x y member)
      exact ih (by omega)
    simp_all [mapM_isSome, grow]

theorem mem_preorder (grown : grow below levels x = some tree) :
    y ∈ tree.preorder ↔ ReflTransGen (fun y x => y ∈ below x) y x := by
  induction levels generalizing x tree with
  | zero => cases grown
  | succ levels ih =>
    obtain ⟨rfl, values, complete⟩ := grow_succ.mp grown
    obtain ⟨value, children⟩ := tree
    rw [Tree.preorder, List.mem_cons, List.mem_flatMap, ReflTransGen.cases_tail_iff]
    refine or_congr eq_comm ⟨?_, ?_⟩
    · rintro ⟨child, member, lists⟩
      refine ⟨child.value, (ih (complete child member)).mp lists, ?_⟩
      rw [← values]
      exact List.mem_map_of_mem member
    · rintro ⟨k, leads, member⟩
      rw [← values] at member
      obtain ⟨child, here, rfl⟩ := List.mem_map.mp member
      exact ⟨child, here, (ih (complete child here)).mpr leads⟩

theorem value_mem_preorder (grown : grow below levels x = some tree) :
    ∀ part ∈ tree.subtrees, part.value ∈ tree.preorder := by
  induction levels generalizing x tree with
  | zero => cases grown
  | succ levels ih =>
    obtain ⟨rfl, values, complete⟩ := grow_succ.mp grown
    obtain ⟨value, children⟩ := tree
    intro part member
    rw [Tree.subtrees, List.mem_cons, List.mem_flatMap] at member
    rw [Tree.preorder, List.mem_cons, List.mem_flatMap]
    rcases member with rfl | ⟨child, member, inside⟩
    · exact .inl rfl
    · exact .inr ⟨child, member, ih (complete child member) part inside⟩

/-- Every tree in a tree has what is below its root for its children. -/
theorem children_subtrees (grown : grow below levels x = some tree) :
    ∀ part ∈ tree.subtrees, part.children.map Tree.value = below part.value := by
  induction levels generalizing x tree with
  | zero => cases grown
  | succ levels ih =>
    obtain ⟨rfl, values, complete⟩ := grow_succ.mp grown
    obtain ⟨value, children⟩ := tree
    intro part member
    rw [Tree.subtrees, List.mem_cons, List.mem_flatMap] at member
    rcases member with rfl | ⟨child, member, inside⟩
    · exact values
    · exact ih (complete child member) part inside

end

/-! ### Forests -/

/-- Elements, each below no more than one other and the roots below none, in
some order. -/
structure Rooted (elements roots : List ι) (below : ι → List ι) : Prop where
  acyclic : Acyclic fun x y => y ∈ below x
  distinct : elements.Nodup
  rootsDistinct : roots.Nodup
  belowDistinct : ∀ x, (below x).Nodup
  within : ∀ x, ∀ y ∈ below x, y ∈ elements
  rootsWithin : ∀ x ∈ roots, x ∈ elements
  one : ∀ x other y, y ∈ below x → y ∈ below other → x = other
  top : ∀ x, ∀ y ∈ roots, y ∉ below x
  placed : ∀ y ∈ elements, y ∈ roots ∨ ∃ x ∈ elements, y ∈ below x

section

variable {elements roots : List ι} {below : ι → List ι}

variable {x other y : ι} {levels : ℕ}

/-- What leads to two elements leads to one of them through the other. -/
theorem Rooted.comparable (rooted : Rooted elements roots below)
    (first : ReflTransGen (fun y x => y ∈ below x) y x)
    (second : ReflTransGen (fun y x => y ∈ below x) y other) :
    ReflTransGen (fun y x => y ∈ below x) x other ∨ ReflTransGen (fun y x => y ∈ below x) other x :=
  ReflTransGen.total_of_right_unique (fun _ _ _ one two => rooted.one _ _ _ one two) first second

theorem Rooted.upward (rooted : Rooted elements roots below) :
    Acyclic fun y x => y ∈ below x := rooted.acyclic.swap

/-- What is below two children of an element is below one child. -/
theorem Rooted.siblings (rooted : Rooted elements roots below)
    {parent : ι} (here : x ∈ below parent) (there : other ∈ below parent)
    (first : ReflTransGen (fun y x => y ∈ below x) y x)
    (second : ReflTransGen (fun y x => y ∈ below x) y other) : x = other := by
  have apart : ∀ {x other : ι}, x ∈ below parent → other ∈ below parent →
      ReflTransGen (fun y x => y ∈ below x) x other → x = other := by
    intro x other here there leads
    rcases ReflTransGen.cases_head leads with same | ⟨next, step, rest⟩
    · exact same
    · rw [rooted.one _ _ _ step here] at rest
      exact absurd (TransGen.tail' rest there) (rooted.upward parent)
  rcases rooted.comparable first second with leads | leads <;> grind

theorem Rooted.nodup_preorder (rooted : Rooted elements roots below) {tree : Tree ι}
    (grown : grow below levels x = some tree) : tree.preorder.Nodup := by
  induction levels generalizing x tree with
  | zero => cases grown
  | succ levels ih =>
    obtain ⟨rfl, values, complete⟩ := grow_succ.mp grown
    obtain ⟨value, children⟩ := tree
    have values : children.map Tree.value = below value := values
    have beneath : ∀ child ∈ children, child.value ∈ below value := by grind
    have apart : children.Pairwise fun first second => first.value ≠ second.value := by
      rw [← List.pairwise_map]
      exact values ▸ rooted.belowDistinct value
    rw [Tree.preorder, List.nodup_cons, List.nodup_flatMap]
    refine ⟨fun again => ?_, fun child member => ih (complete child member), ?_⟩
    · obtain ⟨child, member, lists⟩ := List.mem_flatMap.mp again
      have leads := (mem_preorder (complete child member)).mp lists
      exact rooted.upward value (TransGen.tail' leads (beneath child member))
    · refine apart.imp_of_mem fun {first second} here there distinct => ?_
      intro y inFirst inSecond
      exact distinct (rooted.siblings (beneath first here) (beneath second there)
        ((mem_preorder (complete first here)).mp inFirst)
        ((mem_preorder (complete second there)).mp inSecond))

theorem Rooted.root_eq (rooted : Rooted elements roots below) {root : ι} (member : root ∈ roots)
    (leads : ReflTransGen (fun y x => y ∈ below x) root x) : root = x := by
  rcases ReflTransGen.cases_head leads with same | ⟨parent, step, -⟩
  · exact same
  · exact absurd step (rooted.top parent root member)

theorem Rooted.exists_root (rooted : Rooted elements roots below) (member : y ∈ elements) :
    ∃ root ∈ roots, ReflTransGen (fun y x => y ∈ below x) y root := by
  induction height : above (fun y x => y ∈ below x) elements y
    using Nat.strongRecOn generalizing y with
  | _ height ih =>
    rcases rooted.placed y member with root | ⟨parent, inside, step⟩
    · exact ⟨y, root, .refl⟩
    · have lower := above_lt rooted.upward step inside
      obtain ⟨root, isRoot, leads⟩ := ih _ (by omega) inside rfl
      exact ⟨root, isRoot, .head step leads⟩

theorem Rooted.preorder_perm (rooted : Rooted elements roots below) {trees : List (Tree ι)}
    (grown : roots.mapM (grow below levels) = some trees) :
    (trees.flatMap Tree.preorder).Perm elements := by
  obtain ⟨values, complete⟩ := (mapM_keyed fun _ _ => grow_value).mp grown
  have isRoot : ∀ tree ∈ trees, tree.value ∈ roots := by grind
  have apart : trees.Pairwise fun first second => first.value ≠ second.value := by
    rw [← List.pairwise_map, values]
    exact rooted.rootsDistinct
  have nodup : (trees.flatMap Tree.preorder).Nodup := by
    refine List.nodup_flatMap.mpr ⟨fun tree member =>
      rooted.nodup_preorder (complete tree member), ?_⟩
    refine apart.imp_of_mem fun {first second} here there distinct => ?_
    intro y inFirst inSecond
    rcases rooted.comparable ((mem_preorder (complete first here)).mp inFirst)
        ((mem_preorder (complete second there)).mp inSecond) with
      leads | leads
    · exact distinct (rooted.root_eq (isRoot first here) leads)
    · exact distinct (rooted.root_eq (isRoot second there) leads).symm
  rw [List.perm_ext_iff_of_nodup nodup rooted.distinct]
  intro y
  rw [List.mem_flatMap]
  constructor
  · rintro ⟨tree, member, lists⟩
    have leads := (mem_preorder (complete tree member)).mp lists
    rcases ReflTransGen.cases_head leads with same | ⟨parent, step, -⟩
    · rw [same]
      exact rooted.rootsWithin _ (isRoot tree member)
    · exact rooted.within parent y step
  · intro member
    obtain ⟨root, root_mem, leads⟩ := rooted.exists_root member
    grind [mem_preorder]

/-- So many levels are enough. -/
theorem Rooted.grown (rooted : Rooted elements roots below) :
    ∃ levels trees, roots.mapM (grow below levels) = some trees := by
  refine ⟨elements.length + 1, mapM_isSome fun x _ => ?_⟩
  refine grow_of_acyclic rooted.acyclic rooted.within ?_
  exact Nat.lt_succ_of_le List.countP_le_length

end

end Effects
