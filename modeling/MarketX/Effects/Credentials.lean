/-
Module: MarketX.Effects.Credentials
Purpose: Credentials of which every owner holds at most one: what is given,
  held and retired, where a credential tells whom it was made for and none
  that is retired is given again.
Trusted boundary: none
Main exports: Credentials, Credentials.give, Credentials.drop, Credentials.retire
-/
import Mathlib.Tactic.Common

namespace Effects

variable {ι τ : Type}

/-- What is held has been given to its holder, what is given was made for its
owner, and nobody holds what is retired. -/
structure Credentials (ownerOf : τ → Option ι) (held : ι → Option τ)
    (given : List (ι × τ)) (retired : List τ) : Prop where
  listed : ∀ {owner token}, held owner = some token → (owner, token) ∈ given
  owned : ∀ {owner token}, (owner, token) ∈ given → ownerOf token = some owner
  gone : ∀ {owner token}, token ∈ retired → held owner ≠ some token

namespace Credentials

variable {ownerOf : τ → Option ι} {held : ι → Option τ}
  {given : List (ι × τ)} {retired : List τ} {owner : ι} {token : τ}

/-- As long as nothing has been given, nothing is held. -/
theorem empty (vacant : ∀ owner, held owner = none) :
    Credentials ownerOf held [] [] where
  listed holds := absurd holds (by rw [vacant]; exact nofun)
  owned member := absurd member List.not_mem_nil
  gone member := absurd member List.not_mem_nil

theorem holder_unique (credentials : Credentials ownerOf held given retired)
    {other : ι} (holds : held owner = some token) (same : (other, token) ∈ given) : other = owner :=
  Option.some.inj ((credentials.owned same).symm.trans
    (credentials.owned (credentials.listed holds)))

/-- Something is given that its owner does not get hold of. -/
theorem offer (credentials : Credentials ownerOf held given retired)
    (made : ownerOf token = some owner) :
    Credentials ownerOf held ((owner, token) :: given) retired where
  listed holds := List.mem_cons_of_mem _ (credentials.listed holds)
  owned member := by
    cases member with
    | head => exact made
    | tail _ earlier => exact credentials.owned earlier
  gone := credentials.gone

/-- An owner loses hold of something, and nobody else gets hold of anything. -/
theorem of_fewer (credentials : Credentials ownerOf held given retired) {after : ι → Option τ}
    (fewer : ∀ {owner token}, after owner = some token → held owner = some token) :
    Credentials ownerOf after given retired where
  listed holds := credentials.listed (fewer holds)
  owned := credentials.owned
  gone member holds := credentials.gone member (fewer holds)

/-- Nobody holds any of these any more. -/
theorem retire (credentials : Credentials ownerOf held given retired) {tokens : List τ}
    (free : ∀ {owner token}, token ∈ tokens → held owner ≠ some token) :
    Credentials ownerOf held given (tokens ++ retired) where
  listed := credentials.listed
  owned := credentials.owned
  gone member holds := by
    rcases List.mem_append.mp member with now | before
    · exact free now holds
    · exact credentials.gone before holds

variable [DecidableEq ι]

/-- What its owner holds from now on. -/
theorem give (credentials : Credentials ownerOf held given retired)
    (made : ownerOf token = some owner) (fresh : token ∉ retired) :
    Credentials ownerOf (Function.update held owner (some token))
      ((owner, token) :: given) retired := by
  have offered := credentials.offer made
  refine ⟨?_, offered.owned, ?_⟩
  · intro other current holds
    by_cases same : other = owner
    · simp_all
    · rw [Function.update_of_ne same] at holds
      exact offered.listed holds
  · intro other old member holds
    by_cases same : other = owner
    · simp_all
    · rw [Function.update_of_ne same] at holds
      exact credentials.gone member holds

/-- An owner who holds nothing any more: all that was ever given to them is
retired. -/
theorem drop (credentials : Credentials ownerOf held given retired) {tokens : List τ}
    (theirs : ∀ token ∈ tokens, (owner, token) ∈ given) :
    Credentials ownerOf (Function.update held owner none) given (tokens ++ retired) := by
  have fewer : ∀ {other token}, Function.update held owner none other = some token →
        other ≠ owner ∧ held other = some token := by grind
  refine (credentials.of_fewer fun holds => (fewer holds).2).retire ?_
  intro other token member holds
  obtain ⟨distinct, before⟩ := fewer holds
  exact distinct.symm (credentials.holder_unique before (theirs token member))

/-- What an owner holds is exchanged for something else. -/
theorem exchange (credentials : Credentials ownerOf held given retired)
    {old : τ} (holds : held owner = some old)
    (made : ownerOf token = some owner) (fresh : token ∉ old :: retired) :
    Credentials ownerOf (Function.update held owner (some token))
      ((owner, token) :: given) (old :: retired) := by
  have dropped : Credentials ownerOf (Function.update held owner none) given (old :: retired) := by
    refine credentials.drop (fun token (member : token ∈ [old]) => ?_)
    rw [List.mem_singleton.mp member]
    exact credentials.listed holds
  have given := dropped.give made fresh
  rwa [Function.update_idem] at given

end Credentials

end Effects
