/-
Module: MarketX.Effects.Respects
Purpose: Programs every execution of which moves the state along a given
  preorder; the outcomes a program can have, whatever its effects answer; and
  one program on two states that its effects keep related.
Trusted boundary: none
Main exports: Handler.Respects, Handler.Respects.bind, Handler.Respects.foldlM
-/
import MarketX.Effects.Program
import MarketX.Effects.Runs

namespace Effects.Handler

variable {S : Signature} {σ ε α β : Type}

/-- Whatever fails, the final state is related to the initial one. -/
def Respects (H : Handler S σ) (relation : σ → σ → Prop) (program : Program S ε α) : Prop :=
  ∀ state, H.wp program (fun _ after => relation state after) state

namespace Respects

variable {H : Handler S σ} {relation : σ → σ → Prop}

variable {program first : Program S ε α} {body : β → α → Program S ε β} {rest : α → Program S ε β}

/-- What the rules promise holds of every execution. -/
theorem exec (respects : H.Respects relation program) (faults : List (Option ε))
    (state : σ) : relation state (H.exec program faults state).2 :=
  H.wp_sound (respects state) faults

theorem attempt {body : Program S ε α} (respects : H.Respects relation body) :
    H.Respects relation body.attempt := by
  intro state
  rw [wp_attempt]
  exact respects state

theorem ite (test : Prop) [Decidable test] {yes no : Program S ε α}
    (yesRespects : H.Respects relation yes) (noRespects : H.Respects relation no) :
    H.Respects relation (if test then yes else no) := by
  split
  · exact yesRespects
  · exact noRespects

variable [IsPreorder σ relation]

theorem wp (respects : H.Respects relation program)
    {start state : σ} (reached : relation start state) :
    H.wp program (fun _ after => relation start after) state :=
  H.wp_mono (respects state) fun _ _ moved => trans_of relation reached moved

theorem pure (value : α) :
    H.Respects relation (pure value : Program S ε α) :=
  fun state => refl_of relation state

theorem throw (error : ε) :
    H.Respects relation (throw error : Program S ε α) :=
  fun state => refl_of relation state

/-- One effect that moves the state along the relation. -/
theorem perform (op : S.Op) (moves : ∀ state, relation state (H.act op state).2) :
    H.Respects relation (Program.perform op : Program S ε (S.Reply op)) :=
  fun state => ⟨moves state, fun _ _ => refl_of relation state⟩

/-- Where every effect moves the state along the relation, every program
does. -/
theorem of_acts (moves : ∀ op state, relation state (H.act op state).2)
    (program : Program S ε α) : H.Respects relation program := by
  induction program with
  | pure value => exact .pure value
  | throw error => exact .throw error
  | call op next ih =>
    exact fun state => ⟨(ih _).wp (moves op state), fun _ error => ih (.error error) state⟩

theorem bind (firstRespects : H.Respects relation first)
    (restRespects : ∀ value, H.Respects relation (rest value)) :
    H.Respects relation (first >>= rest) := by
  intro state
  rw [wp_bind]
  apply H.wp_mono (firstRespects state)
  intro result after moved
  cases result with
  | ok value => exact (restRespects value).wp moved
  | error error => exact moved

/-- A check that throws, in front of the rest of the program. -/
theorem guard (test : Prop) [Decidable test] (error : ε) {rest : PUnit → Program S ε α}
    (respects : ∀ value, H.Respects relation (rest value)) :
    H.Respects relation (if test then Program.throw error >>= rest else rest ⟨⟩) :=
  .ite test (.throw error) (respects ⟨⟩)

/-- A step whose outcomes lead on in every state it can reach. -/
theorem bind_wp (continues : ∀ state, H.wp first (fun result after =>
      relation state after ∧ ∀ value, result = .ok value →
        H.Respects relation (rest value)) state) :
    H.Respects relation (first >>= rest) := by
  intro state
  rw [wp_bind]
  apply H.wp_mono (continues state)
  rintro result after ⟨moved, onward⟩
  cases result with
  | ok value => exact (onward value rfl).wp moved
  | error error => exact moved

theorem foldlM_of_mem {items : List α}
    (respects : ∀ item ∈ items, ∀ acc, H.Respects relation (body acc item))
    (acc : β) : H.Respects relation (items.foldlM body acc) := by
  induction items generalizing acc with
  | nil => exact .pure acc
  | cons head tail ih =>
    obtain ⟨first, others⟩ := List.forall_mem_cons.mp respects
    exact (first acc).bind (ih others)

theorem foldlM
    (respects : ∀ acc item, H.Respects relation (body acc item)) (items : List α) (acc : β) :
    H.Respects relation (items.foldlM body acc) :=
  foldlM_of_mem (fun item _ acc => respects acc item) acc

theorem forM {body : α → Program S ε PUnit}
    (respects : ∀ item, H.Respects relation (body item)) (items : List α) :
    H.Respects relation (items.forM body) := by
  induction items with
  | nil => exact .pure PUnit.unit
  | cons head tail ih => exact (respects head).bind fun _ => ih

theorem mapM {body : α → Program S ε β}
    (respects : ∀ item, H.Respects relation (body item)) (items : List α) :
    H.Respects relation (items.mapM body) := by
  -- the loop collects the values in reverse
  have loop : ∀ collected,
      H.Respects relation (List.mapM.loop body items collected) := by
    induction items with
    | nil => exact fun collected => .pure collected.reverse
    | cons head tail ih =>
      exact fun collected => (respects head).bind fun value => ih (value :: collected)
  exact loop []

end Respects

/-! ### Loops that reach a goal for each of their items -/

section

variable {H : Handler S σ} {relation : σ → σ → Prop} [IsPreorder σ relation]

variable (goal : α → σ → Prop)

theorem wp_foldlM_each {body : β → α → Program S ε β} {items : List α} {acc : β} {start : σ}
    (stable : ∀ item state after, relation state after → goal item state → goal item after)
    (iteration : ∀ item ∈ items, ∀ acc state, relation start state →
      H.wp (body acc item) (fun result after => result.isOk = true ∧
        relation state after ∧ goal item after) state) :
    H.wp (items.foldlM body acc) (fun result after => result.isOk = true ∧
      relation start after ∧ ∀ item ∈ items, goal item after) start := by
  -- the items that are still to come are the end of the list
  apply H.wp_foldlM fun remaining _ state => relation start state ∧
    ∃ done, items = done ++ remaining ∧ ∀ item ∈ done, goal item state
  · exact ⟨refl_of relation start, [], rfl, List.forall_mem_nil _⟩
  · rintro head tail acc state ⟨reached, done, split, goals⟩
    have member : head ∈ items := split ▸ List.mem_append_cons_self
    apply H.wp_mono (iteration head member acc state reached)
    rintro result after ⟨returns, moved, goalHead⟩
    cases result with
    | error error => cases returns
    | ok value =>
      refine ⟨trans_of relation reached moved, done ++ [head],
        by rw [split, List.append_cons], fun item listed => ?_⟩
      grind
  · rintro acc state ⟨reached, done, split, goals⟩
    rw [split, List.append_nil]
    exact ⟨rfl, reached, goals⟩

theorem wp_forM_each {body : α → Program S ε PUnit} {items : List α} {start : σ}
    (stable : ∀ item state after, relation state after → goal item state → goal item after)
    (iteration : ∀ item ∈ items, ∀ state, relation start state →
      H.wp (body item) (fun result after => result.isOk = true ∧
        relation state after ∧ goal item after) state) :
    H.wp (items.forM body) (fun result after => result.isOk = true ∧
      relation start after ∧ ∀ item ∈ items, goal item after) start := by
  induction items generalizing start with
  | nil => exact ⟨rfl, refl_of relation start, List.forall_mem_nil _⟩
  | cons head tail ih =>
    show H.wp (body head >>= fun _ => tail.forM body) _ start
    rw [wp_bind]
    apply H.wp_mono (iteration head (List.mem_cons_self ..) start (refl_of relation start))
    rintro result middle ⟨returns, moved, goalHead⟩
    cases result with
    | error error => cases returns
    | ok value =>
      apply H.wp_mono (ih fun item member state reached =>
        iteration item (List.mem_cons_of_mem _ member) state (trans_of relation moved reached))
      rintro result after ⟨ended, reached, goals⟩
      refine ⟨ended, trans_of relation moved reached, List.forall_mem_cons.mpr ⟨?_, goals⟩⟩
      exact stable head middle after reached goalHead

end

end Effects.Handler

namespace Effects.Program

variable {S : Signature} {σ ε α β : Type}

/-- With some answers to its effects the program ends this way. -/
def Ends : Program S ε α → Except ε α → Prop
  | .pure value, outcome => outcome = .ok value
  | .throw error, outcome => outcome = .error error
  | .call _ next, outcome => ∃ answer, Ends (next answer) outcome

namespace Ends

theorem of_exec (H : Handler S σ) (program : Program S ε α) (faults : List (Option ε)) (state : σ) :
    program.Ends (H.exec program faults state).1 := by
  induction program generalizing faults state with
  | pure value => exact rfl
  | throw error => exact rfl
  | call op next ih => exact ⟨_, ih _ faults.tail _⟩

/-- What holds at the end of every execution holds beside the outcome. -/
theorem wp {H : Handler S σ} {program : Program S ε α} {post : Except ε α → σ → Prop} {state : σ}
    (holds : H.wp program post state) :
    H.wp program (fun outcome after => post outcome after ∧ program.Ends outcome) state := by
  induction program generalizing state with
  | pure value => exact ⟨holds, rfl⟩
  | throw error => exact ⟨holds, rfl⟩
  | call op next ih =>
    have further : ∀ answer {reached : σ}, H.wp (next answer) post reached →
          H.wp (next answer) (fun outcome after =>
            post outcome after ∧ Ends (.call op next) outcome) reached :=
      fun answer reached continues =>
        H.wp_mono (ih answer continues) fun _ _ both => ⟨both.1, answer, both.2⟩
    exact ⟨further _ holds.1, fun fails error => further _ (holds.2 fails error)⟩

theorem of_bind {first : Program S ε α} {rest : α → Program S ε β}
    {outcome : Except ε β} (ends : (first >>= rest).Ends outcome) :
    (∃ value, first.Ends (.ok value) ∧ (rest value).Ends outcome) ∨
      ∃ error, first.Ends (.error error) ∧ outcome = .error error := by
  induction first with
  | pure value => exact .inl ⟨value, rfl, ends⟩
  | throw error => exact .inr ⟨error, rfl, ends⟩
  | call op next ih =>
    obtain ⟨answer, ends⟩ := ends
    rcases ih answer ends with
      ⟨value, returns, ends⟩ | ⟨error, throws, ends⟩
    · exact .inl ⟨value, ⟨answer, returns⟩, ends⟩
    · exact .inr ⟨error, ⟨answer, throws⟩, ends⟩

theorem of_bind_ok {first : Program S ε α} {rest : α → Program S ε β}
    {value : β} (ends : (first >>= rest).Ends (.ok value)) :
    ∃ middle, first.Ends (.ok middle) ∧ (rest middle).Ends (.ok value) := by
  rcases of_bind ends with returns | ⟨error, -, same⟩
  · exact returns
  · cases same

theorem of_attempt {body : Program S ε α}
    {outcome : Except ε (Except ε α)} (ends : body.attempt.Ends outcome) :
    ∃ inner, outcome = .ok inner ∧ body.Ends inner := by
  induction body with
  | pure value => exact ⟨_, ends, rfl⟩
  | throw error => exact ⟨_, ends, rfl⟩
  | call op next ih =>
    obtain ⟨answer, ends⟩ := ends
    obtain ⟨inner, same, ends⟩ := ih answer ends
    exact ⟨inner, same, answer, ends⟩

end Ends

/-- What follows is run on values only that the first program can return. -/
theorem Uses.bind_ends {among : S.Op → Prop} {first : Program S ε α}
    {rest : α → Program S ε β} (front : first.Uses among)
    (back : ∀ value, first.Ends (.ok value) → (rest value).Uses among) :
    (first >>= rest).Uses among := by
  induction first with
  | pure value => exact back value rfl
  | throw error => trivial
  | call op next ih =>
    exact ⟨front.1, fun reply => ih reply (front.2 reply)
      fun value ends => back value ⟨reply, ends⟩⟩

end Effects.Program

namespace Effects

section

variable {S : Signature} {σ ε α : Type}

/-- A program that only uses effects which act alike on related states ends
alike, under one schedule of failures. -/
theorem Handler.exec_related (H : Handler S σ) {among : S.Op → Prop} {related : σ → σ → Prop}
    (alike : ∀ op state other, among op → related state other →
      (H.act op state).1 = (H.act op other).1 ∧ related (H.act op state).2 (H.act op other).2)
    {program : Program S ε α} (uses : program.Uses among)
    (faults : List (Option ε)) {state other : σ} (initially : related state other) :
    (H.exec program faults state).1 = (H.exec program faults other).1 ∧
      related (H.exec program faults state).2 (H.exec program faults other).2 := by
  induction program generalizing faults state other with
  | pure value => exact ⟨rfl, initially⟩
  | throw error => exact ⟨rfl, initially⟩
  | call op next ih =>
    have performed : (H.perform op (faults.headD none) state).1 =
          (H.perform op (faults.headD none) other).1 ∧
        related (H.perform op (faults.headD none) state).2
          (H.perform op (faults.headD none) other).2 := by
      obtain ⟨same, later⟩ := alike op state other uses.1 initially
      unfold perform
      split <;> grind
    obtain ⟨same, later⟩ := performed
    simp only [exec_call]
    rw [same]
    exact ih _ (uses.2 _) faults.tail later

end

/-- A run ends related to the run of some of its inputs, where those keep two
states related, and the others keep one related to any. -/
theorem run_filter {σ κ : Type} {step : σ → κ → σ} {related : σ → σ → Prop} {keeps : κ → Bool}
    (kept : ∀ state other input, keeps input = true → related state other →
      related (step state input) (step other input))
    (dropped : ∀ state other input, keeps input = false →
      related state other → related (step state input) other)
    {start other : σ} (initially : related start other) (inputs : List κ) :
    related (run step start inputs) (run step other (inputs.filter keeps)) := by
  induction inputs generalizing start other with
  | nil => exact initially
  | cons head tail ih => cases keeping : keeps head <;> simp_all

end Effects
