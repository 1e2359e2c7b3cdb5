import Mathlib.Data.Nat.Notation
import Mathlib.Tactic.TypeStar

/-! Programs that talk to a device. Every call gets a reply, what follows may depend on it, and a
program that has got no reply yet waits. The rules say what a program knows after its calls, and
that it makes only those calls that its knowledge allows. -/
namespace Dialogue

universe u
variable {ρ ι ε ε' : Type u} {α β σ : Type u} {κ : Type*}

/-- What a program did with the replies that came: its calls, and how it ended, with the replies
that are left, unless it waits for another one. -/
structure Talked (ρ ι ε α : Type u) where
  exchanges : List (ρ × ι)
  ended : Option (Except ε α × List ι)

def Talk (ρ ι ε α : Type u) := List ι → Talked ρ ι ε α

namespace Talk

def pure (a : α) : Talk ρ ι ε α := fun replies => ⟨[], some (.ok a, replies)⟩

def fail (e : ε) : Talk ρ ι ε α := fun replies => ⟨[], some (.error e, replies)⟩

def call (r : ρ) : Talk ρ ι ε ι
  | [] => ⟨[], none⟩
  | i :: replies => ⟨[(r, i)], some (.ok i, replies)⟩

/-- What follows a failure is not done. -/
def bind (m : Talk ρ ι ε α) (f : α → Talk ρ ι ε β) : Talk ρ ι ε β := fun replies =>
  match m replies with
  | ⟨exchanges, some (.ok a, rest)⟩ =>
    ⟨exchanges ++ (f a rest).exchanges, (f a rest).ended⟩
  | ⟨exchanges, some (.error e, rest)⟩ => ⟨exchanges, some (.error e, rest)⟩
  | ⟨exchanges, none⟩ => ⟨exchanges, none⟩

/-- A failure becomes a value. -/
def attempt (m : Talk ρ ι ε α) : Talk ρ ι ε' (Except ε α) := fun replies =>
  ⟨(m replies).exchanges, (m replies).ended.map fun r => (.ok r.1, r.2)⟩

instance : Monad (Talk ρ ι ε) where
  pure := pure
  bind := bind

/-- At most `n` turns of a loop, each of which goes on or comes to a result. -/
def turns (body : σ → Talk ρ ι ε (σ ⊕ α)) : ℕ → σ → Talk ρ ι ε α
  | 0, _ => fun _ => ⟨[], none⟩
  | n + 1, s => body s >>= fun
    | .inl s => turns body n s
    | .inr a => pure a

/-- `for (;;) body`. Where every turn makes a call, the replies are used up before the turns. -/
def loop (body : σ → Talk ρ ι ε (σ ⊕ α)) (s : σ) : Talk ρ ι ε α := fun replies =>
  turns body (replies.length + 1) s replies

/-- The program uses up no less than `n` replies. -/
def Uses (n : ℕ) (m : Talk ρ ι ε α) : Prop :=
  ∀ replies, ∀ r ∈ (m replies).ended, r.2.length + n ≤ replies.length

theorem uses_pure (a : α) : Uses 0 (Pure.pure a : Talk ρ ι ε α) := by
  intro replies r hr
  obtain rfl := Option.some.inj hr
  exact Nat.le_refl _

theorem uses_fail (e : ε) : Uses 0 (.fail e : Talk ρ ι ε α) := by
  intro replies r hr
  obtain rfl := Option.some.inj hr
  exact Nat.le_refl _

theorem uses_call (r : ρ) : Uses 1 (.call r : Talk ρ ι ε ι) := by
  intro replies res hres
  cases replies with
  | nil => cases hres
  | cons i replies =>
    obtain rfl := Option.some.inj hres
    exact Nat.le_refl _

theorem Uses.bind {n : ℕ} {m : Talk ρ ι ε α} {f : α → Talk ρ ι ε β} (hm : Uses n m)
    (hf : ∀ a, Uses 0 (f a)) : Uses n (m >>= f) := by
  intro replies r hr
  change r ∈ ((m.bind f) replies).ended at hr
  have hfirst := hm replies
  unfold Talk.bind at hr
  rcases hres : m replies with ⟨exchanges, _ | ⟨_ | a, rest⟩⟩
  · rw [hres] at hr
    cases hr
  · rw [hres] at hr hfirst
    obtain rfl := Option.some.inj hr
    exact hfirst _ rfl
  · rw [hres] at hr hfirst
    exact Nat.le_trans (Nat.add_le_add_right (hf a rest r hr) n) (hfirst _ rfl)

theorem Uses.weaken {m : Talk ρ ι ε α} (h : Uses 1 m) : Uses 0 m := fun replies r hr =>
  Nat.le_of_lt (h replies r hr)

theorem Uses.ite {n : ℕ} {c : Prop} [Decidable c] {m m' : Talk ρ ι ε α} (hm : Uses n m)
    (hm' : Uses n m') : Uses n (if c then m else m') := by
  by_cases h : c
  · rwa [if_pos h]
  · rwa [if_neg h]

/-- More turns than replies make no difference. -/
theorem turns_eq {body : σ → Talk ρ ι ε (σ ⊕ α)} (h : ∀ s, Uses 1 (body s)) {n m : ℕ} (s : σ)
    {replies : List ι} (hn : replies.length < n) (hm : replies.length < m) :
    turns body n s replies = turns body m s replies := by
  induction n generalizing m s replies with
  | zero => exact absurd hn (Nat.not_lt_zero _)
  | succ n ih =>
    cases m with
    | zero => exact absurd hm (Nat.not_lt_zero _)
    | succ m =>
      change ((body s).bind _) replies = ((body s).bind _) replies
      unfold bind
      have hrest := h s replies
      rcases hres : body s replies with ⟨exchanges, _ | ⟨_ | _ | a, rest⟩⟩
      · rfl
      · rfl
      · rw [hres] at hrest
        have hlt : rest.length < replies.length := hrest _ rfl
        simp only
        rw [ih _ (Nat.lt_of_lt_of_le hlt (Nat.le_of_lt_succ hn))
          (Nat.lt_of_lt_of_le hlt (Nat.le_of_lt_succ hm))]
      · rfl

/-- The loop does a turn, and then goes on or ends. -/
theorem loop_eq {body : σ → Talk ρ ι ε (σ ⊕ α)} (h : ∀ s, Uses 1 (body s)) (s : σ) :
    loop body s = body s >>= Sum.elim (loop body) Pure.pure := by
  funext replies
  change ((body s).bind _) replies = ((body s).bind _) replies
  unfold bind
  have hrest := h s replies
  rcases hres : body s replies with ⟨exchanges, _ | ⟨_ | _ | a, rest⟩⟩
  · rfl
  · rfl
  · rw [hres] at hrest
    have hlt : rest.length < replies.length := hrest _ rfl
    simp only [loop, Sum.elim_inl]
    rw [turns_eq h _ hlt (Nat.lt_succ_self _)]
  · rfl

end Talk

/-- What is learnt from a call and its reply, and which calls are allowed with what is known. -/
structure Rules (ρ ι : Type u) (κ : Type*) where
  learn : κ → ρ → ι → κ
  Allowed : κ → ρ → Prop

namespace Rules

variable (R : Rules ρ ι κ)

def known (k : κ) (exchanges : List (ρ × ι)) : κ :=
  exchanges.foldl (fun k e => R.learn k e.1 e.2) k

/-- Every call was allowed when it was made. -/
def Obeys : κ → List (ρ × ι) → Prop
  | _, [] => True
  | k, (r, i) :: exchanges => R.Allowed k r ∧ Obeys (R.learn k r i) exchanges

theorem obeys_append {k : κ} {ex ex' : List (ρ × ι)} :
    R.Obeys k (ex ++ ex') ↔ R.Obeys k ex ∧ R.Obeys (R.known k ex) ex' := by
  induction ex generalizing k with
  | nil => exact ⟨fun h => ⟨trivial, h⟩, fun h => h.2⟩
  | cons e ex ih =>
    rw [List.cons_append, Obeys, Obeys, ih, and_assoc]
    rfl

theorem known_append (k : κ) (ex ex' : List (ρ × ι)) :
    R.known k (ex ++ ex') = R.known (R.known k ex) ex' := List.foldl_append

/-- With knowledge `P`, the program makes only allowed calls, whatever the replies are; a value
`a` comes with knowledge `Q a`, and a failure `e` with `E e`. -/
def Triple (P : κ → Prop) (m : Talk ρ ι ε α) (Q : α → κ → Prop) (E : ε → κ → Prop) : Prop :=
  ∀ k replies, P k → R.Obeys k (m replies).exchanges ∧ ∀ r ∈ (m replies).ended, match r.1 with
    | .ok a => Q a (R.known k (m replies).exchanges)
    | .error e => E e (R.known k (m replies).exchanges)

variable {R} {P P' : κ → Prop} {Q Q' : α → κ → Prop} {E : ε → κ → Prop}

theorem Triple.pure (a : α) : R.Triple (Q a) (Pure.pure a : Talk ρ ι ε α) Q E := by
  intro k replies hk
  refine ⟨trivial, fun r hr => ?_⟩
  obtain rfl := Option.some.inj hr
  exact hk

theorem Triple.fail (e : ε) : R.Triple (E e) (.fail e : Talk ρ ι ε α) Q E := by
  intro k replies hk
  refine ⟨trivial, fun r hr => ?_⟩
  obtain rfl := Option.some.inj hr
  exact hk

theorem Triple.call {Q : ι → κ → Prop} {r : ρ} (hallowed : ∀ k, P k → R.Allowed k r)
    (hlearn : ∀ k i, P k → Q i (R.learn k r i)) : R.Triple P (.call r : Talk ρ ι ε ι) Q E := by
  intro k replies hk
  cases replies with
  | nil => exact ⟨trivial, nofun⟩
  | cons i replies =>
    refine ⟨⟨hallowed k hk, trivial⟩, fun r hr => ?_⟩
    obtain rfl := Option.some.inj hr
    exact hlearn k i hk

theorem Triple.bind {m : Talk ρ ι ε α} {f : α → Talk ρ ι ε β} {S : β → κ → Prop}
    (hm : R.Triple P m Q E) (hf : ∀ a, R.Triple (Q a) (f a) S E) : R.Triple P (m >>= f) S E := by
  change R.Triple P (m.bind f) S E
  intro k replies hk
  obtain ⟨hobeys, hended⟩ := hm k replies hk
  unfold Talk.bind
  rcases hres : m replies with ⟨exchanges, _ | ⟨_ | a, rest⟩⟩
  · rw [hres] at hobeys
    exact ⟨hobeys, nofun⟩
  · rw [hres] at hobeys hended
    refine ⟨hobeys, fun r hr => ?_⟩
    obtain rfl := Option.some.inj hr
    exact hended _ rfl
  · rw [hres] at hobeys hended
    obtain ⟨hobeys', hended'⟩ := hf a _ rest (hended _ rfl)
    refine ⟨(R.obeys_append).mpr ⟨hobeys, hobeys'⟩, fun r hr => ?_⟩
    rw [known_append]
    exact hended' r hr

theorem Triple.weaken {m : Talk ρ ι ε α} (h : R.Triple P m Q E) (hpre : ∀ k, P' k → P k)
    (hpost : ∀ a k, Q a k → Q' a k) : R.Triple P' m Q' E := by
  intro k replies hk
  obtain ⟨hobeys, hended⟩ := h k replies (hpre k hk)
  refine ⟨hobeys, fun r hr => ?_⟩
  have hr' := hended r hr
  rcases r with ⟨_ | a, rest⟩
  · exact hr'
  · exact hpost a _ hr'

theorem Triple.ite {c : Prop} [Decidable c] {m n : Talk ρ ι ε α}
    (hm : c → R.Triple P m Q E) (hn : ¬c → R.Triple P n Q E) :
    R.Triple P (if c then m else n) Q E := by
  by_cases h : c
  · rw [if_pos h]
    exact hm h
  · rw [if_neg h]
    exact hn h

theorem Triple.attempt {m : Talk ρ ι ε α} {S : Except ε α → κ → Prop} {E' : ε' → κ → Prop}
    (h : R.Triple P m (fun a => S (.ok a)) (fun e => S (.error e))) :
    R.Triple P (m.attempt : Talk ρ ι ε' (Except ε α)) S E' := by
  intro k replies hk
  obtain ⟨hobeys, hended⟩ := h k replies hk
  refine ⟨hobeys, fun r hr => ?_⟩
  obtain ⟨⟨res, rest⟩, hres, rfl⟩ := Option.map_eq_some_iff.mp hr
  have hr' := hended _ hres
  cases res with
  | ok a => exact hr'
  | error e => exact hr'

/-- What every turn keeps holds whenever the loop ends. -/
theorem Triple.loop {I : σ → κ → Prop} {body : σ → Talk ρ ι ε (σ ⊕ α)}
    (hbody : ∀ s, R.Triple (I s) (body s) (Sum.elim I Q) E) (s : σ) :
    R.Triple (I s) (.loop body s) Q E := by
  have hturns (n : ℕ) (s : σ) : R.Triple (I s) (Talk.turns body n s) Q E := by
    induction n generalizing s with
    | zero => exact fun _ _ _ => ⟨trivial, nofun⟩
    | succ n ih =>
      refine (hbody s).bind fun r => ?_
      cases r with
      | inl s' => exact ih s'
      | inr a => exact .pure a
  exact fun k replies hk => hturns (replies.length + 1) s k replies hk

end Rules

end Dialogue
