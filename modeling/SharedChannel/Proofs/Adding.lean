import SharedChannel.Proofs.Session

/-!
# What actions add to the history

`Action.Adds` says which effects an action may append to the trace and which results it may end
with; it has one lemma for each way to put actions together. `forall_effects_session` carries it
from the single uses of something to a whole session.
-/

namespace SharedChannel

namespace Action

variable {α β : Type}

/-- The action only appends to the trace, and what it appends satisfies `P`; its result, if it has
one, satisfies `Q`. -/
def Adds (s : Surroundings) (P : Effect → Prop) (Q : α → Prop) (a : Action α) : Prop :=
  ∀ w, (∃ es, (a.perform s w).2.trace = w.trace ++ es ∧ ∀ e ∈ es, P e) ∧
    ∀ r, (a.perform s w).1 = .ok r → Q r

namespace Adds

variable {s : Surroundings} {P : Effect → Prop} {Q : α → Prop} {R : β → Prop} {a : Action α}
  {k : α → Action β}

lemma pure {r : α} (h : Q r) : Adds s P Q (Pure.pure r) := by
  intro w
  refine ⟨⟨[], by simp, by simp⟩, ?_⟩
  rintro r' ⟨⟩
  exact h

lemma throw (f : Failure) : Adds s P Q (throw f : Action α) :=
  fun w => ⟨⟨[], by simp, by simp⟩, nofun⟩

lemma emit {e : Effect} (h : P e) : Adds s P (fun _ => True) (Action.emit e) :=
  fun w => ⟨⟨[e], rfl, by simpa using h⟩, fun _ _ => trivial⟩

lemma get : Adds s P (fun _ => True) (MonadState.get : Action World) :=
  fun w => ⟨⟨[], by simp, by simp⟩, fun _ _ => trivial⟩

lemma read : Adds s P (fun _ => True) (MonadReader.read : Action Surroundings) :=
  fun w => ⟨⟨[], by simp, by simp⟩, fun _ _ => trivial⟩

lemma silent {g : World → World} (h : ∀ w, (g w).trace = w.trace) :
    Adds s P (fun _ => True) (modify g : Action Unit) :=
  fun w => ⟨⟨[], by simp [h], by simp⟩, fun _ _ => trivial⟩

lemma record {level : Logging.Level} {logger message : String} :
    Adds s P (fun _ => True) (Action.record level logger message) :=
  silent fun _ => rfl

lemma ofExcept (r : Except Failure α) (h : ∀ x, r = .ok x → Q x) :
    Adds s P Q (Action.ofExcept r) := by
  intro w
  rw [perform_ofExcept]
  exact ⟨⟨[], by simp, by simp⟩, h⟩

lemma raise (f : Option Failure) : Adds s P (fun _ => True) (Action.raise f) := by
  cases f with
  | none => exact pure trivial
  | some f => exact throw f

lemma pass (takes : Value) : Adds s P (fun _ => True) (Action.pass takes) := by
  intro w
  rw [perform_pass]
  exact ⟨⟨[], by simp, by simp⟩, fun _ _ => trivial⟩

lemma bind (ha : Adds s P Q a) (hk : ∀ r, Q r → Adds s P R (k r)) : Adds s P R (a >>= k) := by
  intro w
  obtain ⟨⟨es, htrace, hes⟩, hresult⟩ := ha w
  rcases h : a.perform s w with ⟨f | r, v⟩
  · rw [perform_bind_of_error h]
    rw [h] at htrace
    exact ⟨⟨es, htrace, hes⟩, nofun⟩
  · rw [perform_bind_of_ok h]
    rw [h] at htrace hresult
    obtain ⟨⟨more, hmore, hall⟩, hr⟩ := hk r (hresult r rfl) v
    refine ⟨⟨es ++ more, ?_, ?_⟩, hr⟩
    · rw [hmore, htrace, List.append_assoc]
    · rw [List.forall_mem_append]
      exact ⟨hes, hall⟩

lemma closeChannel {channel : ℕ} (h : P (.close channel)) :
    Adds s P (fun _ => True) (Action.closeChannel channel) :=
  .bind .get fun _ _ => .bind (.emit h) fun _ _ => .bind .read fun _ _ =>
    .bind (.raise _) fun _ _ => .silent fun _ => rfl

lemma throw_bind (f : Failure) : Adds s P R (MonadExcept.throw f >>= k : Action β) :=
  bind (Q := fun _ => False) (throw f) fun _ h => h.elim

/-- A caught failure leaves what was added before it. -/
lemma attempt (ha : Adds s P Q a) :
    Adds s P (fun r => ∀ x, r = .ok x → Q x) (Action.attempt a) := by
  intro w
  obtain ⟨hadded, hresult⟩ := ha w
  rw [perform_attempt]
  refine ⟨hadded, ?_⟩
  rintro r ⟨⟩
  exact hresult

lemma map {g : α → β} (ha : Adds s P Q a) (hg : ∀ r, Q r → R (g r)) : Adds s P R (g <$> a) := by
  intro w
  obtain ⟨hadded, hresult⟩ := ha w
  rw [perform_map]
  refine ⟨hadded, ?_⟩
  intro r hr
  cases ho : (a.perform s w).1 with
  | error f => simp [ho, Except.map] at hr
  | ok x =>
    rw [ho] at hr
    obtain rfl : g x = r := Except.ok.inj hr
    exact hg x (hresult x ho)

end Adds

end Action

lemma exists_of_mem_forall₂ {α β : Type} {R : α → β → Prop} {l : List α} {m : List β} {b : β}
    (h : List.Forall₂ R l m) (hb : b ∈ m) : ∃ a ∈ l, R a b := by
  induction h with
  | nil => cases hb
  | @cons a b' l m hab _ ih =>
    obtain rfl | hb := List.mem_cons.mp hb
    · exact ⟨a, List.mem_cons_self, hab⟩
    · obtain ⟨a', ha', hab'⟩ := ih hb
      exact ⟨a', List.mem_cons_of_mem _ ha', hab'⟩

/-- In a session each use adds only effects of its kind, if it does so whenever the invariant
holds. -/
theorem forall_effects_session {σ ι ρ : Type} {use : ι → σ → Action (σ × ρ)} {s : Surroundings}
    {I : σ → Prop} {P : ι → Effect → Prop}
    (huse : ∀ x u, I x → (use u x).Adds s (P u) fun r => I r.1) {x : σ} (hx : I x) (w : World)
    (uses : List ι) :
    List.Forall₂ (fun u o => ∀ e ∈ o.effects, P u e) uses (session use s x w uses) := by
  refine forall_session use s ?_ hx w uses
  intro x w u hx
  obtain ⟨⟨es, htrace, hes⟩, hnext⟩ := huse x u hx w
  constructor
  · rw [Observation.effects, observe, htrace, List.drop_left]
    exact hes
  · cases h : ((use u x).perform s w).1 with
    | error f => exact hx
    | ok r => exact hnext r h

end SharedChannel
