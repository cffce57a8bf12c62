import SharedChannel.Proofs.Issuers

/-!
# Two runs side by side

Two runs may differ in the tokens of the provider that a client makes for itself. `World.Alike` says
that two worlds are the same once the values of that provider's entries are erased. `Action.Alike`
says that two actions lead from worlds that are alike to such worlds again and end in the same way;
it has one lemma for each way to put actions together. How a call ends is for the transport to say,
which sees the values. `Transport.SameAnswer` leaves that open, and `Transport.Blind` excludes it.
-/

namespace SharedChannel

/-- The entry without its value, if it comes from the client's own provider. -/
def Entry.erase (entry : Entry) : Entry :=
  if entry.isOwn then { entry with value := "" } else entry

def Metadata.erase (m : Metadata) : Metadata := m.map Entry.erase

def CallDetails.erase (d : CallDetails) : CallDetails :=
  { d with metadata := d.metadata.map Metadata.erase }

def Effect.erase : Effect → Effect
  | intercept label kind d => intercept label kind d.erase
  | call channel kind request d plugin =>
    call channel kind request d.erase (plugin.map Metadata.erase)
  | e => e

/-- The values of the own provider's entries are nothing to the transport. -/
structure Transport.Blind (t : Transport) : Prop where
  exchange_eq : ∀ (kind : CallKind) (request : Value) {d d' : CallDetails}
    {plugin plugin' : Option Metadata},
    d.erase = d'.erase → plugin.map Metadata.erase = plugin'.map Metadata.erase →
      t.exchange kind request d plugin = t.exchange kind request d' plugin'

/-- Outcomes that are the same, or that are what the transport makes of one call with other values
of the own provider's entries. `g` is what becomes of a reply. -/
inductive Transport.SameAnswer (t : Transport) {α : Type} (g : Reply → α) :
    Except Failure α → Except Failure α → Prop where
  | same (r : Except Failure α) : SameAnswer t g r r
  | exchanged (kind : CallKind) (request : Value) {d d' : CallDetails}
      {plugin plugin' : Option Metadata} (hd : d.erase = d'.erase)
      (hplugin : plugin.map Metadata.erase = plugin'.map Metadata.erase) :
      SameAnswer t g ((t.exchange kind request d plugin).map g)
        ((t.exchange kind request d' plugin').map g)

namespace Transport.SameAnswer

variable {t : Transport} {α β : Type} {g : Reply → α} {r r' : Except Failure α}

lemma eq (h : t.SameAnswer g r r') (ht : t.Blind) : r = r' := by
  cases h with
  | same r => rfl
  | exchanged kind request hd hplugin => rw [ht.exchange_eq kind request hd hplugin]

lemma map (h : t.SameAnswer g r r') (k : α → β) :
    t.SameAnswer (fun reply => k (g reply)) (r.map k) (r'.map k) := by
  have hmap : ∀ x : Except Failure Reply, (x.map g).map k = x.map fun reply => k (g reply) := by
    rintro (f | reply) <;> rfl
  cases h with
  | same r => exact .same _
  | exchanged kind request hd hplugin =>
    rw [hmap, hmap]
    exact .exchanged kind request hd hplugin

end Transport.SameAnswer

lemma Effect.isAsk_erase (x : SourceName) (e : Effect) : e.erase.isAsk x = e.isAsk x := by
  cases e <;> rfl

lemma Effect.isClose_erase (e : Effect) : e.erase.isClose = e.isClose := by
  cases e <;> rfl

/-- The worlds differ in nothing but values of the own provider's entries, and in the store. -/
structure World.Alike (w v : World) : Prop where
  clock : w.clock = v.clock
  opened : w.opened = v.opened
  closed : w.closed = v.closed
  log : w.log = v.log
  trace : w.trace.map Effect.erase = v.trace.map Effect.erase

namespace World.Alike

variable {w v : World}

lemma countP_eq {p : Effect → Bool} (hp : ∀ e : Effect, p e.erase = p e) (h : w.Alike v) :
    w.trace.countP p = v.trace.countP p := by
  have herased : ∀ l : List Effect, (l.map Effect.erase).countP p = l.countP p := by
    intro l
    rw [List.countP_map]
    exact List.countP_congr fun e _ => by simp [hp]
  rw [← herased, h.trace, herased]

lemma asks (h : w.Alike v) (x : SourceName) : w.asks x = v.asks x :=
  h.countP_eq (Effect.isAsk_erase x)

lemma closeAttempts (h : w.Alike v) : w.closeAttempts = v.closeAttempts :=
  h.countP_eq Effect.isClose_erase

end World.Alike

/-- Results that are related, or one and the same failure. -/
inductive SameOutcome {α β : Type} (Q : α → β → Prop) : Except Failure α → Except Failure β → Prop
    where
  | ok {x : α} {y : β} (h : Q x y) : SameOutcome Q (.ok x) (.ok y)
  | error (f : Failure) : SameOutcome Q (.error f) (.error f)

namespace SameOutcome

variable {α β : Type} {Q : α → β → Prop} {r : Except Failure α} {r' : Except Failure β}

lemma refl {Q : α → α → Prop} (h : ∀ x, Q x x) (r : Except Failure α) : SameOutcome Q r r := by
  cases r with
  | ok x => exact .ok (h x)
  | error f => exact .error f

lemma map {γ δ : Type} {R : γ → δ → Prop} {g : α → γ} {g' : β → δ} (h : SameOutcome Q r r')
    (hg : ∀ x y, Q x y → R (g x) (g' y)) : SameOutcome R (r.map g) (r'.map g') := by
  cases h with
  | ok hxy => exact .ok (hg _ _ hxy)
  | error f => exact .error f

lemma imp {R : α → β → Prop} (h : SameOutcome Q r r') (hQ : ∀ x y, Q x y → R x y) :
    SameOutcome R r r' := by
  cases h with
  | ok hxy => exact .ok (hQ _ _ hxy)
  | error f => exact .error f

lemma eq {r r' : Except Failure α} (h : SameOutcome Eq r r') : r = r' := by
  cases h with
  | ok hxy => rw [hxy]
  | error f => rfl

end SameOutcome

namespace Action

variable {α β γ δ : Type}

/-- In worlds that are alike the actions end in ways that are related, and leave the worlds
alike. -/
def Leads (s : Surroundings) (P : Except Failure α → Except Failure β → Prop) (a : Action α)
    (b : Action β) : Prop :=
  ∀ w v : World, w.Alike v →
    P (a.perform s w).1 (b.perform s v).1 ∧ (a.perform s w).2.Alike (b.perform s v).2

/-- In worlds that are alike the actions end in the same way, and leave the worlds alike. -/
def Alike (s : Surroundings) (Q : α → β → Prop) (a : Action α) (b : Action β) : Prop :=
  Leads s (SameOutcome Q) a b

namespace Leads

variable {s : Surroundings} {P : Except Failure γ → Except Failure δ → Prop} {Q : α → β → Prop}
  {a : Action α} {b : Action β} {k : α → Action γ} {l : β → Action δ}

/-- Actions that are alike, before others of any kind, which a failure keeps from being reached. -/
lemma bind (hP : ∀ f, P (.error f) (.error f)) (ha : Alike s Q a b)
    (hk : ∀ x y, Q x y → Leads s P (k x) (l y)) : Leads s P (a >>= k) (b >>= l) := by
  intro w v hw
  obtain ⟨houtcome, hworlds⟩ := ha w v hw
  rcases hx : a.perform s w with ⟨r, w'⟩
  rcases hy : b.perform s v with ⟨r', v'⟩
  rw [hx, hy] at houtcome hworlds
  cases houtcome with
  | error f =>
    rw [perform_bind_of_error hx, perform_bind_of_error hy]
    exact ⟨hP f, hworlds⟩
  | ok hxy =>
    rw [perform_bind_of_ok hx, perform_bind_of_ok hy]
    exact hk _ _ hxy _ _ hworlds

/-- A step without a result of interest, before the rest. -/
lemma andThen {a b : Action α} {k : α → Action γ} {l : α → Action δ}
    (hP : ∀ f, P (.error f) (.error f)) (ha : Alike s Eq a b)
    (hk : ∀ x, Leads s P (k x) (l x)) : Leads s P (a >>= k) (b >>= l) := by
  refine bind hP ha ?_
  rintro x _ rfl
  exact hk x

/-- Both actions are given the same surroundings. -/
lemma read {k : Surroundings → Action γ} {l : Surroundings → Action δ}
    (h : Leads s P (k s) (l s)) :
    Leads s P (MonadReader.read >>= k) (MonadReader.read >>= l) := by
  intro w v hw
  rw [perform_bind_of_ok (perform_read s w), perform_bind_of_ok (perform_read s v)]
  exact h w v hw

lemma throw {f : Failure} (hP : P (.error f) (.error f)) :
    Leads s P (MonadExcept.throw f : Action γ) (MonadExcept.throw f : Action δ) :=
  fun _ _ hw => ⟨hP, hw⟩

lemma throw_bind {f : Failure} (hP : ∀ f, P (.error f) (.error f)) :
    Leads s P (MonadExcept.throw f >>= k : Action γ) (MonadExcept.throw f >>= l : Action δ) :=
  bind (Q := fun _ _ => False) hP (fun _ _ hw => ⟨.error f, hw⟩) fun _ _ h => h.elim

lemma imp {P' : Except Failure α → Except Failure β → Prop} (h : Leads s P' a b)
    {P : Except Failure α → Except Failure β → Prop} (hP : ∀ r r', P' r r' → P r r') :
    Leads s P a b := by
  intro w v hw
  obtain ⟨houtcome, hworlds⟩ := h w v hw
  exact ⟨hP _ _ houtcome, hworlds⟩

lemma map {P' : Except Failure α → Except Failure β → Prop} {g : α → γ} {m : β → δ}
    (h : Leads s P' a b) (hP : ∀ r r', P' r r' → P (r.map g) (r'.map m)) :
    Leads s P (g <$> a) (m <$> b) := by
  intro w v hw
  obtain ⟨houtcome, hworlds⟩ := h w v hw
  rw [perform_map, perform_map]
  exact ⟨hP _ _ houtcome, hworlds⟩

end Leads

namespace Alike

variable {s : Surroundings} {Q : α → β → Prop} {R : γ → δ → Prop} {a : Action α} {b : Action β}
  {k : α → Action γ} {l : β → Action δ}

lemma pure {x : α} {y : β} (h : Q x y) : Alike s Q (Pure.pure x) (Pure.pure y) :=
  fun _ _ hw => ⟨.ok h, hw⟩

lemma throw (f : Failure) : Alike s Q (throw f : Action α) (throw f : Action β) :=
  fun _ _ hw => ⟨.error f, hw⟩

lemma get : Alike s World.Alike (MonadState.get : Action World) MonadState.get :=
  fun _ _ hw => ⟨.ok hw, hw⟩

lemma read : Alike s Eq (MonadReader.read : Action Surroundings) MonadReader.read :=
  fun _ _ hw => ⟨.ok rfl, hw⟩

lemma modify {g g' : World → World} (h : ∀ w v, w.Alike v → (g w).Alike (g' v)) :
    Alike s Eq (modify g : Action Unit) (modify g' : Action Unit) :=
  fun w v hw => ⟨.ok rfl, h w v hw⟩

lemma emit {e e' : Effect} (h : e.erase = e'.erase) :
    Alike s Eq (Action.emit e) (Action.emit e') := by
  refine modify fun w v hw => ⟨hw.clock, hw.opened, hw.closed, hw.log, ?_⟩
  rw [List.map_append, List.map_append, hw.trace]
  exact congrArg (_ ++ [·]) h

lemma record {level : Logging.Level} {logger message : String} :
    Alike s Eq (Action.record level logger message) (Action.record level logger message) :=
  modify fun _ _ hw => ⟨hw.clock, hw.opened, hw.closed, congrArg (· ++ _) hw.log, hw.trace⟩

lemma ofExcept {r : Except Failure α} {r' : Except Failure β} (h : SameOutcome Q r r') :
    Alike s Q (Action.ofExcept r) (Action.ofExcept r') := by
  intro w v hw
  rw [perform_ofExcept, perform_ofExcept]
  exact ⟨h, hw⟩

lemma raise (f : Option Failure) : Alike s Eq (Action.raise f) (Action.raise f) := by
  cases f with
  | none => exact pure rfl
  | some f => exact throw f

lemma bind (ha : Alike s Q a b) (hk : ∀ x y, Q x y → Alike s R (k x) (l y)) :
    Alike s R (a >>= k) (b >>= l) :=
  Leads.bind .error ha hk

/-- A step without a result of interest, before the rest. -/
lemma andThen {a b : Action α} {k : α → Action γ} {l : α → Action δ} (ha : Alike s Eq a b)
    (hk : ∀ x, Alike s R (k x) (l x)) : Alike s R (a >>= k) (b >>= l) :=
  Leads.andThen .error ha hk

lemma throw_bind (f : Failure) :
    Alike s R (MonadExcept.throw f >>= k : Action γ) (MonadExcept.throw f >>= l : Action δ) :=
  Leads.throw_bind .error

lemma map {g : α → γ} {g' : β → δ} (ha : Alike s Q a b) (hg : ∀ x y, Q x y → R (g x) (g' y)) :
    Alike s R (g <$> a) (g' <$> b) :=
  Leads.map ha fun _ _ h => h.map hg

lemma attempt (ha : Alike s Q a b) :
    Alike s (SameOutcome Q) (Action.attempt a) (Action.attempt b) := by
  intro w v hw
  obtain ⟨houtcome, hworlds⟩ := ha w v hw
  rw [perform_attempt, perform_attempt]
  exact ⟨.ok houtcome, hworlds⟩

lemma pass (takes : Value) : Alike s Eq (Action.pass takes) (Action.pass takes) := by
  intro w v hw
  rw [perform_pass, perform_pass, hw.clock]
  exact ⟨.refl (fun _ => rfl) _, rfl, hw.opened, hw.closed, hw.log, hw.trace⟩

lemma openChannel (e : Effect) : Alike s Eq (Action.openChannel e) (Action.openChannel e) := by
  refine (emit rfl).andThen fun _ => .andThen read fun s' => .andThen (raise _) fun _ => ?_
  refine .andThen (modify fun w v hw => ?_) fun _ => ?_
  · exact ⟨hw.clock, congrArg (· + 1) hw.opened, hw.closed, hw.log, hw.trace⟩
  · exact .bind get fun w v hw => .pure hw.opened

lemma closeChannel (channel : ℕ) :
    Alike s Eq (Action.closeChannel channel) (Action.closeChannel channel) := by
  refine .bind get fun w v hw => ?_
  rw [hw.closeAttempts]
  refine (emit rfl).andThen fun _ => .andThen read fun s' => .andThen (raise _) fun _ => ?_
  exact modify fun w v hw => ⟨hw.clock, hw.opened, congrArg (· ++ _) hw.closed, hw.log, hw.trace⟩

lemma mapM {ι : Type} {f : ι → Action α} {g : ι → Action β} (h : ∀ i, Alike s Q (f i) (g i))
    (items : List ι) : Alike s (List.Forall₂ Q) (items.mapM f) (items.mapM g) := by
  induction items with
  | nil => exact pure .nil
  | cons i rest ih =>
    rw [List.mapM_cons, List.mapM_cons]
    exact bind (h i) fun x y hxy => bind ih fun xs ys hrest => pure (.cons hxy hrest)

end Alike

end Action

end SharedChannel
