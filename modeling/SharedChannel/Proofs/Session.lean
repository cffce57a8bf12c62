import SharedChannel.Proofs.Plan
import Mathlib.Data.List.Forall2

/-!
# Sessions

A session uses something again and again, a channel or a client. A use that fails leaves the thing
as it was, and the session goes on in the world that the failure left. What holds of each single use
holds of all uses of a session (`forall_session`), and likewise for two sessions side by side
(`forall₂_session`).
-/

namespace SharedChannel

/-- What can be seen of one use: its outcome, and the worlds before and after it. -/
structure Observation (ρ : Type) where
  outcome : Except Failure ρ
  before : World
  after : World

def Observation.effects {ρ : Type} (o : Observation ρ) : List Effect :=
  o.after.trace.drop o.before.trace.length

section Sessions

variable {σ τ ι ρ : Type} (use : ι → σ → Action (σ × ρ)) (s : Surroundings)

def afterUse (x : σ) : Except Failure (σ × ρ) → σ
  | .ok (x', _) => x'
  | .error _ => x

def observe (x : σ) (w : World) (u : ι) : Observation ρ :=
  ⟨((use u x).perform s w).1.map Prod.snd, w, ((use u x).perform s w).2⟩

def session (x : σ) (w : World) : List ι → List (Observation ρ)
  | [] => []
  | u :: rest =>
    observe use s x w u ::
      session (afterUse x ((use u x).perform s w).1) ((use u x).perform s w).2 rest

/-- What is invariant, and follows for one use from the invariant, holds of a whole session. -/
theorem forall_session {I : σ → Prop} {P : ι → Observation ρ → Prop}
    (hstep : ∀ x w u, I x →
      P u (observe use s x w u) ∧ I (afterUse x ((use u x).perform s w).1))
    {x : σ} (hx : I x) (w : World) (uses : List ι) :
    List.Forall₂ P uses (session use s x w uses) := by
  induction uses generalizing x w with
  | nil => exact .nil
  | cons u rest ih =>
    obtain ⟨hfirst, hnext⟩ := hstep x w u hx
    exact .cons hfirst (ih hnext _)

/-- Two sessions with the same uses go side by side if single uses do. -/
theorem forall₂_session {use' : ι → τ → Action (τ × ρ)} {s' : Surroundings}
    {R : σ × World → τ × World → Prop} {P : Observation ρ → Observation ρ → Prop}
    {uses : List ι}
    (hstep : ∀ x w y v, ∀ u ∈ uses, R (x, w) (y, v) →
      P (observe use s x w u) (observe use' s' y v u) ∧
        R (afterUse x ((use u x).perform s w).1, ((use u x).perform s w).2)
          (afterUse y ((use' u y).perform s' v).1, ((use' u y).perform s' v).2))
    {x : σ} {w : World} {y : τ} {v : World} (h : R (x, w) (y, v)) :
    List.Forall₂ P (session use s x w uses) (session use' s' y v uses) := by
  induction uses generalizing x w y v with
  | nil => exact .nil
  | cons u rest ih =>
    obtain ⟨hfirst, hnext⟩ := hstep x w y v u (by simp) h
    exact .cons hfirst (ih (fun x w y v u hu => hstep x w y v u (by simp [hu])) hnext)

end Sessions

/-- What a client can be used for: a call on its channel or through the stub of an accessor, and
closing it. -/
inductive Use where
  | call (accessor : Option String) (call : Call)
  | close

namespace Client

/-- The channel that calls use. -/
def channelFor (c : Client) : Option String → Except Failure Channel
  | none => .ok c.channel
  | some accessor => Stub.channel <$> c.access accessor

/-- What is kept under the accessors of services is found by the service. -/
lemma lookup_map_accessor {β : Type} (g : Service → β) (services : List Service) (name : String) :
    (services.map fun service => (service.accessor, g service)).lookup name =
      (services.find? (name == ·.accessor)).map g := by
  induction services with
  | nil => rfl
  | cons service rest ih =>
    rw [List.map_cons, List.lookup_cons, List.find?_cons, ih]
    cases name == service.accessor <;> rfl

lemma lookup_stubsOn (c : Channel) (name : String) :
    (stubsOn c).lookup name =
      (Service.all.find? (name == ·.accessor)).map fun service => ⟨service, c⟩ :=
  lookup_map_accessor _ _ name

/-- Each property looks up the stub of its own service. -/
lemma lookup_stubKeys (name : String) :
    stubKeys.lookup name = (Service.all.find? (name == ·.accessor)).map (·.accessor) := by
  have hkeys : stubKeys = Service.all.map fun service => (service.accessor, service.accessor) := rfl
  rw [hkeys]
  exact lookup_map_accessor _ _ name

/-- Why a call cannot be made: there is no stub under the name. -/
def refusal? : Option String → Option Failure
  | none => none
  | some name =>
    if (Service.all.find? (name == ·.accessor)).isSome then none
    else some (.unknownAttribute kindName name)

/-- What the properties of an intact client give. -/
lemma Intact.access {c : Client} (hc : c.Intact) (name : String) :
    c.access name =
      match Service.all.find? (name == ·.accessor) with
      | none => .error (.unknownAttribute kindName name)
      | some service => .ok ⟨service, c.channel⟩ := by
  rw [Client.access, lookup_stubKeys]
  cases hfind : Service.all.find? (name == ·.accessor) with
  | none => rfl
  | some service =>
    have hname : name = service.accessor := by simpa using List.find?_some hfind
    rw [hname] at hfind
    simp only [Option.map_some]
    rw [has, hc.lost, hc.stubs, lookup_stubsOn, hfind]
    rfl

/-- Calls through a stub use the channel of the client, as calls on the channel itself do. -/
lemma Intact.channelFor {c : Client} (hc : c.Intact) (accessor : Option String) :
    c.channelFor accessor =
      match refusal? accessor with
      | none => .ok c.channel
      | some f => .error f := by
  cases accessor with
  | none => rfl
  | some name =>
    rw [Client.channelFor, hc.access, refusal?]
    cases Service.all.find? (name == ·.accessor) <;> rfl

def use (u : Use) (c : Client) : Action (Client × Option Reply) :=
  match u with
  | .call accessor call => do
    let channel ← Action.ofExcept (c.channelFor accessor)
    let reply ← channel.invoke call
    return (c, some reply)
  | .close => do
    let c' ← c.close
    return (c', none)

end Client

def Channel.use (call : Call) (c : Channel) : Action (Channel × Reply) := do
  let reply ← c.invoke call
  return (c, reply)

end SharedChannel
