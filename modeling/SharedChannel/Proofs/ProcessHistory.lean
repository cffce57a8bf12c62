import SharedChannel.Proofs.RepeatedLoad

/-!
# The environment and the dotenv file

A process sets and removes variables, writes and removes files, and asks for its settings or loads
them again, in any order. In every such history a load takes from the dotenv file only what the
environment does not have, and the config that it comes to agrees with the environment.
-/

namespace SharedChannel

/-- Each field whose variable is set is read from its value. -/
structure Config.Honours (c : Config) (e : Environment) : Prop where
  domain : ∀ v, e.get? "ZITADEL_DOMAIN" = some v → c.domain = .text v
  port : ∀ v, e.get? "ZITADEL_PORT" = some v → c.port = .text v
  insecure : ∀ v, e.get? "ZITADEL_INSECURE" = some v → c.insecure = .bool (flag v)
  pat : ∀ v, e.get? "ZITADEL_PAT" = some v → c.pat = .text v
  timeout : ∀ v, e.get? "ZITADEL_TIMEOUT" = some v → c.timeout = duration v

lemma Config.ofEnvironment_honours {e e' : Environment}
    (h : ∀ x v, e.get? x = some v → e'.get? x = some v) : (ofEnvironment e').Honours e := by
  have hvalue : ∀ x v default, e.get? x = some v → e'.getD x default = v := by
    intro x v default hx
    rw [Environment.getD, h x v hx, Option.getD_some]
  constructor
  · intro v hv
    rw [ofEnvironment, hvalue _ v _ hv]
  · intro v hv
    rw [ofEnvironment, hvalue _ v _ hv]
  · intro v hv
    rw [ofEnvironment, hvalue _ v _ hv]
  · intro v hv
    rw [ofEnvironment, hvalue _ v _ hv]
  · intro v hv
    rw [ofEnvironment, hvalue _ v _ hv]

namespace Settings

/-- What may happen in a process between two looks at its settings. -/
inductive Event where
  | set (name value : String)
  | unset (name : String)
  | save (name : String) (bytes : List UInt8)
  | delete (name : String)
  | amend (serial : Nat) (field : String) (v : Value)
  | current
  | reload
deriving DecidableEq

namespace Event

/-- The step of the process, with the settings that it gives, if it gives any. -/
def step : Event → Step Store (Option Loaded)
  | set name value => do
    setVariable name value
    return none
  | unset name => do
    modify fun p => { p with environment := p.environment.erase name }
    return none
  | save name bytes => do
    saveFile name bytes
    return none
  | delete name => do
    deleteFile name
    return none
  | amend serial field v => do
    Settings.amend serial field v
    return none
  | current => some <$> Settings.current
  | reload => some <$> Settings.reload

/-- The settings are asked for. -/
def isCall : Event → Bool
  | current => true
  | reload => true
  | _ => false

end Event

/-- An event with the stores around it and what it came to. -/
structure Occurrence where
  event : Event
  before : Store
  outcome : Except Failure (Option Loaded)
  after : Store

def Event.occur (e : Event) (p : Store) : Occurrence :=
  ⟨e, p, (e.step.perform p).1, (e.step.perform p).2⟩

/-- The events one after the other; those that fail count too. -/
def history : List Event → Store → List Occurrence
  | [], _ => []
  | e :: rest, p => e.occur p :: history rest (e.occur p).after

/-- The store after the events. -/
def afterEvents (events : List Event) (p : Store) : Store :=
  events.foldl (fun q e => (e.occur q).after) p

/-- The settings are read anew. -/
def Occurrence.Loads (o : Occurrence) : Prop :=
  o.event = .reload ∨ o.event = .current ∧ o.before.cache = none

lemma exists_of_mem_history {events : List Event} {p : Store} {o : Occurrence}
    (h : o ∈ history events p) : ∃ e ∈ events, ∃ q, o = e.occur q := by
  induction events generalizing p with
  | nil => cases h
  | cons e rest ih =>
    obtain rfl | h := List.mem_cons.mp h
    · exact ⟨e, List.mem_cons_self, p, rfl⟩
    · obtain ⟨e', he', q, rfl⟩ := ih h
      exact ⟨e', List.mem_cons_of_mem _ he', q, rfl⟩

variable {p q : Store} {loaded : Loaded}

lemma perform_current_of_none (h : p.cache = none) : current.perform p = reload.perform p := by
  simp only [current, Step.perform_bind, Step.perform_get, h]

lemma perform_current_of_some (h : p.cache = some loaded) :
    current.perform p = (.ok loaded, p) := by
  simp only [current, Step.perform_bind, Step.perform_get, h, Step.perform_pure]

lemma occur_current (p : Store) : Event.current.occur p =
    ⟨.current, p, (current.perform p).1.map some, (current.perform p).2⟩ := by
  rw [Event.occur, Event.step, Step.perform_map]

lemma occur_reload (p : Store) : Event.reload.occur p =
    ⟨.reload, p, (reload.perform p).1.map some, (reload.perform p).2⟩ := by
  rw [Event.occur, Event.step, Step.perform_map]

lemma current_gains (p : Store) : Gains p.Binds p (current.perform p).2 := by
  cases hcache : p.cache with
  | none =>
    rw [perform_current_of_none hcache]
    exact reload_gains p
  | some loaded =>
    rw [perform_current_of_some hcache]
    exact .refl _ p

lemma occur_gains {e : Event} (h : e.isCall = true) (p : Store) :
    Gains p.Binds p (e.occur p).after := by
  cases e with
  | current =>
    rw [occur_current]
    exact current_gains p
  | reload =>
    rw [occur_reload]
    exact reload_gains p
  | _ => cases h

/-- Reading the settings anew is a load, whichever way they are asked for. -/
lemma occur_of_loads {e : Event} (h : (e.occur p).Loads) :
    (e.occur p).outcome = (reload.perform p).1.map some ∧
      (e.occur p).after = (reload.perform p).2 := by
  obtain he | ⟨he, hcache⟩ := h
  · obtain rfl : e = .reload := he
    rw [occur_reload]
    exact ⟨rfl, rfl⟩
  · obtain rfl : e = .current := he
    have hp : p.cache = none := hcache
    rw [occur_current, perform_current_of_none hp]
    exact ⟨rfl, rfl⟩

/-- Settings that are there already are given as they are. -/
lemma occur_of_not_loads {e : Event} (hcall : e.isCall = true) (h : ¬ (e.occur p).Loads) :
    (e.occur p).after = p ∧
      ∃ loaded, p.cache = some loaded ∧ (e.occur p).outcome = .ok (some loaded) := by
  cases e with
  | current =>
    cases hcache : p.cache with
    | none => exact absurd (.inr ⟨rfl, hcache⟩) h
    | some loaded =>
      rw [occur_current, perform_current_of_some hcache]
      exact ⟨rfl, loaded, rfl, rfl⟩
  | reload => exact absurd (.inl rfl) h
  | _ => cases hcall

/-- What a load comes to agrees with the environment before and after it. -/
lemma config_of_loads {e : Event} (h : (e.occur p).Loads)
    (hok : (e.occur p).outcome = .ok (some loaded)) :
    loaded.config = .ofEnvironment (e.occur p).after.environment ∧
      loaded.config.Honours p.environment := by
  obtain ⟨houtcome, hafter⟩ := occur_of_loads h
  have hgains := reload_gains p
  rw [houtcome] at hok
  rw [hafter]
  rcases hrun : reload.perform p with ⟨f | x, q⟩
  · rw [hrun] at hok
    cases hok
  · rw [hrun] at hok hgains
    obtain rfl : x = loaded := by simpa [Except.map] using hok
    have hconfig := (reload_eq_ok hrun).1
    refine ⟨hconfig, ?_⟩
    rw [hconfig]
    exact Config.ofEnvironment_honours hgains.kept

lemma setVariable_environment (name value : String) (p : Store) :
    ((setVariable name value).perform p).2.environment = p.environment ∨
      ((setVariable name value).perform p).2.environment = p.environment.set name value := by
  obtain ⟨f, hrefused⟩ | hassign := Environment.assign_cases name value
  · exact .inl (by simp [setVariable, Step.perform_bind, hrefused])
  · exact .inr (by simp [setVariable, Step.perform_bind, hassign])

lemma occur_set_environment (name value : String) (p : Store) :
    ((Event.set name value).occur p).after.environment = p.environment ∨
      ((Event.set name value).occur p).after.environment = p.environment.set name value := by
  have h := setVariable_environment name value p
  rw [Event.occur, Event.step, Step.perform_bind]
  rcases hrun : (setVariable name value).perform p with ⟨f | u, q⟩ <;> simpa [hrun] using h

lemma occur_save_environment (name : String) (bytes : List UInt8) (p : Store) :
    ((Event.save name bytes).occur p).after.environment = p.environment := by
  cases hfiles : p.files.save name bytes <;>
    simp [Event.occur, Event.step, saveFile, Step.perform_bind, Step.perform_map, hfiles]

lemma occur_delete_environment (name : String) (p : Store) :
    ((Event.delete name).occur p).after.environment = p.environment := by
  cases hfiles : p.files.delete name <;>
    simp [Event.occur, Event.step, deleteFile, Step.perform_bind, Step.perform_map, hfiles]

lemma occur_amend_environment (serial : ℕ) (field : String) (v : Value) (p : Store) :
    ((Event.amend serial field v).occur p).after.environment = p.environment := by
  cases hcache : p.cache with
  | none => simp [Event.occur, Event.step, amend, Step.perform_bind, hcache]
  | some loaded =>
    by_cases hserial : loaded.serial = serial
    · cases hassign : loaded.config.assign field v <;>
        simp [Event.occur, Event.step, amend, Step.perform_bind, Step.perform_map, hcache, hserial,
          hassign]
    · simp [Event.occur, Event.step, amend, Step.perform_bind, hcache, hserial]

/-- Only its own assignment and a load that finds it in the dotenv file give a variable a value. -/
lemma occur_traced {e : Event} {x v : String}
    (h : (e.occur p).after.environment.get? x = some v) :
    p.environment.get? x = some v ∨ e = .set x v ∨ e.isCall = true ∧ p.Binds x v := by
  have hcall : e.isCall = true → p.environment.get? x = some v ∨ p.Binds x v := by
    intro hcall
    have hgains := occur_gains hcall p
    cases hx : p.environment.get? x with
    | none => exact .inr (hgains.added x v hx h)
    | some u => exact .inl ((hgains.kept x u hx).symm.trans h)
  cases e with
  | set name value =>
    obtain henvironment | henvironment := occur_set_environment name value p
    · rw [henvironment] at h
      exact .inl h
    · rw [henvironment, Environment.get?_set] at h
      split at h
      · next hname =>
        obtain rfl := Option.some.inj h
        exact .inr (.inl (by rw [eq_of_beq hname]))
      · exact .inl h
  | unset name =>
    have herased : (p.environment.erase name).get? x = some v := h
    rw [Environment.get?_erase] at herased
    split at herased
    · cases herased
    · exact .inl herased
  | save name bytes =>
    rw [occur_save_environment] at h
    exact .inl h
  | delete name =>
    rw [occur_delete_environment] at h
    exact .inl h
  | amend serial field u =>
    rw [occur_amend_environment] at h
    exact .inl h
  | current => exact (hcall rfl).imp_right fun hbinds => .inr ⟨rfl, hbinds⟩
  | reload => exact (hcall rfl).imp_right fun hbinds => .inr ⟨rfl, hbinds⟩

/-- A variable keeps its value in every event that does not assign or remove it. -/
lemma occur_keeps {e : Event} {x v : String} (hset : ∀ u, e ≠ .set x u) (hunset : e ≠ .unset x)
    (h : p.environment.get? x = some v) : (e.occur p).after.environment.get? x = some v := by
  cases e with
  | set name value =>
    have hname : ¬ (x == name) = true := by
      rintro hname
      exact hset value (by rw [eq_of_beq hname])
    obtain henvironment | henvironment := occur_set_environment name value p
    · rwa [henvironment]
    · rwa [henvironment, Environment.get?_set, if_neg hname]
  | unset name =>
    have hname : ¬ (x == name) = true := by
      rintro hname
      exact hunset (by rw [eq_of_beq hname])
    change (p.environment.erase name).get? x = some v
    rwa [Environment.get?_erase, if_neg hname]
  | save name bytes => rwa [occur_save_environment]
  | delete name => rwa [occur_delete_environment]
  | amend serial field u => rwa [occur_amend_environment]
  | current => exact (occur_gains rfl p).kept x v h
  | reload => exact (occur_gains rfl p).kept x v h

/-- No load in a history overrides or removes a variable. -/
theorem afterEvents_keeps {events : List Event} {x v : String} (hset : ∀ u, .set x u ∉ events)
    (hunset : .unset x ∉ events) (h : p.environment.get? x = some v) :
    (afterEvents events p).environment.get? x = some v := by
  induction events generalizing p with
  | nil => exact h
  | cons e rest ih =>
    have hkept : (e.occur p).after.environment.get? x = some v := by
      refine occur_keeps ?_ ?_ h
      · rintro u rfl
        exact hset u List.mem_cons_self
      · rintro rfl
        exact hunset List.mem_cons_self
    exact ih (fun u hu => hset u (List.mem_cons_of_mem _ hu))
      (fun hx => hunset (List.mem_cons_of_mem _ hx)) hkept

/-- Every variable was there before, was assigned, or comes from the dotenv file of a load. -/
theorem afterEvents_traced {events : List Event} {x v : String}
    (h : (afterEvents events p).environment.get? x = some v) :
    p.environment.get? x = some v ∨ .set x v ∈ events ∨
      ∃ o ∈ history events p, o.event.isCall = true ∧ o.before.Binds x v := by
  induction events generalizing p with
  | nil => exact .inl h
  | cons e rest ih =>
    obtain hx | hset | ⟨o, ho, hcall, hbinds⟩ := ih h
    · obtain hp | rfl | ⟨hcall, hbinds⟩ := occur_traced hx
      · exact .inl hp
      · exact .inr (.inl List.mem_cons_self)
      · exact .inr (.inr ⟨e.occur p, List.mem_cons_self, hcall, hbinds⟩)
    · exact .inr (.inl (List.mem_cons_of_mem _ hset))
    · exact .inr (.inr ⟨o, List.mem_cons_of_mem _ ho, hcall, hbinds⟩)

/-- In every history, a call for the settings leaves the variables that are set and the files alone
and adds only what the dotenv file gives. What a load comes to is read from the environment after
it, and for variables that were set, from their values. -/
theorem environment_wins (p : Store) (events : List Event) :
    ∀ o ∈ history events p, o.event.isCall = true →
      Gains o.before.Binds o.before o.after ∧
      (∀ loaded, o.Loads → o.outcome = .ok (some loaded) →
        loaded.config = .ofEnvironment o.after.environment ∧
          loaded.config.Honours o.before.environment) ∧
      (¬ o.Loads → o.after = o.before ∧
        ∃ loaded, o.before.cache = some loaded ∧ o.outcome = .ok (some loaded)) := by
  intro o ho hcall
  obtain ⟨e, -, q, rfl⟩ := exists_of_mem_history ho
  refine ⟨occur_gains hcall q, ?_, ?_⟩
  · intro loaded hloads hok
    exact config_of_loads hloads hok
  · intro hloads
    exact occur_of_not_loads hcall hloads

namespace Restarted

/-- The port is set to nothing, and the file gives it a value. -/
def store : Store where
  environment := .ofList
    [("ZITADEL_PORT", ""), ("ZITADEL_INSECURE", "Yes"), ("ZITADEL_TIMEOUT", " 2_5e-1 ")]
  files := { files := [([".env"], "ZITADEL_PORT=1\nZITADEL_DOMAIN=a\n".toUTF8.toList)] }

/-- The second file gives values to three variables, of which one is free. -/
def bytes : List UInt8 :=
  "ZITADEL_DOMAIN=b\nZITADEL_INSECURE=0\nZITADEL_TIMEOUT=9\n".toUTF8.toList

/-- The store when the settings are loaded for the second time. -/
def before : Store :=
  afterEvents [.current, .unset "ZITADEL_DOMAIN", .save ".env" bytes] store

def second : Occurrence := Event.reload.occur before

def answer : Loaded where
  serial := 2
  config :=
    { domain := .text "b", port := .text "", insecure := .bool true
      timeout := .float (.round (5 / 2)) }

end Restarted

open Restarted in
theorem second_load_honours_environment :
    second ∈ history [.current, .unset "ZITADEL_DOMAIN", .save ".env" bytes, .reload] store ∧
      second.outcome = .ok (some answer) ∧
      Gains before.Binds before second.after ∧ answer.config.Honours before.environment ∧
      answer.config = .ofEnvironment second.after.environment := by
  have hmem : second ∈ history [.current, .unset "ZITADEL_DOMAIN", .save ".env" bytes, .reload]
      store :=
    .tail _ (.tail _ (.tail _ (.head _)))
  have hok : second.outcome = .ok (some answer) := by decide +kernel
  obtain ⟨hgains, hload, -⟩ := environment_wins store _ second hmem rfl
  obtain ⟨hconfig, hhonours⟩ := hload answer (.inl rfl) hok
  exact ⟨hmem, hok, hgains, hhonours, hconfig⟩

end Settings

end SharedChannel
