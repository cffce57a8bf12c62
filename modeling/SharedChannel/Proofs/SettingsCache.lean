import SharedChannel.Proofs.ProcessHistory

/-!
# The settings that a process keeps

A process keeps the settings of its last successful load. `keeps_occur` says what one event makes of
them, and `cache_cases` what a history does: there are none until a load succeeds, and from then on
they are those of the last load, with what was assigned to their fields since. While there are any,
asking for them neither reads the file nor looks at the environment.
-/

namespace SharedChannel.Settings

namespace Event

/-- A field of settings that were given earlier is assigned. -/
def isAmend : Event → Bool
  | amend .. => true
  | _ => false

/-- What an event makes of settings that are kept: an assignment to them changes a field, unless it
is refused. -/
def amended : Event → Loaded → Loaded
  | amend serial field v, kept =>
    if kept.serial == serial then
      match kept.config.assign field v with
      | .ok config => { kept with config }
      | .error _ => kept
    else kept
  | _, kept => kept

end Event

/-- The settings that a load gave, if the event was a load and succeeded. -/
def Occurrence.loaded? (o : Occurrence) : Option Loaded :=
  match o.event, o.before.cache, o.outcome with
  | .reload, _, .ok answer => answer
  | .current, none, .ok answer => answer
  | _, _, _ => none

variable {p q : Store} {loaded : Loaded}

/-- What `loaded?` reads off an occurrence: it loads, and the outcome is the settings. -/
lemma Occurrence.loaded?_eq_some_iff {o : Occurrence} :
    o.loaded? = some loaded ↔ o.Loads ∧ o.outcome = .ok (some loaded) := by
  obtain ⟨event, before, outcome, after⟩ := o
  unfold loaded? Loads
  cases event with
  | reload => cases outcome <;> simp
  | current => cases before.cache <;> cases outcome <;> simp
  | _ => simp

lemma Event.amended_serial (e : Event) (kept : Loaded) : (e.amended kept).serial = kept.serial := by
  unfold amended
  split
  · split
    · split <;> rfl
    · rfl
  · rfl

lemma Event.amended_eq_self {e : Event} (h : e.isAmend = false) (kept : Loaded) :
    e.amended kept = kept := by
  cases e with
  | amend serial field v => cases h
  | _ => rfl

lemma Event.map_amended_eq_self {e : Event} (h : e.isAmend = false) (cache : Option Loaded) :
    cache.map e.amended = cache := by
  cases cache with
  | none => rfl
  | some kept => rw [Option.map_some, amended_eq_self h]

lemma foldl_amended_eq_self {later : List Occurrence} (h : ∀ o ∈ later, o.event.isAmend = false)
    (fresh : Loaded) : later.foldl (fun kept o => o.event.amended kept) fresh = fresh := by
  induction later with
  | nil => rfl
  | cons o rest ih =>
    have ho := Event.amended_eq_self (h o List.mem_cons_self) fresh
    rw [List.foldl_cons, ho]
    exact ih fun o' ho' => h o' (List.mem_cons_of_mem _ ho')

lemma setFree_store (vs : Dotenv.Values) (p : Store) :
    ∃ e, ((setFree vs).perform p).2 = { p with environment := e } := by
  induction vs generalizing p with
  | nil => exact ⟨p.environment, rfl⟩
  | cons b rest ih =>
    obtain ⟨x, v | v⟩ := b
    · exact ih p
    · obtain ⟨-, hrun⟩ | ⟨-, hrun | ⟨f, hrun⟩⟩ := setFree_cons_cases x v rest p
      · rw [hrun]
        exact ih p
      · rw [hrun]
        exact ih { p with environment := p.environment.set x v }
      · rw [hrun]
        exact ⟨p.environment, rfl⟩

/-- Whatever reading the dotenv file comes to, it changes the environment alone. -/
lemma loadFile_store (p : Store) : ∃ e, (loadFile.perform p).2 = { p with environment := e } := by
  rw [perform_loadFile_bindings]
  cases p.fileBindings with
  | error f => exact ⟨p.environment, rfl⟩
  | ok bs => exact setFree_store _ p

/-- A load that fails keeps the settings there were, and one that succeeds keeps what it gives,
under the next number. -/
lemma reload_cache (p : Store) :
    (∃ f q, reload.perform p = (.error f, q) ∧ q.cache = p.cache ∧ q.loads = p.loads) ∨
      ∃ loaded q, reload.perform p = (.ok loaded, q) ∧ q.cache = some loaded ∧
        loaded.serial = p.loads + 1 ∧ q.loads = p.loads + 1 := by
  obtain ⟨e, he⟩ := loadFile_store p
  rw [perform_reload]
  rcases hload : loadFile.perform p with ⟨f | u, q⟩
  · have hq : q = { p with environment := e } := by rw [← he, hload]
    left
    exact ⟨f, q, rfl, by rw [hq], by rw [hq]⟩
  · have hloads : q.loads = p.loads := by
      have hq : q = { p with environment := e } := by rw [← he, hload]
      rw [hq]
    right
    refine ⟨_, _, rfl, rfl, ?_, ?_⟩
    · rw [hloads]
    · rw [hloads]

/-- What an event does to the settings that are kept. -/
structure Keeps (o : Occurrence) : Prop where
  cache : o.after.cache = o.loaded?.or (o.before.cache.map o.event.amended)
  loads : o.after.loads = o.before.loads + o.loaded?.toList.length
  serial : ∀ loaded, o.loaded? = some loaded → loaded.serial = o.after.loads

lemma Keeps.of_none {o : Occurrence} (hnone : o.loaded? = none)
    (hcache : o.after.cache = o.before.cache.map o.event.amended)
    (hloads : o.after.loads = o.before.loads) : Keeps o := by
  constructor
  · rw [hnone, hcache, Option.none_or]
  · rw [hnone, hloads]
    rfl
  · intro loaded hsome
    rw [hnone] at hsome
    cases hsome

lemma Keeps.of_some {o : Occurrence} (hsome : o.loaded? = some loaded)
    (hcache : o.after.cache = some loaded) (hserial : loaded.serial = o.before.loads + 1)
    (hloads : o.after.loads = o.before.loads + 1) : Keeps o := by
  constructor
  · rw [hsome, hcache, Option.some_or]
  · rw [hsome, hloads]
    rfl
  · intro loaded' hsome'
    rw [hsome] at hsome'
    obtain rfl := Option.some.inj hsome'
    rw [hserial, hloads]

lemma occur_outside_cache {e : Event} (hcall : e.isCall = false) (hamend : e.isAmend = false)
    (p : Store) : (e.occur p).after.cache = p.cache ∧ (e.occur p).after.loads = p.loads := by
  cases e with
  | set name value =>
    obtain ⟨f, hrefused⟩ | hassign := Environment.assign_cases name value
    · simp [Event.occur, Event.step, setVariable, Step.perform_bind, hrefused]
    · simp [Event.occur, Event.step, setVariable, Step.perform_bind, Step.perform_map, hassign]
  | unset name => exact ⟨rfl, rfl⟩
  | save name bytes =>
    cases hfiles : p.files.save name bytes <;>
      simp [Event.occur, Event.step, saveFile, Step.perform_bind, Step.perform_map, hfiles]
  | delete name =>
    cases hfiles : p.files.delete name <;>
      simp [Event.occur, Event.step, deleteFile, Step.perform_bind, Step.perform_map, hfiles]
  | amend serial field v => cases hamend
  | current => cases hcall
  | reload => cases hcall

/-- What happens outside, to variables and files, is nothing to the settings that are kept. -/
lemma keeps_of_outside {e : Event} (hcall : e.isCall = false) (hamend : e.isAmend = false)
    (p : Store) : Keeps (e.occur p) := by
  obtain ⟨hcache, hloads⟩ := occur_outside_cache hcall hamend p
  apply Keeps.of_none
  · cases e <;> first | rfl | cases hcall
  · rw [hcache]
    exact (Event.map_amended_eq_self hamend p.cache).symm
  · exact hloads

lemma occur_amend_cache (serial : ℕ) (field : String) (v : Value) (p : Store) :
    ((Event.amend serial field v).occur p).after.cache =
        p.cache.map (Event.amend serial field v).amended ∧
      ((Event.amend serial field v).occur p).after.loads = p.loads := by
  cases hcache : p.cache with
  | none => simp [Event.occur, Event.step, amend, Step.perform_bind, hcache]
  | some kept =>
    by_cases hserial : kept.serial = serial
    · cases hassign : kept.config.assign field v <;>
        simp [Event.occur, Event.step, amend, Step.perform_bind, Step.perform_map, Event.amended,
          hcache, hserial, hassign]
    · simp [Event.occur, Event.step, amend, Step.perform_bind, Event.amended, hcache, hserial]

/-- An event that loads keeps what it loaded, unless the load fails. -/
lemma keeps_of_loads {e : Event} (hcall : e.isCall = true) (h : (e.occur p).Loads) :
    Keeps (e.occur p) := by
  obtain ⟨houtcome, hafter⟩ := occur_of_loads h
  have hamend : e.isAmend = false := by
    cases e <;> first | rfl | cases hcall
  obtain ⟨f, q, hrun, hcache, hloads⟩ | ⟨loaded, q, hrun, hcache, hserial, hloads⟩ :=
    reload_cache p
  · rw [hrun] at houtcome hafter
    apply Keeps.of_none
    · rw [Option.eq_none_iff_forall_ne_some]
      intro loaded hsome
      have hok := (Occurrence.loaded?_eq_some_iff.mp hsome).2
      rw [houtcome] at hok
      cases hok
    · rw [hafter, hcache]
      exact (Event.map_amended_eq_self hamend _).symm
    · rw [hafter]
      exact hloads
  · rw [hrun] at houtcome hafter
    have hsome : (e.occur p).loaded? = some loaded := by
      rw [Occurrence.loaded?_eq_some_iff]
      exact ⟨h, houtcome⟩
    apply Keeps.of_some hsome
    · rw [hafter]
      exact hcache
    · exact hserial
    · rw [hafter]
      exact hloads

/-- One event: a load that succeeds puts its settings in the place of those there were, and nothing
else but an assignment to their fields changes them. -/
lemma keeps_occur (e : Event) (p : Store) : Keeps (e.occur p) := by
  cases e with
  | reload => exact keeps_of_loads rfl (.inl rfl)
  | current =>
    cases hcache : p.cache with
    | none => exact keeps_of_loads rfl (.inr ⟨rfl, hcache⟩)
    | some kept =>
      have hafter : (Event.current.occur p).after = p := by
        rw [occur_current, perform_current_of_some hcache]
      apply Keeps.of_none
      · rw [occur_current, Occurrence.loaded?, hcache]
      · rw [hafter]
        exact (Event.map_amended_eq_self rfl p.cache).symm
      · rw [hafter]
        rfl
  | amend serial field v =>
    obtain ⟨hcache, hloads⟩ := occur_amend_cache serial field v p
    exact .of_none rfl hcache hloads
  | set _ _ | unset _ | save _ _ | delete _ => exact keeps_of_outside rfl rfl p

lemma history_concat (events : List Event) (e : Event) (p : Store) :
    history (events ++ [e]) p = history events p ++ [e.occur (afterEvents events p)] := by
  induction events generalizing p with
  | nil => rfl
  | cons e' rest ih => exact congrArg (e'.occur p :: ·) (ih (e'.occur p).after)

lemma afterEvents_concat (events : List Event) (e : Event) (p : Store) :
    afterEvents (events ++ [e]) p = (e.occur (afterEvents events p)).after := by
  unfold afterEvents
  rw [List.foldl_append]
  rfl

/-- The settings are the object that the last load of the history to succeed gave, with what was
assigned to its fields later. -/
def KeepsLast (os : List Occurrence) (kept : Loaded) : Prop :=
  ∃ earlier o later fresh, os = earlier ++ o :: later ∧ o.loaded? = some fresh ∧
    (∀ o' ∈ later, o'.loaded? = none) ∧ kept.serial = fresh.serial ∧
    kept = later.foldl (fun kept o' => o'.event.amended kept) fresh

/-- There are no settings as long as no load succeeded, and then they are those of the last one. -/
lemma cache_cases (hp : p.cache = none) (events : List Event) :
    ((afterEvents events p).cache = none ∧ ∀ o ∈ history events p, o.loaded? = none) ∨
      ∃ kept, (afterEvents events p).cache = some kept ∧ KeepsLast (history events p) kept := by
  induction events using List.reverseRecOn with
  | nil => exact .inl ⟨hp, fun o ho => absurd ho List.not_mem_nil⟩
  | append_singleton events e ih =>
    have hkeeps := (keeps_occur e (afterEvents events p)).cache
    rw [history_concat, afterEvents_concat, hkeeps]
    cases hloaded : (e.occur (afterEvents events p)).loaded? with
    | some fresh =>
      right
      refine ⟨fresh, rfl, _, _, [], fresh, rfl, hloaded, ?_, rfl, rfl⟩
      simp
    | none =>
      rw [Option.none_or]
      obtain ⟨hcache, hnone⟩ | ⟨kept, hcache, earlier, o, later, fresh, hos, ho, hlater, hserial,
        hkept⟩ := ih
      · left
        constructor
        · change (afterEvents events p).cache.map e.amended = none
          rw [hcache, Option.map_none]
        · intro o ho
          obtain ho | ho := List.mem_append.mp ho
          · exact hnone o ho
          · rw [List.mem_singleton.mp ho]
            exact hloaded
      · right
        refine ⟨_, congrArg (Option.map e.amended) hcache, earlier, o,
          later ++ [e.occur (afterEvents events p)], fresh, ?_, ho, ?_, ?_, ?_⟩
        · rw [hos, List.append_assoc, List.cons_append]
        · intro o' ho'
          obtain ho' | ho' := List.mem_append.mp ho'
          · exact hlater o' ho'
          · rw [List.mem_singleton.mp ho']
            exact hloaded
        · rw [Event.amended_serial, hserial]
        · rw [List.foldl_append, ← hkept]
          rfl

/-- Loads are numbered in the order in which they succeed, so no two give the same settings. -/
lemma pairwise_serial (p : Store) (events : List Event) :
    ((history events p).filterMap (·.loaded?)).Pairwise fun x y => x.serial < y.serial := by
  suffices h :
      ((history events p).filterMap (·.loaded?)).Pairwise (fun x y => x.serial < y.serial) ∧
        ∀ x ∈ (history events p).filterMap (·.loaded?), x.serial ≤ (afterEvents events p).loads from
    h.1
  induction events using List.reverseRecOn with
  | nil => simp [history]
  | append_singleton events e ih =>
    obtain ⟨hpairwise, hbound⟩ := ih
    have hkeeps := keeps_occur e (afterEvents events p)
    have hloads := hkeeps.loads
    change _ = (afterEvents events p).loads + _ at hloads
    rw [history_concat, afterEvents_concat, List.filterMap_append]
    cases hloaded : (e.occur (afterEvents events p)).loaded? with
    | none =>
      rw [hloaded] at hloads
      simp only [List.filterMap_cons_none hloaded, List.filterMap_nil, List.append_nil]
      refine ⟨hpairwise, fun x hx => ?_⟩
      have := hbound x hx
      simp at hloads
      omega
    | some fresh =>
      have hserial := hkeeps.serial fresh hloaded
      rw [hloaded] at hloads
      simp only [List.filterMap_cons_some hloaded, List.filterMap_nil]
      simp at hloads
      constructor
      · rw [List.pairwise_append]
        refine ⟨hpairwise, List.pairwise_singleton _ _, ?_⟩
        intro x hx y hy
        have := hbound x hx
        rw [List.mem_singleton.mp hy]
        omega
      · intro x hx
        obtain hx | hx := List.mem_append.mp hx
        · have := hbound x hx
          omega
        · rw [List.mem_singleton.mp hx]
          omega

lemma mem_event_of_mem_history {events : List Event} {o : Occurrence}
    (h : o ∈ history events p) : o.event ∈ events := by
  obtain ⟨e, he, q, rfl⟩ := exists_of_mem_history h
  exact he

/-- From the time when a process has no settings: it has none until a load succeeds, and then those
of its last load, an object of its own, with what was assigned to its fields since. Asking for
settings that are kept gives them, whatever became of the environment and the files; without any, it
is the same as loading. -/
theorem cache_holds_last_load (hp : p.cache = none) (events : List Event) :
    let q := afterEvents events p
    (q.cache = none ↔ ∀ o ∈ history events p, o.loaded? = none) ∧
    (∀ kept, q.cache = some kept →
      KeepsLast (history events p) kept ∧
      ((∀ e ∈ events, e.isAmend = false) → ∃ earlier o later, history events p =
        earlier ++ o :: later ∧ o.loaded? = some kept ∧ ∀ o' ∈ later, o'.loaded? = none) ∧
      ∀ environment files, current.perform { q with environment, files } =
        (.ok kept, { q with environment, files })) ∧
    (q.cache = none → current.perform q = reload.perform q) ∧
    ((history events p).filterMap (·.loaded?)).Pairwise fun x y => x.serial < y.serial := by
  intro q
  refine ⟨?_, ?_, perform_current_of_none, pairwise_serial p events⟩
  · obtain ⟨hcache, hnone⟩ | ⟨kept, hcache, earlier, o, later, fresh, hos, ho, -⟩ :=
      cache_cases hp events
    · exact iff_of_true hcache hnone
    · apply iff_of_false
      · rw [hcache]
        exact Option.some_ne_none kept
      · intro hnone
        have hmem : o ∈ history events p := by simp [hos]
        rw [hnone o hmem] at ho
        cases ho
  · intro kept hkept
    obtain ⟨hcache, -⟩ | ⟨kept', hcache, hlast⟩ := cache_cases hp events
    · rw [hcache] at hkept
      cases hkept
    · have hsame : some kept' = some kept := hcache.symm.trans hkept
      obtain rfl := Option.some.inj hsame
      refine ⟨hlast, ?_, fun environment files => perform_current_of_some hcache⟩
      intro houtside
      obtain ⟨earlier, o, later, fresh, hos, ho, hlater, -, rfl⟩ := hlast
      have hself : ∀ o' ∈ later, o'.event.isAmend = false := by
        intro o' ho'
        apply houtside
        apply mem_event_of_mem_history (p := p)
        simp [hos, ho']
      rw [foldl_amended_eq_self hself]
      exact ⟨earlier, o, later, hos, ho, hlater⟩

namespace Edited

/-- The first dotenv file is no text. -/
def store : Store where
  files := { files := [([".env"], [0xff])] }

/-- A load fails, the next one reads a good file, and then everything around it changes. -/
def events : List Event :=
  [.current, .save ".env" "ZITADEL_DOMAIN=a\n".toUTF8.toList, .current, .unset "ZITADEL_DOMAIN",
    .save ".env" "ZITADEL_DOMAIN=b\n".toUTF8.toList, .current]

def kept : Loaded := ⟨1, { domain := .text "a" }⟩

end Edited

open Edited in
theorem edited_file_leaves_cache :
    store.cache = none ∧ (afterEvents events store).cache = some kept ∧
      (∃ earlier o later, history events store = earlier ++ o :: later ∧ o.loaded? = some kept ∧
        ∀ o' ∈ later, o'.loaded? = none) ∧
      ∀ environment files, current.perform { afterEvents events store with environment, files } =
        (.ok kept, { afterEvents events store with environment, files }) := by
  have hcache : (afterEvents events store).cache = some kept := by decide +kernel
  obtain ⟨-, hkept, -⟩ := cache_holds_last_load (p := store) rfl events
  obtain ⟨-, hload, hcurrent⟩ := hkept kept hcache
  exact ⟨rfl, hcache, hload (by decide), hcurrent⟩

end SharedChannel.Settings
