import SharedChannel.Proofs.ProcessHistory
import Mathlib.Data.List.Basic

/-!
# A load that fails

A load sets the variables of the dotenv file one by one, until the system refuses one of them.
`perform_setFree` says what it sets and how it ends. Those before the refused one stay set, and the
settings that were kept before stay as they are.
-/

namespace SharedChannel

namespace Environment

/-- The variables are set one after the other. -/
def setAll (e : Environment) (bs : List (String × String)) : Environment :=
  bs.foldl (fun e b => e.set b.1 b.2) e

lemma has_set (e : Environment) (name value x : String) :
    (e.set name value).has x = (x == name || e.has x) := by
  unfold has
  rw [get?_set]
  by_cases hx : (x == name) = true <;> simp [hx]

lemma has_setAll {bs : List (String × String)} {x : String} {e : Environment}
    (h : e.has x = true ∨ x ∈ bs.map Prod.fst) : (e.setAll bs).has x = true := by
  induction bs generalizing e with
  | nil => exact h.resolve_right List.not_mem_nil
  | cons b rest ih =>
    apply ih
    rw [has_set, Bool.or_eq_true, beq_iff_eq]
    obtain he | hb := h
    · exact .inl (.inr he)
    · obtain hx | hrest := List.mem_cons.mp hb
      · exact .inl (.inl hx)
      · exact .inr hrest

end Environment

namespace Dotenv.Values

/-- The values whose names are free, in order. -/
def free (e : Environment) (vs : Values) : List (String × String) :=
  vs.filterMap fun b => if e.has b.1 then none else b.2.map (b.1, ·)

variable {e : Environment} {vs : Values} {x v : String}

lemma free_cons_none : free e ((x, none) :: vs) = free e vs := by
  unfold free
  rw [List.filterMap_cons_none]
  simp

lemma free_cons_of_has (hx : e.has x = true) : free e ((x, some v) :: vs) = free e vs := by
  unfold free
  rw [List.filterMap_cons_none]
  simp [hx]

lemma free_cons_of_not_has (hx : e.has x = false) :
    free e ((x, some v) :: vs) = (x, v) :: free e vs := by
  unfold free
  rw [List.filterMap_cons_some]
  simp [hx]

/-- Setting a variable makes no difference to values of other names. -/
lemma free_set (hx : x ∉ vs.map Prod.fst) : vs.free (e.set x v) = vs.free e := by
  unfold free
  apply List.filterMap_congr
  intro b hb
  have hne : (b.1 == x) = false := by
    rw [beq_eq_false_iff_ne]
    rintro rfl
    exact hx (List.mem_map_of_mem hb)
  rw [Environment.has_set, hne, Bool.false_or]

lemma mem_free_iff : (x, v) ∈ vs.free e ↔ (x, some v) ∈ vs ∧ e.has x = false := by
  unfold free
  rw [List.mem_filterMap]
  constructor
  · rintro ⟨⟨y, u⟩, hmem, hb⟩
    split at hb
    · cases hb
    · next hfree =>
      obtain ⟨w, rfl, hw⟩ := Option.map_eq_some_iff.mp hb
      obtain ⟨rfl, rfl⟩ := Prod.mk.inj hw
      exact ⟨hmem, Bool.eq_false_iff.mpr hfree⟩
  · rintro ⟨hmem, hfree⟩
    exact ⟨(x, some v), hmem, by simp [hfree]⟩

end Dotenv.Values

namespace Settings

/-- The variables before the first one that the system refuses. -/
def accepted (bs : List (String × String)) : List (String × String) :=
  bs.takeWhile fun b => (Environment.refusal? b.1 b.2).isNone

/-- What it comes to to set the variables in order. -/
def verdict (bs : List (String × String)) : Except Failure Unit :=
  match bs.findSome? fun b => Environment.refusal? b.1 b.2 with
  | some f => .error f
  | none => .ok ()

/-- The variables that a load is to set: those that the dotenv file gives a value and that are free,
in the order of the file. -/
def Store.additions (p : Store) : List (String × String) :=
  match p.fileBindings with
  | .ok bs => (Dotenv.values p.environment bs).free p.environment
  | .error _ => []

variable {p q : Store} {f : Failure} {bs : List (String × String)} {x v : String}

lemma accepted_cons_of_refused (h : Environment.refusal? x v = some f)
    (bs : List (String × String)) :
    accepted ((x, v) :: bs) = [] ∧ verdict ((x, v) :: bs) = .error f := by
  unfold accepted verdict
  rw [List.takeWhile_cons_of_neg (by simp [h]), List.findSome?_cons, h]
  exact ⟨rfl, rfl⟩

lemma accepted_cons_of_accepted (h : Environment.refusal? x v = none)
    (bs : List (String × String)) :
    accepted ((x, v) :: bs) = (x, v) :: accepted bs ∧
      verdict ((x, v) :: bs) = verdict bs := by
  unfold accepted verdict
  rw [List.takeWhile_cons_of_pos (by simp [h]), List.findSome?_cons, h]
  exact ⟨rfl, rfl⟩

/-- What fails is the first variable that is not accepted. -/
lemma exists_of_verdict_eq_error (h : verdict bs = .error f) :
    ∃ x v rest, bs = accepted bs ++ (x, v) :: rest ∧ Environment.refusal? x v = some f := by
  induction bs with
  | nil => cases h
  | cons b rest ih =>
    obtain ⟨x, v⟩ := b
    cases hrefusal : Environment.refusal? x v with
    | some g =>
      obtain ⟨haccepted, hverdict⟩ := accepted_cons_of_refused hrefusal rest
      obtain rfl : g = f := by simpa [hverdict] using h
      exact ⟨x, v, rest, by rw [haccepted, List.nil_append], hrefusal⟩
    | none =>
      obtain ⟨haccepted, hverdict⟩ := accepted_cons_of_accepted hrefusal rest
      rw [hverdict] at h
      obtain ⟨y, u, behind, hrest, hy⟩ := ih h
      refine ⟨y, u, behind, ?_, hy⟩
      rw [haccepted, List.cons_append, ← hrest]

/-- The variables before the first one that is refused are set, and those behind it are not. -/
lemma perform_setFree {vs : Dotenv.Values} (hkeys : (vs.map Prod.fst).Nodup) (p : Store) :
    (setFree vs).perform p =
      (verdict (vs.free p.environment),
        { p with environment := p.environment.setAll (accepted (vs.free p.environment)) }) := by
  induction vs generalizing p with
  | nil => rfl
  | cons b rest ih =>
    obtain ⟨hx, hrest⟩ := List.nodup_cons.mp hkeys
    obtain ⟨x, v | v⟩ := b
    · rw [Dotenv.Values.free_cons_none]
      exact ih hrest p
    · rw [perform_setFree_cons]
      cases hset : p.environment.has x with
      | true =>
        rw [if_pos rfl, Dotenv.Values.free_cons_of_has hset]
        exact ih hrest p
      | false =>
        rw [if_neg Bool.false_ne_true, Dotenv.Values.free_cons_of_not_has hset,
          Environment.assign_eq]
        cases hrefusal : Environment.refusal? x v with
        | some f =>
          obtain ⟨haccepted, hverdict⟩ := accepted_cons_of_refused hrefusal _
          rw [haccepted, hverdict]
          rfl
        | none =>
          obtain ⟨haccepted, hverdict⟩ := accepted_cons_of_accepted hrefusal _
          dsimp only
          rw [ih hrest, Dotenv.Values.free_set hx, haccepted, hverdict]
          rfl

/-- What reading the dotenv file comes to and what it leaves. -/
lemma perform_loadFile_additions (p : Store) :
    loadFile.perform p =
      (p.fileBindings.bind fun _ => verdict p.additions,
        { p with environment := p.environment.setAll (accepted p.additions) }) := by
  rw [perform_loadFile_bindings, Store.additions]
  cases p.fileBindings with
  | error f => rfl
  | ok bs => exact perform_setFree (Dotenv.nodup_values p.environment bs) p

lemma reload_eq_error (h : reload.perform p = (.error f, q)) :
    loadFile.perform p = (.error f, q) := by
  rw [perform_reload] at h
  rcases hload : loadFile.perform p with ⟨g | u, v⟩
  · rw [hload] at h
    cases h
    rfl
  · rw [hload] at h
    cases h

/-- A call for the settings that fails is a load that fails. -/
lemma reload_of_occur_eq_error {e : Event} (hcall : e.isCall = true)
    (h : (e.occur p).outcome = .error f) :
    reload.perform p = (.error f, (e.occur p).after) := by
  by_cases hloads : (e.occur p).Loads
  · obtain ⟨houtcome, hafter⟩ := occur_of_loads hloads
    rw [hafter]
    rw [houtcome] at h
    rcases hrun : reload.perform p with ⟨g | loaded, q⟩
    · rw [hrun] at h
      obtain rfl : g = f := by simpa [Except.map] using h
      rfl
    · rw [hrun] at h
      cases h
  · obtain ⟨-, kept, -, hkept⟩ := occur_of_not_loads hcall hloads
    rw [hkept] at h
    cases h

/-- A load is to set what the dotenv file gives a value and the environment does not have. -/
lemma mem_additions_iff :
    (x, v) ∈ p.additions ↔ p.Binds x v ∧ p.environment.has x = false := by
  unfold Store.additions Store.Binds
  cases hbs : p.fileBindings with
  | error f => simp
  | ok bs =>
    dsimp only
    rw [Dotenv.Values.mem_free_iff, Dotenv.mem_values_iff]
    simp

/-- The first variable that is set is a change. -/
lemma setAll_accepted_eq_iff (p : Store) :
    p.environment.setAll (accepted p.additions) = p.environment ↔ accepted p.additions = [] := by
  constructor
  · intro h
    refine List.eq_nil_iff_forall_not_mem.mpr ?_
    rintro ⟨x, v⟩ hmem
    have hfree := (mem_additions_iff.mp ((List.takeWhile_sublist _).mem hmem)).2
    have hset : (p.environment.setAll (accepted p.additions)).has x = true :=
      Environment.has_setAll (.inr (List.mem_map_of_mem hmem))
    rw [h, hfree] at hset
    cases hset
  · intro h
    rw [h]
    rfl

/-- A call for the settings that fails keeps the settings there were, so that the next one gives
them, or tries again if there were none. Of the environment it only sets what comes before the
variable that the system refuses: nothing, if that one comes first or if the file cannot be read. -/
theorem failed_load_keeps_settings {e : Event} (hcall : e.isCall = true)
    (h : (e.occur p).outcome = .error f) :
    let q := (e.occur p).after
    q = { p with environment := p.environment.setAll (accepted p.additions) } ∧
      (p.fileBindings = .error f ∧ accepted p.additions = [] ∨
        ∃ x v rest, p.additions = accepted p.additions ++ (x, v) :: rest ∧
          Environment.refusal? x v = some f) ∧
      (q.environment = p.environment ↔ accepted p.additions = []) ∧
      (∀ kept, p.cache = some kept → current.perform q = (.ok kept, q)) ∧
      (p.cache = none → current.perform q = reload.perform q) := by
  intro q
  have hload := reload_eq_error (reload_of_occur_eq_error hcall h)
  rw [perform_loadFile_additions, Prod.mk.injEq] at hload
  obtain ⟨hfails, hq⟩ := hload
  have hstore : q = { p with environment := p.environment.setAll (accepted p.additions) } := hq.symm
  have hcache : q.cache = p.cache := by rw [hstore]
  refine ⟨hstore, ?_, ?_, ?_, ?_⟩
  · cases hbs : p.fileBindings with
    | error g =>
      rw [hbs] at hfails
      obtain rfl : g = f := Except.error.inj hfails
      left
      refine ⟨rfl, ?_⟩
      rw [Store.additions, hbs]
      rfl
    | ok bs =>
      rw [hbs] at hfails
      exact .inr (exists_of_verdict_eq_error hfails)
  · rw [hstore]
    exact setAll_accepted_eq_iff p
  · intro kept hkept
    exact perform_current_of_some (hcache.trans hkept)
  · intro hnone
    exact perform_current_of_none (hcache.trans hnone)

namespace Refused

/-- A dotenv file with a name that no variable can have, between two others. -/
def store : Store where
  files := {
    files := [([".env"], "ZITADEL_DOMAIN=x\n'A=B'=1\nZITADEL_PORT=80\n".toUTF8.toList)] }

/-- The same file, when there are settings and the port is set. -/
def loaded : Store :=
  { store with
    environment := .ofList [("ZITADEL_PORT", "443")]
    loads := 1
    cache := some ⟨1, { domain := .text "old" }⟩ }

end Refused

open Refused in
theorem failed_reload_keeps_old_settings :
    let q := (Event.reload.occur loaded).after
    let q' := (Event.current.occur store).after
    (Event.reload.occur loaded).outcome = .error .illegalVariableName ∧
      loaded.additions = [("ZITADEL_DOMAIN", "x"), ("A=B", "1")] ∧
      q = { loaded with environment := loaded.environment.setAll [("ZITADEL_DOMAIN", "x")] } ∧
      current.perform q = (.ok ⟨1, { domain := .text "old" }⟩, q) ∧
      (Event.current.occur store).outcome = .error .illegalVariableName ∧
      current.perform q' = reload.perform q' := by
  intro q q'
  have hfails : (Event.reload.occur loaded).outcome = .error .illegalVariableName := by
    decide +kernel
  have hfails' : (Event.current.occur store).outcome = .error .illegalVariableName := by
    decide +kernel
  have haccepted : accepted loaded.additions = [("ZITADEL_DOMAIN", "x")] := by decide +kernel
  obtain ⟨hstore, -, -, hkept, -⟩ := failed_load_keeps_settings rfl hfails
  obtain ⟨-, -, -, -, hagain⟩ := failed_load_keeps_settings rfl hfails'
  rw [haccepted] at hstore
  exact ⟨hfails, by decide +kernel, hstore, hkept _ rfl, hfails', hagain rfl⟩

open Refused in
/-- A load fails, and a variable that was free is set. -/
theorem failed_reload_leaves_domain_set :
    (Event.reload.occur store).outcome = .error .illegalVariableName ∧
      store.environment.get? "ZITADEL_DOMAIN" = none ∧
      (Event.reload.occur store).after.environment.get? "ZITADEL_DOMAIN" = some "x" ∧
      (Event.reload.occur store).after.environment ≠ store.environment := by
  have hset : (Event.reload.occur store).after.environment.get? "ZITADEL_DOMAIN" = some "x" := by
    decide +kernel
  have hfree : store.environment.get? "ZITADEL_DOMAIN" = none := by decide +kernel
  refine ⟨by decide +kernel, hfree, hset, ?_⟩
  intro h
  rw [h, hfree] at hset
  cases hset

end Settings

end SharedChannel
