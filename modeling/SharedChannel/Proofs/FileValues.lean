import SharedChannel.Settings
import Mathlib.Tactic.Common
import Mathlib.Data.List.Induction

/-!
# What a load takes from the dotenv file

A load reads the bindings of one file and sets the free variables among them. `Dotenv.Binds` says
which value a list of bindings gives a variable, `Settings.Gains` what a load may do to a store, and
`Settings.Store.Settled` when there is nothing left for it to do.
-/

namespace SharedChannel

namespace Association

variable {κ α : Type} [BEq κ]

lemma mem_keys_put {k x : κ} {a : α} {bs : List (κ × α)} (h : x ∈ (put k a bs).map Prod.fst) :
    x = k ∨ x ∈ bs.map Prod.fst := by
  induction bs with
  | nil => exact .inl (List.mem_singleton.mp h)
  | cons b rest ih =>
    by_cases hb : (b.1 == k) = true
    · rw [put, if_pos hb, List.map_cons, List.mem_cons] at h
      exact h.imp_right (List.mem_cons_of_mem _)
    · rw [put, if_neg hb, List.map_cons, List.mem_cons] at h
      rw [List.map_cons, List.mem_cons]
      obtain rfl | h := h
      · exact .inr (.inl rfl)
      · exact (ih h).imp_right .inr

variable [LawfulBEq κ]

lemma nodup_keys_put (k : κ) (a : α) {bs : List (κ × α)} (h : (bs.map Prod.fst).Nodup) :
    ((put k a bs).map Prod.fst).Nodup := by
  induction bs with
  | nil => exact List.pairwise_singleton _ k
  | cons b rest ih =>
    obtain ⟨hb, hrest⟩ := List.nodup_cons.mp h
    by_cases hk : (b.1 == k) = true
    · rw [put, if_pos hk, List.map_cons, List.nodup_cons, ← eq_of_beq hk]
      exact ⟨hb, hrest⟩
    · rw [put, if_neg hk, List.map_cons, List.nodup_cons]
      refine ⟨fun hmem => ?_, ih hrest⟩
      obtain hbk | hmem := mem_keys_put hmem
      · exact hk (beq_iff_eq.mpr hbk)
      · exact hb hmem

lemma lookup_of_mem {x : κ} {a : α} {bs : List (κ × α)} (hkeys : (bs.map Prod.fst).Nodup)
    (h : (x, a) ∈ bs) : bs.lookup x = some a := by
  induction bs with
  | nil => cases h
  | cons b rest ih =>
    obtain ⟨hb, hrest⟩ := List.nodup_cons.mp hkeys
    obtain rfl | h := List.mem_cons.mp h
    · exact List.lookup_cons_self
    · have hx : (x == b.1) = false := by
        rw [beq_eq_false_iff_ne]
        rintro rfl
        exact hb (List.mem_map.mpr ⟨_, h, rfl⟩)
      rw [List.lookup_cons, hx]
      exact ih hrest h

lemma mem_of_lookup {x : κ} {a : α} {bs : List (κ × α)} (h : bs.lookup x = some a) :
    (x, a) ∈ bs := by
  obtain ⟨before, after, rfl, -⟩ := List.lookup_eq_some_iff.mp h
  exact List.mem_append_right _ List.mem_cons_self

end Association

namespace Environment

/-- Why the system refuses a variable, if it does. -/
def refusal? (name value : String) : Option Failure :=
  if name.toList.contains '\x00' || value.toList.contains '\x00' then some .embeddedNull
  else if name.toList.contains '=' then some .illegalVariableName
  else if name.isEmpty then some .emptyVariableName
  else none

lemma assign_eq (e : Environment) (name value : String) :
    e.assign name value =
      match refusal? name value with
      | some f => .error f
      | none => .ok (e.set name value) := by
  unfold assign refusal?
  by_cases hnull : (name.toList.contains '\x00' || value.toList.contains '\x00') = true
  · rw [if_pos hnull, if_pos hnull]
    rfl
  · rw [if_neg hnull, if_neg hnull]
    by_cases hequals : name.toList.contains '=' = true
    · rw [if_pos hequals, if_pos hequals]
      rfl
    · rw [if_neg hequals, if_neg hequals]
      by_cases hempty : name.isEmpty = true
      · rw [if_pos hempty, if_pos hempty]
        rfl
      · rw [if_neg hempty, if_neg hempty]
        rfl

/-- Whether a variable can be set does not depend on the others. -/
lemma assign_cases (x v : String) :
    (∃ f, ∀ e : Environment, e.assign x v = .error f) ∨
      ∀ e : Environment, e.assign x v = .ok (e.set x v) := by
  cases hrefusal : refusal? x v with
  | some f => exact .inl ⟨f, fun e => by rw [assign_eq, hrefusal]⟩
  | none => exact .inr fun e => by rw [assign_eq, hrefusal]

end Environment

namespace Dotenv

variable {e : Environment} {bs : List Binding} {x v : String}

/-- The last binding of the name has a value, and this is what it stands for, with references to
the environment and to the values before it. -/
def Binds (e : Environment) (bs : List Binding) (x v : String) : Prop :=
  ∃ before s after, bs = before ++ ⟨x, some s⟩ :: after ∧ (∀ b ∈ after, b.name ≠ x) ∧
    v = interpolate e (values e before) s

lemma values_concat (e : Environment) (bs : List Binding) (b : Binding) :
    values e (bs ++ [b]) = put e (values e bs) b := by
  rw [values, List.foldl_append]
  rfl

lemma nodup_values (e : Environment) (bs : List Binding) :
    ((values e bs).map Prod.fst).Nodup := by
  induction bs using List.reverseRecOn with
  | nil => exact List.nodup_nil
  | append_singleton bs b ih =>
    rw [values_concat]
    exact Association.nodup_keys_put _ _ ih

lemma Binds.concat_self {e : Environment} {bs : List Binding} {b : Binding} :
    Binds e (bs ++ [b]) b.name v ↔
      ∃ s, b.value = some s ∧ v = interpolate e (values e bs) s := by
  constructor
  · rintro ⟨before, s, after, hbs, hafter, rfl⟩
    obtain rfl | ⟨after, c, rfl⟩ := List.eq_nil_or_concat after
    · obtain ⟨rfl, hb⟩ := List.append_inj' hbs rfl
      exact ⟨s, congrArg Binding.value (List.singleton_inj.mp hb), rfl⟩
    · rw [List.concat_eq_append] at hbs hafter
      rw [← List.cons_append, ← List.append_assoc] at hbs
      obtain ⟨-, hb⟩ := List.append_inj' hbs rfl
      obtain rfl := List.singleton_inj.mp hb
      exact absurd rfl (hafter b (List.mem_append_right _ List.mem_cons_self))
  · rintro ⟨s, hs, rfl⟩
    refine ⟨bs, s, [], ?_, fun c hc => absurd hc List.not_mem_nil, rfl⟩
    rw [← hs]

lemma Binds.concat_of_ne {b : Binding} (h : x ≠ b.name) :
    Binds e (bs ++ [b]) x v ↔ Binds e bs x v := by
  constructor
  · rintro ⟨before, s, after, hbs, hafter, rfl⟩
    obtain rfl | ⟨after, c, rfl⟩ := List.eq_nil_or_concat after
    · obtain ⟨-, hb⟩ := List.append_inj' hbs rfl
      obtain rfl := List.singleton_inj.mp hb
      exact absurd rfl h
    · rw [List.concat_eq_append] at hbs hafter
      rw [← List.cons_append, ← List.append_assoc] at hbs
      obtain ⟨rfl, -⟩ := List.append_inj' hbs rfl
      exact ⟨before, s, after, rfl, fun c hc => hafter c (List.mem_append_left _ hc), rfl⟩
  · rintro ⟨before, s, after, rfl, hafter, rfl⟩
    refine ⟨before, s, after ++ [b], ?_, ?_, rfl⟩
    · rw [List.append_assoc, List.cons_append]
    · intro c hc
      obtain hc | hc := List.mem_append.mp hc
      · exact hafter c hc
      · rw [List.mem_singleton.mp hc]
        exact h.symm

/-- The values that the bindings amount to are the ones they bind. -/
lemma mem_values_iff : (x, some v) ∈ values e bs ↔ Binds e bs x v := by
  suffices hlookup : (values e bs).lookup x = some (some v) ↔ Binds e bs x v from
    ⟨fun h => hlookup.mp (Association.lookup_of_mem (nodup_values e bs) h),
      fun h => Association.mem_of_lookup (hlookup.mpr h)⟩
  -- from the end: the last binding of a name decides, and its references look at those before it
  induction bs using List.reverseRecOn with
  | nil =>
    refine ⟨fun h => by simp [values] at h, ?_⟩
    rintro ⟨before, s, after, h, -⟩
    simp at h
  | append_singleton bs b ih =>
    rw [values_concat, put, Association.lookup_put]
    by_cases hx : x = b.name
    · subst hx
      rw [beq_self_eq_true, if_pos rfl, Binds.concat_self]
      cases hvalue : b.value <;> simp [eq_comm]
    · rw [if_neg (by simpa using hx), Binds.concat_of_ne hx, ih]

/-- Whether a name has a value does not depend on the environment. -/
lemma Binds.of_environment (e' : Environment) (h : Binds e bs x v) : ∃ u, Binds e' bs x u := by
  obtain ⟨before, s, after, hbs, hafter, -⟩ := h
  exact ⟨_, before, s, after, hbs, hafter, rfl⟩

end Dotenv

namespace Settings

variable {p q r : Store} {vs : Dotenv.Values}

lemma perform_setFree_cons (x v : String) (rest : Dotenv.Values) (p : Store) :
    (setFree ((x, some v) :: rest)).perform p =
      if p.environment.has x then (setFree rest).perform p
      else
        match p.environment.assign x v with
        | .ok e => (setFree rest).perform { p with environment := e }
        | .error f => (.error f, p) := by
  cases hhas : p.environment.has x with
  | true => simp [setFree, Step.perform_bind, hhas]
  | false =>
    cases hassign : p.environment.assign x v <;>
      simp [setFree, setVariable, Step.perform_bind, hhas, hassign]

lemma perform_loadFile (p : Store) : loadFile.perform p =
    if fileDisabled p.environment then (.ok (), p)
    else
      match fileBytes p with
      | none => (.ok (), p)
      | some bytes =>
        match fileChars bytes with
        | .ok cs => (setFree (Dotenv.values p.environment (Dotenv.bindings cs))).perform p
        | .error f => (.error f, p) := by
  cases hd : fileDisabled p.environment with
  | true => simp [loadFile, Step.perform_bind, hd]
  | false =>
    cases hb : fileBytes p with
    | none => simp [loadFile, Step.perform_bind, hd, hb]
    | some bytes =>
      cases hc : fileChars bytes <;> simp [loadFile, Step.perform_bind, hd, hb, hc]

/-- The bindings of the dotenv file; there are none if it is disabled or not there. -/
def Store.fileBindings (p : Store) : Except Failure (List Dotenv.Binding) :=
  if fileDisabled p.environment then .ok []
  else
    match fileBytes p with
    | none => .ok []
    | some bytes => (fileChars bytes).map Dotenv.bindings

/-- The dotenv file gives the variable this value. -/
def Store.Binds (p : Store) (x v : String) : Prop :=
  ∃ bs, p.fileBindings = .ok bs ∧ Dotenv.Binds p.environment bs x v

lemma perform_loadFile_bindings (p : Store) : loadFile.perform p =
    match p.fileBindings with
    | .ok bs => (setFree (Dotenv.values p.environment bs)).perform p
    | .error f => (.error f, p) := by
  rw [perform_loadFile, Store.fileBindings]
  cases fileDisabled p.environment with
  | true => rfl
  | false =>
    cases fileBytes p with
    | none => rfl
    | some bytes =>
      dsimp only
      cases fileChars bytes <;> rfl

/-- Variables keep their values, free ones may get the values given, and no file changes. -/
structure Gains (given : String → String → Prop) (p q : Store) : Prop where
  kept : ∀ x v, p.environment.get? x = some v → q.environment.get? x = some v
  added : ∀ x v, p.environment.get? x = none → q.environment.get? x = some v → given x v
  files : q.files = p.files

namespace Gains

variable {given given' : String → String → Prop}

lemma refl (given : String → String → Prop) (p : Store) : Gains given p p := by
  refine ⟨fun _ _ h => h, fun x v hfree h => ?_, rfl⟩
  rw [hfree] at h
  cases h

lemma trans (h : Gains given p q) (h' : Gains given q r) : Gains given p r := by
  refine ⟨fun x v hx => h'.kept x v (h.kept x v hx), ?_, h'.files.trans h.files⟩
  intro x v hfree hx
  cases hq : q.environment.get? x with
  | none => exact h'.added x v hq hx
  | some u =>
    obtain rfl : u = v := by simpa [h'.kept x u hq] using hx
    exact h.added x u hfree hq

lemma mono (h : Gains given p q) (hgiven : ∀ x v, given x v → given' x v) : Gains given' p q :=
  ⟨h.kept, fun x v hfree hx => hgiven x v (h.added x v hfree hx), h.files⟩

lemma of_set {x v : String} (hfree : p.environment.has x = false) (hv : given x v) :
    Gains given p { p with environment := p.environment.set x v } := by
  have hx : p.environment.get? x = none := by simpa [Environment.has] using hfree
  refine ⟨fun y u hy => ?_, fun y u hy hu => ?_, rfl⟩
  · rw [Environment.get?_set, if_neg, hy]
    intro hyx
    rw [eq_of_beq hyx, hx] at hy
    cases hy
  · rw [Environment.get?_set] at hu
    split at hu
    · next hyx =>
      rw [eq_of_beq hyx, ← Option.some.inj hu]
      exact hv
    · rw [hy] at hu
      cases hu

lemma has (h : Gains given p q) {x : String} (hx : p.environment.has x = true) :
    q.environment.has x = true := by
  obtain ⟨v, hv⟩ := Option.isSome_iff_exists.mp hx
  rw [Environment.has, h.kept x v hv, Option.isSome_some]

end Gains

/-- A value is passed over if its name is set; else it is set before the others, or it cannot be. -/
lemma setFree_cons_cases (x v : String) (rest : Dotenv.Values) (p : Store) :
    (p.environment.has x = true ∧
        (setFree ((x, some v) :: rest)).perform p = (setFree rest).perform p) ∨
      p.environment.has x = false ∧
        ((setFree ((x, some v) :: rest)).perform p =
            (setFree rest).perform { p with environment := p.environment.set x v } ∨
          ∃ f, (setFree ((x, some v) :: rest)).perform p = (.error f, p)) := by
  rw [perform_setFree_cons]
  by_cases hset : p.environment.has x = true
  · exact .inl ⟨hset, if_pos hset⟩
  · rw [if_neg hset]
    refine .inr ⟨Bool.eq_false_iff.mpr hset, ?_⟩
    obtain ⟨f, hrefused⟩ | hassign := Environment.assign_cases x v
    · rw [hrefused]
      exact .inr ⟨f, rfl⟩
    · rw [hassign]
      exact .inl rfl

lemma setFree_gains (vs : Dotenv.Values) (p : Store) :
    Gains (fun x v => (x, some v) ∈ vs) p ((setFree vs).perform p).2 := by
  induction vs generalizing p with
  | nil => exact .refl _ p
  | cons b rest ih =>
    have hrest : ∀ p, Gains (fun x v => (x, some v) ∈ b :: rest) p ((setFree rest).perform p).2 :=
      fun p => (ih p).mono fun _ _ => List.mem_cons_of_mem _
    obtain ⟨x, v | v⟩ := b
    · exact hrest p
    · obtain ⟨-, hrun⟩ | ⟨hfree, hrun | ⟨f, hrun⟩⟩ := setFree_cons_cases x v rest p
      · rw [hrun]
        exact hrest p
      · rw [hrun]
        exact (Gains.of_set hfree List.mem_cons_self).trans (hrest _)
      · rw [hrun]
        exact .refl _ p

lemma has_of_setFree (h : (setFree vs).perform p = (.ok (), q)) {x v : String}
    (hx : (x, some v) ∈ vs) : q.environment.has x = true := by
  induction vs generalizing p with
  | nil => cases hx
  | cons b rest ih =>
    have hkept : ∀ p, (setFree rest).perform p = (.ok (), q) → p.environment.has x = true →
        q.environment.has x = true := by
      intro p hp hset
      have hq := (setFree_gains rest p).has hset
      rwa [hp] at hq
    obtain ⟨y, u | u⟩ := b
    · exact ih h ((List.mem_cons.mp hx).resolve_left (by simp))
    · have hcases : x = y ∨ (x, some v) ∈ rest :=
        (List.mem_cons.mp hx).imp_left fun hb => congrArg Prod.fst hb
      obtain ⟨hset, hrun⟩ | ⟨-, hrun | ⟨f, hrun⟩⟩ := setFree_cons_cases y u rest p
      · rw [hrun] at h
        obtain rfl | hx := hcases
        · exact hkept p h hset
        · exact ih h hx
      · rw [hrun] at h
        obtain rfl | hx := hcases
        · refine hkept _ h ?_
          rw [Environment.has, Environment.get?_set, beq_self_eq_true]
          rfl
        · exact ih h hx
      · rw [hrun] at h
        cases h

lemma setFree_of_has (h : ∀ x v, (x, some v) ∈ vs → p.environment.has x = true) :
    (setFree vs).perform p = (.ok (), p) := by
  induction vs with
  | nil => rfl
  | cons b rest ih =>
    have hrest := ih fun x v hx => h x v (List.mem_cons_of_mem _ hx)
    obtain ⟨x, v | v⟩ := b
    · exact hrest
    · rw [perform_setFree_cons, if_pos (h x v List.mem_cons_self), hrest]

lemma loadFile_gains (p : Store) : Gains p.Binds p (loadFile.perform p).2 := by
  cases hbs : p.fileBindings with
  | error f =>
    rw [perform_loadFile_bindings, hbs]
    exact .refl _ p
  | ok bs =>
    rw [perform_loadFile_bindings, hbs]
    exact (setFree_gains _ p).mono fun x v hx => ⟨bs, hbs, Dotenv.mem_values_iff.mp hx⟩

/-- Every variable that the dotenv file gives a value is set. -/
def Store.Settled (p : Store) : Prop :=
  ∃ bs, p.fileBindings = .ok bs ∧
    ∀ x v, Dotenv.Binds p.environment bs x v → p.environment.has x = true

lemma Store.Settled.loadFile (h : p.Settled) : loadFile.perform p = (.ok (), p) := by
  obtain ⟨bs, hbs, hset⟩ := h
  rw [perform_loadFile_bindings, hbs]
  exact setFree_of_has fun x v hx => hset x v (Dotenv.mem_values_iff.mp hx)

/-- After a load everything that the file then read gives a value is set. -/
lemma has_of_loadFile (h : loadFile.perform p = (.ok (), q)) {x v : String} (hx : p.Binds x v) :
    q.environment.has x = true := by
  obtain ⟨bs, hbs, hx⟩ := hx
  rw [perform_loadFile_bindings, hbs] at h
  exact has_of_setFree h (Dotenv.mem_values_iff.mpr hx)

end Settings

end SharedChannel
