import SharedChannel.Proofs.FileValues
import SharedChannel.Proofs.TwoRuns

/-!
# Settings with another token

Two processes have the same variables and files, but for the value of one variable, which both have
set. Loading their settings never sets that variable again, and its value reaches nothing else as
long as no value in the dotenv file refers to it. So the configs differ in it alone.
-/

namespace SharedChannel

/-- Environments that differ in the value of one variable. -/
structure Environment.Differ (name a b : String) (e e' : Environment) : Prop where
  others : ∀ x, x ≠ name → e.get? x = e'.get? x
  left : e.get? name = some a
  right : e'.get? name = some b

namespace Environment.Differ

variable {name a b : String} {e e' : Environment}

lemma has_eq (h : Differ name a b e e') (x : String) : e.has x = e'.has x := by
  rw [has, has]
  by_cases hx : x = name
  · rw [hx, h.left, h.right]
    rfl
  · rw [h.others x hx]

lemma getD_eq (h : Differ name a b e e') {x : String} (hx : x ≠ name) (default : String) :
    e.getD x default = e'.getD x default := by
  rw [getD, getD, h.others x hx]

lemma of_set (e : Environment) (name a b : String) :
    Differ name a b (e.set name a) (e.set name b) := by
  refine ⟨?_, ?_, ?_⟩
  · intro x hx
    have hname : (x == name) = false := by simpa using hx
    rw [get?_set, get?_set, hname]
    rfl
  · rw [get?_set, beq_self_eq_true, if_pos rfl]
  · rw [get?_set, beq_self_eq_true, if_pos rfl]

lemma set (h : Differ name a b e e') {x : String} (hx : x ≠ name) (v : String) :
    Differ name a b (e.set x v) (e'.set x v) := by
  have hname : (name == x) = false := by simpa using hx.symm
  refine ⟨?_, ?_, ?_⟩
  · intro y hy
    rw [get?_set, get?_set, h.others y hy]
  · rw [get?_set, hname]
    exact h.left
  · rw [get?_set, hname]
    exact h.right

lemma assign (h : Differ name a b e e') {x : String} (hx : x ≠ name) (v : String) :
    SameOutcome (Differ name a b) (e.assign x v) (e'.assign x v) := by
  obtain ⟨f, hrefused⟩ | hset := assign_cases x v
  · rw [hrefused, hrefused]
    exact .error f
  · rw [hset, hset]
    exact .ok (h.set hx v)

end Environment.Differ

/-- The token is in its own field of a config and in no other. -/
lemma Config.ofEnvironment_differ {a b : String} {e e' : Environment}
    (h : e.Differ "ZITADEL_PAT" a b e') :
    (ofEnvironment e).pat = .text a ∧
      ofEnvironment e' = { ofEnvironment e with pat := .text b } := by
  have hleft : e.getD "ZITADEL_PAT" "" = a := by rw [Environment.getD, h.left, Option.getD_some]
  have hright : e'.getD "ZITADEL_PAT" "" = b := by
    rw [Environment.getD, h.right, Option.getD_some]
  have hothers : ∀ x ≠ "ZITADEL_PAT", ∀ default, e'.getD x default = e.getD x default :=
    fun x hx default => (h.getD_eq hx default).symm
  refine ⟨congrArg Value.text hleft, ?_⟩
  rw [ofEnvironment, hright, hothers "ZITADEL_DOMAIN" (by decide),
    hothers "ZITADEL_PORT" (by decide), hothers "ZITADEL_INSECURE" (by decide),
    hothers "ZITADEL_TIMEOUT" (by decide)]
  rfl

namespace Dotenv

/-- Some part of the value stands for the variable. -/
def Binding.RefersTo (name : String) (b : Binding) : Prop :=
  ∃ s default, b.value = some s ∧ .reference name default ∈ pieces s

variable {name : String} {e e' : Environment}

lemma interpolate_congr (h : ∀ x, x ≠ name → e.get? x = e'.get? x) (earlier : Values) {s : String}
    (hs : ∀ default, .reference name default ∉ pieces s) :
    interpolate e earlier s = interpolate e' earlier s := by
  rw [interpolate, interpolate]
  refine congrArg String.join (List.map_congr_left ?_)
  intro piece hpiece
  cases piece with
  | char c => rfl
  | reference x default =>
    have hx : x ≠ name := by
      rintro rfl
      exact hs default hpiece
    rw [Piece.resolve, Piece.resolve, lookup, lookup, h x hx]

lemma values_congr (h : ∀ x, x ≠ name → e.get? x = e'.get? x) {bs : List Binding}
    (hbs : ∀ b ∈ bs, ¬ b.RefersTo name) : values e bs = values e' bs := by
  rw [values, values]
  refine List.foldl_ext _ _ _ ?_
  intro earlier b hb
  rw [put, put]
  cases hvalue : b.value with
  | none => rfl
  | some s =>
    have hs : ∀ default, .reference name default ∉ pieces s :=
      fun default hpiece => hbs b hb ⟨s, default, hvalue, hpiece⟩
    rw [Option.map_some, Option.map_some, interpolate_congr h earlier hs]

end Dotenv

namespace Settings

/-- Stores without a config, which differ in the value of one variable. -/
structure Store.Differ (name a b : String) (p q : Store) : Prop where
  environment : p.environment.Differ name a b q.environment
  files : p.files = q.files
  left : p.cache = none
  right : q.cache = none

/-- The dotenv file is read, and one of its values refers to the variable. -/
def Store.RefersTo (name : String) (p : Store) : Prop :=
  fileDisabled p.environment = false ∧ ∃ bytes cs, fileBytes p = some bytes ∧
    fileChars bytes = .ok cs ∧ ∃ b ∈ Dotenv.bindings cs, b.RefersTo name

variable {name a b : String} {p q : Store}

/-- Only free variables are set, and the one that differs is not free. -/
lemma setFree_differ (h : p.Differ name a b q) (values : Dotenv.Values) :
    SameOutcome Eq ((setFree values).perform p).1 ((setFree values).perform q).1 ∧
      ((setFree values).perform p).2.Differ name a b ((setFree values).perform q).2 := by
  induction values generalizing p q with
  | nil => exact ⟨.ok rfl, h⟩
  | cons binding rest ih =>
    obtain ⟨x, v | v⟩ := binding
    · exact ih h
    · rw [perform_setFree_cons, perform_setFree_cons, ← h.environment.has_eq]
      by_cases hhas : p.environment.has x = true
      · rw [if_pos hhas, if_pos hhas]
        exact ih h
      · have hx : x ≠ name := by
          rintro rfl
          exact hhas (by rw [Environment.has, h.environment.left, Option.isSome_some])
        rw [if_neg hhas, if_neg hhas]
        have hassign := h.environment.assign hx v
        generalize p.environment.assign x v = r at hassign ⊢
        generalize q.environment.assign x v = r' at hassign ⊢
        cases hassign with
        | error f => exact ⟨.error f, h⟩
        | ok he => exact ih ⟨he, h.files, h.left, h.right⟩

lemma loadFile_differ (h : p.Differ "ZITADEL_PAT" a b q) (hfile : ¬ p.RefersTo "ZITADEL_PAT") :
    SameOutcome Eq (loadFile.perform p).1 (loadFile.perform q).1 ∧
      (loadFile.perform p).2.Differ "ZITADEL_PAT" a b (loadFile.perform q).2 := by
  have hdisabled : fileDisabled p.environment = fileDisabled q.environment := by
    rw [fileDisabled, fileDisabled, h.environment.getD_eq (by decide)]
  have hbytes : fileBytes p = fileBytes q := by
    rw [fileBytes, fileBytes, h.files, h.environment.getD_eq (by decide)]
  rw [perform_loadFile, perform_loadFile, ← hdisabled, ← hbytes]
  split
  · exact ⟨.ok rfl, h⟩
  · next hread =>
    split
    · exact ⟨.ok rfl, h⟩
    · next bytes hsome =>
      split
      · next cs hchars =>
        have hunquoted : ∀ b ∈ Dotenv.bindings cs, ¬ b.RefersTo "ZITADEL_PAT" :=
          fun b hb hrefers =>
            hfile ⟨Bool.eq_false_iff.mpr hread, bytes, cs, hsome, hchars, b, hb, hrefers⟩
        rw [← Dotenv.values_congr h.environment.others hunquoted]
        exact setFree_differ h _
      · exact ⟨.error _, h⟩

/-- The configs that are loaded differ in the token alone, or both loads fail in the same way. -/
theorem current_differ (h : p.Differ "ZITADEL_PAT" a b q) (hfile : ¬ p.RefersTo "ZITADEL_PAT") :
    SameOutcome (fun l l' => l.config.pat = .text a ∧
        l'.config = { l.config with pat := .text b })
      (current.perform p).1 (current.perform q).1 := by
  have hcurrent : ∀ p : Store, p.cache = none → (current.perform p).1 =
      (loadFile.perform p).1.map fun _ =>
        let v := (loadFile.perform p).2
        ⟨v.loads + 1, .ofEnvironment v.environment⟩ := by
    intro p hp
    simp only [current, reload, Step.perform_bind, Step.perform_get, hp]
    rcases loadFile.perform p with ⟨_ | _, v⟩ <;> rfl
  obtain ⟨houtcome, hstores⟩ := loadFile_differ h hfile
  rw [hcurrent p h.left, hcurrent q h.right]
  exact houtcome.map fun _ _ _ => Config.ofEnvironment_differ hstores.environment

end Settings

end SharedChannel
