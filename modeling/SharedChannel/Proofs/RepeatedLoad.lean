import SharedChannel.Proofs.FileValues

/-!
# Loading twice

A load sets every variable that its file gives a value, so a second load of the same file finds
nothing to do. It reads the same file unless the first load took the name of the file from the file
itself. After two loads the name is settled in any case, and every further load is idle.
-/

namespace SharedChannel.Settings

variable {p q : Store} {loaded : Loaded}

lemma perform_reload (p : Store) : reload.perform p =
    match loadFile.perform p with
    | (.ok _, q) =>
      let loaded : Loaded := ⟨q.loads + 1, .ofEnvironment q.environment⟩
      (.ok loaded, { q with loads := q.loads + 1, cache := some loaded })
    | (.error f, q) => (.error f, q) := by
  rw [reload, Step.perform_bind]
  rcases loadFile.perform p with ⟨f | _, q⟩ <;> rfl

/-- A load that succeeds reads its config from the environment that it leaves. -/
lemma reload_eq_ok (h : reload.perform p = (.ok loaded, q)) :
    loaded.config = .ofEnvironment q.environment ∧
      ∃ v, loadFile.perform p = (.ok (), v) ∧ q.environment = v.environment := by
  rw [perform_reload] at h
  rcases hload : loadFile.perform p with ⟨f | u, v⟩
  · rw [hload] at h
    cases h
  · rw [hload] at h
    cases h
    exact ⟨rfl, v, rfl, rfl⟩

/-- Whatever a load comes to, it only gives free variables the values of the file. -/
lemma reload_gains (p : Store) : Gains p.Binds p (reload.perform p).2 := by
  have hload := loadFile_gains p
  rw [perform_reload]
  rcases hrun : loadFile.perform p with ⟨f | u, v⟩
  · rwa [hrun] at hload
  · rw [hrun] at hload
    exact ⟨hload.kept, hload.added, hload.files⟩

/-- A load would succeed, leave variables and files alone, and come to the same config. -/
def Store.Repeats (q : Store) (loaded : Loaded) : Prop :=
  ∃ again r, reload.perform q = (.ok again, r) ∧ r.environment = q.environment ∧
    r.files = q.files ∧ again.config = loaded.config

/-- The name of the dotenv file stays what it is. -/
def Store.KeepsFile (p : Store) : Prop :=
  p.environment.has "ZITADEL_ENV_FILE" = true ∨ ∀ v, ¬ p.Binds "ZITADEL_ENV_FILE" v

lemma Store.KeepsFile.fileBytes (hkeeps : p.KeepsFile) (h : Gains p.Binds p q) :
    fileBytes q = fileBytes p := by
  have hname : q.environment.get? "ZITADEL_ENV_FILE" = p.environment.get? "ZITADEL_ENV_FILE" := by
    cases hp : p.environment.get? "ZITADEL_ENV_FILE" with
    | some v => exact h.kept _ v hp
    | none =>
      have hunbound : ∀ v, ¬ p.Binds "ZITADEL_ENV_FILE" v := by
        refine hkeeps.resolve_left ?_
        rw [Environment.has, hp]
        exact Bool.false_ne_true
      refine Option.eq_none_iff_forall_ne_some.mpr fun v hv => ?_
      exact hunbound v (h.added _ v hp hv)
  rw [Settings.fileBytes, Settings.fileBytes, h.files, Environment.getD, Environment.getD, hname]

lemma fileBindings_of_disabled (h : fileDisabled p.environment = true) :
    p.fileBindings = .ok [] := by
  rw [Store.fileBindings, h]
  rfl

lemma settled_of_disabled (h : fileDisabled p.environment = true) : p.Settled := by
  refine ⟨[], fileBindings_of_disabled h, ?_⟩
  rintro x v ⟨before, s, after, hnil, -⟩
  exact absurd hnil (by simp)

/-- Once a file is loaded, it is settled for as long as it is the file that is read. -/
lemma settled_of_fileBytes (h : reload.perform p = (.ok loaded, q))
    (hfile : fileBytes q = fileBytes p) : q.Settled := by
  obtain ⟨-, v, hload, henvironment⟩ := reload_eq_ok h
  by_cases hq : fileDisabled q.environment = true
  · exact settled_of_disabled hq
  · -- a load that reads no file leaves the environment, so this one did read it
    have hp : ¬ fileDisabled p.environment = true := by
      intro hp
      rw [(settled_of_disabled hp).loadFile] at hload
      obtain rfl : p = v := congrArg Prod.snd hload
      rw [henvironment] at hq
      exact hq hp
    have hbindings : q.fileBindings = p.fileBindings := by
      rw [Store.fileBindings, Store.fileBindings, if_neg hq, if_neg hp, hfile]
    cases hbs : p.fileBindings with
    | error f =>
      rw [perform_loadFile_bindings, hbs] at hload
      cases hload
    | ok bs =>
      refine ⟨bs, hbindings.trans hbs, fun x u hx => ?_⟩
      obtain ⟨u', hx'⟩ := hx.of_environment p.environment
      rw [henvironment]
      exact has_of_loadFile hload ⟨bs, hbs, hx'⟩

lemma Store.Settled.perform_reload (h : p.Settled) : reload.perform p =
    (.ok ⟨p.loads + 1, .ofEnvironment p.environment⟩, { p with
      loads := p.loads + 1, cache := some ⟨p.loads + 1, .ofEnvironment p.environment⟩ }) := by
  rw [Settings.perform_reload, h.loadFile]

lemma Store.Settled.repeats (hq : q.Settled)
    (hloaded : loaded.config = .ofEnvironment q.environment) :
    q.Repeats loaded :=
  ⟨_, _, hq.perform_reload, rfl, rfl, hloaded.symm⟩

/-- What a load leaves alone has nothing free that the file gives a value. -/
lemma Store.Repeats.settled (h : q.Repeats loaded) : q.Settled := by
  obtain ⟨again, r, hreload, henvironment, -⟩ := h
  obtain ⟨-, v, hload, hv⟩ := reload_eq_ok hreload
  cases hbs : q.fileBindings with
  | error f =>
    rw [perform_loadFile_bindings, hbs] at hload
    cases hload
  | ok bs =>
    refine ⟨bs, hbs, fun x u hx => ?_⟩
    have hset : v.environment.has x = true := has_of_loadFile hload ⟨bs, hbs, hx⟩
    rwa [← hv, henvironment] at hset

lemma repeats_of_keepsFile (h : reload.perform p = (.ok loaded, q)) (hkeeps : p.KeepsFile) :
    q.Repeats loaded := by
  have hgains : Gains p.Binds p q := by simpa [h] using reload_gains p
  have hsettled : q.Settled := settled_of_fileBytes h (hkeeps.fileBytes hgains)
  exact hsettled.repeats (reload_eq_ok h).1

/-- After one load the name of the file stays: it is set, or no file that is read gives it. -/
lemma keepsFile_of_reload (h : reload.perform p = (.ok loaded, q)) : q.KeepsFile := by
  by_cases hname : q.environment.has "ZITADEL_ENV_FILE" = true
  · exact .inl hname
  · -- a name still free was not in the file just read, and this is the file read from now on
    obtain ⟨-, v, hload, hv⟩ := reload_eq_ok h
    have hkeeps : p.KeepsFile := by
      refine .inr fun u hu => hname ?_
      rw [hv]
      exact has_of_loadFile hload hu
    obtain ⟨bs, hbs, hset⟩ := (repeats_of_keepsFile h hkeeps).settled
    refine .inr ?_
    rintro u ⟨bs', hbs', hu⟩
    obtain rfl : bs = bs' := by simpa [hbs] using hbs'
    exact hname (hset _ u hu)

/-- A load that succeeds is repeated by the next one if it does not take the name of the file from
the file, and in general exactly if the file then named gives no value to a free variable. What two
loads in a row come to, the next one repeats. -/
theorem reload_repeats (h : reload.perform p = (.ok loaded, q)) :
    (p.KeepsFile → q.Repeats loaded) ∧ (q.Repeats loaded ↔ q.Settled) ∧
      ∀ again r, reload.perform q = (.ok again, r) → r.Repeats again := by
  refine ⟨repeats_of_keepsFile h, ?_, ?_⟩
  · exact ⟨fun hrepeats => hrepeats.settled, fun hq => hq.repeats (reload_eq_ok h).1⟩
  · intro again r hagain
    exact repeats_of_keepsFile hagain (keepsFile_of_reload h)

namespace Redirected

/-- A file that names another file, which names the domain. -/
def store : Store where
  files := {
    files := [([".env"], "ZITADEL_ENV_FILE=b.env\n".toUTF8.toList),
      (["b.env"], "ZITADEL_DOMAIN=x\n".toUTF8.toList)] }

/-- The store after one load, and after two. -/
def once : Store := (reload.perform store).2

def twice : Store := (reload.perform once).2

def empty : Loaded := ⟨1, { domain := .text "" }⟩

def named : Loaded := ⟨2, { domain := .text "x" }⟩

end Redirected

open Redirected in
/-- The second load succeeds as the first does, but it reads another file. -/
theorem second_reload_reads_other_file :
    reload.perform store = (.ok empty, once) ∧ reload.perform once = (.ok named, twice) ∧
      once.environment.get? "ZITADEL_DOMAIN" = none ∧
      twice.environment.get? "ZITADEL_DOMAIN" = some "x" ∧ ¬ once.Repeats empty := by
  have hagain : reload.perform once = (.ok named, twice) := by decide +kernel
  refine ⟨by decide +kernel, hagain, by decide +kernel, by decide +kernel, ?_⟩
  rintro ⟨again, r, hreload, -, -, hconfig⟩
  obtain ⟨rfl, -⟩ : named = again ∧ twice = r := by simpa [hagain] using hreload
  exact absurd hconfig (by decide)

namespace Pinned

/-- The name of the file is set, and the file gives it again, with other names that refer to each
other, are given twice or have no value. -/
def store : Store where
  environment := .ofList [("USER", "u"), ("ZITADEL_ENV_FILE", "a.env"), ("ZITADEL_PORT", "")]
  files := {
    files := [(["a.env"], ("ZITADEL_ENV_FILE=b.env\nZITADEL_DOMAIN=h\n" ++
      "ZITADEL_PAT=$\x7bUSER\x7d-$\x7bZITADEL_DOMAIN\x7d\nZITADEL_DOMAIN=k\n" ++
      "ZITADEL_TIMEOUT\nZITADEL_PORT=1\n").toUTF8.toList)] }

def answer : Loaded := ⟨1, { domain := .text "k", port := .text "", pat := .text "u-h" }⟩

end Pinned

theorem pinned_reload_repeats :
    reload.perform Pinned.store = (.ok Pinned.answer, (reload.perform Pinned.store).2) ∧
      (reload.perform Pinned.store).2.Repeats Pinned.answer ∧
      Redirected.twice.Repeats Redirected.named := by
  have hpinned : reload.perform Pinned.store =
      (.ok Pinned.answer, (reload.perform Pinned.store).2) := by decide +kernel
  have hredirected : reload.perform Redirected.store = (.ok Redirected.empty, Redirected.once) := by
    decide +kernel
  have hagain : reload.perform Redirected.once = (.ok Redirected.named, Redirected.twice) := by
    decide +kernel
  refine ⟨hpinned, ?_, ?_⟩
  · exact (reload_repeats hpinned).1 (.inl (by decide +kernel))
  · exact (reload_repeats hredirected).2.2 _ _ hagain

end SharedChannel.Settings
