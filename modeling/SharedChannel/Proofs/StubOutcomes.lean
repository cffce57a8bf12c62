import SharedChannel.Service
import Mathlib.Data.List.Basic
import Mathlib.Tactic.Common

/-!
# What becomes of a service

`Supply.outcome` reads off a supply what becomes of the stub of a service: whether its module is
there, whether that has the class, and whether the constructor works. `Supply.load_eq` says that the
look-up by import path goes by it for every service of the catalogue. It rests on two facts about
the catalogue: no two services share a module, and no module lies above another one.
-/

namespace SharedChannel

namespace Service

/-- What becomes of the stub of a service. -/
inductive Outcome where
  /-- There are no generated modules at all. -/
  | absent
  /-- Its module is missing. -/
  | missing
  /-- Its module cannot be imported. -/
  | broken (failure : Failure)
  /-- Its module lacks the class. -/
  | classless
  /-- The constructor fails. -/
  | failing (failure : Failure)
  | built
deriving DecidableEq, Repr

namespace Outcome

/-- Why there is no stub. -/
def failure? (service : Service) : Outcome → Option Failure
  | absent => some (.missingModule "zitadel")
  | missing => some (.missingModule service.path.toText)
  | classless => some (.missingClass service.path.toText service.stub)
  | broken f | failing f => some f
  | built => none

/-- Whether it comes to a call of the constructor. -/
def isConstructed : Outcome → Bool
  | failing _ | built => true
  | absent | missing | broken _ | classless => false

lemma failure?_eq_none_iff {service : Service} {o : Outcome} :
    o.failure? service = none ↔ o = built := by
  cases o <;> simp [failure?]

end Outcome

end Service

namespace Supply

/-- What becomes of a service, by the lists that it is in. -/
def outcome (s : Supply) (service : Service) : Service.Outcome :=
  if s.absent then .absent
  else if s.missing.contains service.accessor then .missing
  else
    match s.broken.lookup service.accessor with
    | some f => .broken f
    | none =>
      if s.classless.contains service.accessor then .classless
      else
        match s.failing.lookup service.accessor with
        | some f => .failing f
        | none => .built

section Catalogue

/-- No two services share a module. -/
lemma eq_of_path_eq : ∀ service ∈ Service.all, ∀ other ∈ Service.all,
    other.path = service.path → other = service := by
  decide +kernel

/-- No module lies above another one. -/
lemma path_notMem_beginnings : ∀ service ∈ Service.all, ∀ other ∈ Service.all,
    other.path ∉ service.path.beginnings.dropLast := by
  decide +kernel

lemma beginnings_path : ∀ service ∈ Service.all,
    service.path.beginnings = service.path.beginnings.dropLast ++ [service.path] ∧
      service.path.beginnings.dropLast ≠ [] := by
  decide +kernel

lemma common_stub : ∀ service ∈ Service.all, ∀ isPackage,
    Definition.common? isPackage service.stub = none := by
  decide +kernel

lemma importModule_path (s : Supply) :
    ∀ service ∈ Service.all,
      s.importModule service.path = s.importEach none service.path.beginnings := by
  simp only [Service.all, List.forall_mem_cons]
  exact ⟨rfl, rfl, rfl, rfl, rfl, rfl, rfl, rfl, rfl, rfl, rfl, rfl, rfl, rfl, by simp⟩

end Catalogue

section Loading

variable {s : Supply} {service : Service}

lemma mem_modules_iff (habsent : s.absent = false) (h : service ∈ Service.all) :
    service.path ∈ s.modules ↔ s.missing.contains service.accessor = false := by
  unfold modules
  rw [habsent]
  constructor
  · intro hmem
    obtain ⟨other, hother, hpath⟩ := List.mem_map.mp hmem
    obtain ⟨hall, hfound⟩ := List.mem_filter.mp hother
    rw [← eq_of_path_eq service h other hall hpath]
    simpa using hfound
  · intro hfound
    refine List.mem_map.mpr ⟨service, List.mem_filter.mpr ⟨h, ?_⟩, rfl⟩
    rw [hfound]
    rfl

lemma path_notMem_packages (s : Supply) (h : service ∈ Service.all) :
    service.path ∉ s.packages := by
  unfold packages
  split
  · exact List.not_mem_nil
  · intro hmem
    obtain ⟨other, hother, habove⟩ := List.mem_flatMap.mp hmem
    exact path_notMem_beginnings other hother service h habove

lemma importFailure_path (s : Supply) (h : service ∈ Service.all) :
    s.importFailure? service.path = s.broken.lookup service.accessor := by
  unfold importFailure?
  cases hfind : Service.all.find? (·.path == service.path) with
  | none => simpa using List.find?_eq_none.mp hfind service h
  | some other =>
    have hpath : other.path = service.path := by simpa using List.find?_some hfind
    rw [eq_of_path_eq service h other (List.mem_of_find?_eq_some hfind) hpath]
    rfl

/-- A package above a module is not a module of the catalogue, so its import does not fail. -/
lemma importFailure_beginning (s : Supply) (h : service ∈ Service.all) {path : ModulePath}
    (hpath : path ∈ service.path.beginnings.dropLast) : s.importFailure? path = none := by
  unfold importFailure?
  cases hfind : Service.all.find? (·.path == path) with
  | none => rfl
  | some other =>
    have hother : other.path = path := by simpa using List.find?_some hfind
    rw [← hother] at hpath
    exact absurd hpath (path_notMem_beginnings service h other (List.mem_of_find?_eq_some hfind))

lemma importEach_cons_of_found {path : ModulePath} (parent : Option ModulePath)
    (deeper : List ModulePath)
    (h : (s.packages.contains path || s.modules.contains path) = true) :
    s.importEach parent (path :: deeper) =
      match s.importFailure? path with
      | some f => .error f
      | none => s.importEach (some path) deeper := by
  rw [importEach.eq_def]
  exact if_pos h

lemma importEach_cons_of_missing {path parent : ModulePath} (deeper : List ModulePath)
    (h : (s.packages.contains path || s.modules.contains path) = false)
    (hparent : s.packages.contains parent = true) :
    s.importEach (some parent) (path :: deeper) = .error (.missingModule path.toText) := by
  rw [importEach.eq_def]
  dsimp only
  rw [h, hparent]
  rfl

/-- Packages are imported one after the other, and the last one is the parent of what follows. -/
lemma importEach_packages {before : List ModulePath} (parent : Option ModulePath)
    (hpackages : ∀ path ∈ before, path ∈ s.packages)
    (hfine : ∀ path ∈ before, s.importFailure? path = none) (behind : List ModulePath) :
    s.importEach parent (before ++ behind) = s.importEach (before.getLast?.or parent) behind := by
  induction before generalizing parent with
  | nil => rfl
  | cons path rest ih =>
    obtain ⟨hpath, hrest⟩ := List.forall_mem_cons.mp hpackages
    obtain ⟨hpathFine, hrestFine⟩ := List.forall_mem_cons.mp hfine
    have hfound : (s.packages.contains path || s.modules.contains path) = true := by
      rw [List.contains_iff_mem.mpr hpath, Bool.true_or]
    rw [List.cons_append, importEach_cons_of_found _ _ hfound, hpathFine]
    dsimp only
    rw [ih (some path) hrest hrestFine, List.getLast?_cons]
    cases rest.getLast? <;> rfl

/-- What becomes of the import of a service's module. -/
lemma importModule_eq (h : service ∈ Service.all) : s.importModule service.path =
    if s.absent then .error (.missingModule "zitadel")
    else if s.missing.contains service.accessor then .error (.missingModule service.path.toText)
    else
      match s.broken.lookup service.accessor with
      | some f => .error f
      | none => .ok () := by
  rw [importModule_path s service h]
  cases habsent : s.absent with
  | true =>
    have hnone : s.packages = [] ∧ s.modules = [] := by simp [packages, modules, habsent]
    revert service
    simp only [Service.all, List.forall_mem_cons]
    refine ⟨?_, ?_, ?_, ?_, ?_, ?_, ?_, ?_, ?_, ?_, ?_, ?_, ?_, ?_, by simp⟩ <;>
      simp [ModulePath.beginnings, importEach, hnone, ModulePath.toText]
  | false =>
    obtain ⟨hbegin, hparents⟩ := beginnings_path service h
    have hpackages : ∀ path ∈ service.path.beginnings.dropLast, path ∈ s.packages := by
      intro path hpath
      unfold packages
      rw [habsent]
      exact List.mem_flatMap.mpr ⟨service, h, hpath⟩
    rw [hbegin, importEach_packages none hpackages fun path => importFailure_beginning s h]
    obtain ⟨parent, hparent⟩ :=
      Option.ne_none_iff_exists'.mp (mt List.getLast?_eq_none_iff.mp hparents)
    have hknown : s.packages.contains parent = true :=
      List.contains_iff_mem.mpr (hpackages parent (List.mem_of_getLast? hparent))
    have hmodule : s.packages.contains service.path = false := by
      rw [Bool.eq_false_iff, Ne, List.contains_iff_mem]
      exact path_notMem_packages s h
    have hfound : (s.packages.contains service.path || s.modules.contains service.path) =
        !s.missing.contains service.accessor := by
      rw [hmodule, Bool.false_or, Bool.eq_iff_iff, List.contains_iff_mem,
        mem_modules_iff habsent h, Bool.not_eq_true']
    rw [hparent]
    cases hmissing : s.missing.contains service.accessor with
    | true =>
      rw [hmissing] at hfound
      exact importEach_cons_of_missing [] hfound hknown
    | false =>
      rw [hmissing] at hfound
      rw [importEach_cons_of_found _ _ hfound, importFailure_path s h]
      rfl

/-- A module has the class of its service unless that is said to lack it. -/
lemma contains_classes (s : Supply) (h : service ∈ Service.all) :
    (s.classes service.path).contains service.stub =
      !s.classless.contains service.accessor := by
  unfold classes
  rw [Bool.eq_iff_iff, List.contains_iff_mem]
  constructor
  · intro hmem
    obtain ⟨other, hother, -⟩ := List.mem_map.mp hmem
    obtain ⟨hall, hfound⟩ := List.mem_filter.mp hother
    obtain ⟨hpath, hclass⟩ := Bool.and_eq_true_iff.mp hfound
    rwa [eq_of_path_eq service h other hall (eq_of_beq hpath)] at hclass
  · intro hclass
    refine List.mem_map.mpr ⟨service, List.mem_filter.mpr ⟨h, ?_⟩, rfl⟩
    rw [hclass, Bool.and_true, beq_iff_eq]

/-- Looking up the class of a service goes by the outcome of the service. -/
theorem load_eq (h : service ∈ Service.all) : s.load service.path service.stub =
    match s.outcome service with
    | .absent => .error (.missingModule "zitadel")
    | .missing => .error (.missingModule service.path.toText)
    | .broken f => .error f
    | .classless => .error (.missingClass service.path.toText service.stub)
    | .failing _ | .built => .ok ⟨some service.path.toText, service.stub⟩ := by
  unfold load outcome
  rw [importModule_eq h, contains_classes s h, common_stub service h]
  cases s.absent with
  | true => rfl
  | false =>
    cases s.missing.contains service.accessor with
    | true => rfl
    | false =>
      cases s.broken.lookup service.accessor with
      | some f => rfl
      | none =>
        cases s.classless.contains service.accessor with
        | true => rfl
        | false => cases s.failing.lookup service.accessor <;> rfl

end Loading

section Constructors

/-- If it comes to the constructor, the outcome is that of the constructor. -/
lemma lookup_failing (s : Supply) (service : Service)
    (h : (s.outcome service).isConstructed = true) :
    s.failing.lookup service.accessor = (s.outcome service).failure? service := by
  revert h
  unfold outcome
  split
  · exact fun h => nomatch h
  · split
    · exact fun h => nomatch h
    · split
      · exact fun h => nomatch h
      · split
        · exact fun h => nomatch h
        · intro _
          cases s.failing.lookup service.accessor <;> rfl

end Constructors

end Supply

end SharedChannel
