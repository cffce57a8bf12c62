import SharedChannel.Client
import Mathlib.Tactic.Common

/-!
# What options add up to

A single value is decided by the last option that sets it, and a list grows by every option in
order. `lastSecurity`, `lastProvider` and `lastAuth` read the decisive value off the list of options
alone; the lemmas say that settings made of the options hold it.
-/

namespace SharedChannel

section Folding

variable {σ ι β : Type} (apply : σ → ι → σ)

/-- If each option either sets a value or keeps it, the last one that sets it decides. -/
lemma foldl_last_wins (get : σ → β) (sets? : ι → Option β)
    (h : ∀ x o, get (apply x o) = (sets? o).getD (get x)) (options : List ι) (x : σ) :
    get (options.foldl apply x) = (options.filterMap sets?).getLast?.getD (get x) := by
  induction options generalizing x with
  | nil => rfl
  | cons o rest ih =>
    rw [List.foldl_cons, ih, h]
    cases ho : sets? o with
    | none => simp [ho]
    | some b => simp [ho, List.getLast?_cons]

/-- If each option appends to a list, the list holds what they append in order. -/
lemma foldl_accumulates (get : σ → List β) (adds : ι → List β)
    (h : ∀ x o, get (apply x o) = get x ++ adds o) (options : List ι) (x : σ) :
    get (options.foldl apply x) = get x ++ options.flatMap adds := by
  induction options generalizing x with
  | nil => simp
  | cons o rest ih => rw [List.foldl_cons, ih, h, List.flatMap_cons, List.append_assoc]

end Folding

namespace DialOption

def security? : DialOption → Option (Option Security)
  | transportCredentials security => some security
  | _ => none

def provider? : DialOption → Option (Option Provider)
  | perCallCredentials provider => some provider
  | _ => none

def addedInterceptors : DialOption → List Interceptor
  | interceptors added => added
  | _ => []

/-- The transport security in effect: that of the last option which sets it. -/
def lastSecurity (options : List DialOption) : Option Security :=
  (options.filterMap security?).getLast?.join

/-- The provider in effect: that of the last option which sets it. -/
def lastProvider (options : List DialOption) : Option Provider :=
  (options.filterMap provider?).getLast?.join

lemma ofOptions_security (options : List DialOption) :
    (DialSettings.ofOptions options).security = lastSecurity options := by
  rw [DialSettings.ofOptions, foldl_last_wins DialOption.apply DialSettings.security security?
    (by rintro x (_ | _ | _ | _ | _ | _) <;> rfl), lastSecurity]
  cases (options.filterMap security?).getLast? <;> rfl

lemma ofOptions_callCredentials (options : List DialOption) :
    (DialSettings.ofOptions options).callCredentials = lastProvider options := by
  rw [DialSettings.ofOptions,
    foldl_last_wins DialOption.apply DialSettings.callCredentials provider?
    (by rintro x (_ | _ | _ | _ | _ | _) <;> rfl), lastProvider]
  cases (options.filterMap provider?).getLast? <;> rfl

lemma ofOptions_interceptors (options : List DialOption) :
    (DialSettings.ofOptions options).interceptors = options.flatMap addedInterceptors := by
  rw [DialSettings.ofOptions, foldl_accumulates DialOption.apply DialSettings.interceptors
    addedInterceptors (by rintro x (_ | _ | _ | _ | _ | _) <;> simp [apply, addedInterceptors])]
  rfl

/-- Behind the mandatory options the caller's decide, as far as they set the transport security. -/
lemma lastSecurity_withMandatory (security : Option Security) (own : Option Provider)
    (extra : List DialOption) :
    lastSecurity (withMandatory security own extra) =
      (extra.filterMap security?).getLast?.getD security := by
  have hcons : (withMandatory security own extra).filterMap security? =
      security :: extra.filterMap security? := rfl
  rw [lastSecurity, hcons, List.getLast?_cons]
  rfl

lemma lastProvider_withMandatory (security : Option Security) (own : Option Provider)
    (extra : List DialOption) :
    lastProvider (withMandatory security own extra) =
      (extra.filterMap provider?).getLast?.getD own := by
  have hcons : (withMandatory security own extra).filterMap provider? =
      own :: extra.filterMap provider? := rfl
  rw [lastProvider, hcons, List.getLast?_cons]
  rfl

end DialOption

namespace ClientOption

def auth? : ClientOption → Option (Option Initializer)
  | auth initializer => some initializer
  | dial _ => none

def addedDialOptions : ClientOption → List DialOption
  | auth _ => []
  | dial options => options

/-- The initializer in effect: that of the last option which sets it. -/
def lastAuth (options : List ClientOption) : Option Initializer :=
  (options.filterMap auth?).getLast?.join

/-- All dial options of the caller in order. -/
def dialOptions (options : List ClientOption) : List DialOption := options.flatMap addedDialOptions

def interceptors (options : List ClientOption) : List Interceptor :=
  (dialOptions options).flatMap DialOption.addedInterceptors

lemma ofOptions_initializer (options : List ClientOption) :
    (ClientSettings.ofOptions options).initializer = lastAuth options := by
  rw [ClientSettings.ofOptions, foldl_last_wins ClientOption.apply ClientSettings.initializer auth?
    (by rintro x (_ | _) <;> rfl), lastAuth]
  cases (options.filterMap auth?).getLast? <;> rfl

lemma ofOptions_dialOptions (options : List ClientOption) :
    (ClientSettings.ofOptions options).dialOptions = dialOptions options := by
  rw [ClientSettings.ofOptions, foldl_accumulates ClientOption.apply ClientSettings.dialOptions
    addedDialOptions (by rintro x (_ | _) <;> simp [apply, addedDialOptions])]
  rfl

end ClientOption

end SharedChannel
