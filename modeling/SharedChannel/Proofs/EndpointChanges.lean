import SharedChannel.Proofs.EndpointChecks

/-!
# Endpoints with changes

A new endpoint starts with the port of TLS and takes its changes in order, each of them checked as
an endpoint of its own. `new_accepts_iff` says which lists of changes are accepted, what comes of
them, and whose failure a refusal is. `malformed_reported_iff` says when a refusal is reported as
one of endpoints.
-/

namespace SharedChannel

section Folding

variable {ε α β : Type} {g : β → α → Except ε β} {b c : β} {f : ε}

lemma foldlM_cons_of_ok {a : α} (h : g b a = .ok c) (as : List α) :
    (a :: as).foldlM g b = as.foldlM g c := by
  rw [List.foldlM_cons, h]
  rfl

lemma foldlM_cons_of_error {a : α} (h : g b a = .error f) (as : List α) :
    (a :: as).foldlM g b = .error f := by
  rw [List.foldlM_cons, h]
  rfl

lemma foldlM_append_of_ok {before : List α} (h : before.foldlM g b = .ok c) (as : List α) :
    (before ++ as).foldlM g b = as.foldlM g c := by
  rw [List.foldlM_append, h]
  rfl

/-- A fold fails as the first step that fails, which comes after steps that succeed. -/
lemma foldlM_eq_error_iff {as : List α} :
    as.foldlM g b = .error f ↔ ∃ before a behind c, as = before ++ a :: behind ∧
      before.foldlM g b = .ok c ∧ g c a = .error f := by
  constructor
  · intro h
    induction as generalizing b with
    | nil => cases h
    | cons a rest ih =>
      cases hstep : g b a with
      | error f' =>
        rw [foldlM_cons_of_error hstep] at h
        cases h
        exact ⟨[], a, rest, b, rfl, rfl, hstep⟩
      | ok c =>
        rw [foldlM_cons_of_ok hstep] at h
        obtain ⟨before, x, behind, c', rfl, hbefore, hx⟩ := ih h
        refine ⟨a :: before, x, behind, c', rfl, ?_, hx⟩
        rw [foldlM_cons_of_ok hstep]
        exact hbefore
  · rintro ⟨before, a, behind, c, rfl, hbefore, ha⟩
    rw [foldlM_append_of_ok hbefore, foldlM_cons_of_error ha]

end Folding

namespace Endpoint

namespace Change

/-- The port that a change brings. -/
def value : Change → Value
  | insecure p => p
  | port p => p

def isInsecure : Change → Bool
  | insecure _ => true
  | port _ => false

/-- What a change brings can be written, and its text is accepted as a port. -/
def Accepted (c : Change) : Prop := ∃ text, c.value.toText = .ok text ∧ PortNumeral text

end Change

/-- The port of the last change, or the one that was there before. -/
def lastPort (port : String) (changes : List Change) : String :=
  (changes.getLast?.map fun c => c.value.inFull).getD port

/-- The endpoint that accepted changes lead to. -/
def changed (e : Endpoint) (changes : List Change) : Endpoint :=
  ⟨e.domain, lastPort e.port changes, if changes.any (·.isInsecure) then .bool false else e.tls⟩

/-- The endpoint without changes. -/
def plain (domain : Value) : Endpoint := ⟨domain, defaultTlsPort, .bool true⟩

section Changing

variable {e e' : Endpoint} {c : Change} {changes : List Change} {domain : Value} {f : Failure}

lemma lastPort_cons (port : String) (c : Change) (rest : List Change) :
    lastPort port (c :: rest) = lastPort c.value.inFull rest := by
  unfold lastPort
  rw [List.getLast?_cons]
  cases rest.getLast? <;> rfl

lemma changed_cons (e : Endpoint) (c : Change) (rest : List Change) :
    (e.changed [c]).changed rest = e.changed (c :: rest) := by
  have hport : lastPort e.port [c] = c.value.inFull := rfl
  unfold changed
  dsimp only
  rw [hport, lastPort_cons, List.any_cons, List.any_cons, List.any_nil, Bool.or_false]
  cases c.isInsecure <;> simp

lemma apply_eq (e : Endpoint) (c : Change) :
    e.apply c = make e.domain c.value (e.changed [c]).tls := by
  cases c <;> rfl

/-- A change is accepted for its port alone, as the domain was looked at before. -/
lemma apply_eq_ok_iff (hdomain : checkDomain e.domain = .ok ()) :
    e.apply c = .ok e' ↔ c.Accepted ∧ e' = e.changed [c] := by
  rw [apply_eq, make_eq_ok_iff, and_iff_right hdomain]
  constructor
  · rintro ⟨text, hwritten, hnumeral, rfl⟩
    refine ⟨⟨text, hwritten, hnumeral⟩, ?_⟩
    rw [(Value.toText_eq_ok_iff.mp hwritten).2]
    rfl
  · rintro ⟨⟨text, hwritten, hnumeral⟩, rfl⟩
    refine ⟨text, hwritten, hnumeral, ?_⟩
    rw [(Value.toText_eq_ok_iff.mp hwritten).2]
    rfl

lemma apply_eq_error_iff (hdomain : checkDomain e.domain = .ok ()) :
    e.apply c = .error f ↔ checkedPort c.value = .error f := by
  rw [apply_eq, make_of_ok hdomain]
  cases checkedPort c.value <;> simp [Except.map]

/-- Changes are accepted if each of them is. -/
lemma foldlM_apply_eq_ok_iff (hdomain : checkDomain e.domain = .ok ()) :
    changes.foldlM apply e = .ok e' ↔ (∀ c ∈ changes, c.Accepted) ∧ e' = e.changed changes := by
  induction changes generalizing e with
  | nil =>
    have hsame : e.changed [] = e := rfl
    rw [hsame, List.foldlM_nil]
    simp [pure, Except.pure, eq_comm]
  | cons c rest ih =>
    rw [List.forall_mem_cons, ← changed_cons]
    cases hstep : e.apply c with
    | error f =>
      rw [foldlM_cons_of_error hstep]
      refine iff_of_false (fun h => nomatch h) ?_
      rintro ⟨⟨haccepted, -⟩, -⟩
      have hok := (apply_eq_ok_iff hdomain).mpr ⟨haccepted, rfl⟩
      rw [hok] at hstep
      cases hstep
    | ok next =>
      obtain ⟨haccepted, rfl⟩ := (apply_eq_ok_iff hdomain).mp hstep
      have hkept : checkDomain (e.changed [c]).domain = .ok () := hdomain
      rw [foldlM_cons_of_ok hstep, ih hkept, and_iff_right haccepted]

lemma portNumeral_default : PortNumeral defaultTlsPort where
  nonempty := by decide
  decimal := List.all_eq_true.mp (by decide)
  length_le := by decide
  pos := by decide
  le := by decide

/-- The port of an endpoint is the port of an accepted change, or the one it started with. -/
lemma portNumeral_lastPort (haccepted : ∀ c ∈ changes, c.Accepted) :
    PortNumeral (lastPort defaultTlsPort changes) := by
  unfold lastPort
  cases hlast : changes.getLast? with
  | none => exact portNumeral_default
  | some c =>
    obtain ⟨text, hwritten, hnumeral⟩ := haccepted c (List.mem_of_getLast? hlast)
    rwa [(Value.toText_eq_ok_iff.mp hwritten).2] at hnumeral

lemma make_plain_eq_ok_iff : make domain (.text defaultTlsPort) (.bool true) = .ok e ↔
    checkDomain domain = .ok () ∧ e = plain domain := by
  rw [make_eq_ok_iff]
  simp [portNumeral_default, plain]

lemma make_plain_eq_error_iff : make domain (.text defaultTlsPort) (.bool true) = .error f ↔
    checkDomain domain = .error f := by
  rw [make_eq_error_iff]
  simp [checkPort_eq_ok_iff.mpr portNumeral_default]

lemma new_of_ok (hdomain : checkDomain domain = .ok ()) (changes : List Change) :
    new domain changes = changes.foldlM apply (plain domain) := by
  unfold new
  rw [make_plain_eq_ok_iff.mpr ⟨hdomain, rfl⟩]
  rfl

lemma new_of_error (hdomain : checkDomain domain = .error f) (changes : List Change) :
    new domain changes = .error f := by
  unfold new
  rw [make_plain_eq_error_iff.mpr hdomain]
  rfl

/-- An endpoint with changes is what the accepted changes lead to. -/
lemma new_eq_ok_iff : new domain changes = .ok e ↔
    checkDomain domain = .ok () ∧ (∀ c ∈ changes, c.Accepted) ∧
      e = (plain domain).changed changes := by
  cases hdomain : checkDomain domain with
  | error f =>
    rw [new_of_error hdomain]
    simp
  | ok u =>
    rw [new_of_ok hdomain, foldlM_apply_eq_ok_iff hdomain]
    simp

/-- The failure is that of the start, or of the first change that is refused. -/
lemma new_eq_error_iff : new domain changes = .error f ↔
    make domain (.text defaultTlsPort) (.bool true) = .error f ∨
      ∃ before c behind e, changes = before ++ c :: behind ∧ new domain before = .ok e ∧
        e.apply c = .error f := by
  rw [make_plain_eq_error_iff]
  cases hdomain : checkDomain domain with
  | error f' => simp [new_of_error hdomain]
  | ok u =>
    simp only [new_of_ok hdomain, foldlM_eq_error_iff]
    simp

/-- If the domain is accepted, the failure is that of the first port that is not. -/
lemma new_eq_error_iff_of_ok (hdomain : checkDomain domain = .ok ()) :
    new domain changes = .error f ↔ ∃ before c behind, changes = before ++ c :: behind ∧
      (∀ b ∈ before, b.Accepted) ∧ checkedPort c.value = .error f := by
  have hkept : ∀ before : List Change,
      checkDomain ((plain domain).changed before).domain = .ok () := fun _ => hdomain
  rw [new_of_ok hdomain, foldlM_eq_error_iff]
  constructor
  · rintro ⟨before, c, behind, e, hsplit, hbefore, hc⟩
    obtain ⟨haccepted, rfl⟩ := (foldlM_apply_eq_ok_iff hdomain).mp hbefore
    exact ⟨before, c, behind, hsplit, haccepted, (apply_eq_error_iff (hkept _)).mp hc⟩
  · rintro ⟨before, c, behind, hsplit, haccepted, hc⟩
    have hbefore : before.foldlM apply (plain domain) = .ok ((plain domain).changed before) :=
      (foldlM_apply_eq_ok_iff hdomain).mpr ⟨haccepted, rfl⟩
    exact ⟨before, c, behind, _, hsplit, hbefore, (apply_eq_error_iff (hkept _)).mpr hc⟩

/-- With one change the endpoint is made at once, except that the domain is looked at before the
port is written. -/
lemma new_singleton (c : Change) (h : c.value.isOverlong = false ∨ checkDomain domain = .ok ()) :
    new domain [c] = make domain c.value (.bool !c.isInsecure) := by
  cases hdomain : checkDomain domain with
  | error f =>
    have hshort : c.value.isOverlong = false := by
      rw [hdomain] at h
      simpa using h
    rw [new_of_error hdomain, make_of_error hdomain, hshort]
    rfl
  | ok u =>
    rw [new_of_ok hdomain]
    have hone : [c].foldlM apply (plain domain) = (plain domain).apply c := by
      rw [List.foldlM_cons]
      cases (plain domain).apply c <;> rfl
    rw [hone, apply_eq]
    cases c <;> rfl

/-- The change that the port of a config is. -/
def configChange (config : Config) : Change :=
  if config.insecure.truthy then .insecure config.port else .port config.port

lemma ofConfig_eq_new {config : Config} (h : config.domain.truthy = true) :
    ofConfig config = new config.domain [configChange config] := by
  unfold ofConfig configChange
  rw [h]
  cases config.insecure.truthy <;> rfl

@[simp] lemma value_configChange (config : Config) : (configChange config).value = config.port := by
  unfold configChange
  cases config.insecure.truthy <;> rfl

@[simp] lemma isInsecure_configChange (config : Config) :
    (configChange config).isInsecure = config.insecure.truthy := by
  unfold configChange
  cases config.insecure.truthy <;> rfl

/-- An endpoint of a config is made of its domain, its port, and whether it is insecure. -/
lemma ofConfig_eq {config : Config} (h : config.domain.truthy = true)
    (hport : config.port.isOverlong = false ∨ checkDomain config.domain = .ok ()) :
    ofConfig config = make config.domain config.port (.bool !config.insecure.truthy) := by
  rw [ofConfig_eq_new h, new_singleton _ (by rwa [value_configChange])]
  simp

end Changing

section Reporting

variable {d : String} {port tls : Value} {changes : List Change} {config : Config} {f : Failure}

lemma kind_of_make (h : make (.text d) port tls = .error f) : f.kind = .invalidEndpoint ↔
    ¬ (port.isOverlong = true ∨ BareHostname d ∧ Illegible port.inFull) := by
  cases hdomain : checkDomain (.text d) with
  | error g =>
    obtain ⟨hkind, hd⟩ := kind_of_checkDomain_text hdomain
    rw [make_of_error hdomain] at h
    cases hlong : port.isOverlong with
    | true =>
      rw [hlong] at h
      cases h
      exact iff_of_false (fun h => nomatch h) (not_not_intro (.inl rfl))
    | false =>
      rw [hlong] at h
      cases h
      refine iff_of_true hkind ?_
      rintro (hlong | ⟨hbare, -⟩)
      · cases hlong
      · exact hd hbare
  | ok u =>
    have hport : checkedPort port = .error f := by
      rw [make_of_ok hdomain] at h
      cases hport : checkedPort port with
      | ok text =>
        rw [hport] at h
        cases h
      | error g =>
        rw [hport] at h
        cases h
        rfl
    rw [kind_of_checkedPort hport, and_iff_right (checkDomain_text_eq_ok_iff.mp hdomain),
      Unreadable]

/-- The first change that is refused decides how a refusal is reported. -/
lemma kind_of_new (h : new (.text d) changes = .error f) :
    f.kind = .invalidEndpoint ↔ ¬ (BareHostname d ∧ ∃ before c behind,
      changes = before ++ c :: behind ∧ (∀ b ∈ before, b.Accepted) ∧ Unreadable c.value) := by
  cases hdomain : checkDomain (.text d) with
  | error f' =>
    rw [new_of_error hdomain] at h
    obtain rfl : f' = f := Except.error.inj h
    obtain ⟨hkind, hd⟩ := kind_of_checkDomain_text hdomain
    exact iff_of_true hkind fun h => hd h.1
  | ok u =>
    rw [and_iff_right (checkDomain_text_eq_ok_iff.mp hdomain)]
    constructor
    · rintro hkind ⟨before, c, behind, hsplit, haccepted, hunreadable⟩
      cases hport : checkedPort c.value with
      | ok text => exact not_unreadable_of_ok hport hunreadable
      | error g =>
        have hnew := (new_eq_error_iff_of_ok hdomain).mpr
          ⟨before, c, behind, hsplit, haccepted, hport⟩
        rw [h] at hnew
        obtain rfl := Except.error.inj hnew
        exact (kind_of_checkedPort hport).mp hkind hunreadable
    · intro hreadable
      obtain ⟨before, c, behind, hsplit, haccepted, hport⟩ := (new_eq_error_iff_of_ok hdomain).mp h
      refine (kind_of_checkedPort hport).mpr fun hunreadable => ?_
      exact hreadable ⟨before, c, behind, hsplit, haccepted, hunreadable⟩

lemma kind_of_ofConfig (hdomain : config.domain = .text d) (h : ofConfig config = .error f) :
    f.kind = .invalidEndpoint ↔ ¬ (BareHostname d ∧ Unreadable config.port) := by
  by_cases hempty : d = ""
  · have hunset : ofConfig config = .error .domainNotSet := by
      unfold ofConfig
      rw [hdomain, hempty]
      rfl
    rw [hunset] at h
    cases h
    exact iff_of_true rfl fun hd => hd.1.nonempty hempty
  · have htruthy : config.domain.truthy = true := by
      rw [hdomain]
      simpa [Value.truthy] using hempty
    rw [ofConfig_eq_new htruthy, hdomain] at h
    rw [kind_of_new h]
    -- the port of the config is the only change
    have honly : (∃ before c behind, [configChange config] = before ++ c :: behind ∧
        (∀ b ∈ before, b.Accepted) ∧ Unreadable c.value) ↔ Unreadable config.port := by
      rw [← value_configChange config]
      constructor
      · rintro ⟨before, c, behind, hsplit, -, hunreadable⟩
        obtain ⟨-, hlast⟩ | ⟨-, hlast⟩ := List.append_eq_singleton_iff.mp hsplit.symm
        · rwa [← (List.cons.inj hlast).1]
        · cases hlast
      · intro hunreadable
        exact ⟨[], configChange config, [], rfl, by simp, hunreadable⟩
    rw [honly]

/-- A malformed endpoint is reported as such, whichever way it is made, unless its domain is a bare
host name and no number is read from the first port that is refused although it may be one. A port
that cannot be written keeps an endpoint from being reported also if its domain is malformed, unless
it is that of a change. -/
theorem malformed_reported_iff (d : String) :
    (∀ port tls f, make (.text d) port tls = .error f →
      (f.kind = .invalidEndpoint ↔
        ¬ (port.isOverlong = true ∨ BareHostname d ∧ Illegible port.inFull))) ∧
    (∀ changes f, new (.text d) changes = .error f →
      (f.kind = .invalidEndpoint ↔ ¬ (BareHostname d ∧ ∃ before c behind,
        changes = before ++ c :: behind ∧ (∀ b ∈ before, b.Accepted) ∧ Unreadable c.value))) ∧
    ∀ (config : Config) (f : Failure), config.domain = .text d → ofConfig config = .error f →
      (f.kind = .invalidEndpoint ↔ ¬ (BareHostname d ∧ Unreadable config.port)) := by
  refine ⟨fun port tls f h => kind_of_make h, fun changes f h => kind_of_new h, ?_⟩
  intro config f hdomain h
  exact kind_of_ofConfig hdomain h

/-- A zero is reported as malformed, so it is not unreadable. A superscript is not reported. -/
theorem zero_port_is_reported :
    let changes : List Change := [.insecure (.int 8080), .port (.text "٠")]
    let zero : Config := { domain := .text "h", port := .int 0 }
    new (.text "h") changes = .error (.invalidPort "٠") ∧
      ¬ (BareHostname "h" ∧ ∃ before c behind, changes = before ++ c :: behind ∧
        (∀ b ∈ before, b.Accepted) ∧ Unreadable c.value) ∧
      make (.text "h") (.text "²") .none = .error (.notANumeral "²") ∧
      (BareHostname "h" ∧ Illegible "²") ∧
      ofConfig zero = .error (.invalidPort "0") ∧ ¬ Unreadable zero.port := by
  intro changes zero
  have hnew : new (.text "h") changes = .error (.invalidPort "٠") := by decide +kernel
  have hmake : make (.text "h") (.text "²") .none = .error (.notANumeral "²") := by decide +kernel
  have hconfig : ofConfig zero = .error (.invalidPort "0") := by decide +kernel
  obtain ⟨makes, changing, configured⟩ := malformed_reported_iff "h"
  have hsuperscript := not_not.mp (mt (makes _ _ _ hmake).mpr (fun h => nomatch h))
  have hbare := hsuperscript.resolve_left (fun h => nomatch h)
  have hreadable := (configured zero _ rfl hconfig).mp rfl
  exact ⟨hnew, (changing changes _ hnew).mp rfl, hmake, hbare, hconfig,
    fun h => hreadable ⟨hbare.1, h⟩⟩

/-- A superscript is a digit without a place value, and the refusal is not one of endpoints. -/
theorem superscript_port_is_not_reported :
    make (.text "h") (.text "²") (.bool true) = .error (.notANumeral "²") ∧
      Failure.kind (.notANumeral "²") = .value ∧ BareHostname "h" ∧ Illegible "²" ∧
      ¬ PortNumeral "²" := by
  have hillegible : Illegible "²" := by
    exact ⟨by decide, List.all_eq_true.mp (by decide), .inl ⟨'²', by decide, by decide⟩⟩
  have hbare : BareHostname "h" := ⟨by decide, by decide⟩
  exact ⟨by decide +kernel, rfl, hbare, hillegible, fun h => h.not_illegible hillegible⟩

end Reporting

/-- An endpoint is accepted if its domain is and the port of every change is, also of those that a
later change overwrites. It has the text of the last port, it has TLS unless a change is insecure,
and it could be made at once. A refusal is that of the first step that fails. A config with a domain
leads to the endpoint that its fields make, or to the same failure, if its port can be written or
its domain is accepted. Otherwise the fields fail for the port, but the config for the domain. -/
theorem new_accepts_iff (d : String) (changes : List Change) :
    ((∃ e, new (.text d) changes = .ok e) ↔ BareHostname d ∧ ∀ c ∈ changes, c.Accepted) ∧
    (∀ e, new (.text d) changes = .ok e →
      e.domain = .text d ∧ e.port = lastPort defaultTlsPort changes ∧
        (∀ c, changes.getLast? = some c → c.value.toText = .ok e.port) ∧
        e.tls = .bool !changes.any (·.isInsecure) ∧
        make (.text d) (.text e.port) e.tls = .ok e) ∧
    (∀ f, new (.text d) changes = .error f ↔
      make (.text d) (.text defaultTlsPort) (.bool true) = .error f ∨
        ∃ before c behind e, changes = before ++ c :: behind ∧
          new (.text d) before = .ok e ∧ e.apply c = .error f) ∧
    (∀ config : Config, config.domain.truthy = true →
      config.port.isOverlong = false ∨ checkDomain config.domain = .ok () →
        ofConfig config = make config.domain config.port (.bool !config.insecure.truthy)) ∧
    ∀ (config : Config) (f : Failure), config.domain.truthy = true →
      config.port.isOverlong = true → checkDomain config.domain = .error f →
        ofConfig config = .error f ∧
          make config.domain config.port (.bool !config.insecure.truthy) =
            .error .overlongNumeral := by
  refine ⟨?_, ?_, fun f => new_eq_error_iff, fun config h hport => ofConfig_eq h hport, ?_⟩
  · constructor
    · rintro ⟨e, he⟩
      obtain ⟨hdomain, haccepted, -⟩ := new_eq_ok_iff.mp he
      exact ⟨checkDomain_text_eq_ok_iff.mp hdomain, haccepted⟩
    · rintro ⟨hdomain, haccepted⟩
      exact ⟨_, new_eq_ok_iff.mpr ⟨checkDomain_text_eq_ok_iff.mpr hdomain, haccepted, rfl⟩⟩
  · intro e he
    obtain ⟨hdomain, haccepted, rfl⟩ := new_eq_ok_iff.mp he
    refine ⟨rfl, rfl, ?_, ?_, ?_⟩
    · intro c hlast
      obtain ⟨text, hwritten, -⟩ := haccepted c (List.mem_of_getLast? hlast)
      rw [hwritten, (Value.toText_eq_ok_iff.mp hwritten).2]
      change _ = Except.ok (lastPort defaultTlsPort changes)
      rw [lastPort, hlast]
      rfl
    · change (if changes.any (·.isInsecure) then Value.bool false else Value.bool true) = _
      cases changes.any (·.isInsecure) <;> rfl
    · exact make_eq_ok_iff.mpr ⟨hdomain, _, rfl, portNumeral_lastPort haccepted, rfl⟩
  · intro config f h hlong hdomain
    constructor
    · rw [ofConfig_eq_new h, new_of_error hdomain]
    · rw [make_of_error hdomain, hlong]
      rfl

/-- A plaintext endpoint on 443 in Arabic digits, which overwrites another port. -/
theorem changed_endpoint_is_accepted :
    let changes : List Change := [.insecure (.int 8080), .port (.text "٠٤٤٣")]
    let e : Endpoint := ⟨.text "h", "٠٤٤٣", .bool false⟩
    let config : Config := { domain := .text "h", port := .text "²", insecure := .int 1 }
    let long : Config := { domain := .text "a/b", port := .int Text.numeralBound }
    new (.text "h") changes = .ok e ∧ BareHostname "h" ∧ (∀ c ∈ changes, c.Accepted) ∧
      (Value.text "٠٤٤٣").toText = .ok e.port ∧
      make (.text "h") (.text "٠٤٤٣") (.bool false) = .ok e ∧ config.domain.truthy = true ∧
      config.port.isOverlong = false ∧
      ofConfig config = make (.text "h") (.text "²") (.bool false) ∧
      long.domain.truthy = true ∧ long.port.isOverlong = true ∧
      checkDomain (.text "a/b") = .error (.notBareHostname "'a/b'") ∧
      ofConfig long = .error (.notBareHostname "'a/b'") := by
  intro changes e config long
  have hnew : new (.text "h") changes = .ok e := by decide +kernel
  have hdomain : config.domain.truthy = true := by decide
  have hport : config.port.isOverlong = false := by decide
  have hdomain' : long.domain.truthy = true := by decide
  have hport' : long.port.isOverlong = true := by decide +kernel
  have hcheck : checkDomain long.domain = .error (.notBareHostname "'a/b'") := by decide +kernel
  obtain ⟨hiff, hok, -, hconfig, hlong⟩ := new_accepts_iff "h" changes
  obtain ⟨hbare, haccepted⟩ := hiff.mp ⟨e, hnew⟩
  obtain ⟨-, -, htext, -, hmake⟩ := hok e hnew
  obtain ⟨hrefused, -⟩ := hlong long _ hdomain' hport' hcheck
  exact ⟨hnew, hbare, haccepted, htext _ rfl, hmake, hdomain, hport,
    hconfig config hdomain (.inl hport), hdomain', hport', hcheck, hrefused⟩

/-- A port of too many digits is not written, so the domain is not looked at. A config has its
domain looked at first, and fails for that. -/
theorem config_with_long_port_fails_otherwise :
    let config : Config := { domain := .text "a/b", port := .int Text.numeralBound }
    config.domain.truthy = true ∧ ofConfig config = .error (.notBareHostname "'a/b'") ∧
      make config.domain config.port (.bool !config.insecure.truthy) = .error .overlongNumeral ∧
      Failure.kind (.notBareHostname "'a/b'") = .invalidEndpoint ∧
      Failure.kind .overlongNumeral = .value ∧
      ofConfig config ≠ make config.domain config.port (.bool !config.insecure.truthy) := by
  intro config
  have hconfig : ofConfig config = .error (.notBareHostname "'a/b'") := by decide +kernel
  have hmake : make config.domain config.port (.bool !config.insecure.truthy) =
      .error .overlongNumeral := by
    decide +kernel
  refine ⟨by decide, hconfig, hmake, rfl, rfl, ?_⟩
  rw [hconfig, hmake]
  exact fun h => nomatch h

end Endpoint

end SharedChannel
