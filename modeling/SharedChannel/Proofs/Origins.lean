import SharedChannel.Proofs.EndpointChanges
import SharedChannel.Proofs.PlainNumerals

/-!
# What an origin tells

An origin is a scheme and an authority: the domain alone, or the host if the port is not written
like the default. So it tells whether there is TLS, and it tells the host unless a domain has a
colon in it (`same_origin_iff`). The port is left out if its number is the default and its numeral
is plain (`origin_omits_default_iff`).
-/

namespace SharedChannel

/-- What comes before the last separator, and what comes behind it. -/
lemma append_cons_inj_of_last {α : Type} {x : α} {as bs ps qs : List α} (hps : x ∉ ps)
    (hqs : x ∉ qs) (h : as ++ x :: ps = bs ++ x :: qs) : as = bs ∧ ps = qs := by
  obtain ⟨cs, rfl, htail⟩ | ⟨cs, rfl, htail⟩ := List.append_eq_append_iff.mp h
  · cases cs with
    | nil => exact ⟨(List.append_nil as).symm, List.tail_eq_of_cons_eq htail⟩
    | cons c cs =>
      obtain ⟨rfl, rfl⟩ := List.cons.inj htail
      exact absurd (List.mem_append_right cs List.mem_cons_self) hps
  · cases cs with
    | nil => exact ⟨List.append_nil bs, (List.tail_eq_of_cons_eq htail).symm⟩
    | cons c cs =>
      obtain ⟨rfl, rfl⟩ := List.cons.inj htail
      exact absurd (List.mem_append_right cs List.mem_cons_self) hqs

namespace Endpoint

/-- An endpoint as it is made, in one of the ways to make one. -/
inductive Constructed (e : Endpoint) : Prop where
  | make (domain port tls : Value) (h : make domain port tls = .ok e)
  | new (domain : Value) (changes : List Change) (h : new domain changes = .ok e)
  | ofConfig (config : Config) (h : ofConfig config = .ok e)

/-- Scheme and domain. -/
def base (e : Endpoint) : String := e.scheme ++ "://" ++ e.domain.inFull

/-- The origin behind the scheme. -/
def authority (e : Endpoint) : String :=
  if e.port = e.defaultPort then e.domain.inFull else e.host

/-- The number of the default port. -/
def defaultNumber (e : Endpoint) : Nat := if e.isTls then 443 else 80

section Checked

variable {e : Endpoint} {domain port tls : Value} {config : Config}

lemma domain_truthy_of_ofConfig (h : Endpoint.ofConfig config = .ok e) :
    config.domain.truthy = true := by
  by_contra hempty
  rw [Bool.not_eq_true] at hempty
  unfold Endpoint.ofConfig at h
  rw [hempty] at h
  cases h

/-- However an endpoint is made, its domain and its port were checked. -/
lemma Constructed.checked (h : Constructed e) :
    checkDomain e.domain = .ok () ∧ PortNumeral e.port := by
  cases h with
  | make domain port tls h =>
    obtain ⟨hdomain, text, -, hport, rfl⟩ := make_eq_ok_iff.mp h
    exact ⟨hdomain, hport⟩
  | new domain changes h =>
    obtain ⟨hdomain, haccepted, rfl⟩ := new_eq_ok_iff.mp h
    exact ⟨hdomain, portNumeral_lastPort haccepted⟩
  | ofConfig config h =>
    rw [ofConfig_eq_new (domain_truthy_of_ofConfig h)] at h
    obtain ⟨hdomain, haccepted, rfl⟩ := new_eq_ok_iff.mp h
    exact ⟨hdomain, portNumeral_lastPort haccepted⟩

lemma PortNumeral.colon_notMem {s : String} (h : PortNumeral s) : ':' ∉ s.toList := by
  intro hcolon
  have hdecimal := h.decimal ':' hcolon
  revert hdecimal
  decide

lemma PortNumeral.portNumber_eq {s : String} (h : PortNumeral s) :
    portNumber s = .ok (Text.numeralValue s.toList) := by
  obtain ⟨hnumber, -⟩ | ⟨f, -, -, ⟨c, hc, hother⟩ | hlong⟩ := portNumber_cases s
  · exact hnumber
  · rw [h.decimal c hc] at hother
    cases hother
  · exact absurd h.length_le (Nat.not_le.mpr hlong)

end Checked

section Parts

variable (e : Endpoint) {a b : Endpoint}

lemma origin_eq_authority : e.origin = e.scheme ++ "://" ++ e.authority := by
  unfold origin authority host
  split
  · rfl
  · simp only [String.append_assoc]

lemma origin_eq : e.origin = if e.port = e.defaultPort then e.base else e.base ++ ":" ++ e.port :=
  rfl

lemma origin_eq_base_iff : e.origin = e.base ↔ e.port = e.defaultPort := by
  rw [origin_eq]
  split
  · next hport => exact iff_of_true rfl hport
  · next hport =>
    refine iff_of_false (fun h => ?_) hport
    have hlength := congrArg String.length h
    rw [String.append_assoc, String.length_append, String.length_append] at hlength
    have hcolon : ":".length = 1 := rfl
    omega

lemma base_eq_of_domain (hdomain : a.domain = b.domain) (htls : a.isTls = b.isTls) :
    a.base = b.base := by
  unfold base scheme
  rw [hdomain, htls]

lemma defaultPort_eq_of_tls (htls : a.isTls = b.isTls) : a.defaultPort = b.defaultPort := by
  unfold defaultPort
  rw [htls]

/-- The schemes differ before either of them ends. -/
lemma origin_inj : a.origin = b.origin ↔ a.isTls = b.isTls ∧ a.authority = b.authority := by
  rw [origin_eq_authority, origin_eq_authority, ← String.toList_inj, ← String.toList_inj]
  simp only [String.toList_append]
  unfold scheme
  cases a.isTls <;> cases b.isTls <;> simp

end Parts

section Hosts

variable {a b : Endpoint} {d d' : String}

lemma toList_host (e : Endpoint) :
    e.host.toList = e.domain.inFull.toList ++ ':' :: e.port.toList := by
  unfold host
  rw [String.toList_append, String.toList_append, List.append_assoc]
  rfl

lemma colon_mem_host (e : Endpoint) : ':' ∈ e.host.toList := by
  rw [toList_host]
  exact List.mem_append_right _ List.mem_cons_self

/-- No port has a colon in it, so a host tells where its port begins. -/
lemma host_inj (ha : PortNumeral a.port) (hb : PortNumeral b.port) :
    a.host = b.host ↔ a.domain.inFull = b.domain.inFull ∧ a.port = b.port := by
  constructor
  · intro h
    have hlists := congrArg String.toList h
    rw [toList_host, toList_host] at hlists
    obtain ⟨hdomain, hport⟩ := append_cons_inj_of_last ha.colon_notMem hb.colon_notMem hlists
    exact ⟨String.toList_inj.mp hdomain, String.toList_inj.mp hport⟩
  · rintro ⟨hdomain, hport⟩
    unfold host
    rw [hdomain, hport]

/-- A domain passes for a host if there is a default port behind it and none before it. -/
def PassesFor (a b : Endpoint) : Prop :=
  a.port = a.defaultPort ∧ b.port ≠ b.defaultPort ∧ a.domain = .text b.host

lemma authority_inj (ha : PortNumeral a.port) (hb : PortNumeral b.port) (hd : a.domain = .text d)
    (hd' : b.domain = .text d') (hdefault : a.defaultPort = b.defaultPort) :
    a.authority = b.authority ↔ a.host = b.host ∨ PassesFor a b ∨ PassesFor b a := by
  rw [host_inj ha hb]
  unfold authority PassesFor
  rw [hd, hd', ← hdefault]
  by_cases hport : a.port = a.defaultPort <;> by_cases hport' : b.port = a.defaultPort
  · simp [Value.inFull, hport, hport']
  · simp [Value.inFull, hport, hport', Ne.symm hport']
  · simp [Value.inFull, hport, hport', eq_comm]
  · rw [if_neg hport, if_neg hport', host_inj ha hb, hd, hd']
    simp [hport, hport']

lemma not_passesFor (hd : a.domain = .text d) (hcolon : ':' ∉ d.toList) : ¬ PassesFor a b := by
  rintro ⟨-, -, hdomain⟩
  rw [hd] at hdomain
  obtain rfl := Value.text.inj hdomain
  exact hcolon (colon_mem_host b)

end Hosts

/-- Endpoints with one origin agree on TLS, and they have one host unless the domain of one of them
passes for the host of the other. Without colons in the domains the origin tells the endpoint. -/
theorem same_origin_iff {a b : Endpoint} {d d' : String} {t t' : Bool} (ha : Constructed a)
    (hb : Constructed b) (hd : a.domain = .text d) (hd' : b.domain = .text d')
    (ht : a.tls = .bool t) (ht' : b.tls = .bool t') :
    (a.origin = b.origin ↔
      a.tls = b.tls ∧ (a.host = b.host ∨ PassesFor a b ∨ PassesFor b a)) ∧
    (':' ∉ d.toList → ':' ∉ d'.toList →
      (a.origin = b.origin ↔ a.tls = b.tls ∧ a.host = b.host) ∧
      (a.origin = b.origin ↔ a = b)) := by
  have hport := ha.checked.2
  have hport' := hb.checked.2
  have htls : a.isTls = b.isTls ↔ a.tls = b.tls := by
    unfold isTls
    rw [ht, ht', Value.bool.injEq]
    rfl
  have horigin : a.origin = b.origin ↔
      a.tls = b.tls ∧ (a.host = b.host ∨ PassesFor a b ∨ PassesFor b a) := by
    rw [origin_inj, htls]
    refine and_congr_right fun hsame => ?_
    exact authority_inj hport hport' hd hd' (defaultPort_eq_of_tls (htls.mpr hsame))
  refine ⟨horigin, fun hcolon hcolon' => ?_⟩
  have hhost : a.origin = b.origin ↔ a.tls = b.tls ∧ a.host = b.host := by
    rw [horigin, or_iff_left]
    rintro (hpasses | hpasses)
    · exact not_passesFor hd hcolon hpasses
    · exact not_passesFor hd' hcolon' hpasses
  refine ⟨hhost, hhost.trans ⟨?_, ?_⟩⟩
  · rintro ⟨hsame, h⟩
    obtain ⟨hdomain, hports⟩ := (host_inj hport hport').mp h
    rw [hd, hd'] at hdomain
    have hdomains : a.domain = b.domain := by
      rw [hd, hd']
      exact congrArg Value.text hdomain
    obtain ⟨domain, port, tls⟩ := a
    obtain ⟨domain', port', tls'⟩ := b
    exact mk.injEq .. ▸ ⟨hdomains, hports, hsame⟩
  · rintro rfl
    exact ⟨rfl, rfl⟩

/-- A domain that looks like the host of another endpoint, and two ports of one domain. -/
theorem ports_of_domain_have_own_origins :
    let a : Endpoint := ⟨.text "h", "8443", .bool true⟩
    let b : Endpoint := ⟨.text "h:8443", "443", .bool true⟩
    let c : Endpoint := ⟨.text "h", "443", .bool true⟩
    Constructed a ∧ Constructed b ∧ Constructed c ∧ PassesFor b a ∧ a.origin = b.origin ∧
      a.origin ≠ c.origin := by
  intro a b c
  have ha : Constructed a := .make (.text "h") (.int 8443) (.bool true) (by decide +kernel)
  have hb : Constructed b := .new (.text "h:8443") [] (by decide +kernel)
  have hc : Constructed c := .ofConfig { domain := .text "h" } (by decide +kernel)
  have hpasses : PassesFor b a := ⟨rfl, by decide, by decide⟩
  have hab := (same_origin_iff ha hb rfl rfl rfl rfl).1.mpr ⟨rfl, .inr (.inr hpasses)⟩
  have hac := (same_origin_iff ha hc rfl rfl rfl rfl).2 (by decide) (by decide)
  refine ⟨ha, hb, hc, hpasses, hab, fun h => ?_⟩
  have hsame : a = c := hac.2.mp h
  exact absurd hsame (by decide)

/-- One origin of two hosts. -/
theorem colon_in_domain_shares_origin :
    let a : Endpoint := ⟨.text "h", "8443", .bool true⟩
    let b : Endpoint := ⟨.text "h:8443", "443", .bool true⟩
    make (.text "h") (.text "8443") (.bool true) = .ok a ∧
      make (.text "h:8443") (.text "443") (.bool true) = .ok b ∧
      a.origin = "https://h:8443" ∧ b.origin = "https://h:8443" ∧
      a.host = "h:8443" ∧ b.host = "h:8443:443" ∧ a.host ≠ b.host := by
  decide +kernel

section Defaults

variable {e a b : Endpoint}

lemma plainNumeral_defaultPort (e : Endpoint) : Text.PlainNumeral e.defaultPort.toList := by
  unfold defaultPort
  cases e.isTls
  · exact ⟨List.all_eq_true.mp (by decide), by decide⟩
  · exact ⟨List.all_eq_true.mp (by decide), by decide⟩

lemma numeralValue_defaultPort (e : Endpoint) :
    Text.numeralValue e.defaultPort.toList = e.defaultNumber := by
  unfold defaultPort defaultNumber
  cases e.isTls <;> decide

/-- Of all numerals of the default, only the plain one is left out. -/
lemma port_eq_default_iff : e.port = e.defaultPort ↔
    Text.numeralValue e.port.toList = e.defaultNumber ∧ Text.PlainNumeral e.port.toList := by
  constructor
  · intro h
    rw [h]
    exact ⟨numeralValue_defaultPort e, plainNumeral_defaultPort e⟩
  · rintro ⟨hvalue, hplain⟩
    rw [← numeralValue_defaultPort] at hvalue
    exact String.toList_inj.mp (hplain.eq_of_numeralValue_eq (plainNumeral_defaultPort e) hvalue)

/-- An integer that passes for a port is written plainly. -/
lemma plainNumeral_int {n : Int} (h : PortNumeral (Value.int n).inFull) :
    Text.PlainNumeral (Value.int n).inFull.toList := by
  cases n with
  | ofNat n =>
    have htext : (Value.int (Int.ofNat n)).inFull.toList = Nat.toDigits 10 n := by
      change (toString n).toList = _
      rw [Nat.toString_eq_ofList_toDigits, String.toList_ofList]
    have hpos : 0 < n := by
      refine Nat.pos_of_ne_zero ?_
      rintro rfl
      exact absurd h.pos (by decide)
    rw [htext]
    exact Text.plainNumeral_toDigits hpos
  | negSucc n =>
    have htext : (Value.int (Int.negSucc n)).inFull.toList = '-' :: (toString (n + 1)).toList := by
      change ("-" ++ toString (n + 1)).toList = _
      rw [String.toList_append]
      rfl
    have hminus := h.decimal '-' (by rw [htext]; exact List.mem_cons_self)
    exact absurd hminus (by decide)

lemma origin_eq_iff_port (hdomain : a.domain = b.domain) (htls : a.isTls = b.isTls) :
    a.origin = b.origin ↔ a.port = b.port := by
  have hbase := base_eq_of_domain hdomain htls
  have hdefault := defaultPort_eq_of_tls htls
  constructor
  · intro h
    by_cases ha : a.port = a.defaultPort
    · have hb : b.origin = b.base := by
        rw [← h, (origin_eq_base_iff a).mpr ha, hbase]
      rw [ha, hdefault, (origin_eq_base_iff b).mp hb]
    · by_cases hb : b.port = b.defaultPort
      · have ha' : a.origin = a.base := by
          rw [h, (origin_eq_base_iff b).mpr hb, hbase]
        exact absurd ((origin_eq_base_iff a).mp ha') ha
      · rw [origin_eq, origin_eq, if_neg ha, if_neg hb, hbase] at h
        exact String.append_right_inj _ |>.mp h
  · intro h
    rw [origin_eq, origin_eq, h, hdefault, hbase]

end Defaults

/-- The port is left out if it is the default by its number and written plainly, as every integer
is; otherwise it stands behind a colon, as it is written. So two ports of one number have one origin
if they are written alike, and a plain one shares it with no other. -/
theorem origin_omits_default_iff {a : Endpoint} (ha : Constructed a) :
    (∃ n, portNumber a.port = .ok n ∧
      (a.origin = a.base ↔ n = a.defaultNumber ∧ Text.PlainNumeral a.port.toList) ∧
      (a.origin ≠ a.base → a.origin = a.base ++ ":" ++ a.port)) ∧
    (∀ b, Constructed b → a.domain = b.domain → a.isTls = b.isTls →
      portNumber a.port = portNumber b.port →
      (a.origin = b.origin ↔ a.port = b.port) ∧
      (Text.PlainNumeral a.port.toList →
        (a.origin = b.origin ↔ Text.PlainNumeral b.port.toList))) ∧
    ∀ n : Int, (Value.int n).toText = .ok a.port → Text.PlainNumeral a.port.toList := by
  have hport := ha.checked.2
  refine ⟨⟨_, hport.portNumber_eq, ?_, fun h => ?_⟩, ?_, ?_⟩
  · rw [origin_eq_base_iff, port_eq_default_iff]
  · rw [origin_eq, if_neg (mt (origin_eq_base_iff a).mpr h)]
  · intro b hb hdomain htls hnumber
    have hsame := origin_eq_iff_port hdomain htls
    rw [hport.portNumber_eq, hb.checked.2.portNumber_eq] at hnumber
    refine ⟨hsame, fun hplain => hsame.trans ⟨fun h => h ▸ hplain, fun hplain' => ?_⟩⟩
    exact String.toList_inj.mp (hplain.eq_of_numeralValue_eq hplain' (Except.ok.inj hnumber))
  · intro n hwritten
    have hint := (Value.toText_eq_ok_iff.mp hwritten).2
    rw [hint]
    exact plainNumeral_int (hint ▸ hport)

/-- Port 80 of a plaintext endpoint, as an integer and in Arabic digits. -/
theorem integer_port_is_left_out :
    let a : Endpoint := ⟨.text "h", "80", .bool false⟩
    let b : Endpoint := ⟨.text "h", "٨٠", .bool false⟩
    Constructed a ∧ Constructed b ∧ a.origin = a.base ∧ a.origin ≠ b.origin ∧
      b.origin = b.base ++ ":٨٠" := by
  intro a b
  have ha : Constructed a := .new (.text "h") [.insecure (.int 80)] (by decide +kernel)
  have hb : Constructed b := .make (.text "h") (.text "٨٠") (.bool false) (by decide +kernel)
  have hnumber : portNumber a.port = portNumber b.port := by decide +kernel
  obtain ⟨⟨n, hn, hleft, -⟩, agree, plainly⟩ := origin_omits_default_iff ha
  obtain ⟨⟨n', -, hleft', hkept⟩, -, -⟩ := origin_omits_default_iff hb
  have hplain : Text.PlainNumeral a.port.toList := plainly 80 (by decide +kernel)
  have hother : ¬ Text.PlainNumeral b.port.toList := by
    intro h
    exact absurd (h.ascii '٨' (by decide)) (by decide)
  have hdefault : n = a.defaultNumber := Except.ok.inj (hn.symm.trans (by decide +kernel))
  refine ⟨ha, hb, hleft.mpr ⟨hdefault, hplain⟩, ?_, ?_⟩
  · exact fun h => hother (((agree b hb rfl rfl hnumber).2 hplain).mp h)
  · exact hkept fun h => hother (hleft'.mp h).2

/-- A zero in front keeps the default port in the origin. -/
theorem zero_in_front_is_kept :
    let a : Endpoint := ⟨.text "h", "0443", .bool true⟩
    let b : Endpoint := ⟨.text "h", "443", .bool true⟩
    make (.text "h") (.text "0443") (.bool true) = .ok a ∧
      make (.text "h") (.text "443") (.bool true) = .ok b ∧
      portNumber a.port = .ok a.defaultNumber ∧ portNumber b.port = portNumber a.port ∧
      a.origin = "https://h:0443" ∧ b.origin = "https://h" ∧ a.origin ≠ a.base := by
  decide +kernel

end Endpoint

end SharedChannel
