import SharedChannel.Proofs.CallAgreement
import SharedChannel.Proofs.Dialing

/-!
# The way of a call through interceptors

A call goes through the interceptors in order. Those that do not serve its kind are passed by, and
each other one takes a part in it: it adds entries behind those there are, or it fails, which ends
the call. `parts` lists these parts, and `Channel.perform_through_parts` says that the call does
nothing else before it reaches the channel itself. On a dialed plaintext channel the provider in
effect comes before all interceptors of the caller.
-/

namespace SharedChannel

/-- The world with further effects behind those it has seen. -/
def World.did (w : World) (es : List Effect) : World := { w with trace := w.trace ++ es }

lemma World.did_nil (w : World) : w.did [] = w := by
  rw [did, List.append_nil]

lemma World.did_did (w : World) (es more : List Effect) :
    (w.did es).did more = w.did (es ++ more) := by
  unfold did
  rw [List.append_assoc]

lemma CallDetails.extend_nil (d : CallDetails) : d.extend [] = d := rfl

lemma CallDetails.extend_extend (d : CallDetails) (l m : Metadata) :
    (d.extend l).extend m = d.extend (l ++ m) := by
  by_cases hl : l = []
  · rw [hl, extend_nil, List.nil_append]
  · by_cases hm : m = []
    · rw [hm, extend_nil, List.append_nil]
    · simp [extend, hl, hm]

/-- The details are those that the caller gave, with further metadata behind the caller's own. -/
structure CallDetails.Presents (d : CallDetails) (call : Call) (more : Metadata) : Prop where
  method : d.method = call.method
  timeout : d.timeout = call.timeout
  extras : d.extras = some call.extras
  metadata : d.metadata =
    if more = [] then call.metadata.map (·.map Entry.ofHeader)
    else some ((call.metadata.getD []).map Entry.ofHeader ++ more)

lemma CallDetails.presents_extend (call : Call) (more : Metadata) :
    (call.details.extend more).Presents call more := by
  by_cases hmore : more = []
  · rw [hmore, extend_nil]
    exact ⟨rfl, rfl, rfl, rfl⟩
  · have hextend : call.details.extend more = { call.details with
        metadata := some ((call.details.metadata).getD [] ++ more)
        extras := some (call.details.extras.getD {}) } := by
      rw [extend, if_neg (by simp [hmore])]
    rw [hextend]
    refine ⟨rfl, rfl, rfl, ?_⟩
    rw [if_neg hmore]
    cases hmetadata : call.metadata <;> simp [Call.details, hmetadata]

namespace Interceptor

/-- Whether the interceptor serves calls of the given kind. -/
def serves (kind : CallKind) : Interceptor → Bool
  | custom _ kinds _ _ => kinds.contains kind
  | authorizing _ => true
  | other _ => false

/-- What an interceptor makes of a call that it serves: the entries that it adds, or its failure. -/
def answer (w : World) : Interceptor → Except Failure Metadata
  | custom _ _ _ (some f) => .error f
  | custom _ _ add none => .ok (add.map Entry.ofHeader)
  | authorizing (some p) => p.granted w
  | authorizing none => .error .missingProvider
  | other _ => .ok []

/-- What is seen of an interceptor that serves a call. -/
def deeds (kind : CallKind) (d : CallDetails) : Interceptor → List Effect
  | custom label _ _ _ => [.intercept label kind d]
  | authorizing (some p) => p.asking
  | authorizing none => []
  | other _ => []

variable {i : Interceptor} {kind : CallKind} {s : Surroundings} {w : World}

lemma perform_around_of_serves {α : Type} (hi : i.serves kind = true) (d : CallDetails)
    (rest : CallDetails → Action α) :
    (i.around kind d rest).perform s w =
      match i.answer w with
      | .error f => (.error f, w.did (i.deeds kind d))
      | .ok more => (rest (d.extend more)).perform s (w.did (i.deeds kind d)) := by
  cases i with
  | other text => cases hi
  | custom label kinds add failure =>
    have hkind : kinds.contains kind = true := hi
    rw [around, if_pos hkind, Action.perform_bind_of_ok (Action.perform_emit ..)]
    cases failure with
    | none => rw [Action.perform_bind_of_ok (Action.perform_raise_none ..)]; rfl
    | some f => rw [Action.perform_bind_of_error (Action.perform_raise_some ..)]; rfl
  | authorizing p =>
    cases p with
    | none => rw [around, deeds, World.did_nil]; rfl
    | some p =>
      have hentries := p.perform_entries s w
      rw [around, Provider.authorize, answer, deeds]
      cases hgranted : p.granted w with
      | error f =>
        rw [hgranted] at hentries
        exact Action.perform_bind_of_error (Action.perform_bind_of_error hentries)
      | ok more =>
        rw [hgranted] at hentries
        rw [Action.perform_bind_of_ok (Action.perform_bind_of_ok hentries)]
        rfl

lemma around_of_not_serves {α : Type} (hi : i.serves kind = false) (d : CallDetails)
    (rest : CallDetails → Action α) : i.around kind d rest = rest d := by
  cases i with
  | other text => rfl
  | custom label kinds add failure =>
    have hkind : ¬ kinds.contains kind = true := ne_true_of_eq_false hi
    rw [around, if_neg hkind]
  | authorizing p => cases hi

lemma deeds_isCall (i : Interceptor) (kind : CallKind) (d : CallDetails) :
    ∀ e ∈ i.deeds kind d, e.isCall = false := by
  intro e he
  cases i with
  | custom label kinds add failure =>
    rw [List.mem_singleton.mp he]
    rfl
  | other text => cases he
  | authorizing p =>
    cases p with
    | none => cases he
    | some p =>
      obtain ⟨t, -, rfl⟩ := List.mem_map.mp he
      rfl

end Interceptor

/-- The part of an interceptor in a call: the details and the world that it sees. -/
structure Part where
  interceptor : Interceptor
  seen : CallDetails
  before : World

namespace Part

def answer (x : Part) : Except Failure Metadata := x.interceptor.answer x.before

def deeds (kind : CallKind) (x : Part) : List Effect := x.interceptor.deeds kind x.seen

/-- The entries that the call has from this part on. -/
def added (x : Part) : Metadata :=
  match x.answer with
  | .ok more => more
  | .error _ => []

end Part

/-- The parts that interceptors take in a call, up to the first that fails. -/
def parts (kind : CallKind) : List Interceptor → CallDetails → World → List Part
  | [], _, _ => []
  | i :: rest, d, w =>
    if i.serves kind then
      ⟨i, d, w⟩ ::
        match i.answer w with
        | .ok more => parts kind rest (d.extend more) (w.did (i.deeds kind d))
        | .error _ => []
    else parts kind rest d w

section Parts

variable {kind : CallKind} {i : Interceptor} {rest : List Interceptor} {d : CallDetails} {w : World}

lemma parts_of_not_serves (hi : i.serves kind = false) :
    parts kind (i :: rest) d w = parts kind rest d w := by
  rw [parts, if_neg (by simp [hi])]

lemma parts_of_fails {f : Failure} (hi : i.serves kind = true) (hf : i.answer w = .error f) :
    parts kind (i :: rest) d w = [⟨i, d, w⟩] := by
  rw [parts, if_pos hi, hf]

lemma parts_of_adds {more : Metadata} (hi : i.serves kind = true) (hmore : i.answer w = .ok more) :
    parts kind (i :: rest) d w =
      ⟨i, d, w⟩ :: parts kind rest (d.extend more) (w.did (i.deeds kind d)) := by
  rw [parts, if_pos hi, hmore]

/-- The interceptors that serve the kind take part, in order, without a gap. -/
lemma parts_prefix (interceptors : List Interceptor) (d : CallDetails) (w : World) :
    (parts kind interceptors d w).map (·.interceptor) <+:
      interceptors.filter (·.serves kind) := by
  induction interceptors generalizing d w with
  | nil => exact List.nil_prefix
  | cons i rest ih =>
    cases hi : i.serves kind with
    | false =>
      rw [parts_of_not_serves hi, List.filter_cons_of_neg (by simp [hi])]
      exact ih d w
    | true =>
      rw [List.filter_cons_of_pos hi]
      cases hanswer : i.answer w with
      | error f =>
        rw [parts_of_fails hi hanswer]
        exact List.prefix_cons_inj i |>.mpr List.nil_prefix
      | ok more =>
        rw [parts_of_adds hi hanswer, List.map_cons]
        exact List.prefix_cons_inj i |>.mpr (ih _ _)

/-- Where none of them fails, all of them take part. -/
lemma parts_complete {interceptors : List Interceptor}
    (hok : ∀ x ∈ parts kind interceptors d w, failureOf x.answer = none) :
    (parts kind interceptors d w).map (·.interceptor) =
      interceptors.filter (·.serves kind) := by
  induction interceptors generalizing d w with
  | nil => rfl
  | cons i rest ih =>
    cases hi : i.serves kind with
    | false =>
      rw [parts_of_not_serves hi] at hok ⊢
      rw [List.filter_cons_of_neg (by simp [hi])]
      exact ih hok
    | true =>
      rw [List.filter_cons_of_pos hi]
      cases hanswer : i.answer w with
      | error f =>
        rw [parts_of_fails hi hanswer, List.forall_mem_singleton, Part.answer, hanswer] at hok
        cases hok
      | ok more =>
        rw [parts_of_adds hi hanswer, List.forall_mem_cons] at hok
        rw [parts_of_adds hi hanswer, List.map_cons, ih hok.2]

/-- Each part sees what those before it have made of the call, and only the last one may fail. -/
lemma parts_eq_append {interceptors : List Interceptor} {earlier later : List Part} {x : Part}
    (h : parts kind interceptors d w = earlier ++ x :: later) :
    x.seen = d.extend (earlier.flatMap (·.added)) ∧
      x.before = w.did (earlier.flatMap (·.deeds kind)) ∧
      (later ≠ [] → failureOf x.answer = none) := by
  induction interceptors generalizing d w earlier with
  | nil => simp [parts] at h
  | cons i rest ih =>
    cases hi : i.serves kind with
    | false =>
      rw [parts_of_not_serves hi] at h
      exact ih h
    | true =>
      cases hanswer : i.answer w with
      | error f =>
        rw [parts_of_fails hi hanswer] at h
        obtain ⟨rfl, hx⟩ | ⟨rest', rfl, hrest⟩ := List.append_eq_cons_iff.mp h.symm
        · obtain ⟨rfl, rfl⟩ := List.cons.inj hx
          exact ⟨rfl, w.did_nil.symm, fun hlater => absurd rfl hlater⟩
        · simp at hrest
      | ok more =>
        rw [parts_of_adds hi hanswer] at h
        have hadded : Part.added ⟨i, d, w⟩ = more := by
          rw [Part.added, Part.answer, hanswer]
        obtain ⟨rfl, hx⟩ | ⟨earlier', rfl, hearlier⟩ := List.append_eq_cons_iff.mp h.symm
        · obtain ⟨rfl, rfl⟩ := List.cons.inj hx
          refine ⟨rfl, w.did_nil.symm, fun _ => ?_⟩
          rw [Part.answer, hanswer, failureOf_ok]
        · obtain ⟨hseen, hbefore, hlater⟩ := ih hearlier
          rw [CallDetails.extend_extend] at hseen
          rw [World.did_did] at hbefore
          rw [List.flatMap_cons, List.flatMap_cons, hadded]
          exact ⟨hseen, hbefore, hlater⟩

/-- A call through interceptors does what their parts do. It ends with the failure of one that
fails, and otherwise comes to the channel itself with all that they added. -/
lemma Channel.perform_through_parts (c : Channel) (request : Value) (s : Surroundings)
    (interceptors : List Interceptor) (d : CallDetails) (w : World) :
    (c.through kind request interceptors d).perform s w =
      let xs := parts kind interceptors d w
      match xs.findSome? fun x => failureOf x.answer with
      | some f => (.error f, w.did (xs.flatMap (·.deeds kind)))
      | none => (c.transmit kind request (d.extend (xs.flatMap (·.added)))).perform s
          (w.did (xs.flatMap (·.deeds kind))) := by
  induction interceptors generalizing d w with
  | nil => simp [through, parts, World.did_nil, CallDetails.extend_nil]
  | cons i rest ih =>
    rw [through]
    cases hi : i.serves kind with
    | false =>
      rw [parts_of_not_serves hi, Interceptor.around_of_not_serves hi]
      exact ih d w
    | true =>
      rw [Interceptor.perform_around_of_serves hi]
      cases hanswer : i.answer w with
      | error f =>
        have hpart : failureOf (Part.answer ⟨i, d, w⟩) = some f := by
          rw [Part.answer, hanswer, failureOf_error]
        dsimp only
        rw [parts_of_fails hi hanswer, List.findSome?_cons, hpart, List.flatMap_singleton]
        rfl
      | ok more =>
        have hpart : failureOf (Part.answer ⟨i, d, w⟩) = none := by
          rw [Part.answer, hanswer, failureOf_ok]
        have hadded : Part.added ⟨i, d, w⟩ = more := by
          rw [Part.added, Part.answer, hanswer]
        dsimp only
        rw [parts_of_adds hi hanswer, List.findSome?_cons, hpart, ih, List.flatMap_cons,
          List.flatMap_cons, hadded]
        dsimp only
        rw [CallDetails.extend_extend, World.did_did]
        rfl

end Parts

/-- These are the parts of interceptors in a call that has the entries `first` behind the caller's:
those that serve its kind, in order and without a gap, up to the first that fails. Each sees the
caller's details with `first` and with what those before it added. -/
structure InTurn (interceptors : List Interceptor) (call : Call) (first : Metadata) (w : World)
    (xs : List Part) : Prop where
  order : xs.map (·.interceptor) <+: interceptors.filter (·.serves call.kind)
  seen : ∀ earlier x later, xs = earlier ++ x :: later →
    x.seen.Presents call (first ++ earlier.flatMap (·.added))
  before : ∀ earlier x later, xs = earlier ++ x :: later →
    x.before = w.did (earlier.flatMap (·.deeds call.kind))
  goesOn : ∀ earlier x later, xs = earlier ++ x :: later → later ≠ [] →
    ∃ more, x.answer = .ok more

lemma inTurn_parts (interceptors : List Interceptor) (call : Call) (first : Metadata) (w : World) :
    InTurn interceptors call first w
      (parts call.kind interceptors (call.details.extend first) w) := by
  constructor
  · exact parts_prefix interceptors _ w
  · intro earlier x later h
    rw [(parts_eq_append h).1, CallDetails.extend_extend]
    exact CallDetails.presents_extend call _
  · intro earlier x later h
    exact (parts_eq_append h).2.1
  · intro earlier x later h hlater
    exact exists_ok_of_failureOf ((parts_eq_append h).2.2 hlater)

/-- Only the last part can be one that fails. -/
lemma InTurn.exists_last {interceptors : List Interceptor} {call : Call} {first : Metadata}
    {w : World} {xs : List Part} {f : Failure} (h : InTurn interceptors call first w xs)
    (hf : (xs.findSome? fun x => failureOf x.answer) = some f) :
    ∃ earlier x, xs = earlier ++ [x] ∧ x.answer = .error f := by
  obtain ⟨x, hx, hfails⟩ := List.exists_of_findSome?_eq_some hf
  have herror := eq_error_of_failureOf hfails
  obtain ⟨earlier, later, hxs⟩ := List.append_of_mem hx
  by_cases hlater : later = []
  · rw [hlater] at hxs
    exact ⟨earlier, x, hxs, herror⟩
  · obtain ⟨more, hmore⟩ := h.goesOn earlier x later hxs hlater
    rw [herror] at hmore
    cases hmore

namespace Provider

/-- The entries of a provider, if there is one. -/
def entriesOf (p : Option Provider) (w : World) : Except Failure Metadata :=
  match p with
  | some p => p.granted w
  | none => .ok []

def asksOf (p : Option Provider) : List Effect := p.toList.flatMap (·.asking)

lemma asksOf_isCall (p : Option Provider) : ∀ e ∈ asksOf p, e.isCall = false := by
  intro e he
  obtain ⟨p, -, he⟩ := List.mem_flatMap.mp he
  obtain ⟨t, -, rfl⟩ := List.mem_map.mp he
  rfl

end Provider

namespace Dial

/-- The provider that comes before the interceptors of the caller: only a plaintext channel has it
there. -/
def front? (security : Security) (p : Option Provider) : Option Provider :=
  match security with
  | .plaintext => p
  | .tls _ => none

/-- What comes of a call that reaches a dialed channel. On a secure one the provider is asked now,
and without its entries the call fails in the way of the transport. -/
def arrival (t : Transport) (security : Security) (p : Option Provider) (number : ℕ) (call : Call)
    (d : CallDetails) (w : World) : Except Failure Reply × List Effect :=
  match security with
  | .plaintext =>
    (t.exchange call.kind call.request d none, [.call number call.kind call.request d none])
  | .tls _ =>
    match Provider.entriesOf p w with
    | .ok m => (t.exchange call.kind call.request d (some m),
        Provider.asksOf p ++ [.call number call.kind call.request d (some m)])
    | .error f => (.error (t.reported f), Provider.asksOf p ++ Provider.notice f)

/-- A call on an open channel that was dialed with the provider and the interceptors: what it comes
to, and the world that it leaves. -/
inductive Goes (t : Transport) (security : Security) (p : Option Provider)
    (interceptors : List Interceptor) (number : ℕ) (call : Call) (w : World) :
    Except Failure Reply × World → Prop where
  | refused {f : Failure} {es : List Effect} (hes : es = Provider.asksOf (front? security p))
      (hfront : Provider.entriesOf (front? security p) w = .error f)
      (hcall : ∀ e ∈ es, e.isCall = false) :
      Goes t security p interceptors number call w (.error f, w.did es)
  | failed {first : Metadata} {xs earlier : List Part} {x : Part} {f : Failure} {es : List Effect}
      (hes : es = Provider.asksOf (front? security p) ++ xs.flatMap (·.deeds call.kind))
      (hfront : Provider.entriesOf (front? security p) w = .ok first)
      (hturn : InTurn interceptors call first (w.did (Provider.asksOf (front? security p))) xs)
      (hlast : xs = earlier ++ [x]) (hf : x.answer = .error f)
      (hcall : ∀ e ∈ es, e.isCall = false) :
      Goes t security p interceptors number call w (.error f, w.did es)
  | arrives {first : Metadata} {xs : List Part} {d : CallDetails} {es : List Effect}
      {log : List Logging.Record}
      (hes : es = Provider.asksOf (front? security p) ++ xs.flatMap (·.deeds call.kind))
      (hfront : Provider.entriesOf (front? security p) w = .ok first)
      (hturn : InTurn interceptors call first (w.did (Provider.asksOf (front? security p))) xs)
      (hall : xs.map (·.interceptor) = interceptors.filter (·.serves call.kind))
      (hok : ∀ x ∈ xs, ∃ more, x.answer = .ok more) (hcall : ∀ e ∈ es, e.isCall = false)
      (hd : d.Presents call (first ++ xs.flatMap (·.added))) :
      Goes t security p interceptors number call w
        ((arrival t security p number call d (w.did es)).1,
          { w.did (es ++ (arrival t security p number call d (w.did es)).2) with log })

section Running

variable {security : Security} {p : Option Provider} {interceptors : List Interceptor}
  {number : ℕ} {call : Call} {s : Surroundings} {w : World}

/-- What the channel itself does with a call that gets as far as that. -/
lemma perform_transmit_channelOf (security : Security) (settings : DialSettings)
    (hopen : w.isClosed number = false) (call : Call) (d : CallDetails) :
    ∃ log, ((channelOf security settings number).transmit call.kind call.request d).perform s w =
      ((arrival s.transport security settings.callCredentials number call d w).1,
        { w.did (arrival s.transport security settings.callCredentials number call d w).2 with
          log }) := by
  cases security with
  | plaintext =>
    refine ⟨w.log, ?_⟩
    rw [Channel.perform_transmit hopen, Channel.pluginMetadata]
    rfl
  | tls roots =>
    cases hp : settings.callCredentials with
    | none =>
      refine ⟨w.log, ?_⟩
      rw [channelOf, hp, Channel.perform_transmit hopen, Channel.pluginMetadata]
      rfl
    | some p =>
      obtain ⟨log, hrun⟩ := Channel.perform_transmit_secure (s := s) (w := w) roots p
        settings.interceptors hopen call.kind call.request d
      refine ⟨log, ?_⟩
      rw [channelOf, hp, hrun, arrival, Provider.entriesOf, Provider.asksOf]
      cases p.granted w with
      | ok m => simp [World.did]
      | error f => simp [World.did]

lemma interceptors_eq_append (security : Security) (settings : DialSettings) :
    Dial.interceptors security settings =
      ((front? security settings.callCredentials).toList.map fun p => .authorizing (some p)) ++
        settings.interceptors := by
  cases security <;> rfl

/-- The provider in front is asked before the interceptors behind it run. -/
lemma perform_through_front (c : Channel) (kind : CallKind) (request : Value)
    (q : Option Provider) (d : CallDetails) :
    (c.through kind request ((q.toList.map fun p => .authorizing (some p)) ++ interceptors)
        d).perform s w =
      match Provider.entriesOf q w with
      | .error f => (.error f, w.did (Provider.asksOf q))
      | .ok first =>
        (c.through kind request interceptors (d.extend first)).perform s
          (w.did (Provider.asksOf q)) := by
  cases q with
  | none =>
    rw [Provider.asksOf, Provider.entriesOf, Option.toList_none, List.flatMap_nil, World.did_nil]
    rfl
  | some p =>
    rw [Provider.asksOf, Option.toList_some, List.flatMap_singleton]
    exact Interceptor.perform_around_of_serves rfl d _

/-- Behind the provider in front, the call goes through the interceptors of the caller. -/
lemma goes_through {first : Metadata} (settings : DialSettings)
    (hp : settings.callCredentials = p) (hopen : w.isClosed number = false)
    (hfront : Provider.entriesOf (front? security p) w = .ok first) :
    Goes s.transport security p interceptors number call w
      (((channelOf security settings number).through call.kind call.request interceptors
        (call.details.extend first)).perform s
          (w.did (Provider.asksOf (front? security p)))) := by
  let asks := Provider.asksOf (front? security p)
  let xs := parts call.kind interceptors (call.details.extend first) (w.did asks)
  have hturn : InTurn interceptors call first (w.did asks) xs := inTurn_parts ..
  have hcall : ∀ e ∈ asks ++ xs.flatMap (·.deeds call.kind), e.isCall = false := by
    intro e he
    obtain he | he := List.mem_append.mp he
    · exact Provider.asksOf_isCall _ e he
    · obtain ⟨x, -, he⟩ := List.mem_flatMap.mp he
      exact x.interceptor.deeds_isCall call.kind x.seen e he
  rw [Channel.perform_through_parts]
  dsimp only
  rw [World.did_did]
  cases hfailure : xs.findSome? fun x => failureOf x.answer with
  | some f =>
    obtain ⟨earlier, x, hlast, hf⟩ := hturn.exists_last hfailure
    exact .failed rfl hfront hturn hlast hf hcall
  | none =>
    have hnone : ∀ x ∈ xs, failureOf x.answer = none := List.findSome?_eq_none_iff.mp hfailure
    obtain ⟨log, hrun⟩ := perform_transmit_channelOf (s := s)
      (w := w.did (asks ++ xs.flatMap (·.deeds call.kind))) security settings hopen call
      (call.details.extend (first ++ xs.flatMap (·.added)))
    rw [CallDetails.extend_extend]
    dsimp only
    rw [hrun, hp, World.did_did]
    exact .arrives rfl hfront hturn (parts_complete hnone)
      (fun x hx => exists_ok_of_failureOf (hnone x hx)) hcall (CallDetails.presents_extend call _)

/-- Each call on an open channel that was dialed goes this way: the provider in effect first, if the
channel is plaintext, then the caller's interceptors that serve the call, in the order of the
options, and then the channel itself, unless one of these fails. -/
theorem dialed_call_goes_in_turn {host : String} {options : List DialOption} {timeout : Value}
    {c : Channel} {u v : World} {r : Surroundings}
    (h : (dial host options timeout).perform s w = (.ok c, u))
    (hopen : v.isClosed c.number = false) (call : Call) :
    DialOption.lastSecurity options = some c.security ∧
      Goes r.transport c.security (DialOption.lastProvider options)
        (options.flatMap DialOption.addedInterceptors) c.number call v
        ((c.invoke call).perform r v) := by
  obtain ⟨security, hsecurity, rfl, -⟩ := dial_eq_ok h
  have hp := DialOption.ofOptions_callCredentials options
  rw [channelOf_number] at hopen
  rw [channelOf_number, channelOf_security]
  refine ⟨hsecurity, ?_⟩
  rw [Channel.invoke, channelOf_interceptors, interceptors_eq_append, perform_through_front, hp,
    DialOption.ofOptions_interceptors]
  cases hfront : Provider.entriesOf (front? security (DialOption.lastProvider options)) v with
  | error f => exact .refused rfl hfront (Provider.asksOf_isCall _)
  | ok first => exact goes_through _ hp hopen hfront

end Running

namespace Chained

/-! A plaintext channel with a provider in effect and four interceptors, of which two serve the call
without failing. -/

def provider (label : String) (index : ℕ) : Provider :=
  ⟨.labelled label, .bool false, some (.rotating (.given index) label)⟩

def options : List DialOption := [
  .transportCredentials (some .plaintext),
  .interceptors [.custom "count" [.unaryUnary] [("n", "1")] none,
    .custom "stream" [.streamUnary] [] (some .missingProvider)],
  .perCallCredentials (some (provider "a" 0)),
  .interceptors [.authorizing (some (provider "b" 1)),
    .custom "last" [.unaryUnary, .streamUnary] [] none]]

def world : World := ((dial "h" options .none).perform {} {}).2

def channel : Channel :=
  channelOf .plaintext (.ofOptions options) 1

def call : Call := { kind := .unaryUnary, method := "/p.S/M", request := .text "r" }

def entries : Metadata := [
  ⟨"authorization", "Bearer a1", some (.labelled "a")⟩, ⟨"n", "1", none⟩,
  ⟨"authorization", "Bearer b1", some (.labelled "b")⟩]

end Chained

open Chained in
theorem chained_call_goes_in_turn :
    (dial "h" options .none).perform {} {} = (.ok channel, world) ∧
      world.isClosed channel.number = false ∧
      Goes .plain .plaintext (some (provider "a" 0)) (options.flatMap DialOption.addedInterceptors)
        1 call world ((channel.invoke call).perform {} world) ∧
      ((channel.invoke call).perform {} world).2.trace = world.trace ++ [
        .ask (.given 0),
        .intercept "count" .unaryUnary (call.details.extend (entries.take 1)),
        .ask (.given 1),
        .intercept "last" .unaryUnary (call.details.extend entries),
        .call 1 .unaryUnary (.text "r") (call.details.extend entries) none] := by
  have hdial : (dial "h" options .none).perform {} {} = (.ok channel, world) :=
    Prod.ext (by rfl) rfl
  have hopen : world.isClosed channel.number = false := by rfl
  obtain ⟨-, hgoes⟩ := dialed_call_goes_in_turn (r := {}) hdial hopen call
  exact ⟨hdial, hopen, hgoes, by rfl⟩

end Dial

end SharedChannel
