import SharedChannel.Endpoint
import Mathlib.Data.List.TakeWhile
import Mathlib.Tactic.Common

/-!
# What passes for a domain and a port

A domain is accepted if it is a bare host name, and a port if it is a numeral of a number from 1 to
65535 (`checkDomain_text_eq_ok_iff`, `checkPort_eq_ok_iff`). A text of digits that cannot be read as
a number is refused too, but as no failure of endpoints (`checkPort_cases`), and so is a port that
cannot be written, whatever the domain is (`make_eq_error_iff`).
-/

namespace SharedChannel

section Searching

variable {α : Type} [BEq α] [LawfulBEq α]

lemma mem_of_occursIn {needle haystack : List α} (h : occursIn needle haystack = true) {a : α}
    (ha : a ∈ needle) : a ∈ haystack := by
  induction haystack with
  | nil =>
    rw [occursIn, List.isEmpty_iff] at h
    rwa [← h]
  | cons b rest ih =>
    rw [occursIn, Bool.or_eq_true] at h
    obtain hbegin | hrest := h
    · exact (List.isPrefixOf_iff_prefix.mp hbegin).subset ha
    · exact List.mem_cons_of_mem _ (ih hrest)

lemma occursIn_singleton_iff {a : α} {haystack : List α} :
    occursIn [a] haystack = true ↔ a ∈ haystack := by
  constructor
  · intro h
    exact mem_of_occursIn h List.mem_cons_self
  · intro h
    induction haystack with
    | nil => cases h
    | cons b rest ih =>
      rw [occursIn, Bool.or_eq_true]
      obtain rfl | hrest := List.mem_cons.mp h
      · exact .inl (by simp)
      · exact .inr (ih hrest)

end Searching

namespace Endpoint

/-- A domain with neither scheme nor path. -/
structure BareHostname (d : String) : Prop where
  nonempty : d ≠ ""
  noSlash : '/' ∉ d.toList

/-- A text of decimal digits, not too many, of a number in the range of ports. -/
structure PortNumeral (s : String) : Prop where
  nonempty : s ≠ ""
  decimal : ∀ c ∈ s.toList, Text.isDecimal c = true
  length_le : s.length ≤ Text.numeralLimit
  pos : 0 < Text.numeralValue s.toList
  le : Text.numeralValue s.toList ≤ 65535

/-- A text of digits that no number is read from: one of them has no place value, or there are too
many. -/
structure Illegible (s : String) : Prop where
  nonempty : s ≠ ""
  digits : ∀ c ∈ s.toList, Text.isDigit c = true
  unread : (∃ c ∈ s.toList, Text.isDecimal c = false) ∨ Text.numeralLimit < s.length

variable {d s : String} {f : Failure}

lemma not_illegible_of_decimal (hdecimal : ∀ c ∈ s.toList, Text.isDecimal c = true)
    (hlength : s.length ≤ Text.numeralLimit) : ¬ Illegible s := by
  intro h
  obtain ⟨c, hc, hother⟩ | hlong := h.unread
  · rw [hdecimal c hc] at hother
    cases hother
  · exact absurd hlength (Nat.not_le.mpr hlong)

lemma PortNumeral.not_illegible (h : PortNumeral s) : ¬ Illegible s :=
  not_illegible_of_decimal h.decimal h.length_le

/-- A text is looked at for its length first, and then for slashes. -/
lemma checkDomain_text (d : String) : checkDomain (.text d) =
    if d = "" then .error .emptyDomain
    else if '/' ∈ d.toList then .error (.notBareHostname (Text.quoted d))
    else .ok () := by
  have hslash : occursIn ['/'] d.toList = decide ('/' ∈ d.toList) := by
    rw [Bool.eq_iff_iff, occursIn_singleton_iff, decide_eq_true_eq]
  have hscheme : occursIn [':', '/', '/'] d.toList = true → '/' ∈ d.toList := by
    intro h
    exact mem_of_occursIn h (by decide)
  by_cases hempty : d = ""
  · rw [if_pos hempty, hempty]
    rfl
  · rw [if_neg hempty]
    by_cases hmem : '/' ∈ d.toList
    · rw [if_pos hmem]
      cases hoccurs : occursIn [':', '/', '/'] d.toList <;>
        simp [checkDomain, Value.truthy, Value.containsText, bind, Except.bind, throw, throwThe,
          MonadExceptOf.throw, hempty, hslash, hmem, hoccurs]
    · have hnone : occursIn [':', '/', '/'] d.toList = false := by
        rw [Bool.eq_false_iff]
        exact fun h => hmem (hscheme h)
      rw [if_neg hmem]
      simp [checkDomain, Value.truthy, Value.containsText, bind, Except.bind, pure, Except.pure,
        hempty, hslash, hmem, hnone]

lemma checkDomain_text_eq_ok_iff : checkDomain (.text d) = .ok () ↔ BareHostname d := by
  rw [checkDomain_text]
  constructor
  · intro h
    split at h
    · cases h
    · split at h
      · cases h
      · next hempty hslash => exact ⟨hempty, hslash⟩
  · intro h
    rw [if_neg h.nonempty, if_neg h.noSlash]

/-- A domain that is refused is reported as a failure of endpoints. -/
lemma kind_of_checkDomain_text (h : checkDomain (.text d) = .error f) :
    f.kind = .invalidEndpoint ∧ ¬ BareHostname d := by
  constructor
  · rw [checkDomain_text] at h
    split at h
    · cases h
      rfl
    · split at h
      · cases h
        rfl
      · cases h
  · intro hd
    rw [checkDomain_text_eq_ok_iff.mpr hd] at h
    cases h

/-- A number is read from decimal digits that are not too many, and from nothing else. -/
lemma portNumber_cases (s : String) :
    (portNumber s = .ok (Text.numeralValue s.toList) ∧
        (∀ c ∈ s.toList, Text.isDecimal c = true) ∧ s.length ≤ Text.numeralLimit) ∨
      ∃ f, portNumber s = .error f ∧ f.kind = .value ∧
        ((∃ c ∈ s.toList, Text.isDecimal c = false) ∨ Text.numeralLimit < s.length) := by
  unfold portNumber
  dsimp only
  by_cases hall : ∀ c ∈ s.toList, Text.isDecimal c = true
  · rw [List.takeWhile_eq_self_iff.mpr hall, String.length_toList]
    by_cases hlong : Text.numeralLimit < s.length
    · rw [if_pos hlong]
      exact .inr ⟨_, rfl, rfl, .inr hlong⟩
    · rw [if_neg hlong, if_neg (Nat.lt_irrefl _)]
      exact .inl ⟨rfl, hall, Nat.le_of_not_lt hlong⟩
  · have hother : ∃ c ∈ s.toList, Text.isDecimal c = false := by simpa using hall
    right
    split
    · exact ⟨_, rfl, rfl, .inl hother⟩
    · split
      · exact ⟨_, rfl, rfl, .inl hother⟩
      · next hshort =>
        -- the run of decimal digits is not the whole text
        have hdecimals := List.takeWhile_prefix (l := s.toList) Text.isDecimal
        have hlength := Nat.le_antisymm hdecimals.length_le (Nat.le_of_not_lt hshort)
        exact absurd (List.takeWhile_eq_self_iff.mp (hdecimals.eq_of_length hlength)) hall

lemma isDigit_of_isDecimal {c : Char} (h : Text.isDecimal c = true) : Text.isDigit c = true := by
  rw [Text.isDigit, h, Bool.true_or]

/-- What is looked at first: whether there are digits, and nothing else. -/
lemma undigited_iff (s : String) : (s.isEmpty || !s.toList.all Text.isDigit) = true ↔
    ¬ (s ≠ "" ∧ ∀ c ∈ s.toList, Text.isDigit c = true) := by
  rw [Bool.or_eq_true, String.isEmpty_iff, Bool.not_eq_true', Bool.eq_false_iff, Ne,
    List.all_eq_true, not_and_or, not_not]

/-- A port is accepted, or it is refused as a failure of endpoints, unless it is illegible. -/
lemma checkPort_cases (s : String) :
    (checkPort s = .ok () ∧ PortNumeral s) ∨
      (checkPort s = .error (.invalidPort s) ∧ ¬ PortNumeral s ∧ ¬ Illegible s) ∨
      ∃ f, checkPort s = .error f ∧ f.kind = .value ∧ Illegible s := by
  unfold checkPort
  by_cases hdigits : s ≠ "" ∧ ∀ c ∈ s.toList, Text.isDigit c = true
  · rw [if_neg (by rw [undigited_iff]; exact not_not_intro hdigits)]
    obtain ⟨hnumber, hdecimal, hlength⟩ | ⟨f, hnumber, hkind, hunread⟩ := portNumber_cases s
    · rw [hnumber]
      by_cases hrange : 0 < Text.numeralValue s.toList ∧ Text.numeralValue s.toList < 65536
      · left
        refine ⟨?_, hdigits.1, hdecimal, hlength, hrange.1, Nat.le_of_lt_succ hrange.2⟩
        simp [bind, Except.bind, pure, Except.pure, hrange]
      · right
        left
        have hout : (!(decide (0 < Text.numeralValue s.toList) &&
            decide (Text.numeralValue s.toList < 65536))) = true := by
          rw [← Bool.decide_and, decide_eq_false hrange]
          rfl
        refine ⟨?_, ?_, not_illegible_of_decimal hdecimal hlength⟩
        · simp only [bind, Except.bind]
          rw [if_pos hout]
          rfl
        · intro h
          exact hrange ⟨h.pos, Nat.lt_succ_of_le h.le⟩
    · right
      right
      rw [hnumber]
      exact ⟨f, rfl, hkind, hdigits.1, hdigits.2, hunread⟩
  · rw [if_pos ((undigited_iff s).mpr hdigits)]
    right
    left
    refine ⟨rfl, ?_, ?_⟩
    · intro h
      exact hdigits ⟨h.nonempty, fun c hc => isDigit_of_isDecimal (h.decimal c hc)⟩
    · intro h
      exact hdigits ⟨h.nonempty, h.digits⟩

theorem checkPort_eq_ok_iff : checkPort s = .ok () ↔ PortNumeral s := by
  obtain ⟨hport, hnumeral⟩ | ⟨hport, hnumeral, -⟩ | ⟨f, hport, -, hillegible⟩ := checkPort_cases s
  · exact iff_of_true hport hnumeral
  · rw [hport]
    exact iff_of_false (fun h => nomatch h) hnumeral
  · rw [hport]
    exact iff_of_false (fun h => nomatch h) fun h => h.not_illegible hillegible

/-- A port that is refused is reported as a failure of endpoints unless it is illegible. -/
theorem kind_of_checkPort (h : checkPort s = .error f) :
    f.kind = .invalidEndpoint ↔ ¬ Illegible s := by
  obtain ⟨hport, -⟩ | ⟨hport, -, hlegible⟩ | ⟨g, hport, hkind, hillegible⟩ := checkPort_cases s
  · rw [hport] at h
    cases h
  · rw [hport] at h
    cases h
    exact iff_of_true rfl hlegible
  · rw [hport] at h
    cases h
    rw [hkind]
    exact iff_of_false (fun h => nomatch h) (not_not_intro hillegible)

/-- A port that no number is read from although it may be one: it cannot be written, or its text is
illegible. -/
def Unreadable (port : Value) : Prop := port.isOverlong = true ∨ Illegible port.inFull

section Making

variable {domain port tls : Value} {e : Endpoint}

/-- What is made of a port by itself, if it is accepted: its text. -/
def checkedPort (port : Value) : Except Failure String := do
  let text ← port.toText
  checkPort text
  return text

lemma checkedPort_eq_ok_iff {text : String} :
    checkedPort port = .ok text ↔ port.toText = .ok text ∧ PortNumeral text := by
  unfold checkedPort
  rw [← checkPort_eq_ok_iff]
  cases port.toText with
  | error f => simp [bind, Except.bind]
  | ok written =>
    simp only [bind, Except.bind]
    cases hport : checkPort written with
    | error f =>
      refine iff_of_false (fun h => nomatch h) ?_
      rintro ⟨h, haccepted⟩
      rw [← Except.ok.inj h, hport] at haccepted
      cases haccepted
    | ok u =>
      constructor
      · intro h
        cases h
        exact ⟨rfl, hport⟩
      · rintro ⟨h, -⟩
        exact h

lemma checkedPort_eq_error_iff : checkedPort port = .error f ↔
    port.toText = .error f ∨ ∃ text, port.toText = .ok text ∧ checkPort text = .error f := by
  unfold checkedPort
  cases port.toText with
  | error g => simp [bind, Except.bind]
  | ok text =>
    cases hport : checkPort text <;> simp [bind, Except.bind, hport, pure, Except.pure]

lemma not_unreadable_of_ok {text : String} (h : checkedPort port = .ok text) :
    ¬ Unreadable port := by
  obtain ⟨hwritten, hnumeral⟩ := checkedPort_eq_ok_iff.mp h
  obtain ⟨hshort, rfl⟩ := Value.toText_eq_ok_iff.mp hwritten
  rintro (hlong | hillegible)
  · rw [hshort] at hlong
    cases hlong
  · exact hnumeral.not_illegible hillegible

/-- A port that is refused is reported as a failure of endpoints unless it is unreadable. -/
lemma kind_of_checkedPort (h : checkedPort port = .error f) :
    f.kind = .invalidEndpoint ↔ ¬ Unreadable port := by
  obtain hwritten | ⟨text, hwritten, hport⟩ := checkedPort_eq_error_iff.mp h
  · obtain ⟨hlong, rfl⟩ := Value.toText_eq_error_iff.mp hwritten
    exact iff_of_false (fun h => nomatch h) (not_not_intro (.inl hlong))
  · obtain ⟨hshort, rfl⟩ := Value.toText_eq_ok_iff.mp hwritten
    rw [kind_of_checkPort hport, Unreadable, hshort]
    simp

lemma make_of_ok (h : checkDomain domain = .ok ()) (port tls : Value) :
    make domain port tls = (checkedPort port).map (⟨domain, ·, tls⟩) := by
  unfold make checkedPort
  rw [h]
  cases port.toText with
  | error g => rfl
  | ok text =>
    simp only [bind, Except.bind]
    cases checkPort text <;> rfl

/-- With a domain that is refused the port only has to be written. -/
lemma make_of_error (h : checkDomain domain = .error f) (port tls : Value) :
    make domain port tls = if port.isOverlong then .error .overlongNumeral else .error f := by
  unfold make Value.toText
  rw [h]
  cases port.isOverlong <;> rfl

/-- An endpoint is made of what was checked, as it is. -/
theorem make_eq_ok_iff : make domain port tls = .ok e ↔
    checkDomain domain = .ok () ∧
      ∃ text, port.toText = .ok text ∧ PortNumeral text ∧ e = ⟨domain, text, tls⟩ := by
  cases hdomain : checkDomain domain with
  | error f =>
    rw [make_of_error hdomain]
    cases port.isOverlong <;> simp
  | ok u =>
    rw [make_of_ok hdomain]
    cases hport : checkedPort port with
    | error f =>
      refine iff_of_false (fun h => nomatch h) ?_
      rintro ⟨-, text, hwritten, hnumeral, -⟩
      rw [checkedPort_eq_ok_iff.mpr ⟨hwritten, hnumeral⟩] at hport
      cases hport
    | ok text =>
      obtain ⟨hwritten, hnumeral⟩ := checkedPort_eq_ok_iff.mp hport
      rw [hwritten]
      simp [Except.map, hnumeral, eq_comm]

/-- The domain is looked at before the port, which has to be written by then. -/
theorem make_eq_error_iff : make domain port tls = .error f ↔
    port.toText = .error f ∨
      ∃ text, port.toText = .ok text ∧
        (checkDomain domain = .error f ∨
          checkDomain domain = .ok () ∧ checkPort text = .error f) := by
  cases hdomain : checkDomain domain with
  | error g =>
    rw [make_of_error hdomain]
    unfold Value.toText
    cases port.isOverlong <;> simp
  | ok u =>
    rw [make_of_ok hdomain]
    have hmap : (checkedPort port).map (⟨domain, ·, tls⟩ : String → Endpoint) = .error f ↔
        checkedPort port = .error f := by
      cases checkedPort port <;> simp [Except.map]
    rw [hmap, checkedPort_eq_error_iff]
    simp

end Making

end Endpoint

end SharedChannel
