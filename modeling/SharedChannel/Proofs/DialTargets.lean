import SharedChannel.Proofs.Origins

/-!
# What a dial target tells

A dial target is a domain and a port with a colon between them. The domain may have colons of its
own and the port has none, so a target cut at its last colon gives back what it was made of
(`host_determines_parts`), and cutting there also tells which texts are targets at all
(`exists_host_eq_iff`).
-/

namespace SharedChannel

/-- A text before its last separator and behind it, if it has one. -/
def cutAtLast (x : Char) (s : String) : Option (String × String) :=
  let backwards := s.toList.reverse
  match backwards.dropWhile (· != x) with
  | [] => none
  | _ :: before =>
    some (.ofList before.reverse, .ofList (backwards.takeWhile (· != x)).reverse)

section Cutting

variable {x : Char} {s before behind : String}

lemma cutAtLast_append (h : x ∉ behind.toList)
    (hs : s.toList = before.toList ++ x :: behind.toList) :
    cutAtLast x s = some (before, behind) := by
  have hbackwards : s.toList.reverse = behind.toList.reverse ++ x :: before.toList.reverse := by
    rw [hs, List.reverse_append, List.reverse_cons, List.append_assoc]
    rfl
  have hpass : ∀ c ∈ behind.toList.reverse, (c != x) = true := by
    intro c hc
    have hmem : c ∈ behind.toList := List.mem_reverse.mp hc
    have hne : c ≠ x := fun heq => h (heq ▸ hmem)
    exact bne_iff_ne.mpr hne
  have hdrop : s.toList.reverse.dropWhile (· != x) = x :: before.toList.reverse := by
    rw [hbackwards, List.dropWhile_append_of_pos hpass]
    exact List.dropWhile_cons_of_neg (by simp)
  have htake : s.toList.reverse.takeWhile (· != x) = behind.toList.reverse := by
    rw [hbackwards, List.takeWhile_append_of_pos hpass, List.takeWhile_cons_of_neg (by simp),
      List.append_nil]
  unfold cutAtLast
  dsimp only
  rw [hdrop, htake]
  dsimp only
  rw [List.reverse_reverse, List.reverse_reverse, String.ofList_toList, String.ofList_toList]

/-- The parts make up the text, and there is no separator in the second one. -/
theorem cutAtLast_eq_some_iff : cutAtLast x s = some (before, behind) ↔
    s.toList = before.toList ++ x :: behind.toList ∧ x ∉ behind.toList := by
  constructor
  · intro h
    unfold cutAtLast at h
    dsimp only at h
    have hparts := List.takeWhile_append_dropWhile (p := (· != x)) (l := s.toList.reverse)
    cases hdrop : s.toList.reverse.dropWhile (· != x) with
    | nil =>
      rw [hdrop] at h
      cases h
    | cons c rest =>
      have hc : c = x := by
        have hfirst := List.head_dropWhile_not (· != x) (l := s.toList.reverse) (by simp [hdrop])
        simpa [hdrop] using hfirst
      rw [hdrop] at h hparts
      rw [Option.some.injEq, Prod.mk.injEq] at h
      obtain ⟨rfl, rfl⟩ := h
      rw [String.toList_ofList, String.toList_ofList]
      constructor
      · have hs := congrArg List.reverse hparts
        rw [List.reverse_append, List.reverse_cons, List.reverse_reverse, hc,
          List.append_assoc] at hs
        exact hs.symm
      · intro hmem
        have hpass := List.mem_takeWhile_imp (List.mem_reverse.mp hmem)
        simp at hpass
  · rintro ⟨hs, h⟩
    exact cutAtLast_append h hs

end Cutting

namespace Endpoint

variable {a b e : Endpoint} {d d' : String}

lemma cutAtLast_host (h : PortNumeral e.port) :
    cutAtLast ':' e.host = some (e.domain.inFull, e.port) :=
  cutAtLast_append h.colon_notMem (toList_host e)

/-- The text is the target of an accepted endpoint if what is before its last colon passes for a
domain and what is behind it for a port. -/
theorem exists_host_eq_iff (t : String) :
    (∃ e d, Constructed e ∧ e.domain = .text d ∧ e.host = t) ↔
      ∃ d p, cutAtLast ':' t = some (d, p) ∧ BareHostname d ∧ PortNumeral p := by
  constructor
  · rintro ⟨e, d, he, hd, rfl⟩
    obtain ⟨hdomain, hport⟩ := he.checked
    rw [hd] at hdomain
    have hcut := cutAtLast_host hport
    rw [hd] at hcut
    exact ⟨d, e.port, hcut, checkDomain_text_eq_ok_iff.mp hdomain, hport⟩
  · rintro ⟨d, p, hcut, hd, hp⟩
    let e : Endpoint := ⟨.text d, p, .bool true⟩
    have hmake : make (.text d) (.text p) (.bool true) = .ok e :=
      make_eq_ok_iff.mpr ⟨checkDomain_text_eq_ok_iff.mpr hd, p, rfl, hp, rfl⟩
    have hhost : e.host = t := by
      apply String.toList_inj.mp
      rw [toList_host, (cutAtLast_eq_some_iff.mp hcut).1]
      rfl
    exact ⟨e, d, .make (.text d) (.text p) (.bool true) hmake, rfl, hhost⟩

/-- Two endpoints have one target if they have one domain and one port, as the target cut at its
last colon gives back both. -/
theorem host_determines_parts (ha : Constructed a) (hb : Constructed b) (hd : a.domain = .text d)
    (hd' : b.domain = .text d') :
    cutAtLast ':' a.host = some (d, a.port) ∧ cutAtLast ':' b.host = some (d', b.port) ∧
      (a.host = b.host ↔ a.domain = b.domain ∧ a.port = b.port) := by
  have hcut := cutAtLast_host ha.checked.2
  have hcut' := cutAtLast_host hb.checked.2
  rw [hd] at hcut
  rw [hd'] at hcut'
  refine ⟨hcut, hcut', ?_⟩
  constructor
  · intro h
    rw [h, hcut', Option.some.injEq, Prod.mk.injEq] at hcut
    obtain ⟨hdomain, hport⟩ := hcut
    have hdomains : a.domain = b.domain := by
      rw [hd, hd']
      exact congrArg Value.text hdomain.symm
    exact ⟨hdomains, hport.symm⟩
  · rintro ⟨hdomain, hport⟩
    unfold host
    rw [hdomain, hport]

/-- A domain with colons and digits in it, and a port in Arabic digits. -/
theorem colons_stay_in_domain :
    let a : Endpoint := ⟨.text "::1:80", "٤٤٣", .bool false⟩
    let b : Endpoint := ⟨.text "::1", "80", .bool true⟩
    Constructed a ∧ Constructed b ∧ a.host = "::1:80:٤٤٣" ∧
      cutAtLast ':' "::1:80:٤٤٣" = some ("::1:80", "٤٤٣") ∧
      cutAtLast ':' "::1:80" = some ("::1", "80") ∧ a.host ≠ b.host := by
  intro a b
  have ha : Constructed a :=
    .new (.text "::1:80") [.insecure (.text "٤٤٣")] (by decide +kernel)
  have hb : Constructed b :=
    .ofConfig { domain := .text "::1", port := .int 80 } (by decide +kernel)
  obtain ⟨hcut, hcut', hsame⟩ := host_determines_parts ha hb rfl rfl
  exact ⟨ha, hb, rfl, hcut, hcut', fun h => absurd (hsame.mp h).2 (by decide)⟩

end Endpoint

end SharedChannel
