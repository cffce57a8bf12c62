import SharedChannel.Proofs.InterceptorChain

/-!
# The credential plugin answers once

A secure channel waits for the callback of its credential plugin, so a missing answer would hang the
call and a second one would spoil it. `plugin_answers_once_iff` says that an ask comes to one
invocation of the callback, with the entries or with the failure to get them, and that it ends as
the invocation ends. A failure is recorded before that, so one that has no text ends the plugin
without an answer, and so does an interrupt.
-/

namespace SharedChannel

/-- What a callback has been told, read off the world. It grows with each invocation of the
callback, also with one that fails, and by nothing that the plugin does itself. -/
structure Tallies {α : Type} (s : Surroundings) (callback : PluginAnswer → Action α)
    (told : World → List PluginAnswer) : Prop where
  invoked : ∀ a w, told ((callback a).perform s w).2 = told w ++ [a]
  asked : ∀ source w, told (w.did [.ask source]) = told w
  logged : ∀ log w, told { w with log } = told w

namespace Provider

/-- In the world `w` the plugin gives its callback the answer `a` and no other one. It does so in
the world `v`, whatever the callback is, and ends as the callback does. -/
structure AnswersOnce (p : Provider) (method : Option String) (s : Surroundings) (w v : World)
    (a : PluginAnswer) : Prop where
  ends : ∀ {α : Type} (callback : PluginAnswer → Action α),
    (p.plugin method callback).perform s w = (callback a).perform s v
  told : ∀ {α : Type} (callback : PluginAnswer → Action α) (told : World → List PluginAnswer),
    Tallies s callback told → told ((p.plugin method callback).perform s w).2 = told w ++ [a]

/-- In the world `w` the plugin does not invoke its callback, whatever this is, and ends with the
failure `f`. -/
structure AnswersNever (p : Provider) (method : Option String) (s : Surroundings) (w v : World)
    (f : Failure) : Prop where
  ends : ∀ {α : Type} (callback : PluginAnswer → Action α),
    (p.plugin method callback).perform s w = (.error f, v)
  told : ∀ {α : Type} (callback : PluginAnswer → Action α) (told : World → List PluginAnswer),
    Tallies s callback told → told ((p.plugin method callback).perform s w).2 = told w

section Answering

variable {α : Type} {p : Provider} {method : Option String} {s : Surroundings} {w v : World}
  {m : Metadata} {f : Failure}

/-- To ask for the entries tells the callback nothing. -/
lemma told_entries {callback : PluginAnswer → Action α} {told : World → List PluginAnswer}
    (htold : Tallies s callback told) (p : Provider) (w : World) :
    told (p.entries.perform s w).2 = told w := by
  rw [p.perform_entries, asking]
  cases p.source with
  | none => exact congrArg told w.did_nil
  | some t => exact htold.asked t.name w

lemma answersOnce_of_granted (h : p.entries.perform s w = (.ok m, v)) :
    p.AnswersOnce method s w v (.granted m) := by
  refine ⟨fun callback => perform_plugin_of_granted h callback, ?_⟩
  intro α callback told htold
  have hasked := told_entries htold p w
  rw [h] at hasked
  rw [perform_plugin_of_granted h, htold.invoked, hasked]

lemma answersOnce_of_reportable (h : p.entries.perform s w = (.error f, v))
    (hf : f.isReportable = true) :
    p.AnswersOnce method s w (recorded method f v) (.refused f) := by
  refine ⟨fun callback => perform_plugin_of_reportable h hf callback, ?_⟩
  intro α callback told htold
  have hasked := told_entries htold p w
  rw [h] at hasked
  rw [perform_plugin_of_reportable h hf, htold.invoked, recorded, htold.logged, hasked]

lemma answersNever_of_not_reportable (h : p.entries.perform s w = (.error f, v))
    (hf : f.isReportable = false) : p.AnswersNever method s w v f.escaping := by
  refine ⟨fun callback => perform_plugin_of_not_reportable h hf callback, ?_⟩
  intro α callback told htold
  have hasked := told_entries htold p w
  rw [h] at hasked
  rw [perform_plugin_of_not_reportable h hf, hasked]

lemma AnswersNever.not_answersOnce {u : World} {a : PluginAnswer}
    (h : p.AnswersNever method s w v f) : ¬ p.AnswersOnce method s w u a := by
  intro honce
  have hends := honce.ends fun a => pure a
  rw [h.ends] at hends
  cases congrArg Prod.fst hends

end Answering

/-- The entries are asked for once, if there is a source to ask, and the answer to the ask depends
on how often it was asked before. The callback gets the entries, or an ordinary failure to get them
if and only if this has a text. Otherwise it gets nothing. -/
theorem plugin_answers_once_iff (p : Provider) (method : Option String) (s : Surroundings)
    (w : World) :
    (p.source = none → p.entries.perform s w = (.ok [], w)) ∧
    (∀ t, p.source = some t → p.entries.perform s w =
      ((t.header (w.asks t.name)).map fun value => [⟨"authorization", value, some p.name⟩],
        w.did [.ask t.name])) ∧
    (∀ m v, p.entries.perform s w = (.ok m, v) → p.AnswersOnce method s w v (.granted m)) ∧
    (∀ f v, p.entries.perform s w = (.error f, v) → f.isOrdinary = true →
      (p.AnswersOnce method s w (recorded method f v) (.refused f) ↔ f.isMute = false) ∧
      (p.AnswersNever method s w v f.afterMessage ↔ f.isMute = true)) ∧
    ∀ f v, p.entries.perform s w = (.error f, v) → f.isOrdinary = false →
      p.AnswersNever method s w v f := by
  refine ⟨?_, ?_, fun m v h => answersOnce_of_granted h, ?_, ?_⟩
  · intro hsource
    rw [p.perform_entries, granted, asking, hsource]
    exact congrArg (Prod.mk _) w.did_nil
  · intro t hsource
    rw [p.perform_entries, granted, asking, hsource]
    rfl
  · intro f v h hf
    have hescaping : f.escaping = f.afterMessage := if_pos hf
    cases hmute : f.isMute with
    | false =>
      have honce : p.AnswersOnce method s w (recorded method f v) (.refused f) :=
        answersOnce_of_reportable h (Failure.isReportable_of_ordinary hf hmute)
      refine ⟨iff_of_true honce rfl, iff_of_false ?_ Bool.false_ne_true⟩
      exact fun hnever => hnever.not_answersOnce honce
    | true =>
      have hlost : f.isReportable = false := by
        rw [Failure.isReportable, hf, hmute]
        rfl
      have hnever : p.AnswersNever method s w v f.escaping :=
        answersNever_of_not_reportable h hlost
      rw [hescaping] at hnever
      exact ⟨iff_of_false hnever.not_answersOnce Bool.true_eq_false.mp, iff_of_true hnever rfl⟩
  · intro f v h hf
    have hescaping : f.escaping = f := if_neg (by simp [hf])
    have hlost : f.isReportable = false := by
      rw [Failure.isReportable, hf]
      rfl
    have hnever : p.AnswersNever method s w v f.escaping :=
      answersNever_of_not_reportable h hlost
    rwa [hescaping] at hnever

namespace Answered

/-! The first ask fails and the second gets a token. The callback notes what it is told, and then it
fails. -/

def provider : Provider :=
  ⟨.own, .bool true, some (.scripted (.given 0) (.error (.raised .runtime "x"))
    [.ok { accessToken := .text "B" }])⟩

def mute : Failure := .mute .runtime (.raised .value "no text")

def silenced : Provider := ⟨.own, .bool true, some (.scripted (.given 0) (.error mute) [])⟩

def note : PluginAnswer → Effect
  | .granted m => .call 1 .unaryUnary .none { method := "/p.S/M" } (some m)
  | .refused f => .pluginFailure f

def noted? : Effect → Option PluginAnswer
  | .call _ _ _ _ plugin => plugin.map .granted
  | .pluginFailure f => some (.refused f)
  | _ => none

def callback (a : PluginAnswer) : Action Unit := do
  Action.emit (note a)
  throw (.raised .value "callback")

def told (w : World) : List PluginAnswer := w.trace.filterMap noted?

def asked : World := (provider.entries.perform {} {}).2

def later : World := ((provider.plugin (some "M") callback).perform {} {}).2

lemma tallies_told (s : Surroundings) : Tallies s callback told := by
  constructor
  · intro a w
    have hrun : (callback a).perform s w =
        (.error (.raised .value "callback"), w.did [note a]) := rfl
    rw [hrun, told, World.did, List.filterMap_append]
    cases a <;> rfl
  · intro source w
    rw [told, World.did, List.filterMap_append]
    exact List.append_nil _
  · intro log w
    rfl

end Answered

open Answered in
theorem failing_callback_is_told_once :
    provider.entries.perform {} {} = (.error (.raised .runtime "x"), asked) ∧
      provider.AnswersOnce (some "M") {} {} (recorded (some "M") (.raised .runtime "x") asked)
        (.refused (.raised .runtime "x")) ∧
      told later = [.refused (.raised .runtime "x")] ∧
      provider.AnswersOnce (some "M") {} later (later.did [.ask (.given 0)])
        (.granted [⟨"authorization", "Bearer B", some .own⟩]) ∧
      told ((provider.plugin (some "M") callback).perform {} later).2 =
        [.refused (.raised .runtime "x"),
          .granted [⟨"authorization", "Bearer B", some .own⟩]] := by
  have hfirst : provider.entries.perform {} {} = (.error (.raised .runtime "x"), asked) := rfl
  have hsecond : provider.entries.perform {} later =
      (.ok [⟨"authorization", "Bearer B", some .own⟩], later.did [.ask (.given 0)]) := by rfl
  obtain ⟨-, -, -, refuses, -⟩ := plugin_answers_once_iff provider (some "M") {} {}
  obtain ⟨-, -, grants, -, -⟩ := plugin_answers_once_iff provider (some "M") {} later
  have hrefused := (refuses _ _ hfirst rfl).1.mpr rfl
  have hgranted := grants _ _ hsecond
  have htold := hrefused.told callback told (tallies_told {})
  have htold' := hgranted.told callback told (tallies_told {})
  have hlater : told later = [.refused (.raised .runtime "x")] := htold
  rw [hlater] at htold'
  exact ⟨hfirst, hrefused, hlater, hgranted, htold'⟩

open Answered in
/-- The source fails with an ordinary failure without a text, and the callback is never invoked. -/
theorem mute_failure_is_not_answered :
    mute.isOrdinary = true ∧
      (silenced.entries.perform {} {}).1 = .error mute ∧
      ((silenced.plugin (some "M") callback).perform {} {}).1 = .error (.raised .value "no text") ∧
      told ((silenced.plugin (some "M") callback).perform {} {}).2 = [] :=
  ⟨rfl, by rfl, by rfl, by rfl⟩

end Provider

end SharedChannel
