import SharedChannel.Proofs.LogHandlers

/-!
# What comes to the log file

After a setup with a log file, `appended` lists the lines that a run of events adds to it: one for
each record that the level admits and the format can show, besides what handlers of others write to
the same file. `read?_afterEvents` says that these lines stand behind the earlier content, in order.
-/

namespace SharedChannel.Logging

/-- The file that a handler writes to. -/
def Handler.path? (h : Handler) : Option Path :=
  match h.sink with
  | .file _ path => some path
  | _ => none

/-- The line of a record as a handler writes it. -/
def Handler.line? (r : Record) (h : Handler) : Option String :=
  (h.format.bind (Format.render r)).map (· ++ "\n")

/-- The lines that handlers write to a file for a record. -/
def linesTo (path : Path) (r : Record) (hs : List Handler) : List String :=
  (hs.filter fun h => h.path? == some path).filterMap (Handler.line? r)

/-- The lines that a log file gets in one event: its own one, and those from handlers of others
before and behind its handler. -/
def Event.lines (path : Path) (threshold : Int) (format : String) (front behind : List Handler) :
    Event → List String
  | write r =>
    if threshold ≤ r.level then
      linesTo path r front ++ (Format.render r format).toList.map (· ++ "\n") ++
        linesTo path r behind
    else []
  | _ => []

/-- The lines that a log file gets in a run of events. -/
def appended (path : Path) (threshold : Int) (format : String) (front : List Handler) :
    List Handler → List Event → List String
  | _, [] => []
  | behind, e :: rest =>
    e.lines path threshold format front behind ++
      appended path threshold format front (behind ++ e.foreign?.toList) rest

/-- The line of an event in a log file that no handler of others writes to. -/
def Event.line? (threshold : Int) (format : String) : Event → Option String
  | write r => if threshold ≤ r.level then (Format.render r format).map (· ++ "\n") else none
  | _ => none

section Writing

variable {l q : System} {path : Path} {r : Record} {a : String}

lemma linesTo_append (path : Path) (r : Record) (hs more : List Handler) :
    linesTo path r (hs ++ more) = linesTo path r hs ++ linesTo path r more := by
  unfold linesTo
  rw [List.filter_append, List.filterMap_append]

lemma linesTo_ours (console : Bool) (n : ℕ) (path : Path) (format : String) (r : Record) :
    linesTo path r (Handler.ours console (some (n, path)) format) =
      (Format.render r format).toList.map (· ++ "\n") := by
  have hfile :
      (Handler.ours console (some (n, path)) format).filter (fun h => h.path? == some path) =
        [⟨.file n path, true, some format⟩] := by
    cases console <;> simp [Handler.ours, Handler.path?]
  unfold linesTo
  rw [hfile]
  cases hrender : Format.render r format <;> simp [Handler.line?, hrender]

lemma linesTo_of_elsewhere {hs : List Handler} (h : ∀ x ∈ hs, x.path? ≠ some path) :
    linesTo path r hs = [] := by
  have hnone : hs.filter (fun x => x.path? == some path) = [] := by
    rw [List.filter_eq_nil_iff]
    intro x hx hpath
    exact h x hx (eq_of_beq hpath)
  unfold linesTo
  rw [hnone, List.filterMap_nil]

lemma linesTo_singleton (path : Path) (r : Record) (h : Handler) :
    linesTo path r [h] = if h.path? = some path then (h.line? r).toList else [] := by
  unfold linesTo
  by_cases hpath : h.path? = some path
  · rw [if_pos hpath, List.filter_cons_of_pos (by simp [hpath]), List.filter_nil]
    cases hline : h.line? r <;> simp [hline]
  · rw [if_neg hpath, List.filter_cons_of_neg (by simp [hpath]), List.filter_nil,
      List.filterMap_nil]

/-- What a line makes of a file: it stands behind the content, if it goes to this file. -/
lemma read?_append (hread : l.files.read? path = some a) (line : String) (sink : Sink) :
    (l.append line sink).files.read? path =
      some (if Handler.path? ⟨sink, true, none⟩ = some path then a ++ line else a) := by
  cases sink with
  | console => exact hread
  | discard => exact hread
  | file stream p =>
    unfold System.append
    dsimp only
    rw [FileTree.read?_write]
    by_cases hp : path = p
    · have hsame : Handler.path? ⟨.file stream p, true, none⟩ = some path := congrArg some hp.symm
      rw [if_pos (beq_iff_eq.mpr hp), if_pos hsame, ← hp, hread, Option.getD_some]
    · have hother : Handler.path? ⟨.file stream p, true, none⟩ ≠ some path := by
        intro hsame
        exact hp (Option.some.inj hsame).symm
      rw [if_neg (by simpa using hp), if_neg hother]
      exact hread

lemma read?_handle (hread : l.files.read? path = some a) (h : Handler) :
    (System.handle r l h).files.read? path = some ((linesTo path r [h]).foldl (· ++ ·) a) := by
  rw [linesTo_singleton]
  unfold System.handle Handler.line?
  cases hline : h.format.bind (Format.render r) with
  | none =>
    dsimp only
    rw [hread]
    split <;> rfl
  | some text =>
    have happend := read?_append hread (text ++ "\n") h.sink
    have hpath : Handler.path? ⟨h.sink, true, none⟩ = h.path? := rfl
    dsimp only
    rw [happend, hpath]
    split <;> rfl

lemma read?_foldl_handle (hread : l.files.read? path = some a) (hs : List Handler) :
    (hs.foldl (System.handle r) l).files.read? path =
      some ((linesTo path r hs).foldl (· ++ ·) a) := by
  induction hs generalizing l a with
  | nil => exact hread
  | cons h rest ih =>
    have hlines : linesTo path r (h :: rest) = linesTo path r [h] ++ linesTo path r rest :=
      linesTo_append path r [h] rest
    rw [List.foldl_cons, ih (read?_handle hread h), hlines, List.foldl_append]

lemma exists_foldl_append (lines : List String) (a : String) :
    ∃ more, lines.foldl (· ++ ·) a = a ++ more := by
  induction lines generalizing a with
  | nil => exact ⟨"", (String.append_empty).symm⟩
  | cons line rest ih =>
    obtain ⟨more, hmore⟩ := ih (a ++ line)
    rw [List.foldl_cons, hmore]
    exact ⟨line ++ more, String.append_assoc ..⟩

lemma read?_after_write (hread : l.files.read? path = some a) (r : Record) :
    ((Event.write r).after l).files.read? path =
      some ((if System.accepts { l with loggers := l.loggers ++ [r.logger] } r then
        linesTo path r l.handlers else []).foldl (· ++ ·) a) := by
  have hnamed : System.files { l with loggers := l.loggers ++ [r.logger] } = l.files := rfl
  rw [← hnamed] at hread
  rw [after_write]
  dsimp only
  split
  · exact read?_foldl_handle hread l.handlers
  · exact hread

/-- A setup leaves the files as they are or makes one, where there was none. -/
lemma SetUp.files_cases {c : Config} (h : SetUp c l q) :
    q.files = l.files ∨ ∃ p, q.files = l.files.write p "" ∧ l.files.read? p = none := by
  have hfiles := h.files
  split at hfiles
  · exact .inl hfiles
  · obtain ⟨hopened, -⟩ | ⟨hopened, hnew⟩ :=
      FileTree.openToAppend_eq_ok (Path.simple_ofText _) hfiles
    · exact .inl hopened
    · exact .inr ⟨_, hopened, hnew⟩

/-- Files only grow. -/
lemma files_grow (hread : l.files.read? path = some a) (e : Event) :
    ∃ more, (e.after l).files.read? path = some (a ++ more) := by
  have hsame : ∀ q : System, q.files = l.files → ∃ more, q.files.read? path = some (a ++ more) := by
    intro q hq
    rw [hq, hread]
    exact ⟨"", by rw [String.append_empty]⟩
  cases e with
  | foreign sink format => exact hsame _ rfl
  | makeDirectory p => exact hsame l rfl
  | setVariable name value =>
    obtain ⟨env, hafter⟩ := after_setVariable name value l
    rw [hafter]
    exact hsame _ rfl
  | write r =>
    rw [read?_after_write hread]
    obtain ⟨more, hmore⟩ := exists_foldl_append _ a
    exact ⟨more, congrArg some hmore⟩
  | setup c =>
    unfold Event.after
    rw [after_setup]
    obtain ⟨f, hrun⟩ | ⟨f, n, hrun⟩ | ⟨q, hrun, hq⟩ :=
      setup_cases (c.getD (.ofEnvironment l.environment)) l
    · rw [hrun]
      exact hsame l rfl
    · rw [hrun]
      exact hsame _ rfl
    · rw [hrun]
      obtain hfiles | ⟨p, hfiles, hnew⟩ := hq.files_cases
      · exact hsame q hfiles
      · have hother : ¬ (path == p) = true := by
          intro hpath
          rw [← eq_of_beq hpath, hread] at hnew
          cases hnew
        rw [hfiles, FileTree.read?_write, if_neg hother, hread]
        exact ⟨"", by rw [String.append_empty]⟩

/-- The log file of a setup that succeeded has what it had before, or is new and empty. -/
lemma SetUp.read? {c : Config} (h : SetUp c l q) (hfile : c.file.isEmpty = false) :
    q.files.read? (Path.ofText c.file) = some ((l.files.read? (Path.ofText c.file)).getD "") := by
  have hfiles := h.files
  rw [if_neg (by simp [hfile])] at hfiles
  obtain ⟨hopened, hsome⟩ | ⟨hopened, hnone⟩ :=
    FileTree.openToAppend_eq_ok (Path.simple_ofText _) hfiles
  · obtain ⟨a, ha⟩ := Option.isSome_iff_exists.mp hsome
    rw [hopened, ha, Option.getD_some]
  · rw [hopened, FileTree.read?_write, if_pos (beq_self_eq_true _), hnone, Option.getD_none]

end Writing

section Running

variable {l : System} {path : Path} {format : String} {n : ℕ} {console : Bool}
  {front behind : List Handler} {a : String}

/-- A record of the package reaches the handlers if the level admits it. -/
lemma accepts_of_packageLogger {r : Record} (hr : PackageLogger r.logger) (l : System) :
    l.accepts r = decide (l.threshold ≤ r.level) := by
  unfold System.accepts
  rw [isBelow_of_packageLogger hr, Bool.true_and]

/-- One event: the file gets its lines. -/
lemma read?_after {e : Event} (he : e.isSetup = false)
    (hpackage : ∀ r, e = .write r → PackageLogger r.logger)
    (hl : l.handlers = front ++ Handler.ours console (some (n, path)) format ++ behind)
    (hread : l.files.read? path = some a) :
    (e.after l).files.read? path =
      some ((e.lines path l.threshold format front behind).foldl (· ++ ·) a) := by
  cases e with
  | setup c => cases he
  | foreign sink format => exact hread
  | makeDirectory p => exact hread
  | setVariable name value =>
    obtain ⟨env, hafter⟩ := after_setVariable name value l
    rw [hafter]
    exact hread
  | write r =>
    have haccepts := accepts_of_packageLogger (hpackage r rfl)
      { l with loggers := l.loggers ++ [r.logger] }
    have hthreshold : System.threshold { l with loggers := l.loggers ++ [r.logger] } =
        l.threshold := rfl
    rw [read?_after_write hread, haccepts, hthreshold, hl, linesTo_append, linesTo_append,
      linesTo_ours, Event.lines]
    simp only [decide_eq_true_eq]

/-- Until the next setup, the file gets the lines of all events behind its content, in order. -/
lemma read?_afterEvents {events : List Event} (hsetup : ∀ e ∈ events, e.isSetup = false)
    (hpackage : ∀ r, .write r ∈ events → PackageLogger r.logger)
    (hl : l.handlers = front ++ Handler.ours console (some (n, path)) format ++ behind)
    (hread : l.files.read? path = some a) :
    (afterEvents events l).files.read? path =
      some ((appended path l.threshold format front behind events).foldl (· ++ ·) a) := by
  induction events generalizing l behind a with
  | nil => exact hread
  | cons e rest ih =>
    obtain ⟨he, hrest⟩ := List.forall_mem_cons.mp hsetup
    have hsteady := steady_after he l
    have hfirst := read?_after he (fun r hr => hpackage r (hr ▸ List.mem_cons_self)) hl hread
    have hthreshold : (e.after l).threshold = l.threshold := by
      unfold System.threshold
      rw [hsteady.level]
    have hnext : (e.after l).handlers =
        front ++ Handler.ours console (some (n, path)) format ++ (behind ++ e.foreign?.toList) := by
      rw [hsteady.handlers, hl, List.append_assoc]
    have htail := ih hrest (fun r hr => hpackage r (List.mem_cons_of_mem _ hr)) hnext hfirst
    rw [appended, List.foldl_append, ← hthreshold]
    rw [← hthreshold] at htail
    exact htail

lemma lines_eq (threshold : Int) {e : Event} (hfront : ∀ h ∈ front, h.path? ≠ some path)
    (hbehind : ∀ h ∈ behind, h.path? ≠ some path) :
    e.lines path threshold format front behind = (e.line? threshold format).toList := by
  cases e with
  | write r =>
    rw [Event.lines, Event.line?, linesTo_of_elsewhere hfront, linesTo_of_elsewhere hbehind]
    split
    · cases Format.render r format <;> rfl
    · rfl
  | _ => rfl

/-- If no handler of others writes to the file, it gets one line for each record that is admitted
and can be shown. -/
lemma appended_eq (threshold : Int) {events : List Event}
    (hfront : ∀ h ∈ front, h.path? ≠ some path) (hbehind : ∀ h ∈ behind, h.path? ≠ some path)
    (hevents : ∀ h ∈ events.filterMap Event.foreign?, h.path? ≠ some path) :
    appended path threshold format front behind events =
      events.filterMap (Event.line? threshold format) := by
  induction events generalizing behind with
  | nil => rfl
  | cons e rest ih =>
    have hhere : ∀ h ∈ e.foreign?.toList, h.path? ≠ some path := by
      intro h hh
      apply hevents h
      rw [List.mem_filterMap]
      exact ⟨e, List.mem_cons_self, Option.mem_toList.mp hh⟩
    have hrest : ∀ h ∈ rest.filterMap Event.foreign?, h.path? ≠ some path := by
      intro h hh
      obtain ⟨x, hx, hxh⟩ := List.mem_filterMap.mp hh
      apply hevents h
      rw [List.mem_filterMap]
      exact ⟨x, List.mem_cons_of_mem _ hx, hxh⟩
    have hnext : ∀ h ∈ behind ++ e.foreign?.toList, h.path? ≠ some path := by
      rw [List.forall_mem_append]
      exact ⟨hbehind, hhere⟩
    rw [appended, lines_eq threshold hfront hbehind, ih hnext hrest, List.filterMap_cons]
    cases e.line? threshold format <;> rfl

/-- Between setups nothing happens to the handlers of setups and to the level. -/
lemma own_afterEvents {events : List Event} (hsetup : ∀ e ∈ events, e.isSetup = false)
    (l : System) : (afterEvents events l).own = l.own ∧ (afterEvents events l).level = l.level := by
  induction events generalizing l with
  | nil => exact ⟨rfl, rfl⟩
  | cons e rest ih =>
    obtain ⟨he, hrest⟩ := List.forall_mem_cons.mp hsetup
    have hsteady := steady_after he l
    obtain ⟨hown, hlevel⟩ := ih hrest (e.after l)
    exact ⟨hown.trans hsteady.own, hlevel.trans hsteady.level⟩

end Running

/-- Until the next setup, a config that was set up with success stays in effect, and its file gets
one line, behind its earlier content, for each record of the package that is admitted and can be
shown. -/
structure Serves (c : Config) (l q : System) (events : List Event) : Prop where
  own : (afterEvents events q).own =
    Handler.ours c.console (c.file? (l.opened + 1)) c.lineFormat
  level : (afterEvents events q).level = q.level
  file : c.file.isEmpty = false → (∀ r, .write r ∈ events → PackageLogger r.logger) →
    (afterEvents events q).files.read? (Path.ofText c.file) =
      some ((appended (Path.ofText c.file) q.threshold c.lineFormat l.others [] events).foldl
        (· ++ ·) ((l.files.read? (Path.ofText c.file)).getD ""))
  alone : (∀ h ∈ l.others ++ events.filterMap Event.foreign?, h.path? ≠ some (Path.ofText c.file)) →
    appended (Path.ofText c.file) q.threshold c.lineFormat l.others [] events =
      events.filterMap (Event.line? q.threshold c.lineFormat)

section Histories

variable {c : Config} {l q : System}

lemma SetUp.serves (h : SetUp c l q) {events : List Event}
    (hsetup : ∀ e ∈ events, e.isSetup = false) : Serves c l q events := by
  obtain ⟨hown, hlevel⟩ := own_afterEvents hsetup q
  constructor
  · exact hown.trans h.own
  · exact hlevel
  · intro hfile hpackage
    have hhandlers : q.handlers = l.others ++
        Handler.ours c.console (some (l.opened + 1, Path.ofText c.file)) c.lineFormat ++ [] := by
      rw [List.append_nil, h.handlers, Config.file?, if_neg (by simp [hfile])]
    exact read?_afterEvents hsetup hpackage hhandlers (h.read? hfile)
  · intro halone
    obtain ⟨hothers, hevents⟩ := List.forall_mem_append.mp halone
    exact appended_eq _ hothers (fun h hh => absurd hh List.not_mem_nil) hevents

lemma sound_of_untouched (h : l.Untouched) : l.Sound := by
  constructor
  · exact ⟨false, none, "", h.own⟩
  · unfold System.ownStreams
    rw [h.own, h.closed, h.opened]
    rfl
  · exact h.others

lemma sound_afterEvents (hl : l.Sound) (events : List Event) : (afterEvents events l).Sound := by
  induction events generalizing l with
  | nil => exact hl
  | cons e rest ih => exact ih (sound_after hl e)

lemma others_afterEvents (events : List Event) (l : System) :
    (afterEvents events l).others = l.others ++ events.filterMap Event.foreign? := by
  induction events generalizing l with
  | nil => exact (List.append_nil _).symm
  | cons e rest ih =>
    have hrest := ih (e.after l)
    rw [others_after, List.append_assoc] at hrest
    have hcons : (e :: rest).filterMap Event.foreign? =
        e.foreign?.toList ++ rest.filterMap Event.foreign? := by
      rw [List.filterMap_cons]
      cases e.foreign? <;> rfl
    rw [hcons]
    exact hrest

lemma files_grow_afterEvents {path : Path} {a : String} (hread : l.files.read? path = some a)
    (events : List Event) :
    ∃ more, (afterEvents events l).files.read? path = some (a ++ more) := by
  induction events generalizing l a with
  | nil => exact ⟨"", by rw [String.append_empty]; exact hread⟩
  | cons e rest ih =>
    obtain ⟨more, hfirst⟩ := files_grow hread e
    obtain ⟨further, hrest⟩ := ih hfirst
    rw [String.append_assoc] at hrest
    exact ⟨more ++ further, hrest⟩

/-- No setup closes a stream of others. -/
lemma not_mem_closed_of_sound (hl : l.Sound) {h : Handler} (hh : h ∈ l.others) {n : ℕ}
    (hn : h.stream? = some n) : n ∉ l.closed := by
  intro hclosed
  have hzero := hl.others h hh n hn
  have hmem : n ∈ List.range' 1 l.opened := by
    rw [← hl.streams]
    exact List.mem_append_left _ hclosed
  have hone := (List.mem_range'_1.mp hmem).1
  omega

/-- In every history of a logger that was not set up before: handlers of others stay in their order
and open, those of setups are of one setup at most, each stream that a setup opened is closed or
attached, and files only grow. A setup that succeeds replaces the handlers of all earlier ones by
those that its config asks for, and serves until the next one. -/
theorem setups_replace_own_handlers (hl : l.Untouched) (events : List Event) :
    let q := afterEvents events l
    q.Sound ∧ q.others = l.others ++ events.filterMap Event.foreign? ∧
      (∀ h ∈ q.others, ∀ n, h.stream? = some n → n ∉ q.closed) ∧
      (∀ path a, l.files.read? path = some a →
        ∃ more, q.files.read? path = some (a ++ more)) ∧
      ∀ c q', (Event.setup c).step.perform q = (.ok (), q') →
        SetUp (c.getD (.ofEnvironment q.environment)) q q' ∧
          ∀ later, (∀ e ∈ later, e.isSetup = false) →
            Serves (c.getD (.ofEnvironment q.environment)) q q' later := by
  intro q
  have hsound : q.Sound := sound_afterEvents (sound_of_untouched hl) events
  refine ⟨hsound, others_afterEvents events l, ?_, ?_, ?_⟩
  · intro h hh n hn
    exact not_mem_closed_of_sound hsound hh hn
  · intro path a hread
    exact files_grow_afterEvents hread events
  intro c q' hrun
  rw [after_setup] at hrun
  obtain ⟨f, hfails⟩ | ⟨f, n, hfails⟩ | ⟨q'', hok, hq⟩ :=
    setup_cases (c.getD (.ofEnvironment q.environment)) q
  · rw [hfails] at hrun
    cases hrun
  · rw [hfails] at hrun
    cases hrun
  · rw [hok] at hrun
    obtain rfl : q'' = q' := congrArg Prod.snd hrun
    exact ⟨hq, fun later hsetup => hq.serves hsetup⟩

end Histories

namespace Repeated

/-! One file is configured twice, and the setup in between fails on its level. -/

def start : System where
  files := { files := [(["a.log"], "old\n")] }

def config : Config := { level := "info", format := "%(name)s %(message)s", file := "./a.log" }

def record (level : Int) (message : String) : Event :=
  .write ⟨"zitadel_client.client", level, message⟩

def events : List Event := [
  .foreign .discard none, .setup (some { config with level := "debug" }), record 10 "first",
  .setup (some { config with level := "loud" })]

def configured : System := (Event.setup (some config)).after (afterEvents events start)

def later : List Event := [record 20 "second", record 10 "hidden", .foreign .console none]

end Repeated

open Repeated in
theorem repeated_setup_serves :
    start.Untouched ∧ (afterEvents events start).Sound ∧
      (Event.setup (some config)).step.perform (afterEvents events start) = (.ok (), configured) ∧
      SetUp config (afterEvents events start) configured ∧
      Serves config (afterEvents events start) configured later ∧
      configured.closed = [1] ∧
      (afterEvents later configured).files.read? ["a.log"] =
        some "old\nzitadel_client.client first\nzitadel_client.client second\n" := by
  have hstart : start.Untouched := ⟨rfl, rfl, rfl, fun h hh => absurd hh List.not_mem_nil⟩
  have hrun : (Event.setup (some config)).step.perform (afterEvents events start) =
      (.ok (), configured) := by decide +kernel
  obtain ⟨hsound, -, -, -, hsetup⟩ := setups_replace_own_handlers hstart events
  obtain ⟨hset, hserves⟩ := hsetup (some config) configured hrun
  exact ⟨hstart, hsound, hrun, hset, hserves later (by decide), by decide +kernel,
    by decide +kernel⟩

end SharedChannel.Logging
