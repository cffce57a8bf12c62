import SharedChannel.Proofs.AppendedFiles
import SharedChannel.Proofs.PackageLoggers

/-!
# The handlers of the package logger

A process sets logging up again and again, others add handlers of their own, and records are
written. `setup_inversion` says what a setup can do: one that succeeds puts the handlers that its
config asks for in the place of those of earlier setups. In every history the handlers of others
stay, and each stream that a setup opened is closed or belongs to a handler that is attached
(`System.Sound`).
-/

namespace SharedChannel.Logging

/-- A stream that no setup opened has no number of its own. -/
def Sink.unnumbered : Sink → Sink
  | .file _ path => .file 0 path
  | sink => sink

/-- What may happen to the package logger. -/
inductive Event where
  /-- Without a config the environment decides. -/
  | setup (c : Option Config)
  /-- Somebody else adds a handler. -/
  | foreign (sink : Sink) (format : Option String)
  | write (r : Record)
  | setVariable (name value : String)
  | makeDirectory (p : Path)

namespace Event

def step : Event → Step System Unit
  | setup c => do Logging.setup (c.getD (.ofEnvironment (← get).environment))
  | foreign sink format =>
    modify fun l => { l with handlers := l.handlers ++ [⟨sink.unnumbered, false, format⟩] }
  | write r => Logging.write r
  | setVariable name value => Logging.setVariable name value
  | makeDirectory p => modify fun l => { l with files := l.files.makeDirectory p }

example : (foreign .discard none).step = addForeign := rfl

/-- The system after an event, whether it succeeded or not. -/
def after (e : Event) (l : System) : System := (e.step.perform l).2

def isSetup : Event → Bool
  | setup _ => true
  | _ => false

/-- The handler that somebody else adds. -/
def foreign? : Event → Option Handler
  | foreign sink format => some ⟨sink.unnumbered, false, format⟩
  | _ => none

end Event

def afterEvents (events : List Event) (l : System) : System :=
  events.foldl (fun l e => e.after l) l

/-- Handlers that setups made. -/
def System.own (l : System) : List Handler := l.handlers.filter (·.own)

/-- Handlers that others added. -/
def System.others (l : System) : List Handler := l.handlers.filter (!·.own)

def System.ownStreams (l : System) : List ℕ := l.own.filterMap (·.stream?)

/-- The handlers of one setup: the console before the file. -/
def Handler.ours (console : Bool) (file : Option (ℕ × Path)) (format : String) : List Handler :=
  ((if console then [Sink.console] else []) ++ file.toList.map fun f => Sink.file f.1 f.2).map
    (⟨·, true, some format⟩)

namespace Config

/-- The format of the lines. -/
def lineFormat (c : Config) : String := if c.format.isEmpty then Format.plain else c.format

/-- The stream and the file that a config asks for, under the next number. -/
def file? (c : Config) (number : ℕ) : Option (ℕ × Path) :=
  if c.file.isEmpty then none else some (number, Path.ofText c.file)

/-- The number of the level that a config names. -/
def levelNumber? (c : Config) : Option Int := namedLevels.lookup (Text.upperCase c.level)

/-- What is wrong with a config of known level: its format, or else its file. -/
inductive Fault (c : Config) (files : FileTree String) : Failure → Prop where
  | format (h : Format.isValid c.lineFormat = false) : Fault c files (.invalidFormat c.lineFormat)
  | file {f : Failure} (hformat : Format.isValid c.lineFormat = true)
      (hfile : c.file.isEmpty = false)
      (h : files.openToAppend (Path.ofText c.file) "" = .error f) : Fault c files f

end Config

/-- What a setup with the config has made of `l`. -/
structure SetUp (c : Config) (l q : System) : Prop where
  level : namedLevels.lookup (Text.upperCase c.level) = some q.level
  format : Format.isValid c.lineFormat = true
  handlers : q.handlers = l.others ++ Handler.ours c.console (c.file? (l.opened + 1)) c.lineFormat
  closed : q.closed = l.closed ++ l.ownStreams
  opened : q.opened = l.opened + (c.file? (l.opened + 1)).toList.length
  files : if c.file.isEmpty then q.files = l.files
    else l.files.openToAppend (Path.ofText c.file) "" = .ok q.files

/-- The handlers of setups are those of one setup. Streams are numbered in the order of opening, and
all but those of attached handlers are closed. The streams of others are not among them. -/
structure System.Sound (l : System) : Prop where
  own : ∃ console file format, l.own = Handler.ours console file format
  streams : l.closed ++ l.ownStreams = List.range' 1 l.opened
  others : ∀ h ∈ l.others, ∀ n, h.stream? = some n → n = 0

/-- Logging was not set up yet. -/
structure System.Untouched (l : System) : Prop where
  own : l.own = []
  opened : l.opened = 0
  closed : l.closed = []
  others : ∀ h ∈ l.others, ∀ n, h.stream? = some n → n = 0

section SettingUp

variable {c : Config} {l q : System}

/-- The system without the handlers of setups. -/
def System.dropped (l : System) : System :=
  { l with handlers := l.others, closed := l.closed ++ l.ownStreams }

lemma perform_setLevel (name : String) (l : System) :
    (setLevel name).perform l =
      match namedLevels.lookup (Text.upperCase name) with
      | some n => (.ok (), { l with level := n })
      | none => (.error (.unknownLevel (Text.upperCase name)), l) := by
  unfold setLevel
  dsimp only
  cases namedLevels.lookup (Text.upperCase name) <;> rfl

lemma perform_checkFormat (c : Config) (l : System) :
    (checkFormat c.format).perform l =
      if Format.isValid c.lineFormat then (.ok c.lineFormat, l)
      else (.error (.invalidFormat c.lineFormat), l) := by
  unfold checkFormat
  dsimp only
  change (if Format.isValid c.lineFormat then (return c.lineFormat : Step System String)
    else throw (.invalidFormat c.lineFormat)).perform l = _
  split <;> rfl

lemma perform_openFile (name : String) (l : System) :
    (openFile name).perform l =
      match l.files.openToAppend (Path.ofText name) "" with
      | .error f => (.error f, l)
      | .ok files => (.ok (.file (l.opened + 1) (Path.ofText name)),
          { l with files, opened := l.opened + 1 }) := by
  unfold openFile
  simp only [Step.perform_bind, Step.perform_get, Step.perform_ofExcept]
  cases l.files.openToAppend (Path.ofText name) "" <;> rfl

/-- A setup step by step: the level, the handlers of earlier setups, the format, and the file. -/
lemma perform_setup (c : Config) (l : System) :
    (setup c).perform l =
      match namedLevels.lookup (Text.upperCase c.level) with
      | none => (.error (.unknownLevel (Text.upperCase c.level)), l)
      | some n =>
        if Format.isValid c.lineFormat then
          if c.file.isEmpty then
            (.ok (), { l.dropped with
              level := n
              handlers := l.others ++ Handler.ours c.console none c.lineFormat })
          else
            match l.files.openToAppend (Path.ofText c.file) "" with
            | .error f => (.error f, { l.dropped with level := n })
            | .ok files => (.ok (), { l.dropped with
                level := n
                files
                opened := l.opened + 1
                handlers := l.others ++ Handler.ours c.console
                  (some (l.opened + 1, Path.ofText c.file)) c.lineFormat })
        else (.error (.invalidFormat c.lineFormat), { l.dropped with level := n }) := by
  unfold setup
  rw [Step.perform_bind, perform_setLevel]
  cases namedLevels.lookup (Text.upperCase c.level) with
  | none => rfl
  | some n =>
    have hdrop : dropOwn.perform { l with level := n } = (.ok (), { l.dropped with level := n }) :=
      rfl
    dsimp only
    rw [Step.perform_bind, hdrop]
    dsimp only
    rw [Step.perform_bind, perform_checkFormat]
    by_cases hformat : Format.isValid c.lineFormat = true
    · rw [if_pos hformat, if_pos hformat]
      by_cases hfile : c.file.isEmpty = true
      · rw [if_pos hfile]
        dsimp only
        rw [if_pos hfile]
        rfl
      · rw [if_neg hfile]
        have hopen := perform_openFile c.file { l.dropped with level := n }
        change _ = match l.files.openToAppend (Path.ofText c.file) "" with
          | .error f => _
          | .ok files => _ at hopen
        dsimp only
        rw [if_neg hfile, Step.perform_bind, hopen]
        cases l.files.openToAppend (Path.ofText c.file) "" <;> rfl
    · rw [if_neg hformat, if_neg hformat]

/-- All ways in which a setup ends: it is refused for its level, it fails for its format or its file
when the handlers of setups are gone, or it succeeds. -/
lemma setup_inversion (c : Config) (l : System) :
    (c.levelNumber? = none ∧
        (setup c).perform l = (.error (.unknownLevel (Text.upperCase c.level)), l)) ∨
      (∃ f n, c.levelNumber? = some n ∧ c.Fault l.files f ∧
        (setup c).perform l = (.error f, { l.dropped with level := n })) ∨
      ∃ q, (setup c).perform l = (.ok (), q) ∧ SetUp c l q := by
  rw [perform_setup]
  cases hlevel : namedLevels.lookup (Text.upperCase c.level) with
  | none => exact .inl ⟨hlevel, rfl⟩
  | some n =>
    right
    dsimp only
    by_cases hformat : Format.isValid c.lineFormat = true
    · rw [if_pos hformat]
      by_cases hfile : c.file.isEmpty = true
      · have hnone : c.file? (l.opened + 1) = none := if_pos hfile
        rw [if_pos hfile]
        right
        refine ⟨_, rfl, hlevel, hformat, ?_, rfl, ?_, ?_⟩
        · rw [hnone]
        · rw [hnone]
          rfl
        · rw [if_pos hfile]
          rfl
      · have hsome : c.file? (l.opened + 1) = some (l.opened + 1, Path.ofText c.file) :=
          if_neg hfile
        rw [if_neg hfile]
        cases hopen : l.files.openToAppend (Path.ofText c.file) "" with
        | error f =>
          exact .inl ⟨f, n, hlevel, .file hformat (Bool.eq_false_iff.mpr hfile) hopen, rfl⟩
        | ok files =>
          right
          refine ⟨_, rfl, hlevel, hformat, ?_, rfl, ?_, ?_⟩
          · rw [hsome]
          · rw [hsome]
            rfl
          · rw [if_neg hfile]
            exact hopen
    · rw [if_neg hformat]
      exact .inl ⟨_, n, hlevel, .format (Bool.eq_false_iff.mpr hformat), rfl⟩

/-- What a setup can leave behind, whatever its failure. -/
lemma setup_cases (c : Config) (l : System) :
    (∃ f, (setup c).perform l = (.error f, l)) ∨
      (∃ f n, (setup c).perform l = (.error f, { l.dropped with level := n })) ∨
      ∃ q, (setup c).perform l = (.ok (), q) ∧ SetUp c l q := by
  obtain ⟨-, hrun⟩ | ⟨f, n, -, -, hrun⟩ | hok := setup_inversion c l
  · exact .inl ⟨_, hrun⟩
  · exact .inr (.inl ⟨f, n, hrun⟩)
  · exact .inr (.inr hok)

end SettingUp

/-- What an event that is no setup leaves as it is, and the handler that it may add. -/
structure Steady (e : Event) (l q : System) : Prop where
  handlers : q.handlers = l.handlers ++ e.foreign?.toList
  level : q.level = l.level
  opened : q.opened = l.opened
  closed : q.closed = l.closed

section Handling

variable {e : Event} {l q : System} {path : Path} {r : Record}

lemma foreign?_own {h : Handler} (hh : e.foreign? = some h) : h.own = false := by
  cases e with
  | foreign sink format => rw [← Option.some.inj hh]
  | _ => cases hh

lemma foreign?_stream? {h : Handler} (hh : e.foreign? = some h) {n : ℕ}
    (hn : h.stream? = some n) : n = 0 := by
  cases e with
  | foreign sink format =>
    rw [← Option.some.inj hh] at hn
    cases sink with
    | file stream path => exact (Option.some.inj hn).symm
    | _ => cases hn
  | _ => cases hh

lemma Steady.own (h : Steady e l q) : q.own = l.own := by
  unfold System.own
  rw [h.handlers, List.filter_append]
  cases hforeign : e.foreign? with
  | none => rw [Option.toList_none, List.filter_nil, List.append_nil]
  | some x => simp [foreign?_own hforeign]

lemma Steady.others (h : Steady e l q) : q.others = l.others ++ e.foreign?.toList := by
  unfold System.others
  rw [h.handlers, List.filter_append]
  cases hforeign : e.foreign? with
  | none => rfl
  | some x => simp [foreign?_own hforeign]

/-- Handlers write to the console and to files, and change nothing else. -/
lemma exists_foldl_handle (r : Record) (hs : List Handler) (l : System) :
    ∃ files console, hs.foldl (System.handle r) l = { l with files, console } := by
  induction hs generalizing l with
  | nil => exact ⟨l.files, l.console, rfl⟩
  | cons h rest ih =>
    have hfirst : ∃ files console, System.handle r l h = { l with files, console } := by
      unfold System.handle
      split
      · cases h.sink <;> exact ⟨_, _, rfl⟩
      · exact ⟨_, _, rfl⟩
    obtain ⟨files, console, hfirst⟩ := hfirst
    obtain ⟨files', console', hrest⟩ := ih { l with files, console }
    rw [List.foldl_cons, hfirst, hrest]
    exact ⟨files', console', rfl⟩

lemma after_write (r : Record) (l : System) :
    (Event.write r).after l =
      let l' := { l with loggers := l.loggers ++ [r.logger] }
      if l'.accepts r then l'.handlers.foldl (System.handle r) l' else l' := rfl

lemma after_setVariable (name value : String) (l : System) :
    ∃ e, (Event.setVariable name value).after l = { l with environment := e } := by
  unfold Event.after Event.step Logging.setVariable
  rw [Step.perform_bind, Step.perform_get]
  dsimp only
  rw [Step.perform_bind, Step.perform_ofExcept]
  cases l.environment.assign name value with
  | error f => exact ⟨l.environment, rfl⟩
  | ok e => exact ⟨e, rfl⟩

/-- Between setups the level, the streams and the handlers stay, apart from those that others add.
-/
lemma steady_after (he : e.isSetup = false) (l : System) : Steady e l (e.after l) := by
  cases e with
  | setup c => cases he
  | foreign sink format => exact ⟨rfl, rfl, rfl, rfl⟩
  | write r =>
    rw [after_write]
    dsimp only
    split
    · obtain ⟨files, console, hrun⟩ := exists_foldl_handle r l.handlers
        { l with loggers := l.loggers ++ [r.logger] }
      rw [hrun]
      exact ⟨(List.append_nil _).symm, rfl, rfl, rfl⟩
    · exact ⟨(List.append_nil _).symm, rfl, rfl, rfl⟩
  | setVariable name value =>
    obtain ⟨env, hafter⟩ := after_setVariable name value l
    rw [hafter]
    exact ⟨(List.append_nil _).symm, rfl, rfl, rfl⟩
  | makeDirectory p => exact ⟨(List.append_nil _).symm, rfl, rfl, rfl⟩

lemma after_setup (c : Option Config) (l : System) :
    (Event.setup c).step.perform l =
      (setup (c.getD (.ofEnvironment l.environment))).perform l := by
  unfold Event.step
  rw [Step.perform_bind, Step.perform_get]

/-- All that an event can do: it is steady, or it is a setup, which is refused, fails on the way or
succeeds. -/
lemma after_cases (e : Event) (l : System) :
    Steady e l (e.after l) ∨
      e.foreign? = none ∧ ((∃ n, e.after l = { l.dropped with level := n }) ∨
        ∃ c, SetUp c l (e.after l)) := by
  cases he : e.isSetup with
  | false => exact .inl (steady_after he l)
  | true =>
    cases e with
    | setup c =>
      unfold Event.after
      rw [after_setup]
      obtain ⟨f, hrun⟩ | ⟨f, n, hrun⟩ | ⟨q, hrun, hq⟩ :=
        setup_cases (c.getD (.ofEnvironment l.environment)) l
      · left
        rw [hrun]
        exact ⟨(List.append_nil _).symm, rfl, rfl, rfl⟩
      · right
        rw [hrun]
        exact ⟨rfl, .inl ⟨n, rfl⟩⟩
      · right
        rw [hrun]
        exact ⟨rfl, .inr ⟨_, hq⟩⟩
    | _ => cases he

end Handling

section Streams

variable {l q : System} {c : Config}

lemma filter_own_ours (console : Bool) (file : Option (ℕ × Path)) (format : String) :
    (Handler.ours console file format).filter (·.own) = Handler.ours console file format := by
  rw [List.filter_eq_self]
  intro h hh
  obtain ⟨sink, -, rfl⟩ := List.mem_map.mp hh
  rfl

lemma filter_not_own_ours (console : Bool) (file : Option (ℕ × Path)) (format : String) :
    (Handler.ours console file format).filter (!·.own) = [] := by
  rw [List.filter_eq_nil_iff]
  intro h hh
  obtain ⟨sink, -, rfl⟩ := List.mem_map.mp hh
  exact Bool.false_ne_true

lemma filterMap_stream?_ours (console : Bool) (file : Option (ℕ × Path)) (format : String) :
    (Handler.ours console file format).filterMap (·.stream?) = file.toList.map Prod.fst := by
  cases console <;> cases file <;> rfl

lemma filter_own_others (l : System) : l.others.filter (·.own) = [] := by
  rw [List.filter_eq_nil_iff]
  intro h hh
  have hown := (List.mem_filter.mp hh).2
  simpa using hown

lemma filter_not_own_others (l : System) : l.others.filter (!·.own) = l.others := by
  unfold System.others
  rw [List.filter_filter]
  simp

lemma SetUp.own (h : SetUp c l q) :
    q.own = Handler.ours c.console (c.file? (l.opened + 1)) c.lineFormat := by
  unfold System.own
  rw [h.handlers, List.filter_append, filter_own_others, List.nil_append, filter_own_ours]

lemma SetUp.others (h : SetUp c l q) : q.others = l.others := by
  have hfilter : q.others = q.handlers.filter (!·.own) := rfl
  rw [hfilter, h.handlers, List.filter_append, filter_not_own_others, filter_not_own_ours,
    List.append_nil]

lemma others_dropped (l : System) : l.dropped.others = l.others := filter_not_own_others l

lemma own_dropped (l : System) : l.dropped.own = [] := filter_own_others l

/-- Every event leaves the handlers of others where they are. -/
lemma others_after (e : Event) (l : System) :
    (e.after l).others = l.others ++ e.foreign?.toList := by
  obtain hsteady | ⟨hnone, hsetup⟩ := after_cases e l
  · exact hsteady.others
  · rw [hnone, Option.toList_none, List.append_nil]
    obtain ⟨n, hdropped⟩ | ⟨c, hset⟩ := hsetup
    · rw [hdropped]
      exact others_dropped l
    · exact hset.others

lemma sound_of_steady {e : Event} (hl : l.Sound) (h : Steady e l q) : q.Sound := by
  constructor
  · rw [h.own]
    exact hl.own
  · unfold System.ownStreams
    rw [h.own, h.closed, h.opened]
    exact hl.streams
  · intro x hx n hn
    rw [h.others] at hx
    obtain hx | hx := List.mem_append.mp hx
    · exact hl.others x hx n hn
    · exact foreign?_stream? (Option.mem_toList.mp hx) hn

lemma sound_dropped (hl : l.Sound) (n : Int) : System.Sound { l.dropped with level := n } := by
  have hown : System.own { l.dropped with level := n } = [] := own_dropped l
  constructor
  · exact ⟨false, none, "", hown⟩
  · unfold System.ownStreams
    rw [hown, List.filterMap_nil, List.append_nil]
    exact hl.streams
  · intro h hh
    exact hl.others h ((others_dropped l) ▸ hh)

lemma SetUp.sound (hl : l.Sound) (h : SetUp c l q) : q.Sound := by
  constructor
  · exact ⟨_, _, _, h.own⟩
  · unfold System.ownStreams
    rw [h.own, h.closed, h.opened, filterMap_stream?_ours, hl.streams]
    unfold Config.file?
    split
    · rw [Option.toList_none, List.map_nil, List.append_nil]
      rfl
    · rw [Option.toList_some, List.length_singleton, List.range'_concat]
      simp [Nat.add_comm]
  · rw [h.others]
    exact hl.others

lemma sound_after (hl : l.Sound) (e : Event) : (e.after l).Sound := by
  obtain hsteady | ⟨-, ⟨n, hdropped⟩ | ⟨c, hset⟩⟩ := after_cases e l
  · exact sound_of_steady hl hsteady
  · rw [hdropped]
    exact sound_dropped hl n
  · exact hset.sound hl

end Streams

end SharedChannel.Logging
