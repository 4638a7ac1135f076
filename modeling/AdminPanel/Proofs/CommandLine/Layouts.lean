import AdminPanel.Proofs.CommandLine.Scanning

/-!
# Ways of writing a command

A command and the options that steer it can be written in many ways: the options stand in any order, and those
that every command has may also stand in front of the command. Two dashes behind the options let the values
that have a place look like anything.

* **`Command.options`**, **`Command.places`**, **`Flags.entries`** — what there is to be written.
* **`Layout`** — the orders in which it can be written, without a reader.
* **`inner_eq_given`**, **`inner_orElse_outer`** — what is given on the two sides of the command's word makes
  up the command and its flags, however it is spread.
* **`parse_written`** — every layout is read as the command with its flags, and these replace what they name
  in any settings.
-/

namespace AdminPanel

open CommandLine

/-! ## What there is to be written -/

/-- An argument with its value, if there is one. -/
def CommandLine.Entry.optional (a : Argument) (v : Option a.Value) : List Entry :=
  (v.map (Entry.mk a)).toList

theorem CommandLine.Entry.arguments_optional (a : Argument) (v : Option a.Value) :
    ((Entry.optional a v).map Entry.argument).Sublist [a] := by
  cases v with
  | none => exact List.nil_sublist [a]
  | some v => exact List.Sublist.refl [a]

namespace CommandLine.CommandName

variable {c : CommandName} {a : Argument}

/-- No argument has two ways of being given. -/
theorem nodup_arguments (c : CommandName) : (commonOptions ++ (c.options ++ c.places)).Nodup := by
  cases c <;> decide

theorem not_own_of_common (common : a ∈ commonOptions) : a ∉ c.options ++ c.places :=
  fun own => (List.nodup_append.mp c.nodup_arguments).2.2 a common a own rfl

theorem eq_setConfig_of_file : .file ∈ c.options ++ c.places → c = .setConfig := by
  cases c <;> decide

end CommandLine.CommandName

namespace Command

variable {c : Command} {e : Entry}

def name : Command → CommandName
  | login _ => .login
  | logout => .logout
  | status => .status
  | routes => .routes
  | openPage .. => .openPage
  | setStatus .. => .setStatus
  | ban .. => .ban
  | unban _ => .unban
  | deleteAccount _ => .deleteAccount
  | announce .. => .announce
  | getConfig => .getConfig
  | setConfig _ => .setConfig

/-- The options of a command's own. No reason is written for an empty one, which stands if there is none. -/
def options : Command → List Entry
  | openPage _ json => Entry.optional .json (if json then some () else none)
  | setStatus _ reason => Entry.optional .reason (if reason = "" then none else some reason)
  | ban _ seconds reason => Entry.optional .seconds seconds ++ Entry.optional .reason reason
  | login _ | logout | status | routes | unban _ | deleteAccount _ | announce .. | getConfig
  | setConfig _ => []

/-- The values that have a place. -/
def places : Command → List Entry
  | login account => Entry.optional .account account
  | openPage path _ => [⟨.path, path⟩]
  | setStatus state _ => [⟨.status, state⟩]
  | ban userId .. | unban userId | deleteAccount userId => [⟨.userId, userId⟩]
  | announce title content => [⟨.title, title⟩, ⟨.content, content⟩]
  | setConfig file => [⟨.file, file⟩]
  | logout | status | routes | getConfig => []

/-- What is given for a command when all of it has been read. -/
def given (c : Command) : Given := Given.none.insertAll (c.options ++ c.places)

theorem ofGiven?_given (c : Command) : ofGiven? c.given c.name = some c := by
  cases c with
  | login account => cases account <;> rfl
  | openPage path json => cases json <;> rfl
  | setStatus state reason =>
    by_cases empty : reason = ""
    · subst empty
      rfl
    · have written : options (setStatus state reason) = [⟨.reason, reason⟩] := by
        simp [options, empty, Entry.optional]
      rw [given, written]
      rfl
  | ban userId seconds reason => cases seconds <;> cases reason <;> rfl
  | _ => rfl

/-- Only what a command takes counts for it. -/
theorem ofGiven?_congr {g g' : Given} {n : CommandName}
    (same : ∀ a ∈ n.options ++ n.places, g a = g' a) : ofGiven? g n = ofGiven? g' n := by
  cases n <;> simp_all [ofGiven?, CommandName.options, CommandName.places]

theorem arguments_options (c : Command) : (c.options.map Entry.argument).Sublist c.name.options := by
  cases c with
  | openPage | setStatus => exact Entry.arguments_optional _ _
  | ban =>
    rw [options, List.map_append]
    exact (Entry.arguments_optional _ _).append (Entry.arguments_optional _ _)
  | _ => exact .slnil

/-- The values that have a place fill the first places of the command. -/
theorem arguments_places (c : Command) : c.places.map Entry.argument <+: c.name.places := by
  cases c with
  | login account =>
    cases account with
    | none => exact List.nil_prefix
    | some account => exact List.prefix_rfl
  | _ => exact List.prefix_rfl

theorem arguments_own (c : Command) :
    ((c.options ++ c.places).map Entry.argument).Sublist (c.name.options ++ c.name.places) := by
  rw [List.map_append]
  exact c.arguments_options.append c.arguments_places.sublist

theorem given_eq_some_iff {a : Argument} {v : a.Value} (c : Command) :
    c.given a = some v ↔ ⟨a, v⟩ ∈ c.options ++ c.places :=
  Given.insertAll_none_eq_some_iff
    (Given.fresh_none ((List.nodup_append.mp c.name.nodup_arguments).2.1.sublist c.arguments_own))

theorem own_of_mem (h : e ∈ c.options ++ c.places) : e.argument ∈ c.name.options ++ c.name.places :=
  c.arguments_own.subset (List.mem_map_of_mem h)

/-- Of what a command holds only an empty path cannot be given. -/
theorem givable_of_mem (file : c ≠ .setConfig "") (h : e ∈ c.options ++ c.places) :
    e.Givable := by
  have own := own_of_mem h
  obtain ⟨a, v⟩ := e
  cases a with
  | logDir =>
    have common : .logDir ∈ commonOptions := by decide
    exact absurd own (CommandName.not_own_of_common common)
  | file =>
    have name := CommandName.eq_setConfig_of_file own
    cases c with
    | setConfig path =>
      cases List.mem_singleton.mp h
      rintro rfl
      exact file rfl
    | _ => cases name
  | _ => trivial

end Command

/-- What a flag does to a field: its value takes the field's place, and without one the field stays. -/
inductive Replaced {α : Type} : Option α → α → α → Prop where
  | flag (old new : α) : Replaced (some new) old new
  | stays (old : α) : Replaced none old old

theorem Replaced.getD {α : Type} (flag : Option α) (old : α) : Replaced flag old (flag.getD old) := by
  cases flag with
  | none => exact .stays old
  | some new => exact .flag old new

namespace Flags

variable {f : Flags} {e : Entry}

/-- The options that steer the command, as far as there are any. -/
def entries (f : Flags) : List Entry :=
  Entry.optional .baseAddress f.baseAddress ++ Entry.optional .storage f.backend ++
    Entry.optional .logDir f.logDir

def given (f : Flags) : Given := Given.none.insertAll f.entries

theorem ofGiven_given (f : Flags) : ofGiven f.given = f := by
  obtain ⟨address, storage, dir⟩ := f
  cases address <;> cases storage <;> cases dir <;> rfl

theorem arguments_entries (f : Flags) : (f.entries.map Entry.argument).Sublist commonOptions := by
  rw [entries, List.map_append, List.map_append]
  exact ((Entry.arguments_optional _ _).append (Entry.arguments_optional _ _)).append
    (Entry.arguments_optional _ _)

theorem given_eq_some_iff {a : Argument} {v : a.Value} (f : Flags) :
    f.given a = some v ↔ ⟨a, v⟩ ∈ f.entries :=
  Given.insertAll_none_eq_some_iff
    (Given.fresh_none (List.Nodup.sublist f.arguments_entries (by decide)))

theorem common_of_mem (h : e ∈ f.entries) : e.argument ∈ commonOptions :=
  f.arguments_entries.subset (List.mem_map_of_mem h)

theorem givable_of_mem (dir : f.logDir ≠ some "") (h : e ∈ f.entries) : e.Givable := by
  have common := common_of_mem h
  obtain ⟨a, v⟩ := e
  cases a with
  | logDir =>
    rintro rfl
    exact dir (by simpa [entries, Entry.optional] using h)
  | file => exact absurd (show .file ∈ commonOptions from common) (by decide)
  | _ => trivial

/-- Flags in two places are all the flags, if each of them stands in one of the two. -/
theorem orElse_ofGiven {inner outer : Given}
    (each : ∀ a ∈ commonOptions, (inner a <|> outer a) = f.given a) :
    (ofGiven inner).orElse (ofGiven outer) = f := by
  have address := each .baseAddress (by decide)
  have storage := each .storage (by decide)
  have logDir := each .logDir (by decide)
  refine Eq.trans ?_ f.ofGiven_given
  unfold orElse ofGiven
  rw [address, storage, logDir]

/-! ### What flags do to settings -/

/-- The settings afterwards have the flags in the place of what these name, and are else the settings
before. -/
structure Replaces (f : Flags) (before after : Settings) : Prop where
  baseAddress : Replaced f.baseAddress before.baseAddress after.baseAddress
  backend : Replaced f.backend before.backend after.backend
  logDir : Replaced (f.logDir.map some) before.logDir after.logDir
  lastAccount : after.lastAccount = before.lastAccount
  lastLogin : after.lastLogin = before.lastLogin

theorem replaces_apply (f : Flags) (s : Settings) : f.Replaces s (f.apply s) where
  baseAddress := .getD f.baseAddress s.baseAddress
  backend := .getD f.backend s.backend
  logDir := by
    unfold apply
    cases f.logDir with
    | none => exact .stays s.logDir
    | some dir => exact .flag s.logDir (some dir)
  lastAccount := rfl
  lastLogin := rfl

end Flags

namespace CommandLine

variable {a : Argument} {v : a.Value} {c : Command} {f : Flags} {e : Entry}

/-! ## Layouts -/

/-- A way of writing a command with its flags. All options stand behind the command in any order, but some
of those that every command has may stand in front of it. -/
structure Layout (c : Command) (f : Flags) where
  front : List Entry
  behind : List Entry
  options : (front ++ behind).Perm (f.entries ++ c.options)
  common : ∀ e ∈ front, e.argument ∈ commonOptions

/-- Whatever the command and the flags, they can be written. -/
instance : Inhabited (Layout c f) := ⟨[], f.entries ++ c.options, .rfl, by simp⟩

namespace Layout

/-- The words behind the command: the options, two dashes, and the values that have a place. -/
def rest (w : Layout c f) : List String :=
  w.behind.map Entry.option ++ "--" :: c.places.map Entry.text

def words (w : Layout c f) : List String :=
  w.front.map Entry.option ++ c.name.word :: w.rest

variable {w : Layout c f}

theorem perm (w : Layout c f) :
    (w.front ++ (w.behind ++ c.places)).Perm (f.entries ++ (c.options ++ c.places)) := by
  rw [← List.append_assoc, ← List.append_assoc]
  exact w.options.append_right c.places

theorem once (w : Layout c f) : ((w.front ++ (w.behind ++ c.places)).map Entry.argument).Nodup := by
  rw [(w.perm.map Entry.argument).nodup_iff, List.map_append]
  exact c.name.nodup_arguments.sublist (f.arguments_entries.append c.arguments_own)

/-- What is written is what the flags and the command hold. -/
theorem mem_iff (w : Layout c f) :
    e ∈ w.front ++ (w.behind ++ c.places) ↔ e ∈ f.entries ∨ e ∈ c.options ++ c.places := by
  rw [w.perm.mem_iff, List.mem_append]

theorem givable (file : c ≠ .setConfig "") (dir : f.logDir ≠ some "") :
    ∀ e ∈ w.front ++ (w.behind ++ c.places), e.Givable := fun _ written =>
  (w.mem_iff.mp written).elim (Flags.givable_of_mem dir) (Command.givable_of_mem file)

theorem takes_behind : ∀ e ∈ w.behind, c.name.level.takes e.argument = true := fun e written =>
  have option := List.mem_append.mp (w.options.mem_iff.mp (List.mem_append_right w.front written))
  takes_level c.name e.argument (List.mem_append.mpr (option.imp Flags.common_of_mem
    fun own => c.arguments_options.subset (List.mem_map_of_mem own)))

/-! ### What is given -/

/-- What is given behind the command. -/
def inner (w : Layout c f) : Given := Given.none.insertAll (w.behind ++ c.places)

/-- What is given in front of it. -/
def outer (w : Layout c f) : Given := Given.none.insertAll w.front

theorem fresh_front : Given.none.Fresh w.front :=
  Given.fresh_none (w.once.sublist ((List.sublist_append_left _ _).map _))

theorem fresh_rest : Given.none.Fresh (w.behind ++ c.places) :=
  Given.fresh_none (w.once.sublist ((List.sublist_append_right _ _).map _))

theorem inner_eq_some_iff : w.inner a = some v ↔ ⟨a, v⟩ ∈ w.behind ++ c.places :=
  Given.insertAll_none_eq_some_iff fresh_rest

theorem outer_eq_some_iff : w.outer a = some v ↔ ⟨a, v⟩ ∈ w.front :=
  Given.insertAll_none_eq_some_iff fresh_front

/-- What is the command's own is given behind it. -/
theorem inner_eq_given (own : a ∈ c.name.options ++ c.name.places) : w.inner a = c.given a := by
  have notCommon : a ∉ commonOptions := fun common => CommandName.not_own_of_common common own
  refine Option.ext fun v => ?_
  rw [inner_eq_some_iff, c.given_eq_some_iff]
  constructor
  · intro written
    exact (w.mem_iff.mp (List.mem_append_right w.front written)).resolve_left
      (notCommon ∘ Flags.common_of_mem)
  · intro held
    exact (List.mem_append.mp (w.mem_iff.mpr (.inr held))).resolve_left (notCommon ∘ w.common _)

/-- Flags are given on one of the two sides. -/
theorem inner_orElse_outer (common : a ∈ commonOptions) : (w.inner a <|> w.outer a) = f.given a := by
  have given (v : a.Value) : w.inner a = some v ∨ w.outer a = some v ↔ f.given a = some v := by
    rw [inner_eq_some_iff, outer_eq_some_iff, f.given_eq_some_iff, or_comm, ← List.mem_append, w.mem_iff]
    exact or_iff_left (CommandName.not_own_of_common common ∘ Command.own_of_mem)
  cases value : w.inner a with
  | none =>
    refine Option.ext fun v => ?_
    rw [← given v, value]
    simp
  | some v => exact ((given v).mp (.inl value)).symm

/-! ### Reading -/

/-- **The words behind a command are read as the command.** -/
theorem readBehind_rest (file : c ≠ .setConfig "") (dir : f.logDir ≠ some "") :
    readBehind c.name w.rest = .ok ⟨c, .ofGiven w.inner⟩ := by
  have givable := List.forall_mem_append.mp (List.forall_mem_append.mp (w.givable file dir)).2
  obtain ⟨fresh, freshPlaces⟩ := fresh_rest.append
  obtain ⟨more, places⟩ := c.arguments_places
  obtain ⟨t, run, settled⟩ := Scan.run_places (l := c.name.level) givable.2 freshPlaces
    (s := ⟨_, .none, c.places.map Entry.argument ++ more, true⟩) rfl
  have whole : (Scan.start c.name.level).run c.name.level w.rest = .ok (t, none) := by
    rw [places] at run
    rw [← run, ← Scan.run_dashes]
    exact Scan.run_options takes_behind givable.1 fresh _ _
  have own : Command.ofGiven? w.inner c.name = some c :=
    (Command.ofGiven?_congr fun _ own => inner_eq_given own).trans (Command.ofGiven?_given c)
  rw [← Given.insertAll_append, ← inner] at settled
  unfold readBehind
  simp only [whole, settled, own, Bind.bind, Except.bind]

/-- **A written command is read as the command with its flags.** -/
theorem parse_words (file : c ≠ .setConfig "") (dir : f.logDir ≠ some "") :
    parse w.words = .ok ⟨c, f⟩ := by
  have givable := (List.forall_mem_append.mp (w.givable file dir)).1
  let scanned : Scan := ⟨w.outer, .none, [], false⟩
  have verb : scanned.verb? .top c.name.word = some (.command c.name) := Verb.ofWord?_word c.name
  have stops : scanned.run .top (c.name.word :: w.rest) = .ok (scanned, some (.command c.name, w.rest)) := by
    rw [Scan.run, verb]
  have front : (Scan.start .top).run .top w.words = .ok (scanned, some (.command c.name, w.rest)) :=
    (Scan.run_options (fun e written => takes_top _ (w.common e written)) givable fresh_front _ _).trans
      stops
  have settled : scanned.settle = .ok scanned := rfl
  have flags : (Flags.ofGiven w.inner).orElse (Flags.ofGiven scanned.given) = f :=
    Flags.orElse_ofGiven fun _ common => inner_orElse_outer common
  unfold parse
  simp only [front, readBehind_rest file dir, settled, flags, Bind.bind, Except.bind, pure, Except.pure]

end Layout

/-- **Every way of writing a command is read as the command with its flags**, whatever the texts look like:
only a path must not be empty. The flags then replace what they name in any settings, and leave the rest. -/
theorem parse_written (w : Layout c f) (file : c ≠ .setConfig "") (dir : f.logDir ≠ some "") :
    parse w.words = .ok ⟨c, f⟩ ∧ ∀ s, f.Replaces s (f.apply s) :=
  ⟨w.parse_words file dir, f.replaces_apply⟩

/-- A ban with flags, whose texts look like options. -/
def Layout.dashed :
    Layout (.ban 0xffffffffffffffff (some 0) (some "--=x")) ⟨some "-a", some .memory, some "--"⟩ where
  front := [⟨.logDir, "--"⟩]
  behind := [⟨.seconds, (0 : UInt64)⟩, ⟨.reason, "--=x"⟩, ⟨.baseAddress, "-a"⟩, ⟨.storage, Backend.memory⟩]
  options := @List.perm_append_comm Entry [_, _, _] [⟨.baseAddress, "-a"⟩, ⟨.storage, Backend.memory⟩]
  common := by simp [commonOptions]

theorem parse_written_dashed :
    Layout.dashed.words =
        ["--log-dir=--", "ban", "--seconds=0", "--reason=--=x", "--base-address=-a", "--storage=memory",
          "--", "18446744073709551615"] ∧
      parse Layout.dashed.words =
        .ok ⟨.ban 0xffffffffffffffff (some 0) (some "--=x"), ⟨some "-a", some .memory, some "--"⟩⟩ ∧
      ∀ s, Flags.Replaces ⟨some "-a", some .memory, some "--"⟩ s
        (Flags.apply ⟨some "-a", some .memory, some "--"⟩ s) :=
  ⟨by decide +kernel, parse_written Layout.dashed nofun (by decide)⟩

end CommandLine

end AdminPanel
