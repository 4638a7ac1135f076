import AdminPanel.Page.Document
import AdminPanel.Settings.Document
import AdminPanel.Proofs.Page.Dashboard
import AdminPanel.Proofs.Page.Logs
import AdminPanel.Proofs.Time.Showing

/-!
# Stamps and instants

The server sends times as stamps, which nobody has checked; the panel shows instants, and writes them down in
two forms. On the way from one to the other nothing is lost, and a stamp that is no instant is only missing
where it would have been shown.

* **`Timestamp.Names`** — the stamps that name an instant, said with the calendar and not with its arithmetic.
* **`instant?_isSome_iff`**, **`ofInstant_of_instant?`**, **`instant?_ofInstant`** — stamps and instants are
  the same things.
* **`Written`** — what the two written forms of an instant say.
* **`ToleratesStamps`** — pages come of calls that end well, whatever stamps they bring.
-/

namespace AdminPanel

open Json (Value)
open Time

/-! ## Stamps -/

namespace Message

/-- A stamp that names an instant: its nanoseconds lie in the second, or in a leap second behind the last
second of a minute, and its day has a year between those with which the calendar of instants ends. -/
def Timestamp.Names (m : Timestamp) : Prop :=
  ((0 ≤ m.nanos.toInt ∧ m.nanos.toInt < 10 ^ 9) ∨
    (10 ^ 9 ≤ m.nanos.toInt ∧ m.nanos.toInt < 2 * 10 ^ 9 ∧ m.seconds.toInt % 60 = 59)) ∧
  ∃ d, OnDay (m.seconds.toInt / 86400) d ∧ -262143 ≤ d.year ∧ d.year ≤ 262142

variable {m : Timestamp} {t : Instant}

theorem Timestamp.names_iff :
    m.Names ↔ 0 ≤ m.nanos.toInt ∧ IsInstant m.seconds.toInt m.nanos.toInt.toNat := by
  have days : (∃ d, OnDay (m.seconds.toInt / 86400) d ∧ -262143 ≤ d.year ∧ d.year ≤ 262142) ↔
      firstSecond ≤ m.seconds.toInt ∧ m.seconds.toInt ≤ lastSecond := by
    rw [isWithin_iff_year]
    simp only [onDay_iff, exists_eq_left]
  rw [Names, days, IsInstant, nanosPerSecond]
  constructor
  · rintro ⟨nanos, within⟩
    exact ⟨by omega, within, by omega⟩
  · rintro ⟨nonneg, within, nanos⟩
    exact ⟨by omega, within⟩

/-- What a stamp and its instant have in common. -/
theorem Timestamp.instant?_eq_some_iff :
    m.instant? = some t ↔ m.Names ∧ t.seconds = m.seconds.toInt ∧ (t.nanos : Int) = m.nanos.toInt := by
  rw [names_iff, instant?, Instant.ofParts?]
  constructor
  · intro h
    split at h
    · next nonneg =>
      split at h
      · next valid =>
        cases h
        exact ⟨⟨nonneg, valid⟩, rfl, Int.toNat_of_nonneg nonneg⟩
      · cases h
    · cases h
  · rintro ⟨⟨nonneg, valid⟩, seconds, nanos⟩
    obtain ⟨s, n, _⟩ := t
    obtain rfl : s = m.seconds.toInt := seconds
    obtain rfl : n = m.nanos.toInt.toNat := Int.ofNat.inj (nanos.trans (Int.toNat_of_nonneg nonneg).symm)
    rw [if_pos nonneg, dif_pos valid]

theorem Timestamp.instant?_isSome_iff : m.instant?.isSome ↔ m.Names := by
  rw [Option.isSome_iff_exists]
  constructor
  · rintro ⟨t, h⟩
    exact (instant?_eq_some_iff.mp h).1
  · intro h
    obtain ⟨nonneg, valid⟩ := names_iff.mp h
    exact ⟨⟨_, _, valid⟩, instant?_eq_some_iff.mpr ⟨h, rfl, Int.toNat_of_nonneg nonneg⟩⟩

/-- The stamp of the instant of a stamp is that stamp. -/
theorem Timestamp.ofInstant_of_instant? (h : m.instant? = some t) : ofInstant t = m := by
  obtain ⟨-, seconds, nanos⟩ := instant?_eq_some_iff.mp h
  obtain ⟨s, n⟩ := m
  rw [ofInstant, seconds, nanos]
  exact congrArg₂ Timestamp.mk (Int64.ofInt_toInt s) (Int32.ofInt_toInt n)

/-- Every instant has a stamp. -/
theorem Timestamp.instant?_ofInstant (t : Instant) : (ofInstant t).instant? = some t := by
  obtain ⟨⟨first, last⟩, nanos⟩ := t.valid
  rw [firstSecond_eq] at first
  rw [lastSecond_eq] at last
  rw [nanosPerSecond] at nanos
  have seconds : (ofInstant t).seconds.toInt = t.seconds :=
    Int64.toInt_ofInt_of_le (by omega) (by omega)
  have short : -2 ^ 31 ≤ (t.nanos : Int) ∧ (t.nanos : Int) < 2 ^ 31 := by omega
  have nanos' : (ofInstant t).nanos.toInt = t.nanos := Int32.toInt_ofInt_of_le short.1 short.2
  refine instant?_eq_some_iff.mpr ⟨names_iff.mpr ⟨by omega, ?_⟩, seconds.symm, nanos'.symm⟩
  rw [seconds, nanos']
  exact t.valid

end Message

/-! ## Written instants -/

/-- What the two written forms of an instant say, where it lies in a second of a day: both show its date and
its time of day. Behind these the interchange form has the fraction of the second, in the fewest groups of
three digits that are exact, and the instant can be read back from it. -/
structure Written (t : Instant) (d : Date) (hour minute second : Nat) : Prop where
  date : OnDay (t.seconds / 86400) d
  clock : hour < 24 ∧ minute < 60 ∧ second ≤ 60 ∧
    ((hour * 3600 + minute * 60 + second : Nat) : Int) =
      t.seconds % 86400 + if 10 ^ 9 ≤ t.nanos then 1 else 0
  leap : second = 60 ↔ 10 ^ 9 ≤ t.nanos
  reading : Shows d hour minute second ' ' [' ', 'U', 'T', 'C'] (timeText (some t))
  interchange : ∃ width ∈ [0, 3, 6, 9], ∃ fraction, Fraction (t.nanos % 10 ^ 9) width fraction ∧
    (∀ width' ∈ [0, 3, 6, 9], ∀ cs, Fraction (t.nanos % 10 ^ 9) width' cs → width ≤ width') ∧
    Shows d hour minute second 'T' (fraction ++ ['Z']) t.rfc3339
  readBack : Instant.read t.rfc3339 = .ok t

theorem exists_written (t : Instant) : ∃ d hour minute second, Written t d hour minute second := by
  obtain ⟨hour, minute, second, counted, leap, nanos⟩ := t.clock_spec
  have small : t.clockNanos < nanosPerSecond := by
    rw [nanos]
    exact Nat.mod_lt _ (by decide)
  obtain ⟨width, one, exact', fewest⟩ := exists_fraction small
  rw [nanos] at exact' fewest
  refine ⟨t.date, t.hour, t.minute, t.clockSecond, onDay_iff.mpr rfl, ⟨hour, minute, second, counted⟩, leap,
    t.shows_toText, ⟨width, one, _, exact', fewest, ?_⟩, t.read_rfc3339⟩
  rw [← nanos]
  exact t.shows_rfc3339

namespace Page

open Message
open Rpc

/-- An instant stands in the documents of pages and settings under its name, as a text. -/
structure InDocuments (t : Instant) (text : String) : Prop where
  dashboard : ∀ server ping,
    ("server_time", Value.string text) ∈ (Data.dashboard server (some t) ping).members
  monitor : ∀ data : Monitor, data.sampledAt = some t →
    ("sampled_at", Value.string text) ∈ (Data.monitor data).members
  logs : ∀ entries truncated, ("since", Value.string text) ∈ (Data.logs ⟨t, entries, truncated⟩).members
  entry : ∀ e : LogEntry, e.time = some t →
    ∃ members, e.value = .object members ∧ ("time", Value.string text) ∈ members
  settings : ∀ s : Settings, s.lastLogin = some t →
    ∃ members, s.value = .object members ∧ ("last_login", Value.string text) ∈ members

theorem inDocuments (t : Instant) : InDocuments t t.rfc3339 where
  dashboard server ping := by simp [Data.members, Value.option, timeValue]
  monitor data sampled := by simp [Data.members, Monitor.members, sampled, Value.option, timeValue]
  logs entries truncated := by simp [Data.members, Logs.members, timeValue]
  entry e stamped := ⟨_, rfl, by simp [stamped, Value.option, timeValue]⟩
  settings s last := ⟨_, rfl, by simp [last, Value.option]⟩

/-! ## Pages -/

/-- The pages that show times of the server come of calls that end well, whatever stamps these bring; each
stamp is the instant that it names, or absent. -/
structure ToleratesStamps (l : Line) (clock : Clock) : Prop where
  dashboard : ∀ info time ping, outcomeAt l.store l.peer .getServerInfo = .ok info →
    outcomeAt l.store l.peer .timestamp = .ok time → outcomeAt l.store l.peer .ping = .ok ping →
    (runOn (load clock .dashboard) l).1 =
      .ok (.dashboard (.ofResponse info) (instantOf time.timestamp) clock.pingMs)
  monitor : ∀ response, outcomeAt l.store l.peer .getMonitoringMetrics = .ok response →
    ∃ data, (runOn (load clock .monitor) l).1 = .ok (.monitor data) ∧
      data.sampledAt = instantOf (response.metrics.bind (·.timestamp))
  logs : ∀ reply messages finish, replyAt l.store l.peer "FetchMsgs" = .ok reply →
    Streams .fetchMsgs reply messages finish → finish.bad? = none →
    ∃ logs, (runOn (load clock .logs) l).1 = .ok (.logs logs) ∧
      logs.entries.map (·.time) = (messages.take 200).map fun m => instantOf m.time

theorem toleratesStamps {address : String} {hasRoots : Bool} {l : Line}
    (dialed : Transport.new address hasRoots = .ok l.transport) (clock : Clock) :
    ToleratesStamps l clock where
  dashboard info time ping hi ht hp := by
    show (runOn (loadDashboard [] clock) l).1 = _
    rw [loadDashboard_result dialed, hi, ht, hp]
    rfl
  monitor response answered := by
    have faithful : Faithful .getMonitoringMetrics
        { includeSystemMetrics := true, includeTokioMetrics := false } :=
      ⟨by decide, by simp [declared, Method.getMonitoringMetrics], rfl⟩
    have result := (ends_unary dialed faithful).result
    rw [answered] at result
    refine ⟨(response.metrics.map Monitor.ofMetrics).getD {}, ?_, ?_⟩
    · show (runOn (View.load clock .monitor) l).1 = _
      rw [View.load, runOn_bind]
      generalize runOn (unary .getMonitoringMetrics _) l = called at result
      obtain ⟨_, left⟩ := called
      cases result
      rfl
    · cases response.metrics <;> rfl
  logs reply messages finish answered streams good := by
    have reads := reads_loadLogs dialed {} clock.now
    show ∃ logs, (runOn (View.load clock (.logs {})) l).1 = _ ∧ _
    rw [View.load, runOn_bind]
    generalize runOn (loadLogs {} clock.now) l = called at reads
    cases reads with
    | unsent h => cases answered.symm.trans h
    | answered h _ streams' =>
      cases answered.symm.trans h
      obtain ⟨rfl, rfl⟩ := streams.unique streams'
      -- the page keeps its two hundred entries before it looks at any stamp, and shows those that it keeps
      have kept : ({} : LogSettings).kept = 200 := rfl
      rw [entriesOf, good, kept]
      by_cases more : 200 < messages.length
      · rw [if_pos more]
        exact ⟨_, rfl, List.map_map ..⟩
      · rw [if_neg more, List.take_of_length_le (by omega)]
        exact ⟨_, rfl, List.map_map ..⟩

/-- **Times lose nothing** on the way from the server to the screen.

A stamp has an instant exactly if it names one, and then the instant has its seconds and nanoseconds and gives
the same stamp back; so does every instant give back itself. Every instant is written in its two forms, and in
pages and settings in the interchange form. Two instants have the same reading form exactly if they lie in the
same second, a leap second being one of its own. A stamp without an instant is absent, in text as in
documents, and the pages that would have shown it come all the same. -/
theorem times_lose_nothing :
    (∀ m : Timestamp, (m.instant?.isSome ↔ m.Names) ∧
      (∀ t, m.instant? = some t → t.seconds = m.seconds.toInt ∧ (t.nanos : Int) = m.nanos.toInt ∧
        Timestamp.ofInstant t = m) ∧
      (¬ m.Names → instantOf (some m) = none ∧ timeText (instantOf (some m)) = "-" ∧
        Value.option timeValue (instantOf (some m)) = .null)) ∧
    (∀ t : Instant, (Timestamp.ofInstant t).instant? = some t ∧
      (∃ d hour minute second, Written t d hour minute second) ∧ InDocuments t t.rfc3339) ∧
    (∀ t u : Instant, timeText (some t) = timeText (some u) ↔
      t.seconds = u.seconds ∧ (10 ^ 9 ≤ t.nanos ↔ 10 ^ 9 ≤ u.nanos)) ∧
    (∀ address hasRoots (l : Line) (clock : Clock),
      Transport.new address hasRoots = .ok l.transport → ToleratesStamps l clock) := by
  refine ⟨fun m => ⟨Timestamp.instant?_isSome_iff, fun t named => ?_, fun nameless => ?_⟩,
    fun t => ⟨Timestamp.instant?_ofInstant t, exists_written t, inDocuments t⟩,
    fun t u => Instant.toText_eq_iff, fun _ _ l clock dialed => toleratesStamps dialed clock⟩
  · obtain ⟨-, seconds, nanos⟩ := Timestamp.instant?_eq_some_iff.mp named
    exact ⟨seconds, nanos, Timestamp.ofInstant_of_instant? named⟩
  · have absent : instantOf (some m) = none := by
      rw [← Timestamp.instant?_isSome_iff, Option.not_isSome_iff_eq_none] at nameless
      exact nameless
    rw [absent]
    exact ⟨rfl, rfl, rfl⟩

/-- The leap second behind the year 2016, and a second before 1970 in the first year of the calendar: both
are named by stamps, and the first is told from the second before it. A stamp with a nanosecond less than
none is absent. -/
theorem times_lose_nothing_leap :
    let leap : Timestamp := ⟨1483228799, 1500000000⟩
    (∃ t, leap.instant? = some t ∧ Timestamp.ofInstant t = leap ∧
      timeText (some t) = "2016-12-31 23:59:60 UTC" ∧ t.rfc3339 = "2016-12-31T23:59:60.500Z") ∧
    (∃ t, Timestamp.instant? ⟨-8334601228800, 0⟩ = some t ∧ t.rfc3339 = "-262143-01-01T00:00:00Z") ∧
    instantOf (some ⟨0, -1⟩) = none := by
  intro leap
  obtain ⟨stamps, -, -⟩ := times_lose_nothing
  refine ⟨⟨⟨1483228799, 1500000000, by decide⟩, by decide +kernel, ?_, by decide +kernel, by decide +kernel⟩,
    ⟨⟨-8334601228800, 0, by decide⟩, by decide +kernel, by decide +kernel⟩, ?_⟩
  · exact ((stamps leap).2.1 _ (by decide +kernel)).2.2
  · refine ((stamps ⟨0, -1⟩).2.2 fun named => ?_).1
    exact absurd (Timestamp.names_iff.mp named).1 (by decide)

end Page

end AdminPanel
