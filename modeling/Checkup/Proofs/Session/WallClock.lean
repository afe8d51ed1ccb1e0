import Checkup.Session.Time

/-!
# The wall clock

Whether a time has come is read off the clocks of the region in whose time it is given. Main
statements: the wall clock can be read as long as both the instant and what the region's clocks show
lie in the calendar; clocks that are not set back in between tell before from after as instants do,
and those of a fixed offset always do.
-/

namespace Checkup

namespace Moment

/-- A number of microseconds since the start of the year 1 lies in the calendar. -/
def InCalendar (micros : Int) : Prop :=
  0 ≤ micros ∧ micros < limit

theorem add_eq_ok {moment later : Moment} {duration : Duration} :
    (moment.add duration).mapError Fault.ofTime = .ok later ↔
      InCalendar (moment.micros + duration.micros) ∧
        later = { moment with micros := moment.micros + duration.micros } := by
  unfold add InCalendar
  by_cases within : 0 ≤ moment.micros + duration.micros ∧
      moment.micros + duration.micros < limit
  · simp only [within, and_self, if_true, true_and]
    exact ⟨fun same => (Except.ok.inj same).symm, fun same => congrArg Except.ok same.symm⟩
  · simp only [within, if_false, false_and, iff_false]
    exact nofun

end Moment

namespace Zone

/-- A time comes at an instant: the clocks of the region show less before that instant, and no less
from it on. -/
def ComesAt (zone : Zone) (time due : Int) : Prop :=
  ∀ instant, zone.shown instant < time ↔ instant < due

theorem fixed_comesAt (offset time : Int) : (fixed offset).ComesAt time (time - offset) := by
  intro instant
  unfold shown fixed
  omega

/-- Between two instants, in whatever order they come, the clocks of the region are not set back. -/
def Steady (zone : Zone) (one other : Int) : Prop :=
  ∀ earlier later, earlier < later →
    one ≤ earlier ∧ later ≤ other ∨ other ≤ earlier ∧ later ≤ one →
      zone.shown earlier < zone.shown later

/-- Clocks that are not set back between two instants show less at the earlier one. -/
theorem Steady.shown_lt_iff {zone : Zone} {instant due : Int} (steady : zone.Steady instant due) :
    zone.shown instant < zone.shown due ↔ instant < due := by
  rcases Int.lt_trichotomy instant due with before | rfl | after
  · exact iff_of_true (steady instant due before (by omega)) before
  · exact iff_of_false (Int.lt_irrefl _) (Int.lt_irrefl _)
  · have less := steady due instant after (by omega)
    omega

theorem comesAt_of_steady {zone : Zone} {due : Int} (steady : ∀ instant, zone.Steady instant due) :
    zone.ComesAt (zone.shown due) due :=
  fun instant => (steady instant).shown_lt_iff

/-- The wall clock can be read in the time of the region. -/
def Readable (zone : Zone) (instant : Int) : Prop :=
  Moment.InCalendar instant ∧ Moment.InCalendar (zone.shown instant)

end Zone

namespace Session

/-- The microseconds since the start of the year 1 in universal time. -/
def instant (session : Session) : Int :=
  Moment.start.micros + session.micros

theorem wallClock_eq_ok {session : Session} {moment : Moment} :
    session.wallClock = .ok moment ↔
      Moment.InCalendar session.instant ∧ moment = ⟨session.instant, some 0⟩ := by
  unfold wallClock
  cases counted : Duration.ofMicros session.micros with
  | ok elapsed =>
    have same : elapsed.micros = session.micros := by
      unfold Duration.ofMicros at counted
      dsimp only at counted
      split at counted
      · cases counted
      · split at counted
        · cases counted
        · cases counted
          rfl
    refine Moment.add_eq_ok.trans ?_
    rw [same]
    rfl
  | error fault =>
    -- A time that is too long for a duration is longer than the calendar.
    refine iff_of_false nofun ?_
    rintro ⟨⟨started, within⟩, _⟩
    have start : Moment.start.micros = 64029052800000000 := by decide +kernel
    have limit : Moment.limit = 315537897600000000 := by decide +kernel
    have day : Duration.dayMicros = 86400000000 := rfl
    have days : Duration.dayLimit = 999999999 := rfl
    rw [instant, start] at started within
    rw [limit] at within
    unfold Duration.ofMicros at counted
    dsimp only at counted
    rw [if_neg (by rw [day]; omega), if_neg (by rw [day, days]; omega)] at counted
    cases counted

theorem timeIn_eq_ok {session : Session} {zone : Zone} {time : Int} :
    session.timeIn zone = .ok time ↔
      zone.Readable session.instant ∧ time = zone.shown session.instant := by
  unfold timeIn Zone.Readable
  simp only [bind_eq_ok, wallClock_eq_ok, Moment.add_eq_ok, Except.ok.injEq]
  constructor
  · rintro ⟨_, ⟨within, rfl⟩, _, ⟨inside, rfl⟩, rfl⟩
    exact ⟨⟨within, inside⟩, rfl⟩
  · rintro ⟨⟨within, inside⟩, rfl⟩
    exact ⟨_, ⟨within, rfl⟩, _, ⟨inside, rfl⟩, rfl⟩

end Session

end Checkup
