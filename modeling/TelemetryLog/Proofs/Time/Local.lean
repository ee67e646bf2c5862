import TelemetryLog.Proofs.Time.Calendar
import TelemetryLog.Time.Local

/-! Local time. Each microsecond of the calendar is shown by one wall time. A stamp has a local time
exactly when both clocks show the instant and are less than a day apart; that is then the only stamp
of the instant with the offset of the zone, and it is its own local time. -/

namespace TelemetryLog

namespace WallTime

/-- Whether the calendar has a wall time that shows so many microseconds. -/
def Shows (microseconds : Int) : Prop :=
  ∃ wall : WallTime, wall.IsValid ∧ wall.microseconds = microseconds

theorem secondOfDay_lt {w : WallTime} (h : w.IsValid) : w.secondOfDay < 86400 := by
  obtain ⟨-, hHour, hMinute, hSecond, -⟩ := h
  unfold secondOfDay
  omega

/-- Wall times of the calendar that show the same are the same. -/
theorem eq_of_microseconds_eq {w w' : WallTime} (h : w.IsValid) (h' : w'.IsValid)
    (hEq : w.microseconds = w'.microseconds) : w = w' := by
  have hBelow := secondOfDay_lt h
  have hBelow' := secondOfDay_lt h'
  have hMicro := h.2.2.2.2
  have hMicro' := h'.2.2.2.2
  unfold microseconds perDay perSecond at hEq
  have hDay : w.date.dayNumber = w'.date.dayNumber := by omega
  have hSeconds : w.secondOfDay = w'.secondOfDay := by omega
  have hMicros : w.microsecond = w'.microsecond := by omega
  have hDate : w.date = w'.date := by
    rw [← Date.ofDayNumber_dayNumber h.1, ← Date.ofDayNumber_dayNumber h'.1, hDay]
  obtain ⟨-, -, hMinute, hSecond, -⟩ := h
  obtain ⟨-, -, hMinute', hSecond', -⟩ := h'
  unfold secondOfDay at hSeconds
  have hClock : w.hour = w'.hour ∧ w.minute = w'.minute ∧ w.second = w'.second := by omega
  cases w
  cases w'
  rw [mk.injEq]
  exact ⟨hDate, hClock.1, hClock.2.1, hClock.2.2, hMicros⟩

theorem isValid_ofParts {day second microsecond : Nat} (hFirst : Date.firstDay ≤ day)
    (hLast : day ≤ Date.lastDay) (hSecond : second < 86400) (hMicro : microsecond < 1000000) :
    (ofParts day second microsecond).IsValid := by
  refine ⟨Date.isValid_ofDayNumber hFirst hLast, ?_, ?_, ?_, hMicro⟩
  all_goals
    unfold ofParts
    dsimp only
    omega

theorem microseconds_ofParts (day second microsecond : Nat) :
    (ofParts day second microsecond).microseconds =
      day * perDay + second * perSecond + microsecond := by
  have hSeconds : 3600 * (second / 3600) + 60 * (second / 60 % 60) + second % 60 = second := by
    omega
  simp only [microseconds, secondOfDay, ofParts, Date.dayNumber_ofDayNumber, hSeconds]

theorem ofMicroseconds?_eq_some {t : Int} {w : WallTime} :
    ofMicroseconds? t = some w ↔ w.IsValid ∧ w.microseconds = t := by
  -- What is found is valid and shows `t`; there is no other such wall time.
  have hFound {found : WallTime} (h : ofMicroseconds? t = some found) :
      found.IsValid ∧ found.microseconds = t := by
    obtain ⟨⟨hFirst, hLast⟩, hParts⟩ := Option.ite_none_right_eq_some.mp h
    cases hParts
    unfold perDay perSecond at hFirst hLast ⊢
    refine ⟨isValid_ofParts (by omega) (by omega) (by omega) (by omega), ?_⟩
    rw [microseconds_ofParts]
    unfold perDay perSecond
    omega
  refine ⟨hFound, ?_⟩
  rintro ⟨hValid, rfl⟩
  have hBelow := secondOfDay_lt hValid
  have hMicro := hValid.2.2.2.2
  obtain ⟨hFirst, hLast⟩ := Date.dayNumber_bounds hValid.1
  have hDay : w.microseconds / perDay = w.date.dayNumber := by
    unfold microseconds perDay perSecond
    omega
  cases hRead : ofMicroseconds? w.microseconds with
  | none =>
    rw [ofMicroseconds?] at hRead
    simp only [hDay, ite_eq_right_iff, reduceCtorEq, imp_false] at hRead
    omega
  | some found =>
    obtain ⟨hFoundValid, hShows⟩ := hFound hRead
    rw [eq_of_microseconds_eq hFoundValid hValid hShows]

end WallTime

/-- The microseconds that a zone is ahead of universal time at an instant. -/
def Zone.aheadAt (zone : Zone) (instant : Int) : Int :=
  zone.offsetAt (instant / perSecond) * perSecond

/-- A zone is less than a day away from universal time at an instant, either way. -/
def Zone.IsNearAt (zone : Zone) (instant : Int) : Prop :=
  (zone.aheadAt instant).natAbs < perDay

namespace Stamp

open WallTime (Shows)

variable {zone : Zone} {s r : Stamp}

theorem wallAt_eq_ok {t : Int} {w : WallTime} :
    wallAt t = .ok w ↔ w.IsValid ∧ w.microseconds = t := by
  rw [← WallTime.ofMicroseconds?_eq_some, wallAt]
  cases WallTime.ofMicroseconds? t <;> simp

theorem wallAt_of_not_shows {t : Int} (h : ¬ Shows t) : wallAt t = .error .beyondCalendar := by
  cases hWall : wallAt t with
  | ok w => exact absurd ⟨w, wallAt_eq_ok.mp hWall⟩ h
  | error fault =>
    rw [wallAt] at hWall
    split at hWall <;> cases hWall
    rfl

/-- What becomes of a stamp: the calendar does not show it, the zone is too far away, the calendar
does not show its local time, or it has one. -/
theorem toLocal_cases (zone : Zone) (s : Stamp) :
    toLocal zone s = .error .beyondCalendar ∧ ¬ Shows s.instant ∨
      toLocal zone s = .error (.wideOffset (zone.aheadAt s.instant)) ∧ Shows s.instant ∧
        ¬ zone.IsNearAt s.instant ∨
      toLocal zone s = .error .beyondCalendar ∧ zone.IsNearAt s.instant ∧
        ¬ Shows (s.instant + zone.aheadAt s.instant) ∨
      ∃ wall : WallTime, toLocal zone s = .ok ⟨wall, some (zone.aheadAt s.instant)⟩ ∧
        Shows s.instant ∧ zone.IsNearAt s.instant ∧
        wall.IsValid ∧ wall.microseconds = s.instant + zone.aheadAt s.instant := by
  obtain ⟨ahead, hAhead⟩ : ∃ ahead, zone.aheadAt s.instant = ahead := ⟨_, rfl⟩
  rw [Zone.IsNearAt, hAhead]
  by_cases hInstant : Shows s.instant
  · have hLocal : toLocal zone s = if perDay ≤ ahead.natAbs then .error (.wideOffset ahead)
        else (wallAt (s.instant + ahead)).map fun wall => ⟨wall, some ahead⟩ := by
      obtain ⟨universal, hUniversal⟩ := hInstant
      rw [toLocal, wallAt_eq_ok.mpr hUniversal, ← hAhead]
      show (if perDay ≤ ((zone.aheadAt s.instant).natAbs : Int) then
        .error (.wideOffset (zone.aheadAt s.instant))
        else wallAt (s.instant + zone.aheadAt s.instant) >>= fun wall =>
          .ok (Stamp.mk wall (some (zone.aheadAt s.instant)))) = _
      cases wallAt (s.instant + zone.aheadAt s.instant) <;> rfl
    rw [hLocal]
    by_cases hWide : perDay ≤ ahead.natAbs
    · exact .inr (.inl ⟨if_pos hWide, hInstant, Int.not_lt.mpr hWide⟩)
    · rw [if_neg hWide]
      have hNear := Int.not_le.mp hWide
      by_cases hWall : Shows (s.instant + ahead)
      · obtain ⟨wall, hWall⟩ := hWall
        rw [wallAt_eq_ok.mpr hWall]
        exact .inr (.inr (.inr ⟨wall, rfl, hInstant, hNear, hWall⟩))
      · rw [wallAt_of_not_shows hWall]
        exact .inr (.inr (.inl ⟨rfl, hNear, hWall⟩))
  · rw [toLocal, wallAt_of_not_shows hInstant]
    exact .inl ⟨rfl, hInstant⟩

theorem toLocal_eq_beyondCalendar :
    toLocal zone s = .error .beyondCalendar ↔ ¬ Shows s.instant ∨
      zone.IsNearAt s.instant ∧ ¬ Shows (s.instant + zone.aheadAt s.instant) := by
  rcases toLocal_cases zone s with ⟨hLocal, hNone⟩ | ⟨hLocal, hShows, hFar⟩ |
    ⟨hLocal, hNear, hNone⟩ | ⟨wall, hLocal, hShows, hNear, hWall⟩
  · simp [hLocal, hNone]
  · simp [hLocal, hShows, hFar]
  · simp [hLocal, hNear, hNone]
  · have hLocalShows : Shows (s.instant + zone.aheadAt s.instant) := ⟨wall, hWall⟩
    simp [hLocal, hShows, hLocalShows]

theorem toLocal_eq_wideOffset {offset : Int} :
    toLocal zone s = .error (.wideOffset offset) ↔
      Shows s.instant ∧ ¬ zone.IsNearAt s.instant ∧ offset = zone.aheadAt s.instant := by
  rcases toLocal_cases zone s with ⟨hLocal, hNone⟩ | ⟨hLocal, hShows, hFar⟩ |
    ⟨hLocal, hNear, -⟩ | ⟨wall, hLocal, -, hNear, -⟩
  · simp [hLocal, hNone]
  · simp [hLocal, hShows, hFar, eq_comm]
  · simp [hLocal, hNear]
  · simp [hLocal, hNear]

theorem instant_eq_iff {ahead t : Int} (hOffset : r.offset = some ahead) :
    r.instant = t ↔ r.wall.microseconds = t + ahead := by
  rw [instant, hOffset, Option.getD_some]
  omega

/-- The local time of a stamp is the stamp of the same instant with the offset of the zone. -/
theorem toLocal_eq_ok :
    toLocal zone s = .ok r ↔ Shows s.instant ∧ zone.IsNearAt s.instant ∧ r.wall.IsValid ∧
      r.offset = some (zone.aheadAt s.instant) ∧ r.instant = s.instant := by
  constructor
  · intro h
    rcases toLocal_cases zone s with ⟨hLocal, -⟩ | ⟨hLocal, -⟩ | ⟨hLocal, -⟩ |
      ⟨wall, hLocal, hShows, hNear, hValid, hWall⟩
    · cases h.symm.trans hLocal
    · cases h.symm.trans hLocal
    · cases h.symm.trans hLocal
    · cases h.symm.trans hLocal
      exact ⟨hShows, hNear, hValid, rfl, (instant_eq_iff rfl).mpr hWall⟩
  · rintro ⟨hShows, hNear, hValid, hOffset, hInstant⟩
    have hMicros := (instant_eq_iff hOffset).mp hInstant
    rcases toLocal_cases zone s with ⟨-, hNone⟩ | ⟨-, -, hFar⟩ | ⟨-, -, hNone⟩ |
      ⟨wall, hLocal, -, -, hWallValid, hWall⟩
    · exact absurd hShows hNone
    · exact absurd hNear hFar
    · exact absurd ⟨_, hValid, hMicros⟩ hNone
    · have hSame := WallTime.eq_of_microseconds_eq hWallValid hValid (hWall.trans hMicros.symm)
      rw [hLocal, hSame, ← hOffset]

theorem exists_toLocal_eq_ok :
    (∃ r, toLocal zone s = .ok r) ↔ Shows s.instant ∧ zone.IsNearAt s.instant ∧
      Shows (s.instant + zone.aheadAt s.instant) := by
  constructor
  · rintro ⟨r, h⟩
    obtain ⟨hShows, hNear, hValid, hOffset, hInstant⟩ := toLocal_eq_ok.mp h
    exact ⟨hShows, hNear, r.wall, hValid, (instant_eq_iff hOffset).mp hInstant⟩
  · rintro ⟨hShows, hNear, wall, hValid, hWall⟩
    refine ⟨⟨wall, _⟩, toLocal_eq_ok.mpr ⟨hShows, hNear, hValid, rfl, ?_⟩⟩
    exact (instant_eq_iff rfl).mpr hWall

theorem toLocal_congr {s' : Stamp} (h : s.instant = s'.instant) :
    toLocal zone s = toLocal zone s' := by
  rw [toLocal, toLocal, h]

end Stamp

end TelemetryLog
