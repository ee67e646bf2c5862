import TelemetryLog.Dispatch
import TelemetryLog.Proofs.Time.Local

/-! Local times at a dispatch. A stamp is turned into the stamp of the same instant by the clock of
the zone, or there is none; a data message whose first sample has none is refused, and nothing is
stored for it. -/

namespace TelemetryLog

open WallTime (Shows)

namespace Dispatcher

variable {zone : Zone} {d : Dispatcher} {tree : Tree} {identity : Identity} {payload : Payload}

/-- A message whose first sample has no local time takes its number and leaves the files alone. -/
theorem dispatch_noLocalTime [Host] (topic : Value) {batch : Batch} {fault : LocalFault}
    (hKind : identity.kind = .data) (hBatch : Batch.ofPayload payload = .ok batch)
    (hTime : batch.first.time.toLocal zone = .error fault) :
    let done := d.dispatch zone tree identity topic (some payload)
    done.tree = tree ∧ done.dispatcher = d.count ∧ done.result = .ok (.decodeFailed identity
      ("JSON Parse Error (Data): data.0.time: " ++ fault.message) payload.display) := by
  have hRow : Row.ofBatch zone batch d.count.counter.value = .error fault := by
    rw [Row.ofBatch, hTime]
    rfl
  have hDispatch : d.dispatch zone tree identity topic (some payload) =
      d.count.readData zone tree identity payload := by
    simp only [dispatch, hKind]
  have hWords : "JSON Parse Error (Data): data.0.time: " =
      "JSON Parse Error (" ++ RecordKind.label .data ++ "): " ++ "data.0.time: " := rfl
  intro done
  rw [show done = _ from hDispatch, readData, hBatch]
  dsimp only
  rw [hRow, hWords, String.append_assoc]
  exact ⟨rfl, rfl, rfl⟩

end Dispatcher

namespace Stamp

/-- When and what the local time of a stamp is. There is none if the calendar does not show the
instant or its local time, or if the zone is a day or more away; a data message that begins with
such a stamp is refused and no file is touched. Otherwise it is the one stamp of the same instant
with the offset that the zone has then, and it is its own local time. -/
theorem toLocal_keeps_instant [Host] (zone : Zone) (s : Stamp) :
    let ahead := zone.aheadAt s.instant
    (s.toLocal zone = .error .beyondCalendar ↔
      ¬ Shows s.instant ∨ zone.IsNearAt s.instant ∧ ¬ Shows (s.instant + ahead)) ∧
    (∀ offset, s.toLocal zone = .error (.wideOffset offset) ↔
      Shows s.instant ∧ ¬ zone.IsNearAt s.instant ∧ offset = ahead) ∧
    ((∃ r, s.toLocal zone = .ok r) ↔
      Shows s.instant ∧ zone.IsNearAt s.instant ∧ Shows (s.instant + ahead)) ∧
    (∀ r, s.toLocal zone = .ok r ↔ Shows s.instant ∧ zone.IsNearAt s.instant ∧ r.wall.IsValid ∧
      r.offset = some ahead ∧ r.instant = s.instant) ∧
    (∀ r, s.toLocal zone = .ok r → r.toLocal zone = .ok r) ∧
    ∀ fault, s.toLocal zone = .error fault → ∀ (d : Dispatcher) (tree : Tree)
      (identity : Identity) (topic : Value) (payload : Payload) (batch : Batch),
      identity.kind = .data → Batch.ofPayload payload = .ok batch → batch.first.time = s →
      let done := d.dispatch zone tree identity topic (some payload)
      done.tree = tree ∧ done.result = .ok (.decodeFailed identity
        ("JSON Parse Error (Data): data.0.time: " ++ fault.message) payload.display) := by
  intro ahead
  refine ⟨toLocal_eq_beyondCalendar, fun offset => toLocal_eq_wideOffset, exists_toLocal_eq_ok,
    fun r => toLocal_eq_ok, ?_, ?_⟩
  · intro r h
    have hInstant := (toLocal_eq_ok.mp h).2.2.2.2
    rwa [toLocal_congr hInstant]
  · rintro fault hFault d tree identity topic payload batch hKind hBatch rfl
    obtain ⟨hTree, -, hResult⟩ :=
      @Dispatcher.dispatch_noLocalTime zone d tree identity payload _ topic batch fault hKind hBatch
        hFault
    exact ⟨hTree, hResult⟩

attribute [local instance] Host.usual

/-- The zone of New York, in summer: the first stamp is in daylight time, and the second one lies
before the calendar there. -/
theorem toLocal_keeps_instant_newYork :
    let zone := Zone.ofText "EST5EDT,M3.2.0,M11.1.0"
    let summer : Stamp := ⟨⟨⟨2024, 7, 1⟩, 2, 30, 0, 5⟩, none⟩
    let localSummer : Stamp := ⟨⟨⟨2024, 6, 30⟩, 22, 30, 0, 5⟩, some (-14400000000)⟩
    let first : Stamp := ⟨.midnight ⟨1, 1, 1⟩, some 0⟩
    let payload : Payload := .text ("\x7b\"head\":\x7b\"fields\":[]\x7d,\"data\":[" ++
      "\x7b\"time\":\"0001-01-01T00:00Z\",\"vals\":[]\x7d]\x7d")
    let identity : Identity := ⟨"m", "s", "t", .data⟩
    let done := (Dispatcher.new (.new LogWriter.usualPath) .zero "").dispatch zone .empty identity
      (.text "cs/v1/data/m/s/t") (some payload)
    summer.toLocal zone = .ok localSummer ∧ localSummer.toLocal zone = .ok localSummer ∧
      first.toLocal zone = .error .beyondCalendar ∧ done.tree = .empty ∧
      done.result = .ok (.decodeFailed identity
        "JSON Parse Error (Data): data.0.time: date value out of range" payload.display) := by
  intro zone summer localSummer first payload identity done
  obtain ⟨-, -, -, -, hAgain, -⟩ := toLocal_keeps_instant zone summer
  obtain ⟨-, -, -, -, -, hRefused⟩ := toLocal_keeps_instant zone first
  have hSummer : summer.toLocal zone = .ok localSummer := by decide +kernel
  have hFirst : first.toLocal zone = .error .beyondCalendar := by decide +kernel
  have hTime : (Batch.ofPayload payload).toOption.map (·.first.time) = some first := by
    decide +kernel
  cases hRead : Batch.ofPayload payload with
  | error fault =>
    rw [hRead] at hTime
    cases hTime
  | ok batch =>
    rw [hRead] at hTime
    obtain ⟨hTree, hResult⟩ := hRefused _ hFirst (.new (.new LogWriter.usualPath) .zero "") .empty
      identity (.text "cs/v1/data/m/s/t") payload batch rfl hRead (Option.some_inj.mp hTime)
    exact ⟨hSummer, hAgain _ hSummer, hFirst, hTree, hResult⟩

/-- A zone can be a whole day ahead, but no offset of a stamp can: there is no local time then,
although the calendar shows both the instant and the time by the clock of the zone. -/
theorem toLocal_wholeDayAhead :
    let zone := Zone.ofText "AAA-24"
    let s : Stamp := ⟨.midnight ⟨2024, 1, 1⟩, none⟩
    Shows s.instant ∧ Shows (s.instant + zone.aheadAt s.instant) ∧
      ¬ ∃ r, s.toLocal zone = .ok r := by
  intro zone s
  have hWide : s.toLocal zone = .error (.wideOffset 86400000000) := by decide +kernel
  refine ⟨⟨.midnight ⟨2024, 1, 1⟩, by decide +kernel, by decide +kernel⟩,
    ⟨.midnight ⟨2024, 1, 2⟩, by decide +kernel, by decide +kernel⟩, ?_⟩
  rintro ⟨r, h⟩
  cases hWide.symm.trans h

end Stamp

end TelemetryLog
