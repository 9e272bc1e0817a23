import SmartDevice.Proofs.Generator.Entropy
import SmartDevice.Proofs.Uuid.Order

/-! # The succession of identifiers

As long as the system time does not go back, no identifier comes before an earlier one. -/

namespace SmartDevice.Generator

variable {events : List Event} {caller : Caller} {entry : Entry} {answer : Answer}

/-! ## Readings and identifiers -/

/-- An identifier with the system time, in nanoseconds, at which it was made. -/
structure Dated where
  time : ℤ
  id : Uuid
  deriving DecidableEq

namespace Entry

/-- The system time that a request has to be told. -/
def reading? (entry : Entry) : Option ℤ :=
  match entry.request with
  | .uuid => some entry.before.generator.time
  | .fill .. | .bytes _ | .key | .newKey => none

def dated? (entry : Entry) : Option Dated :=
  match entry.request, entry.outcome with
  | .uuid, .ok (.uuid id) => some ⟨entry.before.generator.time, id⟩
  | _, _ => none

end Entry

namespace Caller

def readings (events : List Event) (caller : Caller) : List ℤ :=
  (caller.log events).filterMap Entry.reading?

def dated (events : List Event) (caller : Caller) : List Dated :=
  (caller.log events).filterMap Entry.dated?

end Caller

/-- The later identifier has no earlier time. If it was not made in the same millisecond then it is
the greater one, as a number and as a text. -/
structure Dated.Precedes (earlier later : Dated) : Prop where
  timestamp_le : earlier.id.timestamp ≤ later.id.timestamp
  number_lt : earlier.time / 1000000 < later.time / 1000000 →
    earlier.id.bits.toNat < later.id.bits.toNat
  text_lt : earlier.time / 1000000 < later.time / 1000000 → earlier.id.toText < later.id.toText

/-! ## The system clock -/

/-- A clock that is not set goes on as it is. -/
theorem clock_meet {event : Event} (hset : ∀ clock, event ≠ .clock clock)
    (hclock : caller.generator.clock = .system) :
    (caller.meet event).generator.clock = .system := by
  cases event with
  | request request =>
      rw [Caller.meet, (timed_enter request caller).1]
      cases request with
      | uuid => rw [Request.timed, hclock, Clock.read]
      | _ => exact hclock
  | failure fault => exact hclock
  | time time => exact hclock
  | clock clock => exact absurd rfl (hset clock)

theorem clock_log (hclock : caller.generator.clock = .system)
    (hset : ∀ clock, .clock clock ∉ events) :
    ∀ entry ∈ caller.log events, entry.before.generator.clock = .system := by
  refine forall_log (fun caller => caller.generator.clock = .system)
    (fun entry => entry.before.generator.clock = .system) ?_ ?_ hclock
  · intro event hevent caller h
    apply clock_meet _ h
    intro clock heq
    exact hset clock (heq ▸ hevent)
  · intro request caller h
    rwa [Caller.enter_before]

theorem shown_of_system {generator : Generator} (hclock : generator.clock = .system) :
    generator.shown = Clock.milliseconds generator.time := by
  rw [shown, hclock, Clock.read]

theorem uuid_of_neg {generator : Generator} (hclock : generator.clock = .system)
    (h : generator.time < 0) :
    uuid generator = .error (.clock (.beforeEpoch generator.time.natAbs)) generator := by
  obtain ⟨source, clock, time⟩ := generator
  subst hclock
  simp only [uuid, Apply.bind_apply, readClock, Clock.read, Clock.milliseconds, if_pos h]

theorem exists_time_of_yields {before : Caller} {used : List UInt8} {buffers : ℕ → List UInt8}
    (h : Request.uuid.Yields before used answer buffers) :
    ∃ time, before.generator.shown = .ok time ∧
      answer = .uuid (Uuid.ofTime time (BitVec.ofNat 80 (Key.natOfBytes used))) := by
  cases h with
  | uuid hshown => exact ⟨_, hshown, rfl⟩

/-- From the epoch on all that an identifier takes is enough random bytes. -/
theorem uuid_of_sound (h : entry.Sound) (hrequest : entry.request = .uuid)
    (hclock : entry.before.generator.clock = .system) (htime : 0 ≤ entry.before.generator.time)
    (hfault : entry.before.generator.source.fault = none)
    (henough : 10 ≤ entry.before.entropy.length) : ∃ id, entry.outcome = .ok (.uuid id) := by
  have hfree : ∀ e, ¬ entry.IsRefused e := by
    intro e hrefused
    rw [Entry.IsRefused, hrequest] at hrefused
    cases hrefused with
    | untimely hshown =>
        rw [shown_of_system hclock, Clock.milliseconds, if_neg (Int.not_lt.mpr htime)] at hshown
        cases hshown
  have hneed : entry.need = 10 := by
    rw [Entry.need, hrequest, Request.need]
  obtain ⟨answer, hanswer⟩ := h.met_iff.mpr ⟨hfree, .inr ⟨hfault, hneed ▸ henough⟩⟩
  obtain ⟨-, hyields⟩ := h.met answer hanswer
  obtain ⟨time, -, rfl⟩ := exists_time_of_yields (hrequest ▸ hyields)
  exact ⟨_, hanswer⟩

/-! ## One identifier -/

theorem Entry.dated?_eq_some {dated : Dated} (h : entry.dated? = some dated) :
    entry.request = .uuid ∧ entry.before.generator.time = dated.time ∧
      entry.outcome = .ok (.uuid dated.id) := by
  unfold dated? at h
  split at h
  · next hrequest houtcome =>
      cases h
      exact ⟨hrequest, rfl, houtcome⟩
  · cases h

/-- The 48 bits are enough for a time that a signed word of 64 bits can tell. -/
theorem timestamp_eq {dated : Dated} (h : entry.Sound)
    (hclock : entry.before.generator.clock = .system) (hdated : entry.dated? = some dated)
    (hrange : 0 ≤ dated.time ∧ dated.time < 2 ^ 63) :
    (dated.id.timestamp : ℤ) = dated.time / 1000000 := by
  obtain ⟨hrequest, htime, houtcome⟩ := Entry.dated?_eq_some hdated
  obtain ⟨-, hyields⟩ := h.met _ houtcome
  obtain ⟨time, hshown, hid⟩ := exists_time_of_yields (hrequest ▸ hyields)
  rw [shown_of_system hclock, htime, Clock.milliseconds,
    if_neg (Int.not_lt.mpr hrange.1)] at hshown
  obtain rfl := Except.ok.inj hshown
  rw [Answer.uuid.inj hid, Uuid.timestamp_ofTime]
  omega

/-! ## All identifiers of a run -/

theorem sublist_readings (entries : List Entry) :
    ((entries.filterMap Entry.dated?).map Dated.time).Sublist
      (entries.filterMap Entry.reading?) := by
  induction entries with
  | nil => exact .slnil
  | cons entry entries ih =>
      cases hdated : entry.dated? with
      | none =>
          rw [List.filterMap_cons_none hdated]
          cases hreading : entry.reading? with
          | none => rwa [List.filterMap_cons_none hreading]
          | some time => rw [List.filterMap_cons_some hreading]; exact ih.cons time
      | some dated =>
          obtain ⟨hrequest, htime, -⟩ := Entry.dated?_eq_some hdated
          have hreading : entry.reading? = some dated.time := by
            rw [Entry.reading?, hrequest, htime]
          rw [List.filterMap_cons_some hdated, List.filterMap_cons_some hreading, List.map_cons]
          exact ih.cons_cons _

theorem Dated.precedes {earlier later : Dated} (htime : earlier.time ≤ later.time)
    (hearlier : (earlier.id.timestamp : ℤ) = earlier.time / 1000000)
    (hlater : (later.id.timestamp : ℤ) = later.time / 1000000) : earlier.Precedes later := by
  have hnumber (h : earlier.time / 1000000 < later.time / 1000000) :
      earlier.id.bits.toNat < later.id.bits.toNat := by
    apply Uuid.toNat_lt_toNat
    omega
  exact ⟨by omega, hnumber, fun h => Uuid.toText_lt_toText (hnumber h)⟩

/-- As long as the system time, which is that of the clock, does not go back and neither comes
before the epoch nor leaves the range of a word, each identifier tells the millisecond in which it
was made, and follows all earlier ones. Before the epoch none is made and no random bytes are
used. -/
theorem identifiers_follow_time (caller : Caller) (events : List Event)
    (hclock : caller.generator.clock = .system) (hset : ∀ clock, .clock clock ∉ events)
    (hrange : ∀ time ∈ caller.readings events, 0 ≤ time ∧ time < 2 ^ 63)
    (horder : (caller.readings events).Pairwise (· ≤ ·)) :
    (∀ dated ∈ caller.dated events, (dated.id.timestamp : ℤ) = dated.time / 1000000) ∧
      (caller.dated events).Pairwise Dated.Precedes ∧
      (∀ entry ∈ caller.log events, entry.request = .uuid →
        entry.before.generator.source.fault = none → 10 ≤ entry.before.entropy.length →
          ∃ id, entry.outcome = .ok (.uuid id)) ∧
      ∀ generator : Generator, generator.clock = .system → generator.time < 0 →
        uuid generator = .error (.clock (.beforeEpoch generator.time.natAbs)) generator := by
  have hsystem := clock_log hclock hset
  have hsublist := sublist_readings (caller.log events)
  have hstamp : ∀ dated ∈ caller.dated events,
      (dated.id.timestamp : ℤ) = dated.time / 1000000 := by
    intro dated hdated
    obtain ⟨entry, hentry, hentryDated⟩ := List.mem_filterMap.mp hdated
    apply timestamp_eq (sound_log events caller entry hentry) (hsystem entry hentry) hentryDated
    exact hrange _ (hsublist.subset (List.mem_map_of_mem hdated))
  refine ⟨hstamp, ?_, fun entry hentry hrequest => ?_, fun _ => uuid_of_neg⟩
  · have htimes := List.pairwise_map.mp (horder.sublist hsublist)
    exact htimes.imp_of_mem fun hearlier hlater hle =>
      Dated.precedes hle (hstamp _ hearlier) (hstamp _ hlater)
  · apply uuid_of_sound (sound_log events caller entry hentry) hrequest (hsystem entry hentry)
    refine (hrange _ (List.mem_filterMap.mpr ⟨entry, hentry, ?_⟩)).1
    rw [Entry.reading?, hrequest]

/-- A caller with enough random bytes for two identifiers. The first are the greatest that there
are, and the others the least. -/
def oneCaller : Caller where
  generator := {
    source := { bytes := List.replicate 10 0xFF ++ List.replicate 10 0 }
    time := 1999999 }

/-- The millisecond is over after the first request. -/
def twoRequests : List Event := [.request .uuid, .time 2000000, .request .uuid]

/-- The random bytes do not outweigh the one nanosecond that lies between two identifiers. -/
theorem next_millisecond_follows : ∃ earlier later,
    oneCaller.dated twoRequests = [earlier, later] ∧ earlier.id.timestamp = 1 ∧
      later.id.timestamp = 2 ∧ earlier.id.toText < later.id.toText := by
  have hreadings : oneCaller.readings twoRequests = [1999999, 2000000] := rfl
  obtain ⟨hstamp, horder, -⟩ := identifiers_follow_time oneCaller twoRequests rfl
    (by simp [twoRequests]) (by simp [hreadings]) (by simp [hreadings])
  have hdated : oneCaller.dated twoRequests =
      [⟨1999999, Uuid.ofTime 1 (BitVec.allOnes 80)⟩, ⟨2000000, Uuid.ofTime 2 0⟩] := rfl
  rw [hdated] at hstamp horder
  have hearlier := hstamp _ List.mem_cons_self
  have hlater := hstamp _ (List.mem_cons_of_mem _ List.mem_cons_self)
  have hprecedes := List.rel_of_pairwise_cons horder List.mem_cons_self
  refine ⟨_, _, hdated, ?_, ?_, hprecedes.text_lt (by decide)⟩
  · exact Int.ofNat.inj hearlier
  · exact Int.ofNat.inj hlater

end SmartDevice.Generator
