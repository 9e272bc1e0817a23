import SmartDevice.Proofs.Generator.Requests

/-! # Entropy

Random bytes are used once and in order. What is asked of a generator is answered with just the
bytes that it takes, or else costs none. -/

namespace SmartDevice

/-! ## Draws -/

namespace RandomSource

variable {n : ℕ} {source left : RandomSource} {fault : RandomFault}
  {bytes : { bytes : List UInt8 // bytes.length = n }}

theorem draw_eq_error (h : source.draw n = (.error fault, left)) :
    n ≠ 0 ∧ left = { source with fault := none } ∧ fault = source.fault.getD .exhausted ∧
      (source.fault = none → source.bytes.length < n) := by
  obtain ⟨given, pending⟩ := source
  unfold draw at h
  split at h
  · exact absurd (congrArg Prod.fst h) nofun
  · next hn =>
      cases pending with
      | some pending =>
          cases h
          exact ⟨hn, rfl, rfl, nofun⟩
      | none =>
          simp only at h
          split at h
          · exact absurd (congrArg Prod.fst h) nofun
          · next hshort =>
              cases h
              exact ⟨hn, rfl, rfl, fun _ => Nat.lt_of_not_le hshort⟩

theorem fault_of_draw_eq_ok (h : source.draw n = (.ok bytes, left)) :
    left.fault = source.fault ∧ (n = 0 ∨ source.fault = none) := by
  obtain ⟨given, pending⟩ := source
  unfold draw at h
  split at h
  · next hn =>
      cases h
      exact ⟨rfl, .inl hn⟩
  · cases pending with
    | some pending => exact absurd (congrArg Prod.fst h) nofun
    | none =>
        simp only at h
        split at h
        · cases h
          exact ⟨rfl, .inr rfl⟩
        · exact absurd (congrArg Prod.fst h) nofun

theorem le_length_of_draw_eq_ok (h : source.draw n = (.ok bytes, left)) :
    n ≤ source.bytes.length := by
  rw [draw_eq_ok h, List.length_append, bytes.property]
  exact Nat.le_add_right ..

theorem eq_of_draw_zero (h : source.draw n = (.ok bytes, left)) (hn : n = 0) : left = source := by
  subst hn
  exact (congrArg Prod.snd h).symm

end RandomSource

namespace Generator

/-! ## Runs -/

/-- What happens to a caller. In between requests the source may break, the time may go on or back,
and the clock may be set or break. -/
inductive Event where
  | request (request : Request)
  | failure (fault : RandomFault)
  | time (time : ℤ)
  | clock (clock : Clock)

/-- A request and what became of it. -/
structure Entry where
  request : Request
  before : Caller
  outcome : Except GenerationError Answer
  after : Caller

namespace Caller

def enter (request : Request) (caller : Caller) : Entry :=
  match request.perform caller with
  | .ok answer after => ⟨request, caller, .ok answer, after⟩
  | .error e after => ⟨request, caller, .error e, after⟩

def meet (caller : Caller) : Event → Caller
  | .request request => (caller.enter request).after
  | .failure fault => { caller with generator := caller.generator.failNext fault }
  | .time time => { caller with generator := { caller.generator with time } }
  | .clock clock => { caller with generator := { caller.generator with clock } }

/-- The state at the end of a run. -/
def reached (events : List Event) (caller : Caller) : Caller := events.foldl meet caller

/-- The requests of a run, each with what became of it. -/
def log : List Event → Caller → List Entry
  | [], _ => []
  | .request request :: events, caller =>
    caller.enter request :: log events (caller.enter request).after
  | event :: events, caller => log events (caller.meet event)

@[simp] theorem enter_request (request : Request) (caller : Caller) :
    (caller.enter request).request = request := by
  unfold enter
  split <;> rfl

@[simp] theorem enter_before (request : Request) (caller : Caller) :
    (caller.enter request).before = caller := by
  unfold enter
  split <;> rfl

/-- What is left to draw from. -/
def entropy (caller : Caller) : List UInt8 := caller.generator.source.bytes

end Caller

/-- The places of a buffer that a request is about. -/
def Request.placesIn (buffers : ℕ → List UInt8) (buffer : ℕ) : Request → List ℕ
  | fill filled start stop =>
    if filled = buffer then places (buffers buffer).length start stop else []
  | bytes _ | key | newKey | uuid => []

namespace Entry

/-- The bytes that a request has cost. -/
def used (entry : Entry) : List UInt8 :=
  entry.before.entropy.take (entry.before.entropy.length - entry.after.entropy.length)

def need (entry : Entry) : ℕ := entry.request.need entry.before.buffers

def IsRefused (entry : Entry) (e : GenerationError) : Prop :=
  entry.request.IsRefused entry.before.generator e

/-- A request is met with the next bytes, as many as it needs, or it costs none and leaves all
buffers as they are. -/
structure Sound (entry : Entry) : Prop where
  entropy_eq : entry.before.entropy = entry.used ++ entry.after.entropy
  met_iff : (∃ answer, entry.outcome = .ok answer) ↔ (∀ e, ¬ entry.IsRefused e) ∧
    (entry.need = 0 ∨
      entry.before.generator.source.fault = none ∧ entry.need ≤ entry.before.entropy.length)
  met : ∀ answer, entry.outcome = .ok answer → entry.used.length = entry.need ∧
    entry.request.Yields entry.before entry.used answer entry.after.buffers
  unmet : ∀ e, entry.outcome = .error e →
    entry.used = [] ∧ entry.after.buffers = entry.before.buffers
  refused : ∀ e, entry.IsRefused e → entry.outcome = .error e ∧
    entry.after.generator.source = entry.before.generator.source
  failed : (∀ e, ¬ entry.IsRefused e) → entry.need ≠ 0 →
    ∀ fault, entry.before.generator.source.fault = some fault →
      entry.outcome = .error (.random fault)
  exhausted : (∀ e, ¬ entry.IsRefused e) → entry.before.entropy.length < entry.need →
    entry.before.generator.source.fault = none → entry.outcome = .error (.random .exhausted)
  untouched : entry.need = 0 → entry.after.generator.source = entry.before.generator.source
  kept : ∀ buffer, (entry.after.buffers buffer).length = (entry.before.buffers buffer).length ∧
    ∀ i ∉ entry.request.placesIn entry.before.buffers buffer,
      (entry.after.buffers buffer)[i]? = (entry.before.buffers buffer)[i]?

end Entry

/-! ## One request -/

variable {request : Request} {before other : Caller} {e : GenerationError} {answer : Answer}
  {used : List UInt8} {buffers : ℕ → List UInt8}

/-- There is never more than one reason. -/
theorem Request.IsRefused.unique {generator : Generator} {e' : GenerationError}
    (h : request.IsRefused generator e) (h' : request.IsRefused generator e') : e = e' := by
  cases h with
  | untimely h =>
      cases h' with
      | untimely h' => exact congrArg GenerationError.clock (Except.error.inj (h.symm.trans h'))
  | uncountable h =>
      cases h' with
      | uncountable => rfl
      | negative => omega
      | roomless => omega
  | negative =>
      cases h' with
      | uncountable => omega
      | negative => rfl
      | roomless => omega
  | roomless =>
      cases h' with
      | uncountable => omega
      | negative => omega
      | roomless => rfl

/-- Bytes and time decide on the answer, and on what is new in the buffers. -/
theorem Request.Yields.unique {answer' : Answer} {buffers' : ℕ → List UInt8}
    (h : request.Yields before used answer buffers)
    (h' : request.Yields other used answer' buffers')
    (hshown : before.generator.shown = other.generator.shown) :
    answer = answer' ∧ (before.buffers = other.buffers → buffers = buffers') := by
  cases h with
  | @fill buffer _ _ _ h hothers =>
      cases h' with
      | fill h' hothers' =>
          refine ⟨rfl, fun hbuffers => funext fun i => ?_⟩
          by_cases hi : i = buffer
          · subst hi
            rw [hbuffers] at h
            exact h.unique h'
          · rw [hothers i hi, hothers' i hi, hbuffers]
  | bytes =>
      cases h' with
      | bytes => exact ⟨rfl, id⟩
  | key h =>
      cases h' with
      | key h' => exact ⟨congrArg Answer.key ((Key.mk.injEq ..).mpr (h.trans h'.symm)), id⟩
  | newKey h =>
      cases h' with
      | newKey h' => exact ⟨congrArg Answer.key ((Key.mk.injEq ..).mpr (h.trans h'.symm)), id⟩
  | uuid h =>
      cases h' with
      | uuid h' =>
          obtain rfl := Except.ok.inj (h.symm.trans (hshown.trans h'))
          exact ⟨rfl, id⟩

/-- A buffer keeps its length, and what is not at the places that the request is about. -/
theorem Request.Yields.kept (h : request.Yields before used answer buffers) (buffer : ℕ) :
    (buffers buffer).length = (before.buffers buffer).length ∧
      ∀ i ∉ request.placesIn before.buffers buffer,
        (buffers buffer)[i]? = (before.buffers buffer)[i]? := by
  cases h with
  | @fill filled _ _ _ h hothers =>
      by_cases hfilled : filled = buffer
      · subst hfilled
        refine ⟨h.length_eq, fun i hi => h.elsewhere i ?_⟩
        rwa [placesIn, if_pos rfl] at hi
      · rw [hothers buffer (Ne.symm hfilled)]
        exact ⟨rfl, fun _ _ => rfl⟩
  | bytes => exact ⟨rfl, fun _ _ => rfl⟩
  | key => exact ⟨rfl, fun _ _ => rfl⟩
  | newKey => exact ⟨rfl, fun _ _ => rfl⟩
  | uuid => exact ⟨rfl, fun _ _ => rfl⟩

section Entries

variable {entry : Entry}

theorem Entry.used_eq_nil (h : entry.after.entropy = entry.before.entropy) : entry.used = [] := by
  rw [used, h, Nat.sub_self, List.take_zero]

theorem Entry.used_eq (h : entry.before.entropy = used ++ entry.after.entropy) :
    entry.used = used := by
  rw [Entry.used, h, List.length_append, Nat.add_sub_cancel, List.take_left]

theorem sound_of_refused (h : entry.IsRefused e) (houtcome : entry.outcome = .error e)
    (hsource : entry.after.generator.source = entry.before.generator.source)
    (hbuffers : entry.after.buffers = entry.before.buffers) : entry.Sound := by
  have hentropy : entry.after.entropy = entry.before.entropy := congrArg RandomSource.bytes hsource
  have hused : entry.used = [] := Entry.used_eq_nil hentropy
  exact {
    entropy_eq := by rw [hused, hentropy, List.nil_append]
    met_iff := by
      refine ⟨fun ⟨answer, hmet⟩ => ?_, fun ⟨hfree, _⟩ => absurd h (hfree e)⟩
      exact nomatch houtcome.symm.trans hmet
    met := fun answer hmet => nomatch houtcome.symm.trans hmet
    unmet := fun _ _ => ⟨hused, hbuffers⟩
    refused := fun e' h' => ⟨h.unique h' ▸ houtcome, hsource⟩
    failed := fun hfree => absurd h (hfree e)
    exhausted := fun hfree => absurd h (hfree e)
    untouched := fun _ => hsource
    kept := fun buffer => by rw [hbuffers]; exact ⟨rfl, fun _ _ => rfl⟩ }

theorem sound_of_failed {fault : RandomFault} (h : ∀ e, ¬ entry.IsRefused e)
    (hdraw : entry.before.generator.source.draw entry.need =
      (.error fault, entry.after.generator.source))
    (houtcome : entry.outcome = .error (.random fault))
    (hbuffers : entry.after.buffers = entry.before.buffers) : entry.Sound := by
  obtain ⟨hneed, hsource, hfault, hshort⟩ := RandomSource.draw_eq_error hdraw
  have hentropy : entry.after.entropy = entry.before.entropy := by
    rw [Caller.entropy, hsource, Caller.entropy]
  have hused : entry.used = [] := Entry.used_eq_nil hentropy
  exact {
    entropy_eq := by rw [hused, hentropy, List.nil_append]
    met_iff := by
      refine ⟨fun ⟨answer, hmet⟩ => ?_, ?_⟩
      · exact nomatch houtcome.symm.trans hmet
      rintro ⟨-, hnone | ⟨hsound, henough⟩⟩
      · exact absurd hnone hneed
      · exact absurd henough (Nat.not_le_of_lt (hshort hsound))
    met := fun answer hmet => nomatch houtcome.symm.trans hmet
    unmet := fun _ _ => ⟨hused, hbuffers⟩
    refused := fun e h' => absurd h' (h e)
    failed := fun _ _ pending hpending => by rw [houtcome, hfault, hpending, Option.getD_some]
    exhausted := fun _ _ hsound => by rw [houtcome, hfault, hsound, Option.getD_none]
    untouched := fun hnone => absurd hnone hneed
    kept := fun buffer => by rw [hbuffers]; exact ⟨rfl, fun _ _ => rfl⟩ }

theorem sound_of_met {used : { bytes : List UInt8 // bytes.length = entry.need }}
    (h : ∀ e, ¬ entry.IsRefused e)
    (hdraw : entry.before.generator.source.draw entry.need =
      (.ok used, entry.after.generator.source))
    (houtcome : entry.outcome = .ok answer)
    (hyields : entry.request.Yields entry.before used answer entry.after.buffers) :
    entry.Sound := by
  obtain ⟨-, hready⟩ := RandomSource.fault_of_draw_eq_ok hdraw
  have henough := RandomSource.le_length_of_draw_eq_ok hdraw
  have hentropy : entry.before.entropy = used.val ++ entry.after.entropy :=
    RandomSource.draw_eq_ok hdraw
  have hused : entry.used = used := Entry.used_eq hentropy
  exact {
    entropy_eq := by rw [hused, hentropy]
    met_iff := by
      refine ⟨fun _ => ⟨h, ?_⟩, fun _ => ⟨answer, houtcome⟩⟩
      exact hready.imp_right fun hsound => ⟨hsound, henough⟩
    met := fun answer' hmet => by
      obtain rfl := Except.ok.inj (houtcome.symm.trans hmet)
      exact ⟨hused ▸ used.property, hused ▸ hyields⟩
    unmet := fun e hunmet => nomatch houtcome.symm.trans hunmet
    refused := fun e h' => absurd h' (h e)
    failed := fun _ hneed fault hfault => by
      rcases hready with hnone | hsound
      · exact absurd hnone hneed
      · exact nomatch hfault.symm.trans hsound
    exhausted := fun _ hshort _ => absurd henough (Nat.not_le_of_lt hshort)
    untouched := RandomSource.eq_of_draw_zero hdraw
    kept := hyields.kept }

end Entries

theorem sound_enter (request : Request) (caller : Caller) : (caller.enter request).Sound := by
  have hends := ends_perform request caller
  unfold Caller.enter
  generalize request.perform caller = result at hends ⊢
  cases hends with
  | refused h => exact sound_of_refused h rfl rfl rfl
  | failed h hdraw => exact sound_of_failed h hdraw rfl rfl
  | met h hdraw hyields => exact sound_of_met h hdraw rfl hyields

/-! ## Every run -/

/-- What every event keeps holds before every request. -/
theorem forall_log (P : Caller → Prop) (Q : Entry → Prop) {events : List Event}
    (hmeet : ∀ event ∈ events, ∀ caller : Caller, P caller → P (caller.meet event))
    (henter : ∀ request caller, P caller → Q (caller.enter request)) {caller : Caller}
    (h : P caller) : ∀ entry ∈ caller.log events, Q entry := by
  induction events generalizing caller with
  | nil => exact List.forall_mem_nil _
  | cons event events ih =>
      have hmet : P (caller.meet event) := hmeet event List.mem_cons_self caller h
      have hrest := ih (fun later hlater => hmeet later (List.mem_cons_of_mem _ hlater)) hmet
      cases event with
      | request request => exact List.forall_mem_cons.mpr ⟨henter request caller h, hrest⟩
      | failure fault => exact hrest
      | time time => exact hrest
      | clock clock => exact hrest

theorem sound_log (events : List Event) (caller : Caller) :
    ∀ entry ∈ caller.log events, entry.Sound := by
  refine forall_log (fun _ => True) Entry.Sound ?_ ?_ trivial
  · exact fun _ _ _ h => h
  · exact fun request caller _ => sound_enter request caller

/-- Nothing but requests takes from the source. -/
theorem entropy_eq_append (events : List Event) (caller : Caller) :
    caller.entropy =
      (caller.log events).flatMap Entry.used ++ (caller.reached events).entropy := by
  induction events generalizing caller with
  | nil => rfl
  | cons event events ih =>
      have hrest := ih (caller.meet event)
      cases event with
      | request request =>
          have hfirst := (sound_enter request caller).entropy_eq
          rw [Caller.enter_before] at hfirst
          rw [hfirst, Caller.log, List.flatMap_cons, List.append_assoc]
          exact congrArg _ hrest
      | failure fault => exact hrest
      | time time => exact hrest
      | clock clock => exact hrest

/-! ## Two runs -/

/-- Two callers with the same clock and the same time. -/
structure Caller.SameTime (caller other : Caller) : Prop where
  clock_eq : caller.generator.clock = other.generator.clock
  time_eq : caller.generator.time = other.generator.time

theorem Caller.SameTime.shown_eq {caller other : Caller} (h : caller.SameTime other) :
    caller.generator.shown = other.generator.shown := by
  rw [shown, shown, h.clock_eq, h.time_eq]

/-- Whatever becomes of a request, it reads the clock or leaves it alone. -/
theorem timed_enter (request : Request) (caller : Caller) :
    (caller.enter request).after.generator.clock = (request.timed caller.generator).clock ∧
      (caller.enter request).after.generator.time = caller.generator.time := by
  have htime : (request.timed caller.generator).time = caller.generator.time := by
    cases request <;> rfl
  have hends := ends_perform request caller
  unfold Caller.enter
  generalize request.perform caller = result at hends ⊢
  cases hends with
  | refused => exact ⟨rfl, htime⟩
  | failed => exact ⟨rfl, htime⟩
  | met => exact ⟨rfl, htime⟩

theorem Caller.SameTime.enter {caller other : Caller} (request : Request)
    (h : caller.SameTime other) :
    (caller.enter request).after.SameTime (other.enter request).after := by
  have htimed : (request.timed caller.generator).clock = (request.timed other.generator).clock := by
    cases request with
    | uuid => simp only [Request.timed, h.clock_eq, h.time_eq]
    | _ => exact h.clock_eq
  obtain ⟨hclock, htime⟩ := timed_enter request caller
  obtain ⟨hclock', htime'⟩ := timed_enter request other
  exact ⟨by rw [hclock, hclock', htimed], by rw [htime, htime', h.time_eq]⟩

/-- Two entries for one request that are the same if they have cost the same bytes. -/
structure Entry.Agrees (entry other : Entry) : Prop where
  request_eq : entry.request = other.request
  answer_eq : ∀ answer answer', entry.outcome = .ok answer → other.outcome = .ok answer' →
    entry.used = other.used → answer = answer' ∧
      (entry.before.buffers = other.before.buffers → entry.after.buffers = other.after.buffers)

theorem agrees_enter {caller other : Caller} (request : Request) (h : caller.SameTime other) :
    (caller.enter request).Agrees (other.enter request) := by
  refine ⟨?_, fun answer answer' hanswer hanswer' hused => ?_⟩
  · rw [Caller.enter_request, Caller.enter_request]
  · obtain ⟨-, hyields⟩ := (sound_enter request caller).met answer hanswer
    obtain ⟨-, hyields'⟩ := (sound_enter request other).met answer' hanswer'
    rw [hused] at hyields
    simp only [Caller.enter_request, Caller.enter_before] at hyields hyields' ⊢
    exact hyields.unique hyields' h.shown_eq

/-- The source has no part in a run but for its bytes. -/
theorem agrees_log {caller other : Caller} (events : List Event) (h : caller.SameTime other) :
    List.Forall₂ Entry.Agrees (caller.log events) (other.log events) := by
  induction events generalizing caller other with
  | nil => exact .nil
  | cons event events ih =>
      cases event with
      | request request => exact .cons (agrees_enter request h) (ih (h.enter request))
      | failure fault => exact ih ⟨h.clock_eq, h.time_eq⟩
      | time time => exact ih ⟨h.clock_eq, rfl⟩
      | clock clock => exact ih ⟨rfl, h.time_eq⟩

/-- Random bytes are used once, in order, and only for what is answered. With another source the
answers are the same where the same bytes are used. A source that fails is reported as such, unless
its failure is none that is expected of a source. -/
theorem entropy_is_used_once (caller : Caller) (events : List Event) :
    caller.entropy =
        (caller.log events).flatMap Entry.used ++ (caller.reached events).entropy ∧
      (∀ entry ∈ caller.log events, entry.Sound) ∧
      (∀ source : RandomSource, List.Forall₂ Entry.Agrees (caller.log events)
        (Caller.log events
          { caller with generator := { caller.generator with source } })) ∧
      ∀ fault : RandomFault, (∀ kind message, fault ≠ .foreign kind message) →
        (GenerationError.random fault).message = s!"random source failed: {fault.message}" := by
  refine ⟨entropy_eq_append events caller, sound_log events caller, fun source => ?_,
    fun fault hfault => ?_⟩
  · exact agrees_log events ⟨rfl, rfl⟩
  · cases fault with
    | foreign kind message => exact absurd rfl (hfault kind message)
    | exhausted => rfl
    | system e => rfl
    | unsupported message => rfl

end Generator

end SmartDevice
