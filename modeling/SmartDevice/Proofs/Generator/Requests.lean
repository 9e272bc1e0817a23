import SmartDevice.Proofs.Generator.Draws
import Mathlib.Data.List.Intervals
import Mathlib.Logic.Function.Basic

/-! # Requests to a generator

Whatever is asked of a generator, it first finds out whether the request is to be refused, then
draws as many bytes as are needed, and only then answers. -/

namespace SmartDevice.Generator

open Apply

/-! ## Callers -/

/-- What can be asked for. A buffer is one of the caller's. -/
inductive Request where
  | fill (buffer : ℕ) (start stop : Option ℤ)
  | bytes (size : ℤ)
  | key
  /-- A key from a new generator with the same source. -/
  | newKey
  | uuid
  deriving DecidableEq

inductive Answer where
  | filled
  | bytes (bytes : List UInt8)
  | key (key : Key)
  | uuid (id : Uuid)
  deriving DecidableEq

/-- Someone who uses a generator, with buffers to be filled. -/
structure Caller where
  generator : Generator
  buffers : ℕ → List UInt8 := fun _ => []

namespace Caller

def onGenerator {α : Type} (x : EStateM GenerationError Generator α) :
    EStateM GenerationError Caller α := fun caller =>
  match x caller.generator with
  | .ok a generator => .ok a { caller with generator }
  | .error e generator => .error e { caller with generator }

end Caller

/-- A key from a new generator, of which only the source is not new. -/
def newKey : EStateM GenerationError Generator Key := fun generator =>
  match key { source := generator.source } with
  | .ok made other => .ok made { generator with source := other.source }
  | .error e other => .error e { generator with source := other.source }

/-- Meets a request. A buffer is filled where it stands. -/
def Request.perform : Request → EStateM GenerationError Caller Answer
  | fill buffer start stop => do
    let filled ← Caller.onGenerator (Generator.fill ((← get).buffers buffer) start stop)
    modify fun caller => { caller with buffers := Function.update caller.buffers buffer filled }
    return .filled
  | bytes size => .bytes <$> Caller.onGenerator (randomBytes size)
  | key => .key <$> Caller.onGenerator Generator.key
  | newKey => .key <$> Caller.onGenerator Generator.newKey
  | uuid => .uuid <$> Caller.onGenerator Generator.uuid

/-! ## Parts of a buffer -/

/-- A place in a buffer, counted from its end if it is negative. -/
def fromEnd (length : ℕ) (at_ : ℤ) : ℤ := if at_ < 0 then at_ + length else at_

/-- The places of a buffer that are not before the start and are before the stop. -/
def places (length : ℕ) (start stop : Option ℤ) : List ℕ :=
  (List.range length).filter fun i =>
    (start.all fun at_ => fromEnd length at_ ≤ i) && stop.all fun at_ => i < fromEnd length at_

/-- The first place of a part. -/
def firstPlace (length : ℕ) (start : Option ℤ) : ℕ := (start.map (place length)).getD 0

/-- The place behind a part. -/
def endPlace (length : ℕ) (start stop : Option ℤ) : ℕ :=
  max (firstPlace length start) ((stop.map (place length)).getD length)

theorem place_le_length (length : ℕ) (at_ : ℤ) : place length at_ ≤ length := by
  unfold place
  split <;> omega

theorem place_le_iff {length i : ℕ} (at_ : ℤ) (h : i < length) :
    place length at_ ≤ i ↔ fromEnd length at_ ≤ i := by
  unfold place fromEnd
  split <;> omega

theorem lt_place_iff {length i : ℕ} (at_ : ℤ) (h : i < length) :
    i < place length at_ ↔ i < fromEnd length at_ := by
  unfold place fromEnd
  split <;> omega

theorem firstPlace_le_iff {length i : ℕ} (start : Option ℤ) (h : i < length) :
    firstPlace length start ≤ i ↔ start.all (fun at_ => fromEnd length at_ ≤ i) = true := by
  cases start with
  | none => simp [firstPlace]
  | some at_ => simp [firstPlace, place_le_iff at_ h]

theorem lt_stop_iff {length i : ℕ} (stop : Option ℤ) (h : i < length) :
    i < (stop.map (place length)).getD length ↔
      stop.all (fun at_ => i < fromEnd length at_) = true := by
  cases stop with
  | none => simpa using h
  | some at_ => simp [lt_place_iff at_ h]

/-- The places of a part stand side by side. -/
theorem places_eq (length : ℕ) (start stop : Option ℤ) :
    places length start stop = List.range' (firstPlace length start)
      (endPlace length start stop - firstPlace length start) := by
  have hstop : (stop.map (place length)).getD length ≤ length := by
    cases stop with
    | none => exact le_rfl
    | some at_ => exact place_le_length length at_
  have hfilter : places length start stop = (List.range length).filter fun i =>
      decide (firstPlace length start ≤ i) &&
        decide (i < (stop.map (place length)).getD length) := by
    apply List.filter_congr
    intro i hi
    have hi := List.mem_range.mp hi
    rw [Bool.eq_iff_iff, Bool.and_eq_true, Bool.and_eq_true, decide_eq_true_eq, decide_eq_true_eq,
      firstPlace_le_iff start hi, lt_stop_iff stop hi]
  rw [hfilter, ← List.filter_filter, ← List.Ico.zero_bot, List.Ico.filter_lt, List.Ico.filter_le,
    List.Ico, Nat.zero_max, min_eq_right hstop, endPlace]
  congr 1
  omega

example : places 5 (some (-3)) (some 9) = [2, 3, 4] ∧ places 5 (some 4) (some 1) = [] := by decide

theorem endPlace_le_length (length : ℕ) (start stop : Option ℤ) :
    endPlace length start stop ≤ length := by
  apply max_le
  · cases start with
    | none => exact Nat.zero_le _
    | some at_ => exact place_le_length length at_
  · cases stop with
    | none => exact le_rfl
    | some at_ => exact place_le_length length at_

/-- A buffer with new bytes at some places, one at each in order, and the old ones elsewhere. -/
structure Filled (before : List UInt8) (places : List ℕ) (bytes after : List UInt8) : Prop where
  length_eq : after.length = before.length
  there : places.map (after[·]?) = bytes.map some
  elsewhere : ∀ i ∉ places, after[i]? = before[i]?

theorem filled_of_bounds {before bytes : List UInt8} {first last : ℕ} (hfirst : first ≤ last)
    (hlast : last ≤ before.length) (hbytes : bytes.length = last - first) :
    Filled before (List.range' first (last - first)) bytes
      (before.take first ++ bytes ++ before.drop last) := by
  have htake : (before.take first).length = first := List.length_take_of_le (hfirst.trans hlast)
  refine ⟨?_, List.ext_getElem? fun i => ?_, fun i hi => ?_⟩
  · rw [List.length_append, List.length_append, List.length_drop, htake, hbytes]
    omega
  · by_cases h : i < last - first
    · simp [h, List.getElem?_append, htake, hbytes]
    · simp [h, hbytes]
  · rw [List.mem_range'_1] at hi
    by_cases h : i < first
    · rw [List.append_assoc, List.getElem?_append_left (by omega), List.getElem?_take_of_lt h]
    · have hfront : (before.take first ++ bytes).length = last := by
        rw [List.length_append, htake, hbytes]
        omega
      rw [List.getElem?_append_right (by omega), hfront, List.getElem?_drop]
      congr 1
      omega

theorem Filled.unique {before bytes after other : List UInt8} {places : List ℕ}
    (h : Filled before places bytes after) (h' : Filled before places bytes other) :
    after = other := by
  apply List.ext_getElem?
  intro i
  by_cases hi : i ∈ places
  · exact List.map_inj_left.mp (h.there.trans h'.there.symm) i hi
  · rw [h.elsewhere i hi, h'.elsewhere i hi]

/-! ## What becomes of a request -/

/-- A request that is refused before anything is drawn. -/
inductive Request.IsRefused (generator : Generator) : Request → GenerationError → Prop
  | untimely {e : ClockError} (h : generator.shown = .error e) : IsRefused generator uuid (.clock e)
  | uncountable {size : ℤ} (h : size < -(largestCount : ℤ) - 1 ∨ (largestCount : ℤ) < size) :
    IsRefused generator (bytes size) .countTooLarge
  | negative {size : ℤ} (hsize : -(largestCount : ℤ) - 1 ≤ size) (h : size < 0) :
    IsRefused generator (bytes size) .negativeCount
  | roomless {size : ℤ} (h : (room : ℤ) ≤ size) (hsize : size ≤ (largestCount : ℤ)) :
    IsRefused generator (bytes size) .noRoom

/-- How many bytes it takes to meet a request. -/
def Request.need (buffers : ℕ → List UInt8) : Request → ℕ
  | fill buffer start stop => (places (buffers buffer).length start stop).length
  | bytes size => size.toNat
  | key | newKey => 32
  | uuid => 10

/-- What a request yields if it is met with some bytes: the answer, and the buffers from then on. -/
inductive Request.Yields (before : Caller) (used : List UInt8) :
    Request → Answer → (ℕ → List UInt8) → Prop
  | fill {buffer : ℕ} {start stop : Option ℤ} {buffers : ℕ → List UInt8}
      (h : Filled (before.buffers buffer) (places (before.buffers buffer).length start stop) used
        (buffers buffer))
      (hothers : ∀ other ≠ buffer, buffers other = before.buffers other) :
    Yields before used (fill buffer start stop) .filled buffers
  | bytes {size : ℤ} : Yields before used (bytes size) (.bytes used) before.buffers
  | key {made : Key} (h : made.bytes = used) : Yields before used key (.key made) before.buffers
  | newKey {made : Key} (h : made.bytes = used) :
    Yields before used newKey (.key made) before.buffers
  | uuid {time : ℤ} (h : before.generator.shown = .ok time) :
    Yields before used uuid (.uuid (Uuid.ofTime time (BitVec.ofNat 80 (Key.natOfBytes used))))
      before.buffers

/-- The generator with its clock read, if that is part of the request. -/
def Request.timed (generator : Generator) : Request → Generator
  | uuid => { generator with clock := (generator.clock.read generator.time).2 }
  | _ => generator

/-- A caller whose generator goes on with another source. -/
def Caller.goOn (request : Request) (source : RandomSource) (caller : Caller) : Caller :=
  { caller with generator := { request.timed caller.generator with source } }

/-- What becomes of a request: it is refused, or the source fails, or it is met with what was
drawn. -/
inductive Request.Ends (request : Request) (before : Caller) :
    EStateM.Result GenerationError Caller Answer → Prop
  | refused {e : GenerationError} (h : IsRefused before.generator request e) :
    Ends request before (.error e (before.goOn request before.generator.source))
  | failed {fault : RandomFault} {left : RandomSource}
      (h : ∀ e, ¬ IsRefused before.generator request e)
      (hdraw : before.generator.source.draw (request.need before.buffers) = (.error fault, left)) :
    Ends request before (.error (.random fault) (before.goOn request left))
  | met {used : { bytes : List UInt8 // bytes.length = request.need before.buffers }}
      {left : RandomSource} {answer : Answer} {buffers : ℕ → List UInt8}
      (h : ∀ e, ¬ IsRefused before.generator request e)
      (hdraw : before.generator.source.draw (request.need before.buffers) = (.ok used, left))
      (hyields : Yields before used request answer buffers) :
    Ends request before (.ok answer { before.goOn request left with buffers })

/-! ## Every request -/

theorem Caller.map_onGenerator_apply {α : Type} (f : α → Answer)
    (x : EStateM GenerationError Generator α) (caller : Caller) :
    (f <$> onGenerator x) caller =
      match x caller.generator with
      | .ok a generator => .ok (f a) { caller with generator }
      | .error e generator => .error e { caller with generator } := by
  rw [map_apply, onGenerator]
  cases x caller.generator <;> rfl

/-- It is enough to say how many bytes are drawn, and what is made of them. -/
theorem ends_of_draw (request : Request) (before : Caller) (n : ℕ)
    (made : { bytes : List UInt8 // bytes.length = n } → Answer × (ℕ → List UInt8))
    (hneed : request.need before.buffers = n)
    (h : ∀ e, ¬ request.IsRefused before.generator e)
    (hyields : ∀ used, request.Yields before used.val (made used).1 (made used).2)
    (hperform : request.perform before =
      match before.generator.source.draw n with
      | (.ok used, source) =>
        .ok (made used).1 { before.goOn request source with buffers := (made used).2 }
      | (.error fault, source) => .error (.random fault) (before.goOn request source)) :
    request.Ends before (request.perform before) := by
  subst hneed
  rw [hperform]
  cases hdraw : before.generator.source.draw (request.need before.buffers) with
  | mk result source =>
      cases result with
      | error fault => exact .failed h hdraw
      | ok used => exact .met h hdraw (hyields used)

theorem fill_eq (buffer : List UInt8) (start stop : Option ℤ) :
    Generator.fill buffer start stop = do
      let first := firstPlace buffer.length start
      let last := endPlace buffer.length start stop
      let bytes ← draw (last - first)
      return buffer.take first ++ bytes.val ++ buffer.drop last :=
  rfl

theorem ends_fill (buffer : ℕ) (start stop : Option ℤ) (before : Caller) :
    (Request.fill buffer start stop).Ends before
      ((Request.fill buffer start stop).perform before) := by
  let old := before.buffers buffer
  let first := firstPlace old.length start
  let last := endPlace old.length start stop
  let rewritten (bytes : List UInt8) : ℕ → List UInt8 :=
    Function.update before.buffers buffer (old.take first ++ bytes ++ old.drop last)
  apply ends_of_draw (.fill buffer start stop) before (last - first) fun used =>
    (.filled, rewritten used.val)
  · rw [Request.need, places_eq, List.length_range']
  · intro e h
    cases h
  · intro used
    apply Request.Yields.fill
    · simp only [rewritten, Function.update_self, places_eq]
      exact filled_of_bounds (le_max_left ..) (endPlace_le_length ..) used.property
    · intro other h
      exact Function.update_of_ne h ..
  · rw [Request.perform, bind_apply, get_apply]
    simp only [bind_apply, Caller.onGenerator, fill_eq, draw_apply]
    cases hdraw : before.generator.source.draw (last - first) with
    | mk result source => cases result <;> rfl

theorem ends_bytes (size : ℤ) (before : Caller) :
    (Request.bytes size).Ends before ((Request.bytes size).perform before) := by
  by_cases hword : size < -(largestCount : ℤ) - 1 ∨ (largestCount : ℤ) < size
  · rw [Request.perform, Caller.map_onGenerator_apply, randomBytes, if_pos hword]
    exact .refused (.uncountable hword)
  by_cases hsign : size < 0
  · rw [Request.perform, Caller.map_onGenerator_apply, randomBytes, if_neg hword, if_pos hsign]
    exact .refused (.negative (by omega) hsign)
  by_cases hroom : (room : ℤ) ≤ size
  · rw [Request.perform, Caller.map_onGenerator_apply, randomBytes, if_neg hword, if_neg hsign,
      if_pos hroom]
    exact .refused (.roomless hroom (by omega))
  apply ends_of_draw (.bytes size) before size.toNat
    (fun used => (.bytes used.val, before.buffers)) rfl
  · intro e h
    cases h with
    | uncountable h => exact hword h
    | negative _ h => exact hsign h
    | roomless h => exact hroom h
  · intro used
    exact .bytes
  · rw [Request.perform, Caller.map_onGenerator_apply, randomBytes, if_neg hword, if_neg hsign,
      if_neg hroom, map_apply, draw_apply]
    cases hdraw : before.generator.source.draw size.toNat with
    | mk result source => cases result <;> rfl

theorem ends_key (before : Caller) : Request.key.Ends before (Request.key.perform before) := by
  apply ends_of_draw .key before 32
    (fun used => (.key ⟨used.val, used.property⟩, before.buffers)) rfl
  · intro e h
    cases h
  · intro used
    exact .key rfl
  · rw [Request.perform, Caller.map_onGenerator_apply, Generator.key, bind_apply, draw_apply]
    cases hdraw : before.generator.source.draw 32 with
    | mk result source => cases result <;> rfl

theorem ends_newKey (before : Caller) :
    Request.newKey.Ends before (Request.newKey.perform before) := by
  apply ends_of_draw .newKey before 32
    (fun used => (.key ⟨used.val, used.property⟩, before.buffers)) rfl
  · intro e h
    cases h
  · intro used
    exact .newKey rfl
  · rw [Request.perform, Caller.map_onGenerator_apply, Generator.newKey, Generator.key, bind_apply,
      draw_apply]
    cases hdraw : before.generator.source.draw 32 with
    | mk result source => cases result <;> rfl

theorem ends_uuid (before : Caller) : Request.uuid.Ends before (Request.uuid.perform before) := by
  cases hread : before.generator.clock.read before.generator.time with
  | mk result clock =>
      have htimed : clock = (before.generator.clock.read before.generator.time).2 :=
        (congrArg Prod.snd hread).symm
      have hshown : before.generator.shown = result := congrArg Prod.fst hread
      cases result with
      | error e =>
          rw [Request.perform, Caller.map_onGenerator_apply, Generator.uuid, bind_apply, readClock]
          simp only [hread]
          rw [htimed]
          exact .refused (.untimely hshown)
      | ok time =>
          apply ends_of_draw .uuid before 10 (fun used =>
            (.uuid (Uuid.ofTime time (BitVec.ofNat 80 (Key.natOfBytes used.val))), before.buffers))
            rfl
          · intro e h
            cases h with
            | untimely h => exact nomatch hshown.symm.trans h
          · intro used
            exact .uuid hshown
          · rw [Request.perform, Caller.map_onGenerator_apply, Generator.uuid, bind_apply,
              readClock]
            simp only [hread, bind_apply, draw_apply]
            rw [htimed]
            cases hdraw : before.generator.source.draw 10 with
            | mk result source => cases result <;> rfl

theorem ends_perform (request : Request) (before : Caller) :
    request.Ends before (request.perform before) := by
  cases request with
  | fill buffer start stop => exact ends_fill buffer start stop before
  | bytes size => exact ends_bytes size before
  | key => exact ends_key before
  | newKey => exact ends_newKey before
  | uuid => exact ends_uuid before

end SmartDevice.Generator
