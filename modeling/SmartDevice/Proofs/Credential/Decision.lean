import SmartDevice.Http.Service
import SmartDevice.Proofs.Action.Apply
import SmartDevice.Proofs.Key.Spelling

/-! # What becomes of a credential

Access is granted to the spellings of the device's own key. A spelling of another key is told apart
from a text that spells no key at all. -/

namespace SmartDevice

namespace Key

/-! ## Comparing keys -/

theorem or_foldl_eq_zero_iff (start : UInt8) (bytes : List UInt8) :
    bytes.foldl (· ||| ·) start = 0 ↔ start = 0 ∧ ∀ b ∈ bytes, b = 0 := by
  induction bytes generalizing start with
  | nil => simp
  | cons b rest ih => simp [ih, UInt8.or_eq_zero_iff, and_assoc]

theorem zipWith_xor_eq_zero_iff {a b : List UInt8} (h : a.length = b.length) :
    (∀ x ∈ List.zipWith (· ^^^ ·) a b, x = 0) ↔ a = b := by
  induction a generalizing b with
  | nil => cases b <;> simp_all
  | cons x xs ih =>
      cases b with
      | nil => simp at h
      | cons y ys =>
          rw [List.zipWith_cons_cons, List.forall_mem_cons, UInt8.xor_eq_zero_iff, List.cons.injEq,
            ih (by simpa using h)]

/-- Looking at every pair of bytes tells equal keys from others. -/
theorem sameBytes_iff (a b : Key) : a.sameBytes b = true ↔ a = b := by
  unfold sameBytes
  have hlength : a.bytes.length = b.bytes.length := a.length_eq.trans b.length_eq.symm
  rw [beq_iff_eq, or_foldl_eq_zero_iff, zipWith_xor_eq_zero_iff hlength]
  cases a
  cases b
  simp

end Key

namespace Credential

/-! ## Decisions -/

theorem check_some_of_spelled {key other : Key} {text : List Char} (h : other.Spelled text) :
    check key (some text) = if key = other then .ok other else .error .wrongKey := by
  have hother := (Key.ofText_eq_ok_iff text other).mpr h
  simp only [check, hother, Key.sameBytes_iff]

theorem check_some_of_not_spelled (key : Key) {text : List Char}
    (h : ∀ other : Key, ¬ other.Spelled text) :
    ∃ cause, check key (some text) = .error (.malformed cause) := by
  cases hread : Key.ofText text with
  | error cause => exact ⟨cause, by simp [check, hread]⟩
  | ok other => exact absurd ((Key.ofText_eq_ok_iff text other).mp hread) (h other)

theorem check_eq_ok_iff (key presented : Key) (given : Option (List Char)) :
    check key given = .ok presented ↔
      presented = key ∧ ∃ text, given = some text ∧ key.Spelled text := by
  constructor
  · intro h
    cases given with
    | none => simp [check] at h
    | some text =>
        by_cases hspelled : ∃ other : Key, other.Spelled text
        · obtain ⟨other, hother⟩ := hspelled
          rw [check_some_of_spelled hother] at h
          split at h
          · next heq =>
              subst heq
              exact ⟨(Except.ok.inj h).symm, text, rfl, hother⟩
          · simp at h
        · obtain ⟨cause, hcause⟩ := check_some_of_not_spelled key (not_exists.mp hspelled)
          simp [hcause] at h
  · rintro ⟨rfl, text, rfl, hspelled⟩
    rw [check_some_of_spelled hspelled, if_pos rfl]

theorem check_eq_wrongKey_iff (key : Key) (given : Option (List Char)) :
    check key given = .error .wrongKey ↔
      ∃ text other, given = some text ∧ other ≠ key ∧ Key.Spelled other text := by
  constructor
  · intro h
    cases given with
    | none => simp [check] at h
    | some text =>
        by_cases hspelled : ∃ other : Key, other.Spelled text
        · obtain ⟨other, hother⟩ := hspelled
          rw [check_some_of_spelled hother] at h
          split at h
          · simp at h
          · next hne => exact ⟨text, other, rfl, Ne.symm hne, hother⟩
        · obtain ⟨cause, hcause⟩ := check_some_of_not_spelled key (not_exists.mp hspelled)
          simp [hcause] at h
  · rintro ⟨text, other, rfl, hne, hother⟩
    rw [check_some_of_spelled hother, if_neg hne.symm]

theorem check_eq_malformed_iff (key : Key) (given : Option (List Char)) :
    (∃ cause, check key given = .error (.malformed cause)) ↔
      ∃ text, given = some text ∧ ∀ other : Key, ¬ other.Spelled text := by
  constructor
  · rintro ⟨cause, h⟩
    cases given with
    | none => simp [check] at h
    | some text =>
        refine ⟨text, rfl, fun other hother => ?_⟩
        rw [check_some_of_spelled hother] at h
        split at h <;> simp at h
  · rintro ⟨text, rfl, h⟩
    exact check_some_of_not_spelled key h

theorem check_eq_missing_iff (key : Key) (given : Option (List Char)) :
    check key given = .error .missing ↔ given = none := by
  cases given with
  | none => simp [check]
  | some text =>
      by_cases hspelled : ∃ other : Key, other.Spelled text
      · obtain ⟨other, hother⟩ := hspelled
        rw [check_some_of_spelled hother]
        split <;> simp
      · obtain ⟨cause, hcause⟩ := check_some_of_not_spelled key (not_exists.mp hspelled)
        simp [hcause]

theorem isAccepted_iff (key : Key) (given : Option (List Char)) :
    isAccepted key given = true ↔ ∃ text, given = some text ∧ key.Spelled text := by
  unfold isAccepted
  constructor
  · intro h
    cases hcheck : check key given with
    | error e => simp [hcheck, Except.isOk, Except.toBool] at h
    | ok presented => exact ((check_eq_ok_iff key presented given).mp hcheck).2
  · intro h
    rw [(check_eq_ok_iff key key given).mpr ⟨rfl, h⟩]
    rfl

end Credential

namespace Http

/-- The credential that a request carries. -/
def Request.credential (request : Request) : Option (List Char) :=
  (request.header? CredentialError.headerName).map String.toList

theorem authorize_apply (request : Request) (running : Running) :
    authorize request running =
      match running.device.check request.credential with
      | .ok _ => .ok ⟨⟩ running
      | .error e => .error (.credential e) running := by
  unfold authorize
  simp only [Apply.bind_apply, Apply.get_apply, Request.credential]
  cases running.device.check _ <;> rfl

end Http

namespace Credential

/-- A device decides on any credential by what it spells: nothing, its own key, another key or no
key. These are all the cases, and each has its own answer. -/
theorem check_decides (key : Key) (given : Option (List Char)) :
    (check key given = .error .missing ↔ given = none) ∧
    (∀ presented, check key given = .ok presented ↔
      presented = key ∧ ∃ text, given = some text ∧ key.Spelled text) ∧
    (check key given = .error .wrongKey ↔
      ∃ text other, given = some text ∧ other ≠ key ∧ Key.Spelled other text) ∧
    ((∃ cause, check key given = .error (.malformed cause)) ↔
      ∃ text, given = some text ∧ ∀ other : Key, ¬ other.Spelled text) ∧
    (isAccepted key given = true ↔ ∃ text, given = some text ∧ key.Spelled text) ∧
    (∀ device : Device, device.check given = check device.identity.authorizationKey given) ∧
    (∀ (running : Running) (request : Http.Request),
      Http.authorize request running =
        match check running.device.identity.authorizationKey request.credential with
        | .ok _ => .ok ⟨⟩ running
        | .error e => .error (.credential e) running) ∧
    {text | key.SpelledBase64 text}.ncard = 4 ∧
    (Http.credentialStatus .missing).code = 400 ∧
    CredentialError.missing.message = "Missing `x-api-key` header." ∧
    (Http.credentialStatus .wrongKey).code = 401 ∧
    (∀ cause, (Http.credentialStatus (.malformed cause)).code = 400 ∧
      (CredentialError.malformed cause).message = "Invalid API key") := by
  refine ⟨check_eq_missing_iff key given, fun presented => check_eq_ok_iff key presented given,
    check_eq_wrongKey_iff key given, check_eq_malformed_iff key given, isAccepted_iff key given,
    fun _ => rfl, fun running request => Http.authorize_apply request running,
    key.ncard_spelledBase64, rfl, rfl, rfl, fun _ => ⟨rfl, rfl⟩⟩

end Credential

end SmartDevice
