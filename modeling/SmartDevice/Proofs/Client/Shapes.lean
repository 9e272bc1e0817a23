import SmartDevice.Proofs.Client.Agreement
import SmartDevice.Proofs.Record.Reading

/-! # Calls and the shapes of answers

A call ends well if it gives what it promises, or fails in a way that callers are told to expect. It
does so after every answer that tells of a failure, unless the body is nested too deep to be read.
After one that tells of success it does so exactly if the body has the shape that the call looks
for. -/

namespace SmartDevice.Client

open Apply

variable {σ : Type} {call : Call} {reply : Reply} {body : Json} {field : String} {e : Error}

/-! ## Failures to expect -/

/-- What the transport reports and what is no JSON is no matter of any family, and neither is a body
that lacks a message or is nested too deep. -/
def Error.family? : Error → Option Family
  | .badKey _ => some .badCredential
  | .wrongKey _ => some .wrongCredential
  | .busy _ => some .busy
  | .unconfirmed _ => some .confirmation
  | .status .. => some .response
  | .excess (.digits _) => some .value
  | .record e => e.family?
  | .transport _ | .malformed _ | .excess (.nesting _) | .missing _ | .noFields => none

/-- The exchange failed, or what it brought is no JSON. -/
def Error.IsExchange : Error → Prop
  | .transport (.unreachable ..) | .transport (.broken ..) | .malformed _ => True
  | _ => False

/-- Whoever handles the errors of devices and those of the exchange handles the error. -/
def Error.IsExpected (e : Error) : Prop :=
  (∃ family, e.family? = some family ∧ Family.device ∈ family.ancestors) ∨ e.IsExchange

theorem Error.isExpected_of_family {family : Family} (h : e.family? = some family)
    (hdevice : Family.device ∈ family.ancestors) : e.IsExpected :=
  .inl ⟨family, h, hdevice⟩

theorem Error.not_isExpected_of_value (h : e.family? = some .value) (he : ¬ e.IsExchange) :
    ¬ e.IsExpected := by
  rintro (⟨family, hfamily, hdevice⟩ | hexchange)
  · obtain rfl : Family.value = family := Option.some.inj (h.symm.trans hfamily)
    exact absurd hdevice (by decide)
  · exact he hexchange

theorem Error.not_isExpected_of_none (h : e.family? = none) (he : ¬ e.IsExchange) :
    ¬ e.IsExpected := by
  rintro (⟨family, hfamily, -⟩ | hexchange)
  · exact absurd (h.symm.trans hfamily) nofun
  · exact he hexchange

theorem isExpected_refusal (status : ℤ) (said : Json) : (refusal status said).IsExpected := by
  unfold refusal
  split
  · split
    · exact Error.isExpected_of_family rfl (by decide)
    · exact Error.isExpected_of_family rfl (by decide)
  · exact Error.isExpected_of_family rfl (by decide)
  · exact Error.isExpected_of_family rfl (by decide)
  · exact Error.isExpected_of_family rfl (by decide)

/-- What a call makes of a failure is to be expected as much as the failure. -/
theorem isExpected_explains_iff (call : Call) (e : Error) :
    (call.explains e).IsExpected ↔ e.IsExpected := by
  have hunconfirmed : (asUnconfirmed e).IsExpected ↔ e.IsExpected := by
    unfold asUnconfirmed
    split
    · next said =>
        exact iff_of_true (Error.isExpected_of_family rfl (by decide))
          (Error.isExpected_of_family rfl (by decide))
    · rfl
  cases call with
  | factoryReset confirm => exact hunconfirmed
  | _ => rfl

/-! ## What calls give -/

/-- What a call promises to give. -/
def Call.Promises : Call → Answer → Prop
  | .deviceInfo, .body value => ∃ fields, value = .object fields
  | .configuration, .configuration _ => True
  | .setConfiguration _, .message text | .factoryReset _, .message text | .restart, .message text
  | .shutdown, .message text => ∃ words, text = .string words
  | _, _ => False

/-- The call gives what it promises or fails as is to be expected. -/
def Call.EndsWell (call : Call) : Except Error Answer → Prop
  | .ok answer => call.Promises answer
  | .error e => e.IsExpected

/-! ## What calls look for -/

/-- The shape of a body in which a call finds what it looks for. The key of a configuration may be
anything, since a bad key is a failure to expect. -/
def Call.Fits : Call → Json → Prop
  | .deviceInfo, body => ∃ fields, body = .object fields
  | .configuration, body =>
    (∃ name, body.field? "name" = some (.string name)) ∧ (body.field? "dht_shared_key").isSome
  | _, body => ∃ words, body.field? "message" = some (.string words)

theorem require_of_field? {value : Json} (h : body.field? field = some value) :
    Record.require field body = .ok value := by
  cases body with
  | object fields => exact Record.require_eq_ok_iff.mpr h
  | _ => cases h

theorem require_of_lacks (h : body.field? field = none) :
    ∃ e, Record.require field body = .error e ∧ ¬ (Error.record e).IsExpected := by
  cases body with
  | object fields =>
      have hlookup : fields.lookup ↑field = none := h
      refine ⟨.missing field, ?_, Error.not_isExpected_of_value rfl id⟩
      rw [Record.require, hlookup]
      rfl
  | array items =>
      refine ⟨_, rfl, ?_⟩
      split
      · exact Error.not_isExpected_of_none rfl id
      · exact Error.not_isExpected_of_value rfl id
  | string text =>
      refine ⟨_, rfl, ?_⟩
      split
      · exact Error.not_isExpected_of_none rfl id
      · exact Error.not_isExpected_of_value rfl id
  | _ => exact ⟨.noFields, rfl, Error.not_isExpected_of_none rfl id⟩

/-- A key that is none is a failure to expect. -/
theorem isExpected_of_requireKey {value : Json} {e : RecordError}
    (h : Record.requireKey value = .error e) : (Error.record e).IsExpected := by
  obtain ⟨family, hfamily, hvalue⟩ := RefusesValues.requireKey value e h
  refine Error.isExpected_of_family hfamily ?_
  cases e with
  | key cause =>
      cases cause <;> simp only [RecordError.family?, KeyError.family?, Option.some.injEq,
        reduceCtorEq] at hfamily <;> subst hfamily <;> decide
  | _ =>
      unfold Record.requireKey at h
      cases hkey : Key.ofJson value <;> rw [hkey] at h <;> cases h

theorem endsWell_configuration_iff (body : Json) :
    Call.EndsWell .configuration
        (match Config.ofJson body with
          | .ok config => .ok (.configuration (some config))
          | .error e => .error (.record e)) ↔
      Call.Fits .configuration body := by
  unfold Config.ofJson
  cases hname : body.field? "name" with
  | none =>
      obtain ⟨e, hrequire, he⟩ := require_of_lacks hname
      simp [hrequire, bind, Except.bind, Call.EndsWell, Call.Fits, hname, he]
  | some name =>
      cases hkey : body.field? "dht_shared_key" with
      | none =>
          obtain ⟨e, hrequire, he⟩ := require_of_lacks hkey
          simp [require_of_field? hname, hrequire, bind, Except.bind, Call.EndsWell, Call.Fits,
            hkey, he]
      | some key =>
          simp only [require_of_field? hname, require_of_field? hkey, bind, Except.bind, Call.Fits,
            hname, hkey, Option.isSome_some, and_true, Option.some.injEq]
          cases name with
          | string name =>
              simp only [Json.string.injEq, exists_eq', iff_true]
              cases hread : Record.requireKey key with
              | ok key => trivial
              | error e => exact isExpected_of_requireKey hread
          | _ =>
              simp only [reduceCtorEq, exists_false, iff_false]
              exact Error.not_isExpected_of_value rfl id

theorem messageOf_of_lacks (h : body.field? "message" = none) :
    ∃ e, messageOf body = .error e ∧ ¬ e.IsExpected := by
  cases body with
  | object fields =>
      have hlookup : fields.lookup ↑"message" = none := h
      refine ⟨.missing "message", ?_, Error.not_isExpected_of_none rfl id⟩
      rw [messageOf, hlookup]
      rfl
  | _ => exact ⟨.noFields, rfl, Error.not_isExpected_of_none rfl id⟩

theorem messageOf_of_field? {text : Json} (h : body.field? "message" = some text) :
    messageOf body = .ok text := by
  cases body with
  | object fields =>
      have hlookup : fields.lookup ↑"message" = some text := h
      rw [messageOf, hlookup]
      rfl
  | _ => cases h

/-- What changes the device gives a message. -/
theorem interpret_command (hcommand : call.isReading = false) (reply : Reply) :
    interpret call reply = .message <$> (check reply >>= messageOf).mapError call.explains := by
  cases call with
  | deviceInfo => cases hcommand
  | configuration => cases hcommand
  | factoryReset confirm => rfl
  | _ =>
      rw [interpret]
      cases check reply >>= messageOf <;> rfl

theorem promises_message_iff (hcommand : call.isReading = false) (text : Json) :
    call.Promises (.message text) ↔ ∃ words, text = .string words := by
  cases call with
  | deviceInfo => cases hcommand
  | configuration => cases hcommand
  | _ => rfl

theorem fits_message_iff (hcommand : call.isReading = false) :
    call.Fits body ↔ ∃ words, body.field? "message" = some (.string words) := by
  cases call with
  | deviceInfo => cases hcommand
  | configuration => cases hcommand
  | _ => rfl

theorem endsWell_message_iff (hcommand : call.isReading = false) (body : Json) :
    call.EndsWell (.message <$> (messageOf body).mapError call.explains) ↔ call.Fits body := by
  rw [fits_message_iff hcommand]
  cases hmessage : body.field? "message" with
  | none =>
      obtain ⟨e, hlacks, he⟩ := messageOf_of_lacks hmessage
      rw [hlacks]
      refine iff_of_false ?_ (by simp)
      exact fun hexplained => he ((isExpected_explains_iff _ _).mp hexplained)
  | some text =>
      rw [messageOf_of_field? hmessage]
      refine (promises_message_iff hcommand text).trans ?_
      simp

/-! ## Answers -/

theorem endsWell_of_success_iff (hstatus : reply.status = 200) (hjson : readJson reply = .ok body) :
    call.EndsWell (interpret call reply) ↔ call.Fits body := by
  have hcheck : check reply = .ok body := by
    rw [check, if_pos hstatus, hjson]
  have hcommand (h : call.isReading = false) :
      call.EndsWell (interpret call reply) ↔ call.Fits body := by
    rw [interpret_command h, hcheck]
    exact endsWell_message_iff h body
  cases call with
  | deviceInfo =>
      rw [interpret, hcheck]
      rfl
  | configuration =>
      have hne : reply.status ≠ 404 := by omega
      simp only [interpret, if_neg hne, hcheck, bind, Except.bind]
      exact endsWell_configuration_iff body
  | _ => exact hcommand rfl

theorem readJson_eq_error (h : readJson reply = .error e) :
    (∃ cause, e = .malformed cause) ∨ ∃ excess, e = .excess excess := by
  unfold readJson at h
  cases hread : Json.read (Text.Utf8.decodeLossy reply.body) with
  | ok value =>
      rw [hread] at h
      cases h
  | error fault =>
      rw [hread] at h
      cases fault with
      | malformed cause =>
          cases h
          exact .inl ⟨cause, rfl⟩
      | excess excess =>
          cases h
          exact .inr ⟨excess, rfl⟩

theorem not_isExpected_excess (excess : Json.Excess) : ¬ (Error.excess excess).IsExpected := by
  cases excess with
  | digits count => exact Error.not_isExpected_of_value rfl id
  | nesting container => exact Error.not_isExpected_of_none rfl id

/-! ## Descriptions -/

/-- The answer says in the usual place what went wrong. -/
def Reply.Says (reply : Reply) (said : Json) : Prop :=
  ∃ body fault, readJson reply = .ok body ∧ body.field? "error" = some fault ∧
    fault.field? "description" = some said

/-- A description of what went wrong: what the answer says of it, or else its whole text. -/
def Reply.Describes (reply : Reply) (said : Json) : Prop :=
  reply.Says said ∨
    (∀ other, ¬ reply.Says other) ∧
      said = .string (String.ofList (Text.Utf8.decodeLossy reply.body))

/-- The body of the answer is nested too deep to be read. -/
def Reply.IsDeep (reply : Reply) : Prop :=
  ∃ container, readJson reply = .error (.excess (.nesting container))

/-- An answer is described unless its body is nested too deep. -/
theorem description_cases (reply : Reply) :
    ¬ reply.IsDeep ∧ (∃ said, description reply = .ok said ∧ reply.Describes said) ∨
      ∃ container, readJson reply = .error (.excess (.nesting container)) ∧
        description reply = .error (.excess (.nesting container)) := by
  have htext (h : ∀ body, readJson reply ≠ .ok body) :
      reply.Describes (.string (String.ofList (Text.Utf8.decodeLossy reply.body))) :=
    .inr ⟨fun _ ⟨body, _, hbody, _⟩ => h body hbody, rfl⟩
  unfold description Reply.IsDeep
  cases hjson : readJson reply with
  | ok body =>
      refine .inl ⟨by simp, _, rfl, ?_⟩
      have htold (said : Json) : reply.Says said ↔
          ((body.field? "error").bind fun fault => fault.field? "description") = some said := by
        simp [Reply.Says, hjson, Option.bind_eq_some_iff]
      unfold Reply.Describes
      simp only [htold]
      cases (body.field? "error").bind fun fault => fault.field? "description" with
      | none => exact .inr ⟨nofun, rfl⟩
      | some said => exact .inl rfl
  | error e =>
      have hnone (body : Json) : readJson reply ≠ .ok body := by simp [hjson]
      rcases readJson_eq_error hjson with ⟨cause, rfl⟩ | ⟨digits | container, rfl⟩
      · exact .inl ⟨by simp, _, rfl, htext hnone⟩
      · exact .inl ⟨by simp, _, rfl, htext hnone⟩
      · exact .inr ⟨container, rfl, rfl⟩

/-! ## Answers that are welcome -/

/-- The call looks at the body of the answer. -/
def Call.Reads (call : Call) (reply : Reply) : Prop :=
  call = .configuration → reply.status ≠ 404

/-- An answer that tells of success has a body of the shape that the call looks for, or one that is
no JSON at all; a numeral that is too long is neither. No body that the call looks at is nested too
deep, whatever the answer tells of. -/
structure Call.Welcomes (call : Call) (reply : Reply) : Prop where
  shape : reply.status = 200 → ∀ body, readJson reply = .ok body → call.Fits body
  numerals : reply.status = 200 → ∀ count, readJson reply ≠ .error (.excess (.digits count))
  nesting : call.Reads reply → ¬ reply.IsDeep

/-- An answer that cannot be described comes to what is in the way of that. -/
theorem interpret_of_undescribed (hfailed : reply.status ≠ 200) (hreads : call.Reads reply)
    (hsaid : description reply = .error e) : interpret call reply = .error (call.explains e) := by
  refine interpret_of_unchecked hreads ?_
  rw [check, if_neg hfailed, hsaid]
  rfl

theorem endsWell_of_failure_iff (hfailed : reply.status ≠ 200) (hreads : call.Reads reply) :
    call.EndsWell (interpret call reply) ↔ ¬ reply.IsDeep := by
  rcases description_cases reply with ⟨hshallow, said, hsaid, -⟩ | ⟨container, hdeep, hsaid⟩
  · rw [interpret_of_refused hfailed hreads hsaid]
    exact iff_of_true ((isExpected_explains_iff _ _).mpr (isExpected_refusal _ _)) hshallow
  · rw [interpret_of_undescribed hfailed hreads hsaid]
    refine iff_of_false (fun h => ?_) (not_not.mpr ⟨container, hdeep⟩)
    exact not_isExpected_excess _ ((isExpected_explains_iff _ _).mp h)

theorem endsWell_interpret_iff (call : Call) (reply : Reply) :
    call.EndsWell (interpret call reply) ↔ call.Welcomes reply := by
  by_cases hreads : call.Reads reply
  · by_cases hstatus : reply.status = 200
    · cases hjson : readJson reply with
      | ok body =>
          rw [endsWell_of_success_iff hstatus hjson]
          refine ⟨fun hfits => ⟨fun _ other hother => ?_, by simp [hjson], ?_⟩,
            fun h => h.shape hstatus body hjson⟩
          · cases hjson.symm.trans hother
            exact hfits
          · simp [Reply.IsDeep, hjson]
      | error e =>
          have hcheck : check reply = .error e := by
            rw [check, if_pos hstatus, hjson]
          rw [interpret_of_unchecked hreads hcheck]
          refine (isExpected_explains_iff call e).trans ?_
          rcases readJson_eq_error hjson with ⟨cause, rfl⟩ | ⟨excess, rfl⟩
          · exact iff_of_true (.inr trivial)
              ⟨by simp [hjson], by simp [hjson], by simp [Reply.IsDeep, hjson]⟩
          · refine iff_of_false (not_isExpected_excess excess) fun h => ?_
            cases excess with
            | digits count => exact h.numerals hstatus count hjson
            | nesting container => exact h.nesting hreads ⟨container, hjson⟩
    · rw [endsWell_of_failure_iff hstatus hreads]
      exact ⟨fun h => ⟨fun h' => absurd h' hstatus, fun h' => absurd h' hstatus, fun _ => h⟩,
        fun h => h.nesting hreads⟩
  · obtain ⟨rfl, hnone⟩ : call = .configuration ∧ reply.status = 404 := by
      simpa [Call.Reads] using hreads
    have hstatus : reply.status ≠ 200 := by omega
    rw [interpret, if_pos hnone]
    exact iff_of_true trivial
      ⟨fun h => absurd h hstatus, fun h => absurd h hstatus, fun h => absurd h hreads⟩

/-! ## Calls -/

theorem answer_perform (client : Client) (transport : Transport σ) (call : Call)
    (session : Session σ) :
    answer (client.perform transport call) session =
      answer (client.send transport call) session >>= interpret call := by
  unfold answer perform
  rw [bind_apply]
  cases client.send transport call session with
  | error e after => rfl
  | ok reply after =>
      simp only [bind, Except.bind]
      cases interpret call reply <;> rfl

/-- A request that is not answered ends with the report of the transport. -/
theorem sendFrom_eq_error {client : Client} {transport : Transport σ} {number more : ℕ}
    {session after : Session σ} (h : client.sendFrom transport call number more session =
      .error e after) : ∃ fault, e = .transport fault := by
  induction more generalizing number session with
  | zero =>
      unfold sendFrom at h
      split at h
      · cases h
      · split at h
        · cases h
          exact ⟨_, rfl⟩
        · cases h
          exact ⟨_, rfl⟩
  | succ more ih =>
      unfold sendFrom at h
      split at h
      · cases h
      · split at h
        · cases h
          exact ⟨_, rfl⟩
        · exact ih h

/-- A call that is answered ends well exactly if it welcomes the answer. An answer that tells of a
failure is described, and makes the call fail with that description, unless it is nested too deep:
then the call fails with that. A call that is not answered ends with the report of the transport. -/
theorem calls_end_well_iff (client : Client) (transport : Transport σ) (call : Call)
    (session : Session σ) :
    (∀ reply after, client.send transport call session = .ok reply after →
      (call.EndsWell (answer (client.perform transport call) session) ↔ call.Welcomes reply) ∧
      (reply.status ≠ 200 → call.Reads reply →
        (∃ said, reply.Describes said ∧ answer (client.perform transport call) session =
          .error (call.explains (refusal reply.status said))) ∨
        ∃ container, readJson reply = .error (.excess (.nesting container)) ∧
          answer (client.perform transport call) session =
            .error (.excess (.nesting container)))) ∧
    ∀ e after, client.send transport call session = .error e after →
      answer (client.perform transport call) session = .error e ∧
        ∃ fault, e = .transport fault := by
  rw [answer_perform]
  refine ⟨fun reply after hsend => ?_, fun e after hsend => ⟨?_, sendFrom_eq_error hsend⟩⟩
  · have hanswer : (answer (client.send transport call) session >>= interpret call) =
        interpret call reply := by
      rw [answer, hsend]
      rfl
    rw [hanswer]
    refine ⟨endsWell_interpret_iff call reply, fun hfailed hreads => ?_⟩
    rcases description_cases reply with ⟨-, said, hsaid, hdescribes⟩ | ⟨container, hdeep, hsaid⟩
    · exact .inl ⟨said, hdescribes, interpret_of_refused hfailed hreads hsaid⟩
    · have hinterpret := interpret_of_undescribed hfailed hreads hsaid
      refine .inr ⟨container, hdeep, hinterpret.trans ?_⟩
      cases call <;> rfl
  · rw [answer, hsend]
    rfl

/-- A transport that has one answer to give. -/
def giving (reply : Reply) : Session Scripted where
  transport := { outcomes := [.ok reply] }

/-- An answer that tells of success, with the given JSON in it. -/
def success (value : Json) : Reply where
  status := 200
  body := Wire.jsonBytes value

theorem readJson_success {value : Json} (h : value.Lossless) :
    readJson (success value) = .ok value := by
  rw [readJson, success, Wire.jsonBytes, Text.Utf8.decodeLossy_encode, Json.read_print h]

theorem restart_welcomes_message :
    let reply := success (Http.okBody "System will now restart.")
    (∃ after, owner.send Scripted.transport .restart (giving reply) = .ok reply after) ∧
      Call.Welcomes .restart reply ∧
      Call.EndsWell .restart
        (answer (owner.perform Scripted.transport .restart) (giving reply)) := by
  intro reply
  have hjson := readJson_success (Http.lossless_okBody "System will now restart.")
  have hwelcomes : Call.Welcomes .restart reply := by
    refine ⟨fun _ body hbody => ?_, fun _ count hlong => ?_, fun _ ⟨container, hdeep⟩ => ?_⟩
    · obtain rfl := Except.ok.inj (hjson.symm.trans hbody)
      exact ⟨_, rfl⟩
    · cases hjson.symm.trans hlong
    · cases hjson.symm.trans hdeep
  have hends := (calls_end_well_iff owner Scripted.transport .restart (giving reply)).1 _ _ rfl
  exact ⟨⟨_, rfl⟩, hwelcomes, hends.1.mpr hwelcomes⟩

/-- A success that says nothing makes a command fail in a way that nobody expects. -/
theorem restart_misses_message :
    let result := answer (owner.perform Scripted.transport .restart)
      (giving (success (.object [])))
    result = .error (.missing "message") ∧ ¬ Call.EndsWell .restart result := by
  intro result
  have hempty : (Json.object []).Lossless := .object (by simp) (by simp)
  have hresult : result = .error (.missing "message") := by
    have hperform := answer_perform owner Scripted.transport .restart
      (giving (success (.object [])))
    have hinterpret : interpret .restart (success (.object [])) = .error (.missing "message") := by
      have hstatus : (success (.object [])).status = 200 := rfl
      rw [interpret_command rfl, check, if_pos hstatus, readJson_success hempty]
      rfl
    exact hperform.trans hinterpret
  rw [hresult]
  exact ⟨rfl, Error.not_isExpected_of_none rfl id⟩

end SmartDevice.Client
